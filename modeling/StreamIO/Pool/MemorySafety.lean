import StreamIO.Pool.Waiting

/-!
# No step of the pool goes wrong

The steps of the pool follow the pointers of the queue and free jobs.  None of
them meets `NULL` or a job that was freed before.
-/

namespace StreamIO.Pool

open StreamIO.Library

variable {count : Nat} {Work : Type}

namespace ThreadPool

theorem freeJob_isSome {heap : JobHeap Work} {job : Option JobPtr}
    (live : ∀ held, job = some held → (heap held).isSome) :
    (freeJob heap job).isSome := by
  cases job with
  | none => rfl
  | some job =>
      obtain ⟨found, isFound⟩ :=
        Option.isSome_iff_exists.mp (live job rfl)
      rw [freeJob, isFound]
      rfl

theorem Stocked.thread_canMove {pool : ThreadPool count Work}
    {jobs : List JobPtr} (stocked : pool.Stocked jobs)
    (index : Fin count) (signalled : Option (Fin count)) :
    (pool.threadDo index signalled).isSome := by
  cases pc : pool.thread index with
  | pulling =>
      obtain ⟨pulled, found, _⟩ := stocked.chains.pull
      simp [threadDo, pc, found]
  | pulled job =>
      cases job with
      | none => simp [threadDo, pc]
      | some job =>
          have live := (stocked.placed.held index job
            (by rw [hand, pc]; rfl)).2
          obtain ⟨found, isFound⟩ := Option.isSome_iff_exists.mp live
          simp [threadDo, pc, isFound]
  | running job work =>
      have live := (stocked.placed.held index job
        (by rw [hand, pc]; rfl)).2
      obtain ⟨found, isFound⟩ := Option.isSome_iff_exists.mp live
      simp [threadDo, pc, freeJob, isFound]
  | starting => simp [threadDo, pc]
  | looping => simp [threadDo, pc]
  | testing => simp [threadDo, pc]
  | asleep => simp [threadDo, pc]
  | woken => simp [threadDo, pc]
  | countingUp => simp [threadDo, pc]
  | posting job => simp [threadDo, pc]
  | countingDown => simp [threadDo, pc]
  | exiting => simp [threadDo, pc]
  | unlocking => simp [threadDo, pc]
  | exited => simp [threadDo, pc]

theorem Stocked.owner_canMove {pool : ThreadPool count Work}
    {jobs : List JobPtr} (stocked : pool.Stocked jobs)
    (signalled : Option (Fin count)) :
    (pool.ownerDo signalled).isSome := by
  cases pc : pool.owner with
  | clearing =>
      obtain ⟨pulled, found, front, _⟩ := stocked.chains.pull
      have live : ∀ held, pulled.job = some held →
          (pool.heap held).isSome := by
        intro held isHeld
        rw [front] at isHeld
        exact stocked.chains.allocated held (List.mem_of_head? isHeld)
      obtain ⟨heap, freed⟩ :=
        Option.isSome_iff_exists.mp (freeJob_isSome live)
      by_cases empty : pool.jobqueue.len = 0
      · simp [ownerDo, pc, empty]
      · simp [ownerDo, pc, empty, found, freed]
  | starting => simp [ownerDo, pc]
  | outside => simp [ownerDo, pc]
  | posting => simp [ownerDo, pc]
  | locking => simp [ownerDo, pc]
  | readingLen => simp [ownerDo, pc]
  | readingWorking => simp [ownerDo, pc]
  | sleeping => simp [ownerDo, pc]
  | asleep => simp [ownerDo, pc]
  | destroying => simp [ownerDo, pc]
  | destroyed => simp [ownerDo, pc]

theorem Stocked.addWork_canMove {pool : ThreadPool count Work}
    {jobs : List JobPtr} (stocked : pool.Stocked jobs) {newjob : JobPtr}
    (fresh : pool.heap newjob = none) (job : Job Work) :
    (pool.thpoolAddWork newjob job).isSome := by
  have apart := stocked.chains.fresh_not_mem fresh
  have chained := stocked.chains.update apart (some job)
  obtain ⟨heap, queue, pushed, _⟩ :=
    chained.push (by rw [Function.update_self]; rfl) apart
  rw [thpoolAddWork, pushed]
  rfl

/-- The woken thread has called the function of the work. -/
def startedSteps : List (PoolEvent 2 Nat) :=
  firstSteps ++
    [.thread worker none, .thread worker none, .thread worker none,
      .thread worker none, .thread worker none]

/-- No step that a party can take in a reachable state follows a pointer that
is `NULL` or freed, or frees a job twice. -/
theorem no_fault {pool : ThreadPool count Work} (reached : pool.Reached)
    {event : PoolEvent count Work} (enabled : pool.Enabled event) :
    (pool.move event).isSome := by
  obtain ⟨jobs, stocked⟩ := reached.sound.stocked
  cases event with
  | thread index signalled => exact stocked.thread_canMove index signalled
  | wakeThread index => rfl
  | owner signalled => exact stocked.owner_canMove signalled
  | wakeOwner => rfl
  | addWork newjob job => exact stocked.addWork_canMove enabled.2.1 job
  | wait => rfl
  | destroy => rfl

theorem no_fault_run :
    ∃ pool : ThreadPool 2 Nat, pool.thread 1 = .running 7 100 ∧
      (pool.move (.thread 1 none)).isSome :=
  ⟨after startedSteps,
    by decide +kernel, no_fault (reached_after _) (by decide +kernel)⟩

/-- Every allocated job is in the queue or in the hands of one thread; the
works were pulled in the order in which they were added, and each one that was
pulled is finished or in somebody's hands. -/
theorem works_accounted {pool : ThreadPool count Work}
    (reached : pool.Reached) :
    ∃ jobs, pool.jobqueue.Chains pool.heap jobs ∧
      Placed pool.heap jobs pool.hand ∧
      pool.added =
        pool.taken ++ pool.cleared ++ worksOf pool.heap jobs ∧
      (pool.taken : Multiset Work) =
        pool.finished + tally (inHand pool.heap) pool.hand := by
  obtain ⟨jobs, stocked⟩ := reached.sound.stocked
  exact ⟨jobs, stocked.chains, stocked.placed, stocked.order,
    stocked.conserved⟩

theorem works_accounted_run :
    ∃ pool : ThreadPool 2 Nat, pool.taken = [100] ∧
      ∃ jobs, pool.jobqueue.Chains pool.heap jobs ∧
        Placed pool.heap jobs pool.hand ∧
        pool.added =
          pool.taken ++ pool.cleared ++ worksOf pool.heap jobs ∧
        (pool.taken : Multiset Nat) =
          pool.finished + tally (inHand pool.heap) pool.hand :=
  ⟨after startedSteps,
    by decide +kernel, works_accounted (reached_after _)⟩

theorem workingWeight_le (pc : ThreadPc Work) :
    pc.workingWeight ≤ pc.aliveWeight := by
  cases pc <;> simp

theorem aliveWeight_le (pc : ThreadPc Work) : pc.aliveWeight ≤ 1 := by
  cases pc <;> simp

/-- The counters are the numbers of threads between the points where they are
changed, whatever the order of the steps; neither is decremented at zero, and
each of the two locks is kept by one party at most. -/
theorem counters_exact {pool : ThreadPool count Work}
    (reached : pool.Reached) :
    pool.numThreadsAlive = tally ThreadPc.aliveWeight pool.thread ∧
      pool.numThreadsWorking = tally ThreadPc.workingWeight pool.thread ∧
      pool.numThreadsWorking ≤ pool.numThreadsAlive ∧
      pool.numThreadsAlive ≤ count ∧
      (∀ index, pool.thread index = .countingDown →
        0 < pool.numThreadsWorking) ∧
      (∀ index, pool.thread index = .exiting → 0 < pool.numThreadsAlive) ∧
      pool.owner.holdsCount.toNat +
        tally ThreadPc.countLockWeight pool.thread ≤ 1 ∧
      pool.owner.holdsQueue.toNat +
        tally ThreadPc.queueLockWeight pool.thread ≤ 1 := by
  have counted := reached.sound.counted
  refine ⟨counted.alive, counted.working, ?_, ?_, ?_, ?_,
    counted.countLock, counted.queueLock⟩
  · rw [counted.working, counted.alive]
    exact Finset.sum_le_sum fun index _ => workingWeight_le _
  · have bounded : tally ThreadPc.aliveWeight pool.thread ≤
        Fintype.card (Fin count) := tally_le_card aliveWeight_le
    rw [Fintype.card_fin] at bounded
    exact counted.alive.trans_le bounded
  · intro index counting
    apply counted.working_pos index
    rw [counting]
    rfl
  · intro index exiting
    apply counted.alive_pos index
    rw [exiting]
    rfl

theorem counters_exact_run :
    ∃ pool : ThreadPool 2 Nat, pool.thread 1 = .running 7 100 ∧
      pool.numThreadsAlive = tally ThreadPc.aliveWeight pool.thread ∧
      pool.numThreadsWorking =
        tally ThreadPc.workingWeight pool.thread ∧
      pool.numThreadsWorking ≤ pool.numThreadsAlive ∧
      pool.numThreadsAlive ≤ 2 ∧
      (∀ index, pool.thread index = .countingDown →
        0 < pool.numThreadsWorking) ∧
      (∀ index, pool.thread index = .exiting →
        0 < pool.numThreadsAlive) ∧
      pool.owner.holdsCount.toNat +
        tally ThreadPc.countLockWeight pool.thread ≤ 1 ∧
      pool.owner.holdsQueue.toNat +
        tally ThreadPc.queueLockWeight pool.thread ≤ 1 :=
  ⟨after startedSteps, by decide +kernel,
    counters_exact (reached_after startedSteps)⟩

end ThreadPool

end StreamIO.Pool
