import StreamIO.Pool.WakeUp

/-!
# Waiting for the pool

`thpool_wait` tests the length of the queue and the number of working threads
one after the other and sleeps in between.  It returns only when every work
that was added is finished, and it never sleeps without a thread left that
will signal it.
-/

namespace StreamIO.Pool

open StreamIO.Library

variable {count : Nat} {Work : Type}

/-- About to sleep in `thpool_wait`, or asleep there. -/
@[simp] def OwnerPc.waits : OwnerPc → Bool
  | .sleeping => true
  | .asleep => true
  | _ => false

namespace ThreadPool

/-- What `thpool_wait` has seen still holds. -/
structure Watched (pool : ThreadPool count Work) : Prop where
  pending : pool.owner.waits = true →
    pool.jobqueue.len ≠ 0 ∨ pool.numThreadsWorking ≠ 0
  emptied : pool.owner = .readingWorking → pool.jobqueue.len = 0
  destroyed : pool.owner = .destroyed → pool.jobqueue.len = 0

theorem watched_init : (thpoolInit : ThreadPool count Work).Watched := by
  constructor
  · intro waits
    cases waits
  · intro reading
    cases reading
  · intro destroyed
    cases destroyed

theorem Watched.of_same {pool next : ThreadPool count Work}
    (watched : pool.Watched) (owner : next.owner = pool.owner)
    (queue : next.jobqueue.len = pool.jobqueue.len)
    (working : pool.numThreadsWorking ≤ next.numThreadsWorking) :
    next.Watched := by
  constructor
  · rw [owner, queue]
    intro waits
    have before := watched.pending waits
    omega
  · rw [owner, queue]
    exact watched.emptied
  · rw [owner, queue]
    exact watched.destroyed

theorem not_sleeping {pool : ThreadPool count Work}
    (free : ¬pool.CountLocked) : pool.owner ≠ .sleeping := by
  intro sleeping
  apply free
  left
  rw [sleeping]
  rfl

theorem Watched.pull {pool next : ThreadPool count Work}
    {index : Fin count} {jobs : List JobPtr} (watched : pool.Watched)
    (counted : pool.Counted) (stocked : pool.Stocked jobs)
    (pc : pool.thread index = .pulling) {pulled : Pulled}
    (isPulled : pool.jobqueue.jobqueuePull pool.heap = some pulled)
    (owner : next.owner = pool.owner)
    (queue : next.jobqueue = pulled.jobqueue)
    (working : next.numThreadsWorking = pool.numThreadsWorking) :
    next.Watched := by
  have works := counted.working_pos index (by rw [pc]; rfl)
  have shorter := stocked.pull_len isPulled
  rw [← queue] at shorter
  constructor
  · intro _
    right
    omega
  · rw [owner]
    intro reading
    have before := watched.emptied reading
    omega
  · rw [owner]
    intro destroyed
    have before := watched.destroyed destroyed
    omega

theorem Watched.threadStep {pool next : ThreadPool count Work}
    {index : Fin count} {jobs : List JobPtr} (watched : pool.Watched)
    (counted : pool.Counted) (stocked : pool.Stocked jobs)
    (step : ThreadStep pool index next) : next.Watched := by
  cases step with
  | start _ _ => exact watched.of_same rfl rfl (Nat.le_refl _)
  | enter _ _ => exact watched.of_same rfl rfl (Nat.le_refl _)
  | leave _ _ => exact watched.of_same rfl rfl (Nat.le_refl _)
  | take _ _ => exact watched.of_same rfl rfl (Nat.le_refl _)
  | sleep _ _ => exact watched.of_same rfl rfl (Nat.le_refl _)
  | proceed _ _ => exact watched.of_same rfl rfl (Nat.le_refl _)
  | abandon _ _ => exact watched.of_same rfl rfl (Nat.le_refl _)
  | countUp _ _ => exact watched.of_same rfl rfl (Nat.le_succ _)
  | pull pc _ isPulled =>
      exact watched.pull counted stocked pc isPulled rfl rfl rfl
  | post _ _ => exact watched.of_same rfl rfl (Nat.le_refl _)
  | nothing _ => exact watched.of_same rfl rfl (Nat.le_refl _)
  | call _ _ => exact watched.of_same rfl rfl (Nat.le_refl _)
  | finish _ _ => exact watched.of_same rfl rfl (Nat.le_refl _)
  | countDown _ _ others =>
      constructor
      · intro _
        exact Or.inr others
      · exact watched.emptied
      · exact watched.destroyed
  | countOut _ free _ =>
      have awake := not_sleeping free
      by_cases asleep : pool.owner = .asleep
      · constructor
        · simp [setThread, asleep]
        · simp [setThread, asleep]
        · simp [setThread, asleep]
      · constructor
        · intro waits
          cases pc : pool.owner <;> simp_all [setThread]
        · simpa [setThread, asleep] using watched.emptied
        · simpa [setThread, asleep] using watched.destroyed
  | exit _ _ => exact watched.of_same rfl rfl (Nat.le_refl _)
  | unlock _ => exact watched.of_same rfl rfl (Nat.le_refl _)

theorem watched_of_idle {pool : ThreadPool count Work}
    (waits : pool.owner.waits = false)
    (reading : pool.owner ≠ .readingWorking)
    (destroyed : pool.owner ≠ .destroyed) : pool.Watched := by
  constructor
  · intro now
    rw [waits] at now
    cases now
  · intro now
    exact (reading now).elim
  · intro now
    exact (destroyed now).elim

theorem Watched.ownerStep {pool next : ThreadPool count Work}
    (watched : pool.Watched) (step : OwnerStep pool next) :
    next.Watched := by
  cases step with
  | started _ _ =>
      exact watched_of_idle rfl OwnerPc.noConfusion OwnerPc.noConfusion
  | post _ _ =>
      exact watched_of_idle rfl OwnerPc.noConfusion OwnerPc.noConfusion
  | lock _ _ =>
      exact watched_of_idle rfl OwnerPc.noConfusion OwnerPc.noConfusion
  | noJobs _ empty =>
      constructor
      · intro waits
        cases waits
      · intro _
        exact empty
      · intro destroyed
        cases destroyed
  | someJobs _ queued =>
      constructor
      · intro _
        exact Or.inl queued
      · intro reading
        cases reading
      · intro destroyed
        cases destroyed
  | nobodyWorks _ _ =>
      exact watched_of_idle rfl OwnerPc.noConfusion OwnerPc.noConfusion
  | somebodyWorks _ working =>
      constructor
      · intro _
        exact Or.inr working
      · intro reading
        cases reading
      · intro destroyed
        cases destroyed
  | sleep pc =>
      constructor
      · intro _
        exact watched.pending (by rw [pc]; rfl)
      · intro reading
        cases reading
      · intro destroyed
        cases destroyed
  | nobodyAlive _ _ =>
      exact watched_of_idle rfl OwnerPc.noConfusion OwnerPc.noConfusion
  | postAll pc _ =>
      exact watched.of_same rfl rfl (Nat.le_refl _)
  | @clear pulled heap signalled pc _ _ _ _ =>
      cases posts : pulled.posts with
      | true => apply watched_of_idle <;> simp [ThreadPool.bsemPost, pc]
      | false => apply watched_of_idle <;> simp [pc]
  | cleared _ _ =>
      constructor
      · intro waits
        cases waits
      · intro reading
        cases reading
      · intro _
        rfl

theorem Watched.step {pool next : ThreadPool count Work}
    {event : PoolEvent count Work} (watched : pool.Watched)
    (sound : pool.Sound)
    (step : (poolSystem count Work).step pool event next) :
    next.Watched := by
  obtain ⟨enabled, moved⟩ := step
  obtain ⟨jobs, stocked⟩ := sound.stocked
  cases event with
  | thread index signalled =>
      exact watched.threadStep sound.counted stocked
        (threadDo_step enabled moved)
  | owner signalled => exact watched.ownerStep (ownerDo_step enabled moved)
  | wakeThread index =>
      rw [← Option.some.inj moved]
      exact watched.of_same rfl rfl (Nat.le_refl _)
  | wakeOwner =>
      rw [← Option.some.inj moved]
      exact watched_of_idle rfl OwnerPc.noConfusion OwnerPc.noConfusion
  | addWork newjob job =>
      obtain ⟨pushed, _, moved⟩ := Option.bind_eq_some_iff.mp moved
      rw [← Option.some.inj moved]
      exact watched_of_idle rfl OwnerPc.noConfusion OwnerPc.noConfusion
  | wait =>
      rw [← Option.some.inj moved]
      exact watched_of_idle rfl OwnerPc.noConfusion OwnerPc.noConfusion
  | destroy =>
      rw [← Option.some.inj moved]
      exact watched_of_idle rfl OwnerPc.noConfusion OwnerPc.noConfusion

theorem Reached.watched {pool : ThreadPool count Work}
    (reached : pool.Reached) : pool.Watched := by
  have both : pool.Sound ∧ pool.Watched := by
    apply reached.invariant (fun pool => pool.Sound ∧ pool.Watched)
    · exact ⟨sound_init, watched_init⟩
    · rintro state event next ⟨sound, watched⟩ step
      exact ⟨sound.step step, watched.step sound step⟩
  exact both.2

theorem Counted.hands_empty {pool : ThreadPool count Work}
    (counted : pool.Counted) (idle : pool.numThreadsWorking = 0)
    (index : Fin count) : pool.hand index = none := by
  rw [counted.working, tally_eq_zero] at idle
  have mine := idle index
  unfold hand
  cases pc : pool.thread index <;> simp_all [ThreadPc.job]

/-- With an empty queue everything that was added was pulled. -/
theorem Stocked.added_eq_taken {pool : ThreadPool count Work}
    {jobs : List JobPtr} (stocked : pool.Stocked jobs)
    (empty : pool.jobqueue.len = 0)
    (uncleared : pool.owner.aloneInPool = false) :
    pool.added = pool.taken := by
  have order := stocked.order
  rw [stocked.jobs_eq_nil empty, stocked.unclear uncleared,
    List.append_nil] at order
  exact order.trans (List.append_nil _)

/-- All works are finished once none is queued and nobody works. -/
theorem Stocked.all_finished {pool : ThreadPool count Work}
    {jobs : List JobPtr} (stocked : pool.Stocked jobs)
    (counted : pool.Counted) (empty : pool.jobqueue.len = 0)
    (idle : pool.numThreadsWorking = 0)
    (uncleared : pool.owner.aloneInPool = false) :
    pool.finished.Perm pool.added := by
  rw [stocked.added_eq_taken empty uncleared]
  exact stocked.finished_perm (counted.hands_empty idle)

/-- `thpool_wait` returns only when every work added before is finished. -/
theorem wait_returns_finished {pool next : ThreadPool count Work}
    (reached : pool.Reached) (waiting : pool.owner = .readingWorking)
    {signalled : Option (Fin count)}
    (step : (poolSystem count Work).step pool (.owner signalled) next)
    (returns : next.owner = .outside) :
    next.finished.Perm next.added ∧ next.jobqueue.len = 0 ∧
      ∀ index, next.hand index = none := by
  obtain ⟨_, moved⟩ := step
  obtain ⟨jobs, stocked⟩ := reached.sound.stocked
  have counted := reached.sound.counted
  have empty := reached.watched.emptied waiting
  have moved : some { pool with
      owner := if pool.numThreadsWorking = 0 then .outside
        else .sleeping } = some next := by
    rw [← moved]
    change _ = pool.ownerDo signalled
    rw [ownerDo, waiting]
  rw [← Option.some.inj moved] at returns ⊢
  by_cases idle : pool.numThreadsWorking = 0
  · refine ⟨?_, empty, ?_⟩
    · exact stocked.all_finished counted empty idle (by rw [waiting]; rfl)
    · exact counted.hands_empty idle
  · rw [if_neg idle] at returns
    cases returns

/-- The work is done, and the owner waits for it. -/
def waitingSteps : List (PoolEvent 2 Nat) :=
  firstSteps ++
    [.thread worker none, .thread worker none, .thread worker none,
      .thread worker none, .thread worker none, .thread worker none,
      .thread worker none, .wait, .owner none, .owner none]

theorem wait_returns_finished_run :
    ∃ next : ThreadPool 2 Nat, next.added = [100] ∧
      next.finished.Perm next.added ∧ next.jobqueue.len = 0 ∧
        ∀ index, next.hand index = none := by
  have step : (poolSystem 2 Nat).step (after waitingSteps) (.owner none)
      { after waitingSteps with owner := .outside } :=
    ⟨by decide +kernel, by rfl⟩
  exact ⟨_, by decide +kernel,
    wait_returns_finished (reached_after waitingSteps)
      (by decide +kernel) step rfl⟩

end ThreadPool

end StreamIO.Pool
