import StreamIO.Pool.MemorySafety

/-!
# The pool comes to rest

When nobody adds work any more and no condition variable wakes a sleeper
without a signal, every step lowers a measure.  Where no step is left, every
work is finished and a call of `thpool_wait` has returned.
-/

namespace StreamIO.Pool

open StreamIO.Library

variable {count : Nat} {Work : Type}

/-- How far a thread can get before it sleeps. -/
@[simp] def ThreadPc.stepsLeft : ThreadPc Work → Nat
  | .starting => 4
  | .looping => 3
  | .testing => 1
  | .asleep => 0
  | .woken => 13
  | .countingUp => 12
  | .pulling => 11
  | .posting _ => 25
  | .pulled _ => 10
  | .running _ _ => 9
  | .countingDown => 8
  | .exiting => 2
  | .unlocking => 1
  | .exited => 0

/-- How far the owner can get by itself. -/
@[simp] def OwnerPc.stepsLeft : OwnerPc → Nat
  | .starting => 1
  | .outside => 0
  | .posting => 15
  | .locking => 4
  | .readingLen => 3
  | .readingWorking => 2
  | .sleeping => 1
  | .asleep => 0
  | .destroying => 2
  | .clearing => 1
  | .destroyed => 0

namespace ThreadPool

/-- A queued job pays for the post that follows its pull, a posted semaphore
for the thread that takes it. -/
def stepsLeft (pool : ThreadPool count Work) : Nat :=
  15 * pool.jobqueue.len + 13 * pool.hasJobs.toNat +
    tally ThreadPc.stepsLeft pool.thread + pool.owner.stepsLeft

theorem stepsLeft_bsemPost {pool : ThreadPool count Work}
    {signalled : Option (Fin count)} (signals : pool.Signals signalled) :
    (pool.bsemPost signalled).stepsLeft ≤ pool.stepsLeft + 14 := by
  have moved := tally_signal signals ThreadPc.stepsLeft
  have atMostOne : signalled.toList.length ≤ 1 := by
    cases signalled <;> simp
  simp only [ThreadPc.stepsLeft] at moved
  simp only [stepsLeft, ThreadPool.bsemPost, Bool.toNat_true]
  omega

theorem stepsLeft_moveThread {pool next : ThreadPool count Work}
    {index : Fin count} {pc : ThreadPc Work}
    (thread : next.thread = Function.update pool.thread index pc)
    (queue : next.jobqueue = pool.jobqueue)
    (lowered : 13 * next.hasJobs.toNat + pc.stepsLeft +
        next.owner.stepsLeft <
      13 * pool.hasJobs.toNat + (pool.thread index).stepsLeft +
        pool.owner.stepsLeft) :
    next.stepsLeft < pool.stepsLeft := by
  have moved := tally_update ThreadPc.stepsLeft pool.thread index pc
  rw [← thread] at moved
  simp only [stepsLeft, queue]
  omega

theorem Stocked.thread_lowers {pool next : ThreadPool count Work}
    {index : Fin count} {jobs : List JobPtr} (stocked : pool.Stocked jobs)
    (step : ThreadStep pool index next) :
    next.stepsLeft < pool.stepsLeft := by
  cases step with
  | start pc _ => exact stepsLeft_moveThread rfl rfl (by simp [setThread, pc])
  | enter pc _ => exact stepsLeft_moveThread rfl rfl (by simp [setThread, pc])
  | leave pc _ => exact stepsLeft_moveThread rfl rfl (by simp [setThread, pc])
  | take pc posted =>
      exact stepsLeft_moveThread rfl rfl (by simp [setThread, pc, posted])
  | sleep pc _ => exact stepsLeft_moveThread rfl rfl (by simp [setThread, pc])
  | proceed pc _ =>
      exact stepsLeft_moveThread rfl rfl (by simp [setThread, pc])
  | abandon pc _ =>
      exact stepsLeft_moveThread rfl rfl (by simp [setThread, pc])
  | countUp pc _ =>
      exact stepsLeft_moveThread rfl rfl (by simp [setThread, pc])
  | @pull pulled pc _ isPulled =>
      obtain ⟨result, found, _, chains, posts⟩ := stocked.chains.pull
      rw [isPulled, Option.some.injEq] at found
      subst result
      have moved := tally_update ThreadPc.stepsLeft pool.thread index
        (if pulled.posts then .posting pulled.job else .pulled pulled.job)
      have shorter := chains.len
      have before := stocked.chains.len
      rw [List.length_tail] at shorter
      rw [pc] at moved
      cases postsNow : pulled.posts with
      | true =>
          have several := posts.mp postsNow
          simp only [postsNow, if_true, ThreadPc.stepsLeft] at moved
          simp only [stepsLeft, setThread, if_true]
          omega
      | false =>
          simp only [postsNow, Bool.false_eq_true, if_false,
            ThreadPc.stepsLeft] at moved
          simp only [stepsLeft, setThread, Bool.false_eq_true, if_false]
          omega
  | @post job signalled pc signals =>
      have posted := posting_index pc signals
      have raised := stepsLeft_bsemPost signals
      have moved := tally_update ThreadPc.stepsLeft
        (pool.bsemPost signalled).thread index (.pulled job)
      rw [posted] at moved
      simp only [ThreadPc.stepsLeft] at moved
      simp only [stepsLeft, setThread] at raised ⊢
      omega
  | nothing pc => exact stepsLeft_moveThread rfl rfl (by simp [setThread, pc])
  | call pc _ => exact stepsLeft_moveThread rfl rfl (by simp [setThread, pc])
  | finish pc _ =>
      exact stepsLeft_moveThread rfl rfl (by simp [setThread, pc])
  | countDown pc _ _ =>
      exact stepsLeft_moveThread rfl rfl (by simp [setThread, pc])
  | countOut pc _ _ =>
      refine stepsLeft_moveThread rfl rfl ?_
      by_cases asleep : pool.owner = .asleep
      · simp [setThread, pc, asleep]
      · simp [setThread, pc, asleep]
  | exit pc _ => exact stepsLeft_moveThread rfl rfl (by simp [setThread, pc])
  | unlock pc => exact stepsLeft_moveThread rfl rfl (by simp [setThread, pc])

/-- The owner's steps outside of `thpool_destroy`. -/
theorem owner_lowers {pool next : ThreadPool count Work}
    (staying : pool.owner.destroys = false) (step : OwnerStep pool next) :
    next.stepsLeft < pool.stepsLeft := by
  cases step with
  | started pc _ => simp [stepsLeft, pc]
  | post pc signals =>
      have raised := stepsLeft_bsemPost signals
      simp only [stepsLeft, ThreadPool.bsemPost, pc, OwnerPc.stepsLeft]
        at raised ⊢
      omega
  | lock pc _ => simp [stepsLeft, pc]
  | noJobs pc _ => simp [stepsLeft, pc]
  | someJobs pc _ => simp [stepsLeft, pc]
  | nobodyWorks pc _ => simp [stepsLeft, pc]
  | somebodyWorks pc _ => simp [stepsLeft, pc]
  | sleep pc => simp [stepsLeft, pc]
  | nobodyAlive pc _ => simp [pc] at staying
  | postAll pc _ => simp [pc] at staying
  | clear pc => simp [pc] at staying
  | cleared pc => simp [pc] at staying

end ThreadPool

/-- The thread does a work that never ends. -/
def ThreadPool.RunsEndless (endless : Work → Prop)
    (pool : ThreadPool count Work) (index : Fin count) : Prop :=
  ∃ job work, pool.thread index = .running job work ∧ endless work

/-- A step of a thread or of the owner inside a function of the pool; the
thread does not do a work that never ends. -/
def PoolEvent.Internal (endless : Work → Prop)
    (pool : ThreadPool count Work) : PoolEvent count Work → Prop
  | .thread index _ => ¬pool.RunsEndless endless index
  | .owner _ => True
  | _ => False

/-- The pool left to itself. -/
def settling (count : Nat) (endless : Work → Prop) :
    TransitionSystem (ThreadPool count Work) (PoolEvent count Work) where
  step pool event next :=
    event.Internal endless pool ∧ (poolSystem count Work).step pool event next

namespace ThreadPool

/-- Reached, not destroyed, and the works that were added are these. -/
structure Serving (pool : ThreadPool count Work) (added : List Work) :
    Prop where
  sound : pool.Sound
  watched : pool.Watched
  alive : pool.threadsKeepalive = true
  added : pool.added = added

theorem Serving.step {pool next : ThreadPool count Work}
    {event : PoolEvent count Work} {added : List Work}
    (serving : pool.Serving added)
    {endless : Work → Prop}
    (step : (settling count endless).step pool event next) :
    next.Serving added := by
  obtain ⟨isInternal, step⟩ := step
  have sound := serving.sound.step step
  have watched := serving.watched.step serving.sound step
  obtain ⟨enabled, moved⟩ := step
  have staying := serving.sound.counted.not_destroying serving.alive
  cases event with
  | thread index signalled =>
      have threadStep := threadDo_step enabled moved
      refine { sound := sound, watched := watched, alive := ?_, added := ?_ }
      · cases threadStep <;> exact serving.alive
      · cases threadStep <;> exact serving.added
  | owner signalled =>
      have ownerStep := ownerDo_step enabled moved
      refine { sound := sound, watched := watched, alive := ?_, added := ?_ }
      · cases ownerStep with
        | clear pc => simp [pc] at staying
        | _ => exact serving.alive
      · cases ownerStep with
        | clear pc => simp [pc] at staying
        | _ => exact serving.added
  | wakeThread index => exact isInternal.elim
  | wakeOwner => exact isInternal.elim
  | addWork newjob job => exact isInternal.elim
  | wait => exact isInternal.elim
  | destroy => exact isInternal.elim

theorem Serving.lowers {pool next : ThreadPool count Work}
    {event : PoolEvent count Work} {added : List Work}
    (serving : pool.Serving added)
    {endless : Work → Prop}
    (step : (settling count endless).step pool event next) :
    next.stepsLeft < pool.stepsLeft := by
  obtain ⟨isInternal, enabled, moved⟩ := step
  obtain ⟨jobs, stocked⟩ := serving.sound.stocked
  cases event with
  | thread index signalled =>
      exact stocked.thread_lowers (threadDo_step enabled moved)
  | owner signalled =>
      exact owner_lowers
        (serving.sound.counted.not_destroying serving.alive)
        (ownerDo_step enabled moved)
  | wakeThread index => exact isInternal.elim
  | wakeOwner => exact isInternal.elim
  | addWork newjob job => exact isInternal.elim
  | wait => exact isInternal.elim
  | destroy => exact isInternal.elim

theorem exists_signals (pool : ThreadPool count Work) :
    ∃ signalled, pool.Signals signalled := by
  by_cases sleeps : ∃ index, (pool.thread index).isAsleep = true
  · obtain ⟨sleeper, asleep⟩ := sleeps
    exact ⟨some sleeper, asleep⟩
  · refine ⟨none, ?_⟩
    intro index
    rw [not_exists] at sleeps
    exact Bool.eq_false_iff.mpr (sleeps index)

/-- Nobody can move but the works that never end. -/
structure AtRest (endless : Work → Prop) (pool : ThreadPool count Work) :
    Prop where
  thread : ∀ index signalled, pool.ThreadReady index signalled →
    pool.RunsEndless endless index
  owner : ∀ signalled, ¬pool.OwnerReady signalled

variable {endless : Work → Prop}

theorem Stocked.atRest {pool : ThreadPool count Work}
    {jobs : List JobPtr} (stocked : pool.Stocked jobs)
    (stuck : (settling count endless).Stuck pool) : pool.AtRest endless := by
  constructor
  · intro index signalled ready
    by_contra ends
    obtain ⟨next, moved⟩ := Option.isSome_iff_exists.mp
      (stocked.thread_canMove index signalled)
    exact stuck (.thread index signalled) next ⟨ends, ready, moved⟩
  · intro signalled ready
    obtain ⟨next, moved⟩ := Option.isSome_iff_exists.mp
      (stocked.owner_canMove signalled)
    exact stuck (.owner signalled) next ⟨trivial, ready, moved⟩

theorem AtRest.count_free {pool : ThreadPool count Work}
    (rest : pool.AtRest endless) : ¬pool.CountLocked := by
  rintro (held | ⟨index, held⟩)
  · apply rest.owner none
    unfold OwnerReady OwnerPcReady
    cases pc : pool.owner <;> simp_all [OwnerPc.holdsCount]
  · have unlocking : pool.thread index = .unlocking := by
      cases pc : pool.thread index <;> simp_all [ThreadPc.holdsCount]
    obtain ⟨job, work, running, _⟩ := rest.thread index none
      (by rw [ThreadReady, unlocking]; trivial)
    rw [unlocking] at running
    cases running

theorem AtRest.queue_free {pool : ThreadPool count Work}
    (rest : pool.AtRest endless) : ¬pool.QueueLocked := by
  obtain ⟨signalled, signals⟩ := exists_signals pool
  rintro (held | ⟨index, held⟩)
  · apply rest.owner signalled
    unfold OwnerReady OwnerPcReady
    cases pc : pool.owner <;> simp_all [OwnerPc.holdsQueue]
  · have posting : ∃ job, pool.thread index = .posting job := by
      cases pc : pool.thread index <;> simp_all [ThreadPc.holdsQueue]
    obtain ⟨job, posting⟩ := posting
    obtain ⟨held, work, running, _⟩ := rest.thread index signalled
      (by rw [ThreadReady, posting]; exact signals)
    rw [posting] at running
    cases running

/-- A thread that cannot move sleeps, is gone, or does a work that never
ends. -/
theorem AtRest.thread_ended {pool : ThreadPool count Work}
    (rest : pool.AtRest endless) (index : Fin count) :
    pool.thread index = .asleep ∨ pool.thread index = .exited ∨
      pool.RunsEndless endless index := by
  have countFree := rest.count_free
  have queueFree := rest.queue_free
  obtain ⟨signalled, signals⟩ := exists_signals pool
  by_cases ready : pool.ThreadReady index signalled
  · exact Or.inr (Or.inr (rest.thread index signalled ready))
  · unfold ThreadReady PcReady at ready
    cases pc : pool.thread index <;> simp_all

theorem AtRest.asleep_or_endless {pool : ThreadPool count Work}
    (rest : pool.AtRest endless) (counted : pool.Counted)
    (alive : pool.threadsKeepalive = true) (index : Fin count) :
    pool.thread index = .asleep ∨ pool.RunsEndless endless index := by
  rcases rest.thread_ended index with asleep | exited | runs
  · exact Or.inl asleep
  · have staying := counted.staying alive
    rw [tally_eq_zero] at staying
    have mine := staying index
    rw [exited] at mine
    cases mine
  · exact Or.inr runs

theorem tally_at_rest {pool : ThreadPool count Work}
    (places : ∀ index, pool.thread index = .asleep ∨
      pool.RunsEndless endless index)
    {weight : ThreadPc Work → Nat} (asleep : weight .asleep = 0)
    (running : ∀ job work, weight (.running job work) = 0) :
    tally weight pool.thread = 0 := by
  rw [tally_eq_zero]
  intro index
  rcases places index with sleeps | ⟨job, work, runs, _⟩
  · rw [sleeps, asleep]
  · rw [runs, running job work]

/-- Where nobody can move and somebody sleeps no job is queued. -/
theorem AtRest.no_jobs {pool : ThreadPool count Work}
    (rest : pool.AtRest endless) (sound : pool.Sound)
    (alive : pool.threadsKeepalive = true) {sleeper : Fin count}
    (asleep : pool.thread sleeper = .asleep) :
    pool.jobqueue.len = 0 := by
  have places := rest.asleep_or_endless sound.counted alive
  have bearers : tally ThreadPc.bearerWeight pool.thread = 0 :=
    tally_at_rest places rfl fun _ _ => rfl
  have testers : tally ThreadPc.testingWeight pool.thread = 0 :=
    tally_at_rest places rfl fun _ _ => rfl
  by_contra queued
  have token := sound.awake.token alive queued
  have notPosting : pool.owner.holdsQueue = false := by
    cases held : pool.owner.holdsQueue with
    | false => rfl
    | true => exact (rest.queue_free (Or.inl held)).elim
  rw [notPosting, bearers] at token
  cases posted : pool.hasJobs with
  | false => simp [posted] at token
  | true =>
      have sleeps : 0 < tally ThreadPc.asleepWeight pool.thread :=
        tally_pos.mpr ⟨sleeper, by rw [asleep]; exact Nat.one_pos⟩
      have tested := sound.awake.tested posted sleeps
      omega

theorem AtRest.owner_outside {pool : ThreadPool count Work}
    (rest : pool.AtRest endless) (counted : pool.Counted)
    (watched : pool.Watched) (alive : pool.threadsKeepalive = true)
    (empty : pool.jobqueue.len = 0)
    (asleep : ∀ index, pool.thread index = .asleep) :
    pool.owner = .outside := by
  have same : pool.thread = fun _ => .asleep := funext asleep
  have countFree := rest.count_free
  have keepalive := counted.keepalive
  obtain ⟨signalled, signals⟩ := exists_signals pool
  have blocked := rest.owner signalled
  have allAlive : pool.numThreadsAlive = count := by
    rw [counted.alive, same, tally_const, Fintype.card_fin]
    exact Nat.mul_one count
  have idle : pool.numThreadsWorking = 0 := by
    rw [counted.working, same, tally_const]
    rfl
  have pending := watched.pending
  unfold OwnerReady OwnerPcReady at blocked
  cases pc : pool.owner <;> simp_all

/-- The works in the hands of threads that cannot move never end. -/
theorem Stocked.held_endless {pool : ThreadPool count Work}
    {jobs : List JobPtr} (stocked : pool.Stocked jobs)
    (places : ∀ index, pool.thread index = .asleep ∨
      pool.RunsEndless endless index) :
    ∀ work ∈ tally (inHand pool.heap) pool.hand, endless work := by
  intro work member
  obtain ⟨index, _, member⟩ := Multiset.mem_sum.mp member
  rcases places index with asleep | ⟨job, held, running, isEndless⟩
  · rw [hand, asleep] at member
    cases Multiset.notMem_zero _ member
  · rw [stocked.inHand_running running, Multiset.mem_singleton] at member
    rw [member]
    exact isEndless

theorem Stocked.endless_held {pool : ThreadPool count Work}
    {jobs : List JobPtr} (stocked : pool.Stocked jobs) {index : Fin count}
    (runs : pool.RunsEndless endless index) :
    ∃ work ∈ tally (inHand pool.heap) pool.hand, endless work := by
  obtain ⟨job, work, running, isEndless⟩ := runs
  refine ⟨work, ?_, isEndless⟩
  apply Multiset.mem_sum.mpr
  refine ⟨index, Finset.mem_univ index, ?_⟩
  rw [stocked.inHand_running running]
  exact Multiset.mem_singleton_self work

/-- Where no work that was added is endless, everybody sleeps. -/
theorem Stocked.everybody_asleep {pool : ThreadPool count Work}
    {jobs : List JobPtr} (stocked : pool.Stocked jobs)
    (places : ∀ index, pool.thread index = .asleep ∨
      pool.RunsEndless endless index)
    {added : List Work}
    (conserved : (added : Multiset Work) =
      pool.finished + tally (inHand pool.heap) pool.hand)
    (ends : ∀ work ∈ added, ¬endless work) :
    tally (inHand pool.heap) pool.hand = 0 ∧
      ∀ index, pool.thread index = .asleep := by
  have noneHeld : ∀ work ∈ tally (inHand pool.heap) pool.hand,
      ¬endless work := by
    intro work member
    apply ends
    rw [← Multiset.mem_coe, conserved]
    exact Multiset.mem_add.mpr (Or.inr member)
  constructor
  · apply Multiset.eq_zero_of_forall_notMem
    intro work member
    exact noneHeld work member (stocked.held_endless places work member)
  · intro index
    refine (places index).resolve_right ?_
    intro runs
    obtain ⟨work, member, isEndless⟩ := stocked.endless_held runs
    exact noneHeld work member isEndless

/-- Left to itself, a pool comes to rest after a bounded number of steps of
its parties, also if some works never end.  Then these keep all the threads,
or every other work that was added is finished; if there are none of them,
the owner is back from `thpool_wait`. -/
theorem pool_comes_to_rest (endless : Work → Prop)
    {pool : ThreadPool count Work} (reached : pool.Reached)
    (alive : pool.threadsKeepalive = true)
    {events : List (PoolEvent count Work)} {finish : ThreadPool count Work}
    (run : (settling count endless).Run pool events finish) :
    events.length ≤ pool.stepsLeft ∧
      ((settling count endless).Stuck finish →
        (∀ index, finish.RunsEndless endless index) ∨
          finish.jobqueue.len = 0 ∧
          (∀ index, finish.thread index = .asleep ∨
            finish.RunsEndless endless index) ∧
          let held := tally (inHand finish.heap) finish.hand
          (∀ work ∈ held, endless work) ∧
            (pool.added : Multiset Work) = finish.finished + held ∧
            ((∀ work ∈ pool.added, ¬endless work) →
              held = 0 ∧ finish.owner = .outside)) := by
  have start : pool.Serving pool.added :=
    { sound := reached.sound, watched := reached.watched
      alive := alive, added := rfl }
  have serving : finish.Serving pool.added :=
    run.invariant (fun pool' => pool'.Serving pool.added) start
      fun _ _ _ serving step => serving.step step
  constructor
  · have bounded := run.length_le_measure
      (fun pool' => pool'.Serving pool.added) start
      (fun _ _ _ serving step => serving.step step) stepsLeft
      (fun _ _ _ serving step => serving.lowers step)
    omega
  · intro stuck
    obtain ⟨jobs, stocked⟩ := serving.sound.stocked
    have counted := serving.sound.counted
    have rest := stocked.atRest stuck
    have places := rest.asleep_or_endless counted serving.alive
    by_cases all : ∀ index, finish.RunsEndless endless index
    · exact Or.inl all
    · rw [not_forall] at all
      obtain ⟨sleeper, ends⟩ := all
      have asleep := (places sleeper).resolve_right ends
      have empty := rest.no_jobs serving.sound serving.alive asleep
      have taken := stocked.added_eq_taken empty
        (counted.not_alone_of_alive serving.alive)
      have conserved : (pool.added : Multiset Work) =
          finish.finished + tally (inHand finish.heap) finish.hand := by
        rw [← stocked.conserved, ← taken, serving.added]
      refine Or.inr ⟨empty, places, stocked.held_endless places,
        conserved, ?_⟩
      intro allEnd
      obtain ⟨noneHeld, everybody⟩ :=
        stocked.everybody_asleep places conserved allEnd
      exact ⟨noneHeld, rest.owner_outside counted serving.watched
        serving.alive empty everybody⟩

/-- The woken thread is about to call the function of the work. -/
def pulledSteps : List (PoolEvent 2 Nat) :=
  firstSteps ++
    [.thread worker none, .thread worker none, .thread worker none,
      .thread worker none]

/-- The work is being done. -/
def workStarted : ThreadPool 2 Nat :=
  (after pulledSteps).setThread worker (.running 7 100)

theorem workStarted_stuck : (settling 2 (· = 100)).Stuck workStarted := by
  rintro event next ⟨isInternal, enabled, _⟩
  cases event with
  | thread index signalled =>
      have either : ∀ index : Fin 2, index = idler ∨ index = worker := by
        decide
      rcases either index with rfl | rfl
      · have asleep : workStarted.thread idler = .asleep := by
          decide +kernel
        have ready : workStarted.ThreadReady idler signalled := enabled
        rw [ThreadReady, asleep] at ready
        exact ready
      · exact isInternal ⟨7, 100, rfl, rfl⟩
  | owner signalled =>
      have outside : workStarted.owner = .outside := by decide +kernel
      have ready : workStarted.OwnerReady signalled := enabled
      rw [OwnerReady, outside] at ready
      exact ready
  | wakeThread index => exact isInternal
  | wakeOwner => exact isInternal
  | addWork newjob job => exact isInternal
  | wait => exact isInternal
  | destroy => exact isInternal

theorem pool_comes_to_rest_run :
    let held := tally (inHand workStarted.heap) workStarted.hand
    (∀ work ∈ held, work = 100) ∧
      (([100] : List Nat) : Multiset Nat) = workStarted.finished + held := by
  have step : (settling 2 (· = 100)).step (after pulledSteps)
      (.thread worker none) workStarted := by
    refine ⟨?_, by decide +kernel, by rfl⟩
    rintro ⟨job, work, running, _⟩
    have pulled : (after pulledSteps).thread worker = .pulled (some 7) := by
      decide +kernel
    rw [pulled] at running
    cases running
  have added : (after pulledSteps).added = [100] := by decide +kernel
  obtain ⟨_, atRest⟩ := pool_comes_to_rest (· = 100)
    (reached_after pulledSteps) (by decide +kernel) (.single step)
  rcases atRest workStarted_stuck with all | ⟨_, _, isHeld, same, _⟩
  · obtain ⟨job, work, running, _⟩ := all idler
    have asleep : workStarted.thread idler = .asleep := by decide +kernel
    rw [asleep] at running
    cases running
  · rw [added] at same
    exact ⟨isHeld, same⟩

end ThreadPool

end StreamIO.Pool
