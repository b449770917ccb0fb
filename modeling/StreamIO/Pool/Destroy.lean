import StreamIO.Pool.Progress

/-!
# Destroying the pool

`thpool_destroy` ends the loops of the threads, waits until none is alive, and
frees the jobs that are left.  A binary semaphore lets one thread out for each
time it is posted, so every round of the waiting loop ends at least one.
-/

namespace StreamIO.Pool

open StreamIO.Library

variable {count : Nat} {Work : Type}

namespace ThreadPool

/-- Once nobody is alive every thread has left its loop. -/
theorem Counted.all_left {pool : ThreadPool count Work}
    (counted : pool.Counted) (alone : pool.owner.aloneInPool = true)
    (index : Fin count) :
    pool.thread index = .unlocking ∨ pool.thread index = .exited := by
  have dead := counted.alone alone
  rw [counted.alive, tally_eq_zero] at dead
  have started : tally ThreadPc.startingWeight pool.thread = 0 := by
    apply counted.started
    intro starting
    rw [starting] at alone
    cases alone
  rw [tally_eq_zero] at started
  have mine := dead index
  have begun := started index
  cases pc : pool.thread index <;> simp_all

/-- A thread that has left its loop has at most `thcount_lock` to release,
which one thread keeps at a time. -/
theorem Counted.unlocking_once {pool : ThreadPool count Work}
    (counted : pool.Counted) {left right : Fin count}
    (leftUnlocks : pool.thread left = .unlocking)
    (rightUnlocks : pool.thread right = .unlocking) : left = right := by
  by_contra apart
  have both : (pool.thread left).countLockWeight +
      (pool.thread right).countLockWeight ≤
        tally ThreadPc.countLockWeight pool.thread :=
    add_le_tally _ _ apart
  have once := counted.countLock
  rw [leftUnlocks, rightUnlocks] at both
  change 1 + 1 ≤ _ at both
  omega

/-- When the pool is destroyed, every job that was allocated has been freed,
every work was finished once or thrown away, in the order in which they were
added, and no thread has more to do than to release `thcount_lock`, which at
most one of them still keeps. -/
theorem destroyed_clean {pool : ThreadPool count Work}
    (reached : pool.Reached) (destroyed : pool.owner = .destroyed) :
    (∀ job, pool.heap job = none) ∧
      pool.added = pool.taken ++ pool.cleared ∧
      pool.finished.Perm pool.taken ∧
      (∀ index, pool.thread index = .unlocking ∨
        pool.thread index = .exited) ∧
      ∀ left right, pool.thread left = .unlocking →
        pool.thread right = .unlocking → left = right := by
  obtain ⟨jobs, stocked⟩ := reached.sound.stocked
  have counted := reached.sound.counted
  have alone : pool.owner.aloneInPool = true := by
    rw [destroyed]
    rfl
  have handsEmpty := counted.empty_hands alone
  have noJobs := stocked.jobs_eq_nil (reached.watched.destroyed destroyed)
  refine ⟨?_, ?_, ?_, counted.all_left alone, ?_⟩
  · rw [noJobs] at stocked
    exact stocked.placed.nothing handsEmpty
  · have order := stocked.order
    rw [noJobs] at order
    exact order.trans (List.append_nil _)
  · exact stocked.finished_perm handsEmpty
  · intro left right
    exact counted.unlocking_once

/-- The pool is destroyed with its work still in the queue. -/
def destroySteps : List (PoolEvent 2 Nat) :=
  firstSteps ++
    [.destroy, .thread worker none, .thread worker none,
      .thread worker none, .thread worker none, .thread worker none,
      .owner none, .thread idler none, .thread idler none,
      .thread idler none, .thread idler none, .thread idler none,
      .owner none, .owner none, .owner none]

theorem destroyed_clean_run :
    ∃ pool : ThreadPool 2 Nat, pool.cleared = [100] ∧
      (∀ job, pool.heap job = none) ∧
      pool.added = pool.taken ++ pool.cleared ∧
      pool.finished.Perm pool.taken ∧
      (∀ index, pool.thread index = .unlocking ∨
        pool.thread index = .exited) ∧
      ∀ left right, pool.thread left = .unlocking →
        pool.thread right = .unlocking → left = right :=
  ⟨after destroySteps, by decide +kernel,
    destroyed_clean (reached_after destroySteps) (by decide +kernel)⟩

end ThreadPool

namespace ThreadPc

/-- Took a post and is leaving with it. -/
@[simp] def leavingWeight : ThreadPc Work → Nat
  | .looping => 1
  | .woken => 1
  | .exiting => 1
  | _ => 0

end ThreadPc

/-- Only the threads of the pool. -/
def threadsOnly (count : Nat) (Work : Type) :
    TransitionSystem (ThreadPool count Work) (PoolEvent count Work) where
  step pool event next :=
    (∃ index signalled, event = .thread index signalled) ∧
      (poolSystem count Work).step pool event next

namespace ThreadPool

/-- In `thpool_destroy` with fewer threads than at a post, or with its post
not yet used up. -/
structure Releasing (alive : Nat) (pool : ThreadPool count Work) : Prop where
  sound : pool.Sound
  destroying : pool.owner = .destroying
  shrinking : pool.numThreadsAlive ≤ alive
  released : pool.hasJobs = true ∨
    0 < tally ThreadPc.leavingWeight pool.thread ∨
    pool.numThreadsAlive < alive

theorem Releasing.keeps {pool next : ThreadPool count Work} {alive : Nat}
    (releasing : pool.Releasing alive) (sound : next.Sound)
    {index : Fin count} {pc : ThreadPc Work}
    (thread : next.thread = Function.update pool.thread index pc)
    (owner : next.owner = .destroying)
    (sameAlive : next.numThreadsAlive = pool.numThreadsAlive)
    (released : pool.hasJobs.toNat + (pool.thread index).leavingWeight ≤
      next.hasJobs.toNat + pc.leavingWeight) :
    next.Releasing alive := by
  have moved := tally_update ThreadPc.leavingWeight pool.thread index pc
  rw [← thread] at moved
  have mine : (pool.thread index).leavingWeight ≤
      tally ThreadPc.leavingWeight pool.thread := le_tally
  refine { sound := sound, destroying := owner, shrinking := ?_
           released := ?_ }
  · rw [sameAlive]
    exact releasing.shrinking
  · rw [sameAlive]
    cases posted : next.hasJobs with
    | true => exact Or.inl rfl
    | false =>
        right
        rw [posted, Bool.toNat_false] at released
        rcases releasing.released with before | before | before
        · rw [before, Bool.toNat_true] at released
          left
          omega
        · left
          omega
        · exact Or.inr before

theorem Releasing.step {pool next : ThreadPool count Work}
    {event : PoolEvent count Work} {alive : Nat}
    (releasing : pool.Releasing alive)
    (step : (threadsOnly count Work).step pool event next) :
    next.Releasing alive := by
  obtain ⟨⟨index, signalled, rfl⟩, step⟩ := step
  have sound := releasing.sound.step step
  have counted := releasing.sound.counted
  have destroying := releasing.destroying
  have ended : pool.threadsKeepalive = false := by
    rw [counted.keepalive, destroying]
    rfl
  obtain ⟨enabled, moved⟩ := step
  have threadStep := threadDo_step enabled moved
  cases threadStep with
  | start pc _ =>
      have begun : tally ThreadPc.startingWeight pool.thread = 0 :=
        counted.started (by rw [destroying]; exact OwnerPc.noConfusion)
      rw [tally_eq_zero] at begun
      have mine := begun index
      rw [pc] at mine
      cases mine
  | enter _ alive => exact (Bool.false_ne_true (ended.symm.trans alive)).elim
  | leave pc _ =>
      exact releasing.keeps sound rfl destroying rfl
        (by simp [setThread, pc])
  | take pc posted =>
      exact releasing.keeps sound rfl destroying rfl
        (by simp [setThread, pc, posted])
  | sleep pc _ =>
      exact releasing.keeps sound rfl destroying rfl
        (by simp [setThread, pc])
  | proceed _ alive =>
      exact (Bool.false_ne_true (ended.symm.trans alive)).elim
  | abandon pc _ =>
      exact releasing.keeps sound rfl destroying rfl
        (by simp [setThread, pc])
  | countUp pc _ =>
      exact releasing.keeps sound rfl destroying rfl
        (by simp [setThread, pc])
  | @pull pulled pc _ _ =>
      refine releasing.keeps sound rfl destroying rfl ?_
      cases posts : pulled.posts <;> simp [setThread, pc]
  | post pc signals =>
      exact { sound := sound, destroying := destroying
              shrinking := releasing.shrinking, released := Or.inl rfl }
  | nothing pc =>
      exact releasing.keeps sound rfl destroying rfl
        (by simp [setThread, pc])
  | call pc _ =>
      exact releasing.keeps sound rfl destroying rfl
        (by simp [setThread, pc])
  | finish pc _ =>
      exact releasing.keeps sound rfl destroying rfl
        (by simp [setThread, pc])
  | countDown pc _ _ =>
      exact releasing.keeps sound rfl destroying rfl
        (by simp [setThread, pc])
  | countOut pc _ _ =>
      refine releasing.keeps sound rfl ?_ rfl ?_
      · simp [setThread, destroying]
      · simp [setThread, pc]
  | exit pc _ =>
      have lives := counted.alive_pos index (by rw [pc]; rfl)
      have before := releasing.shrinking
      refine { sound := sound, destroying := destroying
               shrinking := ?_, released := Or.inr (Or.inr ?_) }
      · change pool.numThreadsAlive - 1 ≤ alive
        omega
      · change pool.numThreadsAlive - 1 < alive
        omega
  | unlock pc =>
      exact releasing.keeps sound rfl destroying rfl
        (by simp [setThread, pc])

theorem Releasing.lowers {pool next : ThreadPool count Work}
    {event : PoolEvent count Work} {alive : Nat}
    (releasing : pool.Releasing alive)
    (step : (threadsOnly count Work).step pool event next) :
    next.stepsLeft < pool.stepsLeft := by
  obtain ⟨⟨index, signalled, rfl⟩, enabled, moved⟩ := step
  obtain ⟨jobs, stocked⟩ := releasing.sound.stocked
  exact stocked.thread_lowers (threadDo_step enabled moved)

/-- A thread that cannot move sleeps or is gone, since the owner keeps no
lock. -/
theorem Releasing.thread_ended {pool : ThreadPool count Work} {alive : Nat}
    (releasing : pool.Releasing alive)
    (stuck : (threadsOnly count Work).Stuck pool) (index : Fin count) :
    pool.thread index = .asleep ∨ pool.thread index = .exited := by
  obtain ⟨jobs, stocked⟩ := releasing.sound.stocked
  have destroying := releasing.destroying
  have blocked : ∀ index signalled, ¬pool.ThreadReady index signalled := by
    intro index signalled ready
    obtain ⟨next, moved⟩ := Option.isSome_iff_exists.mp
      (stocked.thread_canMove index signalled)
    exact stuck (.thread index signalled) next
      ⟨⟨index, signalled, rfl⟩, ready, moved⟩
  obtain ⟨signalled, signals⟩ := exists_signals pool
  have countFree : ¬pool.CountLocked := by
    rintro (held | ⟨other, held⟩)
    · rw [destroying] at held
      cases held
    · apply blocked other none
      unfold ThreadReady PcReady
      cases pc : pool.thread other <;> simp_all [ThreadPc.holdsCount]
  have queueFree : ¬pool.QueueLocked := by
    rintro (held | ⟨other, held⟩)
    · rw [destroying] at held
      cases held
    · apply blocked other signalled
      unfold ThreadReady PcReady
      cases pc : pool.thread other <;> simp_all [ThreadPc.holdsQueue]
  have mine := blocked index signalled
  unfold ThreadReady PcReady at mine
  cases pc : pool.thread index <;> simp_all

/-- Once the threads have come to rest one of them is gone. -/
theorem Releasing.fewer {pool : ThreadPool count Work} {alive : Nat}
    (releasing : pool.Releasing alive) (some : alive ≠ 0)
    (stuck : (threadsOnly count Work).Stuck pool) :
    pool.numThreadsAlive < alive := by
  have ended := releasing.thread_ended stuck
  have nobodyLeaves : tally ThreadPc.leavingWeight pool.thread = 0 := by
    rw [tally_eq_zero]
    intro index
    rcases ended index with asleep | exited
    · rw [asleep]
      rfl
    · rw [exited]
      rfl
  have nobodyTests : tally ThreadPc.testingWeight pool.thread = 0 := by
    rw [tally_eq_zero]
    intro index
    rcases ended index with asleep | exited
    · rw [asleep]
      rfl
    · rw [exited]
      rfl
  rcases releasing.released with posted | leaves | fewer
  · have tested := releasing.sound.awake.tested posted
    have nobodySleeps :
        tally ThreadPc.asleepWeight pool.thread = 0 := by omega
    have nobodyLives : pool.numThreadsAlive = 0 := by
      rw [releasing.sound.counted.alive, tally_eq_zero]
      rw [tally_eq_zero] at nobodySleeps
      intro index
      have mine := nobodySleeps index
      rcases ended index with asleep | exited
      · rw [asleep] at mine
        cases mine
      · rw [exited]
        rfl
    omega
  · omega
  · exact fewer

theorem move_postAll {pool : ThreadPool count Work}
    (destroying : pool.owner = .destroying)
    (alive : pool.numThreadsAlive ≠ 0) {signalled : Option (Fin count)} :
    pool.move (.owner signalled) = some pool.bsemPostAll := by
  rw [move, ownerDo, destroying]
  simp only [if_neg alive]

/-- A round of the waiting loop of `thpool_destroy`: the post to all threads
and what the threads then do until none can move.  It is bounded, and fewer
threads are alive after it. -/
theorem destroy_round {pool posted finish : ThreadPool count Work}
    (reached : pool.Reached) (destroying : pool.owner = .destroying)
    (alive : pool.numThreadsAlive ≠ 0) {signalled : Option (Fin count)}
    (post : (poolSystem count Work).step pool (.owner signalled) posted)
    {events : List (PoolEvent count Work)}
    (run : (threadsOnly count Work).Run posted events finish) :
    events.length ≤ posted.stepsLeft ∧
      ((threadsOnly count Work).Stuck finish →
        finish.numThreadsAlive < pool.numThreadsAlive) := by
  have sound := reached.sound.step post
  have isPosted : some pool.bsemPostAll = some posted :=
    (move_postAll destroying alive).symm.trans post.2
  cases isPosted
  have start : pool.bsemPostAll.Releasing pool.numThreadsAlive :=
    { sound := sound, destroying := destroying
      shrinking := Nat.le_refl _, released := Or.inl rfl }
  have releasing : finish.Releasing pool.numThreadsAlive :=
    run.invariant (Releasing pool.numThreadsAlive) start
      fun _ _ _ releasing step => releasing.step step
  constructor
  · have bounded := run.length_le_measure
      (Releasing pool.numThreadsAlive) start
      (fun _ _ _ releasing step => releasing.step step) stepsLeft
      (fun _ _ _ releasing step => releasing.lowers step)
    omega
  · exact releasing.fewer alive

/-- The pool is destroyed while a thread sleeps and a work is queued. -/
def calledSteps : List (PoolEvent 2 Nat) :=
  firstSteps ++ [.destroy]

/-- The first thread to test the semaphore leaves, the other one sleeps. -/
def roundSteps : List (PoolEvent 2 Nat) :=
  [.thread worker none, .thread worker none, .thread worker none,
    .thread worker none, .thread worker none, .thread idler none]

theorem threadsOnly_run {pool finish : ThreadPool count Work}
    {events : List (PoolEvent count Work)}
    (run : (poolSystem count Work).Run pool events finish)
    (threads : ∀ event ∈ events,
      ∃ index signalled, event = .thread index signalled) :
    (threadsOnly count Work).Run pool events finish := by
  induction run with
  | refl => exact .refl _
  | snoc earlier step induction =>
      have front := induction fun event member =>
        threads event (List.mem_append_left _ member)
      have last := threads _
        (List.mem_append_right _ (List.mem_singleton.mpr rfl))
      exact .snoc front ⟨last, step⟩

theorem stuck_of_ended {pool : ThreadPool count Work}
    (ended : ∀ index,
      pool.thread index = .asleep ∨ pool.thread index = .exited) :
    (threadsOnly count Work).Stuck pool := by
  rintro event next ⟨⟨index, signalled, rfl⟩, ready, _⟩
  rcases ended index with asleep | exited
  · simp only [poolMachine, Enabled, ThreadReady, asleep, PcReady] at ready
  · simp only [poolMachine, Enabled, ThreadReady, exited, PcReady] at ready

/-- A round until no thread can go on, in which one of two threads ends. -/
theorem destroy_round_run :
    ∃ pool posted finish : ThreadPool 2 Nat,
      pool.numThreadsAlive = 2 ∧
      (poolSystem 2 Nat).step pool (.owner none) posted ∧
      (threadsOnly 2 Nat).Run posted roundSteps finish ∧
      (threadsOnly 2 Nat).Stuck finish ∧
      roundSteps.length ≤ posted.stepsLeft ∧
      finish.numThreadsAlive < pool.numThreadsAlive := by
  let posted := (after calledSteps).bsemPostAll
  let finish := (poolMachine 2 Nat).after posted roundSteps
  have destroying : (after calledSteps).owner = .destroying := by
    decide +kernel
  have alive : (after calledSteps).numThreadsAlive ≠ 0 := by
    decide +kernel
  have moved : (after calledSteps).move (.owner none) = some posted :=
    move_postAll destroying alive
  have post : (poolSystem 2 Nat).step (after calledSteps) (.owner none)
      posted :=
    ⟨by decide +kernel, moved⟩
  have run : (threadsOnly 2 Nat).Run posted roundSteps finish := by
    apply threadsOnly_run ((poolMachine 2 Nat).run_after (by decide +kernel))
    simp [roundSteps, worker, idler]
  have stuck : (threadsOnly 2 Nat).Stuck finish :=
    stuck_of_ended (by decide +kernel)
  obtain ⟨bounded, fewer⟩ :=
    destroy_round (reached_after calledSteps) destroying alive post run
  exact ⟨after calledSteps, posted, finish, by decide +kernel, post, run,
    stuck, bounded, fewer stuck⟩

/-- Called with an empty queue, `thpool_destroy` throws nothing away. -/
structure Drained (pool : ThreadPool count Work) (added : List Work) :
    Prop where
  sound : pool.Sound
  destroys : pool.owner.destroys = true
  empty : pool.jobqueue.len = 0
  kept : pool.cleared = []
  added : pool.added = added

theorem Drained.step {pool next : ThreadPool count Work}
    {event : PoolEvent count Work} {added : List Work}
    (drained : pool.Drained added)
    (step : (poolSystem count Work).step pool event next) :
    next.Drained added := by
  have sound := drained.sound.step step
  obtain ⟨enabled, moved⟩ := step
  obtain ⟨jobs, stocked⟩ := drained.sound.stocked
  have destroys := drained.destroys
  cases event with
  | thread index signalled =>
      have threadStep := threadDo_step enabled moved
      cases threadStep with
      | pull pc _ isPulled =>
          have shorter := stocked.pull_len isPulled
          rw [drained.empty] at shorter
          exact { sound := sound, destroys := destroys
                  empty := Nat.eq_zero_of_le_zero shorter
                  kept := drained.kept, added := drained.added }
      | countOut _ _ _ =>
          have awake : pool.owner ≠ .asleep := by
            intro asleep
            rw [asleep] at destroys
            cases destroys
          refine { sound := sound, destroys := ?_, empty := drained.empty
                   kept := drained.kept, added := drained.added }
          simpa [setThread, awake] using destroys
      | _ =>
          exact { sound := sound, destroys := destroys
                  empty := drained.empty, kept := drained.kept
                  added := drained.added }
  | owner signalled =>
      have ownerStep := ownerDo_step enabled moved
      cases ownerStep with
      | clear _ queued => exact (queued drained.empty).elim
      | nobodyAlive _ _ =>
          exact { sound := sound, destroys := rfl, empty := drained.empty
                  kept := drained.kept, added := drained.added }
      | postAll _ _ =>
          exact { sound := sound, destroys := destroys
                  empty := drained.empty, kept := drained.kept
                  added := drained.added }
      | cleared _ _ =>
          exact { sound := sound, destroys := rfl, empty := rfl
                  kept := drained.kept, added := drained.added }
      | started pc => simp [pc] at destroys
      | post pc => simp [pc] at destroys
      | lock pc => simp [pc] at destroys
      | noJobs pc => simp [pc] at destroys
      | someJobs pc => simp [pc] at destroys
      | nobodyWorks pc => simp [pc] at destroys
      | somebodyWorks pc => simp [pc] at destroys
      | sleep pc => simp [pc] at destroys
  | wakeThread index =>
      rw [← Option.some.inj moved] at sound ⊢
      exact { sound := sound, destroys := destroys, empty := drained.empty
              kept := drained.kept, added := drained.added }
  | wakeOwner =>
      have asleep : pool.owner = .asleep := enabled
      simp [asleep] at destroys
  | addWork newjob job =>
      have outside : pool.owner = .outside := enabled.1
      simp [outside] at destroys
  | wait =>
      have outside : pool.owner = .outside := enabled
      simp [outside] at destroys
  | destroy =>
      have outside : pool.owner = .outside := enabled
      simp [outside] at destroys

theorem Drained.called {pool called : ThreadPool count Work}
    (sound : pool.Sound) (empty : pool.jobqueue.len = 0)
    (call : (poolSystem count Work).step pool .destroy called) :
    called.Drained pool.added := by
  have outside : pool.owner = .outside := call.1
  obtain ⟨jobs, stocked⟩ := sound.stocked
  have next := sound.step call
  have moved := Option.some.inj call.2
  rw [← moved] at next ⊢
  exact { sound := next, destroys := rfl, empty := empty
          kept := stocked.unclear (by rw [outside]; rfl), added := rfl }

theorem Drained.finished_perm {pool : ThreadPool count Work}
    {added : List Work} (drained : pool.Drained added)
    (destroyed : pool.owner = .destroyed) :
    pool.finished.Perm added := by
  obtain ⟨jobs, stocked⟩ := drained.sound.stocked
  have alone : pool.owner.aloneInPool = true := by
    rw [destroyed]
    rfl
  have order := stocked.order
  rw [stocked.jobs_eq_nil drained.empty, drained.kept,
    List.append_nil] at order
  have taken : pool.added = pool.taken :=
    order.trans (List.append_nil _)
  rw [← drained.added, taken]
  exact stocked.finished_perm (drained.sound.counted.empty_hands alone)

/-- `thpool_destroy` called while no job is queued, as after `thpool_wait`,
throws nothing away: once the pool is destroyed every work that was added is
finished. -/
theorem destroy_keeps_works {pool called finish : ThreadPool count Work}
    (reached : pool.Reached) (empty : pool.jobqueue.len = 0)
    (call : (poolSystem count Work).step pool .destroy called)
    (later : (poolSystem count Work).Reachable called finish) :
    finish.cleared = [] ∧
      (finish.owner = .destroyed → finish.finished.Perm pool.added) := by
  have drained : finish.Drained pool.added :=
    later.invariant (fun pool' => pool'.Drained pool.added)
      (.called reached.sound empty call)
      fun _ _ _ drained step => drained.step step
  exact ⟨drained.kept, drained.finished_perm⟩

/-- The work is being done, and none is queued. -/
def runningSteps : List (PoolEvent 2 Nat) :=
  firstSteps ++
    [.thread worker none, .thread worker none, .thread worker none,
      .thread worker none, .thread worker none]

/-- Both threads leave, the worker first and only after its work. -/
def leavingSteps : List (PoolEvent 2 Nat) :=
  [.thread worker none, .thread worker none, .thread worker none,
    .thread worker none, .thread worker none, .owner none,
    .thread idler none, .thread idler none, .thread idler none,
    .thread idler none, .thread idler none, .owner none, .owner none]

/-- The pool is destroyed while a work is being done. -/
theorem destroy_keeps_works_run :
    ∃ pool called finish : ThreadPool 2 Nat,
      pool.thread worker = .running 7 100 ∧ pool.finished = [] ∧
      (poolSystem 2 Nat).step pool .destroy called ∧
      (poolSystem 2 Nat).Run called leavingSteps finish ∧
      finish.owner = .destroyed ∧ finish.cleared = [] ∧
      finish.finished.Perm [100] := by
  let called : ThreadPool 2 Nat :=
    { after runningSteps with
      threadsKeepalive := false, owner := .destroying }
  let finish := (poolMachine 2 Nat).after called leavingSteps
  have call : (poolSystem 2 Nat).step (after runningSteps) .destroy called :=
    ⟨by decide +kernel, rfl⟩
  have run : (poolSystem 2 Nat).Run called leavingSteps finish :=
    (poolMachine 2 Nat).run_after (by decide +kernel)
  have destroyed : finish.owner = .destroyed := by decide +kernel
  have added : (after runningSteps).added = [100] := by decide +kernel
  obtain ⟨kept, finished⟩ :=
    destroy_keeps_works (reached_after runningSteps) (by decide +kernel)
      call ⟨leavingSteps, run⟩
  rw [added] at finished
  exact ⟨after runningSteps, called, finish, by decide +kernel,
    by decide +kernel, call, run, destroyed, kept, finished destroyed⟩

end ThreadPool

end StreamIO.Pool
