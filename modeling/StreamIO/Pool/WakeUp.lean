import StreamIO.Pool.Conservation

/-!
# No wake-up is lost

The binary semaphore forgets how often it was posted, and a condition variable
forgets a signal that nobody waits for.  Yet a job in the queue always has a
post, or a thread that took one and will post again, and a posted semaphore
always has a thread that is about to test it unless nobody sleeps.
-/

namespace StreamIO.Pool

open StreamIO.Library

variable {count : Nat} {Work : Type}

namespace ThreadPc

@[simp] def asleepWeight : ThreadPc Work → Nat
  | .asleep => 1
  | _ => 0

@[simp] def testingWeight : ThreadPc Work → Nat
  | .testing => 1
  | _ => 0

/-- Took a post of the semaphore and has not yet posted again for the jobs
left in the queue. -/
@[simp] def bearerWeight : ThreadPc Work → Nat
  | .woken => 1
  | .countingUp => 1
  | .pulling => 1
  | .posting _ => 1
  | _ => 0

/-- On its way to the queue. -/
def Coming (hasJobs : Bool) : ThreadPc Work → Prop
  | .testing => hasJobs = true
  | .woken => True
  | .countingUp => True
  | .pulling => True
  | .posting _ => True
  | _ => False

end ThreadPc

namespace ThreadPool

/-- What keeps wake-ups from being lost. -/
structure Awake (pool : ThreadPool count Work) : Prop where
  token : pool.threadsKeepalive = true → pool.jobqueue.len ≠ 0 →
    0 < pool.hasJobs.toNat + pool.owner.holdsQueue.toNat +
      tally ThreadPc.bearerWeight pool.thread
  tested : pool.hasJobs = true →
    0 < tally ThreadPc.asleepWeight pool.thread →
    0 < tally ThreadPc.testingWeight pool.thread

theorem awake_init : (thpoolInit : ThreadPool count Work).Awake := by
  constructor
  · intro _ queued
    exact (queued rfl).elim
  · intro posted
    cases posted

/-- A step of a thread that posts nothing.  It may give up the semaphore's
value for the thread's own pull, and its job for an empty queue. -/
theorem Awake.moveThread {pool next : ThreadPool count Work}
    (awake : pool.Awake) {index : Fin count} {pc : ThreadPc Work}
    (thread : next.thread = Function.update pool.thread index pc)
    (keepalive : next.threadsKeepalive = pool.threadsKeepalive)
    (owner : next.owner.holdsQueue = pool.owner.holdsQueue)
    (queue : next.jobqueue.len = pool.jobqueue.len ∨
      next.jobqueue.len = 0 ∨ pc.bearerWeight = 1)
    (token : next.jobqueue.len ≠ 0 → pool.threadsKeepalive = true →
      next.hasJobs = true ∨
        pool.hasJobs.toNat + (pool.thread index).bearerWeight ≤
          next.hasJobs.toNat + pc.bearerWeight)
    (tested : next.hasJobs = true → pool.hasJobs = true ∧
      (pool.thread index).testingWeight ≤ pc.testingWeight ∧
      pc.asleepWeight ≤ (pool.thread index).asleepWeight) :
    next.Awake := by
  have bearerMoved :=
    tally_update ThreadPc.bearerWeight pool.thread index pc
  have asleepMoved :=
    tally_update ThreadPc.asleepWeight pool.thread index pc
  have testingMoved :=
    tally_update ThreadPc.testingWeight pool.thread index pc
  rw [← thread] at bearerMoved asleepMoved testingMoved
  constructor
  · intro alive queued
    rw [keepalive] at alive
    rw [owner]
    have mine : (pool.thread index).bearerWeight ≤
        tally ThreadPc.bearerWeight pool.thread := le_tally
    rcases token queued alive with posted | kept
    · rw [posted, Bool.toNat_true]
      omega
    · rcases queue with same | empty | bearer
      · rw [same] at queued
        have before := awake.token alive queued
        omega
      · exact (queued empty).elim
      · omega
  · intro posted sleeps
    obtain ⟨before, testing, asleep⟩ := tested posted
    have sleptBefore : 0 < tally ThreadPc.asleepWeight pool.thread ∨
        (pool.thread index).asleepWeight = 0 := by omega
    have mine : (pool.thread index).asleepWeight ≤
        tally ThreadPc.asleepWeight pool.thread := le_tally
    have testedBefore := awake.tested before (by omega)
    omega

/-- A post wakes a sleeper or finds none. -/
theorem Awake.bsemPost {pool : ThreadPool count Work}
    {signalled : Option (Fin count)} (signals : pool.Signals signalled) :
    (pool.bsemPost signalled).Awake := by
  constructor
  · intro _ _
    simp [ThreadPool.bsemPost]
  · intro _ sleeps
    cases signalled with
    | none =>
        have nobody : tally ThreadPc.asleepWeight pool.thread = 0 := by
          rw [tally_eq_zero]
          intro index
          have awake : (pool.thread index).isAsleep = false := signals index
          cases pc : pool.thread index <;> simp_all [ThreadPc.isAsleep]
        change 0 < tally ThreadPc.asleepWeight pool.thread at sleeps
        omega
    | some sleeper =>
        apply tally_pos.mpr
        refine ⟨sleeper, ?_⟩
        simp [ThreadPool.bsemPost, signal]

theorem Awake.bsemPostAll {pool : ThreadPool count Work} :
    pool.bsemPostAll.Awake := by
  constructor
  · intro _ _
    simp [ThreadPool.bsemPostAll]
  · intro _ sleeps
    obtain ⟨index, asleep⟩ := tally_pos.mp sleeps
    cases wasAsleep : (pool.thread index).isAsleep with
    | true => simp [ThreadPool.bsemPostAll, broadcast, wasAsleep] at asleep
    | false =>
        cases pc : pool.thread index <;>
          simp_all [ThreadPool.bsemPostAll, broadcast, ThreadPc.isAsleep]

theorem Awake.threadStep {pool next : ThreadPool count Work}
    {index : Fin count} {jobs : List JobPtr} (awake : pool.Awake)
    (stocked : pool.Stocked jobs) (step : ThreadStep pool index next) :
    next.Awake := by
  cases step with
  | start pc _ =>
      refine awake.moveThread rfl rfl rfl (.inl rfl) ?_ ?_
      all_goals simp [setThread, pc]
  | enter pc _ =>
      refine awake.moveThread rfl rfl rfl (.inl rfl) ?_ ?_
      all_goals simp [setThread, pc]
  | leave pc _ =>
      refine awake.moveThread rfl rfl rfl (.inl rfl) ?_ ?_
      all_goals simp [setThread, pc]
  | take pc posted =>
      refine awake.moveThread rfl rfl rfl (.inl rfl) ?_ ?_
      all_goals simp [setThread, pc, posted]
  | sleep pc unposted =>
      refine awake.moveThread rfl rfl rfl (.inl rfl) ?_ ?_
      all_goals simp [setThread, pc, unposted]
  | proceed pc _ =>
      refine awake.moveThread rfl rfl rfl (.inl rfl) ?_ ?_
      all_goals simp [setThread, pc]
  | abandon pc ended =>
      refine awake.moveThread rfl rfl rfl (.inl rfl) ?_ ?_
      all_goals simp [setThread, pc, ended]
  | countUp pc _ =>
      refine awake.moveThread rfl rfl rfl (.inl rfl) ?_ ?_
      all_goals simp [setThread, pc]
  | @pull pulled pc _ isPulled =>
      obtain ⟨result, found, _, chains, posts⟩ := stocked.chains.pull
      rw [isPulled, Option.some.injEq] at found
      subst result
      cases postsNow : pulled.posts with
      | true =>
          refine awake.moveThread rfl rfl rfl (.inr (.inr rfl)) ?_ ?_
          all_goals simp [setThread, pc]
      | false =>
          have short : pulled.jobqueue.len = 0 := by
            rw [chains.len, List.length_tail]
            rw [postsNow] at posts
            simp only [Bool.false_eq_true, false_iff, not_le] at posts
            omega
          refine awake.moveThread rfl rfl rfl (.inr (.inl short)) ?_ ?_
          · intro queued
            exact (queued short).elim
          · simp [setThread, pc]
  | post pc signals =>
      have posted := posting_index pc signals
      refine (Awake.bsemPost signals).moveThread rfl rfl rfl (.inl rfl) ?_ ?_
      · intro _ _
        exact Or.inl rfl
      · intro _
        rw [posted]
        exact ⟨rfl, Nat.le_refl 0, Nat.le_refl 0⟩
  | nothing pc =>
      refine awake.moveThread rfl rfl rfl (.inl rfl) ?_ ?_
      all_goals simp [setThread, pc]
  | call pc _ =>
      refine awake.moveThread rfl rfl rfl (.inl rfl) ?_ ?_
      all_goals simp [setThread, pc]
  | finish pc _ =>
      refine awake.moveThread rfl rfl rfl (.inl rfl) ?_ ?_
      all_goals simp [setThread, pc]
  | countDown pc _ _ =>
      refine awake.moveThread rfl rfl rfl (.inl rfl) ?_ ?_
      all_goals simp [setThread, pc]
  | countOut pc _ _ =>
      refine awake.moveThread rfl rfl ?_ (.inl rfl) ?_ ?_
      · by_cases asleep : pool.owner = .asleep
        · simp [setThread, asleep, OwnerPc.holdsQueue]
        · simp [setThread, asleep]
      all_goals simp [setThread, pc]
  | exit pc _ =>
      refine awake.moveThread rfl rfl rfl (.inl rfl) ?_ ?_
      all_goals simp [setThread, pc]
  | unlock pc =>
      refine awake.moveThread rfl rfl rfl (.inl rfl) ?_ ?_
      all_goals simp [setThread, pc]

theorem Awake.moveOwner {pool : ThreadPool count Work}
    (awake : pool.Awake) {owner : OwnerPc}
    (post : pool.owner.holdsQueue = false) :
    ({ pool with owner := owner } : ThreadPool count Work).Awake := by
  constructor
  · intro alive queued
    have before := awake.token alive queued
    rw [post, Bool.toNat_false] at before
    change 0 < pool.hasJobs.toNat + owner.holdsQueue.toNat +
      tally ThreadPc.bearerWeight pool.thread
    omega
  · exact awake.tested

theorem Awake.ownerStep {pool next : ThreadPool count Work}
    (awake : pool.Awake) (counted : pool.Counted)
    (step : OwnerStep pool next) : next.Awake := by
  cases step with
  | started pc _ => exact awake.moveOwner (by rw [pc]; rfl)
  | post _ signals =>
      have posted := Awake.bsemPost signals
      constructor
      · intro _ _
        simp [ThreadPool.bsemPost]
      · exact posted.tested
  | lock pc _ => exact awake.moveOwner (by rw [pc]; rfl)
  | noJobs pc _ => exact awake.moveOwner (by rw [pc]; rfl)
  | someJobs pc _ => exact awake.moveOwner (by rw [pc]; rfl)
  | nobodyWorks pc _ => exact awake.moveOwner (by rw [pc]; rfl)
  | somebodyWorks pc _ => exact awake.moveOwner (by rw [pc]; rfl)
  | sleep pc => exact awake.moveOwner (by rw [pc]; rfl)
  | nobodyAlive pc _ => exact awake.moveOwner (by rw [pc]; rfl)
  | postAll _ _ => exact Awake.bsemPostAll
  | @clear pulled heap signalled pc _ signals _ _ =>
      have ended : pool.threadsKeepalive = false := by
        rw [counted.keepalive, pc]
        rfl
      cases posts : pulled.posts with
      | true =>
          constructor
          · intro alive _
            exact (Bool.false_ne_true (ended.symm.trans alive)).elim
          · exact (Awake.bsemPost signals).tested
      | false =>
          constructor
          · intro alive _
            exact (Bool.false_ne_true (ended.symm.trans alive)).elim
          · exact awake.tested
  | cleared _ _ =>
      constructor
      · intro _ queued
        exact (queued rfl).elim
      · intro posted
        cases posted

theorem Awake.step {pool next : ThreadPool count Work}
    {event : PoolEvent count Work} {jobs : List JobPtr}
    (awake : pool.Awake) (counted : pool.Counted)
    (stocked : pool.Stocked jobs)
    (step : (poolSystem count Work).step pool event next) :
    next.Awake := by
  obtain ⟨enabled, moved⟩ := step
  cases event with
  | thread index signalled =>
      exact awake.threadStep stocked (threadDo_step enabled moved)
  | owner signalled =>
      exact awake.ownerStep counted (ownerDo_step enabled moved)
  | wakeThread index =>
      have asleep := isAsleep_iff.mp enabled
      rw [← Option.some.inj moved]
      refine awake.moveThread rfl rfl rfl (.inl rfl) ?_ ?_
      all_goals simp [setThread, asleep]
  | wakeOwner =>
      have asleep : pool.owner = .asleep := enabled
      rw [← Option.some.inj moved]
      exact awake.moveOwner (by rw [asleep]; rfl)
  | addWork newjob job =>
      obtain ⟨pushed, _, moved⟩ := Option.bind_eq_some_iff.mp moved
      rw [← Option.some.inj moved]
      constructor
      · intro _ _
        simp [OwnerPc.holdsQueue]
      · exact awake.tested
  | wait =>
      have outside : pool.owner = .outside := enabled
      rw [← Option.some.inj moved]
      exact awake.moveOwner (by rw [outside]; rfl)
  | destroy =>
      rw [← Option.some.inj moved]
      constructor
      · intro alive
        cases alive
      · exact awake.tested

/-- The invariants of the pool in one. -/
structure Sound (pool : ThreadPool count Work) : Prop where
  counted : pool.Counted
  stocked : ∃ jobs, pool.Stocked jobs
  awake : pool.Awake

theorem sound_init : (thpoolInit : ThreadPool count Work).Sound :=
  { counted := counted_init
    stocked := ⟨[], stocked_init⟩
    awake := awake_init }

theorem Sound.step {pool next : ThreadPool count Work}
    {event : PoolEvent count Work} (sound : pool.Sound)
    (step : (poolSystem count Work).step pool event next) :
    next.Sound := by
  obtain ⟨jobs, stocked⟩ := sound.stocked
  constructor
  · exact sound.counted.step step
  · exact stocked.step sound.counted step
  · exact sound.awake.step sound.counted stocked step

theorem Reached.sound {pool : ThreadPool count Work}
    (reached : pool.Reached) : pool.Sound :=
  reached.invariant Sound sound_init fun _ _ _ sound step =>
    sound.step step

theorem coming_of_bearer {pc : ThreadPc Work} {hasJobs : Bool}
    (bears : 0 < pc.bearerWeight) : pc.Coming hasJobs := by
  cases pc <;> simp_all [ThreadPc.Coming]

/-- While a job is queued and a thread sleeps, the owner is about to post, or
some thread is on its way to the queue. -/
theorem queued_job_awaited {pool : ThreadPool count Work}
    (reached : pool.Reached) (alive : pool.threadsKeepalive = true)
    (queued : pool.jobqueue.len ≠ 0) (sleeper : Fin count)
    (asleep : pool.thread sleeper = .asleep) :
    pool.owner = .posting ∨
      ∃ index, (pool.thread index).Coming pool.hasJobs := by
  have awake := reached.sound.awake
  have token := awake.token alive queued
  cases posted : pool.hasJobs with
  | true =>
      have sleeps : 0 < tally ThreadPc.asleepWeight pool.thread :=
        tally_pos.mpr ⟨sleeper, by rw [asleep]; exact Nat.one_pos⟩
      obtain ⟨index, tests⟩ := tally_pos.mp (awake.tested posted sleeps)
      right
      refine ⟨index, ?_⟩
      cases pc : pool.thread index <;> simp_all [ThreadPc.Coming]
  | false =>
      rw [posted, Bool.toNat_false, Nat.zero_add] at token
      cases owner : pool.owner.holdsQueue with
      | true =>
          left
          cases pc : pool.owner <;> simp_all [OwnerPc.holdsQueue]
      | false =>
          rw [owner, Bool.toNat_false, Nat.zero_add] at token
          obtain ⟨index, bears⟩ := tally_pos.mp token
          exact Or.inr ⟨index, coming_of_bearer bears⟩

/-- Two threads fall asleep, a work is added and wakes the second one. -/
def firstSteps : List (PoolEvent 2 Nat) :=
  [.thread idler none, .thread worker none, .owner none, .thread idler none,
    .thread worker none, .thread idler none, .thread worker none,
    .addWork 7 { prev := none, work := 100 }, .owner (some worker)]

theorem queued_job_awaited_run :
    ∃ pool : ThreadPool 2 Nat, pool.thread 0 = .asleep ∧
      (pool.owner = .posting ∨
        ∃ index, (pool.thread index).Coming pool.hasJobs) :=
  ⟨after firstSteps, by decide +kernel,
    queued_job_awaited (reached_after firstSteps) (by decide +kernel)
      (by decide +kernel) 0 (by decide +kernel)⟩

end ThreadPool

end StreamIO.Pool
