import StreamIO.Pool.ThreadPool

/-!
# The counters of the thread pool

`num_threads_alive` and `num_threads_working` count the threads between two
points of `thread_do`, each lock is kept by one party at most, and nobody
leaves the loop of `thread_do` before `thpool_destroy` was called.
-/

namespace StreamIO.Pool

open StreamIO.Library

variable {count : Nat} {Work : Type}

namespace ThreadPc

@[simp] def startingWeight : ThreadPc Work → Nat
  | .starting => 1
  | _ => 0

/-- Counted by `num_threads_alive`. -/
@[simp] def aliveWeight : ThreadPc Work → Nat
  | .starting => 0
  | .unlocking => 0
  | .exited => 0
  | _ => 1

/-- Counted by `num_threads_working`. -/
@[simp] def workingWeight : ThreadPc Work → Nat
  | .pulling => 1
  | .posting _ => 1
  | .pulled _ => 1
  | .running _ _ => 1
  | .countingDown => 1
  | _ => 0

/-- Out of the loop of `thread_do`. -/
@[simp] def leftWeight : ThreadPc Work → Nat
  | .exiting => 1
  | .unlocking => 1
  | .exited => 1
  | _ => 0

def countLockWeight (pc : ThreadPc Work) : Nat := pc.holdsCount.toNat

def queueLockWeight (pc : ThreadPc Work) : Nat := pc.holdsQueue.toNat

end ThreadPc

/-- Inside `thpool_destroy`. -/
@[simp] def OwnerPc.destroys : OwnerPc → Bool
  | .destroying => true
  | .clearing => true
  | .destroyed => true
  | _ => false

/-- `thpool_destroy` has seen `num_threads_alive` at zero. -/
@[simp] def OwnerPc.aloneInPool : OwnerPc → Bool
  | .clearing => true
  | .destroyed => true
  | _ => false

namespace ThreadPool

theorem signal_eq_of_awake {thread : Fin count → ThreadPc Work}
    {signalled : Option (Fin count)} {index : Fin count}
    (awake : (thread index).isAsleep = false)
    (signals : ∀ sleeper, signalled = some sleeper →
      (thread sleeper).isAsleep = true) :
    signal thread signalled index = thread index := by
  cases signalled with
  | none => rfl
  | some sleeper =>
      have apart : index ≠ sleeper := by
        intro same
        rw [same, signals sleeper rfl] at awake
        cases awake
      exact Function.update_of_ne apart ..

theorem Signals.sleeps {pool : ThreadPool count Work}
    {signalled : Option (Fin count)} (signals : pool.Signals signalled)
    (sleeper : Fin count) (isSignalled : signalled = some sleeper) :
    (pool.thread sleeper).isAsleep = true := by
  rw [isSignalled] at signals
  exact signals

theorem isAsleep_iff {pc : ThreadPc Work} :
    pc.isAsleep = true ↔ pc = .asleep := by
  cases pc <;> simp [ThreadPc.isAsleep]

theorem tally_signal {pool : ThreadPool count Work}
    {signalled : Option (Fin count)} (signals : pool.Signals signalled)
    (weight : ThreadPc Work → Nat) :
    tally weight (signal pool.thread signalled) +
        signalled.toList.length * weight .asleep =
      tally weight pool.thread +
        signalled.toList.length * weight .testing := by
  cases signalled with
  | none => simp [signal]
  | some sleeper =>
      have asleep : pool.thread sleeper = .asleep := isAsleep_iff.mp signals
      have moved := tally_update weight pool.thread sleeper .testing
      rw [asleep] at moved
      simpa [signal] using moved

theorem tally_signal_same {pool : ThreadPool count Work}
    {signalled : Option (Fin count)} (signals : pool.Signals signalled)
    {weight : ThreadPc Work → Nat}
    (same : weight .asleep = weight .testing) :
    tally weight (signal pool.thread signalled) =
      tally weight pool.thread := by
  have moved := tally_signal signals weight
  rw [same] at moved
  omega

theorem tally_broadcast_same (thread : Fin count → ThreadPc Work)
    {weight : ThreadPc Work → Nat}
    (same : weight .asleep = weight .testing) :
    tally weight (broadcast thread) = tally weight thread := by
  apply Finset.sum_congr rfl
  intro index _
  unfold broadcast
  split
  · rename_i asleep
    rw [isAsleep_iff.mp asleep, same]
  · rfl

theorem toNat_pos {flag : Bool} : 0 < flag.toNat ↔ flag = true := by
  cases flag <;> simp

theorem countLocked_iff (pool : ThreadPool count Work) :
    pool.CountLocked ↔
      0 < pool.owner.holdsCount.toNat +
        tally ThreadPc.countLockWeight pool.thread := by
  rw [Nat.add_pos_iff_pos_or_pos, tally_pos]
  simp [CountLocked, ThreadPc.countLockWeight, toNat_pos]

theorem queueLocked_iff (pool : ThreadPool count Work) :
    pool.QueueLocked ↔
      0 < pool.owner.holdsQueue.toNat +
        tally ThreadPc.queueLockWeight pool.thread := by
  rw [Nat.add_pos_iff_pos_or_pos, tally_pos]
  simp [QueueLocked, ThreadPc.queueLockWeight, toNat_pos]

/-- The counters are right, and each lock is kept once. -/
structure Counted (pool : ThreadPool count Work) : Prop where
  alive : pool.numThreadsAlive = tally ThreadPc.aliveWeight pool.thread
  working : pool.numThreadsWorking =
    tally ThreadPc.workingWeight pool.thread
  countLock : pool.owner.holdsCount.toNat +
    tally ThreadPc.countLockWeight pool.thread ≤ 1
  queueLock : pool.owner.holdsQueue.toNat +
    tally ThreadPc.queueLockWeight pool.thread ≤ 1
  keepalive : pool.threadsKeepalive = !pool.owner.destroys
  started : pool.owner ≠ .starting →
    tally ThreadPc.startingWeight pool.thread = 0
  staying : pool.threadsKeepalive = true →
    tally ThreadPc.leftWeight pool.thread = 0
  alone : pool.owner.aloneInPool = true → pool.numThreadsAlive = 0

theorem counted_init :
    (thpoolInit : ThreadPool count Work).Counted := by
  constructor
  · simp [thpoolInit]
  · simp [thpoolInit]
  · simp [thpoolInit, OwnerPc.holdsCount, ThreadPc.countLockWeight,
      ThreadPc.holdsCount]
  · simp [thpoolInit, OwnerPc.holdsQueue, ThreadPc.queueLockWeight,
      ThreadPc.holdsQueue]
  · rfl
  · intro other
    exact (other rfl).elim
  · simp [thpoolInit]
  · intro alone
    cases alone

theorem wakes_same {Seen : Type} {before after : OwnerPc}
    (owner : after = before ∨ before = .asleep ∧ after = .locking)
    (observe : OwnerPc → Seen) (same : observe .locking = observe .asleep) :
    observe after = observe before := by
  rcases owner with stays | ⟨sleeps, locks⟩
  · rw [stays]
  · rw [sleeps, locks, same]

/-- A lock that one party keeps is taken only when it is free. -/
theorem lock_once {owner kept next mine : Nat} {takes : Bool}
    (once : owner + kept ≤ 1)
    (moved : next + mine = kept + takes.toNat)
    (free : takes = true → ¬0 < owner + kept) : owner + next ≤ 1 := by
  cases takes with
  | false =>
      rw [Bool.toNat_false] at moved
      omega
  | true =>
      have isFree := free rfl
      rw [Bool.toNat_true] at moved
      omega

theorem lock_passed {kept : Nat} {holds takes : Bool}
    (once : holds.toNat + kept ≤ 1)
    (free : takes = true → holds = true ∨ ¬0 < holds.toNat + kept) :
    takes.toNat + kept ≤ 1 := by
  cases takes with
  | false =>
      rw [Bool.toNat_false]
      omega
  | true =>
      rcases free rfl with held | isFree
      · rw [held] at once
        exact once
      · rw [Bool.toNat_true]
        omega

/-- A step of a thread keeps the counters right if it changes them with the
thread's place, and takes a lock that is free. -/
theorem Counted.moveThread {pool next : ThreadPool count Work}
    (counted : pool.Counted) {index : Fin count} {pc : ThreadPc Work}
    (thread : next.thread = Function.update pool.thread index pc)
    (owner : next.owner = pool.owner ∨
      pool.owner = .asleep ∧ next.owner = .locking)
    (keepalive : next.threadsKeepalive = pool.threadsKeepalive)
    (alive : next.numThreadsAlive + (pool.thread index).aliveWeight =
      pool.numThreadsAlive + pc.aliveWeight)
    (working : next.numThreadsWorking + (pool.thread index).workingWeight =
      pool.numThreadsWorking + pc.workingWeight)
    (countFree : pc.holdsCount = true → ¬pool.CountLocked)
    (queueFree : pc.holdsQueue = true → ¬pool.QueueLocked)
    (notStarting : pc.startingWeight = 0)
    (enters : pc.aliveWeight ≤
      (pool.thread index).aliveWeight + (pool.thread index).startingWeight)
    (leaves : pc.leftWeight ≤ (pool.thread index).leftWeight ∨
      pool.threadsKeepalive = false) :
    next.Counted := by
  have aliveMoved :=
    tally_update ThreadPc.aliveWeight pool.thread index pc
  have workingMoved :=
    tally_update ThreadPc.workingWeight pool.thread index pc
  have countMoved :=
    tally_update ThreadPc.countLockWeight pool.thread index pc
  have queueMoved :=
    tally_update ThreadPc.queueLockWeight pool.thread index pc
  have startingMoved :=
    tally_update ThreadPc.startingWeight pool.thread index pc
  have leftMoved :=
    tally_update ThreadPc.leftWeight pool.thread index pc
  rw [← thread] at aliveMoved workingMoved countMoved
  rw [← thread] at queueMoved startingMoved leftMoved
  have sameCount := wakes_same owner OwnerPc.holdsCount rfl
  have sameQueue := wakes_same owner OwnerPc.holdsQueue rfl
  constructor
  · have before := counted.alive
    omega
  · have before := counted.working
    omega
  · rw [sameCount]
    apply lock_once counted.countLock countMoved
    rw [← countLocked_iff]
    exact countFree
  · rw [sameQueue]
    apply lock_once counted.queueLock queueMoved
    rw [← queueLocked_iff]
    exact queueFree
  · rw [keepalive, counted.keepalive, wakes_same owner OwnerPc.destroys rfl]
  · intro notStartingOwner
    have before : tally ThreadPc.startingWeight pool.thread = 0 := by
      apply counted.started
      rcases owner with same | ⟨before, _⟩
      · rw [← same]
        exact notStartingOwner
      · rw [before]
        exact OwnerPc.noConfusion
    omega
  · intro alive
    rw [keepalive] at alive
    have before := counted.staying alive
    rcases leaves with stays | ended
    · omega
    · rw [ended] at alive
      cases alive
  · intro alone
    rw [wakes_same owner OwnerPc.aloneInPool rfl] at alone
    have before := counted.alone alone
    have counts := counted.alive
    have mine : (pool.thread index).aliveWeight ≤
        tally ThreadPc.aliveWeight pool.thread := le_tally
    have starting : tally ThreadPc.startingWeight pool.thread = 0 := by
      apply counted.started
      intro starting
      rw [starting] at alone
      cases alone
    have mineStarting : (pool.thread index).startingWeight ≤
        tally ThreadPc.startingWeight pool.thread := le_tally
    omega

theorem Counted.bsemPost {pool : ThreadPool count Work}
    (counted : pool.Counted) {signalled : Option (Fin count)}
    (signals : pool.Signals signalled) :
    (pool.bsemPost signalled).Counted := by
  constructor
  · exact counted.alive.trans (tally_signal_same signals rfl).symm
  · exact counted.working.trans (tally_signal_same signals rfl).symm
  · exact (congrArg _ (tally_signal_same signals rfl)).trans_le
      counted.countLock
  · exact (congrArg _ (tally_signal_same signals rfl)).trans_le
      counted.queueLock
  · exact counted.keepalive
  · intro started
    exact (tally_signal_same signals rfl).trans (counted.started started)
  · intro alive
    exact (tally_signal_same signals rfl).trans (counted.staying alive)
  · exact counted.alone

theorem Counted.bsemPostAll {pool : ThreadPool count Work}
    (counted : pool.Counted) : pool.bsemPostAll.Counted := by
  constructor
  · exact counted.alive.trans (tally_broadcast_same _ rfl).symm
  · exact counted.working.trans (tally_broadcast_same _ rfl).symm
  · exact (congrArg _ (tally_broadcast_same _ rfl)).trans_le
      counted.countLock
  · exact (congrArg _ (tally_broadcast_same _ rfl)).trans_le
      counted.queueLock
  · exact counted.keepalive
  · intro started
    exact (tally_broadcast_same _ rfl).trans (counted.started started)
  · intro alive
    exact (tally_broadcast_same _ rfl).trans (counted.staying alive)
  · exact counted.alone

theorem posting_index {pool : ThreadPool count Work} {index : Fin count}
    {job : Option JobPtr} {signalled : Option (Fin count)}
    (pc : pool.thread index = .posting job)
    (signals : pool.Signals signalled) :
    (pool.bsemPost signalled).thread index = .posting job := by
  calc
    signal pool.thread signalled index = pool.thread index :=
      signal_eq_of_awake (by rw [pc]; rfl) signals.sleeps
    _ = .posting job := pc

theorem Counted.working_pos {pool : ThreadPool count Work}
    (counted : pool.Counted) (index : Fin count)
    (works : (pool.thread index).workingWeight = 1) :
    0 < pool.numThreadsWorking := by
  have mine : (pool.thread index).workingWeight ≤
      tally ThreadPc.workingWeight pool.thread := le_tally
  rw [counted.working]
  omega

theorem Counted.alive_pos {pool : ThreadPool count Work}
    (counted : pool.Counted) (index : Fin count)
    (lives : (pool.thread index).aliveWeight = 1) :
    0 < pool.numThreadsAlive := by
  have mine : (pool.thread index).aliveWeight ≤
      tally ThreadPc.aliveWeight pool.thread := le_tally
  rw [counted.alive]
  omega

theorem Counted.not_destroying {pool : ThreadPool count Work}
    (counted : pool.Counted) (alive : pool.threadsKeepalive = true) :
    pool.owner.destroys = false := by
  have keepalive := counted.keepalive
  rw [alive] at keepalive
  simpa using keepalive.symm

theorem destroys_of_alone {owner : OwnerPc}
    (alone : owner.aloneInPool = true) : owner.destroys = true := by
  cases owner <;> simp_all

theorem Counted.not_alone_of_alive {pool : ThreadPool count Work}
    (counted : pool.Counted) (alive : pool.threadsKeepalive = true) :
    pool.owner.aloneInPool = false := by
  cases alone : pool.owner.aloneInPool with
  | false => rfl
  | true =>
      have destroys := destroys_of_alone alone
      rw [counted.not_destroying alive] at destroys
      cases destroys

theorem Counted.threadStep {pool next : ThreadPool count Work}
    {index : Fin count} (counted : pool.Counted)
    (step : ThreadStep pool index next) : next.Counted := by
  cases step with
  | start pc free =>
      refine counted.moveThread rfl (.inl rfl) rfl ?_ ?_ ?_ ?_ ?_ ?_ ?_
      all_goals simp [setThread, pc, ThreadPc.holdsCount,
        ThreadPc.holdsQueue]
  | enter pc _ =>
      refine counted.moveThread rfl (.inl rfl) rfl ?_ ?_ ?_ ?_ ?_ ?_ ?_
      all_goals simp [setThread, pc, ThreadPc.holdsCount,
        ThreadPc.holdsQueue]
  | leave pc ended =>
      refine counted.moveThread rfl (.inl rfl) rfl ?_ ?_ ?_ ?_ ?_ ?_ ?_
      all_goals simp [setThread, pc, ended, ThreadPc.holdsCount,
        ThreadPc.holdsQueue]
  | take pc _ =>
      refine counted.moveThread rfl (.inl rfl) rfl ?_ ?_ ?_ ?_ ?_ ?_ ?_
      all_goals simp [setThread, pc, ThreadPc.holdsCount,
        ThreadPc.holdsQueue]
  | sleep pc _ =>
      refine counted.moveThread rfl (.inl rfl) rfl ?_ ?_ ?_ ?_ ?_ ?_ ?_
      all_goals simp [setThread, pc, ThreadPc.holdsCount,
        ThreadPc.holdsQueue]
  | proceed pc _ =>
      refine counted.moveThread rfl (.inl rfl) rfl ?_ ?_ ?_ ?_ ?_ ?_ ?_
      all_goals simp [setThread, pc, ThreadPc.holdsCount,
        ThreadPc.holdsQueue]
  | abandon pc _ =>
      refine counted.moveThread rfl (.inl rfl) rfl ?_ ?_ ?_ ?_ ?_ ?_ ?_
      all_goals simp [setThread, pc, ThreadPc.holdsCount,
        ThreadPc.holdsQueue]
  | countUp pc free =>
      refine counted.moveThread rfl (.inl rfl) rfl ?_ ?_ ?_ ?_ ?_ ?_ ?_
      all_goals simp [setThread, pc, ThreadPc.holdsCount,
        ThreadPc.holdsQueue]
  | @pull pulled pc free _ =>
      cases posts : pulled.posts with
      | true =>
          refine counted.moveThread rfl (.inl rfl) rfl ?_ ?_ ?_ ?_ ?_ ?_ ?_
          all_goals simp [setThread, pc, free, ThreadPc.holdsCount]
      | false =>
          refine counted.moveThread rfl (.inl rfl) rfl ?_ ?_ ?_ ?_ ?_ ?_ ?_
          all_goals simp [setThread, pc, ThreadPc.holdsCount,
            ThreadPc.holdsQueue]
  | post pc signals =>
      have posted := posting_index pc signals
      refine (counted.bsemPost signals).moveThread rfl (.inl rfl) rfl
        ?_ ?_ ?_ ?_ ?_ ?_ ?_
      all_goals simp [setThread, posted, ThreadPc.holdsCount,
        ThreadPc.holdsQueue]
  | nothing pc =>
      refine counted.moveThread rfl (.inl rfl) rfl ?_ ?_ ?_ ?_ ?_ ?_ ?_
      all_goals simp [setThread, pc, ThreadPc.holdsCount,
        ThreadPc.holdsQueue]
  | call pc _ =>
      refine counted.moveThread rfl (.inl rfl) rfl ?_ ?_ ?_ ?_ ?_ ?_ ?_
      all_goals simp [setThread, pc, ThreadPc.holdsCount,
        ThreadPc.holdsQueue]
  | finish pc _ =>
      refine counted.moveThread rfl (.inl rfl) rfl ?_ ?_ ?_ ?_ ?_ ?_ ?_
      all_goals simp [setThread, pc, ThreadPc.holdsCount,
        ThreadPc.holdsQueue]
  | countDown pc free _ =>
      have works := counted.working_pos index (by rw [pc]; rfl)
      refine counted.moveThread rfl (.inl rfl) rfl ?_ ?_ ?_ ?_ ?_ ?_ ?_
      all_goals simp [setThread, pc, ThreadPc.holdsCount,
        ThreadPc.holdsQueue]
      omega
  | countOut pc free last =>
      have works := counted.working_pos index (by rw [pc]; rfl)
      refine counted.moveThread rfl ?_ rfl ?_ ?_ ?_ ?_ ?_ ?_ ?_
      · by_cases asleep : pool.owner = .asleep
        · right
          exact ⟨asleep, if_pos asleep⟩
        · left
          exact if_neg asleep
      all_goals simp [setThread, pc, ThreadPc.holdsCount,
        ThreadPc.holdsQueue]
      omega
  | exit pc free =>
      have lives := counted.alive_pos index (by rw [pc]; rfl)
      refine counted.moveThread rfl (.inl rfl) rfl ?_ ?_ ?_ ?_ ?_ ?_ ?_
      all_goals simp [setThread, pc, free, ThreadPc.holdsQueue]
      omega
  | unlock pc =>
      refine counted.moveThread rfl (.inl rfl) rfl ?_ ?_ ?_ ?_ ?_ ?_ ?_
      all_goals simp [setThread, pc, ThreadPc.holdsCount,
        ThreadPc.holdsQueue]

theorem Counted.all_started {pool : ThreadPool count Work}
    (counted : pool.Counted) (all : pool.numThreadsAlive = count) :
    tally ThreadPc.startingWeight pool.thread = 0 := by
  have once : tally (fun pc : ThreadPc Work =>
      pc.aliveWeight + pc.startingWeight) pool.thread ≤
        Fintype.card (Fin count) := by
    apply tally_le_card
    intro pc
    cases pc <;> simp
  rw [tally_add, Fintype.card_fin, ← counted.alive] at once
  omega

theorem Counted.moveOwner {pool next : ThreadPool count Work}
    (counted : pool.Counted) (thread : next.thread = pool.thread)
    (alive : next.numThreadsAlive = pool.numThreadsAlive)
    (working : next.numThreadsWorking = pool.numThreadsWorking)
    (keepalive : next.threadsKeepalive = !next.owner.destroys)
    (kept : next.threadsKeepalive = true → pool.threadsKeepalive = true)
    (countFree : next.owner.holdsCount = true →
      pool.owner.holdsCount = true ∨ ¬pool.CountLocked)
    (queueFree : next.owner.holdsQueue = true →
      pool.owner.holdsQueue = true ∨ ¬pool.QueueLocked)
    (started : pool.owner ≠ .starting ∨ pool.numThreadsAlive = count)
    (alone : next.owner.aloneInPool = true → pool.numThreadsAlive = 0) :
    next.Counted := by
  constructor
  · rw [alive, thread]
    exact counted.alive
  · rw [working, thread]
    exact counted.working
  · rw [thread]
    apply lock_passed counted.countLock
    rw [← countLocked_iff]
    exact countFree
  · rw [thread]
    apply lock_passed counted.queueLock
    rw [← queueLocked_iff]
    exact queueFree
  · exact keepalive
  · intro _
    rw [thread]
    rcases started with before | all
    · exact counted.started before
    · exact counted.all_started all
  · intro now
    rw [thread]
    exact counted.staying (kept now)
  · intro now
    rw [alive]
    exact alone now

theorem Counted.ownerStep {pool next : ThreadPool count Work}
    (counted : pool.Counted) (step : OwnerStep pool next) :
    next.Counted := by
  have keepalive := counted.keepalive
  cases step with
  | started pc all =>
      refine counted.moveOwner rfl rfl rfl ?_ id ?_ ?_ (.inr all) ?_
      all_goals simp_all [OwnerPc.holdsCount, OwnerPc.holdsQueue]
  | post pc signals =>
      refine (counted.bsemPost signals).moveOwner rfl rfl rfl
        ?_ id ?_ ?_ (.inl ?_) ?_
      all_goals simp_all [ThreadPool.bsemPost, OwnerPc.holdsCount,
        OwnerPc.holdsQueue]
  | lock pc free =>
      refine counted.moveOwner rfl rfl rfl ?_ id ?_ ?_ (.inl ?_) ?_
      all_goals simp_all [OwnerPc.holdsCount, OwnerPc.holdsQueue]
  | noJobs pc _ =>
      refine counted.moveOwner rfl rfl rfl ?_ id ?_ ?_ (.inl ?_) ?_
      all_goals simp_all [OwnerPc.holdsCount, OwnerPc.holdsQueue]
  | someJobs pc _ =>
      refine counted.moveOwner rfl rfl rfl ?_ id ?_ ?_ (.inl ?_) ?_
      all_goals simp_all [OwnerPc.holdsCount, OwnerPc.holdsQueue]
  | nobodyWorks pc _ =>
      refine counted.moveOwner rfl rfl rfl ?_ id ?_ ?_ (.inl ?_) ?_
      all_goals simp_all [OwnerPc.holdsCount, OwnerPc.holdsQueue]
  | somebodyWorks pc _ =>
      refine counted.moveOwner rfl rfl rfl ?_ id ?_ ?_ (.inl ?_) ?_
      all_goals simp_all [OwnerPc.holdsCount, OwnerPc.holdsQueue]
  | sleep pc =>
      refine counted.moveOwner rfl rfl rfl ?_ id ?_ ?_ (.inl ?_) ?_
      all_goals simp_all [OwnerPc.holdsCount, OwnerPc.holdsQueue]
  | nobodyAlive pc dead =>
      refine counted.moveOwner rfl rfl rfl ?_ id ?_ ?_ (.inl ?_) ?_
      all_goals simp_all [OwnerPc.holdsCount, OwnerPc.holdsQueue]
  | postAll _ _ => exact counted.bsemPostAll
  | @clear pulled heap signalled pc _ signals _ _ =>
      have alone : pool.numThreadsAlive = 0 :=
        counted.alone (by rw [pc]; rfl)
      cases posts : pulled.posts with
      | true =>
          refine (counted.bsemPost signals).moveOwner rfl rfl rfl
            ?_ id ?_ ?_ (.inl ?_) ?_
          all_goals simp_all [ThreadPool.bsemPost, OwnerPc.holdsCount,
            OwnerPc.holdsQueue]
      | false =>
          refine counted.moveOwner rfl rfl rfl ?_ id ?_ ?_ (.inl ?_) ?_
          all_goals simp_all [OwnerPc.holdsCount, OwnerPc.holdsQueue]
  | cleared pc _ =>
      have alone : pool.numThreadsAlive = 0 :=
        counted.alone (by rw [pc]; rfl)
      refine counted.moveOwner rfl rfl rfl ?_ id ?_ ?_ (.inl ?_) ?_
      all_goals simp_all [OwnerPc.holdsCount, OwnerPc.holdsQueue]

/-- Every step keeps the counters right. -/
theorem Counted.step {pool next : ThreadPool count Work}
    {event : PoolEvent count Work} (counted : pool.Counted)
    (step : (poolSystem count Work).step pool event next) :
    next.Counted := by
  obtain ⟨enabled, moved⟩ := step
  have keepalive := counted.keepalive
  cases event with
  | thread index signalled =>
      exact counted.threadStep (threadDo_step enabled moved)
  | owner signalled => exact counted.ownerStep (ownerDo_step enabled moved)
  | wakeThread index =>
      have asleep := isAsleep_iff.mp enabled
      rw [← Option.some.inj moved]
      refine counted.moveThread rfl (.inl rfl) rfl ?_ ?_ ?_ ?_ ?_ ?_ ?_
      all_goals simp [setThread, asleep, ThreadPc.holdsCount,
        ThreadPc.holdsQueue]
  | wakeOwner =>
      have asleep : pool.owner = .asleep := enabled
      rw [← Option.some.inj moved]
      refine counted.moveOwner rfl rfl rfl ?_ id ?_ ?_ (.inl ?_) ?_
      all_goals simp_all [OwnerPc.holdsCount, OwnerPc.holdsQueue]
  | addWork newjob job =>
      obtain ⟨outside, _, free⟩ := enabled
      obtain ⟨pushed, _, moved⟩ := Option.bind_eq_some_iff.mp moved
      rw [← Option.some.inj moved]
      refine counted.moveOwner rfl rfl rfl ?_ id ?_ ?_ (.inl ?_) ?_
      all_goals simp_all [OwnerPc.holdsCount]
  | wait =>
      have outside : pool.owner = .outside := enabled
      rw [← Option.some.inj moved]
      refine counted.moveOwner rfl rfl rfl ?_ id ?_ ?_ (.inl ?_) ?_
      all_goals simp_all [OwnerPc.holdsCount, OwnerPc.holdsQueue]
  | destroy =>
      have outside : pool.owner = .outside := enabled
      rw [← Option.some.inj moved]
      refine counted.moveOwner rfl rfl rfl rfl ?_ ?_ ?_ (.inl ?_) ?_
      all_goals simp_all [OwnerPc.holdsCount, OwnerPc.holdsQueue]

/-- A pool that a run from `thpool_init` can end in. -/
def Reached (pool : ThreadPool count Work) : Prop :=
  (poolSystem count Work).Reachable thpoolInit pool

/-- The pool after some events from `thpool_init`. -/
def after (events : List (PoolEvent count Work)) : ThreadPool count Work :=
  (poolMachine count Work).after thpoolInit events

theorem reached_after (events : List (PoolEvent count Work)) :
    (after events).Reached :=
  (poolMachine count Work).reachable_after thpoolInit events

/-- The threads of a pool of two. -/
def idler : Fin 2 := 0

def worker : Fin 2 := 1

end ThreadPool

end StreamIO.Pool
