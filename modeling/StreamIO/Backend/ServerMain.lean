import StreamIO.Pool.Destroy

/-!
# The loop of the server

`server_main` hands every connection it accepts to a pool of four threads.
After `SIGINT` it leaves the loop, waits for the pool and destroys it; a
failed `accept` ends the process.
-/

namespace StreamIO.Backend

open StreamIO.Library StreamIO.Pool

/-- Where `server_main` stands: at `while (!stop)`, at `accept`, in or behind
`thpool_wait`, in or behind `thpool_destroy`, or in `exit`. -/
inductive MainPc where
  | testing
  | accepting
  | waiting
  | destroying
  | exited
  deriving DecidableEq, Repr

/-- The process: `accepted` records the sockets that `accept` has returned,
`dropped` those that `thpool_add_work` had no memory for.  A work of the pool
is the socket that `start_task` is called with. -/
structure ServerMain where
  pc : MainPc
  stop : Bool
  pool : ThreadPool 4 Int
  accepted : List Int
  dropped : List Int

/-- `newjob` is the job that `malloc` returns in `thpool_add_work`, with
whatever its link is. -/
inductive MainEvent where
  | pool (event : PoolEvent 4 Int)
  | test
  | accept (newsockfd : Int) (newjob : Option (JobPtr × Option JobPtr))
  | destroy
  | sigint

/-- A step inside the pool, or a spurious wake-up. -/
def OfPool : PoolEvent 4 Int → Prop
  | .thread _ _ => True
  | .wakeThread _ => True
  | .owner _ => True
  | .wakeOwner => True
  | .addWork _ _ => False
  | .wait => False
  | .destroy => False

namespace ServerMain

/-- `thpool_init` has created the threads. -/
def start : ServerMain :=
  { pc := .testing, stop := false, pool := .thpoolInit, accepted := [],
    dropped := [] }

def move (main : ServerMain) : MainEvent → Option ServerMain
  | .pool event => do
      let pool ← main.pool.move event
      return { main with pool := pool }
  | .test =>
      if main.stop then do
        let pool ← main.pool.move .wait
        return { main with pc := .waiting, pool := pool }
      else some { main with pc := .accepting }
  | .accept newsockfd newjob =>
      if newsockfd < 0 then some { main with pc := .exited }
      else
        match newjob with
        | none =>
            some { main with
              pc := .testing
              accepted := main.accepted ++ [newsockfd]
              dropped := main.dropped ++ [newsockfd] }
        | some (newjob, prev) => do
            let pool ← main.pool.move
              (.addWork newjob { prev := prev, work := newsockfd })
            return { main with
              pc := .testing
              pool := pool
              accepted := main.accepted ++ [newsockfd] }
  | .destroy => do
      let pool ← main.pool.move .destroy
      return { main with pc := .destroying, pool := pool }
  | .sigint => some { main with stop := true }

/-- A job can be added, if there is one. -/
def CanAdd (main : ServerMain) (newsockfd : Int) :
    Option (JobPtr × Option JobPtr) → Prop
  | none => True
  | some (newjob, prev) =>
      main.pool.Enabled (.addWork newjob { prev := prev, work := newsockfd })

/-- `server_main` moves when it is not inside a function of the pool. -/
def Enabled (main : ServerMain) : MainEvent → Prop
  | .pool event => main.pc ≠ .exited ∧ OfPool event ∧ main.pool.Enabled event
  | .test => main.pc = .testing ∧ main.pool.owner = .outside
  | .accept newsockfd newjob =>
      main.pc = .accepting ∧ (0 ≤ newsockfd → main.CanAdd newsockfd newjob)
  | .destroy => main.pc = .waiting ∧ main.pool.owner = .outside
  | .sigint => True

end ServerMain

instance : DecidablePred OfPool
  | .thread _ _ => isTrue trivial
  | .wakeThread _ => isTrue trivial
  | .owner _ => isTrue trivial
  | .wakeOwner => isTrue trivial
  | .addWork _ _ => isFalse id
  | .wait => isFalse id
  | .destroy => isFalse id

instance (main : ServerMain) (newsockfd : Int) :
    DecidablePred (main.CanAdd newsockfd)
  | none => isTrue trivial
  | some (newjob, prev) => inferInstanceAs (Decidable
      (main.pool.Enabled
        (.addWork newjob { prev := prev, work := newsockfd })))

instance (main : ServerMain) : DecidablePred main.Enabled
  | .pool event =>
      inferInstanceAs (Decidable (main.pc ≠ .exited ∧ OfPool event ∧
        main.pool.Enabled event))
  | .test =>
      inferInstanceAs (Decidable (main.pc = .testing ∧
        main.pool.owner = .outside))
  | .accept newsockfd newjob =>
      inferInstanceAs (Decidable (main.pc = .accepting ∧
        (0 ≤ newsockfd → main.CanAdd newsockfd newjob)))
  | .destroy =>
      inferInstanceAs (Decidable (main.pc = .waiting ∧
        main.pool.owner = .outside))
  | .sigint => isTrue trivial

def mainMachine : GuardedMachine ServerMain MainEvent where
  enabled := ServerMain.Enabled
  move := ServerMain.move

instance (main : ServerMain) : DecidablePred (mainMachine.enabled main) :=
  inferInstanceAs (DecidablePred main.Enabled)

def serverMains : TransitionSystem ServerMain MainEvent := mainMachine.system

/-- Inside `thpool_wait`. -/
@[simp] def waitsInside : OwnerPc → Bool
  | .locking => true
  | .readingLen => true
  | .readingWorking => true
  | .sleeping => true
  | .asleep => true
  | _ => false

section Pool

variable {pool next : ThreadPool 4 Int} {event : PoolEvent 4 Int}

/-- Inside the pool no work is added and `thpool_destroy` is not called. -/
theorem ofPool_same (ofPool : OfPool event)
    (step : (poolSystem 4 Int).step pool event next) :
    next.added = pool.added ∧
      next.threadsKeepalive = pool.threadsKeepalive := by
  obtain ⟨enabled, moved⟩ := step
  cases event with
  | thread index signalled =>
      cases ThreadPool.threadDo_step enabled moved <;> exact ⟨rfl, rfl⟩
  | owner signalled =>
      cases ThreadPool.ownerDo_step enabled moved with
      | @clear pulled heap signalled pc queued signals isPulled freed =>
          cases pulled.posts <;> exact ⟨rfl, rfl⟩
      | _ => exact ⟨rfl, rfl⟩
  | wakeThread index =>
      rw [← Option.some.inj moved]
      exact ⟨rfl, rfl⟩
  | wakeOwner =>
      rw [← Option.some.inj moved]
      exact ⟨rfl, rfl⟩
  | addWork newjob job => exact ofPool.elim
  | wait => exact ofPool.elim
  | destroy => exact ofPool.elim

/-- `thpool_wait` has not returned, or has returned with an empty queue. -/
def Waits (pool : ThreadPool 4 Int) : Prop :=
  waitsInside pool.owner = true ∨
    pool.owner = .outside ∧ pool.jobqueue.len = 0

theorem waits_step (waits : Waits pool) (reached : pool.Reached)
    (ofPool : OfPool event)
    (step : (poolSystem 4 Int).step pool event next) : Waits next := by
  have watched := reached.watched
  obtain ⟨jobs, stocked⟩ := reached.sound.stocked
  obtain ⟨enabled, moved⟩ := step
  cases event with
  | thread index signalled =>
      cases ThreadPool.threadDo_step enabled moved with
      | pull pc _ isPulled =>
          rcases waits with inside | ⟨outside, empty⟩
          · exact Or.inl inside
          · have shorter := stocked.pull_len isPulled
            rw [empty] at shorter
            exact Or.inr ⟨outside, Nat.eq_zero_of_le_zero shorter⟩
      | countOut _ _ _ =>
          by_cases asleep : pool.owner = .asleep
          · left
            simp [ThreadPool.setThread, asleep]
          · simpa [Waits, ThreadPool.setThread, asleep] using waits
      | _ => exact waits
  | owner signalled =>
      have inside : waitsInside pool.owner = true := by
        rcases waits with inside | ⟨outside, _⟩
        · exact inside
        · have ready : pool.OwnerPcReady signalled pool.owner := enabled
          rw [outside] at ready
          exact ready.elim
      cases ThreadPool.ownerDo_step enabled moved with
      | lock _ _ => exact Or.inl rfl
      | noJobs _ _ => exact Or.inl rfl
      | someJobs _ _ => exact Or.inl rfl
      | nobodyWorks reading _ =>
          exact Or.inr ⟨rfl, watched.emptied reading⟩
      | somebodyWorks _ _ => exact Or.inl rfl
      | sleep _ => exact Or.inl rfl
      | started pc => simp [pc] at inside
      | post pc => simp [pc] at inside
      | nobodyAlive pc => simp [pc] at inside
      | postAll pc => simp [pc] at inside
      | clear pc => simp [pc] at inside
      | cleared pc => simp [pc] at inside
  | wakeThread index =>
      rw [← Option.some.inj moved]
      exact waits
  | wakeOwner =>
      rw [← Option.some.inj moved]
      exact Or.inl rfl
  | addWork newjob job => exact ofPool.elim
  | wait => exact ofPool.elim
  | destroy => exact ofPool.elim

end Pool

/-- The works of the pool are the connections that were accepted and not
dropped, and the pool is destroyed after it was waited for. -/
structure ServesAccepted (main : ServerMain) : Prop where
  reached : main.pool.Reached
  ordered : main.pool.added.Sublist main.accepted
  accounted : main.accepted.Perm (main.pool.added ++ main.dropped)
  keepalive : main.pc ≠ .destroying → main.pool.threadsKeepalive = true
  waits : main.pc = .waiting → Waits main.pool
  drained : main.pc = .destroying → main.pool.Drained main.pool.added

namespace ServesAccepted

variable {main : ServerMain}

theorem start : ServesAccepted .start :=
  { reached := .refl _ _
    ordered := .slnil
    accounted := .nil
    keepalive := fun _ => rfl
    waits := fun waiting => nomatch waiting
    drained := fun destroying => nomatch destroying }

theorem pool (serves : ServesAccepted main) {event : PoolEvent 4 Int}
    (ofPool : OfPool event) {next : ThreadPool 4 Int}
    (step : (poolSystem 4 Int).step main.pool event next) :
    ServesAccepted { main with pool := next } := by
  obtain ⟨added, keepalive⟩ := ofPool_same ofPool step
  constructor
  · exact serves.reached.step step
  · rw [added]
    exact serves.ordered
  · rw [added]
    exact serves.accounted
  · intro other
    exact keepalive.trans (serves.keepalive other)
  · intro waiting
    exact waits_step (serves.waits waiting) serves.reached ofPool step
  · intro destroying
    rw [added]
    exact (serves.drained destroying).step step

theorem accept (serves : ServesAccepted main) (pc : main.pc = .accepting)
    {newsockfd : Int} {newjob : JobPtr} {prev : Option JobPtr}
    {next : ThreadPool 4 Int}
    (step : (poolSystem 4 Int).step main.pool
      (.addWork newjob { prev := prev, work := newsockfd }) next) :
    ServesAccepted { main with
      pc := .testing
      pool := next
      accepted := main.accepted ++ [newsockfd] } := by
  have reached := serves.reached.step step
  obtain ⟨pushed, _, moved⟩ := Option.bind_eq_some_iff.mp step.2
  have same := Option.some.inj moved
  have added : next.added = main.pool.added ++ [newsockfd] := by
    rw [← same]
  constructor
  · exact reached
  · rw [added]
    exact serves.ordered.append_right [newsockfd]
  · rw [added, List.append_assoc]
    have after := serves.accounted.append_right [newsockfd]
    rw [List.append_assoc] at after
    exact after.trans (List.perm_append_comm.append_left _)
  · intro _
    rw [← same]
    exact serves.keepalive (by rw [pc]; exact MainPc.noConfusion)
  · intro waiting
    cases waiting
  · intro destroying
    cases destroying

theorem drop (serves : ServesAccepted main) (pc : main.pc = .accepting)
    (newsockfd : Int) :
    ServesAccepted { main with
      pc := .testing
      accepted := main.accepted ++ [newsockfd]
      dropped := main.dropped ++ [newsockfd] } := by
  constructor
  · exact serves.reached
  · exact serves.ordered.trans (List.sublist_append_left _ _)
  · rw [← List.append_assoc]
    exact serves.accounted.append_right [newsockfd]
  · intro _
    exact serves.keepalive (by rw [pc]; exact MainPc.noConfusion)
  · intro waiting
    cases waiting
  · intro destroying
    cases destroying

theorem wait (serves : ServesAccepted main) (pc : main.pc = .testing)
    {next : ThreadPool 4 Int}
    (step : (poolSystem 4 Int).step main.pool .wait next) :
    ServesAccepted { main with pc := .waiting, pool := next } := by
  have reached := serves.reached.step step
  have same := Option.some.inj step.2
  constructor
  · exact reached
  · rw [← same]
    exact serves.ordered
  · rw [← same]
    exact serves.accounted
  · intro _
    rw [← same]
    exact serves.keepalive (by rw [pc]; exact MainPc.noConfusion)
  · intro _
    left
    rw [← same]
    rfl
  · intro destroying
    cases destroying

theorem destroy (serves : ServesAccepted main) (pc : main.pc = .waiting)
    {next : ThreadPool 4 Int}
    (step : (poolSystem 4 Int).step main.pool .destroy next) :
    ServesAccepted { main with pc := .destroying, pool := next } := by
  have outside : main.pool.owner = .outside := step.1
  have empty : main.pool.jobqueue.len = 0 := by
    rcases serves.waits pc with inside | ⟨_, empty⟩
    · rw [outside] at inside
      cases inside
    · exact empty
  have drained := ThreadPool.Drained.called serves.reached.sound empty step
  constructor
  · exact serves.reached.step step
  · rw [drained.added]
    exact serves.ordered
  · rw [drained.added]
    exact serves.accounted
  · intro other
    exact (other rfl).elim
  · intro waiting
    cases waiting
  · intro _
    rw [drained.added]
    exact drained

theorem goTo (serves : ServesAccepted main) {pc : MainPc} {stop : Bool}
    (before : main.pc ≠ .destroying) (waiting : pc ≠ .waiting)
    (destroying : pc ≠ .destroying) :
    ServesAccepted { main with pc := pc, stop := stop } :=
  { reached := serves.reached
    ordered := serves.ordered
    accounted := serves.accounted
    keepalive := fun _ => serves.keepalive before
    waits := fun same => (waiting same).elim
    drained := fun same => (destroying same).elim }

theorem step (serves : ServesAccepted main) {event : MainEvent}
    {next : ServerMain} (step : serverMains.step main event next) :
    ServesAccepted next := by
  have enabled : main.Enabled event := step.1
  have moved : main.move event = some next := step.2
  cases event with
  | pool event =>
      obtain ⟨_, ofPool, enabled⟩ := enabled
      obtain ⟨pool, movedPool, moved⟩ := Option.bind_eq_some_iff.mp moved
      rw [← Option.some.inj moved]
      exact serves.pool ofPool ⟨enabled, movedPool⟩
  | test =>
      obtain ⟨pc, outside⟩ := enabled
      cases stop : main.stop with
      | true =>
          rw [ServerMain.move, if_pos stop] at moved
          obtain ⟨pool, movedPool, moved⟩ :=
            Option.bind_eq_some_iff.mp moved
          rw [← Option.some.inj moved]
          exact serves.wait pc ⟨outside, movedPool⟩
      | false =>
          rw [ServerMain.move, if_neg (by rw [stop]; exact Bool.noConfusion)]
            at moved
          rw [← Option.some.inj moved]
          apply serves.goTo
          · rw [pc]
            exact MainPc.noConfusion
          · exact MainPc.noConfusion
          · exact MainPc.noConfusion
  | accept newsockfd newjob =>
      obtain ⟨pc, enabled⟩ := enabled
      by_cases failed : newsockfd < 0
      · simp only [ServerMain.move, if_pos failed,
          Option.some.injEq] at moved
        rw [← moved]
        apply serves.goTo
        · rw [pc]
          exact MainPc.noConfusion
        · exact MainPc.noConfusion
        · exact MainPc.noConfusion
      · have canAdd := enabled (Int.not_lt.mp failed)
        cases newjob with
        | none =>
            simp only [ServerMain.move, if_neg failed,
              Option.some.injEq] at moved
            rw [← moved]
            exact serves.drop pc newsockfd
        | some newjob =>
            simp only [ServerMain.move, if_neg failed] at moved
            obtain ⟨pool, movedPool, moved⟩ :=
              Option.bind_eq_some_iff.mp moved
            rw [← Option.some.inj moved]
            exact serves.accept pc ⟨canAdd, movedPool⟩
  | destroy =>
      obtain ⟨pc, outside⟩ := enabled
      rw [ServerMain.move] at moved
      obtain ⟨pool, movedPool, moved⟩ := Option.bind_eq_some_iff.mp moved
      rw [← Option.some.inj moved]
      exact serves.destroy pc ⟨outside, movedPool⟩
  | sigint =>
      rw [← Option.some.inj moved]
      exact
        { reached := serves.reached
          ordered := serves.ordered
          accounted := serves.accounted
          keepalive := serves.keepalive
          waits := serves.waits
          drained := serves.drained }

theorem reachable
    (reached : serverMains.Reachable .start main) : ServesAccepted main :=
  reached.invariant ServesAccepted start
    fun _ _ _ serves step => serves.step step

/-- Until the pool is destroyed nothing is thrown away. -/
theorem cleared (serves : ServesAccepted main) : main.pool.cleared = [] := by
  by_cases destroying : main.pc = .destroying
  · exact (serves.drained destroying).kept
  · obtain ⟨jobs, stocked⟩ := serves.reached.sound.stocked
    exact stocked.unclear (serves.reached.sound.counted.not_alone_of_alive
      (serves.keepalive destroying))

end ServesAccepted

/-- The connections that were accepted are those given to the pool, in this
order, and those dropped.  The pool takes them up in the order in which they
were accepted, each at most once and four at a time at most, and throws none
away.  When `server_main` has destroyed the pool, every connection that was
not dropped has been served to its end, and no job is left. -/
theorem server_main_serves {main : ServerMain}
    (reached : serverMains.Reachable .start main) :
    main.pool.added.Sublist main.accepted ∧
      main.accepted.Perm (main.pool.added ++ main.dropped) ∧
      main.pool.taken <+: main.pool.added ∧
      main.pool.finished.Subperm main.pool.taken ∧
      main.pool.taken.length ≤ main.pool.finished.length + 4 ∧
      main.pool.cleared = [] ∧
      (main.pool.owner = .destroyed →
        main.accepted.Perm (main.pool.finished ++ main.dropped) ∧
          ∀ job, main.pool.heap job = none) := by
  have serves := ServesAccepted.reachable reached
  obtain ⟨jobs, stocked⟩ := serves.reached.sound.stocked
  have order := stocked.order
  rw [serves.cleared, List.append_nil] at order
  refine ⟨serves.ordered, serves.accounted, ?_, ?_, stocked.unfinished_le,
    serves.cleared, ?_⟩
  · rw [order]
    exact List.prefix_append _ _
  · rw [← Multiset.coe_le, stocked.conserved]
    exact Multiset.le_add_right _ _
  · intro destroyed
    have destroying : main.pc = .destroying := by
      by_contra other
      have keepalive := serves.reached.sound.counted.keepalive
      rw [serves.keepalive other, destroyed] at keepalive
      cases keepalive
    have drained := serves.drained destroying
    have alone : main.pool.owner.aloneInPool = true := by
      rw [destroyed]
      rfl
    constructor
    · have finished := drained.finished_perm destroyed
      exact serves.accounted.trans (finished.symm.append_right _)
    · rw [stocked.jobs_eq_nil drained.empty] at stocked
      exact stocked.placed.nothing
        (serves.reached.sound.counted.empty_hands alone)

/-- Two connections are accepted, one is served and the other one dropped,
and the server is stopped. -/
def twoConnections : List MainEvent :=
  [.pool (.thread 0 none), .pool (.thread 1 none), .pool (.thread 2 none),
    .pool (.thread 3 none), .pool (.owner none), .test,
    .accept 5 (some (7, none)), .pool (.owner none), .test, .accept 6 none,
    .pool (.thread 0 none), .pool (.thread 0 none), .pool (.thread 0 none),
    .pool (.thread 0 none), .pool (.thread 0 none), .pool (.thread 0 none),
    .pool (.thread 0 none), .pool (.thread 0 none), .sigint, .test,
    .pool (.owner none), .pool (.owner none), .pool (.owner none), .destroy,
    .pool (.thread 0 none), .pool (.thread 0 none), .pool (.thread 0 none),
    .pool (.thread 1 none), .pool (.thread 1 none), .pool (.thread 1 none),
    .pool (.thread 2 none), .pool (.thread 2 none), .pool (.thread 2 none),
    .pool (.thread 3 none), .pool (.thread 3 none), .pool (.thread 3 none),
    .pool (.owner none), .pool (.owner none)]

theorem server_main_serves_two :
    ∃ main : ServerMain, main.accepted = [5, 6] ∧ main.dropped = [6] ∧
      main.pool.owner = .destroyed ∧ main.pool.cleared = [] ∧
      [5, 6].Perm (main.pool.finished ++ [6]) ∧
      ∀ job, main.pool.heap job = none := by
  let main := mainMachine.after .start twoConnections
  have accepted : main.accepted = [5, 6] := by decide +kernel
  have dropped : main.dropped = [6] := by decide +kernel
  have destroyed : main.pool.owner = .destroyed := by decide +kernel
  obtain ⟨_, _, _, _, _, cleared, served⟩ :=
    server_main_serves (mainMachine.reachable_after .start twoConnections)
  have all := served destroyed
  rw [accepted, dropped] at all
  exact ⟨main, accepted, dropped, destroyed, cleared, all⟩

end StreamIO.Backend
