import StreamIO.Library.Simulation
import StreamIO.Pool.Destroy

/-!
# What the pool is for

Seen from outside the pool is a server of works: it starts them in the order
in which they were added, as many at a time as it has threads, finishes each
one that it started, and throws works away only after it was closed.  What the
pool shows of its steps is always a run of that server.
-/

namespace StreamIO.Pool

open StreamIO.Library

variable {count : Nat} {Work : Type}

inductive TaskPhase where
  | taking
  | closing
  | dropping
  deriving DecidableEq, Repr

/-- Works that wait and works that are being done. -/
structure TaskServer (Work : Type) where
  phase : TaskPhase
  queued : List Work
  inService : Multiset Work

inductive TaskEvent (Work : Type) where
  | add (work : Work)
  | start (work : Work)
  | finish (work : Work)
  | waited
  | close
  | drop (work : Work)
  deriving DecidableEq, Repr

namespace TaskEvent

@[simp] def added : TaskEvent Work → Option Work
  | .add work => some work
  | _ => none

@[simp] def started : TaskEvent Work → Option Work
  | .start work => some work
  | _ => none

@[simp] def finished : TaskEvent Work → Option Work
  | .finish work => some work
  | _ => none

@[simp] def dropped : TaskEvent Work → Option Work
  | .drop work => some work
  | _ => none

@[simp] def closes : TaskEvent Work → Bool
  | .close => true
  | _ => false

end TaskEvent

namespace TaskServer

def opened : TaskServer Work :=
  { phase := .taking, queued := [], inService := 0 }

inductive Step (count : Nat) (server : TaskServer Work) :
    TaskEvent Work → TaskServer Work → Prop where
  | add {work : Work} : server.phase = .taking →
      Step count server (.add work)
        { server with queued := server.queued ++ [work] }
  | start {work : Work} {rest : List Work} : server.phase ≠ .dropping →
      server.queued = work :: rest → server.inService.card < count →
      Step count server (.start work)
        { server with
          queued := rest
          inService := work ::ₘ server.inService }
  | finish {work : Work} {rest : Multiset Work} :
      server.inService = work ::ₘ rest →
      Step count server (.finish work) { server with inService := rest }
  | waited : server.phase = .taking → server.queued = [] →
      server.inService = 0 → Step count server .waited server
  | close : server.phase = .taking →
      Step count server .close { server with phase := .closing }
  | drop {work : Work} {rest : List Work} : server.phase ≠ .taking →
      server.inService = 0 → server.queued = work :: rest →
      Step count server (.drop work)
        { server with phase := .dropping, queued := rest }

end TaskServer

def taskServers (count : Nat) (Work : Type) :
    TransitionSystem (TaskServer Work) (TaskEvent Work) where
  step server event next := server.Step count event next

namespace ThreadPool

def frontWork (pool : ThreadPool count Work) : Option Work :=
  (pool.jobqueue.front.bind pool.heap).map Job.work

/-- What a step shows of the works: the calls of the owner, its return from
`thpool_wait`, the pulls, and the returns of the works. -/
def shows (pool : ThreadPool count Work) :
    PoolEvent count Work → Option (TaskEvent Work)
  | .thread index _ =>
      match pool.thread index with
      | .pulling => pool.frontWork.map .start
      | .running _ work => some (.finish work)
      | _ => none
  | .owner _ =>
      match pool.owner with
      | .readingWorking =>
          if pool.numThreadsWorking = 0 then some .waited else none
      | .clearing => pool.frontWork.map .drop
      | _ => none
  | .addWork _ job => some (.add job.work)
  | .destroy => some .close
  | .wakeThread _ => none
  | .wakeOwner => none
  | .wait => none

/-- When a step may show this. -/
def Allows (pool : ThreadPool count Work) : TaskEvent Work → Prop
  | .add _ => pool.owner.destroys = false
  | .start _ => pool.owner.aloneInPool = false
  | .finish _ => True
  | .waited =>
      pool.owner = .readingWorking ∧ pool.numThreadsWorking = 0
  | .close => pool.owner.destroys = false
  | .drop _ => pool.owner.aloneInPool = true

/-- The works are booked as the step shows them. -/
structure Booked (pool next : ThreadPool count Work)
    (seen : Option (TaskEvent Work)) : Prop where
  added : next.added = pool.added ++ (seen.bind TaskEvent.added).toList
  taken : next.taken = pool.taken ++ (seen.bind TaskEvent.started).toList
  finished : next.finished =
    pool.finished ++ (seen.bind TaskEvent.finished).toList
  cleared : next.cleared =
    pool.cleared ++ (seen.bind TaskEvent.dropped).toList
  destroys : next.owner.destroys =
    (pool.owner.destroys || seen.any TaskEvent.closes)
  alone : pool.owner.aloneInPool = true → next.owner.aloneInPool = true
  allowed : ∀ event, seen = some event → pool.Allows event

theorem Booked.nothing {pool next : ThreadPool count Work}
    (added : next.added = pool.added) (taken : next.taken = pool.taken)
    (finished : next.finished = pool.finished)
    (cleared : next.cleared = pool.cleared)
    (destroys : next.owner.destroys = pool.owner.destroys)
    (alone : pool.owner.aloneInPool = true →
      next.owner.aloneInPool = true) :
    pool.Booked next none := by
  constructor
  · simpa using added
  · simpa using taken
  · simpa using finished
  · simpa using cleared
  · simpa using destroys
  · exact alone
  · intro event isEvent
    cases isEvent

theorem Stocked.pulled_works {pool : ThreadPool count Work}
    {jobs : List JobPtr} (stocked : pool.Stocked jobs) {pulled : Pulled}
    (isPulled : pool.jobqueue.jobqueuePull pool.heap = some pulled) :
    worksOf pool.heap pulled.job.toList = pool.frontWork.toList := by
  obtain ⟨result, found, front, _⟩ := stocked.chains.pull
  rw [isPulled, Option.some.injEq] at found
  subst result
  rw [front, frontWork, stocked.chains.front]
  cases jobs with
  | nil => rfl
  | cons first rest =>
      cases held : pool.heap first <;> simp [worksOf, held]

theorem Booked.pull {pool next : ThreadPool count Work}
    (notAlone : pool.owner.aloneInPool = false)
    (added : next.added = pool.added)
    (taken : next.taken = pool.taken ++ pool.frontWork.toList)
    (finished : next.finished = pool.finished)
    (cleared : next.cleared = pool.cleared)
    (owner : next.owner = pool.owner) :
    pool.Booked next (pool.frontWork.map .start) := by
  cases front : pool.frontWork with
  | none =>
      rw [front] at taken
      refine .nothing added ?_ finished cleared ?_ ?_
      · simpa using taken
      · rw [owner]
      · rw [owner]
        exact id
  | some work =>
      rw [front] at taken
      constructor
      · simpa using added
      · exact taken
      · simpa using finished
      · simpa using cleared
      · simp [owner]
      · rw [owner]
        exact id
      · intro event isEvent
        cases isEvent
        exact notAlone

theorem Booked.clear {pool next : ThreadPool count Work}
    (alone : pool.owner.aloneInPool = true)
    (added : next.added = pool.added) (taken : next.taken = pool.taken)
    (finished : next.finished = pool.finished)
    (cleared : next.cleared = pool.cleared ++ pool.frontWork.toList)
    (owner : next.owner = pool.owner) :
    pool.Booked next (pool.frontWork.map .drop) := by
  cases front : pool.frontWork with
  | none =>
      rw [front] at cleared
      refine .nothing added taken finished ?_ ?_ ?_
      · simpa using cleared
      · rw [owner]
      · rw [owner]
        exact id
  | some work =>
      rw [front] at cleared
      constructor
      · simpa using added
      · simpa using taken
      · simpa using finished
      · exact cleared
      · simp [owner]
      · rw [owner]
        exact id
      · intro event isEvent
        cases isEvent
        exact alone

theorem Stocked.booked_thread {pool next : ThreadPool count Work}
    {jobs : List JobPtr} (stocked : pool.Stocked jobs)
    (counted : pool.Counted) {index : Fin count}
    {signalled : Option (Fin count)} (step : ThreadStep pool index next) :
    pool.Booked next (pool.shows (.thread index signalled)) := by
  cases step with
  | start pc _ =>
      rw [shows, pc]
      exact .nothing rfl rfl rfl rfl rfl id
  | enter pc _ =>
      rw [shows, pc]
      exact .nothing rfl rfl rfl rfl rfl id
  | leave pc _ =>
      rw [shows, pc]
      exact .nothing rfl rfl rfl rfl rfl id
  | take pc _ =>
      rw [shows, pc]
      exact .nothing rfl rfl rfl rfl rfl id
  | sleep pc _ =>
      rw [shows, pc]
      exact .nothing rfl rfl rfl rfl rfl id
  | proceed pc _ =>
      rw [shows, pc]
      exact .nothing rfl rfl rfl rfl rfl id
  | abandon pc _ =>
      rw [shows, pc]
      exact .nothing rfl rfl rfl rfl rfl id
  | countUp pc _ =>
      rw [shows, pc]
      exact .nothing rfl rfl rfl rfl rfl id
  | pull pc _ isPulled =>
      rw [shows, pc]
      have notAlone := counted.not_alone index (by rw [pc]; rfl)
      refine .pull notAlone rfl ?_ rfl rfl rfl
      rw [← stocked.pulled_works isPulled]
      rfl
  | post pc _ =>
      rw [shows, pc]
      exact .nothing rfl rfl rfl rfl rfl id
  | nothing pc =>
      rw [shows, pc]
      exact .nothing rfl rfl rfl rfl rfl id
  | call pc _ =>
      rw [shows, pc]
      exact .nothing rfl rfl rfl rfl rfl id
  | finish pc _ =>
      rw [shows, pc]
      constructor
      · simp [setThread]
      · simp [setThread]
      · rfl
      · simp [setThread]
      · simp [setThread]
      · exact id
      · intro event isEvent
        cases isEvent
        trivial
  | countDown pc _ _ =>
      rw [shows, pc]
      exact .nothing rfl rfl rfl rfl rfl id
  | countOut pc _ _ =>
      rw [shows, pc]
      refine .nothing rfl rfl rfl rfl ?_ ?_
      · by_cases asleep : pool.owner = .asleep
        · simp [setThread, asleep]
        · simp [setThread, asleep]
      · by_cases asleep : pool.owner = .asleep
        · simp [asleep]
        · simp [setThread, asleep]
  | exit pc _ =>
      rw [shows, pc]
      exact .nothing rfl rfl rfl rfl rfl id
  | unlock pc =>
      rw [shows, pc]
      exact .nothing rfl rfl rfl rfl rfl id

theorem Booked.moveOwner {pool : ThreadPool count Work} {owner : OwnerPc}
    (destroys : owner.destroys = pool.owner.destroys)
    (alone : pool.owner.aloneInPool = true → owner.aloneInPool = true) :
    pool.Booked { pool with owner := owner } none :=
  .nothing rfl rfl rfl rfl destroys alone

theorem Stocked.booked_owner {pool next : ThreadPool count Work}
    {jobs : List JobPtr} (stocked : pool.Stocked jobs)
    {signalled : Option (Fin count)} (step : OwnerStep pool next) :
    pool.Booked next (pool.shows (.owner signalled)) := by
  cases step with
  | started pc _ =>
      rw [shows, pc]
      apply Booked.moveOwner <;> simp [pc]
  | post pc _ =>
      rw [shows, pc]
      refine .nothing rfl rfl rfl rfl ?_ ?_ <;> simp [pc]
  | lock pc _ =>
      rw [shows, pc]
      apply Booked.moveOwner <;> simp [pc]
  | noJobs pc _ =>
      rw [shows, pc]
      apply Booked.moveOwner <;> simp [pc]
  | someJobs pc _ =>
      rw [shows, pc]
      apply Booked.moveOwner <;> simp [pc]
  | nobodyWorks pc idle =>
      simp only [shows, pc, if_pos idle]
      constructor
      · simp
      · simp
      · simp
      · simp
      · simp [pc]
      · simp [pc]
      · intro event isEvent
        cases isEvent
        exact ⟨pc, idle⟩
  | somebodyWorks pc working =>
      simp only [shows, pc, if_neg working]
      apply Booked.moveOwner <;> simp [pc]
  | sleep pc =>
      rw [shows, pc]
      apply Booked.moveOwner <;> simp [pc]
  | nobodyAlive pc _ =>
      rw [shows, pc]
      apply Booked.moveOwner <;> simp [pc]
  | postAll pc _ =>
      rw [shows, pc]
      exact .nothing rfl rfl rfl rfl rfl id
  | @clear pulled heap signalled pc _ _ isPulled _ =>
      rw [shows, pc]
      have works := stocked.pulled_works isPulled
      have alone : pool.owner.aloneInPool = true := by
        rw [pc]
        rfl
      cases posts : pulled.posts with
      | true => exact .clear alone rfl rfl rfl (by rw [← works]) rfl
      | false => exact .clear alone rfl rfl rfl (by rw [← works]) rfl
  | cleared pc empty =>
      have none : pool.frontWork = none := by
        rw [frontWork, stocked.chains.front, stocked.jobs_eq_nil empty]
        rfl
      simp only [shows, pc, none]
      refine .nothing rfl rfl rfl rfl ?_ ?_ <;> simp [pc]

theorem Sound.booked {pool next : ThreadPool count Work}
    {event : PoolEvent count Work} (sound : pool.Sound)
    (step : (poolSystem count Work).step pool event next) :
    pool.Booked next (pool.shows event) := by
  obtain ⟨enabled, moved⟩ := step
  obtain ⟨jobs, stocked⟩ := sound.stocked
  cases event with
  | thread index signalled =>
      exact stocked.booked_thread sound.counted
        (threadDo_step enabled moved)
  | owner signalled =>
      exact stocked.booked_owner (ownerDo_step enabled moved)
  | wakeThread index =>
      rw [← Option.some.inj moved]
      exact .nothing rfl rfl rfl rfl rfl id
  | wakeOwner =>
      have asleep : pool.owner = .asleep := enabled
      rw [← Option.some.inj moved]
      apply Booked.moveOwner <;> simp [asleep]
  | addWork newjob job =>
      have outside : pool.owner = .outside := enabled.1
      obtain ⟨pushed, _, moved⟩ := Option.bind_eq_some_iff.mp moved
      rw [← Option.some.inj moved]
      constructor
      · rfl
      · simp [shows]
      · simp [shows]
      · simp [shows]
      · simp [shows, outside]
      · simp [outside]
      · intro event isEvent
        cases isEvent
        rw [Allows, outside]
        rfl
  | wait =>
      have outside : pool.owner = .outside := enabled
      rw [← Option.some.inj moved]
      apply Booked.moveOwner <;> simp [outside]
  | destroy =>
      have outside : pool.owner = .outside := enabled
      rw [← Option.some.inj moved]
      constructor
      · simp [shows]
      · simp [shows]
      · simp [shows]
      · simp [shows]
      · simp [shows]
      · simp [outside]
      · intro event isEvent
        cases isEvent
        rw [Allows, outside]
        rfl

/-- The pool is in the state of this server. -/
structure Serves (pool : ThreadPool count Work)
    (server : TaskServer Work) : Prop where
  queued : pool.added = pool.taken ++ pool.cleared ++ server.queued
  inService : (pool.taken : Multiset Work) =
    pool.finished + server.inService
  taking : server.phase = .taking ↔ pool.owner.destroys = false
  dropping : server.phase = .dropping → pool.owner.aloneInPool = true

theorem serves_init :
    (thpoolInit : ThreadPool count Work).Serves .opened := by
  constructor
  · rfl
  · rfl
  · exact ⟨fun _ => rfl, fun _ => rfl⟩
  · intro dropping
    cases dropping

/-- The server of a pool is determined by its jobs. -/
theorem Serves.queued_eq {pool : ThreadPool count Work}
    {server : TaskServer Work} {jobs : List JobPtr}
    (serves : pool.Serves server) (stocked : pool.Stocked jobs) :
    server.queued = worksOf pool.heap jobs :=
  List.append_cancel_left (serves.queued.symm.trans stocked.order)

theorem Serves.inService_eq {pool : ThreadPool count Work}
    {server : TaskServer Work} {jobs : List JobPtr}
    (serves : pool.Serves server) (stocked : pool.Stocked jobs) :
    server.inService = tally (inHand pool.heap) pool.hand :=
  Multiset.add_right_inj.mp
    (serves.inService.symm.trans stocked.conserved)

section Seen

variable {pool next : ThreadPool count Work} {server : TaskServer Work}
  {jobs left : List JobPtr}

theorem Serves.keepPhase {after : TaskServer Work}
    {seen : Option (TaskEvent Work)} (serves : pool.Serves server)
    (booked : pool.Booked next seen)
    (noClose : seen.any TaskEvent.closes = false)
    (phase : after.phase = server.phase)
    (queued : next.added = next.taken ++ next.cleared ++ after.queued)
    (inService : (next.taken : Multiset Work) =
      next.finished + after.inService) :
    next.Serves after := by
  have destroys := booked.destroys
  rw [noClose, Bool.or_false] at destroys
  constructor
  · exact queued
  · exact inService
  · rw [phase, destroys]
    exact serves.taking
  · rw [phase]
    intro dropping
    exact booked.alone (serves.dropping dropping)

theorem Serves.nothing (serves : pool.Serves server)
    (booked : pool.Booked next none) : next.Serves server := by
  have added : next.added = pool.added :=
    booked.added.trans (List.append_nil _)
  have taken : next.taken = pool.taken :=
    booked.taken.trans (List.append_nil _)
  have finished : next.finished = pool.finished :=
    booked.finished.trans (List.append_nil _)
  have cleared : next.cleared = pool.cleared :=
    booked.cleared.trans (List.append_nil _)
  apply serves.keepPhase booked rfl rfl
  · rw [added, taken, cleared]
    exact serves.queued
  · rw [taken, finished]
    exact serves.inService

theorem Serves.add {work : Work} (serves : pool.Serves server)
    (booked : pool.Booked next (some (.add work))) :
    ∃ after, server.Step count (.add work) after ∧ next.Serves after := by
  have added : next.added = pool.added ++ [work] := booked.added
  have taken : next.taken = pool.taken :=
    booked.taken.trans (List.append_nil _)
  have finished : next.finished = pool.finished :=
    booked.finished.trans (List.append_nil _)
  have cleared : next.cleared = pool.cleared :=
    booked.cleared.trans (List.append_nil _)
  have phase := serves.taking.mpr (booked.allowed _ rfl)
  refine ⟨_, .add phase, serves.keepPhase booked rfl rfl ?_ ?_⟩
  · rw [added, taken, cleared, serves.queued, List.append_assoc]
  · rw [taken, finished]
    exact serves.inService

theorem Serves.start {work : Work} (serves : pool.Serves server)
    (booked : pool.Booked next (some (.start work)))
    (stocked : pool.Stocked jobs) (stockedNext : next.Stocked left) :
    ∃ after, server.Step count (.start work) after ∧
      next.Serves after := by
  have added : next.added = pool.added :=
    booked.added.trans (List.append_nil _)
  have taken : next.taken = pool.taken ++ [work] := booked.taken
  have finished : next.finished = pool.finished :=
    booked.finished.trans (List.append_nil _)
  have cleared : next.cleared = pool.cleared :=
    booked.cleared.trans (List.append_nil _)
  have notAlone : pool.owner.aloneInPool = false := booked.allowed _ rfl
  have phase : server.phase ≠ .dropping := by
    intro dropping
    rw [serves.dropping dropping] at notAlone
    cases notAlone
  have noneCleared := stocked.unclear notAlone
  have queued : server.queued = work :: worksOf next.heap left := by
    have before := serves.queued
    have later := stockedNext.order
    rw [added, taken, cleared, noneCleared, before, noneCleared] at later
    simpa using later
  have room : server.inService.card < count := by
    have bounded := stockedNext.unfinished_le
    have cards := congrArg Multiset.card serves.inService
    rw [taken, finished, List.length_append, List.length_singleton]
      at bounded
    rw [Multiset.card_add, Multiset.coe_card, Multiset.coe_card] at cards
    omega
  refine ⟨_, .start phase queued room,
    serves.keepPhase booked rfl rfl ?_ ?_⟩
  · rw [added, taken, cleared, noneCleared, serves.queued, noneCleared,
      queued]
    simp
  · rw [taken, finished, ← Multiset.coe_add, serves.inService,
      ← Multiset.singleton_add, Multiset.coe_singleton]
    ac_rfl

theorem Serves.finish {work : Work} (serves : pool.Serves server)
    (booked : pool.Booked next (some (.finish work)))
    (stockedNext : next.Stocked left) :
    ∃ after, server.Step count (.finish work) after ∧
      next.Serves after := by
  have added : next.added = pool.added :=
    booked.added.trans (List.append_nil _)
  have taken : next.taken = pool.taken :=
    booked.taken.trans (List.append_nil _)
  have finished : next.finished = pool.finished ++ [work] := booked.finished
  have cleared : next.cleared = pool.cleared :=
    booked.cleared.trans (List.append_nil _)
  have inService : server.inService =
      work ::ₘ tally (inHand next.heap) next.hand := by
    apply Multiset.add_right_inj.mp
    calc
      (pool.finished : Multiset Work) + server.inService =
          next.taken := by rw [taken, serves.inService]
      _ = next.finished + tally (inHand next.heap) next.hand :=
        stockedNext.conserved
      _ = pool.finished +
          (work ::ₘ tally (inHand next.heap) next.hand) := by
        rw [finished, ← Multiset.coe_add, Multiset.coe_singleton,
          ← Multiset.singleton_add, add_assoc]
  refine ⟨_, .finish inService, serves.keepPhase booked rfl rfl ?_ ?_⟩
  · rw [added, taken, cleared]
    exact serves.queued
  · exact stockedNext.conserved

theorem Serves.waited (serves : pool.Serves server)
    (booked : pool.Booked next (some .waited)) (sound : pool.Sound)
    (watched : pool.Watched) :
    ∃ after, server.Step count .waited after ∧ next.Serves after := by
  have added : next.added = pool.added :=
    booked.added.trans (List.append_nil _)
  have taken : next.taken = pool.taken :=
    booked.taken.trans (List.append_nil _)
  have finished : next.finished = pool.finished :=
    booked.finished.trans (List.append_nil _)
  have cleared : next.cleared = pool.cleared :=
    booked.cleared.trans (List.append_nil _)
  obtain ⟨jobs, stocked⟩ := sound.stocked
  obtain ⟨reading, idle⟩ := booked.allowed _ rfl
  have phase := serves.taking.mpr (by rw [reading]; rfl)
  have queued : server.queued = [] := by
    rw [serves.queued_eq stocked,
      stocked.jobs_eq_nil (watched.emptied reading)]
    rfl
  have inService : server.inService = 0 := by
    rw [serves.inService_eq stocked]
    apply Finset.sum_eq_zero
    intro index _
    rw [sound.counted.hands_empty idle index]
    rfl
  refine ⟨_, .waited phase queued inService,
    serves.keepPhase booked rfl rfl ?_ ?_⟩
  · rw [added, taken, cleared]
    exact serves.queued
  · rw [taken, finished]
    exact serves.inService

theorem Serves.close (serves : pool.Serves server)
    (booked : pool.Booked next (some .close)) :
    ∃ after, server.Step count .close after ∧ next.Serves after := by
  have added : next.added = pool.added :=
    booked.added.trans (List.append_nil _)
  have taken : next.taken = pool.taken :=
    booked.taken.trans (List.append_nil _)
  have finished : next.finished = pool.finished :=
    booked.finished.trans (List.append_nil _)
  have cleared : next.cleared = pool.cleared :=
    booked.cleared.trans (List.append_nil _)
  have destroys : next.owner.destroys = true :=
    booked.destroys.trans (Bool.or_true _)
  have phase := serves.taking.mpr (booked.allowed _ rfl)
  refine ⟨_, .close phase, ?_⟩
  constructor
  · rw [added, taken, cleared]
    exact serves.queued
  · rw [taken, finished]
    exact serves.inService
  · rw [destroys]
    constructor
    · intro taking
      cases taking
    · intro destroying
      cases destroying
  · intro dropping
    cases dropping

theorem Serves.drop {work : Work} (serves : pool.Serves server)
    (booked : pool.Booked next (some (.drop work))) (sound : pool.Sound)
    (stockedNext : next.Stocked left) :
    ∃ after, server.Step count (.drop work) after ∧
      next.Serves after := by
  have added : next.added = pool.added :=
    booked.added.trans (List.append_nil _)
  have taken : next.taken = pool.taken :=
    booked.taken.trans (List.append_nil _)
  have finished : next.finished = pool.finished :=
    booked.finished.trans (List.append_nil _)
  have cleared : next.cleared = pool.cleared ++ [work] := booked.cleared
  have isAlone : pool.owner.aloneInPool = true := booked.allowed _ rfl
  have isDestroying := destroys_of_alone isAlone
  have destroys : next.owner.destroys = true := by
    rw [booked.destroys, isDestroying]
    rfl
  have phase : server.phase ≠ .taking := by
    intro taking
    rw [serves.taking.mp taking] at isDestroying
    cases isDestroying
  obtain ⟨jobs, stocked⟩ := sound.stocked
  have inService : server.inService = 0 := by
    rw [serves.inService_eq stocked]
    apply Finset.sum_eq_zero
    intro index _
    rw [show pool.hand index = none from
      sound.counted.empty_hands isAlone index]
    rfl
  have queued : server.queued = work :: worksOf next.heap left := by
    have later := stockedNext.order
    rw [added, taken, cleared, serves.queued] at later
    simpa using later
  refine ⟨_, .drop phase inService queued, ?_⟩
  constructor
  · exact stockedNext.order
  · rw [taken, finished]
    exact serves.inService
  · rw [destroys]
    constructor
    · intro taking
      cases taking
    · intro notDestroying
      cases notDestroying
  · intro _
    exact booked.alone isAlone

end Seen

/-- What a step shows is a step of the server. -/
theorem Serves.step {pool next : ThreadPool count Work}
    {event : PoolEvent count Work} {server : TaskServer Work}
    (serves : pool.Serves server) (sound : pool.Sound)
    (watched : pool.Watched)
    (step : (poolSystem count Work).step pool event next) :
    ∃ after, (taskServers count Work).Run server
      (pool.shows event).toList after ∧ next.Serves after := by
  have booked := sound.booked step
  obtain ⟨jobs, stocked⟩ := sound.stocked
  obtain ⟨left, stockedNext⟩ := (sound.step step).stocked
  cases shown : pool.shows event with
  | none =>
      rw [shown] at booked
      exact ⟨server, .refl server, serves.nothing booked⟩
  | some seen =>
      rw [shown] at booked
      have taken : ∃ after, server.Step count seen after ∧
          next.Serves after := by
        cases seen with
        | add work => exact serves.add booked
        | start work => exact serves.start booked stocked stockedNext
        | finish work => exact serves.finish booked stockedNext
        | waited => exact serves.waited booked sound watched
        | close => exact serves.close booked
        | drop work => exact serves.drop booked sound stockedNext
      obtain ⟨after, moved, nowServes⟩ := taken
      exact ⟨after, .single moved, nowServes⟩

def poolSimulation (count : Nat) (Work : Type) :
    Simulation (poolSystem count Work) shows (taskServers count Work) where
  related pool server :=
    (pool.Sound ∧ pool.Watched) ∧ pool.Serves server
  matched := by
    rintro pool event next server ⟨⟨sound, watched⟩, serves⟩ step
    obtain ⟨after, run, nowServes⟩ := serves.step sound watched step
    exact ⟨after, run, ⟨sound.step step, watched.step sound step⟩,
      nowServes⟩

/-- What the pool shows of its steps, whatever their order, is a run of the
server of works with as many places as there are threads. -/
theorem pool_refines_server {pool : ThreadPool count Work}
    {seen : List (TaskEvent Work)}
    (shown : (poolSystem count Work).Shown shows thpoolInit seen pool) :
    ∃ server, (taskServers count Work).Run .opened seen server ∧
      pool.Serves server := by
  obtain ⟨server, run, _, serves⟩ :=
    (poolSimulation count Work).run shown
      ⟨⟨sound_init, watched_init⟩, serves_init⟩
  exact ⟨server, run, serves⟩

/-- The owner is back from waiting for the work. -/
def waitedSteps : List (PoolEvent 2 Nat) :=
  waitingSteps ++ [.owner none]

theorem pool_refines_server_run :
    ∃ pool : ThreadPool 2 Nat, pool.owner = .outside ∧
      ∃ server, (taskServers 2 Nat).Run .opened
        [.add 100, .start 100, .finish 100, .waited] server ∧
        pool.Serves server := by
  have shown : (poolSystem 2 Nat).Shown shows thpoolInit
      ((poolMachine 2 Nat).showing shows thpoolInit waitedSteps)
      (after waitedSteps) :=
    (poolMachine 2 Nat).shown_after shows (by decide +kernel)
  have seen : (poolMachine 2 Nat).showing shows thpoolInit waitedSteps =
      [.add 100, .start 100, .finish 100, .waited] := by
    decide +kernel
  rw [seen] at shown
  exact ⟨after waitedSteps, by decide +kernel, pool_refines_server shown⟩

end ThreadPool

end StreamIO.Pool
