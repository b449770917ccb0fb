import Mathlib.Algebra.Order.Group.Multiset
import StreamIO.Pool.Counting

/-!
# Where the jobs are

Every allocated job is in the queue or in the hands of one thread, and in one
of these places only.  So a thread follows no pointer to a job that is gone,
the works are pulled in the order in which they were added, and each pulled
work is finished or in the hands of one thread.
-/

namespace StreamIO.Pool

open StreamIO.Library

variable {count : Nat} {Work : Type}

/-- The job a thread has pulled and not freed. -/
def ThreadPc.job : ThreadPc Work → Option JobPtr
  | .posting job => job
  | .pulled job => job
  | .running job _ => some job
  | _ => none

/-- The works of a job in somebody's hands. -/
def inHand (heap : JobHeap Work) (job : Option JobPtr) : Multiset Work :=
  worksOf heap job.toList

@[simp] theorem inHand_none (heap : JobHeap Work) :
    inHand heap none = 0 := rfl

theorem inHand_congr {heap other : JobHeap Work} {job : Option JobPtr}
    (same : ∀ held, job = some held →
      (heap held).map Job.work = (other held).map Job.work) :
    inHand heap job = inHand other job := by
  cases job with
  | none => rfl
  | some job =>
      rw [inHand, inHand, worksOf_congr]
      intro held member
      rw [List.mem_singleton.mp member]
      exact same job rfl

theorem tally_inHand_congr {heap other : JobHeap Work}
    {hand : Fin count → Option JobPtr}
    (same : ∀ index held, hand index = some held →
      (heap held).map Job.work = (other held).map Job.work) :
    tally (inHand heap) hand = tally (inHand other) hand := by
  apply Finset.sum_congr rfl
  intro index _
  apply inHand_congr
  intro held isHeld
  exact same index held isHeld

/-- The allocated jobs are those in the queue and those in the hands of the
threads. -/
structure Placed (heap : JobHeap Work) (jobs : List JobPtr)
    (hand : Fin count → Option JobPtr) : Prop where
  held : ∀ index job, hand index = some job →
    job ∉ jobs ∧ (heap job).isSome
  apart : ∀ left right job, hand left = some job → hand right = some job →
    left = right
  owned : ∀ job, (heap job).isSome →
    job ∈ jobs ∨ ∃ index, hand index = some job

namespace Placed

variable {heap : JobHeap Work} {jobs : List JobPtr}
  {hand : Fin count → Option JobPtr} {index : Fin count}

theorem nothing (placed : Placed heap [] hand)
    (empty : ∀ index, hand index = none) (job : JobPtr) :
    heap job = none := by
  by_contra live
  rcases placed.owned job (Option.isSome_iff_ne_none.mpr live)
    with member | ⟨index, holds⟩
  · cases member
  · rw [empty index] at holds
    cases holds

theorem take {first : JobPtr} {rest : List JobPtr}
    (placed : Placed heap (first :: rest) hand)
    (distinct : (first :: rest).Nodup) (allocated : (heap first).isSome)
    (empty : hand index = none) :
    Placed heap rest (Function.update hand index (some first)) := by
  obtain ⟨fresh, _⟩ := List.nodup_cons.mp distinct
  have nobody : ∀ other, hand other ≠ some first := by
    intro other holds
    exact (placed.held other first holds).1 List.mem_cons_self
  constructor
  · intro other job holds
    by_cases same : other = index
    · rw [same, Function.update_self, Option.some.injEq] at holds
      rw [← holds]
      exact ⟨fresh, allocated⟩
    · rw [Function.update_of_ne same] at holds
      obtain ⟨outside, live⟩ := placed.held other job holds
      exact ⟨fun member => outside (List.mem_cons_of_mem _ member), live⟩
  · intro left right job leftHolds rightHolds
    by_cases leftSame : left = index
    · by_cases rightSame : right = index
      · rw [leftSame, rightSame]
      · rw [leftSame, Function.update_self] at leftHolds
        rw [Function.update_of_ne rightSame, ← leftHolds] at rightHolds
        exact (nobody right rightHolds).elim
    · rw [Function.update_of_ne leftSame] at leftHolds
      by_cases rightSame : right = index
      · rw [rightSame, Function.update_self] at rightHolds
        rw [← rightHolds] at leftHolds
        exact (nobody left leftHolds).elim
      · rw [Function.update_of_ne rightSame] at rightHolds
        exact placed.apart left right job leftHolds rightHolds
  · intro job live
    rcases placed.owned job live with member | ⟨other, holds⟩
    · rcases List.mem_cons.mp member with same | later
      · right
        refine ⟨index, ?_⟩
        rw [Function.update_self, same]
      · exact Or.inl later
    · right
      refine ⟨other, ?_⟩
      rw [Function.update_of_ne]
      · exact holds
      · intro same
        rw [same, empty] at holds
        cases holds

theorem free {job : JobPtr} (placed : Placed heap jobs hand)
    (holds : hand index = some job) :
    Placed (Function.update heap job none) jobs
      (Function.update hand index none) := by
  have others : ∀ other held,
      Function.update hand index none other = some held →
        other ≠ index ∧ hand other = some held := by
    intro other held isHeld
    by_cases same : other = index
    · rw [same, Function.update_self] at isHeld
      cases isHeld
    · rw [Function.update_of_ne same] at isHeld
      exact ⟨same, isHeld⟩
  constructor
  · intro other held isHeld
    obtain ⟨different, before⟩ := others other held isHeld
    obtain ⟨outside, live⟩ := placed.held other held before
    refine ⟨outside, ?_⟩
    rw [Function.update_of_ne]
    · exact live
    · intro same
      rw [same] at before
      exact different (placed.apart other index job before holds)
  · intro left right held leftHolds rightHolds
    exact placed.apart left right held (others left held leftHolds).2
      (others right held rightHolds).2
  · intro held live
    have different : held ≠ job := by
      intro same
      rw [same, Function.update_self] at live
      cases live
    rw [Function.update_of_ne different] at live
    rcases placed.owned held live with member | ⟨other, before⟩
    · exact Or.inl member
    · right
      refine ⟨other, ?_⟩
      rw [Function.update_of_ne]
      · exact before
      · intro same
        rw [same, holds, Option.some.injEq] at before
        exact different before.symm

theorem add {next : JobHeap Work} {newjob : JobPtr}
    (placed : Placed heap jobs hand) (fresh : heap newjob = none)
    (same : ∀ job, job ≠ newjob → (next job).isSome = (heap job).isSome) :
    Placed next (jobs ++ [newjob]) hand := by
  constructor
  · intro index job holds
    obtain ⟨outside, live⟩ := placed.held index job holds
    have different : job ≠ newjob := by
      intro equal
      rw [equal, fresh] at live
      cases live
    refine ⟨?_, ?_⟩
    · simp [outside, different]
    · rw [same job different]
      exact live
  · exact placed.apart
  · intro job live
    by_cases equal : job = newjob
    · left
      simp [equal]
    · rw [same job equal] at live
      rcases placed.owned job live with member | holds
      · left
        exact List.mem_append_left _ member
      · exact Or.inr holds

theorem clear {first : JobPtr} {rest : List JobPtr}
    (placed : Placed heap (first :: rest) hand) :
    Placed (Function.update heap first none) rest hand := by
  constructor
  · intro index job holds
    obtain ⟨outside, live⟩ := placed.held index job holds
    rw [List.mem_cons, not_or] at outside
    refine ⟨outside.2, ?_⟩
    rw [Function.update_of_ne outside.1]
    exact live
  · exact placed.apart
  · intro job live
    have different : job ≠ first := by
      intro same
      rw [same, Function.update_self] at live
      cases live
    rw [Function.update_of_ne different] at live
    rcases placed.owned job live with member | holds
    · rcases List.mem_cons.mp member with same | later
      · exact (different same).elim
      · exact Or.inl later
    · exact Or.inr holds

end Placed

namespace ThreadPool

def hand (pool : ThreadPool count Work) (index : Fin count) :
    Option JobPtr :=
  (pool.thread index).job

theorem hand_setThread (pool : ThreadPool count Work) (index : Fin count)
    (pc : ThreadPc Work) :
    (pool.setThread index pc).hand =
      Function.update pool.hand index pc.job := by
  funext other
  by_cases same : other = index
  · rw [same]
    simp [hand, setThread]
  · simp [hand, setThread, same]

/-- The jobs in the queue are these; nothing is lost and nothing is there
twice. -/
structure Stocked (pool : ThreadPool count Work) (jobs : List JobPtr) :
    Prop where
  chains : pool.jobqueue.Chains pool.heap jobs
  placed : Placed pool.heap jobs pool.hand
  reads : ∀ index job work, pool.thread index = .running job work →
    (pool.heap job).map Job.work = some work
  order : pool.added =
    pool.taken ++ pool.cleared ++ worksOf pool.heap jobs
  conserved : (pool.taken : Multiset Work) =
    pool.finished + tally (inHand pool.heap) pool.hand
  unclear : pool.owner.aloneInPool = false → pool.cleared = []

theorem Stocked.jobs_eq_nil {pool : ThreadPool count Work}
    {jobs : List JobPtr} (stocked : pool.Stocked jobs)
    (empty : pool.jobqueue.len = 0) : jobs = [] := by
  rw [stocked.chains.len] at empty
  exact List.eq_nil_of_length_eq_zero empty

theorem card_inHand (heap : JobHeap Work) (job : Option JobPtr) :
    (inHand heap job).card ≤ 1 := by
  have short : (worksOf heap job.toList).length ≤ job.toList.length :=
    List.length_filterMap_le _ _
  have one : job.toList.length ≤ 1 := by
    cases job <;> simp
  exact Nat.le_trans short one

/-- No more works are being done than there are threads. -/
theorem Stocked.unfinished_le {pool : ThreadPool count Work}
    {jobs : List JobPtr} (stocked : pool.Stocked jobs) :
    pool.taken.length ≤ pool.finished.length + count := by
  have cards := congrArg Multiset.card stocked.conserved
  rw [Multiset.card_add, Multiset.coe_card, Multiset.coe_card, tally,
    Multiset.card_sum] at cards
  have each : ∑ index : Fin count,
      (inHand pool.heap (pool.hand index)).card ≤ ∑ _ : Fin count, 1 :=
    Finset.sum_le_sum fun index _ => card_inHand _ _
  have bounded : ∑ index : Fin count,
      (inHand pool.heap (pool.hand index)).card ≤ count := by
    simpa using each
  omega

theorem Stocked.pull_len {pool : ThreadPool count Work}
    {jobs : List JobPtr} (stocked : pool.Stocked jobs) {pulled : Pulled}
    (isPulled : pool.jobqueue.jobqueuePull pool.heap = some pulled) :
    pulled.jobqueue.len ≤ pool.jobqueue.len := by
  obtain ⟨result, found, _, chains, _⟩ := stocked.chains.pull
  rw [isPulled, Option.some.injEq] at found
  rw [found, chains.len, stocked.chains.len, List.length_tail]
  exact Nat.sub_le _ _

/-- With a job in nobody's hands, every pulled work is finished. -/
theorem Stocked.finished_perm {pool : ThreadPool count Work}
    {jobs : List JobPtr} (stocked : pool.Stocked jobs)
    (empty : ∀ index, pool.hand index = none) :
    pool.finished.Perm pool.taken := by
  have conserved := stocked.conserved
  have nothing : tally (inHand pool.heap) pool.hand = 0 := by
    apply Finset.sum_eq_zero
    intro index _
    rw [empty index]
    rfl
  rw [nothing, add_zero] at conserved
  exact (Multiset.coe_eq_coe.mp conserved).symm

theorem stocked_init :
    (thpoolInit : ThreadPool count Work).Stocked [] := by
  constructor
  · exact JobQueue.chains_init _
  · constructor
    · intro index job holds
      cases holds
    · intro left right job holds
      cases holds
    · intro job live
      cases live
  · intro index job work running
    cases running
  · rfl
  · simp [thpoolInit, tally, hand, ThreadPc.job]
  · intro _
    rfl

theorem Stocked.quiet {pool next : ThreadPool count Work}
    {jobs : List JobPtr} (stocked : pool.Stocked jobs)
    (heap : next.heap = pool.heap) (queue : next.jobqueue = pool.jobqueue)
    (added : next.added = pool.added) (taken : next.taken = pool.taken)
    (finished : next.finished = pool.finished)
    (cleared : next.cleared = pool.cleared)
    (hand : next.hand = pool.hand)
    (running : ∀ index job work, next.thread index = .running job work →
      (pool.heap job).map Job.work = some work)
    (unclear : next.owner.aloneInPool = false →
      pool.owner.aloneInPool = false) :
    next.Stocked jobs := by
  constructor
  · rw [queue, heap]
    exact stocked.chains
  · rw [heap, hand]
    exact stocked.placed
  · rw [heap]
    exact running
  · rw [added, taken, cleared, heap]
    exact stocked.order
  · rw [taken, finished, heap, hand]
    exact stocked.conserved
  · intro alone
    rw [cleared]
    exact stocked.unclear (unclear alone)

theorem Stocked.keep {pool next : ThreadPool count Work}
    {jobs : List JobPtr} (stocked : pool.Stocked jobs)
    {index : Fin count} {pc : ThreadPc Work}
    (heap : next.heap = pool.heap) (queue : next.jobqueue = pool.jobqueue)
    (added : next.added = pool.added) (taken : next.taken = pool.taken)
    (finished : next.finished = pool.finished)
    (cleared : next.cleared = pool.cleared)
    (thread : next.thread = Function.update pool.thread index pc)
    (job : pc.job = (pool.thread index).job)
    (running : ∀ job work, pc = .running job work →
      (pool.heap job).map Job.work = some work)
    (unclear : next.owner.aloneInPool = pool.owner.aloneInPool) :
    next.Stocked jobs := by
  apply stocked.quiet heap queue added taken finished cleared
  · funext other
    by_cases same : other = index
    · rw [ThreadPool.hand, thread, same, Function.update_self, job]
      rfl
    · rw [ThreadPool.hand, thread, Function.update_of_ne same]
      rfl
  · intro other held work isRunning
    rw [thread] at isRunning
    by_cases same : other = index
    · rw [same, Function.update_self] at isRunning
      exact running held work isRunning
    · rw [Function.update_of_ne same] at isRunning
      exact stocked.reads other held work isRunning
  · intro alone
    rw [← unclear]
    exact alone

theorem hand_signal {pool : ThreadPool count Work}
    {signalled : Option (Fin count)} (signals : pool.Signals signalled) :
    (pool.bsemPost signalled).hand = pool.hand := by
  cases signalled with
  | none => rfl
  | some sleeper =>
      have asleep : pool.thread sleeper = .asleep := isAsleep_iff.mp signals
      funext other
      by_cases same : other = sleeper
      · simp [hand, ThreadPool.bsemPost, signal, same, asleep, ThreadPc.job]
      · simp [hand, ThreadPool.bsemPost, signal, same]

theorem hand_broadcast (pool : ThreadPool count Work) :
    pool.bsemPostAll.hand = pool.hand := by
  funext other
  cases asleep : (pool.thread other).isAsleep with
  | false => simp [hand, ThreadPool.bsemPostAll, broadcast, asleep]
  | true =>
      simp [hand, ThreadPool.bsemPostAll, broadcast, isAsleep_iff.mp asleep,
        ThreadPc.isAsleep, ThreadPc.job]

theorem running_signal {thread : Fin count → ThreadPc Work}
    {signalled : Option (Fin count)} {index : Fin count} {job : JobPtr}
    {work : Work} (running : signal thread signalled index =
      .running job work) : thread index = .running job work := by
  cases signalled with
  | none => exact running
  | some sleeper =>
      by_cases same : index = sleeper
      · rw [signal, same, Function.update_self] at running
        cases running
      · rw [signal, Function.update_of_ne same] at running
        exact running

theorem running_broadcast {thread : Fin count → ThreadPc Work}
    {index : Fin count} {job : JobPtr} {work : Work}
    (running : broadcast thread index = .running job work) :
    thread index = .running job work := by
  unfold broadcast at running
  split at running
  · cases running
  · exact running

theorem Stocked.bsemPost {pool : ThreadPool count Work}
    {jobs : List JobPtr} (stocked : pool.Stocked jobs)
    {signalled : Option (Fin count)} (signals : pool.Signals signalled) :
    (pool.bsemPost signalled).Stocked jobs := by
  refine stocked.quiet rfl rfl rfl rfl rfl rfl (hand_signal signals) ?_ ?_
  · intro index job work running
    exact stocked.reads index job work (running_signal running)
  · exact id

theorem Stocked.bsemPostAll {pool : ThreadPool count Work}
    {jobs : List JobPtr} (stocked : pool.Stocked jobs) :
    pool.bsemPostAll.Stocked jobs := by
  refine stocked.quiet rfl rfl rfl rfl rfl rfl (hand_broadcast pool) ?_ ?_
  · intro index job work running
    exact stocked.reads index job work (running_broadcast running)
  · exact id

theorem Counted.empty_hands {pool : ThreadPool count Work}
    (counted : pool.Counted) (alone : pool.owner.aloneInPool = true)
    (index : Fin count) : (pool.thread index).job = none := by
  have dead := counted.alone alone
  rw [counted.alive, tally_eq_zero] at dead
  have mine := dead index
  cases pc : pool.thread index <;> simp_all [ThreadPc.job]

theorem Counted.not_alone {pool : ThreadPool count Work}
    (counted : pool.Counted) (index : Fin count)
    (lives : (pool.thread index).aliveWeight = 1) :
    pool.owner.aloneInPool = false := by
  cases alone : pool.owner.aloneInPool with
  | false => rfl
  | true =>
      have dead := counted.alone alone
      have lively := counted.alive_pos index lives
      omega

theorem Stocked.pull {pool : ThreadPool count Work} {jobs : List JobPtr}
    (stocked : pool.Stocked jobs) (counted : pool.Counted)
    {index : Fin count} (pc : pool.thread index = .pulling)
    {pulled : Pulled}
    (isPulled : pool.jobqueue.jobqueuePull pool.heap = some pulled) :
    ({ pool with
      jobqueue := pulled.jobqueue
      taken := pool.taken ++
        worksOf pool.heap pulled.job.toList }.setThread index
          (if pulled.posts then .posting pulled.job
            else .pulled pulled.job)).Stocked jobs.tail := by
  obtain ⟨result, found, front, chains, _⟩ := stocked.chains.pull
  rw [isPulled, Option.some.injEq] at found
  subst result
  have noneCleared : pool.cleared = [] :=
    stocked.unclear (counted.not_alone index (by rw [pc]; rfl))
  have empty : pool.hand index = none := by
    rw [hand, pc]
    rfl
  have newJob : (if pulled.posts then ThreadPc.posting pulled.job
      else .pulled pulled.job : ThreadPc Work).job = jobs.head? := by
    rw [← front]
    split <;> rfl
  have notRunning : ∀ other job work,
      Function.update pool.thread index (if pulled.posts then
        ThreadPc.posting pulled.job else .pulled pulled.job) other =
          .running job work → pool.thread other = .running job work := by
    intro other job work running
    by_cases same : other = index
    · rw [same, Function.update_self] at running
      split at running <;> cases running
    · rw [Function.update_of_ne same] at running
      exact running
  constructor
  · exact chains
  · rw [hand_setThread, newJob]
    cases jobs with
    | nil =>
        have unchanged : Function.update pool.hand index none = pool.hand := by
          rw [← empty, Function.update_eq_self]
        change Placed pool.heap [] (Function.update pool.hand index none)
        rw [unchanged]
        exact stocked.placed
    | cons first rest =>
        exact stocked.placed.take stocked.chains.distinct
          (stocked.chains.allocated first List.mem_cons_self) empty
  · intro other job work running
    exact stocked.reads other job work (notRunning other job work running)
  · have before := stocked.order
    rw [noneCleared, List.append_nil] at before
    calc
      pool.added = pool.taken ++ worksOf pool.heap jobs := before
      _ = pool.taken ++ worksOf pool.heap jobs.head?.toList ++
          worksOf pool.heap jobs.tail := by
        cases jobs with
        | nil => simp [worksOf]
        | cons first rest =>
            rw [List.append_assoc, ← worksOf_append]
            rfl
      _ = pool.taken ++ worksOf pool.heap pulled.job.toList ++
          pool.cleared ++ worksOf pool.heap jobs.tail := by
        rw [front, noneCleared, List.append_nil]
  · have moved := tally_update (inHand pool.heap) pool.hand index
      pulled.job
    rw [empty, inHand_none, add_zero] at moved
    rw [hand_setThread, newJob, ← front]
    calc
      ((pool.taken ++ worksOf pool.heap pulled.job.toList : List Work) :
          Multiset Work) =
          pool.taken + inHand pool.heap pulled.job :=
        (Multiset.coe_add _ _).symm
      _ = pool.finished + (tally (inHand pool.heap) pool.hand +
          inHand pool.heap pulled.job) := by
        rw [stocked.conserved, add_assoc]
      _ = pool.finished + tally (inHand pool.heap)
          (Function.update pool.hand index pulled.job) := by rw [moved]
  · exact stocked.unclear

/-- In the hands of a thread that does a work is that work. -/
theorem Stocked.inHand_running {pool : ThreadPool count Work}
    {jobs : List JobPtr} (stocked : pool.Stocked jobs)
    {index : Fin count} {job : JobPtr} {work : Work}
    (running : pool.thread index = .running job work) :
    inHand pool.heap (pool.hand index) = {work} := by
  obtain ⟨found, isFound, isWork⟩ :=
    Option.map_eq_some_iff.mp (stocked.reads index job work running)
  rw [hand, running, ThreadPc.job, inHand]
  simp [worksOf, isFound, isWork]

theorem Stocked.finish {pool : ThreadPool count Work}
    {jobs : List JobPtr} (stocked : pool.Stocked jobs)
    {index : Fin count} {job : JobPtr} {work : Work}
    (pc : pool.thread index = .running job work) :
    ({ pool with
      heap := Function.update pool.heap job none
      finished := pool.finished ++ [work] }.setThread index
        .countingDown).Stocked jobs := by
  have holds : pool.hand index = some job := by
    rw [hand, pc]
    rfl
  obtain ⟨outside, _⟩ := stocked.placed.held index job holds
  have others : ∀ other held, Function.update pool.hand index none other =
      some held → held ≠ job := by
    intro other held isHeld same
    by_cases mine : other = index
    · rw [mine, Function.update_self] at isHeld
      cases isHeld
    · rw [Function.update_of_ne mine, same] at isHeld
      exact mine (stocked.placed.apart other index job isHeld holds)
  constructor
  · exact stocked.chains.update outside none
  · rw [hand_setThread]
    exact stocked.placed.free holds
  · intro other held otherWork running
    rw [setThread_thread] at running
    by_cases mine : other = index
    · rw [mine, Function.update_self] at running
      cases running
    · rw [Function.update_of_ne mine] at running
      have isHeld : Function.update pool.hand index none other =
          some held := by
        rw [Function.update_of_ne mine, hand, running]
        rfl
      have kept : Function.update pool.heap job none held =
          pool.heap held :=
        Function.update_of_ne (others other held isHeld) ..
      exact (congrArg (Option.map Job.work) kept).trans <|
        stocked.reads other held otherWork running
  · have same := worksOf_update pool.heap outside none
    exact stocked.order.trans (by rw [setThread, same])
  · have moved := tally_update (inHand pool.heap) pool.hand index none
    have mine := stocked.inHand_running pc
    have kept : tally (inHand (Function.update pool.heap job none))
          (Function.update pool.hand index none) =
        tally (inHand pool.heap) (Function.update pool.hand index none) := by
      apply tally_inHand_congr
      intro other held isHeld
      rw [Function.update_of_ne (others other held isHeld)]
    rw [mine, inHand_none, add_zero] at moved
    rw [hand_setThread]
    calc
      (pool.taken : Multiset Work) =
          pool.finished + tally (inHand pool.heap) pool.hand :=
        stocked.conserved
      _ = pool.finished + (tally (inHand pool.heap)
          (Function.update pool.hand index none) + {work}) := by rw [moved]
      _ = (pool.finished + {work}) + tally (inHand pool.heap)
          (Function.update pool.hand index none) := by
        ac_rfl
      _ = ((pool.finished ++ [work] : List Work) : Multiset Work) +
          tally (inHand (Function.update pool.heap job none))
            (Function.update pool.hand index none) := by
        rw [kept, ← Multiset.coe_add, Multiset.coe_singleton]
  · exact stocked.unclear

theorem Stocked.threadStep {pool next : ThreadPool count Work}
    {jobs : List JobPtr} {index : Fin count} (stocked : pool.Stocked jobs)
    (counted : pool.Counted) (step : ThreadStep pool index next) :
    ∃ left, next.Stocked left := by
  cases step with
  | start pc _ =>
      refine ⟨jobs, stocked.keep rfl rfl rfl rfl rfl rfl rfl ?_ ?_ rfl⟩
      all_goals simp [pc, ThreadPc.job]
  | enter pc _ =>
      refine ⟨jobs, stocked.keep rfl rfl rfl rfl rfl rfl rfl ?_ ?_ rfl⟩
      all_goals simp [pc, ThreadPc.job]
  | leave pc _ =>
      refine ⟨jobs, stocked.keep rfl rfl rfl rfl rfl rfl rfl ?_ ?_ rfl⟩
      all_goals simp [pc, ThreadPc.job]
  | take pc _ =>
      refine ⟨jobs, stocked.keep rfl rfl rfl rfl rfl rfl rfl ?_ ?_ rfl⟩
      all_goals simp [pc, ThreadPc.job]
  | sleep pc _ =>
      refine ⟨jobs, stocked.keep rfl rfl rfl rfl rfl rfl rfl ?_ ?_ rfl⟩
      all_goals simp [pc, ThreadPc.job]
  | proceed pc _ =>
      refine ⟨jobs, stocked.keep rfl rfl rfl rfl rfl rfl rfl ?_ ?_ rfl⟩
      all_goals simp [pc, ThreadPc.job]
  | abandon pc _ =>
      refine ⟨jobs, stocked.keep rfl rfl rfl rfl rfl rfl rfl ?_ ?_ rfl⟩
      all_goals simp [pc, ThreadPc.job]
  | countUp pc _ =>
      refine ⟨jobs, stocked.keep rfl rfl rfl rfl rfl rfl rfl ?_ ?_ rfl⟩
      all_goals simp [pc, ThreadPc.job]
  | pull pc _ pulled => exact ⟨jobs.tail, stocked.pull counted pc pulled⟩
  | post pc signals =>
      have posted := posting_index pc signals
      refine ⟨jobs, (stocked.bsemPost signals).keep
        rfl rfl rfl rfl rfl rfl rfl ?_ ?_ rfl⟩
      all_goals simp [posted, ThreadPc.job]
  | nothing pc =>
      refine ⟨jobs, stocked.keep rfl rfl rfl rfl rfl rfl rfl ?_ ?_ rfl⟩
      all_goals simp [pc, ThreadPc.job]
  | call pc found =>
      refine ⟨jobs, stocked.keep rfl rfl rfl rfl rfl rfl rfl ?_ ?_ rfl⟩
      · simp [pc, ThreadPc.job]
      · intro job work running
        cases running
        rw [found]
        rfl
  | finish pc _ => exact ⟨jobs, stocked.finish pc⟩
  | countDown pc _ _ =>
      refine ⟨jobs, stocked.keep rfl rfl rfl rfl rfl rfl rfl ?_ ?_ rfl⟩
      all_goals simp [pc, ThreadPc.job]
  | countOut pc _ _ =>
      refine ⟨jobs, stocked.keep rfl rfl rfl rfl rfl rfl rfl ?_ ?_ ?_⟩
      · simp [pc, ThreadPc.job]
      · simp
      · by_cases asleep : pool.owner = .asleep
        · simp [setThread, asleep]
        · simp [setThread, asleep]
  | exit pc _ =>
      refine ⟨jobs, stocked.keep rfl rfl rfl rfl rfl rfl rfl ?_ ?_ rfl⟩
      all_goals simp [pc, ThreadPc.job]
  | unlock pc =>
      refine ⟨jobs, stocked.keep rfl rfl rfl rfl rfl rfl rfl ?_ ?_ rfl⟩
      all_goals simp [pc, ThreadPc.job]

theorem Stocked.moveOwner {pool : ThreadPool count Work}
    {jobs : List JobPtr} (stocked : pool.Stocked jobs) {owner : OwnerPc}
    (unclear : owner.aloneInPool = false →
      pool.owner.aloneInPool = false) :
    ({ pool with owner := owner } : ThreadPool count Work).Stocked jobs :=
  stocked.quiet rfl rfl rfl rfl rfl rfl rfl stocked.reads unclear

theorem Stocked.clear {pool : ThreadPool count Work} {jobs : List JobPtr}
    (stocked : pool.Stocked jobs) (counted : pool.Counted)
    (pc : pool.owner = .clearing) {pulled : Pulled}
    {heap : JobHeap Work}
    (isPulled : pool.jobqueue.jobqueuePull pool.heap = some pulled)
    (freed : freeJob pool.heap pulled.job = some heap) :
    ({ pool with
      heap := heap
      jobqueue := pulled.jobqueue
      cleared := pool.cleared ++
        worksOf pool.heap pulled.job.toList } :
      ThreadPool count Work).Stocked jobs.tail := by
  have alone : pool.owner.aloneInPool = true := by
    rw [pc]
    rfl
  have handsEmpty := counted.empty_hands alone
  obtain ⟨result, found, front, chains, _⟩ := stocked.chains.pull
  rw [isPulled, Option.some.injEq] at found
  subst result
  cases jobs with
  | nil =>
      rw [front] at freed
      cases freed
      refine stocked.quiet rfl ?_ rfl rfl rfl ?_ rfl stocked.reads id
      · have emptyQueue := stocked.chains.len
        rw [List.length_nil] at emptyQueue
        simp only [JobQueue.jobqueuePull, emptyQueue] at isPulled
        cases isPulled
        rfl
      · rw [front]
        exact List.append_nil _
  | cons first rest =>
      rw [front] at freed
      obtain ⟨job, _, freed⟩ := Option.bind_eq_some_iff.mp freed
      cases freed
      obtain ⟨fresh, _⟩ := List.nodup_cons.mp stocked.chains.distinct
      constructor
      · exact chains.update fresh none
      · exact stocked.placed.clear
      · intro index held work running
        have empty := handsEmpty index
        rw [show pool.thread index = .running held work from running]
          at empty
        cases empty
      · have same := worksOf_update pool.heap fresh none
        calc
          pool.added = pool.taken ++ pool.cleared ++
              worksOf pool.heap ([first] ++ rest) := stocked.order
          _ = pool.taken ++ (pool.cleared ++
              worksOf pool.heap pulled.job.toList) ++
                worksOf (Function.update pool.heap first none) rest := by
            rw [worksOf_append, same, front]
            simp only [List.append_assoc]
            rfl
      · have kept : tally (inHand (Function.update pool.heap first none))
            pool.hand = tally (inHand pool.heap) pool.hand := by
          apply tally_inHand_congr
          intro index held isHeld
          rw [show pool.hand index = none from handsEmpty index] at isHeld
          cases isHeld
        calc
          (pool.taken : Multiset Work) = pool.finished +
              tally (inHand pool.heap) pool.hand := stocked.conserved
          _ = pool.finished + tally
              (inHand (Function.update pool.heap first none))
                pool.hand := by rw [kept]
      · intro notAlone
        rw [show pool.owner.aloneInPool = false from notAlone] at alone
        cases alone

theorem Stocked.ownerStep {pool next : ThreadPool count Work}
    {jobs : List JobPtr} (stocked : pool.Stocked jobs)
    (counted : pool.Counted) (step : OwnerStep pool next) :
    ∃ left, next.Stocked left := by
  cases step with
  | started pc _ => exact ⟨jobs, stocked.moveOwner (by simp [pc])⟩
  | post pc signals =>
      exact ⟨jobs, (stocked.bsemPost signals).moveOwner
        (by simp [ThreadPool.bsemPost, pc])⟩
  | lock pc _ => exact ⟨jobs, stocked.moveOwner (by simp [pc])⟩
  | noJobs pc _ => exact ⟨jobs, stocked.moveOwner (by simp [pc])⟩
  | someJobs pc _ => exact ⟨jobs, stocked.moveOwner (by simp [pc])⟩
  | nobodyWorks pc _ => exact ⟨jobs, stocked.moveOwner (by simp [pc])⟩
  | somebodyWorks pc _ => exact ⟨jobs, stocked.moveOwner (by simp [pc])⟩
  | sleep pc => exact ⟨jobs, stocked.moveOwner (by simp [pc])⟩
  | nobodyAlive pc _ => exact ⟨jobs, stocked.moveOwner (by simp)⟩
  | postAll _ _ => exact ⟨jobs, stocked.bsemPostAll⟩
  | @clear pulled heap signalled pc _ signals isPulled freed =>
      refine ⟨jobs.tail, ?_⟩
      cases posts : pulled.posts with
      | true =>
          exact (stocked.bsemPost signals).clear (counted.bsemPost signals)
            pc isPulled freed
      | false => exact stocked.clear counted pc isPulled freed
  | cleared pc empty =>
      have noJobs : jobs = [] := by
        rw [stocked.chains.len] at empty
        exact List.eq_nil_of_length_eq_zero empty
      subst jobs
      refine ⟨[], ?_⟩
      constructor
      · exact JobQueue.chains_init _
      · exact stocked.placed
      · exact stocked.reads
      · exact stocked.order
      · exact stocked.conserved
      · intro notAlone
        cases notAlone

theorem Stocked.addWork {pool next : ThreadPool count Work}
    {jobs : List JobPtr} (stocked : pool.Stocked jobs)
    (outside : pool.owner = .outside) {newjob : JobPtr} {job : Job Work}
    (fresh : pool.heap newjob = none)
    (moved : pool.thpoolAddWork newjob job = some next) :
    next.Stocked (jobs ++ [newjob]) := by
  have apart := stocked.chains.fresh_not_mem fresh
  have untouched : ∀ held, held ≠ newjob →
      Function.update pool.heap newjob (some job) held = pool.heap held := by
    intro held different
    exact Function.update_of_ne different ..
  have chained := stocked.chains.update apart (some job)
  obtain ⟨heap, queue, pushed, chains, works⟩ :=
    chained.push (by rw [Function.update_self]; rfl) apart
  rw [thpoolAddWork, pushed] at moved
  cases moved
  have sameWork : ∀ held, held ≠ newjob →
      (heap held).map Job.work = (pool.heap held).map Job.work := by
    intro held different
    rw [works held, untouched held different]
  have newWork : (heap newjob).map Job.work = some job.work := by
    rw [works newjob, Function.update_self]
    rfl
  have noneCleared : pool.cleared = [] :=
    stocked.unclear (by rw [outside]; rfl)
  have handApart : ∀ index held, pool.hand index = some held →
      held ≠ newjob := by
    intro index held holds same
    have live := (stocked.placed.held index held holds).2
    rw [same, fresh] at live
    cases live
  constructor
  · exact chains
  · apply stocked.placed.add fresh
    intro held different
    rw [← Option.isSome_map (f := Job.work), sameWork held different,
      Option.isSome_map]
  · intro index held work running
    have holds : pool.hand index = some held := by
      rw [hand, show pool.thread index = .running held work from running]
      rfl
    exact (sameWork held (handApart index held holds)).trans
      (stocked.reads index held work running)
  · have before := stocked.order
    have same : worksOf heap jobs = worksOf pool.heap jobs := by
      apply worksOf_congr
      intro held member
      exact sameWork held fun equal => apart (equal ▸ member)
    have mine : worksOf heap [newjob] = [job.work] := by
      simp [worksOf, newWork]
    calc
      pool.added ++ [job.work] = pool.taken ++ pool.cleared ++
          worksOf pool.heap jobs ++ [job.work] := by rw [before]
      _ = pool.taken ++ pool.cleared ++ worksOf heap (jobs ++ [newjob]) := by
        rw [worksOf_append, same, mine, List.append_assoc]
  · have kept : tally (inHand heap) pool.hand =
        tally (inHand pool.heap) pool.hand := by
      apply tally_inHand_congr
      intro index held holds
      exact sameWork held (handApart index held holds)
    exact stocked.conserved.trans (by rw [← kept]; rfl)
  · intro _
    exact noneCleared

theorem Stocked.step {pool next : ThreadPool count Work}
    {event : PoolEvent count Work} {jobs : List JobPtr}
    (stocked : pool.Stocked jobs) (counted : pool.Counted)
    (step : (poolSystem count Work).step pool event next) :
    ∃ left, next.Stocked left := by
  obtain ⟨enabled, moved⟩ := step
  cases event with
  | thread index signalled =>
      exact stocked.threadStep counted (threadDo_step enabled moved)
  | owner signalled =>
      exact stocked.ownerStep counted (ownerDo_step enabled moved)
  | wakeThread index =>
      have asleep := isAsleep_iff.mp enabled
      rw [← Option.some.inj moved]
      refine ⟨jobs, stocked.keep rfl rfl rfl rfl rfl rfl rfl ?_ ?_ rfl⟩
      all_goals simp [asleep, ThreadPc.job]
  | wakeOwner =>
      have asleep : pool.owner = .asleep := enabled
      rw [← Option.some.inj moved]
      exact ⟨jobs, stocked.moveOwner (by simp [asleep])⟩
  | addWork newjob job =>
      obtain ⟨outside, fresh, _⟩ := enabled
      exact ⟨_, stocked.addWork outside fresh moved⟩
  | wait =>
      have outside : pool.owner = .outside := enabled
      rw [← Option.some.inj moved]
      exact ⟨jobs, stocked.moveOwner (by simp [outside])⟩
  | destroy =>
      have outside : pool.owner = .outside := enabled
      rw [← Option.some.inj moved]
      refine ⟨jobs, stocked.quiet rfl rfl rfl rfl rfl rfl rfl
        stocked.reads ?_⟩
      simp [outside]

end ThreadPool

end StreamIO.Pool
