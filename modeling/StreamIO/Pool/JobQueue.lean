import Mathlib.Data.List.Chain
import Mathlib.Data.List.Induction
import Mathlib.Data.List.Nodup
import Mathlib.Logic.Function.Basic

/-!
# The job queue of the thread pool

The queue of `thpool.c` is a chain of allocated jobs: every job points to the
one added after it, and the queue to both ends.  A pointer that is followed
although it is `NULL` or its job has been freed makes the operation fail.
-/

namespace StreamIO.Pool

/-- The address of an allocated job. -/
abbrev JobPtr := Nat

/-- A `job`; its function and argument are its work. -/
structure Job (Work : Type) where
  prev : Option JobPtr
  work : Work
  deriving DecidableEq, Repr

/-- The jobs that are allocated and not freed. -/
abbrev JobHeap (Work : Type) := JobPtr → Option (Job Work)

structure JobQueue where
  front : Option JobPtr
  rear : Option JobPtr
  len : Nat
  deriving DecidableEq, Repr

variable {Work : Type}

/-- What a pull finds: the job, the queue after it, and whether the
semaphore is posted. -/
structure Pulled where
  job : Option JobPtr
  jobqueue : JobQueue
  posts : Bool
  deriving DecidableEq, Repr

namespace JobQueue

def jobqueueInit : JobQueue :=
  { front := none, rear := none, len := 0 }

def jobqueuePush (heap : JobHeap Work) (queue : JobQueue)
    (newjob : JobPtr) : Option (JobHeap Work × JobQueue) := do
  let job ← heap newjob
  let heap := Function.update heap newjob (some { job with prev := none })
  match queue.len with
  | 0 =>
      return (heap, { front := some newjob, rear := some newjob, len := 1 })
  | _ =>
      let rear ← queue.rear
      let last ← heap rear
      return (Function.update heap rear
          (some { last with prev := some newjob }),
        { queue with rear := some newjob, len := queue.len + 1 })

def jobqueuePull (heap : JobHeap Work) (queue : JobQueue) : Option Pulled :=
  match queue.len with
  | 0 => some { job := queue.front, jobqueue := queue, posts := false }
  | 1 =>
      some
        { job := queue.front
          jobqueue := { front := none, rear := none, len := 0 }
          posts := false }
  | _ => do
      let first ← queue.front
      let job ← heap first
      return { job := some first
               jobqueue := { queue with
                 front := job.prev, len := queue.len - 1 }
               posts := true }

/-- The queue is the chain of these jobs. -/
structure Chains (queue : JobQueue) (heap : JobHeap Work)
    (jobs : List JobPtr) : Prop where
  len : queue.len = jobs.length
  front : queue.front = jobs.head?
  rear : queue.rear = jobs.getLast?
  allocated : ∀ job ∈ jobs, (heap job).isSome
  links : jobs.IsChain fun job later =>
    (heap job).bind Job.prev = some later
  distinct : jobs.Nodup

end JobQueue

/-- The works of some jobs. -/
def worksOf (heap : JobHeap Work) (jobs : List JobPtr) : List Work :=
  jobs.filterMap fun job => (heap job).map Job.work

theorem worksOf_congr {heap other : JobHeap Work} {jobs : List JobPtr}
    (same : ∀ job ∈ jobs,
      (heap job).map Job.work = (other job).map Job.work) :
    worksOf heap jobs = worksOf other jobs :=
  List.filterMap_congr same

@[simp] theorem worksOf_append (heap : JobHeap Work)
    (front back : List JobPtr) :
    worksOf heap (front ++ back) =
      worksOf heap front ++ worksOf heap back :=
  List.filterMap_append

theorem update_outside (heap : JobHeap Work) {jobs : List JobPtr}
    {job : JobPtr} (outside : job ∉ jobs) (value : Option (Job Work)) :
    ∀ held ∈ jobs, Function.update heap job value held = heap held := by
  intro held member
  apply Function.update_of_ne
  intro same
  rw [same] at member
  exact outside member

theorem worksOf_update (heap : JobHeap Work) {jobs : List JobPtr}
    {job : JobPtr} (outside : job ∉ jobs) (value : Option (Job Work)) :
    worksOf (Function.update heap job value) jobs = worksOf heap jobs := by
  apply worksOf_congr
  intro held member
  rw [update_outside heap outside value held member]

namespace JobQueue

variable {queue : JobQueue} {heap : JobHeap Work} {jobs : List JobPtr}

theorem chains_init (heap : JobHeap Work) :
    jobqueueInit.Chains heap [] := by
  constructor
  · rfl
  · rfl
  · rfl
  · intro job member
    cases member
  · exact .nil
  · exact List.nodup_nil

theorem Chains.congr (chains : queue.Chains heap jobs)
    {other : JobHeap Work} (same : ∀ job ∈ jobs, other job = heap job) :
    queue.Chains other jobs := by
  refine { chains with allocated := ?_, links := ?_ }
  · intro job member
    rw [same job member]
    exact chains.allocated job member
  · apply chains.links.imp_of_mem_imp
    intro job later member _ link
    rw [same job member]
    exact link

theorem Chains.update (chains : queue.Chains heap jobs) {job : JobPtr}
    (outside : job ∉ jobs) (value : Option (Job Work)) :
    queue.Chains (Function.update heap job value) jobs :=
  chains.congr (update_outside heap outside value)

theorem Chains.fresh_not_mem (chains : queue.Chains heap jobs)
    {newjob : JobPtr} (fresh : heap newjob = none) : newjob ∉ jobs := by
  intro member
  have live := chains.allocated newjob member
  rw [fresh] at live
  cases live

/-- A pull takes the first job and posts iff another one is left. -/
theorem Chains.pull (chains : queue.Chains heap jobs) :
    ∃ pulled, jobqueuePull heap queue = some pulled ∧
      pulled.job = jobs.head? ∧
      pulled.jobqueue.Chains heap jobs.tail ∧
      (pulled.posts = true ↔ 2 ≤ jobs.length) := by
  have sameLen := chains.len
  have sameFront := chains.front
  cases jobs with
  | nil =>
      refine ⟨{ job := queue.front, jobqueue := queue, posts := false },
        ?_, sameFront, chains, by simp⟩
      simp only [jobqueuePull, sameLen, List.length_nil]
  | cons first rest =>
      cases rest with
      | nil =>
          refine ⟨{ job := queue.front
                    jobqueue := jobqueueInit
                    posts := false }, ?_, sameFront, chains_init heap, ?_⟩
          · simp only [jobqueuePull, sameLen, List.length_cons,
              List.length_nil, jobqueueInit]
          · simp
      | cons second others =>
          obtain ⟨job, found⟩ :=
            Option.isSome_iff_exists.mp (chains.allocated first (by simp))
          have link : job.prev = some second := by
            have chained := chains.links
            rw [List.isChain_cons_cons, found] at chained
            exact chained.1
          refine ⟨{ job := some first
                    jobqueue := { queue with
                      front := job.prev, len := queue.len - 1 }
                    posts := true }, ?_, rfl, ?_, by simp⟩
          · rw [List.head?_cons] at sameFront
            simp [jobqueuePull, sameLen, sameFront, found]
          · constructor
            · simp [sameLen]
            · exact link
            · rw [chains.rear]
              simp
            · intro other member
              exact chains.allocated other (List.mem_cons_of_mem _ member)
            · exact chains.links.tail
            · exact chains.distinct.tail

/-- In a chain only the links in front of its last element matter. -/
theorem isChain_concat_imp {first second : JobPtr → JobPtr → Prop}
    {front : List JobPtr} {rear : JobPtr}
    (implied : ∀ job ∈ front, ∀ later, first job later → second job later)
    (chain : (front ++ [rear]).IsChain first) :
    (front ++ [rear]).IsChain second := by
  induction front with
  | nil => exact .singleton rear
  | cons job front induction =>
      rw [List.cons_append, List.isChain_cons] at chain ⊢
      obtain ⟨link, links⟩ := chain
      constructor
      · intro later isNext
        exact implied job (by simp) later (link later isNext)
      · apply induction _ links
        intro other member
        exact implied other (List.mem_cons_of_mem _ member)

theorem Chains.push_first (chains : queue.Chains heap [])
    {newjob : JobPtr} {job : Job Work} (found : heap newjob = some job) :
    ∃ next pushed, jobqueuePush heap queue newjob = some (next, pushed) ∧
      pushed.Chains next [newjob] ∧
      ∀ job, (next job).map Job.work = (heap job).map Job.work := by
  have sameLen := chains.len
  refine ⟨Function.update heap newjob (some { job with prev := none }),
    { front := some newjob, rear := some newjob, len := 1 }, ?_, ?_, ?_⟩
  · simp [jobqueuePush, found, sameLen]
  · constructor
    · rfl
    · rfl
    · rfl
    · intro other member
      rw [List.mem_singleton.mp member, Function.update_self]
      rfl
    · exact .singleton newjob
    · exact List.nodup_singleton newjob
  · intro other
    by_cases same : other = newjob
    · rw [same, Function.update_self, found]
      rfl
    · rw [Function.update_of_ne same]

/-- The heap after a job was put behind the last one. -/
def linkBehind (heap : JobHeap Work) (newjob : JobPtr) (job : Job Work)
    (rear : JobPtr) (last : Job Work) : JobHeap Work :=
  Function.update
    (Function.update heap newjob (some { job with prev := none })) rear
    (some { last with prev := some newjob })

section LinkBehind

variable {newjob rear : JobPtr} {job last : Job Work}

theorem linkBehind_rear : linkBehind heap newjob job rear last rear =
    some { last with prev := some newjob } :=
  Function.update_self ..

theorem linkBehind_new (apart : newjob ≠ rear) :
    linkBehind heap newjob job rear last newjob =
      some { job with prev := none } := by
  rw [linkBehind, Function.update_of_ne apart, Function.update_self]

theorem linkBehind_other {other : JobPtr} (notRear : other ≠ rear)
    (notNew : other ≠ newjob) :
    linkBehind heap newjob job rear last other = heap other := by
  rw [linkBehind, Function.update_of_ne notRear,
    Function.update_of_ne notNew]

theorem linkBehind_work (apart : newjob ≠ rear)
    (found : heap newjob = some job) (lastFound : heap rear = some last)
    (other : JobPtr) :
    (linkBehind heap newjob job rear last other).map Job.work =
      (heap other).map Job.work := by
  by_cases isRear : other = rear
  · rw [isRear, linkBehind_rear, lastFound]
    rfl
  · by_cases isNew : other = newjob
    · rw [isNew, linkBehind_new apart, found]
      rfl
    · rw [linkBehind_other isRear isNew]

theorem linkBehind_links {front : List JobPtr}
    (links : (front ++ [rear]).IsChain fun job later =>
      (heap job).bind Job.prev = some later)
    (distinct : (front ++ [rear]).Nodup) (apart : newjob ∉ front ++ [rear]) :
    (front ++ [rear] ++ [newjob]).IsChain fun held later =>
      (linkBehind heap newjob job rear last held).bind Job.prev =
        some later := by
  rw [List.nodup_append] at distinct
  apply List.IsChain.append
  · apply isChain_concat_imp _ links
    intro other member later link
    have notRear : other ≠ rear :=
      distinct.2.2 other member rear (by simp)
    have notNew : other ≠ newjob := by
      intro same
      exact apart (by simp [← same, member])
    rw [linkBehind_other notRear notNew]
    exact link
  · exact .singleton newjob
  · intro final isFinal first isFirst
    rw [List.getLast?_concat, Option.mem_some_iff] at isFinal
    rw [List.head?_cons, Option.mem_some_iff] at isFirst
    rw [← isFinal, ← isFirst, linkBehind_rear]
    rfl

end LinkBehind

theorem Chains.push_later {front : List JobPtr} {rear : JobPtr}
    (chains : queue.Chains heap (front ++ [rear])) {newjob : JobPtr}
    {job : Job Work} (found : heap newjob = some job)
    (apart : newjob ∉ front ++ [rear]) :
    ∃ next pushed, jobqueuePush heap queue newjob = some (next, pushed) ∧
      pushed.Chains next (front ++ [rear] ++ [newjob]) ∧
      ∀ job, (next job).map Job.work = (heap job).map Job.work := by
  have sameLen := chains.len
  have sameRear := chains.rear
  rw [List.length_append, List.length_singleton] at sameLen
  rw [List.getLast?_concat] at sameRear
  obtain ⟨last, lastFound⟩ :=
    Option.isSome_iff_exists.mp (chains.allocated rear (by simp))
  have newApart : newjob ≠ rear := by
    intro same
    exact apart (by simp [same])
  have works : ∀ other,
      (linkBehind heap newjob job rear last other).map Job.work =
        (heap other).map Job.work :=
    linkBehind_work newApart found lastFound
  refine ⟨linkBehind heap newjob job rear last,
    { queue with rear := some newjob, len := queue.len + 1 }, ?_, ?_, works⟩
  · simp [jobqueuePush, found, sameLen, sameRear, lastFound,
      Function.update_of_ne newApart.symm, linkBehind]
  · constructor
    · simp [sameLen]
    · rw [chains.front]
      cases front with
      | nil => rfl
      | cons => rfl
    · simp
    · intro other member
      rw [← Option.isSome_map (f := Job.work), works other,
        Option.isSome_map]
      rcases List.mem_append.mp member with before | isNew
      · exact chains.allocated other before
      · rw [List.mem_singleton.mp isNew, found]
        rfl
    · exact linkBehind_links chains.links chains.distinct apart
    · apply List.Nodup.append chains.distinct (List.nodup_singleton newjob)
      intro other member isNew
      rw [List.mem_singleton.mp isNew] at member
      exact apart member

/-- A push of a job that is not in the queue appends it, and changes nothing
but links. -/
theorem Chains.push (chains : queue.Chains heap jobs) {newjob : JobPtr}
    (allocated : (heap newjob).isSome) (apart : newjob ∉ jobs) :
    ∃ next pushed, jobqueuePush heap queue newjob = some (next, pushed) ∧
      pushed.Chains next (jobs ++ [newjob]) ∧
      ∀ job, (next job).map Job.work = (heap job).map Job.work := by
  obtain ⟨job, found⟩ := Option.isSome_iff_exists.mp allocated
  cases jobs using List.reverseRecOn with
  | nil => exact chains.push_first found
  | append_singleton front rear => exact chains.push_later found apart

end JobQueue

end StreamIO.Pool
