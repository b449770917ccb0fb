import StreamIO.Library.GuardedMachine
import StreamIO.Library.Tally
import StreamIO.Pool.JobQueue

/-!
# The thread pool

The threads of `thpool.c` run `thread_do`, one thread owns the pool and calls
the `thpool_` functions.  A step is what a party does between two points where
another party can interfere: what happens under one lock is one step, unless
the lock is held longer than that.  A condition variable wakes one sleeper per
signal, and may wake any sleeper without one.
-/

namespace StreamIO.Pool

open StreamIO.Library

/-- Where a thread stands in `thread_do`. -/
inductive ThreadPc (Work : Type) where
  | starting
  | looping
  | testing
  | asleep
  | woken
  | countingUp
  | pulling
  | posting (job : Option JobPtr)
  | pulled (job : Option JobPtr)
  | running (job : JobPtr) (work : Work)
  | countingDown
  | exiting
  | unlocking
  | exited
  deriving DecidableEq, Repr

/-- Where the owner stands: in `thpool_init`, outside of the pool, in
`jobqueue_push`, in `thpool_wait`, in `thpool_destroy`. -/
inductive OwnerPc where
  | starting
  | outside
  | posting
  | locking
  | readingLen
  | readingWorking
  | sleeping
  | asleep
  | destroying
  | clearing
  | destroyed
  deriving DecidableEq, Repr

namespace ThreadPc

variable {Work : Type}

/-- The thread keeps `thcount_lock` between two steps. -/
def holdsCount : ThreadPc Work → Bool
  | .unlocking => true
  | _ => false

/-- The thread keeps `rwmutex` between two steps. -/
def holdsQueue : ThreadPc Work → Bool
  | .posting _ => true
  | _ => false

def isAsleep : ThreadPc Work → Bool
  | .asleep => true
  | _ => false

end ThreadPc

namespace OwnerPc

def holdsCount : OwnerPc → Bool
  | .readingLen => true
  | .readingWorking => true
  | .sleeping => true
  | _ => false

def holdsQueue : OwnerPc → Bool
  | .posting => true
  | _ => false

end OwnerPc

/-- The pool with its threads and its owner.  The last four fields record the
works that were added, pulled, finished, and thrown away. -/
structure ThreadPool (count : Nat) (Work : Type) where
  heap : JobHeap Work
  jobqueue : JobQueue
  hasJobs : Bool
  threadsKeepalive : Bool
  numThreadsAlive : Nat
  numThreadsWorking : Nat
  thread : Fin count → ThreadPc Work
  owner : OwnerPc
  added : List Work
  taken : List Work
  finished : List Work
  cleared : List Work

/-- The parties' steps.  `signalled` is the sleeper that a post wakes. -/
inductive PoolEvent (count : Nat) (Work : Type) where
  | thread (index : Fin count) (signalled : Option (Fin count))
  | wakeThread (index : Fin count)
  | owner (signalled : Option (Fin count))
  | wakeOwner
  | addWork (newjob : JobPtr) (job : Job Work)
  | wait
  | destroy
  deriving DecidableEq, Repr

variable {count : Nat} {Work : Type}

namespace ThreadPool

def thpoolInit : ThreadPool count Work :=
  { heap := fun _ => none
    jobqueue := .jobqueueInit
    hasJobs := false
    threadsKeepalive := true
    numThreadsAlive := 0
    numThreadsWorking := 0
    thread := fun _ => .starting
    owner := .starting
    added := []
    taken := []
    finished := []
    cleared := [] }

def setThread (pool : ThreadPool count Work) (index : Fin count)
    (pc : ThreadPc Work) : ThreadPool count Work :=
  { pool with thread := Function.update pool.thread index pc }

@[simp] theorem setThread_thread (pool : ThreadPool count Work)
    (index : Fin count) (pc : ThreadPc Work) :
    (pool.setThread index pc).thread =
      Function.update pool.thread index pc := rfl

/-- The sleeper that was signalled gets to test the semaphore again. -/
def signal (thread : Fin count → ThreadPc Work) :
    Option (Fin count) → Fin count → ThreadPc Work
  | none => thread
  | some sleeper => Function.update thread sleeper .testing

/-- Every sleeper gets to test the semaphore again. -/
def broadcast (thread : Fin count → ThreadPc Work) (index : Fin count) :
    ThreadPc Work :=
  if (thread index).isAsleep then .testing else thread index

def bsemPost (pool : ThreadPool count Work)
    (signalled : Option (Fin count)) : ThreadPool count Work :=
  { pool with
    hasJobs := true
    thread := signal pool.thread signalled }

def bsemPostAll (pool : ThreadPool count Work) : ThreadPool count Work :=
  { pool with
    hasJobs := true
    thread := broadcast pool.thread }

/-- `pthread_cond_signal` on `threads_all_idle`. -/
def signalIdle (pool : ThreadPool count Work) : ThreadPool count Work :=
  { pool with
    owner := if pool.owner = .asleep then .locking else pool.owner }

/-- `free` of a job or of `NULL`. -/
def freeJob (heap : JobHeap Work) : Option JobPtr → Option (JobHeap Work)
  | none => some heap
  | some job => do
      let _ ← heap job
      return Function.update heap job none

/-- One step of `thread_do`. -/
def threadDo (pool : ThreadPool count Work) (index : Fin count)
    (signalled : Option (Fin count)) : Option (ThreadPool count Work) :=
  match pool.thread index with
  | .starting =>
      some ({ pool with
        numThreadsAlive := pool.numThreadsAlive + 1 }.setThread index
          .looping)
  | .looping =>
      some (pool.setThread index
        (if pool.threadsKeepalive then .testing else .exiting))
  | .testing =>
      some (if pool.hasJobs then
        { pool with hasJobs := false }.setThread index .woken
      else pool.setThread index .asleep)
  | .asleep => some pool
  | .woken =>
      some (pool.setThread index
        (if pool.threadsKeepalive then .countingUp else .looping))
  | .countingUp =>
      some ({ pool with
        numThreadsWorking := pool.numThreadsWorking + 1 }.setThread index
          .pulling)
  | .pulling => do
      let pulled ← pool.jobqueue.jobqueuePull pool.heap
      return { pool with
        jobqueue := pulled.jobqueue
        taken := pool.taken ++
          worksOf pool.heap pulled.job.toList }.setThread index
            (if pulled.posts then .posting pulled.job
              else .pulled pulled.job)
  | .posting job =>
      some ((pool.bsemPost signalled).setThread index (.pulled job))
  | .pulled none => some (pool.setThread index .countingDown)
  | .pulled (some job) => do
      let found ← pool.heap job
      return pool.setThread index (.running job found.work)
  | .running job work => do
      let heap ← freeJob pool.heap (some job)
      return { pool with
        heap := heap
        finished := pool.finished ++ [work] }.setThread index .countingDown
  | .countingDown =>
      let counted := { pool with
        numThreadsWorking := pool.numThreadsWorking - 1 }
      some ((if counted.numThreadsWorking = 0 then counted.signalIdle
        else counted).setThread index .looping)
  | .exiting =>
      some ({ pool with
        numThreadsAlive := pool.numThreadsAlive - 1 }.setThread index
          .unlocking)
  | .unlocking => some (pool.setThread index .exited)
  | .exited => some pool

/-- One step of the owner inside a function of the pool. -/
def ownerDo (pool : ThreadPool count Work)
    (signalled : Option (Fin count)) : Option (ThreadPool count Work) :=
  match pool.owner with
  | .starting => some { pool with owner := .outside }
  | .outside => some pool
  | .posting => some { pool.bsemPost signalled with owner := .outside }
  | .locking => some { pool with owner := .readingLen }
  | .readingLen =>
      some { pool with
        owner := if pool.jobqueue.len = 0 then .readingWorking
          else .sleeping }
  | .readingWorking =>
      some { pool with
        owner := if pool.numThreadsWorking = 0 then .outside
          else .sleeping }
  | .sleeping => some { pool with owner := .asleep }
  | .asleep => some pool
  | .destroying =>
      some (if pool.numThreadsAlive = 0 then { pool with owner := .clearing }
        else pool.bsemPostAll)
  | .clearing =>
      if pool.jobqueue.len = 0 then
        some { pool with
          jobqueue := .jobqueueInit
          hasJobs := false
          owner := .destroyed }
      else do
        let pulled ← pool.jobqueue.jobqueuePull pool.heap
        let heap ← freeJob pool.heap pulled.job
        return { (if pulled.posts then pool.bsemPost signalled else pool) with
          heap := heap
          jobqueue := pulled.jobqueue
          cleared := pool.cleared ++
            worksOf pool.heap pulled.job.toList }
  | .destroyed => some pool

/-- `thpool_add_work` up to the post in `jobqueue_push`; the job is the one
that was allocated, with whatever its link was. -/
def thpoolAddWork (pool : ThreadPool count Work) (newjob : JobPtr)
    (job : Job Work) : Option (ThreadPool count Work) := do
  let pushed ← pool.jobqueue.jobqueuePush
    (Function.update pool.heap newjob (some job)) newjob
  return { pool with
    heap := pushed.1
    jobqueue := pushed.2
    owner := .posting
    added := pool.added ++ [job.work] }

def move (pool : ThreadPool count Work) :
    PoolEvent count Work → Option (ThreadPool count Work)
  | .thread index signalled => pool.threadDo index signalled
  | .wakeThread index => some (pool.setThread index .testing)
  | .owner signalled => pool.ownerDo signalled
  | .wakeOwner => some { pool with owner := .locking }
  | .addWork newjob job => pool.thpoolAddWork newjob job
  | .wait => some { pool with owner := .locking }
  | .destroy =>
      some { pool with threadsKeepalive := false, owner := .destroying }

/-- Somebody keeps `thcount_lock`. -/
def CountLocked (pool : ThreadPool count Work) : Prop :=
  pool.owner.holdsCount ∨ ∃ index, (pool.thread index).holdsCount

/-- Somebody keeps `rwmutex`. -/
def QueueLocked (pool : ThreadPool count Work) : Prop :=
  pool.owner.holdsQueue ∨ ∃ index, (pool.thread index).holdsQueue

/-- A post wakes one sleeper if there is one. -/
def Signals (pool : ThreadPool count Work) : Option (Fin count) → Prop
  | none => ∀ index, (pool.thread index).isAsleep = false
  | some sleeper => (pool.thread sleeper).isAsleep

/-- What a thread waits for where it stands. -/
def PcReady (pool : ThreadPool count Work)
    (signalled : Option (Fin count)) : ThreadPc Work → Prop
  | .starting => ¬pool.CountLocked
  | .countingUp => ¬pool.CountLocked
  | .countingDown => ¬pool.CountLocked
  | .exiting => ¬pool.CountLocked
  | .pulling => ¬pool.QueueLocked
  | .posting _ => pool.Signals signalled
  | .asleep => False
  | .exited => False
  | _ => True

def ThreadReady (pool : ThreadPool count Work) (index : Fin count)
    (signalled : Option (Fin count)) : Prop :=
  pool.PcReady signalled (pool.thread index)

/-- What the owner waits for where it stands. -/
def OwnerPcReady (pool : ThreadPool count Work)
    (signalled : Option (Fin count)) : OwnerPc → Prop
  | .starting => pool.numThreadsAlive = count
  | .posting => pool.Signals signalled
  | .locking => ¬pool.CountLocked
  | .clearing => pool.Signals signalled
  | .outside => False
  | .asleep => False
  | .destroyed => False
  | _ => True

def OwnerReady (pool : ThreadPool count Work)
    (signalled : Option (Fin count)) : Prop :=
  pool.OwnerPcReady signalled pool.owner

def Enabled (pool : ThreadPool count Work) : PoolEvent count Work → Prop
  | .thread index signalled => pool.ThreadReady index signalled
  | .wakeThread index => (pool.thread index).isAsleep
  | .owner signalled => pool.OwnerReady signalled
  | .wakeOwner => pool.owner = .asleep
  | .addWork newjob _ =>
      pool.owner = .outside ∧ pool.heap newjob = none ∧ ¬pool.QueueLocked
  | .wait => pool.owner = .outside
  | .destroy => pool.owner = .outside

variable {pool : ThreadPool count Work} {signalled : Option (Fin count)}

instance : Decidable pool.CountLocked :=
  inferInstanceAs (Decidable (pool.owner.holdsCount = true ∨
    ∃ index, (pool.thread index).holdsCount = true))

instance : Decidable pool.QueueLocked :=
  inferInstanceAs (Decidable (pool.owner.holdsQueue = true ∨
    ∃ index, (pool.thread index).holdsQueue = true))

instance : Decidable (pool.Signals signalled) :=
  match signalled with
  | none =>
      inferInstanceAs (Decidable
        (∀ index, (pool.thread index).isAsleep = false))
  | some sleeper =>
      inferInstanceAs (Decidable ((pool.thread sleeper).isAsleep = true))

instance : DecidablePred (pool.PcReady signalled)
  | .starting => inferInstanceAs (Decidable (¬pool.CountLocked))
  | .countingUp => inferInstanceAs (Decidable (¬pool.CountLocked))
  | .countingDown => inferInstanceAs (Decidable (¬pool.CountLocked))
  | .exiting => inferInstanceAs (Decidable (¬pool.CountLocked))
  | .pulling => inferInstanceAs (Decidable (¬pool.QueueLocked))
  | .posting _ => inferInstanceAs (Decidable (pool.Signals signalled))
  | .asleep => isFalse id
  | .exited => isFalse id
  | .looping => isTrue trivial
  | .testing => isTrue trivial
  | .woken => isTrue trivial
  | .pulled _ => isTrue trivial
  | .running _ _ => isTrue trivial
  | .unlocking => isTrue trivial

instance : DecidablePred (pool.OwnerPcReady signalled)
  | .starting => inferInstanceAs (Decidable (pool.numThreadsAlive = count))
  | .posting => inferInstanceAs (Decidable (pool.Signals signalled))
  | .locking => inferInstanceAs (Decidable (¬pool.CountLocked))
  | .clearing => inferInstanceAs (Decidable (pool.Signals signalled))
  | .outside => isFalse id
  | .asleep => isFalse id
  | .destroyed => isFalse id
  | .readingLen => isTrue trivial
  | .readingWorking => isTrue trivial
  | .sleeping => isTrue trivial
  | .destroying => isTrue trivial

instance : DecidablePred pool.Enabled
  | .thread index signalled =>
      inferInstanceAs (Decidable
        (pool.PcReady signalled (pool.thread index)))
  | .wakeThread index =>
      inferInstanceAs (Decidable ((pool.thread index).isAsleep = true))
  | .owner signalled =>
      inferInstanceAs (Decidable (pool.OwnerPcReady signalled pool.owner))
  | .wakeOwner => inferInstanceAs (Decidable (pool.owner = .asleep))
  | .addWork newjob _ =>
      have : Decidable (pool.heap newjob = none) :=
        decidable_of_iff _ Option.isNone_iff_eq_none
      inferInstanceAs (Decidable (pool.owner = .outside ∧
        pool.heap newjob = none ∧ ¬pool.QueueLocked))
  | .wait => inferInstanceAs (Decidable (pool.owner = .outside))
  | .destroy => inferInstanceAs (Decidable (pool.owner = .outside))

/-- The steps of a thread, with what has to hold for each. -/
inductive ThreadStep (pool : ThreadPool count Work) (index : Fin count) :
    ThreadPool count Work → Prop where
  | start : pool.thread index = .starting → ¬pool.CountLocked →
      ThreadStep pool index
        ({ pool with
          numThreadsAlive := pool.numThreadsAlive + 1 }.setThread index
            .looping)
  | enter : pool.thread index = .looping → pool.threadsKeepalive = true →
      ThreadStep pool index (pool.setThread index .testing)
  | leave : pool.thread index = .looping → pool.threadsKeepalive = false →
      ThreadStep pool index (pool.setThread index .exiting)
  | take : pool.thread index = .testing → pool.hasJobs = true →
      ThreadStep pool index
        ({ pool with hasJobs := false }.setThread index .woken)
  | sleep : pool.thread index = .testing → pool.hasJobs = false →
      ThreadStep pool index (pool.setThread index .asleep)
  | proceed : pool.thread index = .woken → pool.threadsKeepalive = true →
      ThreadStep pool index (pool.setThread index .countingUp)
  | abandon : pool.thread index = .woken → pool.threadsKeepalive = false →
      ThreadStep pool index (pool.setThread index .looping)
  | countUp : pool.thread index = .countingUp → ¬pool.CountLocked →
      ThreadStep pool index
        ({ pool with
          numThreadsWorking := pool.numThreadsWorking + 1 }.setThread index
            .pulling)
  | pull {pulled : Pulled} : pool.thread index = .pulling →
      ¬pool.QueueLocked →
      pool.jobqueue.jobqueuePull pool.heap = some pulled →
      ThreadStep pool index
        ({ pool with
          jobqueue := pulled.jobqueue
          taken := pool.taken ++
            worksOf pool.heap pulled.job.toList }.setThread index
              (if pulled.posts then .posting pulled.job
                else .pulled pulled.job))
  | post {job : Option JobPtr} {signalled : Option (Fin count)} :
      pool.thread index = .posting job → pool.Signals signalled →
      ThreadStep pool index
        ((pool.bsemPost signalled).setThread index (.pulled job))
  | nothing : pool.thread index = .pulled none →
      ThreadStep pool index (pool.setThread index .countingDown)
  | call {job : JobPtr} {found : Job Work} :
      pool.thread index = .pulled (some job) → pool.heap job = some found →
      ThreadStep pool index
        (pool.setThread index (.running job found.work))
  | finish {job : JobPtr} {work : Work} {found : Job Work} :
      pool.thread index = .running job work → pool.heap job = some found →
      ThreadStep pool index
        ({ pool with
          heap := Function.update pool.heap job none
          finished := pool.finished ++ [work] }.setThread index
            .countingDown)
  | countDown : pool.thread index = .countingDown → ¬pool.CountLocked →
      pool.numThreadsWorking - 1 ≠ 0 →
      ThreadStep pool index
        ({ pool with
          numThreadsWorking := pool.numThreadsWorking - 1 }.setThread index
            .looping)
  | countOut : pool.thread index = .countingDown → ¬pool.CountLocked →
      pool.numThreadsWorking - 1 = 0 →
      ThreadStep pool index
        ({ pool with
          numThreadsWorking := 0
          owner := if pool.owner = OwnerPc.asleep then .locking
            else pool.owner }.setThread index .looping)
  | exit : pool.thread index = .exiting → ¬pool.CountLocked →
      ThreadStep pool index
        ({ pool with
          numThreadsAlive := pool.numThreadsAlive - 1 }.setThread index
            .unlocking)
  | unlock : pool.thread index = .unlocking →
      ThreadStep pool index (pool.setThread index .exited)

/-- The steps of the owner inside the functions of the pool. -/
inductive OwnerStep (pool : ThreadPool count Work) :
    ThreadPool count Work → Prop where
  | started : pool.owner = .starting → pool.numThreadsAlive = count →
      OwnerStep pool { pool with owner := .outside }
  | post {signalled : Option (Fin count)} : pool.owner = .posting →
      pool.Signals signalled →
      OwnerStep pool { pool.bsemPost signalled with owner := .outside }
  | lock : pool.owner = .locking → ¬pool.CountLocked →
      OwnerStep pool { pool with owner := .readingLen }
  | noJobs : pool.owner = .readingLen → pool.jobqueue.len = 0 →
      OwnerStep pool { pool with owner := .readingWorking }
  | someJobs : pool.owner = .readingLen → pool.jobqueue.len ≠ 0 →
      OwnerStep pool { pool with owner := .sleeping }
  | nobodyWorks : pool.owner = .readingWorking →
      pool.numThreadsWorking = 0 →
      OwnerStep pool { pool with owner := .outside }
  | somebodyWorks : pool.owner = .readingWorking →
      pool.numThreadsWorking ≠ 0 →
      OwnerStep pool { pool with owner := .sleeping }
  | sleep : pool.owner = .sleeping →
      OwnerStep pool { pool with owner := .asleep }
  | nobodyAlive : pool.owner = .destroying → pool.numThreadsAlive = 0 →
      OwnerStep pool { pool with owner := .clearing }
  | postAll : pool.owner = .destroying → pool.numThreadsAlive ≠ 0 →
      OwnerStep pool pool.bsemPostAll
  | clear {pulled : Pulled} {heap : JobHeap Work}
      {signalled : Option (Fin count)} : pool.owner = .clearing →
      pool.jobqueue.len ≠ 0 → pool.Signals signalled →
      pool.jobqueue.jobqueuePull pool.heap = some pulled →
      freeJob pool.heap pulled.job = some heap →
      OwnerStep pool
        { (if pulled.posts then pool.bsemPost signalled else pool) with
          heap := heap
          jobqueue := pulled.jobqueue
          cleared := pool.cleared ++
            worksOf pool.heap pulled.job.toList }
  | cleared : pool.owner = .clearing → pool.jobqueue.len = 0 →
      OwnerStep pool
        { pool with
          jobqueue := .jobqueueInit
          hasJobs := false
          owner := .destroyed }

theorem threadDo_step {pool next : ThreadPool count Work}
    {index : Fin count} {signalled : Option (Fin count)}
    (ready : pool.ThreadReady index signalled)
    (moved : pool.threadDo index signalled = some next) :
    ThreadStep pool index next := by
  unfold ThreadReady PcReady at ready
  unfold threadDo at moved
  cases pc : pool.thread index with
  | starting =>
      simp only [pc, Option.some.injEq] at ready moved
      exact moved ▸ .start pc ready
  | looping =>
      simp only [pc, Option.some.injEq] at moved
      cases keepalive : pool.threadsKeepalive with
      | true =>
          rw [keepalive, if_pos rfl] at moved
          exact moved ▸ .enter pc keepalive
      | false =>
          rw [keepalive, if_neg Bool.false_ne_true] at moved
          exact moved ▸ .leave pc keepalive
  | testing =>
      simp only [pc, Option.some.injEq] at moved
      cases hasJobs : pool.hasJobs with
      | true =>
          rw [hasJobs, if_pos rfl] at moved
          exact moved ▸ .take pc hasJobs
      | false =>
          rw [hasJobs, if_neg Bool.false_ne_true] at moved
          exact moved ▸ .sleep pc hasJobs
  | asleep =>
      simp only [pc] at ready
  | woken =>
      simp only [pc, Option.some.injEq] at moved
      cases keepalive : pool.threadsKeepalive with
      | true =>
          rw [keepalive, if_pos rfl] at moved
          exact moved ▸ .proceed pc keepalive
      | false =>
          rw [keepalive, if_neg Bool.false_ne_true] at moved
          exact moved ▸ .abandon pc keepalive
  | countingUp =>
      simp only [pc, Option.some.injEq] at ready moved
      exact moved ▸ .countUp pc ready
  | pulling =>
      simp only [pc] at ready moved
      obtain ⟨pulled, found, moved⟩ := Option.bind_eq_some_iff.mp moved
      exact Option.some.inj moved ▸ .pull pc ready found
  | posting job =>
      simp only [pc, Option.some.injEq] at ready moved
      exact moved ▸ .post pc ready
  | pulled job =>
      cases job with
      | none =>
          simp only [pc, Option.some.injEq] at moved
          exact moved ▸ .nothing pc
      | some job =>
          simp only [pc] at moved
          obtain ⟨found, isFound, moved⟩ := Option.bind_eq_some_iff.mp moved
          exact Option.some.inj moved ▸ .call pc isFound
  | running job work =>
      simp only [pc, freeJob] at moved
      obtain ⟨heap, freed, moved⟩ := Option.bind_eq_some_iff.mp moved
      obtain ⟨found, isFound, freed⟩ := Option.bind_eq_some_iff.mp freed
      rw [← Option.some.inj freed] at moved
      exact Option.some.inj moved ▸ .finish pc isFound
  | countingDown =>
      simp only [pc, Option.some.injEq] at ready moved
      by_cases last : pool.numThreadsWorking - 1 = 0
      · rw [if_pos last] at moved
        rw [← moved, signalIdle, last]
        exact .countOut pc ready last
      · rw [if_neg last] at moved
        exact moved ▸ .countDown pc ready last
  | exiting =>
      simp only [pc, Option.some.injEq] at ready moved
      exact moved ▸ .exit pc ready
  | unlocking =>
      simp only [pc, Option.some.injEq] at moved
      exact moved ▸ .unlock pc
  | exited =>
      simp only [pc] at ready

theorem ownerDo_step {pool next : ThreadPool count Work}
    {signalled : Option (Fin count)} (ready : pool.OwnerReady signalled)
    (moved : pool.ownerDo signalled = some next) : OwnerStep pool next := by
  unfold OwnerReady OwnerPcReady at ready
  unfold ownerDo at moved
  cases pc : pool.owner with
  | starting =>
      simp only [pc, Option.some.injEq] at ready moved
      exact moved ▸ .started pc ready
  | outside =>
      simp only [pc] at ready
  | posting =>
      simp only [pc, Option.some.injEq] at ready moved
      exact moved ▸ .post pc ready
  | locking =>
      simp only [pc, Option.some.injEq] at ready moved
      exact moved ▸ .lock pc ready
  | readingLen =>
      simp only [pc, Option.some.injEq] at moved
      by_cases empty : pool.jobqueue.len = 0
      · rw [if_pos empty] at moved
        exact moved ▸ .noJobs pc empty
      · rw [if_neg empty] at moved
        exact moved ▸ .someJobs pc empty
  | readingWorking =>
      simp only [pc, Option.some.injEq] at moved
      by_cases idle : pool.numThreadsWorking = 0
      · rw [if_pos idle] at moved
        exact moved ▸ .nobodyWorks pc idle
      · rw [if_neg idle] at moved
        exact moved ▸ .somebodyWorks pc idle
  | sleeping =>
      simp only [pc, Option.some.injEq] at moved
      exact moved ▸ .sleep pc
  | asleep =>
      simp only [pc] at ready
  | destroying =>
      simp only [pc, Option.some.injEq] at moved
      by_cases dead : pool.numThreadsAlive = 0
      · rw [if_pos dead] at moved
        exact moved ▸ .nobodyAlive pc dead
      · rw [if_neg dead] at moved
        exact moved ▸ .postAll pc dead
  | clearing =>
      simp only [pc] at ready moved
      by_cases empty : pool.jobqueue.len = 0
      · rw [if_pos empty] at moved
        exact Option.some.inj moved ▸ .cleared pc empty
      · rw [if_neg empty] at moved
        obtain ⟨pulled, found, moved⟩ := Option.bind_eq_some_iff.mp moved
        obtain ⟨heap, freed, moved⟩ := Option.bind_eq_some_iff.mp moved
        exact Option.some.inj moved ▸ .clear pc empty ready found freed
  | destroyed =>
      simp only [pc] at ready

end ThreadPool

/-- Any party that can move may move. -/
def poolMachine (count : Nat) (Work : Type) :
    GuardedMachine (ThreadPool count Work) (PoolEvent count Work) where
  enabled := ThreadPool.Enabled
  move := ThreadPool.move

def poolSystem (count : Nat) (Work : Type) :
    TransitionSystem (ThreadPool count Work) (PoolEvent count Work) :=
  (poolMachine count Work).system

instance (pool : ThreadPool count Work) :
    DecidablePred ((poolMachine count Work).enabled pool) :=
  inferInstanceAs (DecidablePred pool.Enabled)

end StreamIO.Pool
