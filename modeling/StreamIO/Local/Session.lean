import Mathlib.Data.List.Induction
import Mathlib.Data.List.Nodup
import StreamIO.Library.TransitionSystem
import StreamIO.Local.StreamDevice

/-!
# Sessions of a local stream device

A session is what one thread does with an open device: it takes buffers,
writes into buffers it was given, submits them and synchronises, while the
engine advances at any point.  Next to the device a session keeps two
accounts that the code does not have: the pointers handed out so far and the
transfers submitted so far, each with the bytes present at its submission.
-/

namespace StreamIO.Local

open StreamIO.Driver StreamIO.Library

/-- An accepted submission and the payload at that moment. -/
structure Submission where
  cookie : Int
  bdindex : Nat
  length : Nat
  bytes : List UInt8
  deriving DecidableEq, Repr

/-- The submission a buffer was last used for. -/
def lastOf (submitted : List Submission) (index : Nat) : Option Submission :=
  submitted.reverse.find? fun entry => entry.bdindex = index

structure Session where
  device : StreamDevice
  handed : List Nat
  submitted : List Submission

/-- The calls of the application and the engine's own steps.  `store` is the
application writing to a buffer through a pointer it was given. -/
inductive SessionEvent where
  | getBuffer (script : WaitScript)
  | store (data offset : Nat) (bytes : List UInt8)
  | submit (data : Nat) (size : UInt32) (response : SubmitResponse)
  | sync (scripts : Nat → WaitScript)
  | engine (event : EngineEvent)

namespace Session

/-- A session starts by opening the device, whatever was done with the
channel before. -/
def start (channel : DmaProxyChannel) : Session :=
  { device := ioOpenStreamLocal channel, handed := [], submitted := [] }

abbrev channel (session : Session) : DmaProxyChannel :=
  session.device.channel

abbrev dma (session : Session) : DmaEngine :=
  session.device.channel.engine

/-- The submission an accepted `START_XFER` on this buffer amounts to. -/
def submission (session : Session) (index : Nat) (size : UInt32) :
    Submission :=
  { cookie := session.dma.lastCookie + 1
    bdindex := index
    length := size.toNat
    bytes := (session.channel.bufferTable index).buffer.load 0 size.toNat }

def step (session : Session) : SessionEvent → Session
  | .getBuffer script =>
      let (device, data) := ioStreamGetBuffer session.device script
      { session with
        device := device
        handed := session.handed ++ data.toList }
  | .store data offset bytes =>
      let index := data / sizeofChannelBuffer
      { session with
        device := { session.device with
          channel := session.channel.setBuffer index
            ((session.channel.bufferTable index).buffer.store offset
              bytes) } }
  | .submit data size response =>
      { session with
        device := ioWriteStreamDevice session.device data size response
        submitted :=
          if response = .accepted then
            session.submitted ++
              [session.submission (data / sizeofChannelBuffer) size]
          else session.submitted }
  | .sync scripts =>
      { session with device := ioSyncStreamDevice session.device scripts }
  | .engine event =>
      { session with
        device := { session.device with
          channel := session.channel.engineStep event } }

/-- The last transfer submitted on a buffer since the device was opened. -/
def lastSubmission (session : Session) (index : Nat) : Option Submission :=
  lastOf session.submitted index

/-- The last transfer submitted on the buffer is queued or running. -/
def Owned (session : Session) (index : Nat) : Prop :=
  ∃ entry, session.lastSubmission index = some entry ∧
    entry.cookie ∈ session.dma.pending.map Transfer.cookie

end Session

theorem lastOf_mem {submitted : List Submission} {index : Nat}
    {entry : Submission} (last : lastOf submitted index = some entry) :
    entry ∈ submitted ∧ entry.bdindex = index := by
  have member := List.mem_of_find?_eq_some last
  have property := List.find?_some last
  exact ⟨by simpa using member, by simpa using property⟩

theorem lastOf_append (submitted : List Submission) (entry : Submission)
    (index : Nat) :
    lastOf (submitted ++ [entry]) index =
      if entry.bdindex = index then some entry
      else lastOf submitted index := by
  by_cases same : entry.bdindex = index <;> simp [lastOf, same]

/-- With increasing cookies the last submission on a buffer has the largest
cookie of that buffer. -/
theorem lastOf_max {submitted : List Submission} {item : Submission}
    (increasing : submitted.Pairwise
      fun left right => left.cookie < right.cookie)
    (member : item ∈ submitted) :
    ∃ entry, lastOf submitted item.bdindex = some entry ∧
      item.cookie ≤ entry.cookie := by
  induction submitted using List.reverseRecOn with
  | nil => simp at member
  | append_singleton earlier latest induction =>
      rw [List.pairwise_append] at increasing
      obtain ⟨earlierIncreasing, _, latestLarger⟩ := increasing
      rw [lastOf_append]
      by_cases same : latest.bdindex = item.bdindex
      · refine ⟨latest, by rw [if_pos same], ?_⟩
        rcases List.mem_append.mp member with old | new
        · exact Int.le_of_lt (latestLarger item old latest (by simp))
        · have last : item = latest := List.mem_singleton.mp new
          exact Int.le_of_eq (congrArg (fun entry => entry.cookie) last)
      · rw [if_neg same]
        rcases List.mem_append.mp member with old | new
        · exact induction earlierIncreasing old
        · exact (same (by rw [List.mem_singleton.mp new])).elim

/-- The accounts of the engine agree with the submissions of the session. -/
structure Accounted (submitted : List Submission) (engine : DmaEngine) :
    Prop where
  increasing : submitted.Pairwise fun left right => left.cookie < right.cookie
  recent : ∀ entry ∈ submitted, entry.cookie ≤ engine.lastCookie
  tracked : ∀ entry ∈ submitted,
    entry.cookie ∈ engine.pending.map Transfer.cookie ∨
      entry.cookie ∈ engine.completed.map Transfer.cookie ∨
      entry.cookie ∈ engine.failed.map Transfer.cookie
  known : ∀ key ∈ engine.pending.map Transfer.key,
    ∃ entry ∈ submitted, (entry.cookie, entry.bdindex, entry.length) = key
  ordered : (engine.pending.map Transfer.cookie).Pairwise (· < ·)
  finished : ∀ earlier ∈ engine.completed.map Transfer.cookie,
    earlier ≤ engine.lastCookie ∧
      ∀ later ∈ engine.pending.map Transfer.cookie, earlier < later

theorem map_cookie_eq (transfers : List Transfer) :
    transfers.map Transfer.cookie =
      (transfers.map Transfer.key).map Prod.fst := by
  simp [Transfer.key, Function.comp_def]

namespace Accounted

theorem pending_le_lastCookie {submitted : List Submission}
    {engine : DmaEngine} (accounted : Accounted submitted engine)
    {cookie : Int}
    (member : cookie ∈ engine.pending.map Transfer.cookie) :
    cookie ≤ engine.lastCookie := by
  rw [map_cookie_eq, List.mem_map] at member
  obtain ⟨key, keyMember, rfl⟩ := member
  obtain ⟨entry, entryMember, rfl⟩ := accounted.known key keyMember
  exact accounted.recent entry entryMember

theorem eq_of_cookie {submitted : List Submission} {engine : DmaEngine}
    (accounted : Accounted submitted engine) {first second : Submission}
    (firstMember : first ∈ submitted) (secondMember : second ∈ submitted)
    (same : first.cookie = second.cookie) : first = second := by
  have distinct : (submitted.map Submission.cookie).Nodup := by
    rw [List.Nodup, List.pairwise_map]
    exact accounted.increasing.imp (fun smaller => Int.ne_of_lt smaller)
  exact List.inj_on_of_nodup_map distinct firstMember secondMember same

/-- Taking the first pending descriptor away, wherever it goes. -/
private theorem advance {submitted : List Submission}
    {before after : DmaEngine} {transfer : Transfer} {rest : List Transfer}
    (accounted : Accounted submitted before)
    (head : before.pending = transfer :: rest)
    (pending : after.pending = rest)
    (same : after.lastCookie = before.lastCookie)
    (tracked : ∀ cookie,
      cookie = transfer.cookie ∨
        cookie ∈ before.completed.map Transfer.cookie ∨
        cookie ∈ before.failed.map Transfer.cookie →
      cookie ∈ after.completed.map Transfer.cookie ∨
        cookie ∈ after.failed.map Transfer.cookie)
    (completed : ∀ cookie ∈ after.completed.map Transfer.cookie,
      cookie ∈ before.completed.map Transfer.cookie ∨
        cookie = transfer.cookie) :
    Accounted submitted after := by
  have cookies : before.pending.map Transfer.cookie =
      transfer.cookie :: rest.map Transfer.cookie := by
    rw [head, List.map_cons]
  have ordered := accounted.ordered
  rw [cookies, List.pairwise_cons] at ordered
  refine ⟨accounted.increasing, ?_, ?_, ?_, ?_, ?_⟩
  · rw [same]
    exact accounted.recent
  · intro entry member
    have place := accounted.tracked entry member
    have moved := tracked entry.cookie
    rw [cookies, List.mem_cons] at place
    rw [pending]
    tauto
  · intro key member
    apply accounted.known key
    rw [head, List.map_cons]
    rw [pending] at member
    exact List.mem_cons_of_mem _ member
  · rw [pending]
    exact ordered.2
  · intro earlier member
    rw [same, pending]
    rcases completed earlier member with old | new
    · obtain ⟨bound, before⟩ := accounted.finished earlier old
      refine ⟨bound, ?_⟩
      intro later laterMember
      apply before later
      rw [cookies]
      exact List.mem_cons_of_mem _ laterMember
    · subst earlier
      exact ⟨accounted.pending_le_lastCookie (by simp [cookies]), ordered.1⟩

theorem effect {submitted : List Submission} {before after : DmaEngine}
    (accounted : Accounted submitted before)
    (moved : EngineEffect before after)
    (same : after.lastCookie = before.lastCookie) :
    Accounted submitted after := by
  cases moved with
  | quiet pending completed failed =>
      have cookies : after.pending.map Transfer.cookie =
          before.pending.map Transfer.cookie := by
        rw [map_cookie_eq, map_cookie_eq, pending]
      refine ⟨accounted.increasing, ?_, ?_, ?_, ?_, ?_⟩
      · rw [same]
        exact accounted.recent
      · rw [cookies, completed, failed]
        exact accounted.tracked
      · rw [pending]
        exact accounted.known
      · rw [cookies]
        exact accounted.ordered
      · rw [cookies, completed, same]
        exact accounted.finished
  | completes transfer settled rest head pending sameKey completed failed =>
      have sameCookie : settled.cookie = transfer.cookie :=
        congrArg Prod.fst sameKey
      have cookies : after.completed.map Transfer.cookie =
          before.completed.map Transfer.cookie ++ [transfer.cookie] := by
        rw [completed, List.map_append, List.map_cons, List.map_nil,
          sameCookie]
      apply accounted.advance head pending same
      · intro cookie place
        rw [cookies, failed, List.mem_append, List.mem_singleton]
        tauto
      · intro cookie place
        rw [cookies, List.mem_append, List.mem_singleton] at place
        exact place
  | fails transfer rest head pending completed failed =>
      apply accounted.advance head pending same
      · intro cookie place
        rw [completed, failed, List.map_append, List.mem_append]
        simp only [List.map_cons, List.map_nil, List.mem_singleton]
        tauto
      · intro cookie place
        rw [completed] at place
        exact Or.inl place

theorem submit {submitted : List Submission} {before after : DmaEngine}
    (accounted : Accounted submitted before) {entry : Submission}
    (cookie : entry.cookie = before.lastCookie + 1)
    (appended : after = { before with
      lastCookie := before.lastCookie + 1
      pending := before.pending ++
        [{ cookie := before.lastCookie + 1, bdindex := entry.bdindex,
           length := entry.length, moved := none }] }) :
    Accounted (submitted ++ [entry]) after := by
  subst appended
  refine ⟨?_, ?_, ?_, ?_, ?_, ?_⟩
  · rw [List.pairwise_append]
    refine ⟨accounted.increasing, by simp, ?_⟩
    intro earlier member later laterMember
    have bound := accounted.recent earlier member
    rw [List.mem_singleton.mp laterMember, cookie]
    omega
  · intro item member
    rcases List.mem_append.mp member with old | new
    · have bound := accounted.recent item old
      push_cast
      omega
    · rw [List.mem_singleton.mp new, cookie]
      push_cast
      omega
  · intro item member
    rcases List.mem_append.mp member with old | new
    · have place := accounted.tracked item old
      simp only [List.map_append, List.mem_append]
      tauto
    · left
      rw [List.mem_singleton.mp new, cookie]
      simp
  · intro key member
    simp only [List.map_append, List.map_cons, List.map_nil,
      List.mem_append, List.mem_singleton] at member
    rcases member with old | new
    · obtain ⟨item, itemMember, equal⟩ := accounted.known key old
      exact ⟨item, List.mem_append_left _ itemMember, equal⟩
    · exact ⟨entry, by simp, by rw [new, cookie]; rfl⟩
  · simp only [List.map_append, List.map_cons, List.map_nil]
    rw [List.pairwise_append]
    refine ⟨accounted.ordered, by simp, ?_⟩
    intro earlier member later laterMember
    have bound := accounted.pending_le_lastCookie member
    rw [List.mem_singleton.mp laterMember]
    omega
  · intro earlier member
    obtain ⟨bound, before⟩ := accounted.finished earlier member
    refine ⟨by push_cast; omega, ?_⟩
    intro later laterMember
    simp only [List.map_append, List.map_cons, List.map_nil,
      List.mem_append, List.mem_singleton] at laterMember
    rcases laterMember with old | new
    · exact before later old
    · rw [new]
      omega

end Accounted

end StreamIO.Local
