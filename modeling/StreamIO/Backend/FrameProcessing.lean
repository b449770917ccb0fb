import StreamIO.Backend.Task

/-!
# Frames processed by a connection

Whether the calls of `handle_context` on a connection are the frames that were
sent on it.  The first frame is only peeked at, a `CLOSE` is read from its
first byte on, and every later frame has lost its first eight bytes by the
time it is handled.
-/

namespace StreamIO.Backend

open StreamIO.Library StreamIO.Net

/-- The action is the one the frame asks for. -/
def Performed : ContextFrame → ContextAction → Prop
  | .open _, .opened _ => True
  | .close _ ctxId, .attempted attempted => attempted = ctxId
  | _, _ => False

/-- The actions of the connection are those its frames ask for. -/
def PerformsFrames (server : ContextServer) (closed : Bool)
    (frames : List ContextFrame) : Prop :=
  ∀ stack, List.Forall₂ Performed frames
    (startTask stack server { stream := frameBytes frames, closed }).2

def frameRequest : ContextFrame → ContextRequest
  | .open _ => .open true
  | .close _ ctxId => .close ctxId

/-- Each frame is processed once, in order, and nothing else is: the actions
are those of the frames, and the table, the contexts and the replies are those
of the requests handled one after the other. -/
def ProcessesOnce (server : ContextServer) (closed : Bool)
    (frames : List ContextFrame) : Prop :=
  PerformsFrames server closed frames ∧
    ∀ stack, (startTask stack server
        { stream := frameBytes frames, closed }).1 =
      frames.foldl (fun server frame => (server.handle (frameRequest frame)).1)
        server

/-- The free entries among those an `OPEN` looks at. -/
def ContextServer.room (server : ContextServer) : Nat :=
  (List.range 4).countP fun index => server.openedCtxList index = none

/-- The frames whose offsets `start_task` keeps: none on a connection that
stays open, or a `CLOSE` at the front and after it, if its id is open, as many
`OPEN`s as there is room for. -/
def KeepsOffsets (server : ContextServer) (closed : Bool) :
    List ContextFrame → Prop
  | [] => closed = false
  | .open _ :: _ => False
  | .close _ ctxId :: frames =>
      frames = [] ∨
        ((ctxId.toNat < maxContextCount ∧
            server.openedCtxList ctxId.toNat ≠ none) ∧
          (∀ frame ∈ frames, frame.IsOpen) ∧
          frames.length ≤ server.room)

/-- What is done after a successful call of `handle_context`. -/
def resumed (stack : TaskStack) (server : ContextServer) (calls : Nat)
    (inbound : Inbound) (frame : List UInt8) : List ContextAction :=
  (resumedCalls stack server calls inbound frame).flatMap
    ContextCall.actions

theorem taskLoop_snd (stack : TaskStack) (server : ContextServer)
    (calls : Nat) (inbound : Inbound) (received frame : List UInt8) :
    (taskLoop stack server calls inbound frame).2 =
      (taskCalls stack server calls inbound received frame).flatMap
        ContextCall.actions := by
  rw [taskLoop_eq stack server calls inbound received frame]

section

variable {stack : TaskStack} {server : ContextServer} {calls : Nat}
  {inbound rest : Inbound} {frame bytes : List UInt8} {closed : Bool}

theorem taskLoop_open_full (opens : frameOp frame &&& 0xf = frameOpOpen)
    (full : server.freeEntry = none) :
    (taskLoop stack server calls inbound frame).2 = [.refused] := by
  rw [taskLoop_snd stack server calls inbound [], taskCalls_open opens]
  simp [openAction, ContextServer.openContext_noRoom full, full]

theorem taskLoop_open {index : Nat}
    (opens : frameOp frame &&& 0xf = frameOpOpen)
    (free : server.freeEntry = some index) :
    (taskLoop stack server calls inbound frame).2 =
      .opened index ::
        resumed stack (server.openContext true).1 (calls + 1) inbound
          frame := by
  rw [taskLoop_snd stack server calls inbound [], taskCalls_open opens]
  simp [openAction, resumed, ContextServer.openContext, free]

theorem taskLoop_close_blocked
    (closes : frameOp frame &&& 0xf = frameOpClos)
    (blocked : inbound.recv 12 = none) :
    (taskLoop stack server calls inbound frame).2 = [] := by
  rw [taskLoop_snd stack server calls inbound [],
    taskCalls_close_blocked closes blocked]
  rfl

theorem taskLoop_close (closes : frameOp frame &&& 0xf = frameOpClos)
    (received : inbound.recv 12 = some (bytes, rest)) {ctxId : UInt32}
    (carried : frameCtxId (overwrite
      (List.ofFn (stack.clientFrame calls)) bytes) = ctxId) :
    (taskLoop stack server calls inbound frame).2 =
      .attempted ctxId ::
        if (server.closeContext ctxId).2 < 0 then []
        else resumed stack (server.closeContext ctxId).1 (calls + 1) rest
          frame := by
  rw [taskLoop_snd stack server calls inbound [],
    taskCalls_close stack calls closes received carried]
  split
  · rfl
  · rfl

theorem taskLoop_other (noOpen : frameOp frame &&& 0xf ≠ frameOpOpen)
    (noClose : frameOp frame &&& 0xf ≠ frameOpClos) :
    (taskLoop stack server calls inbound frame).2 = [] := by
  rw [taskLoop_snd stack server calls inbound [],
    taskCalls_other noOpen noClose]
  rfl

theorem resumed_nil :
    resumed stack server calls { stream := [], closed } frame = [] := by
  cases closed with
  | false => rfl
  | true => rfl

theorem resumed_append (tail : List UInt8) (whole : bytes.length = 8)
    (size : frame.length = 8) :
    resumed stack server calls { stream := bytes ++ tail, closed } frame =
      (taskLoop stack server calls { stream := tail, closed } bytes).2 := by
  have nonempty : bytes ≠ [] := by
    intro empty
    rw [empty] at whole
    cases whole
  have received := recv_append closed nonempty tail
  rw [whole] at received
  simp only [resumed, resumedCalls, received, if_neg nonempty]
  rw [overwrite_whole (whole.trans size.symm),
    taskLoop_snd stack server calls _ bytes bytes]

end

namespace ContextServer

variable {server : ContextServer}

theorem freeEntry_eq_none_iff : server.freeEntry = none ↔ server.room = 0 := by
  simp [freeEntry, room]

theorem room_openContext {index : Nat}
    (free : server.freeEntry = some index) :
    (server.openContext true).1.room + 1 = server.room := by
  obtain ⟨vacant, inside, _⟩ := List.find?_range_eq_some.mp free
  have entry : server.openedCtxList index = none := by simpa using vacant
  have table : (server.openContext true).1.openedCtxList =
      Function.update server.openedCtxList index (some server.created) := by
    simp [openContext, free]
  obtain ⟨before, after, split⟩ := List.append_of_mem inside
  have distinct : (before ++ index :: after).Nodup := split ▸ List.nodup_range
  have others : ∀ other ∈ before ++ after, other ≠ index := by
    rintro other member rfl
    exact (List.nodup_middle.mp distinct).notMem member
  have same : ∀ part : List Nat, part ⊆ before ++ after →
      part.countP (fun other => (server.openContext true).1.openedCtxList
        other = none) =
      part.countP (fun other => server.openedCtxList other = none) := by
    intro part inside
    apply List.countP_congr
    intro other member
    rw [table, Function.update_of_ne (others other (inside member))]
  simp only [room, split, List.countP_append, List.countP_cons, entry]
  rw [same before (List.subset_append_left _ _),
    same after (List.subset_append_right _ _), table]
  simp
  omega

theorem openedCtxList_closeContext (ctxId : UInt32) :
    (server.closeContext ctxId).1.openedCtxList = server.openedCtxList := by
  unfold closeContext
  split
  · split
    · rfl
    · rfl
  · rfl

theorem closeContext_succeeds_iff (server : ContextServer)
    (ctxId : UInt32) :
    ¬(server.closeContext ctxId).2 < 0 ↔
      ctxId.toNat < maxContextCount ∧
        server.openedCtxList ctxId.toNat ≠ none := by
  unfold closeContext
  split
  · rename_i bound
    split
    · rename_i context entry
      simp [bound, entry]
    · rename_i entry
      simp [entry]
  · rename_i bound
    simp [bound]

end ContextServer

section

variable {stack : TaskStack} {server : ContextServer} {calls : Nat}
  {frame : List UInt8} {closed : Bool}

theorem frameBytes_cons (first : ContextFrame) (frames : List ContextFrame) :
    frameBytes (first :: frames) = first.bytes ++ frameBytes frames := rfl

theorem frameBytes_close (padding : Padding) (ctxId : UInt32)
    (frames : List ContextFrame) :
    frameBytes (.close padding ctxId :: frames) =
      headed frameOpClos padding ++
        (littleEndian32 ctxId ++ frameBytes frames) := by
  rw [frameBytes_cons, ContextFrame.bytes, List.append_assoc]
  rfl

theorem resumed_open (padding : Padding) (frames : List ContextFrame)
    (size : frame.length = 8) :
    resumed stack server calls
        { stream := frameBytes (.open padding :: frames), closed } frame =
      (taskLoop stack server calls { stream := frameBytes frames, closed }
        (headed frameOpOpen padding)).2 :=
  resumed_append _ rfl size

theorem resumed_close (padding : Padding) (ctxId : UInt32)
    (frames : List ContextFrame) (size : frame.length = 8) :
    resumed stack server calls
        { stream := frameBytes (.close padding ctxId :: frames), closed }
        frame =
      (taskLoop stack server calls
        { stream := littleEndian32 ctxId ++ frameBytes frames, closed }
        (headed frameOpClos padding)).2 := by
  rw [frameBytes_close]
  exact resumed_append _ rfl size

/-- Twelve bytes are read for a `CLOSE` whether they start with it or not. -/
theorem taskLoop_close_whole {bytes : List UInt8} (tail : List UInt8)
    (closes : frameOp frame &&& 0xf = frameOpClos)
    (whole : bytes.length = 12) :
    (taskLoop stack server calls { stream := bytes ++ tail, closed }
        frame).2 =
      .attempted (frameCtxId bytes) ::
        if (server.closeContext (frameCtxId bytes)).2 < 0 then []
        else resumed stack (server.closeContext (frameCtxId bytes)).1
          (calls + 1) { stream := tail, closed } frame := by
  have nonempty : bytes ≠ [] := by
    intro empty
    rw [empty] at whole
    cases whole
  have received := recv_append closed nonempty tail
  rw [whole] at received
  apply taskLoop_close closes received
  rw [overwrite_whole]
  rw [List.length_ofFn, whole]

theorem taskLoop_close_attempts {stream : List UInt8}
    (closes : frameOp frame &&& 0xf = frameOpClos) (more : stream ≠ []) :
    ∃ ctxId later,
      (taskLoop stack server calls { stream, closed } frame).2 =
        .attempted ctxId :: later := by
  have received : Inbound.recv { stream, closed } 12 =
      some (stream.take 12, { stream := stream.drop 12, closed }) := by
    simp [Inbound.recv, Inbound.peek, Inbound.limit, more]
  exact ⟨_, _, taskLoop_close closes received rfl⟩

theorem not_performed_refused (frames : List ContextFrame) :
    ¬List.Forall₂ Performed frames [.refused] := by
  intro performed
  cases performed with
  | @cons first _ _ _ handled _ =>
      cases first with
      | «open» => exact handled
      | close => exact handled

theorem performed_open {inbound : Inbound} {frames : List ContextFrame}
    (opens : frameOp frame &&& 0xf = frameOpOpen)
    (performed : List.Forall₂ Performed frames
      (taskLoop stack server calls inbound frame).2) :
    ∃ padding later, frames = .open padding :: later ∧
      List.Forall₂ Performed later
        (resumed stack (server.openContext true).1 (calls + 1) inbound
          frame) := by
  cases free : server.freeEntry with
  | none =>
      rw [taskLoop_open_full opens free] at performed
      exact (not_performed_refused _ performed).elim
  | some index =>
      rw [taskLoop_open opens free] at performed
      cases performed with
      | @cons first _ later _ handled rest =>
          cases first with
          | «open» padding => exact ⟨padding, later, rfl, rest⟩
          | close => exact handled.elim

theorem not_performed_skipped (padding : Padding)
    (frames : List ContextFrame) (size : frame.length = 8) :
    ¬List.Forall₂ Performed (.open padding :: frames)
      (resumed stack server calls { stream := frameBytes frames, closed }
        frame) := by
  induction frames generalizing server calls padding frame with
  | nil =>
      intro performed
      rw [show frameBytes [] = [] from rfl, resumed_nil] at performed
      cases performed
  | cons first frames induction =>
      intro performed
      cases first with
      | «open» next =>
          rw [resumed_open next frames size] at performed
          obtain ⟨_, later, same, rest⟩ :=
            performed_open (headed_opens next) performed
          cases same
          exact induction next (length_headed _ next) rest
      | close next ctxId =>
          rw [resumed_close next ctxId frames size] at performed
          have more : littleEndian32 ctxId ++ frameBytes frames ≠ [] :=
            List.append_ne_nil_of_left_ne_nil
              (littleEndian32_ne_nil ctxId) _
          obtain ⟨attempted, later, actions⟩ :=
            taskLoop_close_attempts (headed_closes next) more
          rw [actions] at performed
          exact (List.forall₂_cons.mp performed).1

/-- A frame that is handled twice displaces all later ones. -/
theorem not_performed_repeated (padding : Padding)
    (frames : List ContextFrame) (size : frame.length = 8) :
    ¬List.Forall₂ Performed frames
      (resumed stack server calls
        { stream := frameBytes (.open padding :: frames), closed }
        frame) := by
  induction frames generalizing server calls padding frame with
  | nil =>
      intro performed
      rw [resumed_open padding [] size] at performed
      obtain ⟨_, later, same, _⟩ :=
        performed_open (headed_opens padding) performed
      cases same
  | cons first frames induction =>
      intro performed
      rw [resumed_open padding (first :: frames) size] at performed
      obtain ⟨next, later, same, rest⟩ :=
        performed_open (headed_opens padding) performed
      cases same
      exact induction next (length_headed _ padding) rest

end

/-- Uninitialised variables filled with one byte. -/
def TaskStack.constant (byte : UInt8) : TaskStack :=
  { frameTop := fun _ => byte, clientFrame := fun _ _ => byte }

theorem frameCtxId_stale (byte : UInt8) (calls : Nat) {bytes : List UInt8}
    (short : bytes.length ≤ 8) :
    frameCtxId (overwrite
        (List.ofFn ((TaskStack.constant byte).clientFrame calls)) bytes) =
      ofLittleEndian32 (List.replicate 4 byte) := by
  have fits : bytes.length ≤ (List.replicate 12 byte).length := by
    simp only [List.length_replicate]
    omega
  have stale : (overwrite (List.replicate 12 byte) bytes).drop 8 =
      List.replicate 4 byte := by
    rw [overwrite, List.take_of_length_le fits, List.drop_append,
      List.drop_eq_nil_of_le short, List.nil_append, List.drop_drop,
      List.drop_replicate]
    congr 1
    omega
  rw [← stale]
  rfl

section

variable {server : ContextServer} {calls : Nat} {closed : Bool}

theorem exists_stale_ctxId_ne (ctxId : UInt32) :
    ∃ byte, ofLittleEndian32 (List.replicate 4 byte) ≠ ctxId := by
  by_cases zero : ctxId = 0
  · exact ⟨1, zero ▸ by decide⟩
  · exact ⟨0, fun same => zero same.symm⟩

theorem frameBytes_header (first : ContextFrame)
    (frames : List ContextFrame) :
    ∃ tail, frameBytes (first :: frames) =
      littleEndian32 handshakeHeader ++ tail := by
  cases first with
  | «open» padding => exact ⟨_, List.append_assoc _ _ _⟩
  | close padding ctxId =>
      rw [frameBytes_close]
      exact ⟨_, List.append_assoc _ _ _⟩

/-- Eight bytes from the middle of a `CLOSE` on have the magic value where the
operation is looked for. -/
theorem resumed_inside {stack : TaskStack} {frame : List UInt8}
    (ctxId : UInt32) (first : ContextFrame) (frames : List ContextFrame)
    (size : frame.length = 8) :
    resumed stack server calls
      { stream := littleEndian32 ctxId ++ frameBytes (first :: frames)
        closed } frame = [] := by
  obtain ⟨tail, bytes⟩ := frameBytes_header first frames
  rw [bytes, ← List.append_assoc, resumed_append tail rfl size]
  have operation : frameOp (littleEndian32 ctxId ++
      littleEndian32 handshakeHeader) = 0x14 := rfl
  apply taskLoop_other
  · rw [operation]
    decide
  · rw [operation]
    decide

theorem resumed_last {stack : TaskStack} (ctxId : UInt32)
    (padding : Padding) :
    resumed stack server calls
        { stream := littleEndian32 ctxId, closed }
        (headed frameOpClos padding) =
      (taskLoop stack server calls { stream := [], closed }
        (littleEndian32 ctxId ++ frameOpClos :: padding.bytes)).2 := by
  rw [resumed, resumedCalls,
    recv_short (littleEndian32_ne_nil ctxId) (by simp)]
  simp only [if_neg (littleEndian32_ne_nil ctxId)]
  rw [taskLoop_snd stack server calls _ (littleEndian32 ctxId)]
  rfl

theorem not_performed_last (padding next : Padding) (ctxId : UInt32) :
    ¬∀ stack, List.Forall₂ Performed [.close next ctxId]
      (taskLoop stack server calls { stream := [], closed }
        (littleEndian32 ctxId ++ frameOpClos :: padding.bytes)).2 := by
  intro performed
  have closes : frameOp (littleEndian32 ctxId ++
      frameOpClos :: padding.bytes) &&& 0xf = frameOpClos := by
    rw [show frameOp (littleEndian32 ctxId ++
      frameOpClos :: padding.bytes) = frameOpClos from rfl]
    decide
  cases closed with
  | false =>
      have last := performed (TaskStack.constant 0)
      rw [taskLoop_close_blocked closes rfl] at last
      cases last
  | true =>
      obtain ⟨byte, differs⟩ := exists_stale_ctxId_ne ctxId
      have last := performed (TaskStack.constant byte)
      rw [taskLoop_close closes rfl
        (frameCtxId_stale byte calls (by decide))] at last
      exact differs (List.forall₂_cons.mp last).1

/-- The actions of a `CLOSE` whose first eight bytes are gone. -/
def lateClose (stack : TaskStack) (server : ContextServer) (calls : Nat)
    (closed : Bool) (padding : Padding) (ctxId : UInt32)
    (frames : List ContextFrame) : List ContextAction :=
  (taskLoop stack server calls
    { stream := littleEndian32 ctxId ++ frameBytes frames, closed }
    (headed frameOpClos padding)).2

theorem not_performed_alone (padding : Padding) (ctxId : UInt32) :
    ¬∀ stack, List.Forall₂ Performed [.close padding ctxId]
      (lateClose stack server calls closed padding ctxId []) := by
  intro performed
  obtain ⟨byte, differs⟩ := exists_stale_ctxId_ne ctxId
  have received : Inbound.recv
      { stream := littleEndian32 ctxId ++ frameBytes [], closed } 12 =
      some (littleEndian32 ctxId, { stream := [], closed }) :=
    recv_short (littleEndian32_ne_nil ctxId) (by simp)
  have alone := performed (TaskStack.constant byte)
  rw [lateClose, taskLoop_close (headed_closes padding) received
    (frameCtxId_stale byte calls (by simp))] at alone
  exact differs (List.forall₂_cons.mp alone).1

theorem not_performed_before_open (padding skipped : Padding)
    (ctxId : UInt32) (frames : List ContextFrame) (stack : TaskStack) :
    ¬List.Forall₂ Performed (.close padding ctxId :: .open skipped :: frames)
      (lateClose stack server calls closed padding ctxId
        (.open skipped :: frames)) := by
  intro performed
  rw [lateClose, frameBytes_cons, ← List.append_assoc,
    taskLoop_close_whole _ (headed_closes padding) rfl] at performed
  have later := (List.forall₂_cons.mp performed).2
  split at later
  · cases later
  · exact not_performed_skipped skipped frames rfl later

theorem performed_before_close {padding skipped : Padding}
    {ctxId other : UInt32} {frames : List ContextFrame} {stack : TaskStack}
    (performed : List.Forall₂ Performed
      (.close padding ctxId :: .close skipped other :: frames)
      (lateClose stack server calls closed padding ctxId
        (.close skipped other :: frames))) :
    List.Forall₂ Performed (.close skipped other :: frames)
      (resumed stack (server.closeContext (frameCtxId
        (littleEndian32 ctxId ++ headed frameOpClos skipped))).1
        (calls + 1)
        { stream := littleEndian32 other ++ frameBytes frames, closed }
        (headed frameOpClos padding)) := by
  rw [lateClose, frameBytes_close, ← List.append_assoc,
    taskLoop_close_whole _ (headed_closes padding) rfl] at performed
  have later := (List.forall₂_cons.mp performed).2
  split at later
  · cases later
  · exact later

theorem not_performed_late_close (padding : Padding) (ctxId : UInt32)
    (frames : List ContextFrame) :
    ¬∀ stack, List.Forall₂ Performed (.close padding ctxId :: frames)
      (lateClose stack server calls closed padding ctxId frames) := by
  intro performed
  cases frames with
  | nil => exact not_performed_alone padding ctxId performed
  | cons next frames =>
      cases next with
      | «open» skipped =>
          exact not_performed_before_open padding skipped ctxId frames _
            (performed (TaskStack.constant 0))
      | close skipped other =>
          cases frames with
          | nil =>
              apply not_performed_last padding skipped other
              intro stack
              have last := performed_before_close (performed stack)
              rw [show frameBytes [] = [] from rfl, List.append_nil,
                resumed_last other padding] at last
              exact last
          | cons third frames =>
              have inside := performed_before_close
                (performed (TaskStack.constant 0))
              rw [resumed_inside other third frames rfl] at inside
              cases inside

end

section

variable {server : ContextServer} {closed : Bool}

/-- Once a `CLOSE` has been read whole, `OPEN`s are processed as long as there
is room, and nothing else is. -/
theorem performed_resumed_iff (server : ContextServer) (closed : Bool)
    (calls : Nat) {frame : List UInt8} (frames : List ContextFrame)
    (size : frame.length = 8) :
    (∀ stack, List.Forall₂ Performed frames
      (resumed stack server calls { stream := frameBytes frames, closed }
        frame)) ↔
      (∀ frame ∈ frames, frame.IsOpen) ∧
        frames.length ≤ server.room := by
  induction frames generalizing server calls frame with
  | nil =>
      constructor
      · intro _
        exact ⟨by simp, Nat.zero_le _⟩
      · intro _ stack
        rw [show frameBytes [] = [] from rfl, resumed_nil]
        exact .nil
  | cons first frames induction =>
      cases first with
      | «open» padding =>
          simp only [resumed_open padding frames size]
          cases free : server.freeEntry with
          | none =>
              have full := ContextServer.freeEntry_eq_none_iff.mp free
              simp only [taskLoop_open_full (headed_opens padding) free]
              constructor
              · intro performed
                exact (not_performed_refused _
                  (performed (TaskStack.constant 0))).elim
              · rintro ⟨_, enough⟩
                rw [full] at enough
                cases enough
          | some index =>
              have room := ContextServer.room_openContext free
              have next := induction (server.openContext true).1 (calls + 1)
                (length_headed frameOpOpen padding)
              simp only [taskLoop_open (headed_opens padding) free,
                List.forall₂_cons, Performed, true_and, next,
                List.forall_mem_cons, ContextFrame.IsOpen, List.length_cons]
              constructor
              · rintro ⟨opens, enough⟩
                exact ⟨opens, by omega⟩
              · rintro ⟨opens, enough⟩
                exact ⟨opens, by omega⟩
      | close padding ctxId =>
          simp only [resumed_close padding ctxId frames size]
          constructor
          · intro performed
            exact (not_performed_late_close padding ctxId frames
              performed).elim
          · rintro ⟨opens, _⟩
            exact (opens _ List.mem_cons_self).elim

theorem startTask_headed (stack : TaskStack) {operation : UInt8}
    (context : operation &&& 0xf0 = frameDevCtx) (padding : Padding)
    (tail : List UInt8) :
    startTask stack server
        { stream := headed operation padding ++ tail, closed } =
      taskLoop stack server 0
        { stream := headed operation padding ++ tail, closed }
        (headed operation padding) := by
  have peeked : Inbound.peek
      { stream := headed operation padding ++ tail, closed } 8 =
      some (headed operation padding) := rfl
  have whole : overwrite (List.ofFn stack.frameTop)
      (headed operation padding) = headed operation padding := by
    apply overwrite_whole
    rw [List.length_ofFn, length_headed]
  simp only [startTask, peeked, whole, frameOp_headed, context, if_true]
  rfl

/-- A connection closed before it has sent anything is served from whatever
was on the stack. -/
theorem empty_performed_iff :
    PerformsFrames server closed [] ↔ closed = false := by
  cases closed with
  | false =>
      constructor
      · intro _
        rfl
      · intro _ stack
        exact .nil
  | true =>
      constructor
      · intro processes
        have nothing := processes (TaskStack.constant 0)
        have opens : frameOp (List.ofFn (TaskStack.constant 0).frameTop) &&&
            0xf = frameOpOpen := rfl
        have started : startTask (TaskStack.constant 0) server
            { stream := frameBytes [], closed := true } =
            taskLoop (TaskStack.constant 0) server 0
              { stream := [], closed := true }
              (List.ofFn (TaskStack.constant 0).frameTop) := rfl
        rw [started] at nothing
        obtain ⟨_, _, same, _⟩ := performed_open opens nothing
        cases same
      · intro still
        cases still

theorem first_open_not_performed (padding : Padding)
    (frames : List ContextFrame) :
    ¬PerformsFrames server closed (.open padding :: frames) := by
  intro processes
  have performed := processes (TaskStack.constant 0)
  have context : frameOpOpen &&& 0xf0 = frameDevCtx := by decide
  have bytes : frameBytes (.open padding :: frames) =
      headed frameOpOpen padding ++ frameBytes frames := rfl
  rw [bytes, startTask_headed _ context, ← bytes] at performed
  obtain ⟨_, later, same, rest⟩ :=
    performed_open (headed_opens padding) performed
  cases same
  exact not_performed_repeated padding frames (length_headed _ padding) rest

theorem frameCtxId_close (padding : Padding) (ctxId : UInt32) :
    frameCtxId (headed frameOpClos padding ++ littleEndian32 ctxId) =
      ctxId :=
  ofLittleEndian32_littleEndian32 ctxId

theorem room_closeContext (ctxId : UInt32) :
    (server.closeContext ctxId).1.room = server.room := by
  simp only [ContextServer.room, ContextServer.openedCtxList_closeContext]

theorem first_close_performed_iff (padding : Padding) (ctxId : UInt32)
    (frames : List ContextFrame) :
    PerformsFrames server closed (.close padding ctxId :: frames) ↔
      KeepsOffsets server closed (.close padding ctxId :: frames) := by
  have context : frameOpClos &&& 0xf0 = frameDevCtx := by decide
  have later := performed_resumed_iff (server.closeContext ctxId).1 closed 1
    frames (length_headed frameOpClos padding)
  rw [room_closeContext] at later
  have actions : ∀ stack, (startTask stack server
      { stream := frameBytes (.close padding ctxId :: frames), closed }).2 =
      .attempted ctxId ::
        if (server.closeContext ctxId).2 < 0 then []
        else resumed stack (server.closeContext ctxId).1 1
          { stream := frameBytes frames, closed }
          (headed frameOpClos padding) := by
    intro stack
    rw [frameBytes_close, startTask_headed stack context,
      ← List.append_assoc,
      taskLoop_close_whole _ (headed_closes padding) rfl,
      frameCtxId_close]
  have succeeds := server.closeContext_succeeds_iff ctxId
  simp only [PerformsFrames, KeepsOffsets, actions, List.forall₂_cons,
    Performed, true_and, ← succeeds]
  by_cases failed : (server.closeContext ctxId).2 < 0
  · simp only [failed, if_true, List.forall₂_nil_right_iff, not_true_eq_false,
      false_and, or_false]
    constructor
    · intro performed
      exact performed (TaskStack.constant 0)
    · intro alone _
      exact alone
  · simp only [failed, if_false, not_false_eq_true, true_and, later]
    constructor
    · exact Or.inr
    · rintro (rfl | opens)
      · exact ⟨by simp, Nat.zero_le _⟩
      · exact opens

end

theorem performsFrames_iff_keepsOffsets (server : ContextServer)
    (closed : Bool) (frames : List ContextFrame) :
    PerformsFrames server closed frames ↔
      KeepsOffsets server closed frames := by
  cases frames with
  | nil => exact empty_performed_iff
  | cons first frames =>
      cases first with
      | «open» padding =>
          exact ⟨first_open_not_performed padding frames, False.elim⟩
      | close padding ctxId =>
          exact first_close_performed_iff padding ctxId frames

theorem foldl_perform (server : ContextServer) {frames : List ContextFrame}
    {actions : List ContextAction}
    (performed : List.Forall₂ Performed frames actions) :
    actions.foldl ContextServer.perform server =
      frames.foldl (fun server frame => (server.handle (frameRequest frame)).1)
        server := by
  induction performed generalizing server with
  | nil => rfl
  | @cons frame action _ _ same _ induction =>
      simp only [List.foldl_cons]
      rw [induction]
      cases frame with
      | «open» padding =>
          cases action with
          | opened index => rfl
          | refused => exact same.elim
          | attempted ctxId => exact same.elim
      | close padding ctxId =>
          cases action with
          | opened index => exact same.elim
          | refused => exact same.elim
          | attempted attempted =>
              obtain rfl : attempted = ctxId := same
              rfl

/-- The frames sent on a connection are processed once each, in order and with
the ids they carry, exactly when `start_task` keeps their offsets. -/
theorem frames_processed_once_iff (server : ContextServer) (closed : Bool)
    (frames : List ContextFrame) :
    ProcessesOnce server closed frames ↔
      KeepsOffsets server closed frames := by
  rw [← performsFrames_iff_keepsOffsets]
  constructor
  · intro processes
    exact processes.1
  · intro performs
    refine ⟨performs, ?_⟩
    intro stack
    rw [startTask_server, foldl_perform server (performs stack)]

/-- A single `OPEN`: peeked at and handled, received and handled again. -/
theorem single_open_processed_twice :
    ¬∀ server closed frames, ProcessesOnce server closed frames := by
  intro processes
  exact first_open_not_performed ⟨0, 0, 0⟩ []
    (processes ContextServer.initial false [.open ⟨0, 0, 0⟩]).1

end StreamIO.Backend
