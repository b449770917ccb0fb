import StreamIO.Net.Frame
import StreamIO.Backend.Context

/-!
# A connection served by `start_task`

The bytes of one connection, read by `start_task` and `handle_context`.  A
`recv` gets the bytes it asks for as far as they have arrived; when there are
none it returns zero if the peer has closed the connection, and blocks
otherwise.  Variables that are not initialised hold arbitrary bytes.
-/

namespace StreamIO.Backend

open StreamIO.Library StreamIO.Net

/-- The receiving side of a connection.  `cuts` are how many bytes have
arrived at each of the next calls of `recv`, one at least; when they are used
up a call finds all that is left. -/
structure Inbound where
  stream : List UInt8
  closed : Bool
  cuts : List Nat := []
  deriving DecidableEq, Repr

namespace Inbound

/-- How many of the bytes it asks for the next call can get. -/
def limit (inbound : Inbound) (count : Nat) : Nat :=
  match inbound.cuts with
  | [] => count
  | cut :: _ => min count (max 1 cut)

/-- `recv` with `MSG_PEEK`; `none` when it blocks. -/
def peek (inbound : Inbound) (count : Nat) : Option (List UInt8) :=
  if inbound.stream = [] then
    if inbound.closed then some [] else none
  else some (inbound.stream.take (inbound.limit count))

/-- The connection after the peek. -/
def peeked (inbound : Inbound) : Inbound :=
  { inbound with cuts := inbound.cuts.tail }

/-- `recv`; `none` when it blocks. -/
def recv (inbound : Inbound) (count : Nat) :
    Option (List UInt8 × Inbound) :=
  (inbound.peek count).map fun bytes =>
    (bytes, { inbound with
      stream := inbound.stream.drop (inbound.limit count)
      cuts := inbound.cuts.tail })

theorem limit_positive (inbound : Inbound) {count : Nat}
    (positive : 0 < count) : 0 < inbound.limit count := by
  unfold limit
  split
  · exact positive
  · omega

end Inbound

/-- The initial contents of `frame_top` in `start_task` and of `client_frame`
in each call of `handle_context`. -/
structure TaskStack where
  frameTop : Fin 8 → UInt8
  clientFrame : Nat → Fin 12 → UInt8

/-- What a call of `handle_context` has done: it opened a context and sent its
id, it found no entry for one, or it tried to close an id. -/
inductive ContextAction where
  | opened (index : Nat)
  | refused
  | attempted (ctxId : UInt32)
  deriving DecidableEq, Repr

/-- What `handle_context` leaves behind when it returns. -/
structure Handled where
  server : ContextServer
  inbound : Inbound
  actions : List ContextAction
  result : Int

/-- `frame->op`. -/
def frameOp (frame : List UInt8) : UInt8 := frame.getD 4 0

/-- `client_frame.ctx_id`. -/
def frameCtxId (frame : List UInt8) : UInt32 :=
  ofLittleEndian32 (frame.drop 8)

/-- What an `OPEN` does that finds this entry. -/
def openAction : Option Nat → ContextAction
  | some index => .opened index
  | none => .refused

/-- `handle_context`, all replies being sent; `none` when it blocks. -/
def handleContext (server : ContextServer) (clientFrame : List UInt8)
    (inbound : Inbound) (frame : List UInt8) : Option Handled :=
  if frameOp frame &&& 0xf = frameOpOpen then
    some
      { server := (server.openContext true).1
        inbound := inbound
        actions := [openAction server.freeEntry]
        result := (server.openContext true).2 }
  else if frameOp frame &&& 0xf = frameOpClos then
    (inbound.recv 12).map fun (bytes, inbound) =>
      let ctxId := frameCtxId (overwrite clientFrame bytes)
      { server := (server.closeContext ctxId).1
        inbound := inbound
        actions := [.attempted ctxId]
        result := (server.closeContext ctxId).2 }
  else
    some { server := server, inbound := inbound, actions := [], result := -1 }

theorem Inbound.recv_le {inbound rest : Inbound} {bytes : List UInt8}
    {count : Nat}
    (received : inbound.recv count = some (bytes, rest)) :
    rest.stream.length ≤ inbound.stream.length := by
  obtain ⟨_, _, same⟩ := Option.map_eq_some_iff.mp received
  obtain ⟨rfl, rfl⟩ := Prod.mk.inj same
  simp

theorem handleContext_stream {server : ContextServer}
    {clientFrame frame : List UInt8} {inbound : Inbound} {handled : Handled}
    (returned : handleContext server clientFrame inbound frame =
      some handled) :
    handled.inbound.stream.length ≤ inbound.stream.length := by
  unfold handleContext at returned
  split at returned
  · obtain rfl := Option.some.inj returned
    exact Nat.le_refl _
  · split at returned
    · obtain ⟨⟨bytes, rest⟩, received, rfl⟩ :=
        Option.map_eq_some_iff.mp returned
      exact Inbound.recv_le received
    · obtain rfl := Option.some.inj returned
      exact Nat.le_refl _

theorem Inbound.recv_stream {inbound rest : Inbound} {bytes : List UInt8}
    {count : Nat} (received : inbound.recv count = some (bytes, rest))
    (positive : 0 < count) (some_bytes : bytes ≠ []) :
    rest.stream.length < inbound.stream.length := by
  obtain ⟨peeked, available, same⟩ := Option.map_eq_some_iff.mp received
  obtain ⟨rfl, rfl⟩ := Prod.mk.inj same
  unfold Inbound.peek at available
  split at available
  · split at available
    · exact (some_bytes (Option.some.inj available).symm).elim
    · cases available
  · rename_i nonempty
    have := List.length_pos_of_ne_nil nonempty
    have := inbound.limit_positive positive
    simp only [List.length_drop]
    omega

theorem recv_append {bytes : List UInt8} (closed : Bool)
    (some_bytes : bytes ≠ []) (tail : List UInt8) :
    Inbound.recv { stream := bytes ++ tail, closed } bytes.length =
      some (bytes, { stream := tail, closed }) := by
  have nonempty : bytes ++ tail ≠ [] := by simp [some_bytes]
  simp [Inbound.recv, Inbound.peek, Inbound.limit, nonempty]

theorem recv_short {bytes : List UInt8} {closed : Bool}
    (some_bytes : bytes ≠ []) {count : Nat} (short : bytes.length ≤ count) :
    Inbound.recv { stream := bytes, closed } count =
      some (bytes, { stream := [], closed }) := by
  simp [Inbound.recv, Inbound.peek, Inbound.limit, some_bytes,
    List.take_of_length_le short, List.drop_eq_nil_of_le short]

theorem frameOp_headed (byte : UInt8) (padding : Padding) :
    frameOp (headed byte padding) = byte := rfl

theorem headed_opens (padding : Padding) :
    frameOp (headed frameOpOpen padding) &&& 0xf = frameOpOpen := by
  rw [frameOp_headed]
  decide

theorem headed_closes (padding : Padding) :
    frameOp (headed frameOpClos padding) &&& 0xf = frameOpClos := by
  rw [frameOp_headed]
  decide

/-- The loop of `start_task`: `frame` is handled, and as long as that succeeds
the next eight bytes are received over it.  `calls` counts the calls of
`handle_context`. -/
def taskLoop (stack : TaskStack) (server : ContextServer) (calls : Nat)
    (inbound : Inbound) (frame : List UInt8) :
    ContextServer × List ContextAction :=
  match _returned : handleContext server (List.ofFn (stack.clientFrame calls))
      inbound frame with
  | none => (server, [])
  | some handled =>
      if handled.result < 0 then (handled.server, handled.actions)
      else
        match _received : handled.inbound.recv 8 with
        | none => (handled.server, handled.actions)
        | some (bytes, inbound) =>
            if _ended : bytes = [] then (handled.server, handled.actions)
            else
              let (final, actions) := taskLoop stack handled.server
                (calls + 1) inbound (overwrite frame bytes)
              (final, handled.actions ++ actions)
termination_by inbound.stream.length
decreasing_by
  exact Nat.lt_of_lt_of_le
    (Inbound.recv_stream _received (by decide) _ended)
    (handleContext_stream _returned)

/-- `start_task` on a new connection. -/
def startTask (stack : TaskStack) (server : ContextServer)
    (inbound : Inbound) : ContextServer × List ContextAction :=
  match inbound.peek 8 with
  | none => (server, [])
  | some bytes =>
      let frame := overwrite (List.ofFn stack.frameTop) bytes
      if frameOp frame &&& 0xf0 = frameDevCtx then
        taskLoop stack server 0 inbound.peeked frame
      else (server, [])

/-- A call of `handle_context`: the server before and after it, what can be
received during it, the bytes that the last `recv` put into its frame, and
what it does. -/
structure ContextCall where
  before : ContextServer
  inbound : Inbound
  received : List UInt8
  after : ContextServer
  actions : List ContextAction

/-- The calls of the loop of `start_task`; `received` are the bytes last
received for `frame`. -/
def taskCalls (stack : TaskStack) (server : ContextServer) (calls : Nat)
    (inbound : Inbound) (received frame : List UInt8) : List ContextCall :=
  match _returned : handleContext server (List.ofFn (stack.clientFrame calls))
      inbound frame with
  | none => []
  | some handled =>
      { before := server, inbound := inbound, received := received,
        after := handled.server, actions := handled.actions } ::
        if handled.result < 0 then []
        else
          match _received : handled.inbound.recv 8 with
          | none => []
          | some (bytes, inbound) =>
              if _ended : bytes = [] then []
              else
                taskCalls stack handled.server (calls + 1) inbound bytes
                  (overwrite frame bytes)
termination_by inbound.stream.length
decreasing_by
  exact Nat.lt_of_lt_of_le
    (Inbound.recv_stream _received (by decide) _ended)
    (handleContext_stream _returned)

/-- The calls that follow a successful one. -/
def resumedCalls (stack : TaskStack) (server : ContextServer) (calls : Nat)
    (inbound : Inbound) (frame : List UInt8) : List ContextCall :=
  match inbound.recv 8 with
  | none => []
  | some (bytes, inbound) =>
      if bytes = [] then []
      else taskCalls stack server calls inbound bytes (overwrite frame bytes)

theorem taskCalls_eq (stack : TaskStack) (server : ContextServer)
    (calls : Nat) (inbound : Inbound) (received frame : List UInt8) :
    taskCalls stack server calls inbound received frame =
      match handleContext server (List.ofFn (stack.clientFrame calls))
          inbound frame with
      | none => []
      | some handled =>
          { before := server, inbound := inbound, received := received,
            after := handled.server, actions := handled.actions } ::
            if handled.result < 0 then []
            else
              resumedCalls stack handled.server (calls + 1) handled.inbound
                frame := by
  rw [taskCalls]
  split
  · rename_i blocked
    rw [blocked]
  · rename_i handled returned
    rw [returned]
    simp only [resumedCalls]
    split
    · rfl
    · split
      · rename_i blocked
        rw [blocked]
      · rename_i bytes rest taken
        rw [taken]
        simp only [dite_eq_ite]

/-- The loop does what its calls do, one after the other. -/
theorem taskLoop_eq (stack : TaskStack) (server : ContextServer)
    (calls : Nat) (inbound : Inbound) (received frame : List UInt8) :
    taskLoop stack server calls inbound frame =
      ((taskCalls stack server calls inbound received frame).foldl
          (fun _ call => call.after) server,
        (taskCalls stack server calls inbound received frame).flatMap
          ContextCall.actions) := by
  fun_induction taskLoop stack server calls inbound frame
    generalizing received with
  | case1 server calls inbound frame blocked =>
      rw [taskCalls_eq, blocked]
      rfl
  | case2 server calls inbound frame handled returned failed =>
      rw [taskCalls_eq, returned]
      simp [failed]
  | case3 server calls inbound frame handled returned failed blocked =>
      rw [taskCalls_eq, returned]
      simp [failed, resumedCalls, blocked]
  | case4 server calls inbound frame handled returned failed rest taken =>
      rw [taskCalls_eq, returned]
      simp [failed, resumedCalls, taken]
  | case5 server calls inbound frame handled returned failed bytes rest taken
      more final actions later induction =>
      have following := induction bytes
      rw [later] at following
      obtain ⟨lastServer, laterActions⟩ := Prod.mk.inj following
      rw [taskCalls_eq, returned]
      simp only [failed, if_false, resumedCalls, taken, more,
        List.foldl_cons, List.flatMap_cons, lastServer, laterActions]

section

variable {stack : TaskStack} {server : ContextServer} {calls : Nat}
  {inbound rest : Inbound}
  {received frame clientFrame bytes : List UInt8}

theorem handleContext_close (closes : frameOp frame &&& 0xf = frameOpClos)
    (taken : inbound.recv 12 = some (bytes, rest)) {ctxId : UInt32}
    (carried : frameCtxId (overwrite clientFrame bytes) = ctxId) :
    handleContext server clientFrame inbound frame =
      some
        { server := (server.closeContext ctxId).1
          inbound := rest
          actions := [.attempted ctxId]
          result := (server.closeContext ctxId).2 } := by
  have other : frameOpClos ≠ frameOpOpen := by decide
  simp only [handleContext, closes, if_neg other, if_true, taken,
    Option.map_some, carried]

theorem taskCalls_open (opens : frameOp frame &&& 0xf = frameOpOpen) :
    taskCalls stack server calls inbound received frame =
      { before := server, inbound := inbound, received := received,
        after := (server.openContext true).1,
        actions := [openAction server.freeEntry] } ::
        if (server.openContext true).2 < 0 then []
        else
          resumedCalls stack (server.openContext true).1 (calls + 1) inbound
            frame := by
  rw [taskCalls_eq]
  simp only [handleContext, if_pos opens]

theorem taskCalls_close (stack : TaskStack) (calls : Nat)
    (closes : frameOp frame &&& 0xf = frameOpClos)
    (taken : inbound.recv 12 = some (bytes, rest)) {ctxId : UInt32}
    (carried : frameCtxId (overwrite
      (List.ofFn (stack.clientFrame calls)) bytes) = ctxId) :
    taskCalls stack server calls inbound received frame =
      { before := server, inbound := inbound, received := received,
        after := (server.closeContext ctxId).1,
        actions := [.attempted ctxId] } ::
        if (server.closeContext ctxId).2 < 0 then []
        else
          resumedCalls stack (server.closeContext ctxId).1 (calls + 1) rest
            frame := by
  rw [taskCalls_eq, handleContext_close closes taken carried]

theorem taskCalls_close_blocked
    (closes : frameOp frame &&& 0xf = frameOpClos)
    (blocked : inbound.recv 12 = none) :
    taskCalls stack server calls inbound received frame = [] := by
  have other : frameOpClos ≠ frameOpOpen := by decide
  rw [taskCalls_eq]
  simp only [handleContext, closes, if_neg other, if_true, blocked,
    Option.map_none]

theorem taskCalls_other (noOpen : frameOp frame &&& 0xf ≠ frameOpOpen)
    (noClose : frameOp frame &&& 0xf ≠ frameOpClos) :
    taskCalls stack server calls inbound received frame =
      [{ before := server, inbound := inbound, received := received,
         after := server, actions := [] }] := by
  rw [taskCalls_eq]
  simp only [handleContext, if_neg noOpen, if_neg noClose]
  rfl

end

/-- What an action does to the server. -/
def ContextServer.perform (server : ContextServer) :
    ContextAction → ContextServer
  | .opened _ => (server.openContext true).1
  | .refused => server
  | .attempted ctxId => (server.closeContext ctxId).1

theorem handleContext_server {server : ContextServer}
    {clientFrame frame : List UInt8} {inbound : Inbound} {handled : Handled}
    (returned : handleContext server clientFrame inbound frame =
      some handled) :
    handled.server =
      handled.actions.foldl ContextServer.perform server := by
  unfold handleContext at returned
  split at returned
  · obtain rfl := Option.some.inj returned
    simp only [List.foldl_cons, List.foldl_nil]
    cases free : server.freeEntry with
    | none =>
        simp only [openAction, ContextServer.perform,
          ContextServer.openContext, free]
    | some index => rfl
  · split at returned
    · obtain ⟨⟨bytes, rest⟩, received, rfl⟩ :=
        Option.map_eq_some_iff.mp returned
      rfl
    · obtain rfl := Option.some.inj returned
      rfl

theorem taskLoop_server (stack : TaskStack) (server : ContextServer)
    (calls : Nat) (inbound : Inbound) (frame : List UInt8) :
    (taskLoop stack server calls inbound frame).1 =
      (taskLoop stack server calls inbound frame).2.foldl
        ContextServer.perform server := by
  fun_induction taskLoop stack server calls inbound frame with
  | case1 => rfl
  | case2 _ _ _ _ handled returned _ => exact handleContext_server returned
  | case3 _ _ _ _ handled returned _ _ => exact handleContext_server returned
  | case4 _ _ _ _ handled returned _ _ _ =>
      exact handleContext_server returned
  | case5 server calls inbound frame handled returned _ bytes rest received
      more final actions later induction =>
      rw [later] at induction
      rw [List.foldl_append, ← handleContext_server returned]
      exact induction

theorem startTask_server (stack : TaskStack) (server : ContextServer)
    (inbound : Inbound) :
    (startTask stack server inbound).1 =
      (startTask stack server inbound).2.foldl ContextServer.perform
        server := by
  unfold startTask
  split
  · rfl
  · simp only
    split
    · exact taskLoop_server stack server 0 inbound.peeked _
    · rfl

end StreamIO.Backend
