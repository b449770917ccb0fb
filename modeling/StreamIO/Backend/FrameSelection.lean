import StreamIO.Backend.FrameProcessing

/-!
# Which frames have an effect

The calls of `handle_context` on one connection, each with the bytes that
were received for its frame.  Neither the magic value nor the number of bytes
received is checked, and the device nibble only for the frame that is peeked
at, so bytes that are no frame can open a context, and bytes that were never
received can open one or decide which one is closed.
-/

namespace StreamIO.Backend

open StreamIO.Library StreamIO.Net

/-- `frame->hs`. -/
def frameMagic (frame : List UInt8) : UInt32 :=
  ofLittleEndian32 (frame.take 4)

/-- The bytes are a whole `frame_top` with the magic value and the device
nibble of a context. -/
def ContextHeader (frame : List UInt8) : Prop :=
  frame.length = 8 ∧ frameMagic frame = handshakeHeader ∧
    frameOp frame &&& 0xf0 = frameDevCtx

namespace ContextCall

/-- The call changes the table, sends a reply or closes a context. -/
def Effective (call : ContextCall) : Prop :=
  call.after ≠ call.before

/-- A complete frame was received for the call: an `OPEN`, or a `CLOSE` whose
id is below `MAX_CONTEXT_COUNT`. -/
def WellFormed (call : ContextCall) : Prop :=
  ContextHeader call.received ∧
    (frameOp call.received &&& 0xf = frameOpOpen ∨
      (frameOp call.received &&& 0xf = frameOpClos ∧
        ∃ bytes, call.inbound.peek 12 = some bytes ∧ bytes.length = 12 ∧
          (frameCtxId bytes).toNat < maxContextCount))

end ContextCall

section

variable {server : ContextServer} {received : List UInt8} {op : UInt8}
  {inbound : Inbound}

end

section

variable {server : ContextServer} {inbound rest : Inbound}
  {received frame clientFrame bytes : List UInt8}

end

section

variable (frameTop : Fin 8 → UInt8)

end

section

variable {first second : TaskStack} {server : ContextServer} {calls : Nat}
  {inbound : Inbound} {received frame : List UInt8}

end

end StreamIO.Backend
