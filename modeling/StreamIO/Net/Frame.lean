import StreamIO.Library.LittleEndian

/-!
# Frames and handshakes

The eight bytes that open a connection.  `frame_top` and `handshake_msg` have
the same layout: the magic value, one byte, and three bytes of padding whose
contents are not specified.
-/

namespace StreamIO.Net

open StreamIO.Library

/-- `HANDSHAKE_HEADER`. -/
def handshakeHeader : UInt32 := 0x114514

/-- `FRAME_OP_OPEN`. -/
def frameOpOpen : UInt8 := 0

/-- `FRAME_OP_CLOS`. -/
def frameOpClos : UInt8 := 1

/-- `FRAME_DEV_CTX`. -/
def frameDevCtx : UInt8 := (0 : UInt8) <<< (4 : UInt8)

/-- Three bytes of padding. -/
structure Padding where
  first : UInt8
  second : UInt8
  third : UInt8
  deriving DecidableEq, Repr

def Padding.bytes (padding : Padding) : List UInt8 :=
  [padding.first, padding.second, padding.third]

/-- A `frame_top` or a `handshake_msg` in memory. -/
def headed (byte : UInt8) (padding : Padding) : List UInt8 :=
  littleEndian32 handshakeHeader ++ byte :: padding.bytes

@[simp] theorem length_headed (byte : UInt8) (padding : Padding) :
    (headed byte padding).length = 8 := rfl

/-- A request frame on a context connection. -/
inductive ContextFrame where
  | open (padding : Padding)
  | close (padding : Padding) (ctxId : UInt32)
  deriving DecidableEq, Repr

/-- The frame as it is sent: a `frame_top`, or a `frame_ctx_top`. -/
def ContextFrame.bytes : ContextFrame → List UInt8
  | .open padding => headed (frameOpOpen ||| frameDevCtx) padding
  | .close padding ctxId =>
      headed (frameOpClos ||| frameDevCtx) padding ++ littleEndian32 ctxId

def ContextFrame.IsOpen : ContextFrame → Prop
  | .open _ => True
  | .close _ _ => False

/-- The bytes of a sequence of frames. -/
def frameBytes (frames : List ContextFrame) : List UInt8 :=
  frames.flatMap ContextFrame.bytes

end StreamIO.Net
