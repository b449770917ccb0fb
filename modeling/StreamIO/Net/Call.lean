import StreamIO.Library.LittleEndian

/-!
# Calls on a device connection

The first byte of a request on a mapped or stream connection.
-/

namespace StreamIO.Net

/-- `enum cmd_call_type`. -/
inductive CmdCallType where
  | callOpen
  | callClose
  | callWrite
  | callRead
  | callWriteBurst
  | callReadBurst
  | callWriteStream
  | callReadStream
  | callSyncStream
  deriving DecidableEq, Repr

/-- The enumerator's value as the `uint8_t` that is sent. -/
def CmdCallType.code : CmdCallType → UInt8
  | .callOpen => 0
  | .callClose => 1
  | .callWrite => 2
  | .callRead => 3
  | .callWriteBurst => 4
  | .callReadBurst => 5
  | .callWriteStream => 6
  | .callReadStream => 7
  | .callSyncStream => 8

end StreamIO.Net
