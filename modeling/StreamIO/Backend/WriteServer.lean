import StreamIO.Backend.Repacketise
import StreamIO.Local.TransmitFifo

/-!
# The write server on its device

`client_cmd_write_stream_inf` over the stream device it fills.  `ch_buffer`
is a pointer into the mapping of the device, a payload `recv` stores through
it, a full buffer is submitted, and the engine moves between any two calls.
-/

namespace StreamIO.Backend

open StreamIO.Library StreamIO.Driver StreamIO.Local StreamIO.Net

/-- The variables of `client_cmd_write_stream_inf`, its device, and the
payload bytes received. -/
structure WriteServer where
  pc : WriteStreamPc
  startCmd : UInt8
  recvSize : UInt32
  bufferPtr : UInt32
  chBuffer : Option Nat
  accuSize : UInt64
  streamN : UInt32
  session : Session
  received : List UInt8

/-- A socket call returns, or the engine moves.  `response` and `script` are
what a submission and the next `io_stream_get_buffer` meet, if the call fills
the buffer. -/
inductive ServerEvent where
  | call (result : SocketResult) (response : SubmitResponse)
      (script : WaitScript)
  | engine (event : EngineEvent)

namespace WriteServer

/-- What the memory behind a pointer into the mapping holds. -/
def content (server : WriteServer) (data : Nat) : ByteMemory :=
  (server.session.channel.bufferTable (data / sizeofChannelBuffer)).buffer

/-- `ch_buffer = io_stream_get_buffer(d)`. -/
def getBuffer (server : WriteServer) (script : WaitScript) : WriteServer :=
  { server with
    chBuffer := (ioStreamGetBuffer server.session.device script).2
    session := server.session.step (.getBuffer script) }

/-- The function is entered with an open device. -/
def enter (channel : DmaProxyChannel) (startCmd : UInt8)
    (script : WaitScript) : WriteServer :=
  let server : WriteServer :=
    { pc := .startCmd, startCmd := startCmd, recvSize := 0, bufferPtr := 0,
      chBuffer := none, accuSize := 0, streamN := 0,
      session := Session.start channel, received := [] }
  server.getBuffer script

def receiveStartCmd (server : WriteServer) (result : SocketResult) :
    WriteServer :=
  let startCmd := result.bytes.headD server.startCmd
  { server with
    startCmd := startCmd
    pc := if startCmd = CmdCallType.callWriteStream.code then .size
      else .acknowledge }

def receiveSize (server : WriteServer) (result : SocketResult) :
    WriteServer :=
  let recvSize := receiveWord server.recvSize result
  { server with
    recvSize := recvSize
    pc := WriteStream.payloadOrAcknowledge recvSize }

/-- `n` bytes have been stored behind `buffer_ptr`. -/
def store (server : WriteServer) (data : Nat) (result : SocketResult) :
    WriteServer :=
  { server with
    session := server.session.step
      (.store data server.bufferPtr.toNat result.bytes)
    received := server.received ++ result.bytes
    recvSize := server.recvSize - result.count
    bufferPtr := server.bufferPtr + result.count
    accuSize := server.accuSize + result.count.toUInt64
    pc := WriteStream.payloadOrAcknowledge
      (server.recvSize - result.count) }

/-- `io_write_stream_device(d, ch_buffer->buffer, stream_size)`. -/
def submit (server : WriteServer) (data : Nat) (response : SubmitResponse) :
    WriteServer :=
  { server with
    session := server.session.step
      (.submit data (UInt32.ofNat streamSize) response) }

/-- A full buffer is submitted and the next one taken. -/
def startLocalStream (server : WriteServer) (data : Nat)
    (response : SubmitResponse) (script : WaitScript) : WriteServer :=
  { (server.submit data response).getBuffer script with
    bufferPtr := 0
    streamN := server.streamN + 1 }

/-- The body of the payload loop. -/
def receivePayload (server : WriteServer) (result : SocketResult)
    (response : SubmitResponse) (script : WaitScript) : WriteServer :=
  if result.count ≤ 0 then { server with pc := .acknowledge }
  else
    match server.chBuffer with
    | none => { server with pc := .faulted }
    | some data =>
        let server := server.store data result
        if streamSize ≤ server.bufferPtr.toNat then
          server.startLocalStream data response script
        else server

def sendAcknowledge (server : WriteServer) (result : SocketResult) :
    WriteServer :=
  { server with pc := if result = .failed then .stopped else .startCmd }

/-- One blocking call and the code up to the next one, or one move of the
engine. -/
def step (server : WriteServer) : ServerEvent → WriteServer
  | .call result response script =>
      match server.pc with
      | .startCmd => server.receiveStartCmd result
      | .size => server.receiveSize result
      | .payload => server.receivePayload result response script
      | .acknowledge => server.sendAcknowledge result
      | .stopped => server
      | .faulted => server
  | .engine event =>
      { server with session := server.session.step (.engine event) }

/-- The call fills the buffer behind this pointer. -/
def Fills (server : WriteServer) (data : Nat) (result : SocketResult) :
    Prop :=
  server.pc = .payload ∧ server.chBuffer = some data ∧
    ¬result.count ≤ 0 ∧
      streamSize ≤ (server.store data result).bufferPtr.toNat

/-- No submission is refused, no wait runs out or is interrupted, and no
transfer fails. -/
def Calm (server : WriteServer) : ServerEvent → Prop
  | .call result response script =>
      ∀ data, server.Fills data result → response = .accepted ∧
        let session := ((server.store data result).submit data
          response).session
        Prompt session.channel session.device.currentBufferId script
  | .engine event => Faultless event

end WriteServer

/-- The machine with accounts, and no device, has the same variables and has
received and submitted the same bytes. -/
structure Mirrors (stream : WriteStream) (server : WriteServer) : Prop where
  pc : stream.pc = server.pc
  startCmd : stream.startCmd = server.startCmd
  recvSize : stream.recvSize = server.recvSize
  bufferPtr : stream.bufferPtr = server.bufferPtr
  chBuffer : stream.chBuffer = server.chBuffer.map server.content
  accuSize : stream.accuSize = server.accuSize
  streamN : stream.streamN = server.streamN
  submitted : stream.submitted =
    server.session.submitted.map Submission.bytes
  received : stream.received = server.received

namespace Mirrors

variable {stream : WriteStream} {server : WriteServer}

theorem content_store (server : WriteServer) (data : Nat)
    (result : SocketResult) :
    (server.store data result).content data =
      (server.content data).store server.bufferPtr.toNat result.bytes := by
  simp [WriteServer.content, WriteServer.store, Session.step,
    DmaProxyChannel.setBuffer]

theorem goTo (mirrors : Mirrors stream server) (pc : WriteStreamPc) :
    Mirrors { stream.request with pc := pc } { server with pc := pc } :=
  ⟨rfl, mirrors.startCmd, mirrors.recvSize, mirrors.bufferPtr,
    mirrors.chBuffer, mirrors.accuSize, mirrors.streamN, mirrors.submitted,
    mirrors.received⟩

theorem store (mirrors : Mirrors stream server) {data : Nat}
    (holding : server.chBuffer = some data) (result : SocketResult) :
    Mirrors (stream.request.withPiece (server.content data) result)
      (server.store data result) := by
  obtain ⟨pc, startCmd, recvSize, bufferPtr, chBuffer, accuSize, streamN,
    submitted, received⟩ := mirrors
  constructor
  · simp only [WriteStream.withPiece, WriteStream.request,
      WriteServer.store, recvSize]
  · exact startCmd
  · simp only [WriteStream.withPiece, WriteStream.request,
      WriteServer.store, recvSize]
  · simp only [WriteStream.withPiece, WriteStream.request,
      WriteServer.store, bufferPtr]
  · have same : (server.store data result).chBuffer = some data := holding
    rw [same, Option.map_some, content_store, ← bufferPtr]
    rfl
  · simp only [WriteStream.withPiece, WriteStream.request,
      WriteServer.store, accuSize]
  · exact streamN
  · exact submitted
  · simp only [WriteStream.withPiece, WriteStream.request,
      WriteServer.store, received]

theorem startLocalStream (mirrors : Mirrors stream server) {data : Nat}
    {script : WaitScript} {buffers : Nat → Option ByteMemory}
    (next : buffers stream.taken =
      (server.startLocalStream data .accepted script).chBuffer.map
        (server.startLocalStream data .accepted script).content) :
    Mirrors (stream.startLocalStream buffers (server.content data))
      (server.startLocalStream data .accepted script) := by
  constructor
  · exact mirrors.pc
  · exact mirrors.startCmd
  · exact mirrors.recvSize
  · rfl
  · exact next
  · exact mirrors.accuSize
  · simp only [WriteStream.startLocalStream, WriteServer.startLocalStream,
      mirrors.streamN]
  · simp only [WriteStream.startLocalStream, mirrors.submitted]
    simp [WriteServer.startLocalStream, WriteServer.submit,
      WriteServer.getBuffer, Session.step, Session.submission,
      WriteServer.content, streamSize, bufferSize]
  · exact mirrors.received

/-- The payload call does the same to the variables and the bytes. -/
theorem receivePayload (mirrors : Mirrors stream server)
    {buffers : Nat → Option ByteMemory} {result : SocketResult}
    {response : SubmitResponse} {script : WaitScript}
    (accepted : ∀ data, server.chBuffer = some data → ¬result.count ≤ 0 →
      streamSize ≤ (server.store data result).bufferPtr.toNat →
      response = .accepted)
    (next : buffers stream.taken =
      (server.receivePayload result response script).chBuffer.map
        (server.receivePayload result response script).content) :
    Mirrors (stream.receivePayload buffers result)
      (server.receivePayload result response script) := by
  by_cases nothing : result.count ≤ 0
  · have ended : server.receivePayload result response script =
        { server with pc := .acknowledge } := by
      simp only [WriteServer.receivePayload, if_pos nothing]
    rw [WriteStream.receivePayload_nothing buffers nothing, ended]
    exact mirrors.goTo .acknowledge
  · have chBuffer := mirrors.chBuffer
    cases holding : server.chBuffer with
    | none =>
        rw [holding, Option.map_none] at chBuffer
        have faulted : server.receivePayload result response script =
            { server with pc := .faulted } := by
          simp only [WriteServer.receivePayload, holding, if_neg nothing]
        rw [WriteStream.receivePayload_missing buffers chBuffer nothing,
          faulted]
        exact mirrors.goTo .faulted
    | some data =>
        rw [holding, Option.map_some] at chBuffer
        have stored := mirrors.store holding result
        have position : stream.bufferPtr + result.count =
            (server.store data result).bufferPtr := stored.bufferPtr
        simp only [WriteServer.receivePayload, holding,
          if_neg nothing] at next ⊢
        rw [WriteStream.receivePayload_eq buffers chBuffer nothing, position]
        by_cases full : streamSize ≤
            (server.store data result).bufferPtr.toNat
        · have isAccepted := accepted data holding nothing full
          subst isAccepted
          rw [if_pos full] at next ⊢
          rw [if_pos full, mirrors.bufferPtr, ← content_store]
          exact stored.startLocalStream next
        · rw [if_neg full, if_neg full]
          exact stored

theorem call (mirrors : Mirrors stream server)
    {buffers : Nat → Option ByteMemory} {result : SocketResult}
    {response : SubmitResponse} {script : WaitScript}
    (calm : server.Calm (.call result response script))
    (next : buffers stream.taken =
      (server.step (.call result response script)).chBuffer.map
        (server.step (.call result response script)).content) :
    Mirrors (stream.step buffers result)
      (server.step (.call result response script)) := by
  obtain ⟨pc, startCmd, recvSize, bufferPtr, chBuffer, accuSize, streamN,
    submitted, received⟩ := mirrors
  cases place : server.pc with
  | startCmd =>
      rw [place] at pc
      simp only [WriteStream.step, pc, WriteServer.step, place]
      constructor
      · simp only [WriteStream.receiveStartCmd, WriteServer.receiveStartCmd,
          startCmd]
      · simp only [WriteStream.receiveStartCmd, WriteServer.receiveStartCmd,
          startCmd]
      · exact recvSize
      · exact bufferPtr
      · exact chBuffer
      · exact accuSize
      · exact streamN
      · exact submitted
      · exact received
  | size =>
      rw [place] at pc
      simp only [WriteStream.step, pc, WriteServer.step, place]
      constructor
      · simp only [WriteStream.receiveSize, WriteServer.receiveSize,
          recvSize]
      · exact startCmd
      · simp only [WriteStream.receiveSize, WriteServer.receiveSize,
          recvSize]
      · exact bufferPtr
      · exact chBuffer
      · exact accuSize
      · exact streamN
      · exact submitted
      · exact received
  | payload =>
      rw [place] at pc
      simp only [WriteServer.step, place] at next ⊢
      simp only [WriteStream.step, pc]
      refine receivePayload ⟨pc.trans place.symm, startCmd, recvSize,
        bufferPtr, chBuffer, accuSize, streamN, submitted, received⟩ ?_ next
      intro data holding moved full
      exact (calm data ⟨place, holding, moved, full⟩).1
  | acknowledge =>
      rw [place] at pc
      simp only [WriteStream.step, pc, WriteServer.step, place]
      exact ⟨rfl, startCmd, recvSize, bufferPtr, chBuffer, accuSize,
        streamN, submitted, received⟩
  | stopped =>
      rw [place] at pc
      simp only [WriteStream.step, pc, WriteServer.step, place]
      exact ⟨pc.trans place.symm, startCmd, recvSize, bufferPtr, chBuffer,
        accuSize, streamN, submitted, received⟩
  | faulted =>
      rw [place] at pc
      simp only [WriteStream.step, pc, WriteServer.step, place]
      exact ⟨pc.trans place.symm, startCmd, recvSize, bufferPtr, chBuffer,
        accuSize, streamN, submitted, received⟩

end Mirrors

/-- Transmitting, the engine stores to no buffer. -/
theorem engineStep_buffer {channel : DmaProxyChannel}
    (direction : channel.engine.direction = .memToDev)
    (event : EngineEvent) (index : Nat) :
    ((channel.engineStep event).bufferTable index).buffer =
      (channel.bufferTable index).buffer := by
  cases event with
  | fetch position =>
      simp only [DmaProxyChannel.engineStep, direction]
  | deliver bytes =>
      simp only [DmaProxyChannel.engineStep, direction]
  | complete =>
      cases pending : channel.engine.pending with
      | nil => simp only [DmaProxyChannel.engineStep, pending]
      | cons transfer rest =>
          simp only [DmaProxyChannel.engineStep, pending]
          rfl
  | fail callback =>
      cases pending : channel.engine.pending with
      | nil => simp only [DmaProxyChannel.engineStep, pending]
      | cons transfer rest =>
          cases callback with
          | true =>
              simp only [DmaProxyChannel.engineStep, pending]
              rfl
          | false => simp [DmaProxyChannel.engineStep, pending]

theorem Mirrors.engine {stream : WriteStream} {server : WriteServer}
    (mirrors : Mirrors stream server)
    (direction : server.session.dma.direction = .memToDev)
    (event : EngineEvent) :
    Mirrors stream (server.step (.engine event)) := by
  have same : (server.step (.engine event)).content = server.content := by
    funext data
    exact engineStep_buffer direction event _
  refine { mirrors with chBuffer := ?_ }
  rw [same]
  exact mirrors.chBuffer

end StreamIO.Backend
