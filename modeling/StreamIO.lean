import StreamIO.Library.ByteMemory
import StreamIO.Library.LittleEndian
import StreamIO.Library.TransitionSystem
import StreamIO.Driver.Channel
import StreamIO.Driver.EngineEffect
import StreamIO.Local.Session
import StreamIO.Local.StatusTrust
import StreamIO.Local.Ownership
import StreamIO.Local.Orderly
import StreamIO.Local.TransmitFifo
import StreamIO.Backend.ReadStream
import StreamIO.Backend.ReadDelivery
import StreamIO.Backend.WriteStream
import StreamIO.Library.ScriptedRun
import StreamIO.Backend.Repacketise
import StreamIO.Backend.WriteConnection
import StreamIO.Backend.AckDeadlock
import StreamIO.Backend.MappedConnection
import StreamIO.Backend.MappedSimulation
import StreamIO.Backend.Context
import StreamIO.Backend.Task
import StreamIO.Backend.FrameProcessing
import StreamIO.Net.OpenDevice
import StreamIO.Backend.OpenExchange
import StreamIO.Backend.OpenOutcome
import StreamIO.Local.Signalled
import StreamIO.Local.Wedge
import StreamIO.Local.Refusals
import StreamIO.Backend.Framing
import StreamIO.Backend.ConcurrentOpen
import StreamIO.Backend.MappedSplits
import StreamIO.Driver.PollCounter
import StreamIO.Driver.Confinement
import StreamIO.Driver.KernelView
import StreamIO.Backend.ReadPrivacy
import StreamIO.Backend.FrameSelection
import StreamIO.Library.TerminatedArray
import StreamIO.Local.DeviceList
import StreamIO.Net.ReadClient
import StreamIO.Net.ReadDecoding
import StreamIO.Backend.PeerClose
import StreamIO.Net.ResumedRead
import StreamIO.Backend.FailedReceive
import StreamIO.Backend.MissingBuffer
import StreamIO.Local.RegisterFile
import StreamIO.Driver.RegisterDevice
import StreamIO.Driver.DeviceClass
import StreamIO.Library.Holdings
import StreamIO.Local.OpenLocal
import StreamIO.Local.Balance
import StreamIO.Driver.RegisterAccess
import StreamIO.Driver.FilePosition
import StreamIO.Driver.FailedProbe
import StreamIO.Backend.OpenOption
import StreamIO.Net.ResumedDecoding
import StreamIO.Driver.SharedIndex
import StreamIO.Library.AddressSpace
import StreamIO.Library.StructLayout
import StreamIO.Local.SharedLayout
import StreamIO.Library.Tally
import StreamIO.Library.GuardedMachine
import StreamIO.Pool.JobQueue
import StreamIO.Pool.ThreadPool
import StreamIO.Pool.Counting
import StreamIO.Pool.Conservation
import StreamIO.Pool.WakeUp
import StreamIO.Pool.Waiting
import StreamIO.Pool.MemorySafety
import StreamIO.Pool.Progress
import StreamIO.Pool.Destroy
import StreamIO.Library.Blocks
import StreamIO.Backend.WriteServer
import StreamIO.Backend.RemoteTransmit
import StreamIO.Backend.RemoteReceive
import StreamIO.Backend.ServerMain
import StreamIO.Library.Simulation
import StreamIO.Pool.Refinement
import StreamIO.Library.SerialHistory
import StreamIO.Backend.SharedRegisters
