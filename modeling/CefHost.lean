import CefHost.AffinityMask
import CefHost.BeginFrameCap
import CefHost.BeginFrameThreads
import CefHost.BeginFrames
import CefHost.CadenceSmoothing
import CefHost.ChannelConsistency
import CefHost.CoarseSleep
import CefHost.CommandLine
import CefHost.ConsoleBytes
import CefHost.ConsoleQueue
import CefHost.ConsoleRing
import CefHost.ConsoleText
import CefHost.ControlCommands
import CefHost.ControlStrings
import CefHost.ControlThread
import CefHost.CurrentPopup
import CefHost.D3D
import CefHost.Damage
import CefHost.DebtReset
import CefHost.DeferredCopies
import CefHost.DeltaConsumer
import CefHost.EventBytes
import CefHost.FileUrl
import CefHost.FileUrlCodec
import CefHost.FlushBound
import CefHost.FrameFlags
import CefHost.FrameNumbering
import CefHost.FrameWrite
import CefHost.GpuCalls
import CefHost.GpuCompletion
import CefHost.HeaderBytes
import CefHost.HeaderHistory
import CefHost.HostResources
import CefHost.HostRuntimeConfig
import CefHost.InputBatches
import CefHost.InputDispatch
import CefHost.InputPump
import CefHost.InputRing
import CefHost.InputThread
import CefHost.LaggingConsumer
import CefHost.Library.Binary32
import CefHost.Library.BoundedQueue
import CefHost.Library.CasLoop
import CefHost.Library.Checked
import CefHost.Library.Clipping
import CefHost.Library.Codec
import CefHost.Library.DeferredExecution
import CefHost.Library.Delimited
import CefHost.Library.Deltas
import CefHost.Library.Escaping
import CefHost.Library.EventLoop
import CefHost.Library.Flags
import CefHost.Library.FlowControl
import CefHost.Library.Footprint
import CefHost.Library.FreeRunning
import CefHost.Library.GpuTimeline
import CefHost.Library.Layout
import CefHost.Library.Ownership
import CefHost.Library.Ranking
import CefHost.Library.RateBound
import CefHost.Library.RoundRobin
import CefHost.Library.Rounding
import CefHost.Library.Runs
import CefHost.Library.Signed
import CefHost.Library.Simulation
import CefHost.Library.Smoothing
import CefHost.Library.Strtol
import CefHost.Library.Terminated
import CefHost.Library.Utf16
import CefHost.LifeCycle
import CefHost.LoadState
import CefHost.MouseButtons
import CefHost.NudgeGate
import CefHost.NumericOptions
import CefHost.OptionForms
import CefHost.OsrHandler
import CefHost.Pacing
import CefHost.PaintOutcome
import CefHost.Painter
import CefHost.PopupClipping
import CefHost.PopupComposition
import CefHost.PopupPlane
import CefHost.ProfilePaths
import CefHost.PublicationLaw
import CefHost.PublishCases
import CefHost.PublishedHeader
import CefHost.ResizeWarmup
import CefHost.RingBuffer
import CefHost.RingBytes
import CefHost.RingMailbox
import CefHost.Scheduler
import CefHost.SchedulerAccounts
import CefHost.SchedulerArithmetic
import CefHost.SessionNames
import CefHost.SharedHandles
import CefHost.SharedMemoryLayout
import CefHost.SharedTextures
import CefHost.SlotFence
import CefHost.SlotReuse
import CefHost.SourceFreshness
import CefHost.Telemetry
import CefHost.TextureReadiness
import CefHost.ViewRect
import CefHost.WaitingConsumer
import CefHost.WholeCalls
import CefHost.WorkerThreads
