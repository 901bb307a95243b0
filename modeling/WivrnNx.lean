import WivrnNx.Lib.Runs
import WivrnNx.Lib.Packed
import WivrnNx.Packets
import WivrnNx.Bitrate.Range
import WivrnNx.Bitrate.Newest
import WivrnNx.Bitrate.Congestion
import WivrnNx.Bitrate.Stale
import WivrnNx.Bitrate.Steps
import WivrnNx.Bitrate.Radio
import WivrnNx.Bitrate.Join
import WivrnNx.Session.IdrTracker
import WivrnNx.Session.RecoveryFloor
import WivrnNx.Encoder.Labels
import WivrnNx.Session.ShardStream
import WivrnNx.Session.PacingBounds
import WivrnNx.Session.PacingTurns
import WivrnNx.Session.PacedRuns
import WivrnNx.Session.ParityPartition
import WivrnNx.Session.Handshake
import WivrnNx.Session.EyePairs
import WivrnNx.Session.Traced
import WivrnNx.Session.Transport
import WivrnNx.Session.VideoPath
import WivrnNx.Session.AnnouncedStream
import WivrnNx.Session.ClientFrames
import WivrnNx.Session.FirstFrames
import WivrnNx.Session.KeyFrames
import WivrnNx.Session.FrameIndices
import WivrnNx.Lib.KeyLock
import WivrnNx.Shim.FrameStaging
import WivrnNx.Shim.IpcClient
import WivrnNx.Shim.IpcSession
import WivrnNx.Shim.IpcThread
import WivrnNx.Shim.HmdDevice
import WivrnNx.Shim.SwapTextures
import WivrnNx.Staging.System
import WivrnNx.Staging.Tickets
import WivrnNx.Staging.Locks
import WivrnNx.Staging.Slots
import WivrnNx.Staging.PresentSteps
import WivrnNx.Staging.Opened
import WivrnNx.Staging.SlotIntegrity
import WivrnNx.Staging.Sessions
import WivrnNx.Staging.SlotAccounts
import WivrnNx.Staging.LiveRing
import WivrnNx.Intake.Accounts
import WivrnNx.Intake.Answers
import WivrnNx.Intake.EncoderSteps
import WivrnNx.Intake.FreshEncoder
import WivrnNx.Intake.KeyRequests
import WivrnNx.Intake.EncoderUse
import WivrnNx.Intake.ConfigureRetries
import WivrnNx.Lib.Versioned
import WivrnNx.Lib.HeldValue
import WivrnNx.Bridge
import WivrnNx.BridgeReplay
import WivrnNx.Session.PoseSanitizer
import WivrnNx.Session.PoseHistory
import WivrnNx.Session.InputState
import WivrnNx.Shim.ControllerDevice
import WivrnNx.ClickTouch
import WivrnNx.Store
import WivrnNx.KeyFile
import WivrnNx.KeyFileDisk
import WivrnNx.Bitrate.MaxWindow
import WivrnNx.KeyText
import WivrnNx.KeyNames
import WivrnNx.Lib.FloorScale
import WivrnNx.Session.ClockConversion
import WivrnNx.Shim.EyeCopies
import WivrnNx.Lib.Mean
import WivrnNx.Session.ClockOffset
import WivrnNx.Lib.Rotation
import WivrnNx.Shim.PoseMatrix
import WivrnNx.Session.EyePose
import WivrnNx.Shim.RingStates
import WivrnNx.Wire
import WivrnNx.Shim.IpcWire
import WivrnNx.Lib.Channel
import WivrnNx.Pipe.Agree
import WivrnNx.Pipe.Mirror
import WivrnNx.Lib.Lossy
import WivrnNx.Pipe.Haptics
import WivrnNx.Shim.Registration
import WivrnNx.Net.WinNet
import WivrnNx.Lib.LazyLock
import WivrnNx.Shim.Breadcrumb
import WivrnNx.Net.Mdns
import WivrnNx.Session.ServerLoop
import WivrnNx.Encoder.StageRing
import WivrnNx.Shim.Vsync
import WivrnNx.Encoder.EncoderCustody
