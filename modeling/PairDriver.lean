import PairDriver.PubPipeFraming
import PairDriver.PoseShmem
import PairDriver.SupervisorHandles
import PairDriver.SupervisorBreaker
import PairDriver.SupervisorDormancy
import PairDriver.SupervisorStops
import PairDriver.SupervisorMessages
import PairDriver.FrameIndices
import PairDriver.Migration
import PairDriver.CalibrationTransitions
import PairDriver.SmoothingIsolation
import PairDriver.FallbackAgreement
import PairDriver.CaptionsCodec
import PairDriver.DriverLifecycle
import PairDriver.CompensationReplay
import PairDriver.CaptionsHost
import PairDriver.ModuleHost
import PairDriver.FaceCalibration
import PairDriver.AutoRecovery
import PairDriver.BaseStationDrift
import PairDriver.WatchdogCompleteness
import PairDriver.SessionRecording
import PairDriver.ProfileCodec
import PairDriver.ProfileRoundTrip
import PairDriver.ProfileFailure
import PairDriver.SetupWizard
import PairDriver.WizardRuns
import PairDriver.OscRoundTrip
import PairDriver.FingerSmoothing
import PairDriver.ModuleBreaker
import PairDriver.FaceParameters
import PairDriver.CalibrationPersistence
import PairDriver.ModuleSync
import PairDriver.ModuleChoice
import PairDriver.UpdateChecks
import PairDriver.IpcClient
import PairDriver.ConfigAgreement
import PairDriver.WedgeDetector
import PairDriver.PredictionOverlay
import PairDriver.PredictionPolicy
import PairDriver.OscBounds
import PairDriver.OscBundles
import PairDriver.GlobLanguage
import PairDriver.OscPattern
import PairDriver.RingBuffer
import PairDriver.OscRouter
import PairDriver.RouteMap
import PairDriver.PublishBounds
import PairDriver.SendQueue
import PairDriver.SlotMap
import PairDriver.FallbackBuffers
import PairDriver.InputComponents
import PairDriver.StickPairing
import PairDriver.AxisRoles
import PairDriver.BooleanDebounce
import PairDriver.FallbackSlots
import PairDriver.ChatboxPacer
import PairDriver.ChatboxTruncation
import PairDriver.PsqOrder
import PairDriver.PsqReference
import PairDriver.QpcClock
import PairDriver.DeviceProfiles
import PairDriver.Resampling
import PairDriver.CounterIncrements
import PairDriver.PressLearning
import PairDriver.SnapshotSlots
import PairDriver.IpcTransfer
import PairDriver.SampleBuffer
import PairDriver.IncrementalSolve
import PairDriver.SolveExits
import PairDriver.RejectionCounter
import PairDriver.PublishBlend
import PairDriver.TranslationSolve
import PairDriver.RobustWeights
import PairDriver.PushToTalk
import PairDriver.VoiceDetection
import PairDriver.FingerStream
import PairDriver.AlignmentSpeed
import PairDriver.TrackerLiveness
import PairDriver.AutoSpeed
import PairDriver.BoundedSteps
import PairDriver.RestLockedYaw
import PairDriver.PredictiveRecovery
import PairDriver.LatencyEstimate
import PairDriver.OrderStatistics
import PairDriver.QnScale
import PairDriver.TextLines
import PairDriver.SmoothingConfig
import PairDriver.Cbor
import PairDriver.SelectModule
import PairDriver.SyncOperations
import PairDriver.VerbatimStrings
import PairDriver.PowerShellQuoting
import PairDriver.SourcesFile
import PairDriver.LinesInSpace
import PairDriver.VergenceLock
import PairDriver.EyelidSync
import PairDriver.MovingGate
import PairDriver.VelocityGate
import PairDriver.HoldGate
import PairDriver.InnovationGate
import PairDriver.OverwritingHistory
import PairDriver.ReanchorDetector
import PairDriver.ModuleDiscovery
import PairDriver.FileTree
import PairDriver.ModuleInstall
import PairDriver.Base64
import PairDriver.EncodedCommand
import PairDriver.BlendConditioning
import PairDriver.MaximalSuffix
import PairDriver.CusumStatistic
import PairDriver.ArgumentLine
import PairDriver.CaptionsCommand
import PairDriver.TerminatedStrings
import PairDriver.OscMatcherBounds
import PairDriver.CaptionsPacks
import PairDriver.CaptionsPackStore
import PairDriver.FragmentReassembly
import PairDriver.SandboxPackets
import PairDriver.PacketChunks
import PairDriver.SandboxLink
import PairDriver.StreamingMoments
import PairDriver.ScalarStatistics
import PairDriver.RestLearning
import PairDriver.SequentialService
import PairDriver.PipeServer
import PairDriver.TransformBlending
