import AdbControl.Remote.Identity
import AdbControl.Remote.AccountAtomicity
import AdbControl.Remote.AccountSessions
import AdbControl.Ipc
import AdbControl.Remote.Access
import AdbControl.Remote.Confinement
import AdbControl.Remote.DeviceAssignment
import AdbControl.Remote.LocalAdmin
import AdbControl.Remote.AdminBoundary
import AdbControl.Companion.Trust
import AdbControl.Companion.TrustHistory
import AdbControl.Capability
import AdbControl.Companion.Protocol
import AdbControl.Companion.Session
import AdbControl.Companion.Ingress
import AdbControl.Companion.LiveTransport
import AdbControl.Companion.LiveRegistry
import AdbControl.Companion.Commands
import AdbControl.Companion.ControlStream
import AdbControl.Companion.Correlation
import AdbControl.Companion.ControlFraming
import AdbControl.Companion.Revocation
import AdbControl.Companion.PairingAttempts
import AdbControl.Companion.SessionInvariants
import AdbControl.Companion.MediaStore
import AdbControl.Companion.MediaIntegrity
import AdbControl.Companion.Invoke
import AdbControl.Companion.TrustedIngress
import AdbControl.Companion.PhoneHandshake
import AdbControl.Keepalive
import AdbControl.Framework.Lines
import AdbControl.Server.Device
import AdbControl.Server.Handset
import AdbControl.Server.Agreement
import AdbControl.Remote.DeviceList
import AdbControl.Framework.Matching
import AdbControl.Server.Catalog
import AdbControl.Server.CatalogMemory
import AdbControl.Server.CatalogCards
import AdbControl.Server.Accounts
import AdbControl.Server.Removal
import AdbControl.Server.CompanionCommand
import AdbControl.Automation.Model
import AdbControl.Automation.RunControl
import AdbControl.Automation.Service
import AdbControl.Automation.RunEnds
import AdbControl.Automation.Persistence
import AdbControl.Automation.Bookkeeping
import AdbControl.Automation.SkipPolicy
import AdbControl.Companion.FrameOwnership
import AdbControl.Automation.Progress
import AdbControl.Framework.Shell
import AdbControl.Framework.Trace
import AdbControl.Server.DeviceAction
import AdbControl.Automation.Executor
import AdbControl.Server.AuthManager
import AdbControl.Server.PasswordChange
import AdbControl.Server.AuthThreads
import AdbControl.Server.LoginLockout
import AdbControl.Server.LocalBypass
import AdbControl.Framework.Scanner
import AdbControl.Server.CoreIpc
import AdbControl.Server.CorePairing
import AdbControl.Server.CoreAnswers
import AdbControl.Server.CoreCalls
import AdbControl.Framework.Chunks
import AdbControl.Server.DiagnosticWriter
import AdbControl.Framework.Threads
import AdbControl.Server.HardwareMonitor
import AdbControl.Server.HardwarePersistence
import AdbControl.Server.LiveDevices
import AdbControl.Server.Packages
import AdbControl.Server.DeviceService
import AdbControl.Server.RemoteHandlers
import AdbControl.Server.RemoteDevices
import AdbControl.Companion.HelloBinding
import AdbControl.Framework.Classes
import AdbControl.Remote.DeviceReconciliation
import AdbControl.Companion.MediaAccounting
import AdbControl.Companion.TrustFile
import AdbControl.Server.ExactSerial
import AdbControl.Framework.Resolve
import AdbControl.ScrcpyServer
import AdbControl.Companion.ProjectionService
import AdbControl.Companion.CaptureSessions
import AdbControl.Companion.CommandLoop
import AdbControl.Companion.ConnectionService
import AdbControl.Companion.LatestConnection
import AdbControl.Server.BroadcastQuoting
import AdbControl.Server.ScrcpyAgreement
import AdbControl.Framework.Grouping
import AdbControl.Server.TransportDedupe
import AdbControl.Server.SharedCards
import AdbControl.Server.RepeatedMerge
import AdbControl.Server.PackageListing
import AdbControl.Framework.CleanPath
import AdbControl.Server.RemotePath
import AdbControl.Server.FileUpload
import AdbControl.Framework.CommandLine
import AdbControl.Server.FileCommands
import AdbControl.Server.TextInput
import AdbControl.Framework.Words
import AdbControl.Server.FileListing
import AdbControl.Server.ListedFiles
import AdbControl.Framework.BigEndian
import AdbControl.Server.ScrcpyStream
import AdbControl.Server.ScrcpyTouch
import AdbControl.Server.ScreenPackets
import AdbControl.Framework.Decimal
import AdbControl.Framework.UtcTime
import AdbControl.Framework.OrderBy
import AdbControl.Observability.Event
import AdbControl.Observability.Redaction
import AdbControl.Observability.Repository
import AdbControl.Automation.Repository
import AdbControl.Observability.TimeOrder
import AdbControl.Automation.PauseResume
import AdbControl.Server.SettingsStore
import AdbControl.Server.FileTransfer
import AdbControl.Web.DevicesStore
import AdbControl.Server.DeviceIdentity
import AdbControl.Companion.ScreenEncoder
import AdbControl.Companion.FileContainment
import AdbControl.Framework.Utf8
import AdbControl.Observability.Normalisation
import AdbControl.Companion.Accessibility
import AdbControl.Server.InputFallback
import AdbControl.Companion.EnvelopeCodec
import AdbControl.Companion.EnvelopeRoundTrip
import AdbControl.Companion.AudioClosing
import AdbControl.Companion.NativeEngine
import AdbControl.Companion.NativeVideo
import AdbControl.Companion.NativeVideoRuns
import AdbControl.Diagnostics.Event
import AdbControl.Diagnostics.Files
import AdbControl.Framework.Program
import AdbControl.Framework.Serial
import AdbControl.Server.CompanionUpgrade
import AdbControl.Server.CompanionUpgradeRuns
import AdbControl.Wireless.Pairing
import AdbControl.Wireless.PairingRuns
import AdbControl.Companion.MediaDelivery
import AdbControl.ScrcpyOwnership
import AdbControl.Server.FileHandlers
import AdbControl.Web.DeviceFiles
import AdbControl.Web.FilePanel
import AdbControl.Web.FilePanelRuns
