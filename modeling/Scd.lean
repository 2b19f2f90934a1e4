import Scd.Foundation.Outcome
import Scd.Foundation.IndexMap
import Scd.Foundation.Path
import Scd.Foundation.RefCount
import Scd.Core.Config
import Scd.Daemon.Mapper
import Scd.Daemon.Process
import Scd.Core.Kdl
import Scd.Core.Parse
import Scd.Core.Osk
import Scd.Daemon.Loop
import Scd.Osk.Keyboard
import Scd.Daemon.Usb
import Scd.Verified.UsbOrder
import Scd.Foundation.RingLog
import Scd.Verified.Clicks
import Scd.Verified.Coalescing
import Scd.Verified.Turns
import Scd.Verified.Sessions
import Scd.Verified.BatteryLevel
import Scd.Verified.Buttons
import Scd.Verified.Parsing
import Scd.Verified.WellFormed
import Scd.Foundation.Ledger
import Scd.Verified.MapperMoves
import Scd.Verified.MapperSteps
import Scd.Verified.Advances
import Scd.Verified.GlobalLoop
import Scd.Verified.HoldLoops
import Scd.Foundation.FirstOfKey
import Scd.Verified.StartLoop
import Scd.Verified.Frames
import Scd.Verified.MapperSafety
import Scd.Verified.OutputStream
import Scd.Verified.Accounts
import Scd.Verified.Settlement
import Scd.Verified.StuckKeys
import Scd.Verified.Ownership
import Scd.Verified.Reservation
import Scd.Verified.Capture
import Scd.Verified.Firing
import Scd.Core.Report
import Scd.Daemon.Device
import Scd.Foundation.Monitor
import Scd.Verified.Connections
import Scd.Daemon.Receiver
import Scd.Verified.StaleInput
import Scd.Verified.RumbleStop
import Scd.Daemon.Usbfs
import Scd.Verified.UrbOwnership
import Scd.Foundation.Bytes
import Scd.Foundation.Serving
import Scd.Daemon.DualShock
import Scd.Daemon.Usbip
import Scd.Verified.UsbipReplies
import Scd.Daemon.Xbox
import Scd.Verified.Gamepads
import Scd.Verified.Validation
import Scd.Foundation.Index
import Scd.Foundation.Utf8
import Scd.Daemon.Ipc
import Scd.Verified.Pieces
import Scd.Foundation.Matching
import Scd.Verified.Clients
import Scd.Verified.ClientSteps
import Scd.Verified.IpcProtocol
import Scd.Core.Exact
import Scd.Core.Rounded
import Scd.Verified.InputReport
import Scd.Verified.Orientation
import Scd.Verified.PadPointer
import Scd.Daemon.Outputs
import Scd.Verified.Typing
import Scd.Verified.ShownKeys
import Scd.Verified.JustifiedRoutes
import Scd.Foundation.Simulation
import Scd.Verified.AxisPass
import Scd.Verified.PointerMotion
import Scd.Verified.Twins
import Scd.Verified.Resets
import Scd.Verified.AxisValues
import Scd.Foundation.Rollover
import Scd.Verified.Timestamps
import Scd.Foundation.History
import Scd.Verified.RumbleOutput
import Scd.Foundation.Slicing
import Scd.Osk.Theme
import Scd.Verified.ThemeColors
import Scd.Foundation.Potential
import Scd.Verified.TrackpadTicks
import Scd.Foundation.Cells
import Scd.Osk.Render
import Scd.Verified.KeyGrid
import Scd.Verified.Strokes
import Scd.Foundation.Hysteresis
import Scd.Verified.Activation
import Scd.Foundation.Shuffle
import Scd.Verified.Reading
import Scd.Verified.Reordering
import Scd.Verified.Grammar
import Scd.Verified.Pruning
import Scd.Verified.Strictness
import Scd.Osk.Window
import Scd.Verified.Surface
import Scd.Verified.Window
import Scd.Daemon.Rumble
import Scd.Daemon.Program
import Scd.Verified.ProgramSteps
import Scd.Verified.ProgramSafety
import Scd.Verified.Composition
import Scd.Verified.Idle
import Scd.Foundation.Feed
import Scd.Verified.Published
import Scd.Foundation.Hid
import Scd.Verified.HostView
import Scd.Verified.RumbleRelay
import Scd.Daemon.Capabilities
import Scd.Verified.Capabilities
import Scd.Foundation.Liveness
import Scd.Verified.Following
import Scd.Verified.Progress
import Scd.Daemon.Features
import Scd.Verified.Configured
import Scd.Daemon.Ports
import Scd.Verified.Plugging
import Scd.Verified.Driving
