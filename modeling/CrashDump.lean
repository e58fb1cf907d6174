import CrashDump.Demo
import CrashDump.Host.Step
import CrashDump.Installer.Recording
import CrashDump.Main
import CrashDump.PathBuffer.Checked
import CrashDump.Proofs.Application.Roster
import CrashDump.Proofs.Target
import CrashDump.Proofs.Registry
import CrashDump.Proofs.Application.Coherence
import CrashDump.Proofs.Application.Transition
import CrashDump.Proofs.Application.Run
import CrashDump.Proofs.Application.Attach
import CrashDump.Proofs.Application.Live
import CrashDump.Proofs.Application.Draws
import CrashDump.Proofs.Delivery
import CrashDump.Proofs.AbortHook
import CrashDump.Proofs.AbortSteps
import CrashDump.Proofs.Occupancy
import CrashDump.Proofs.FailedAttach
import CrashDump.Proofs.AbortAction
import CrashDump.Proofs.FileSystem
import CrashDump.Proofs.Components
import CrashDump.Proofs.Directories
import CrashDump.Proofs.Text.RoundTrip
import CrashDump.Proofs.DumpName
import CrashDump.Proofs.ReportedPath
import CrashDump.Proofs.DumpDirectory
import CrashDump.Proofs.Lifetime.Contexts
import CrashDump.Proofs.Lifetime.CrashEvents
import CrashDump.Proofs.AbortTarget
import CrashDump.Proofs.LoneHook
import CrashDump.Proofs.UniqueDumps
import CrashDump.Proofs.DeliveryContract
import CrashDump.Proofs.Text.Wide
import CrashDump.Proofs.DirectoryRoom
import CrashDump.Proofs.Application.SideBySide
import CrashDump.Proofs.Text.MaximalSubparts
import CrashDump.Proofs.Text.Surrogates
import CrashDump.Proofs.RawHandles
import CrashDump.Proofs.OptionWords
import CrashDump.Proofs.IdleHandlers
import CrashDump.Proofs.PathBuffer.Simulation
import CrashDump.Proofs.PathBuffer.BoundedList
import CrashDump.Proofs.PathBuffer.MachineWords
import CrashDump.Proofs.PathBuffer.Calls
import CrashDump.Proofs.PathBuffer.Composition
import CrashDump.Proofs.Text.Utf8
import CrashDump.Proofs.ComposedPath
import CrashDump.Proofs.Bridge
import CrashDump.Proofs.Reports
import CrashDump.Proofs.Application.Addresses
import CrashDump.Proofs.RegisteredHandles
import CrashDump.Proofs.StaleHandles
import CrashDump.Proofs.DetachOrder
import CrashDump.Proofs.PathBuffer.Panics
import CrashDump.Proofs.PathWords
