import SquawkVM.Buffers
import SquawkVM.Breakpoints
import SquawkVM.DebugProtocol
import SquawkVM.Machine
import SquawkVM.SwitchEvents
import SquawkVM.ChannelIO
import SquawkVM.Decoder
import SquawkVM.MemoryLayout
import SquawkVM.Options
import SquawkVM.Format
import SquawkVM.BootFile
import SquawkVM.TraceFrames
import SquawkVM.Protection
import SquawkVM.Launcher
import SquawkVM.LongHalves
import SquawkVM.ArgvCopy
import SquawkVM.DebugLines
import SquawkVM.DebugFrame
import SquawkVM.Dispatch
import SquawkVM.TraceFile
import SquawkVM.DebugSession
import SquawkVM.StackTrace
import SquawkVM.Eb40a
import SquawkVM.BuildFlags
import SquawkVM.LowLevel
