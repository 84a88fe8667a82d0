import PolytopeOS.Corelib.Exec
import PolytopeOS.Corelib.Word
import PolytopeOS.Corelib.LittleEndian
import PolytopeOS.Corelib.Cursor
import PolytopeOS.Corelib.Memory
import PolytopeOS.Corelib.Slice
import PolytopeOS.Corelib.Layout
import PolytopeOS.Corelib.Ranges
import PolytopeOS.Corelib.Action
import PolytopeOS.Corelib.Hoare
import PolytopeOS.Corelib.Lines
import PolytopeOS.Corelib.Text
import PolytopeOS.Corelib.Occurrences
import PolytopeOS.Corelib.Unicode
import PolytopeOS.Corelib.Paths
import PolytopeOS.Corelib.Scan
import PolytopeOS.Corelib.Boundaries
import PolytopeOS.Corelib.Iterator
import PolytopeOS.Corelib.Ranks
import PolytopeOS.Corelib.Chains
import PolytopeOS.Corelib.Chunks
import PolytopeOS.Corelib.FileSystem
import PolytopeOS.Corelib.Escaping
import PolytopeOS.Corelib.X86
import PolytopeOS.Corelib.Decimal
import PolytopeOS.Corelib.Processes
import PolytopeOS.Corelib.Threads
import PolytopeOS.Arch.Console
import PolytopeOS.Arch.Entry
import PolytopeOS.Arch.Serial
import PolytopeOS.BootContract.Types
import PolytopeOS.BootContract.Validate
import PolytopeOS.BootContract.Builder
import PolytopeOS.BootContract.Codec
import PolytopeOS.Kernel.Main
import PolytopeOS.Kernel.Diagnostics
import PolytopeOS.BootElf.Types
import PolytopeOS.BootElf.Parse
import PolytopeOS.BootElf.Profile
import PolytopeOS.BootElf.Segments
import PolytopeOS.BootElf.Safety
import PolytopeOS.BootElf.Metadata
import PolytopeOS.Loader.Types
import PolytopeOS.Loader.Contract
import PolytopeOS.Loader.Firmware
import PolytopeOS.Loader.Load
import PolytopeOS.Loader.Prepare
import PolytopeOS.Loader.Main
import PolytopeOS.Loader.Ownership
import PolytopeOS.Loader.Image
import PolytopeOS.Host.Protocol
import PolytopeOS.Host.Automaton
import PolytopeOS.Host.Language
import PolytopeOS.Host.Outcome
import PolytopeOS.Host.Agreement
import PolytopeOS.Host.Scenario
import PolytopeOS.Host.Gpt
import PolytopeOS.Host.Fat
import PolytopeOS.Host.FatChains
import PolytopeOS.Host.ImageSafety
import PolytopeOS.Host.TimeoutProbe
import PolytopeOS.Host.Prose
import PolytopeOS.Host.BoundedRead
import PolytopeOS.Host.LogCursor
import PolytopeOS.Host.LinkerMap
import PolytopeOS.Host.Inspect
import PolytopeOS.Host.Supervise
import PolytopeOS.Host.GuestLog
import PolytopeOS.Host.Boot
import PolytopeOS.Host.BuildPaths
import PolytopeOS.Host.Rustflags
import PolytopeOS.Host.Remapping
import PolytopeOS.Host.PathPrivacy
import PolytopeOS.Host.AtomicWrite
import PolytopeOS.Host.ConcurrentWrites
import PolytopeOS.Host.Image
import PolytopeOS.Host.ImageLoading
import PolytopeOS.Host.Temporary
import PolytopeOS.Host.Invocation
import PolytopeOS.Host.Observe
import PolytopeOS.Host.Statistics
import PolytopeOS.Host.Baseline
import PolytopeOS.Compiler.Lexer
import PolytopeOS.Compiler.Progress
import PolytopeOS.Compiler.Lossless
import PolytopeOS.Compiler.Render
