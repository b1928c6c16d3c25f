import MinidumpProcessor.Rust
import MinidumpProcessor.Minidump
import MinidumpProcessor.Amd64.Instruction
import MinidumpProcessor.OpAnalysis.Types
import MinidumpProcessor.OpAnalysis.Operand
import MinidumpProcessor.OpAnalysis.Access
import MinidumpProcessor.OpAnalysis.PointerUpdate
import MinidumpProcessor.OpAnalysis.Analyze
import MinidumpProcessor.Strings
import MinidumpProcessor.Substrings
import MinidumpProcessor.LinuxStreams
import MinidumpProcessor.Processor
import MinidumpProcessor.Unwind
