import PolytopeOS.Corelib.LittleEndian

/-!
# Early console and emulator exit

Every guest path ends by writing one-line records to the debug console and then
a value to the `isa-debug-exit` port. A `Halt` is that observable behaviour.
-/

namespace PolytopeOS.Arch
open Corelib

/-- The bytes of a byte-string literal. -/
def ascii (text : String) : Bytes := text.toUTF8.data.toList

inductive QemuExitCode where
  | success
  | contractRejected
  | kernelPanic
  | loaderFailure
  | kernelReturned
  deriving DecidableEq, Repr

def QemuExitCode.value : QemuExitCode → ℕ
  | .success => 0x10
  | .contractRejected => 0x20
  | .kernelPanic => 0x21
  | .loaderFailure => 0x22
  | .kernelReturned => 0x23

def maxRecordBytes : ℕ := 256

/-- The debug-console bytes of one record. -/
def writeRecord (record : Bytes) : Bytes := record.take maxRecordBytes ++ [10]

/-- The records a guest program wrote, in order, and its exit code. -/
structure Halt where
  records : List Bytes
  code : QemuExitCode
  deriving DecidableEq, Repr

end PolytopeOS.Arch
