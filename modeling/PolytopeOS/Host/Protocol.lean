import PolytopeOS.Arch.Console
import PolytopeOS.Corelib.Lines

/-!
# The host's diagnostic parser

`parseProtocolStream` cuts the captured debug log into lines, checks each record
and drives a five-state machine; the first violation sticks. `classifyBoot`
combines the trace with the emulator's exit status.
-/

namespace PolytopeOS.Host
open Corelib Arch

def readyMarker : Bytes :=
  ascii "POLYTOPE_BOOT schema=1 seq=0004 phase=kernel_entry level=info code=KERNEL_READY"

def badVersionMarker : Bytes :=
  ascii "POLYTOPE_BOOT schema=1 seq=0004 phase=kernel_entry level=error code=ABI_VERSION"

def truncatedMarker : Bytes :=
  ascii "POLYTOPE_BOOT schema=1 seq=0004 phase=kernel_entry level=error code=CONTRACT_LENGTH"

def panicMarker : Bytes :=
  ascii "POLYTOPE_BOOT schema=1 seq=0005 phase=panic level=fatal code=KERNEL_PANIC"

def contractInvalidMarker : Bytes :=
  ascii "POLYTOPE_BOOT schema=1 seq=0004 phase=kernel_entry level=error code=CONTRACT_INVALID"

def loaderStartMarker : Bytes :=
  ascii "POLYTOPE_BOOT schema=1 seq=0001 phase=loader level=info code=LOADER_START"

def elfValidMarker : Bytes :=
  ascii "POLYTOPE_BOOT schema=1 seq=0002 phase=loader level=info code=ELF_VALID"

def handoffReadyMarker : Bytes :=
  ascii "POLYTOPE_BOOT schema=1 seq=0003 phase=handoff level=info code=HANDOFF_READY"

def sequence2Records : List Bytes := [
  ascii "POLYTOPE_BOOT schema=1 seq=0002 phase=loader level=error code=FILE_READ",
  ascii "POLYTOPE_BOOT schema=1 seq=0002 phase=loader level=error code=CONFIG_INVALID",
  ascii "POLYTOPE_BOOT schema=1 seq=0002 phase=loader level=error code=ELF_INVALID",
  ascii "POLYTOPE_BOOT schema=1 seq=0002 phase=loader level=error code=ALLOCATION",
  ascii "POLYTOPE_BOOT schema=1 seq=0002 phase=loader level=error code=KERNEL_ADDRESS",
  ascii "POLYTOPE_BOOT schema=1 seq=0002 phase=loader level=error code=CONTRACT_STORAGE",
  ascii "POLYTOPE_BOOT schema=1 seq=0002 phase=loader level=fatal code=LOADER_PANIC"]

def sequence3Records : List Bytes := [
  ascii "POLYTOPE_BOOT schema=1 seq=0003 phase=handoff level=error code=CONTRACT_BUILD",
  ascii "POLYTOPE_BOOT schema=1 seq=0003 phase=handoff level=fatal code=LOADER_PANIC"]

def sequence4Records : List Bytes := [
  ascii "POLYTOPE_BOOT schema=1 seq=0004 phase=handoff level=fatal code=LOADER_PANIC"]

inductive RecordKind where
  | loaderStart
  | elfValid
  | handoffReady
  | ready
  | abiVersion
  | contractLength
  | contractInvalid
  | panic
  | loaderFailureSequence2
  | loaderFailureSequence3
  | loaderFailureSequence4
  deriving DecidableEq, Repr

def loaderFailureKind (line : Bytes) : Option RecordKind :=
  if line ∈ sequence2Records then some .loaderFailureSequence2
  else if line ∈ sequence3Records then some .loaderFailureSequence3
  else if line ∈ sequence4Records then some .loaderFailureSequence4
  else none

def recordKind (line : Bytes) : Option RecordKind :=
  if line = loaderStartMarker then some .loaderStart
  else if line = elfValidMarker then some .elfValid
  else if line = handoffReadyMarker then some .handoffReady
  else if line = readyMarker then some .ready
  else if line = badVersionMarker then some .abiVersion
  else if line = truncatedMarker then some .contractLength
  else if line = contractInvalidMarker then some .contractInvalid
  else if line = panicMarker then some .panic
  else loaderFailureKind line

def isAsciiDigit (byte : UInt8) : Bool := 48 ≤ byte && byte ≤ 57

def isAsciiLowercase (byte : UInt8) : Bool := 97 ≤ byte && byte ≤ 122

def isAsciiUppercase (byte : UInt8) : Bool := 65 ≤ byte && byte ≤ 90

/-- The fields between single blanks. -/
def fields (line : Bytes) : List Bytes := line.splitOn 32

def validRecordGrammar (line : Bytes) : Bool :=
  if !line.all (· < 128) then false
  else
    match fields line with
    | [record, schema, seq, phase, level, code] =>
      if record ≠ ascii "POLYTOPE_BOOT" ∨ schema ≠ ascii "schema=1" ∨
          !(ascii "seq=").isPrefixOf seq ∨ !(ascii "phase=").isPrefixOf phase ∨
          !(ascii "level=").isPrefixOf level ∨ !(ascii "code=").isPrefixOf code then
        false
      else
        let sequence := seq.drop 4
        let phase := phase.drop 6
        let level := level.drop 6
        let code := code.drop 5
        sequence.length = 4 && sequence.all isAsciiDigit &&
          !phase.isEmpty &&
          phase.all (fun byte => isAsciiLowercase byte || isAsciiDigit byte || byte = 95) &&
          (level = ascii "info" || level = ascii "error" || level = ascii "fatal") &&
          !code.isEmpty &&
          code.all (fun byte => isAsciiUppercase byte || isAsciiDigit byte || byte = 95)
    | _ => false

/-- `str::parse::<u16>`: an optional plus sign and at least one digit, in range.
Text that is not UTF-8 has a byte that is no digit. -/
def parseU16 (text : Bytes) : Option UInt16 :=
  let digits := match text with
    | 43 :: rest => rest
    | _ => text
  if digits = [] then none
  else
    (digits.foldlM (fun value byte =>
      if isAsciiDigit byte ∧ value * 10 + (byte.toNat - 48) < 2 ^ 16 then
        some (value * 10 + (byte.toNat - 48))
      else none) 0).map UInt16.ofNat

def recordSequence (line : Bytes) : Option UInt16 := do
  let field ← (fields line)[2]?
  let digits ← field.dropPrefix? (ascii "seq=")
  parseU16 digits

structure MarkerEvidence where
  ready : Bool := false
  rejected : Bool := false
  panic : Bool := false
  terminalCode : Option String := none
  deriving DecidableEq, Repr

structure ProtocolTrace where
  markers : MarkerEvidence
  violation : Option String
  deriving DecidableEq, Repr

namespace ProtocolTrace

def new (logTruncated : Bool) : ProtocolTrace where
  markers := {}
  violation := if logTruncated then some "debugcon exceeded the bounded protocol log size" else none

def reject (trace : ProtocolTrace) (reason : String) : ProtocolTrace :=
  if trace.violation.isNone then { trace with violation := some reason } else trace

end ProtocolTrace

inductive TraceState where
  | start
  | loaderStarted
  | elfValidated
  | handoffReady
  | terminal
  deriving DecidableEq, Repr

/-- The loop's variables. -/
structure Scanner where
  state : TraceState
  lastSequence : Option UInt16
  trace : ProtocolTrace
  deriving DecidableEq, Repr

/-- The transition taken on a record, with the evidence it sets. -/
def transition (markers : MarkerEvidence) :
    TraceState → RecordKind → Option (TraceState × MarkerEvidence)
  | .start, .loaderStart => some (.loaderStarted, markers)
  | .loaderStarted, .elfValid => some (.elfValidated, markers)
  | .loaderStarted, .loaderFailureSequence2 => some (.terminal, markers)
  | .elfValidated, .loaderFailureSequence3 => some (.terminal, markers)
  | .handoffReady, .loaderFailureSequence4 => some (.terminal, markers)
  | .elfValidated, .handoffReady => some (.handoffReady, markers)
  | .handoffReady, .ready =>
    some (.terminal, { markers with ready := true, terminalCode := some "KERNEL_READY" })
  | .handoffReady, .abiVersion =>
    some (.terminal, { markers with rejected := true, terminalCode := some "ABI_VERSION" })
  | .handoffReady, .contractLength =>
    some (.terminal, { markers with rejected := true, terminalCode := some "CONTRACT_LENGTH" })
  | .handoffReady, .contractInvalid =>
    some (.terminal, { markers with rejected := true, terminalCode := some "CONTRACT_INVALID" })
  | .handoffReady, .panic =>
    some (.terminal, { markers with panic := true, terminalCode := some "KERNEL_PANIC" })
  | _, _ => none

def maxDiagnosticRecordBytes : ℕ := 256

/-- A line that counts as a record. -/
def isRecord (line : Bytes) : Bool := (ascii "POLYTOPE_BOOT").isPrefixOf line

def Scanner.reject (scanner : Scanner) (reason : String) : Scanner :=
  { scanner with trace := scanner.trace.reject reason }

def processProtocolLine (scanner : Scanner) (line : Bytes) : Scanner :=
  if !isRecord line then scanner
  else if line.length > maxDiagnosticRecordBytes then
    scanner.reject "overlong diagnostic record"
  else if !validRecordGrammar line then
    scanner.reject "malformed diagnostic record"
  else
    match recordSequence line with
    | none => scanner.reject "malformed diagnostic sequence"
    | some sequence =>
      if scanner.lastSequence.any (sequence ≤ ·) then
        scanner.reject "duplicate or out-of-order diagnostic sequence"
      else
        let scanner := { scanner with lastSequence := some sequence }
        match recordKind line with
        | none => scanner.reject "unknown schema-1 diagnostic record"
        | some kind =>
          match transition scanner.trace.markers scanner.state kind with
          | some (next, markers) =>
            { scanner with state := next, trace := { scanner.trace with markers := markers } }
          | none => scanner.reject "duplicate or out-of-order diagnostic record"

/-- Remove at most one carriage return from the end. -/
def stripCr (line : Bytes) : Bytes := if line.getLast? = some 13 then line.dropLast else line

/-- One round of the loop over the indexed bytes, with `line_start`. -/
def streamStep (bytes : Bytes) (loop : Scanner × ℕ) (entry : UInt8 × ℕ) : Scanner × ℕ :=
  if entry.1 ≠ 10 then loop
  else
    let line := (bytes.drop loop.2).take (entry.2 - loop.2)
    (processProtocolLine loop.1 (stripCr line), entry.2 + 1)

def parseProtocolStream (bytes : Bytes) (logTruncated : Bool) : ProtocolTrace :=
  let scanner : Scanner := ⟨.start, none, .new logTruncated⟩
  let (scanner, lineStart) := bytes.zipIdx.foldl (streamStep bytes) (scanner, 0)
  if lineStart < bytes.length then
    if (ascii "POLYTOPE_BOOT").isPrefixOf (bytes.drop lineStart) then
      scanner.trace.reject "truncated diagnostic record"
    else scanner.trace
  else scanner.trace

inductive BootClassification where
  | ready
  | rejected
  | panic
  | timeout
  | unexpectedExit
  | missingMarker
  | loaderFailure
  deriving DecidableEq, Repr

def readyExitStatus : ℤ := 33
def rejectExitStatus : ℤ := 65
def panicExitStatus : ℤ := 67

def classifyBoot (timedOut : Bool) (exitStatus : Option ℤ) (trace : ProtocolTrace) :
    BootClassification :=
  if timedOut then .timeout
  else if trace.violation.isSome then .unexpectedExit
  else
    match trace.markers.ready, trace.markers.rejected, trace.markers.panic with
    | true, false, false => if exitStatus = some readyExitStatus then .ready else .unexpectedExit
    | false, true, false =>
      if exitStatus = some rejectExitStatus then .rejected else .unexpectedExit
    | false, false, true => if exitStatus = some panicExitStatus then .panic else .unexpectedExit
    | false, false, false =>
      if exitStatus = some 69 then .loaderFailure
      else if exitStatus = some readyExitStatus ∨ exitStatus = some rejectExitStatus ∨
          exitStatus = some panicExitStatus then .missingMarker
      else .unexpectedExit
    | _, _, _ => .unexpectedExit

end PolytopeOS.Host
