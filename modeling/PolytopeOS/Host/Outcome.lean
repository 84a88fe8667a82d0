import PolytopeOS.Corelib.Exec
import PolytopeOS.Corelib.Text
import PolytopeOS.Host.Protocol

/-!
# Boot reports

What `observe_boot` assembles from one bounded execution and its captured logs,
and the exact contract a scenario run is validated against. The report's fields
that no check reads are left out.
-/

namespace PolytopeOS.Host
open Corelib Arch

inductive BootScenario where
  | normal
  | badVersion
  | truncated
  | panic
  deriving DecidableEq, Repr

inductive BootMode where
  | scenario
  | timeoutProbe
  deriving DecidableEq, Repr

def maxCapturedLogBytes : ℕ := 4 * 1024 * 1024

/-- The first bytes of a log file and whether there were more; an absent file is empty. -/
def readLogBounded (file : Option Bytes) : Bytes × Bool :=
  match file with
  | none => ([], false)
  | some content =>
    let bytes := content.take (maxCapturedLogBytes + 1)
    if bytes.length > maxCapturedLogBytes then (bytes.take maxCapturedLogBytes, true)
    else (bytes, false)

def truncationNotice : Bytes := ascii "[host: log truncated at 4194304 bytes]\n"

/-- End an unfinished last line. -/
def closeLine (combined : Bytes) : Bytes :=
  if combined ≠ [] ∧ combined.getLast? ≠ some 10 then combined ++ [10] else combined

/-- One round of `collect_logs`. -/
def collectStep (combined : Bytes) (file : Option Bytes) : Bytes :=
  let (bytes, truncated) := readLogBounded file
  let combined := closeLine (combined ++ lossy bytes)
  if truncated then combined ++ truncationNotice else combined

def collectLogs (files : List (Option Bytes)) : Bytes := files.foldl collectStep []

structure QemuExecution where
  exitStatus : Option ℤ
  timeToReadyMarkerMs : Option ℕ
  timedOut : Bool

/-- The log files of one execution. -/
structure Capture where
  serial : Option Bytes
  debug : Option Bytes
  stderr : Option Bytes
  stdout : Option Bytes

structure BootRun where
  mode : BootMode
  scenario : BootScenario
  classification : BootClassification
  exitStatus : Option ℤ
  timeToReadyMarkerMs : Option ℕ
  sawReadyMarker : Bool
  sawRejectMarker : Bool
  sawPanicMarker : Bool
  terminalCode : Option String
  diagnosticProtocolError : Option String
  log : Bytes

/-- The report of `observe_boot`, once the execution has ended. -/
def observeBoot (mode : BootMode) (scenario : BootScenario) (execution : QemuExecution)
    (capture : Capture) : BootRun :=
  let (debugBytes, debugTruncated) := readLogBounded capture.debug
  let trace := parseProtocolStream debugBytes debugTruncated
  { mode
    scenario
    classification := classifyBoot execution.timedOut execution.exitStatus trace
    exitStatus := execution.exitStatus
    timeToReadyMarkerMs := execution.timeToReadyMarkerMs
    sawReadyMarker := trace.markers.ready
    sawRejectMarker := trace.markers.rejected
    sawPanicMarker := trace.markers.panic
    terminalCode := trace.markers.terminalCode
    diagnosticProtocolError := trace.violation
    log := collectLogs [capture.serial, capture.debug, capture.stderr, capture.stdout] }

inductive OutcomeError where
  /-- "scenario validation received a timeout-probe report" -/
  | timeoutProbeReport
  /-- The scenario's message, then the classification, the exit status and the log. -/
  | mismatch (message : String) (run : BootRun)

def validateScenarioOutcome (run : BootRun) : Exec OutcomeError Unit :=
  match run.scenario with
  | .normal =>
    Exec.ensure (run.classification = .ready ∧ run.exitStatus = some readyExitStatus ∧
        run.sawReadyMarker ∧ !run.sawRejectMarker ∧ !run.sawPanicMarker ∧
        run.timeToReadyMarkerMs.isSome ∧ run.terminalCode = some "KERNEL_READY" ∧
        run.diagnosticProtocolError.isNone)
      (.mismatch "normal boot failed" run)
  | .badVersion =>
    Exec.ensure (run.classification = .rejected ∧ run.exitStatus = some rejectExitStatus ∧
        contains run.log badVersionMarker ∧ !contains run.log truncatedMarker ∧
        !run.sawReadyMarker ∧ !run.sawPanicMarker ∧ run.timeToReadyMarkerMs.isNone ∧
        run.terminalCode = some "ABI_VERSION" ∧ run.diagnosticProtocolError.isNone)
      (.mismatch "bad-version boot did not produce the exact rejection" run)
  | .truncated =>
    Exec.ensure (run.classification = .rejected ∧ run.exitStatus = some rejectExitStatus ∧
        contains run.log truncatedMarker ∧ !contains run.log badVersionMarker ∧
        !run.sawReadyMarker ∧ !run.sawPanicMarker ∧ run.timeToReadyMarkerMs.isNone ∧
        run.terminalCode = some "CONTRACT_LENGTH" ∧ run.diagnosticProtocolError.isNone)
      (.mismatch "truncated boot did not produce the exact rejection" run)
  | .panic =>
    Exec.ensure (run.classification = .panic ∧ run.exitStatus = some panicExitStatus ∧
        !run.sawReadyMarker ∧ !run.sawRejectMarker ∧ run.timeToReadyMarkerMs.isNone ∧
        run.terminalCode = some "KERNEL_PANIC" ∧ run.diagnosticProtocolError.isNone)
      (.mismatch "panic scenario did not terminate through the panic path" run)

def validateBootOutcome (run : BootRun) : Exec OutcomeError Unit :=
  if run.mode = .scenario then validateScenarioOutcome run else .err .timeoutProbeReport

theorem readLogBounded_of_le {content : Bytes} (h : content.length ≤ maxCapturedLogBytes) :
    readLogBounded (some content) = (content, false) := by
  have htake : content.take (maxCapturedLogBytes + 1) = content :=
    List.take_of_length_le (by omega)
  simp only [readLogBounded, htake]
  rw [if_neg (by omega)]

theorem prefix_readLogBounded (content : Bytes) :
    (readLogBounded (some content)).1 <+: content := by
  simp only [readLogBounded]
  split
  · exact (List.take_prefix _ _).trans (List.take_prefix _ _)
  · exact List.take_prefix _ _

/-- A text that can be searched for in the combined log. -/
structure Needle (text : Bytes) : Prop where
  nonempty : text ≠ []
  isAscii : ∀ byte ∈ text, byte < 0x80
  oneLine : 10 ∉ text
  absent : ¬text <:+: truncationNotice

/-- The combined log is cut into whole lines after each file. -/
def Terminated (combined : Bytes) : Prop := combined = [] ∨ ∃ lines, combined = lines ++ [10]

theorem infix_concat_newline {text bytes : Bytes} (h : Needle text) :
    text <:+: bytes ++ [10] ↔ text <:+: bytes := by
  rw [infix_append_cons_iff h.oneLine, List.infix_nil]
  exact or_iff_left h.nonempty

theorem infix_terminated_append {text combined bytes : Bytes} (h : Needle text)
    (hcombined : Terminated combined) :
    text <:+: combined ++ bytes ↔ text <:+: combined ∨ text <:+: bytes := by
  rcases hcombined with rfl | ⟨lines, rfl⟩
  · rw [List.nil_append, List.infix_nil]
    exact (or_iff_right h.nonempty).symm
  · rw [List.append_assoc, List.singleton_append, infix_append_cons_iff h.oneLine,
      infix_concat_newline h]

theorem closeLine_terminated (combined : Bytes) : Terminated (closeLine combined) := by
  unfold closeLine
  split
  · exact .inr ⟨combined, rfl⟩
  · next h =>
    by_cases hnil : combined = []
    · exact .inl hnil
    · have hlast : combined.getLast? = some 10 := by
        by_contra hne
        exact h ⟨hnil, hne⟩
      exact .inr ⟨combined.dropLast, (List.dropLast_append_getLast? 10 hlast).symm⟩

theorem infix_closeLine {text combined : Bytes} (h : Needle text) :
    text <:+: closeLine combined ↔ text <:+: combined := by
  unfold closeLine
  split
  · exact infix_concat_newline h
  · rfl

theorem collectStep_eq (combined : Bytes) (file : Option Bytes) :
    collectStep combined file =
      if (readLogBounded file).2 then
        closeLine (combined ++ lossy (readLogBounded file).1) ++ truncationNotice
      else closeLine (combined ++ lossy (readLogBounded file).1) := rfl

theorem collectStep_terminated (combined : Bytes) (file : Option Bytes) :
    Terminated (collectStep combined file) := by
  rw [collectStep_eq]
  split
  · have hnotice : truncationNotice.dropLast ++ [10] = truncationNotice := by decide +kernel
    refine .inr ⟨closeLine (combined ++ lossy (readLogBounded file).1) ++
      truncationNotice.dropLast, ?_⟩
    rw [List.append_assoc, hnotice]
  · exact closeLine_terminated _

theorem infix_collectStep {text combined : Bytes} (h : Needle text)
    (hcombined : Terminated combined) (file : Option Bytes) :
    text <:+: collectStep combined file ↔
      text <:+: combined ∨ text <:+: (readLogBounded file).1 := by
  have hfile : text <:+: closeLine (combined ++ lossy (readLogBounded file).1) ↔
      text <:+: combined ∨ text <:+: (readLogBounded file).1 := by
    rw [infix_closeLine h, infix_terminated_append h hcombined, infix_lossy h.nonempty h.isAscii]
  rw [collectStep_eq]
  split
  · rw [infix_terminated_append h (closeLine_terminated _), hfile]
    exact or_iff_left h.absent
  · exact hfile

theorem infix_foldl_collectStep {text combined : Bytes} (h : Needle text)
    (hcombined : Terminated combined) (files : List (Option Bytes)) :
    text <:+: files.foldl collectStep combined ↔
      text <:+: combined ∨ ∃ file ∈ files, text <:+: (readLogBounded file).1 := by
  induction files generalizing combined with
  | nil => simp
  | cons file files ih =>
    rw [List.foldl_cons, ih (collectStep_terminated combined file), infix_collectStep h hcombined,
      List.exists_mem_cons_iff, or_assoc]

/-- A text is in the combined log exactly when it is in a captured file. -/
theorem contains_collectLogs {text : Bytes} (h : Needle text) (files : List (Option Bytes)) :
    contains (collectLogs files) text = true ↔
      ∃ file ∈ files, text <:+: (readLogBounded file).1 := by
  rw [contains_iff, collectLogs, infix_foldl_collectStep h (.inl rfl), List.infix_nil]
  exact or_iff_right h.nonempty

end PolytopeOS.Host
