import PolytopeOS.Corelib.Word
import PolytopeOS.Host.Language
import PolytopeOS.Host.Outcome

/-!
# The timeout probe

A probe passes when the harness had to kill the guest. Whether the guest had
reached the kernel by then is in the report, and the check does not look at it.
-/

namespace PolytopeOS.Host
open Corelib Arch

/-- An execution with its duration. -/
structure TimedExecution extends QemuExecution where
  durationMs : ℕ

/-- A report with its two times. -/
structure TimedRun extends BootRun where
  durationMs : ℕ
  timeoutMs : ℕ

/-- The report of `observe_boot` for a request's timeout, in milliseconds. -/
def observeTimedBoot (mode : BootMode) (scenario : BootScenario) (timeout : ℕ)
    (execution : TimedExecution) (capture : Capture) : TimedRun :=
  { toBootRun := observeBoot mode scenario execution.toQemuExecution capture
    durationMs := execution.durationMs
    timeoutMs := (checkedSize timeout).getD (2 ^ 64 - 1) }

/-- "timeout probe failed", then the classification, the two times and the log. -/
structure TimeoutProbeError where
  run : TimedRun

def validateTimeoutProbe (run : TimedRun) : Exec TimeoutProbeError Unit :=
  Exec.ensure (run.mode = .timeoutProbe ∧ run.classification = .timeout ∧
    run.durationMs ≥ run.timeoutMs) ⟨run⟩

/-- The records that the host captured from the debug console. -/
def capturedRecords (capture : Capture) : List Bytes := records (readLogBounded capture.debug).1

/-- What a debug console shows: the records in order, each on a line that ends in
LF or in CR LF, among other lines that do not begin with the tag. The last line
may be unfinished, and then it does not begin with the tag either. -/
inductive Shows : List Bytes → Bytes → Prop where
  | rest {rest : Bytes} (hline : 10 ∉ rest) (hplain : ¬ascii "POLYTOPE_BOOT" <+: rest) :
    Shows [] rest
  | record {record ending : Bytes} {lines : List Bytes} {stream : Bytes}
    (hending : ending = [10] ∨ ending = [13, 10]) (h : Shows lines stream) :
    Shows (record :: lines) (record ++ ending ++ stream)
  | other {line : Bytes} {lines : List Bytes} {stream : Bytes} (hline : 10 ∉ line)
    (hplain : ¬ascii "POLYTOPE_BOOT" <+: line) (h : Shows lines stream) :
    Shows lines (line ++ [10] ++ stream)

/-- The debug console was captured whole, up to the end of its last record. -/
def Complete (capture : Capture) : Prop :=
  (readLogBounded capture.debug).2 = false ∧
    isRecord (tail (readLogBounded capture.debug).1) = false

def probeBoot (scenario : BootScenario) (timeout : ℕ) (execution : TimedExecution)
    (capture : Capture) : TimedRun :=
  observeTimedBoot .timeoutProbe scenario timeout execution capture

/-- What a passing probe is to prove. -/
structure KernelReached (execution : TimedExecution) (capture : Capture) (run : TimedRun) :
    Prop where
  timedOut : execution.timedOut = true
  duration : run.timeoutMs ≤ run.durationMs
  exitStatus : run.exitStatus = none
  noViolation : run.diagnosticProtocolError = none
  records : capturedRecords capture = kernelPath readyMarker

-- ════════════════════════════════════════════════════════════════════════
-- The bytes of a console and its records
-- ════════════════════════════════════════════════════════════════════════

theorem isRecord_eq_false {line : Bytes} :
    isRecord line = false ↔ ¬ascii "POLYTOPE_BOOT" <+: line := by
  rw [← List.isPrefixOf_iff_prefix, Bool.not_eq_true]
  rfl

theorem stripCr_concat (line : Bytes) : stripCr (line ++ [13]) = line := by
  rw [stripCr, List.getLast?_concat, if_pos rfl, List.dropLast_concat]

/-- A line is its text, with or without a carriage return. -/
theorem eq_stripCr (line : Bytes) : line = stripCr line ∨ line = stripCr line ++ [13] := by
  by_cases h : line.getLast? = some 13
  · right
    obtain ⟨text, rfl⟩ := List.getLast?_eq_some_iff.mp h
    rw [stripCr_concat]
  · left
    rw [stripCr, if_neg h]

/-- The tag has no carriage return, so that dropping one leaves it in place. -/
theorem isRecord_stripCr (line : Bytes) : isRecord (stripCr line) = isRecord line := by
  rcases eq_stripCr line with h | h
  · rw [← h]
  · have htag : ¬ascii "POLYTOPE_BOOT" = stripCr line ++ [13] := by
      intro htag
      have hlast := congrArg List.getLast? htag
      rw [List.getLast?_concat] at hlast
      exact absurd hlast (by decide)
    rw [Bool.eq_iff_iff, isRecord, isRecord, List.isPrefixOf_iff_prefix,
      List.isPrefixOf_iff_prefix]
    conv_rhs => rw [h, List.prefix_concat_iff, or_iff_right htag]

theorem records_of_not_mem {bytes : Bytes} (h : 10 ∉ bytes) : records bytes = [] := by
  rw [records, cut_of_not_mem h]
  rfl

theorem tail_of_not_mem {bytes : Bytes} (h : 10 ∉ bytes) : tail bytes = bytes := by
  rw [tail, cut_of_not_mem h]

theorem records_line_append {line : Bytes} (h : 10 ∉ line) (stream : Bytes) :
    records (line ++ [10] ++ stream) =
      if isRecord line then stripCr line :: records stream else records stream := by
  rw [records, cut_line_append h, List.map_cons, List.filter_cons, isRecord_stripCr]
  rfl

theorem tail_line_append {line : Bytes} (h : 10 ∉ line) (stream : Bytes) :
    tail (line ++ [10] ++ stream) = tail stream := by
  rw [tail, cut_line_append h]
  rfl

/-- A console without a partial record shows its records. -/
theorem shows_records (stream : Bytes) (h : isRecord (tail stream) = false) :
    Shows (records stream) stream := by
  induction stream using lineInduction (10 : UInt8) with
  | rest rest hrest =>
    rw [tail_of_not_mem hrest] at h
    rw [records_of_not_mem hrest]
    exact .rest hrest (isRecord_eq_false.mp h)
  | line line stream hline ih =>
    rw [tail_line_append hline] at h
    rw [records_line_append hline]
    by_cases hrecord : isRecord line = true
    · rw [if_pos hrecord]
      rcases eq_stripCr line with htext | htext
      · conv_rhs => rw [htext]
        exact .record (.inl rfl) (ih h)
      · conv_rhs => rw [htext, List.append_assoc (stripCr line)]
        exact .record (.inr rfl) (ih h)
    · rw [if_neg hrecord]
      rw [Bool.not_eq_true] at hrecord
      exact .other hline (isRecord_eq_false.mp hrecord) (ih h)

/-- What a console shows is what the host reads from it, for records of the protocol. -/
theorem Shows.reads {lines : List Bytes} {stream : Bytes} (h : Shows lines stream)
    (hlines : ∀ line ∈ lines, ∃ kind, Recognised line kind) :
    records stream = lines ∧ isRecord (tail stream) = false := by
  induction h with
  | rest hrest hplain =>
    rw [records_of_not_mem hrest, tail_of_not_mem hrest]
    exact ⟨rfl, isRecord_eq_false.mpr hplain⟩
  | @record record ending lines stream hending _ ih =>
    rw [List.forall_mem_cons] at hlines
    obtain ⟨⟨kind, hrecord⟩, hrest⟩ := hlines
    obtain ⟨hrecords, htail⟩ := ih hrest
    -- the whole line is the record or the record and a carriage return
    obtain ⟨line, hsplit, hline, htext⟩ : ∃ line, record ++ ending = line ++ [10] ∧ 10 ∉ line ∧
        stripCr line = record := by
      rcases hending with rfl | rfl
      · exact ⟨record, rfl, hrecord.oneLine, hrecord.noCr⟩
      · refine ⟨record ++ [13], by rw [List.append_assoc]; rfl, ?_, stripCr_concat record⟩
        rw [List.mem_append, not_or]
        exact ⟨hrecord.oneLine, by decide⟩
    have htagged : isRecord line = true := by
      rw [← isRecord_stripCr, htext]
      exact hrecord.isRecord
    rw [hsplit, records_line_append hline, tail_line_append hline, if_pos htagged, htext, hrecords]
    exact ⟨rfl, htail⟩
  | @other line lines stream hline hplain _ ih =>
    rw [records_line_append hline, tail_line_append hline,
      if_neg (by rw [isRecord_eq_false.mpr hplain]; exact Bool.false_ne_true)]
    exact ih hlines

theorem shows_iff {lines : List Bytes} {stream : Bytes}
    (hlines : ∀ line ∈ lines, ∃ kind, Recognised line kind) :
    Shows lines stream ↔ records stream = lines ∧ isRecord (tail stream) = false := by
  constructor
  · exact fun h => h.reads hlines
  · rintro ⟨rfl, htail⟩
    exact shows_records stream htail

/-- A log that fits is read whole, and a longer one is not. -/
theorem readLogBounded_whole {content : Bytes} :
    (readLogBounded (some content)).2 = false ↔ content.length ≤ maxCapturedLogBytes := by
  constructor
  · intro h
    by_contra hlong
    simp only [readLogBounded, List.length_take] at h
    rw [if_pos (by omega)] at h
    cases h
  · intro h
    rw [readLogBounded_of_le h]

-- ════════════════════════════════════════════════════════════════════════
-- What a passing probe proves
-- ════════════════════════════════════════════════════════════════════════

variable {execution : TimedExecution} {capture : Capture} {scenario : BootScenario} {timeout : ℕ}

theorem classifyBoot_eq_timeout {timedOut : Bool} {status : Option ℤ} {trace : ProtocolTrace} :
    classifyBoot timedOut status trace = .timeout ↔ timedOut = true := by
  cases timedOut with
  | true => exact iff_of_true rfl rfl
  | false =>
    refine iff_of_false (fun h => ?_) nofun
    simp only [classifyBoot, Bool.false_eq_true, if_false] at h
    repeat' split at h
    all_goals cases h

theorem timeoutMs_probeBoot :
    (probeBoot scenario timeout execution capture).timeoutMs = min timeout (2 ^ 64 - 1) :=
  getD_checkedSize timeout

/-- The probe passes on the clock alone. -/
theorem validateTimeoutProbe_eq_ok :
    validateTimeoutProbe (probeBoot scenario timeout execution capture) = .ok () ↔
      execution.timedOut = true ∧ min timeout (2 ^ 64 - 1) ≤ execution.durationMs := by
  rw [validateTimeoutProbe, Exec.ensure_eq_ok, ← timeoutMs_probeBoot]
  exact (and_iff_right rfl).trans (and_congr_left' classifyBoot_eq_timeout)

/-- The report shows no violation when the capture is complete and its records
are an accepted list. -/
theorem noViolation_iff :
    (probeBoot scenario timeout execution capture).diagnosticProtocolError = none ↔
      Complete capture ∧ ∃ markers, Accepted (capturedRecords capture) markers :=
  parseProtocolStream_violation.trans and_assoc.symm

theorem recognised_ready : ∀ line ∈ kernelPath readyMarker, ∃ kind, Recognised line kind := by
  obtain ⟨state, hfollow⟩ := follow_of_accepted .ready
  exact follow_recognised hfollow

/-- The host reads a ready kernel from a console within the capture's bound that
shows one. -/
theorem complete_ready_iff :
    (Complete capture ∧ capturedRecords capture = kernelPath readyMarker) ↔
      ∃ console, capture.debug = some console ∧ console.length ≤ 4 * 1024 * 1024 ∧
        Shows (kernelPath readyMarker) console := by
  obtain ⟨serial, debug, stderr, stdout⟩ := capture
  cases debug with
  | none =>
    refine iff_of_false (fun h => ?_) (fun ⟨_, h, _⟩ => ?_)
    · cases h.2
    · cases h
  | some console =>
    simp only [Complete, capturedRecords, readLogBounded_whole, Option.some.injEq,
      exists_eq_left', shows_iff recognised_ready]
    rw [and_assoc]
    refine and_congr_right fun hfits => ?_
    rw [readLogBounded_of_le hfits, and_comm]

/-- A passing probe proves that the kernel was reached exactly when a run that
outlasts its timeout leaves no exit status and a debug console, within the bound
of the capture, that shows a ready kernel. -/
theorem timeoutProbe_evidence_iff (scenario : BootScenario) (timeout : ℕ)
    (execution : TimedExecution) (capture : Capture) :
    (validateTimeoutProbe (probeBoot scenario timeout execution capture) = .ok () →
        KernelReached execution capture (probeBoot scenario timeout execution capture)) ↔
      (execution.timedOut = true → min timeout (2 ^ 64 - 1) ≤ execution.durationMs →
        execution.exitStatus = none ∧
          ∃ console, capture.debug = some console ∧ console.length ≤ 4 * 1024 * 1024 ∧
            Shows (kernelPath readyMarker) console) := by
  rw [validateTimeoutProbe_eq_ok, and_imp, ← complete_ready_iff]
  apply forall_congr'
  intro htimedOut
  apply forall_congr'
  intro hduration
  constructor
  · intro h
    exact ⟨h.exitStatus, (noViolation_iff.mp h.noViolation).1, h.records⟩
  · rintro ⟨hstatus, hcomplete, hrecords⟩
    have haccepted : ∃ markers, Accepted (capturedRecords capture) markers := by
      rw [hrecords]
      exact ⟨_, .ready⟩
    have hlate : (probeBoot scenario timeout execution capture).timeoutMs ≤ execution.durationMs :=
      timeoutMs_probeBoot.trans_le hduration
    exact ⟨htimedOut, hlate, hstatus, noViolation_iff.mpr ⟨hcomplete, haccepted⟩, hrecords⟩

/-- The guest wrote nothing at all and was killed after its two seconds. -/
def silentExecution : TimedExecution := ⟨⟨none, none, true⟩, 2000⟩

def silentCapture : Capture := ⟨none, none, none, none⟩

theorem silent_probe_passes :
    validateTimeoutProbe (probeBoot .normal 2000 silentExecution silentCapture) = .ok () ∧
      capturedRecords silentCapture = [] ∧
      ¬KernelReached silentExecution silentCapture
        (probeBoot .normal 2000 silentExecution silentCapture) := by
  have hsilent : capturedRecords silentCapture = [] := rfl
  refine ⟨validateTimeoutProbe_eq_ok.mpr ⟨rfl, by decide⟩, hsilent, fun h => ?_⟩
  cases hsilent.symm.trans h.records

end PolytopeOS.Host
