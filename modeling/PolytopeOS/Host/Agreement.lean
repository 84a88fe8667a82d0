import PolytopeOS.Host.Language
import PolytopeOS.Host.Outcome
import PolytopeOS.Loader.Main

/-!
# Guest and host agree

Every run of the loader and kernel writes an accepted record list, whatever
prose the firmware writes between the records, and the host's verdict on it is
the one that the run's end calls for.
-/

namespace PolytopeOS.Host
open Corelib Arch Loader

-- ════════════════════════════════════════════════════════════════════════
-- The debug console
-- ════════════════════════════════════════════════════════════════════════

/-- A debug log: the records of a run in order, among complete lines of prose. -/
inductive Interleaved : List Bytes → Bytes → Prop where
  | done : Interleaved [] []
  | record {record : Bytes} {records : List Bytes} {stream : Bytes}
    (h : Interleaved records stream) :
    Interleaved (record :: records) (writeRecord record ++ stream)
  | prose {line : Bytes} {records : List Bytes} {stream : Bytes} (hline : 10 ∉ line)
    (hplain : ¬ascii "POLYTOPE_BOOT" <:+: line) (h : Interleaved records stream) :
    Interleaved records (line ++ [10] ++ stream)

/-- The emulator's process status for a guest's exit value. -/
def hostStatus (code : QemuExitCode) : ℤ := ((code.value <<< 1) ||| 1 : ℕ)

theorem prefix_stripCr (line : Bytes) : stripCr line <+: line := by
  unfold stripCr
  split
  · exact List.dropLast_prefix line
  · exact List.prefix_rfl

theorem not_isRecord_of_plain {line : Bytes} (h : ¬ascii "POLYTOPE_BOOT" <:+: line) :
    isRecord (stripCr line) = false := by
  rw [Bool.eq_false_iff]
  intro hrecord
  have hlead : ascii "POLYTOPE_BOOT" <+: stripCr line := List.isPrefixOf_iff_prefix.mp hrecord
  exact h (hlead.trans (prefix_stripCr line)).isInfix

/-- Cutting the log gives the records back, and no unterminated rest. -/
theorem records_of_interleaved {lines : List Bytes} {stream : Bytes}
    (h : Interleaved lines stream) (hlines : ∀ line ∈ lines, ∃ kind, Recognised line kind) :
    records stream = lines ∧ tail stream = [] := by
  induction h with
  | done => exact ⟨rfl, rfl⟩
  | @record record lines stream _ ih =>
    rw [List.forall_mem_cons] at hlines
    obtain ⟨⟨kind, hrecord⟩, hrest⟩ := hlines
    obtain ⟨hrecords, htail⟩ := ih hrest
    have hshort : record.length ≤ maxRecordBytes := hrecord.short
    rw [writeRecord, List.take_of_length_le hshort, records, tail, cut_line_append hrecord.oneLine,
      List.map_cons, hrecord.noCr, List.filter_cons_of_pos hrecord.isRecord]
    exact ⟨congrArg (record :: ·) hrecords, htail⟩
  | @prose line lines stream hline hplain _ ih =>
    rw [records, tail, cut_line_append hline, List.map_cons,
      List.filter_cons_of_neg (by rw [not_isRecord_of_plain hplain]; simp)]
    exact ih hlines

/-- The parser's trace of a log whose records are an accepted list. -/
theorem parseProtocolStream_of_interleaved {lines : List Bytes} {stream : Bytes}
    {markers : MarkerEvidence} (h : Interleaved lines stream) (haccepted : Accepted lines markers) :
    parseProtocolStream stream false = ⟨markers, none⟩ := by
  obtain ⟨state, hfollow⟩ := follow_of_accepted haccepted
  obtain ⟨hrecords, htail⟩ := records_of_interleaved h (follow_recognised hfollow)
  exact parseProtocolStream_of_accepted (by rw [htail]; decide) hrecords haccepted

-- ════════════════════════════════════════════════════════════════════════
-- The records of a run
-- ════════════════════════════════════════════════════════════════════════

theorem marker_mem_sequence2 {error : LoaderError} (h : error.Early) :
    error.marker ∈ sequence2Records := by
  cases error with
  | fileRead => exact List.mem_of_getElem? (i := 0) rfl
  | configInvalid => exact List.mem_of_getElem? (i := 1) rfl
  | elfInvalid => exact List.mem_of_getElem? (i := 2) rfl
  | allocation => exact List.mem_of_getElem? (i := 3) rfl
  | kernelAddress => exact List.mem_of_getElem? (i := 4) rfl
  | contractStorage => exact List.mem_of_getElem? (i := 5) rfl
  | contract => exact absurd rfl h

/-- How the kernel ends, if the run gets that far. -/
def kernelHalt (run : GuestRun) : Option Halt :=
  match run.prepared, run.encoded, run.transfer with
  | .ok _, .ok _, .kernel memory contract length =>
    some (Kernel.polytopeKernelMain memory contract length)
  | _, _, _ => none

/-- The verdict that a run calls for. -/
def verdict (run : GuestRun) : BootClassification :=
  match run.prepared, run.encoded, run.transfer with
  | .ok _, .ok _, .returned => .unexpectedExit
  | .ok _, .ok _, .kernel memory contract length =>
    match (Kernel.polytopeKernelMain memory contract length).code with
    | .success => .ready
    | .contractRejected => .rejected
    | .kernelPanic => .panic
    | .loaderFailure => .loaderFailure
    | .kernelReturned => .unexpectedExit
  | _, _, _ => .loaderFailure

/-- A run that ends before the kernel's own code leaves no evidence. -/
structure EndsEarly (run : GuestRun) : Prop where
  noKernel : kernelHalt run = none
  accepted : Accepted (Loader.main run).records {}
  ended : ((Loader.main run).code = .loaderFailure ∧ verdict run = .loaderFailure) ∨
    ((Loader.main run).code = .kernelReturned ∧ verdict run = .unexpectedExit)

/-- A run that ends in the kernel leaves the path to it and the kernel's record. -/
structure EndsInKernel (run : GuestRun) (halt : Halt) : Prop where
  kernel : kernelHalt run = some halt
  ends : Kernel.Ends halt
  records : (Loader.main run).records =
    loaderStartMarker :: elfValidMarker :: handoffReadyMarker :: halt.records
  code : (Loader.main run).code = halt.code
  verdict : verdict run =
    match halt.code with
    | .success => .ready
    | .contractRejected => .rejected
    | .kernelPanic => .panic
    | .loaderFailure => .loaderFailure
    | .kernelReturned => .unexpectedExit

theorem main_ends (run : GuestRun) : EndsEarly run ∨ ∃ halt, EndsInKernel run halt := by
  obtain ⟨prepared, encoded, transfer, hprepared, hencoded⟩ := run
  cases prepared with
  | err error =>
    exact .inl ⟨rfl, .loaderFailed (marker_mem_sequence2 (hprepared error rfl)), .inl ⟨rfl, rfl⟩⟩
  | panic =>
    exact .inl ⟨rfl, .loaderFailed (List.mem_of_getElem? (i := 6) rfl), .inl ⟨rfl, rfl⟩⟩
  | ok prepared =>
    cases encoded with
    | err error =>
      obtain rfl := hencoded error rfl
      exact .inl ⟨rfl, .buildFailed (List.mem_of_getElem? (i := 0) rfl), .inl ⟨rfl, rfl⟩⟩
    | panic =>
      exact .inl ⟨rfl, .buildFailed (List.mem_of_getElem? (i := 1) rfl), .inl ⟨rfl, rfl⟩⟩
    | ok length =>
      cases transfer with
      | panicked =>
        exact .inl ⟨rfl, .transferFailed (List.mem_of_getElem? (i := 0) rfl), .inl ⟨rfl, rfl⟩⟩
      | bssClearFailure => exact .inl ⟨rfl, .handedOff, .inl ⟨rfl, rfl⟩⟩
      | returned => exact .inl ⟨rfl, .handedOff, .inr ⟨rfl, rfl⟩⟩
      | kernel memory contract length =>
        exact .inr ⟨_, rfl, Kernel.polytopeKernelMain_ends memory contract length, rfl, rfl, rfl⟩

-- ════════════════════════════════════════════════════════════════════════
-- The report
-- ════════════════════════════════════════════════════════════════════════

/-- A record that is found in a log only as a whole line. -/
structure Searchable (marker : Bytes) : Prop extends Needle marker where
  tagged : Corelib.contains marker (ascii "POLYTOPE_BOOT") = true
  whole : ∀ entry ∈ catalogue, Corelib.contains entry.1 marker = true → entry.1 = marker

theorem badVersionMarker_searchable : Searchable badVersionMarker :=
  ⟨⟨by decide +kernel, by decide +kernel, by decide +kernel, by decide +kernel⟩,
    by decide +kernel, by decide +kernel⟩

theorem truncatedMarker_searchable : Searchable truncatedMarker :=
  ⟨⟨by decide +kernel, by decide +kernel, by decide +kernel, by decide +kernel⟩,
    by decide +kernel, by decide +kernel⟩

theorem infix_interleaved {lines : List Bytes} {stream marker : Bytes}
    (h : Interleaved lines stream) (hlines : ∀ line ∈ lines, ∃ kind, Recognised line kind)
    (hmarker : Searchable marker) : marker <:+: stream ↔ marker ∈ lines := by
  induction h with
  | done => simp [hmarker.nonempty]
  | @record record lines stream _ ih =>
    rw [List.forall_mem_cons] at hlines
    obtain ⟨⟨kind, hrecord⟩, hrest⟩ := hlines
    have hshort : record.length ≤ maxRecordBytes := hrecord.short
    have hself : marker <:+: record ↔ marker = record := by
      constructor
      · intro hinfix
        exact (hmarker.whole _ (mem_catalogue_of_recordKind hrecord.kind)
          (contains_iff.mpr hinfix)).symm
      · intro heq
        rw [heq]
    rw [writeRecord, List.take_of_length_le hshort, List.append_assoc, List.singleton_append,
      infix_append_cons_iff hmarker.oneLine, hself, ih hrest, List.mem_cons]
  | @prose line lines stream hline hplain _ ih =>
    rw [List.append_assoc, List.singleton_append, infix_append_cons_iff hmarker.oneLine,
      ih hlines]
    exact or_iff_right fun hinfix => hplain ((contains_iff.mp hmarker.tagged).trans hinfix)

/-- The other logs hold no rejection record that the run has not written. -/
def Quiet (lines : List Bytes) (capture : Capture) : Prop :=
  ∀ content, some content ∈ [capture.serial, capture.stderr, capture.stdout] →
    ∀ marker ∈ rejectionMarkers, marker <:+: content → marker ∈ lines

/-- Searching the report's log for a rejection record is looking for it in the run. -/
theorem contains_log {lines : List Bytes} {stream marker : Bytes} {capture : Capture}
    (h : Interleaved lines stream) (hlines : ∀ line ∈ lines, ∃ kind, Recognised line kind)
    (hdebug : capture.debug = some stream) (hbound : stream.length ≤ maxCapturedLogBytes)
    (hquiet : Quiet lines capture) (hmarker : Searchable marker)
    (hrejection : marker ∈ rejectionMarkers) :
    Corelib.contains (collectLogs [capture.serial, capture.debug, capture.stderr, capture.stdout])
      marker = true ↔ marker ∈ lines := by
  rw [contains_collectLogs hmarker.toNeedle]
  constructor
  · rintro ⟨file, hfile, hinfix⟩
    cases file with
    | none => exact absurd (List.infix_nil.mp hinfix) hmarker.nonempty
    | some content =>
      have hcontent := hinfix.trans (prefix_readLogBounded content).isInfix
      by_cases hstream : some content = capture.debug
      · rw [hdebug, Option.some.injEq] at hstream
        exact (infix_interleaved h hlines hmarker).mp (hstream ▸ hcontent)
      · refine hquiet content ?_ marker hrejection hcontent
        simp only [List.mem_cons, List.not_mem_nil, or_false] at hfile ⊢
        rcases hfile with hfile | hfile | hfile | hfile
        · exact .inl hfile
        · exact absurd hfile hstream
        · exact .inr (.inl hfile)
        · exact .inr (.inr hfile)
  · intro hmem
    refine ⟨capture.debug, by simp, ?_⟩
    rw [hdebug, readLogBounded_of_le hbound]
    exact (infix_interleaved h hlines hmarker).mpr hmem

/-- How the kernel has to end for each scenario. -/
def BootScenario.prescribed : BootScenario → Halt
  | .normal => ⟨[Kernel.kernelReady], .success⟩
  | .badVersion => ⟨[Kernel.abiVersionRejected], .contractRejected⟩
  | .truncated => ⟨[Kernel.contractLengthRejected], .contractRejected⟩
  | .panic => ⟨[Kernel.kernelPanic], .kernelPanic⟩

theorem observeBoot_eq {mode : BootMode} {scenario : BootScenario} {execution : QemuExecution}
    {capture : Capture} {stream : Bytes} {markers : MarkerEvidence}
    (hdebug : capture.debug = some stream) (hbound : stream.length ≤ maxCapturedLogBytes)
    (htrace : parseProtocolStream stream false = ⟨markers, none⟩) :
    observeBoot mode scenario execution capture =
      { mode
        scenario
        classification := classifyBoot execution.timedOut execution.exitStatus ⟨markers, none⟩
        exitStatus := execution.exitStatus
        timeToReadyMarkerMs := execution.timeToReadyMarkerMs
        sawReadyMarker := markers.ready
        sawRejectMarker := markers.rejected
        sawPanicMarker := markers.panic
        terminalCode := markers.terminalCode
        diagnosticProtocolError := none
        log := collectLogs [capture.serial, capture.debug, capture.stderr, capture.stdout] } := by
  have hread : readLogBounded capture.debug = (stream, false) := by
    rw [hdebug, readLogBounded_of_le hbound]
  simp only [observeBoot, hread, htrace]

/-- What the rest of the report must hold for an accepted list. -/
structure Reported (run : GuestRun) (stream : Bytes) (ready : Option ℕ) (capture : Capture) :
    Prop where
  debug : capture.debug = some stream
  bounded : stream.length ≤ maxCapturedLogBytes
  quiet : Quiet (Loader.main run).records capture
  readyTime : ready.isSome = true ↔ readyMarker ∈ (Loader.main run).records

/-- The report of a run. -/
def reportOf (run : GuestRun) (scenario : BootScenario) (ready : Option ℕ) (capture : Capture) :
    BootRun :=
  observeBoot .scenario scenario ⟨some (hostStatus (Loader.main run).code), ready, false⟩ capture

theorem Ends.accepted {halt : Halt} (h : Kernel.Ends halt) :
    ∃ markers, Accepted (loaderStartMarker :: elfValidMarker :: handoffReadyMarker :: halt.records)
      markers := by
  cases h with
  | ready => exact ⟨_, .ready⟩
  | abiVersion => exact ⟨_, .abiVersion⟩
  | contractLength => exact ⟨_, .contractLength⟩
  | contractInvalid => exact ⟨_, .contractInvalid⟩
  | panic => exact ⟨_, .panic⟩

/-- Records of different kinds are different. -/
theorem ne_of_kind {record other : Bytes} (kind kind' : RecordKind) (hrecord : record ∈ kind.texts)
    (hother : other ∈ kind'.texts) (hne : kind ≠ kind') : record ≠ other := by
  rintro rfl
  have hkind := recordKind_eq_some.mpr hrecord
  rw [recordKind_eq_some.mpr hother, Option.some.injEq] at hkind
  exact hne hkind.symm

theorem not_mem_kernelPath {record last : Bytes} (kind kind' : RecordKind)
    (hrecord : record ∈ kind.texts) (hlast : last ∈ kind'.texts)
    (hne : kind ∉ [.loaderStart, .elfValid, .handoffReady, kind']) :
    record ∉ kernelPath last := by
  simp only [List.mem_cons, List.not_mem_nil, or_false, not_or] at hne
  simp only [kernelPath, List.mem_cons, List.not_mem_nil, or_false, not_or]
  exact ⟨ne_of_kind kind .loaderStart hrecord (List.mem_singleton_self _) hne.1,
    ne_of_kind kind .elfValid hrecord (List.mem_singleton_self _) hne.2.1,
    ne_of_kind kind .handoffReady hrecord (List.mem_singleton_self _) hne.2.2.1,
    ne_of_kind kind kind' hrecord hlast hne.2.2.2⟩

/-- A kernel that ends with another record is never seen ready. -/
theorem readyTime_eq_none {ready : Option ℕ} {last : Bytes} (kind : RecordKind)
    (hlast : last ∈ kind.texts)
    (hne : RecordKind.ready ∉ [.loaderStart, .elfValid, .handoffReady, kind])
    (htime : ready.isSome = true ↔ readyMarker ∈ kernelPath last) : ready = none := by
  have hready := not_mem_kernelPath .ready kind (List.mem_singleton_self _) hlast hne
  exact Option.not_isSome_iff_eq_none.mp (mt htime.mp hready)

@[simp] theorem hostStatus_success : hostStatus .success = readyExitStatus := rfl

@[simp] theorem hostStatus_contractRejected :
    hostStatus .contractRejected = rejectExitStatus := rfl

@[simp] theorem hostStatus_kernelPanic : hostStatus .kernelPanic = panicExitStatus := rfl

theorem validate_of_kernel {run : GuestRun} {halt : Halt} {stream : Bytes}
    {ready : Option ℕ} {capture : Capture} (scenario : BootScenario)
    (hends : EndsInKernel run halt) (h : Interleaved (Loader.main run).records stream)
    (hreport : Reported run stream ready capture) :
    validateBootOutcome (reportOf run scenario ready capture) = .ok () ↔
      halt = scenario.prescribed := by
  obtain ⟨markers, haccepted⟩ := Ends.accepted hends.ends
  rw [← hends.records] at haccepted
  obtain ⟨state, hfollow⟩ := follow_of_accepted haccepted
  have hversion := contains_log h (follow_recognised hfollow) hreport.debug hreport.bounded
    hreport.quiet badVersionMarker_searchable (List.mem_of_getElem? (i := 0) rfl)
  have htruncated := contains_log h (follow_recognised hfollow) hreport.debug hreport.bounded
    hreport.quiet truncatedMarker_searchable (List.mem_of_getElem? (i := 1) rfl)
  have htime := hreport.readyTime
  have htrace := parseProtocolStream_of_interleaved h haccepted
  have hself : ∀ marker : Bytes, marker ∈ [marker] := List.mem_singleton_self
  have habi : Kernel.abiVersionRejected ≠ Kernel.contractLengthRejected :=
    ne_of_kind .abiVersion .contractLength (hself _) (hself _) (by decide)
  rw [reportOf, observeBoot_eq hreport.debug hreport.bounded htrace, hends.code]
  rw [hends.records] at hversion htruncated htime haccepted
  cases hends.ends with
  | ready =>
    obtain rfl := haccepted.unique .ready
    replace htime := htime.mpr (List.mem_of_getElem? (i := 3) rfl)
    have hclass : classifyBoot false (some readyExitStatus)
        ⟨{ ready := true, terminalCode := some "KERNEL_READY" }, none⟩ = .ready := rfl
    cases scenario <;>
      simp [validateBootOutcome, validateScenarioOutcome, Exec.ensure, hclass, htime,
        BootScenario.prescribed]
  | abiVersion =>
    obtain rfl := haccepted.unique .abiVersion
    replace htime := readyTime_eq_none .abiVersion (hself _) (by decide) htime
    replace hversion := hversion.mpr (List.mem_of_getElem? (i := 3) rfl)
    replace htruncated := mt htruncated.mp
      (not_mem_kernelPath .contractLength .abiVersion (hself _) (hself _) (by decide))
    have hclass : classifyBoot false (some rejectExitStatus)
        ⟨{ rejected := true, terminalCode := some "ABI_VERSION" }, none⟩ = .rejected := rfl
    cases scenario <;>
      simp [validateBootOutcome, validateScenarioOutcome, Exec.ensure, hclass, htime,
        BootScenario.prescribed, hversion, htruncated, habi]
  | contractLength =>
    obtain rfl := haccepted.unique .contractLength
    replace htime := readyTime_eq_none .contractLength (hself _) (by decide) htime
    replace hversion := mt hversion.mp
      (not_mem_kernelPath .abiVersion .contractLength (hself _) (hself _) (by decide))
    replace htruncated := htruncated.mpr (List.mem_of_getElem? (i := 3) rfl)
    have hclass : classifyBoot false (some rejectExitStatus)
        ⟨{ rejected := true, terminalCode := some "CONTRACT_LENGTH" }, none⟩ = .rejected := rfl
    cases scenario <;>
      simp [validateBootOutcome, validateScenarioOutcome, Exec.ensure, hclass, htime,
        BootScenario.prescribed, hversion, htruncated, habi.symm]
  | contractInvalid =>
    obtain rfl := haccepted.unique .contractInvalid
    have hversion' : Kernel.contractInvalid ≠ Kernel.abiVersionRejected :=
      ne_of_kind .contractInvalid .abiVersion (hself _) (hself _) (by decide)
    have hlength' : Kernel.contractInvalid ≠ Kernel.contractLengthRejected :=
      ne_of_kind .contractInvalid .contractLength (hself _) (hself _) (by decide)
    have hclass : classifyBoot false (some rejectExitStatus)
        ⟨{ rejected := true, terminalCode := some "CONTRACT_INVALID" }, none⟩ = .rejected := rfl
    cases scenario <;>
      simp [validateBootOutcome, validateScenarioOutcome, Exec.ensure, hclass,
        BootScenario.prescribed, hversion', hlength']
  | panic =>
    obtain rfl := haccepted.unique .panic
    replace htime := readyTime_eq_none .panic (hself _) (by decide) htime
    have hclass : classifyBoot false (some panicExitStatus)
        ⟨{ panic := true, terminalCode := some "KERNEL_PANIC" }, none⟩ = .panic := rfl
    cases scenario <;>
      simp [validateBootOutcome, validateScenarioOutcome, Exec.ensure, hclass, htime,
        BootScenario.prescribed]

theorem classifyBoot_of_early {run : GuestRun} (h : EndsEarly run) :
    classifyBoot false (some (hostStatus (Loader.main run).code)) ⟨{}, none⟩ = verdict run := by
  rcases h.ended with ⟨hcode, hverdict⟩ | ⟨hcode, hverdict⟩ <;> rw [hcode, hverdict] <;> rfl

theorem classifyBoot_of_kernel {run : GuestRun} {halt : Halt} {markers : MarkerEvidence}
    (h : EndsInKernel run halt) (haccepted : Accepted (Loader.main run).records markers) :
    classifyBoot false (some (hostStatus (Loader.main run).code)) ⟨markers, none⟩ =
      verdict run := by
  rw [h.records] at haccepted
  rw [h.code, h.verdict]
  cases h.ends with
  | ready => exact haccepted.unique .ready ▸ rfl
  | abiVersion => exact haccepted.unique .abiVersion ▸ rfl
  | contractLength => exact haccepted.unique .contractLength ▸ rfl
  | contractInvalid => exact haccepted.unique .contractInvalid ▸ rfl
  | panic => exact haccepted.unique .panic ▸ rfl

/-- No scenario accepts a run that has not reached the kernel. -/
theorem validate_of_early {run : GuestRun} {stream : Bytes} {ready : Option ℕ} {capture : Capture}
    (scenario : BootScenario) (hearly : EndsEarly run)
    (h : Interleaved (Loader.main run).records stream)
    (hreport : Reported run stream ready capture) :
    validateBootOutcome (reportOf run scenario ready capture) ≠ .ok () := by
  rw [reportOf, observeBoot_eq hreport.debug hreport.bounded
    (parseProtocolStream_of_interleaved h hearly.accepted)]
  cases scenario <;> simp [validateBootOutcome, validateScenarioOutcome, Exec.ensure]

/-- Guest and host agree on every run, whatever prose is written among its
records: the parser reports no violation, the classification is the one that
the run calls for, and a scenario accepts exactly the run it prescribes. -/
theorem host_agrees_with_guest (run : GuestRun) {stream : Bytes}
    (h : Interleaved (Loader.main run).records stream) :
    (parseProtocolStream stream false).violation = none ∧
    classifyBoot false (some (hostStatus (Loader.main run).code))
      (parseProtocolStream stream false) = verdict run ∧
    ∀ scenario ready capture, Reported run stream ready capture →
      (validateBootOutcome (reportOf run scenario ready capture) = .ok () ↔
        kernelHalt run = some scenario.prescribed) := by
  rcases main_ends run with hearly | ⟨halt, hkernel⟩
  · rw [parseProtocolStream_of_interleaved h hearly.accepted]
    refine ⟨rfl, classifyBoot_of_early hearly, fun scenario ready capture hreport => ?_⟩
    rw [hearly.noKernel]
    exact iff_of_false (validate_of_early scenario hearly h hreport) nofun
  · obtain ⟨markers, haccepted⟩ := Ends.accepted hkernel.ends
    rw [← hkernel.records] at haccepted
    rw [parseProtocolStream_of_interleaved h haccepted]
    refine ⟨rfl, classifyBoot_of_kernel hkernel haccepted, fun scenario ready capture hreport => ?_⟩
    rw [hkernel.kernel, Option.some.injEq]
    exact validate_of_kernel scenario hkernel h hreport

/-- A run whose kernel is handed one byte too few. -/
def sampleRun : GuestRun where
  prepared := .ok ⟨0x200000, sampleStorage, .truncatedContract⟩
  encoded := .ok 4175
  transfer := .kernel (fun _ => 0) 0x300000 4175
  prepared_fails := nofun
  encoded_fails := nofun

/-- The sample run's debug log, with a line of firmware prose and an empty line. -/
def sampleStream : Bytes :=
  ascii "BdsDxe: starting Boot0001" ++ [10] ++ (writeRecord loaderStart ++
    (writeRecord elfValid ++ ([] ++ [10] ++ (writeRecord handoffReady ++
      (writeRecord Kernel.contractLengthRejected ++ [])))))

theorem sampleStream_interleaved : Interleaved (Loader.main sampleRun).records sampleStream :=
  .prose (by decide +kernel) (by decide +kernel) (.record (.record
    (.prose (by decide +kernel) (by decide +kernel) (.record (.record .done)))))

theorem host_agrees_with_guest_truncated :
    (parseProtocolStream sampleStream false).violation = none ∧
    classifyBoot false (some 65) (parseProtocolStream sampleStream false) = .rejected ∧
    validateBootOutcome (reportOf sampleRun .truncated none
      ⟨none, some sampleStream, none, none⟩) = .ok () := by
  obtain ⟨hviolation, hclass, hvalidate⟩ :=
    host_agrees_with_guest sampleRun sampleStream_interleaved
  refine ⟨hviolation, hclass, (hvalidate .truncated none _ ⟨rfl, ?_, ?_, ?_⟩).mpr rfl⟩
  · decide +kernel
  · intro content hcontent
    simp at hcontent
  · have hself : ∀ marker : Bytes, marker ∈ [marker] := List.mem_singleton_self
    exact iff_of_false nofun
      (not_mem_kernelPath .ready .contractLength (hself _) (hself _) (by decide))

end PolytopeOS.Host
