import PolytopeOS.Host.Agreement
import PolytopeOS.Host.TimeoutProbe

/-!
# Verdicts and prose

The records of the debug console are evidence; every other line and the other
logs are prose. The two rejection scenarios also search the combined log, prose
included, for the record of the other scenario. Here two observations with the
same evidence are compared.
-/

namespace PolytopeOS.Host
open Corelib Arch

/-- One observed execution. -/
structure Observation where
  execution : QemuExecution
  capture : Capture

def Accepts (mode : BootMode) (scenario : BootScenario) (o : Observation) : Prop :=
  validateBootOutcome (observeBoot mode scenario o.execution o.capture) = .ok ()

/-- Two observations with the same evidence; their prose is arbitrary. -/
structure SameEvidence (a b : Observation) : Prop where
  exitStatus : a.execution.exitStatus = b.execution.exitStatus
  timedOut : a.execution.timedOut = b.execution.timedOut
  readyTime : a.execution.timeToReadyMarkerMs.isSome = b.execution.timeToReadyMarkerMs.isSome
  complete : Complete a.capture ∧ Complete b.capture
  records : capturedRecords a.capture = capturedRecords b.capture

/-- A text occurs somewhere in the captured logs. -/
def Mentions (capture : Capture) (text : Bytes) : Prop :=
  ∃ file ∈ [capture.serial, capture.debug, capture.stderr, capture.stdout],
    text <:+: (readLogBounded file).1

/-- What a rejection scenario expects: its own record and code, and that the
other scenario's record is nowhere in the log. -/
structure RejectionContract where
  scenario : BootScenario
  own : Bytes
  foreign : Bytes
  code : String

def badVersionContract : RejectionContract :=
  ⟨.badVersion, badVersionMarker, truncatedMarker, "ABI_VERSION"⟩

def truncatedContract : RejectionContract :=
  ⟨.truncated, truncatedMarker, badVersionMarker, "CONTRACT_LENGTH"⟩

def rejectionContracts : List RejectionContract := [badVersionContract, truncatedContract]

/-- The evidence is exactly what a rejection scenario asks for. -/
structure Rejects (contract : RejectionContract) (o : Observation) : Prop where
  exitStatus : o.execution.exitStatus = some rejectExitStatus
  timedOut : o.execution.timedOut = false
  notReady : o.execution.timeToReadyMarkerMs = none
  records : capturedRecords o.capture = kernelPath contract.own

variable {contract : RejectionContract} {o : Observation}

theorem mem_rejectionContracts :
    contract ∈ rejectionContracts ↔
      contract = badVersionContract ∨ contract = truncatedContract := by
  rw [rejectionContracts, List.mem_cons, List.mem_singleton]

theorem truncatedContract_mem : truncatedContract ∈ rejectionContracts :=
  mem_rejectionContracts.mpr (Or.inr rfl)

theorem contract_unique {other : RejectionContract} (h : contract ∈ rejectionContracts)
    (hother : other ∈ rejectionContracts) (heq : contract.scenario = other.scenario) :
    contract = other := by
  rcases mem_rejectionContracts.mp h with rfl | rfl <;>
    rcases mem_rejectionContracts.mp hother with rfl | rfl
  · rfl
  · cases heq
  · cases heq
  · rfl

theorem needles (h : contract ∈ rejectionContracts) :
    Needle contract.own ∧ Needle contract.foreign := by
  rcases mem_rejectionContracts.mp h with rfl | rfl
  · exact ⟨badVersionMarker_searchable.toNeedle, truncatedMarker_searchable.toNeedle⟩
  · exact ⟨truncatedMarker_searchable.toNeedle, badVersionMarker_searchable.toNeedle⟩

/-- The evidence that a rejection leaves. -/
theorem accepted_own (h : contract ∈ rejectionContracts) :
    Accepted (kernelPath contract.own)
      { rejected := true, terminalCode := some contract.code } := by
  rcases mem_rejectionContracts.mp h with rfl | rfl
  · exact .abiVersion
  · exact .contractLength

/-- Only one list of records ends with a contract's code. -/
theorem Accepted.path_of_code {lines : List Bytes} {markers : MarkerEvidence}
    (h : Accepted lines markers) (hcontract : contract ∈ rejectionContracts)
    (hcode : markers.terminalCode = some contract.code) : lines = kernelPath contract.own := by
  rcases mem_rejectionContracts.mp hcontract with rfl | rfl
  · cases h
    case abiVersion => rfl
    all_goals simp [badVersionContract] at hcode
  · cases h
    case contractLength => rfl
    all_goals simp [truncatedContract] at hcode

/-- The two rejection scenarios check the same fields. -/
theorem validateScenarioOutcome_rejection (h : contract ∈ rejectionContracts) (run : BootRun)
    (hscenario : run.scenario = contract.scenario) :
    validateScenarioOutcome run = .ok () ↔
      run.classification = .rejected ∧ run.exitStatus = some rejectExitStatus ∧
      contains run.log contract.own = true ∧ contains run.log contract.foreign = false ∧
      run.sawReadyMarker = false ∧ run.sawPanicMarker = false ∧ run.timeToReadyMarkerMs = none ∧
      run.terminalCode = some contract.code ∧ run.diagnosticProtocolError = none := by
  rw [validateScenarioOutcome, hscenario]
  rcases mem_rejectionContracts.mp h with rfl | rfl
  · simp [badVersionContract, Exec.ensure_eq_ok]
  · simp [truncatedContract, Exec.ensure_eq_ok]

theorem infix_of_mem_records {bytes record : Bytes} (h : record ∈ records bytes) :
    record <:+: bytes := by
  obtain ⟨line, hline, rfl⟩ := List.mem_map.mp (List.mem_filter.mp h).1
  exact (prefix_stripCr line).isInfix.trans (infix_of_mem_cut hline)

theorem mentions_of_mem_records {capture : Capture} {record : Bytes}
    (h : record ∈ capturedRecords capture) : Mentions capture record :=
  ⟨capture.debug, by simp, infix_of_mem_records h⟩

theorem classifyBoot_rejected {timedOut : Bool} {status : Option ℤ} {code : String} :
    classifyBoot timedOut status ⟨{ rejected := true, terminalCode := some code }, none⟩ =
        .rejected ↔
      timedOut = false ∧ status = some rejectExitStatus := by
  cases timedOut <;> simp [classifyBoot]

/-- The report of a complete capture depends on its records, apart from its log. -/
theorem observeBoot_trace (mode : BootMode) (scenario : BootScenario) {markers : MarkerEvidence}
    (hcomplete : Complete o.capture) (haccepted : Accepted (capturedRecords o.capture) markers) :
    observeBoot mode scenario o.execution o.capture =
      { mode
        scenario
        classification := classifyBoot o.execution.timedOut o.execution.exitStatus ⟨markers, none⟩
        exitStatus := o.execution.exitStatus
        timeToReadyMarkerMs := o.execution.timeToReadyMarkerMs
        sawReadyMarker := markers.ready
        sawRejectMarker := markers.rejected
        sawPanicMarker := markers.panic
        terminalCode := markers.terminalCode
        diagnosticProtocolError := none
        log := (observeBoot mode scenario o.execution o.capture).log } := by
  have htrace : parseProtocolStream (readLogBounded o.capture.debug).1
      (readLogBounded o.capture.debug).2 = ⟨markers, none⟩ :=
    parseProtocolStream_eq_ok.mpr ⟨hcomplete.1, hcomplete.2, haccepted⟩
  simp only [observeBoot, htrace]

/-- A rejection scenario accepts its own evidence, unless the log mentions the
other scenario's record. -/
theorem accepts_rejection (h : contract ∈ rejectionContracts) (hcomplete : Complete o.capture) :
    Accepts .scenario contract.scenario o ↔
      Rejects contract o ∧ ¬Mentions o.capture contract.foreign := by
  obtain ⟨hown, hforeign⟩ := needles h
  have hlog : ∀ {text}, Needle text →
      (contains (observeBoot .scenario contract.scenario o.execution o.capture).log text = true ↔
        Mentions o.capture text) := fun htext => contains_collectLogs htext _
  have hvalidate : Accepts .scenario contract.scenario o ↔ _ :=
    validateScenarioOutcome_rejection h _ rfl
  rw [hvalidate, hlog hown, ← Bool.not_eq_true, hlog hforeign]
  constructor
  · rintro ⟨hclass, hstatus, -, hquiet, -, -, hnotReady, hcode, hviolation⟩
    obtain ⟨-, -, markers, haccepted⟩ := parseProtocolStream_violation.mp hviolation
    rw [observeBoot_trace _ _ hcomplete haccepted] at hclass hcode
    have hrecords := haccepted.path_of_code h hcode
    have hown : Accepted (kernelPath contract.own) markers := hrecords ▸ haccepted
    obtain rfl := hown.unique (accepted_own h)
    exact ⟨⟨hstatus, (classifyBoot_rejected.mp hclass).1, hnotReady, hrecords⟩, hquiet⟩
  · rintro ⟨⟨hstatus, htimedOut, hnotReady, hrecords⟩, hquiet⟩
    have haccepted : Accepted (capturedRecords o.capture) _ := hrecords ▸ accepted_own h
    have hmem : contract.own ∈ capturedRecords o.capture :=
      hrecords ▸ List.mem_of_getElem? (i := 3) rfl
    rw [observeBoot_trace _ _ hcomplete haccepted]
    exact ⟨classifyBoot_rejected.mpr ⟨htimedOut, hstatus⟩, hstatus, mentions_of_mem_records hmem,
      hquiet, rfl, rfl, hnotReady, rfl, rfl⟩

section TwoRuns

variable {a b : Observation}

theorem SameEvidence.rejects (h : SameEvidence a b) (hreject : Rejects contract a) :
    Rejects contract b where
  exitStatus := h.exitStatus ▸ hreject.exitStatus
  timedOut := h.timedOut ▸ hreject.timedOut
  notReady := by
    have htime := h.readyTime
    rw [hreject.notReady] at htime
    exact Option.not_isSome_iff_eq_none.mp (Bool.not_eq_true _ ▸ htime.symm)
  records := h.records ▸ hreject.records

theorem SameEvidence.symm (h : SameEvidence a b) : SameEvidence b a :=
  ⟨h.exitStatus.symm, h.timedOut.symm, h.readyTime.symm, h.complete.symm, h.records.symm⟩

theorem SameEvidence.trace (h : SameEvidence a b) :
    parseProtocolStream (readLogBounded a.capture.debug).1 (readLogBounded a.capture.debug).2 =
      parseProtocolStream (readLogBounded b.capture.debug).1 (readLogBounded b.capture.debug).2 := by
  have hrecords := h.records
  rw [capturedRecords, capturedRecords] at hrecords
  rw [parseProtocolStream_eq, parseProtocolStream_eq, h.complete.1.1, h.complete.1.2,
    h.complete.2.1, h.complete.2.2, hrecords]

/-- The other scenarios never look at the log. -/
theorem SameEvidence.accepts_iff {scenario : BootScenario} (h : SameEvidence a b)
    (hscenario : ∀ contract ∈ rejectionContracts, scenario ≠ contract.scenario) :
    Accepts .scenario scenario a ↔ Accepts .scenario scenario b := by
  have htime : a.execution.timeToReadyMarkerMs.isNone = b.execution.timeToReadyMarkerMs.isNone := by
    rw [← Option.not_isSome, ← Option.not_isSome, h.readyTime]
  cases scenario with
  | normal =>
    simp only [Accepts, validateBootOutcome, validateScenarioOutcome, observeBoot, if_true,
      Exec.ensure_eq_ok, h.trace, h.exitStatus, h.timedOut, h.readyTime]
    exact Exec.ensure_eq_ok.symm
  | badVersion => exact absurd rfl (hscenario badVersionContract List.mem_cons_self)
  | truncated =>
    exact absurd rfl (hscenario truncatedContract truncatedContract_mem)
  | panic =>
    simp only [Accepts, validateBootOutcome, validateScenarioOutcome, observeBoot, if_true,
      Exec.ensure_eq_ok, h.trace, h.exitStatus, h.timedOut, htime]
    exact Exec.ensure_eq_ok.symm

/-- Two observations with the same evidence get the same verdict, except where a
rejection scenario has its own evidence and only one of the two logs mentions the
record of the other scenario. -/
theorem verdict_prose_iff (mode : BootMode) (scenario : BootScenario) (h : SameEvidence a b) :
    (Accepts mode scenario a ↔ Accepts mode scenario b) ↔
      ∀ contract ∈ rejectionContracts, mode = .scenario → scenario = contract.scenario →
        Rejects contract a →
        (Mentions a.capture contract.foreign ↔ Mentions b.capture contract.foreign) := by
  cases mode with
  | timeoutProbe =>
    exact iff_of_true (iff_of_false nofun nofun) nofun
  | scenario =>
    by_cases hlog : ∀ contract ∈ rejectionContracts, scenario ≠ contract.scenario
    · exact iff_of_true (h.accepts_iff hlog)
        fun contract hmem _ heq => absurd heq (hlog contract hmem)
    · push Not at hlog
      obtain ⟨contract, hmem, rfl⟩ := hlog
      have hrejects : Rejects contract a ↔ Rejects contract b := ⟨h.rejects, h.symm.rejects⟩
      rw [accepts_rejection hmem h.complete.1, accepts_rejection hmem h.complete.2, ← hrejects]
      constructor
      · intro hverdict other hother _ heq hreject
        obtain rfl := contract_unique hmem hother heq
        have hquiet := (and_congr_right_iff.mp hverdict) hreject
        exact not_iff_not.mp hquiet
      · intro hmentions
        exact and_congr_right fun hreject =>
          not_congr (hmentions contract hmem rfl rfl hreject)

end TwoRuns

/-- The guest rejected a truncated contract; `serial` is the text of the serial log. -/
def truncatedRejected (serial : Bytes) : Observation :=
  ⟨⟨some rejectExitStatus, none, false⟩, ⟨some serial, some sampleStream, none, none⟩⟩

section Sample

variable (serial : Bytes)

theorem sampleStream_recognised :
    ∀ line ∈ kernelPath truncatedMarker, ∃ kind, Recognised line kind := by
  obtain ⟨state, hfollow⟩ := follow_of_accepted Accepted.contractLength
  exact follow_recognised hfollow

theorem sampleStream_records :
    records sampleStream = kernelPath truncatedMarker ∧ tail sampleStream = [] :=
  records_of_interleaved sampleStream_interleaved sampleStream_recognised

theorem readLogBounded_sampleStream : readLogBounded (some sampleStream) = (sampleStream, false) :=
  readLogBounded_of_le (by decide +kernel)

theorem truncatedRejected_complete : Complete (truncatedRejected serial).capture := by
  change (readLogBounded (some sampleStream)).2 = false ∧
    isRecord (tail (readLogBounded (some sampleStream)).1) = false
  rw [readLogBounded_sampleStream, sampleStream_records.2]
  exact ⟨rfl, by decide⟩

theorem truncatedRejected_records :
    capturedRecords (truncatedRejected serial).capture = kernelPath truncatedMarker := by
  change records (readLogBounded (some sampleStream)).1 = _
  rw [readLogBounded_sampleStream]
  exact sampleStream_records.1

theorem truncatedRejected_sameEvidence (serial' : Bytes) :
    SameEvidence (truncatedRejected serial) (truncatedRejected serial') where
  exitStatus := rfl
  timedOut := rfl
  readyTime := rfl
  complete := ⟨truncatedRejected_complete serial, truncatedRejected_complete serial'⟩
  records := (truncatedRejected_records serial).trans (truncatedRejected_records serial').symm

/-- Only the serial log can mention the other scenario's record. -/
theorem mentions_truncatedRejected :
    Mentions (truncatedRejected serial).capture badVersionMarker ↔
      badVersionMarker <:+: (readLogBounded (some serial)).1 := by
  have hneedle := badVersionMarker_searchable
  have hempty : ¬badVersionMarker <:+: (readLogBounded none).1 := fun h =>
    hneedle.nonempty (List.infix_nil.mp h)
  have hself : ∀ marker : Bytes, marker ∈ [marker] := List.mem_singleton_self
  have hstream : ¬badVersionMarker <:+: (readLogBounded (some sampleStream)).1 := by
    rw [readLogBounded_sampleStream]
    exact mt (infix_interleaved sampleStream_interleaved sampleStream_recognised hneedle).mp
      (not_mem_kernelPath .abiVersion .contractLength (hself _) (hself _) (by decide))
  simp [Mentions, truncatedRejected, hempty, hstream]

theorem accepts_truncatedRejected :
    Accepts .scenario .truncated (truncatedRejected serial) ↔
      ¬badVersionMarker <:+: (readLogBounded (some serial)).1 := by
  have hscenario : BootScenario.truncated = truncatedContract.scenario := rfl
  rw [hscenario, accepts_rejection truncatedContract_mem (truncatedRejected_complete serial),
    and_iff_right ⟨rfl, rfl, rfl, truncatedRejected_records serial⟩]
  exact not_congr (mentions_truncatedRejected serial)

end Sample

/-- Two serial logs without the record of the other scenario. -/
theorem verdict_prose_iff_sample :
    SameEvidence (truncatedRejected (ascii "ready")) (truncatedRejected (ascii "hello")) ∧
      (Accepts .scenario .truncated (truncatedRejected (ascii "ready")) ↔
        Accepts .scenario .truncated (truncatedRejected (ascii "hello"))) := by
  have hsame := truncatedRejected_sameEvidence (ascii "ready") (ascii "hello")
  refine ⟨hsame, (verdict_prose_iff .scenario .truncated hsame).mpr ?_⟩
  intro contract hmem _ hscenario _
  obtain rfl : contract = truncatedContract :=
    contract_unique hmem truncatedContract_mem hscenario.symm
  refine iff_of_false ?_ ?_
  · exact mt (mentions_truncatedRejected _).mp (by decide +kernel)
  · exact mt (mentions_truncatedRejected _).mp (by decide +kernel)

/-- The same evidence passes with an empty serial log and fails when the serial
log quotes the record of the other scenario inside a line of prose. -/
theorem quoted_record_changes_verdict :
    SameEvidence (truncatedRejected []) (truncatedRejected (ascii "see " ++ badVersionMarker)) ∧
      Accepts .scenario .truncated (truncatedRejected []) ∧
      ¬Accepts .scenario .truncated (truncatedRejected (ascii "see " ++ badVersionMarker)) := by
  refine ⟨truncatedRejected_sameEvidence _ _, (accepts_truncatedRejected _).mpr ?_,
    fun haccepts => (accepts_truncatedRejected _).mp haccepts ?_⟩
  · decide +kernel
  · rw [readLogBounded_of_le (by decide +kernel)]
    exact (List.suffix_append _ _).isInfix

end PolytopeOS.Host
