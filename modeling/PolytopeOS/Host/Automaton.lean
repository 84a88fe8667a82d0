import PolytopeOS.Host.Protocol

/-!
# The protocol automaton

The abstract protocol is a finite automaton over whole records: which record
lists it admits, with the evidence each one leaves, and the paths that they are
the prefixes of.
-/

namespace PolytopeOS.Host
open Corelib Arch

-- ════════════════════════════════════════════════════════════════════════
-- The automaton
-- ════════════════════════════════════════════════════════════════════════

/-- Every record of the schema with its kind. -/
def catalogue : List (Bytes × RecordKind) :=
  [(loaderStartMarker, .loaderStart), (elfValidMarker, .elfValid),
    (handoffReadyMarker, .handoffReady), (readyMarker, .ready), (badVersionMarker, .abiVersion),
    (truncatedMarker, .contractLength), (contractInvalidMarker, .contractInvalid),
    (panicMarker, .panic)] ++
  sequence2Records.map (·, .loaderFailureSequence2) ++
  sequence3Records.map (·, .loaderFailureSequence3) ++
  sequence4Records.map (·, .loaderFailureSequence4)

/-- The sequence number that a record of this kind carries. -/
def RecordKind.sequence : RecordKind → UInt16
  | .loaderStart => 1
  | .elfValid | .loaderFailureSequence2 => 2
  | .handoffReady | .loaderFailureSequence3 => 3
  | .ready | .abiVersion | .contractLength | .contractInvalid | .loaderFailureSequence4 => 4
  | .panic => 5

/-- The parser recognises a record that is written on one line, at its kind and sequence. -/
structure Recognised (record : Bytes) (kind : RecordKind) : Prop where
  isRecord : isRecord record = true
  short : record.length ≤ maxDiagnosticRecordBytes
  grammar : validRecordGrammar record = true
  sequence : recordSequence record = some kind.sequence
  kind : recordKind record = some kind
  oneLine : 10 ∉ record
  noCr : stripCr record = record

instance (record : Bytes) (kind : RecordKind) : Decidable (Recognised record kind) :=
  decidable_of_iff (Host.isRecord record = true ∧ record.length ≤ maxDiagnosticRecordBytes ∧
      validRecordGrammar record = true ∧ recordSequence record = some kind.sequence ∧
      recordKind record = some kind ∧ 10 ∉ record ∧ stripCr record = record)
    ⟨fun ⟨h₁, h₂, h₃, h₄, h₅, h₆, h₇⟩ => ⟨h₁, h₂, h₃, h₄, h₅, h₆, h₇⟩,
      fun ⟨h₁, h₂, h₃, h₄, h₅, h₆, h₇⟩ => ⟨h₁, h₂, h₃, h₄, h₅, h₆, h₇⟩⟩

theorem recognised_of_mem : ∀ entry ∈ catalogue, Recognised entry.1 entry.2 := by
  decide +kernel

/-- A branch of an if-chain of optional results. -/
theorem ite_some_eq_some {α : Type} {p : Prop} [Decidable p] {a b : α} {x : Option α}
    (h : (if p then some a else x) = some b) : (p ∧ a = b) ∨ x = some b := by
  by_cases hp : p
  · rw [if_pos hp] at h
    exact .inl ⟨hp, Option.some.inj h⟩
  · rw [if_neg hp] at h
    exact .inr h

theorem mem_catalogue_of_failure {record : Bytes} {kind : RecordKind}
    (h : loaderFailureKind record = some kind) : (record, kind) ∈ catalogue := by
  rcases ite_some_eq_some h with ⟨hmem, rfl⟩ | h
  · exact List.mem_append_left _ (List.mem_append_left _
      (List.mem_append_right _ (List.mem_map_of_mem hmem)))
  rcases ite_some_eq_some h with ⟨hmem, rfl⟩ | h
  · exact List.mem_append_left _ (List.mem_append_right _ (List.mem_map_of_mem hmem))
  rcases ite_some_eq_some h with ⟨hmem, rfl⟩ | h
  · exact List.mem_append_right _ (List.mem_map_of_mem hmem)
  · cases h

theorem mem_catalogue_of_recordKind {record : Bytes} {kind : RecordKind}
    (h : recordKind record = some kind) : (record, kind) ∈ catalogue := by
  rcases ite_some_eq_some h with ⟨rfl, rfl⟩ | h
  · exact List.mem_of_getElem? (i := 0) rfl
  rcases ite_some_eq_some h with ⟨rfl, rfl⟩ | h
  · exact List.mem_of_getElem? (i := 1) rfl
  rcases ite_some_eq_some h with ⟨rfl, rfl⟩ | h
  · exact List.mem_of_getElem? (i := 2) rfl
  rcases ite_some_eq_some h with ⟨rfl, rfl⟩ | h
  · exact List.mem_of_getElem? (i := 3) rfl
  rcases ite_some_eq_some h with ⟨rfl, rfl⟩ | h
  · exact List.mem_of_getElem? (i := 4) rfl
  rcases ite_some_eq_some h with ⟨rfl, rfl⟩ | h
  · exact List.mem_of_getElem? (i := 5) rfl
  rcases ite_some_eq_some h with ⟨rfl, rfl⟩ | h
  · exact List.mem_of_getElem? (i := 6) rfl
  rcases ite_some_eq_some h with ⟨rfl, rfl⟩ | h
  · exact List.mem_of_getElem? (i := 7) rfl
  · exact mem_catalogue_of_failure h

/-- One step of the protocol automaton, which also collects the evidence. -/
def advance (position : TraceState × MarkerEvidence) (record : Bytes) :
    Option (TraceState × MarkerEvidence) :=
  (recordKind record).bind (transition position.2 position.1)

def follow (position : TraceState × MarkerEvidence) :
    List Bytes → Option (TraceState × MarkerEvidence)
  | [] => some position
  | record :: rest => (advance position record).bind (follow · rest)

/-- The records of each kind. -/
def RecordKind.texts : RecordKind → List Bytes
  | .loaderStart => [loaderStartMarker]
  | .elfValid => [elfValidMarker]
  | .handoffReady => [handoffReadyMarker]
  | .ready => [readyMarker]
  | .abiVersion => [badVersionMarker]
  | .contractLength => [truncatedMarker]
  | .contractInvalid => [contractInvalidMarker]
  | .panic => [panicMarker]
  | .loaderFailureSequence2 => sequence2Records
  | .loaderFailureSequence3 => sequence3Records
  | .loaderFailureSequence4 => sequence4Records

theorem mem_catalogue_iff {record : Bytes} {kind : RecordKind} :
    (record, kind) ∈ catalogue ↔ record ∈ kind.texts := by
  simp only [catalogue, List.mem_append, List.mem_cons, List.mem_map, Prod.mk.injEq,
    List.not_mem_nil, or_false]
  cases kind <;> simp only [RecordKind.texts, reduceCtorEq, and_false, and_true, or_false, false_or,
    exists_false, exists_eq_right, List.mem_singleton]

theorem recordKind_eq_some {record : Bytes} {kind : RecordKind} :
    recordKind record = some kind ↔ record ∈ kind.texts :=
  ⟨fun h => mem_catalogue_iff.mp (mem_catalogue_of_recordKind h),
    fun h => (recognised_of_mem _ (mem_catalogue_iff.mpr h)).kind⟩

theorem advance_eq_some {position next : TraceState × MarkerEvidence} {record : Bytes} :
    advance position record = some next ↔
      ∃ kind : RecordKind, record ∈ kind.texts ∧
        transition position.2 position.1 kind = some next := by
  simp only [advance, Option.bind_eq_some_iff, recordKind_eq_some]

theorem follow_cons {state : TraceState} {markers : MarkerEvidence}
    {next : TraceState × MarkerEvidence} {record : Bytes} (kind : RecordKind)
    (hrecord : record ∈ kind.texts) (h : transition markers state kind = some next)
    (rest : List Bytes) : follow (state, markers) (record :: rest) = follow next rest := by
  rw [follow, advance_eq_some.mpr ⟨kind, hrecord, h⟩, Option.bind_some]

-- ════════════════════════════════════════════════════════════════════════
-- Accepted record lists
-- ════════════════════════════════════════════════════════════════════════

/-- The record lists without a violation, each with its evidence. -/
inductive Accepted : List Bytes → MarkerEvidence → Prop where
  | silent : Accepted [] {}
  | started : Accepted [loaderStartMarker] {}
  | loaderFailed {failure : Bytes} (h : failure ∈ sequence2Records) :
    Accepted [loaderStartMarker, failure] {}
  | validated : Accepted [loaderStartMarker, elfValidMarker] {}
  | buildFailed {failure : Bytes} (h : failure ∈ sequence3Records) :
    Accepted [loaderStartMarker, elfValidMarker, failure] {}
  | handedOff : Accepted [loaderStartMarker, elfValidMarker, handoffReadyMarker] {}
  | transferFailed {failure : Bytes} (h : failure ∈ sequence4Records) :
    Accepted [loaderStartMarker, elfValidMarker, handoffReadyMarker, failure] {}
  | ready : Accepted [loaderStartMarker, elfValidMarker, handoffReadyMarker, readyMarker]
    { ready := true, terminalCode := some "KERNEL_READY" }
  | abiVersion : Accepted [loaderStartMarker, elfValidMarker, handoffReadyMarker, badVersionMarker]
    { rejected := true, terminalCode := some "ABI_VERSION" }
  | contractLength :
    Accepted [loaderStartMarker, elfValidMarker, handoffReadyMarker, truncatedMarker]
      { rejected := true, terminalCode := some "CONTRACT_LENGTH" }
  | contractInvalid :
    Accepted [loaderStartMarker, elfValidMarker, handoffReadyMarker, contractInvalidMarker]
      { rejected := true, terminalCode := some "CONTRACT_INVALID" }
  | panic : Accepted [loaderStartMarker, elfValidMarker, handoffReadyMarker, panicMarker]
    { panic := true, terminalCode := some "KERNEL_PANIC" }

theorem follow_started (markers : MarkerEvidence) (rest : List Bytes) :
    follow (.start, markers) (loaderStartMarker :: rest) = follow (.loaderStarted, markers) rest :=
  follow_cons .loaderStart (List.mem_singleton_self _) rfl rest

theorem follow_validated (markers : MarkerEvidence) (rest : List Bytes) :
    follow (.start, markers) (loaderStartMarker :: elfValidMarker :: rest) =
      follow (.elfValidated, markers) rest :=
  (follow_started _ _).trans (follow_cons .elfValid (List.mem_singleton_self _) rfl rest)

theorem follow_handedOff (markers : MarkerEvidence) (rest : List Bytes) :
    follow (.start, markers) (loaderStartMarker :: elfValidMarker :: handoffReadyMarker :: rest) =
      follow (.handoffReady, markers) rest :=
  (follow_validated _ _).trans (follow_cons .handoffReady (List.mem_singleton_self _) rfl rest)

theorem follow_of_accepted {records : List Bytes} {markers : MarkerEvidence}
    (h : Accepted records markers) :
    ∃ state, follow (.start, {}) records = some (state, markers) := by
  cases h with
  | silent => exact ⟨_, rfl⟩
  | started => exact ⟨_, follow_started _ _⟩
  | loaderFailed h =>
    exact ⟨_, (follow_started _ _).trans (follow_cons .loaderFailureSequence2 h rfl _)⟩
  | validated => exact ⟨_, follow_validated _ _⟩
  | buildFailed h =>
    exact ⟨_, (follow_validated _ _).trans (follow_cons .loaderFailureSequence3 h rfl _)⟩
  | handedOff => exact ⟨_, follow_handedOff _ _⟩
  | transferFailed h =>
    exact ⟨_, (follow_handedOff _ _).trans (follow_cons .loaderFailureSequence4 h rfl _)⟩
  | ready =>
    exact ⟨_, (follow_handedOff _ _).trans (follow_cons .ready (List.mem_singleton_self _) rfl _)⟩
  | abiVersion =>
    exact ⟨_, (follow_handedOff _ _).trans
      (follow_cons .abiVersion (List.mem_singleton_self _) rfl _)⟩
  | contractLength =>
    exact ⟨_, (follow_handedOff _ _).trans
      (follow_cons .contractLength (List.mem_singleton_self _) rfl _)⟩
  | contractInvalid =>
    exact ⟨_, (follow_handedOff _ _).trans
      (follow_cons .contractInvalid (List.mem_singleton_self _) rfl _)⟩
  | panic =>
    exact ⟨_, (follow_handedOff _ _).trans (follow_cons .panic (List.mem_singleton_self _) rfl _)⟩

theorem follow_terminal {markers : MarkerEvidence} {records : List Bytes}
    {out : TraceState × MarkerEvidence} (h : follow (.terminal, markers) records = some out) :
    records = [] ∧ out = (.terminal, markers) := by
  cases records with
  | nil => exact ⟨rfl, (Option.some.inj h).symm⟩
  | cons record rest =>
    obtain ⟨next, hadvance, _⟩ := Option.bind_eq_some_iff.mp h
    obtain ⟨kind, _, htransition⟩ := advance_eq_some.mp hadvance
    cases kind <;> cases htransition

theorem follow_eq_some_cons {position out : TraceState × MarkerEvidence} {record : Bytes}
    {rest : List Bytes} (h : follow position (record :: rest) = some out) :
    ∃ (kind : RecordKind) (next : TraceState × MarkerEvidence), record ∈ kind.texts ∧
      transition position.2 position.1 kind = some next ∧ follow next rest = some out := by
  obtain ⟨next, hadvance, hrest⟩ := Option.bind_eq_some_iff.mp h
  obtain ⟨kind, hrecord, htransition⟩ := advance_eq_some.mp hadvance
  exact ⟨kind, next, hrecord, htransition, hrest⟩

-- From each state, the records that may still come complete an accepted list.
theorem accepted_from_handoffReady {records : List Bytes} {state : TraceState}
    {markers : MarkerEvidence} (h : follow (.handoffReady, {}) records = some (state, markers)) :
    Accepted (loaderStartMarker :: elfValidMarker :: handoffReadyMarker :: records) markers := by
  cases records with
  | nil =>
    cases h
    exact .handedOff
  | cons record rest =>
    obtain ⟨kind, next, hrecord, htransition, hrest⟩ := follow_eq_some_cons h
    cases kind <;> cases htransition <;> obtain ⟨rfl, hout⟩ := follow_terminal hrest <;> cases hout
    case cons.ready.refl.refl => exact List.mem_singleton.mp hrecord ▸ .ready
    case cons.abiVersion.refl.refl => exact List.mem_singleton.mp hrecord ▸ .abiVersion
    case cons.contractLength.refl.refl => exact List.mem_singleton.mp hrecord ▸ .contractLength
    case cons.contractInvalid.refl.refl => exact List.mem_singleton.mp hrecord ▸ .contractInvalid
    case cons.panic.refl.refl => exact List.mem_singleton.mp hrecord ▸ .panic
    case cons.loaderFailureSequence4.refl.refl => exact .transferFailed hrecord

theorem accepted_from_elfValidated {records : List Bytes} {state : TraceState}
    {markers : MarkerEvidence} (h : follow (.elfValidated, {}) records = some (state, markers)) :
    Accepted (loaderStartMarker :: elfValidMarker :: records) markers := by
  cases records with
  | nil =>
    cases h
    exact .validated
  | cons record rest =>
    obtain ⟨kind, next, hrecord, htransition, hrest⟩ := follow_eq_some_cons h
    cases kind <;> cases htransition
    case cons.handoffReady.refl =>
      rw [List.mem_singleton.mp hrecord]
      exact accepted_from_handoffReady hrest
    case cons.loaderFailureSequence3.refl =>
      obtain ⟨rfl, hout⟩ := follow_terminal hrest
      cases hout
      exact .buildFailed hrecord

theorem accepted_from_loaderStarted {records : List Bytes} {state : TraceState}
    {markers : MarkerEvidence} (h : follow (.loaderStarted, {}) records = some (state, markers)) :
    Accepted (loaderStartMarker :: records) markers := by
  cases records with
  | nil =>
    cases h
    exact .started
  | cons record rest =>
    obtain ⟨kind, next, hrecord, htransition, hrest⟩ := follow_eq_some_cons h
    cases kind <;> cases htransition
    case cons.elfValid.refl =>
      rw [List.mem_singleton.mp hrecord]
      exact accepted_from_elfValidated hrest
    case cons.loaderFailureSequence2.refl =>
      obtain ⟨rfl, hout⟩ := follow_terminal hrest
      cases hout
      exact .loaderFailed hrecord

theorem accepted_of_follow {records : List Bytes} {state : TraceState} {markers : MarkerEvidence}
    (h : follow (.start, {}) records = some (state, markers)) : Accepted records markers := by
  cases records with
  | nil =>
    cases h
    exact .silent
  | cons record rest =>
    obtain ⟨kind, next, hrecord, htransition, hrest⟩ := follow_eq_some_cons h
    cases kind <;> cases htransition
    rw [List.mem_singleton.mp hrecord]
    exact accepted_from_loaderStarted hrest

/-- The ready evidence is set by the ready record, and stays set. -/
theorem transition_ready {markers : MarkerEvidence} {state : TraceState} {kind : RecordKind}
    {next : TraceState × MarkerEvidence} (h : transition markers state kind = some next)
    (hready : markers.ready = true ∨ kind = .ready) : next.2.ready = true := by
  cases state <;> cases kind <;> simp only [transition, reduceCtorEq, Option.some.injEq] at h <;>
    subst h <;> first | rfl | exact hready.resolve_right nofun

theorem follow_ready {lines : List Bytes} {position out : TraceState × MarkerEvidence}
    (h : follow position lines = some out)
    (hready : position.2.ready = true ∨ readyMarker ∈ lines) : out.2.ready = true := by
  induction lines generalizing position with
  | nil =>
    cases h
    exact hready.resolve_right List.not_mem_nil
  | cons line rest ih =>
    obtain ⟨kind, next, hline, htransition, hrest⟩ := follow_eq_some_cons h
    rcases hready with hready | hmem
    · exact ih hrest (.inl (transition_ready htransition (.inl hready)))
    · rcases List.mem_cons.mp hmem with rfl | hmem
      · have hready : recordKind readyMarker = some .ready :=
          recordKind_eq_some.mpr (List.mem_singleton_self _)
        have hkind : kind = .ready :=
          Option.some.inj ((recordKind_eq_some.mpr hline).symm.trans hready)
        exact ih hrest (.inl (transition_ready htransition (.inr hkind)))
      · exact ih hrest (.inr hmem)

theorem Accepted.ready_of_mem {lines : List Bytes} {markers : MarkerEvidence}
    (h : Accepted lines markers) (hmem : readyMarker ∈ lines) : markers.ready = true := by
  obtain ⟨state, hfollow⟩ := follow_of_accepted h
  exact follow_ready hfollow (.inr hmem)

theorem Accepted.unique {records : List Bytes} {markers markers' : MarkerEvidence}
    (h : Accepted records markers) (h' : Accepted records markers') : markers = markers' := by
  obtain ⟨state, hfollow⟩ := follow_of_accepted h
  obtain ⟨state', hfollow'⟩ := follow_of_accepted h'
  exact congrArg Prod.snd (Option.some.inj (hfollow.symm.trans hfollow'))

-- ════════════════════════════════════════════════════════════════════════
-- Paths
-- ════════════════════════════════════════════════════════════════════════

def kernelMarkers : List Bytes :=
  [readyMarker, badVersionMarker, truncatedMarker, contractInvalidMarker, panicMarker]

/-- The complete paths through the protocol. -/
def paths : List (List Bytes) :=
  (sequence2Records.map fun failure => [loaderStartMarker, failure]) ++
  (sequence3Records.map fun failure => [loaderStartMarker, elfValidMarker, failure]) ++
  (sequence4Records ++ kernelMarkers).map fun last =>
    [loaderStartMarker, elfValidMarker, handoffReadyMarker, last]

theorem mem_paths {path : List Bytes} :
    path ∈ paths ↔
      (∃ failure ∈ sequence2Records, [loaderStartMarker, failure] = path) ∨
      (∃ failure ∈ sequence3Records, [loaderStartMarker, elfValidMarker, failure] = path) ∨
      ∃ last ∈ sequence4Records ++ kernelMarkers,
        [loaderStartMarker, elfValidMarker, handoffReadyMarker, last] = path := by
  rw [paths, List.mem_append, List.mem_append, List.mem_map, List.mem_map, List.mem_map, or_assoc]

theorem accepted_last {last : Bytes} (h : last ∈ sequence4Records ++ kernelMarkers) :
    ∃ markers, Accepted [loaderStartMarker, elfValidMarker, handoffReadyMarker, last] markers := by
  rcases List.mem_append.mp h with hfailure | hkernel
  · exact ⟨_, .transferFailed hfailure⟩
  · simp only [kernelMarkers, List.mem_cons, List.not_mem_nil, or_false] at hkernel
    rcases hkernel with rfl | rfl | rfl | rfl | rfl
    · exact ⟨_, .ready⟩
    · exact ⟨_, .abiVersion⟩
    · exact ⟨_, .contractLength⟩
    · exact ⟨_, .contractInvalid⟩
    · exact ⟨_, .panic⟩

theorem Accepted.on_path {records : List Bytes} {markers : MarkerEvidence}
    (h : Accepted records markers) : ∃ path ∈ paths, records <+: path := by
  have hkernel : ∀ {last}, last ∈ kernelMarkers →
      [loaderStartMarker, elfValidMarker, handoffReadyMarker, last] ∈ paths := fun hlast =>
    mem_paths.mpr (.inr (.inr ⟨_, List.mem_append_right _ hlast, rfl⟩))
  have hready := hkernel (List.mem_of_getElem? (i := 0) rfl : readyMarker ∈ kernelMarkers)
  cases h with
  | silent => exact ⟨_, hready, List.nil_prefix⟩
  | started => exact ⟨_, hready, _, rfl⟩
  | loaderFailed h => exact ⟨_, mem_paths.mpr (.inl ⟨_, h, rfl⟩), List.prefix_rfl⟩
  | validated => exact ⟨_, hready, _, rfl⟩
  | buildFailed h => exact ⟨_, mem_paths.mpr (.inr (.inl ⟨_, h, rfl⟩)), List.prefix_rfl⟩
  | handedOff => exact ⟨_, hready, _, rfl⟩
  | transferFailed h =>
    exact ⟨_, mem_paths.mpr (.inr (.inr ⟨_, List.mem_append_left _ h, rfl⟩)), List.prefix_rfl⟩
  | ready => exact ⟨_, hready, List.prefix_rfl⟩
  | abiVersion => exact ⟨_, hkernel (List.mem_of_getElem? (i := 1) rfl), List.prefix_rfl⟩
  | contractLength => exact ⟨_, hkernel (List.mem_of_getElem? (i := 2) rfl), List.prefix_rfl⟩
  | contractInvalid => exact ⟨_, hkernel (List.mem_of_getElem? (i := 3) rfl), List.prefix_rfl⟩
  | panic => exact ⟨_, hkernel (List.mem_of_getElem? (i := 4) rfl), List.prefix_rfl⟩

theorem follow_append (position : TraceState × MarkerEvidence) (xs ys : List Bytes) :
    follow position (xs ++ ys) = (follow position xs).bind (follow · ys) := by
  induction xs generalizing position with
  | nil => rfl
  | cons record rest ih =>
    rw [List.cons_append, follow, follow, Option.bind_assoc]
    exact Option.bind_congr fun next _ => ih next

/-- A prefix of an accepted list is accepted. -/
theorem Accepted.of_append {xs ys : List Bytes} {markers : MarkerEvidence}
    (h : Accepted (xs ++ ys) markers) : ∃ markers', Accepted xs markers' := by
  obtain ⟨state, hfollow⟩ := follow_of_accepted h
  rw [follow_append] at hfollow
  obtain ⟨⟨state', markers'⟩, hxs, _⟩ := Option.bind_eq_some_iff.mp hfollow
  exact ⟨markers', accepted_of_follow hxs⟩

theorem accepted_of_mem_paths {path : List Bytes} (h : path ∈ paths) :
    ∃ markers, Accepted path markers := by
  rcases mem_paths.mp h with ⟨failure, hmem, rfl⟩ | ⟨failure, hmem, rfl⟩ | ⟨last, hmem, rfl⟩
  · exact ⟨_, .loaderFailed hmem⟩
  · exact ⟨_, .buildFailed hmem⟩
  · exact accepted_last hmem

theorem exists_accepted_iff {records : List Bytes} :
    (∃ markers, Accepted records markers) ↔ ∃ path ∈ paths, records <+: path := by
  constructor
  · exact fun ⟨_, h⟩ => h.on_path
  · intro ⟨path, hpath, rest, happend⟩
    obtain ⟨markers, haccepted⟩ := accepted_of_mem_paths hpath
    rw [← happend] at haccepted
    exact haccepted.of_append

end PolytopeOS.Host
