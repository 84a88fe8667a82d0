import PolytopeOS.Corelib.Occurrences
import PolytopeOS.Corelib.Word
import PolytopeOS.Host.BuildPaths

/-!
# The path-privacy scan

A built artifact must not hold a host path. The scan is a plain search for the
sources of the contract's remaps; it then counts the destinations.
-/

namespace PolytopeOS.Host
open Corelib

structure PathPrivacyEvidence where
  hostPatternsScanned : UInt32
  unremappedMatches : UInt32
  workspaceDestinationOccurrences : ℕ
  cargoHomeDestinationOccurrences : ℕ
  userHomeDestinationOccurrences : ℕ
  targetDestinationOccurrences : ℕ
  deriving DecidableEq, Repr

def firstSubslice (bytes pattern : Bytes) : Option ℕ :=
  if pattern = [] ∨ bytes.length < pattern.length then none
  else (windows pattern.length bytes).findIdx? (· == pattern)

def countSubslices (bytes pattern : Bytes) : ℕ :=
  if pattern = [] ∨ bytes.length < pattern.length then 0
  else ((windows pattern.length bytes).filter (· == pattern)).foldl
    (fun count _ => saturatingAdd count 1) 0

/-- The search for one remap's source. -/
def checkUnremapped (stage : String) (bytes : Bytes) (remap : PathRemap) : Exec String Unit := do
  let pattern ← Exec.okOr (fromUtf8 remap.source)
    "validated remap source unexpectedly became non-UTF-8"
  match firstSubslice bytes (utf8 pattern) with
  | some offset => .err ("path-privacy failure in " ++ stage ++ ": unremapped " ++
      remap.kind.description ++ " path starts at byte " ++ toString offset)
  | none => .ok ()

def verifyPathPrivacy (stage : String) (bytes : Bytes) (contract : BuildPathContract) :
    Exec String PathPrivacyEvidence := do
  Exec.foldIdx (fun _ _ remap => checkUnremapped stage bytes remap) 0 () contract.remaps
  let scanned ← Exec.okOr (checkedU32 contract.remaps.length)
    "path-pattern count does not fit u32"
  return {
    hostPatternsScanned := scanned
    unremappedMatches := 0
    workspaceDestinationOccurrences := countSubslices bytes (utf8 workspaceRemapDestination)
    cargoHomeDestinationOccurrences := countSubslices bytes (utf8 cargoHomeRemapDestination)
    userHomeDestinationOccurrences := countSubslices bytes (utf8 userHomeRemapDestination)
    targetDestinationOccurrences := countSubslices bytes (utf8 targetRemapDestination) }

/-- The occurrences that the evidence reports for a kind of path. -/
def PathPrivacyEvidence.occurrences (evidence : PathPrivacyEvidence) : PathKind → ℕ
  | .target => evidence.targetDestinationOccurrences
  | .workspace => evidence.workspaceDestinationOccurrences
  | .cargoHome => evidence.cargoHomeDestinationOccurrences
  | .userHome => evidence.userHomeDestinationOccurrences

/-- The destinations of a sequence of kinds, each apart from the next by a NUL:
what a build writes whose paths were all replaced. -/
def normalisedPaths (sequence : List PathKind) : Bytes :=
  [0].intercalate (sequence.map fun kind => utf8 kind.destination)

/-- An absolute path other than the root, without NUL bytes. -/
structure HostPath (path : Bytes) : Prop where
  absolute : path.head? = some slash
  not_root : components path ≠ [.rootDir]
  no_nul : (0 : UInt8) ∉ path

instance (path : Bytes) : Decidable (HostPath path) :=
  decidable_of_iff (path.head? = some slash ∧ components path ≠ [.rootDir] ∧ 0 ∉ path)
    ⟨fun ⟨absolute, not_root, no_nul⟩ => ⟨absolute, not_root, no_nul⟩,
      fun ⟨absolute, not_root, no_nul⟩ => ⟨absolute, not_root, no_nul⟩⟩

theorem HostPath.ne_nil {path : Bytes} (h : HostPath path) : path ≠ [] := by
  rintro rfl
  exact absurd h.absolute nofun

theorem firstSubslice_eq_none {bytes pattern : Bytes} (hne : pattern ≠ []) :
    firstSubslice bytes pattern = none ↔ ¬pattern <:+: bytes := by
  rw [← occurrences_eq_zero hne, ← count_windows hne, List.count_eq_zero, firstSubslice]
  by_cases hlength : bytes.length < pattern.length
  · rw [if_pos (Or.inr hlength), windows_of_lt hlength]
    simp
  · rw [if_neg (not_or.mpr ⟨hne, hlength⟩), List.findIdx?_eq_none_iff]
    simp only [beq_eq_false_iff_ne]
    exact ⟨fun h hmem => h pattern hmem rfl, fun h window hmem heq => h (heq ▸ hmem)⟩

/-- The count does not saturate: there are fewer windows than bytes. -/
theorem foldl_saturatingAdd {α : Type} (xs : List α) {n : ℕ} (h : n + xs.length < 2 ^ 64) :
    xs.foldl (fun count _ => saturatingAdd count 1) n = n + xs.length := by
  induction xs generalizing n with
  | nil => rfl
  | cons x xs ih =>
    rw [List.length_cons] at h
    rw [List.foldl_cons, saturatingAdd_of_lt (by omega), ih (by omega), List.length_cons]
    omega

theorem countSubslices_eq {bytes pattern : Bytes} (hne : pattern ≠ [])
    (h : bytes.length < 2 ^ 64) : countSubslices bytes pattern = occurrences pattern bytes := by
  rw [← count_windows hne, countSubslices]
  by_cases hlength : bytes.length < pattern.length
  · rw [if_pos (Or.inr hlength), windows_of_lt hlength, List.count_nil]
  · have hpos := List.length_pos_iff.mpr hne
    have hcount : ((windows pattern.length bytes).filter (· == pattern)).length < 2 ^ 64 := by
      refine lt_of_le_of_lt (List.length_filter_le _ _) ?_
      rw [windows, List.length_map, List.length_range]
      omega
    rw [if_neg (not_or.mpr ⟨hne, hlength⟩), foldl_saturatingAdd _ (by omega), Nat.zero_add,
      List.count_eq_length_filter]

/-- No destination is part of another, and none occurs twice in itself. -/
theorem occurrences_destination (kind other : PathKind) :
    occurrences (utf8 kind.destination) (utf8 other.destination) =
      if other = kind then 1 else 0 := by
  cases kind <;> cases other <;> decide

theorem destination_ne_nil (kind : PathKind) : utf8 kind.destination ≠ [] := by
  cases kind <;> decide

theorem nul_not_mem_destination (kind : PathKind) : (0 : UInt8) ∉ utf8 kind.destination := by
  cases kind <;> decide

theorem occurrences_normalisedPaths (kind : PathKind) (sequence : List PathKind) :
    occurrences (utf8 kind.destination) (normalisedPaths sequence) = sequence.count kind := by
  rw [normalisedPaths, occurrences_intercalate (destination_ne_nil kind)
    (nul_not_mem_destination kind), List.map_map]
  induction sequence with
  | nil => rfl
  | cons other sequence ih =>
    rw [List.map_cons, List.sum_cons, ih, Function.comp_apply, occurrences_destination,
      List.count_cons, Nat.add_comm]
    simp only [beq_iff_eq]

theorem infix_normalisedPaths {path : Bytes} (h : HostPath path) (sequence : List PathKind) :
    ¬path <:+: normalisedPaths sequence ↔
      ∀ kind ∈ sequence, ¬path <:+: utf8 kind.destination := by
  rw [← occurrences_eq_zero h.ne_nil, normalisedPaths,
    occurrences_intercalate h.ne_nil h.no_nul, List.sum_eq_zero_iff_forall_eq_nat]
  simp only [List.forall_mem_map, occurrences_eq_zero h.ne_nil]

theorem checkUnremapped_eq_ok {stage : String} {bytes : Bytes} {remap : PathRemap}
    (hencodable : Encodable remap.source) (hne : remap.source ≠ []) :
    checkUnremapped stage bytes remap = .ok () ↔ ¬remap.source <:+: bytes := by
  obtain ⟨text, htext, _⟩ := hencodable
  rw [checkUnremapped, htext, Exec.okOr_some, Exec.ok_bind, ← fromUtf8_eq_some.mp htext,
    ← firstSubslice_eq_none hne]
  cases firstSubslice bytes remap.source <;> simp

theorem forall_checkUnremapped_iff {stage : String} {remaps : List PathRemap}
    (hencodable : ∀ remap ∈ remaps, Encodable remap.source)
    (hpaths : ∀ remap ∈ remaps, HostPath remap.source) (sequence : List PathKind) :
    (∀ remap ∈ remaps, checkUnremapped stage (normalisedPaths sequence) remap = .ok ()) ↔
      ∀ remap ∈ remaps, ∀ kind ∈ sequence, ¬remap.source <:+: utf8 kind.destination := by
  refine forall₂_congr fun remap hremap => ?_
  rw [checkUnremapped_eq_ok (hencodable remap hremap) (hpaths remap hremap).ne_nil,
    infix_normalisedPaths (hpaths remap hremap)]

theorem scan_of_verified {stage : String} {bytes : Bytes} {contract : BuildPathContract}
    {evidence : PathPrivacyEvidence} (h : verifyPathPrivacy stage bytes contract = .ok evidence) :
    ∀ remap ∈ contract.remaps, checkUnremapped stage bytes remap = .ok () := by
  obtain ⟨_, hscan, _⟩ := Exec.bind_eq_ok.mp h
  exact Exec.foldIdx_check_eq_ok.mp hscan

/-- A scan that finds no source reports the counts of the destinations. -/
theorem verified_of_scan {stage : String} {bytes : Bytes} {contract : BuildPathContract}
    {scanned : UInt32} (hscanned : checkedU32 contract.remaps.length = some scanned)
    (hscan : ∀ remap ∈ contract.remaps, checkUnremapped stage bytes remap = .ok ()) :
    ∃ evidence, verifyPathPrivacy stage bytes contract = .ok evidence ∧
      evidence.unremappedMatches = 0 ∧
      ∀ kind, evidence.occurrences kind = countSubslices bytes (utf8 kind.destination) := by
  have hrun : verifyPathPrivacy stage bytes contract =
      .ok ⟨scanned, 0, countSubslices bytes (utf8 workspaceRemapDestination),
        countSubslices bytes (utf8 cargoHomeRemapDestination),
        countSubslices bytes (utf8 userHomeRemapDestination),
        countSubslices bytes (utf8 targetRemapDestination)⟩ := by
    rw [verifyPathPrivacy, Exec.foldIdx_check_eq_ok.mpr hscan, Exec.ok_bind, hscanned]
    rfl
  refine ⟨_, hrun, rfl, fun kind => ?_⟩
  cases kind <;> rfl

/-- The scan passes the normalised paths of a sequence, with the exact counts,
unless a source is part of a destination that stands in the sequence. -/
theorem privacyScan_passes_iff (stage : String) (workspace targetDirectory : Bytes)
    (hostPaths : HostPaths) (contract : BuildPathContract) (sequence : List PathKind)
    (hpaths : ∀ path ∈ [targetDirectory, workspace, hostPaths.cargoHome, hostPaths.userHome],
      HostPath path)
    (hnew : BuildPathContract.new workspace targetDirectory hostPaths = .ok contract)
    (hlength : (normalisedPaths sequence).length < 2 ^ 64) :
    (∃ evidence, verifyPathPrivacy stage (normalisedPaths sequence) contract = .ok evidence ∧
      evidence.unremappedMatches = 0 ∧
      ∀ kind, evidence.occurrences kind = sequence.count kind) ↔
    ∀ path ∈ [targetDirectory, workspace, hostPaths.cargoHome, hostPaths.userHome],
      ∀ kind ∈ sequence, ¬path <:+: utf8 kind.destination := by
  obtain ⟨hcontract, hencodable, _⟩ := BuildPathContract.new_eq_ok.mp hnew
  have hsources : contract.remaps.map PathRemap.source =
      [targetDirectory, workspace, hostPaths.cargoHome, hostPaths.userHome] := by
    rw [hcontract]
    rfl
  rw [← hsources, List.forall_mem_map] at hpaths
  rw [← hsources, List.forall_mem_map]
  rw [← forall_checkUnremapped_iff hencodable hpaths]
  constructor
  · rintro ⟨evidence, hverified, _⟩
    exact scan_of_verified hverified
  · intro hscan
    have hscanned : checkedU32 contract.remaps.length = some 4 := by
      rw [hcontract]
      rfl
    obtain ⟨evidence, hverified, hmatches, hcounts⟩ := verified_of_scan hscanned hscan
    refine ⟨evidence, hverified, hmatches, fun kind => ?_⟩
    rw [hcounts, countSubslices_eq (destination_ne_nil kind) hlength, occurrences_normalisedPaths]

theorem hostPath_sample {workspace target : List Char} (hworkspace : HostPath (utf8 workspace))
    (htarget : HostPath (utf8 target)) :
    ∀ path ∈ [utf8 target, utf8 workspace, sampleHostPaths.cargoHome, sampleHostPaths.userHome],
      HostPath path := by
  simp only [List.forall_mem_cons, List.not_mem_nil, false_imp_iff, implies_true, and_true]
  exact ⟨htarget, hworkspace, by decide, by decide⟩

theorem privacyScan_passes_iff_sample :
    ∃ evidence, verifyPathPrivacy "kernel" (normalisedPaths [.target, .workspace, .target])
        (sampleContract sampleWorkspace "/tmp/a".toList) = .ok evidence ∧
      evidence.unremappedMatches = 0 ∧
      ∀ kind, evidence.occurrences kind = [PathKind.target, .workspace, .target].count kind :=
  (privacyScan_passes_iff "kernel" _ _ _ _ _
    (hostPath_sample (by decide) (by decide))
    (new_sampleContract sampleWorkspace "/tmp/a".toList (by decide) (by decide) (by decide))
    (by decide)).mpr (by decide)

/-- In a container with the workspace at `/workspace` the contract is accepted
and the scan rejects the workspace's own destination. -/
theorem workspace_in_destination_fails_scan :
    (∀ path ∈ [utf8 "/tmp/a".toList, utf8 "/workspace".toList, sampleHostPaths.cargoHome,
      sampleHostPaths.userHome], HostPath path) ∧
    BuildPathContract.new (utf8 "/workspace".toList) (utf8 "/tmp/a".toList) sampleHostPaths =
      .ok (sampleContract "/workspace".toList "/tmp/a".toList) ∧
    verifyPathPrivacy "kernel" (normalisedPaths [.workspace])
        (sampleContract "/workspace".toList "/tmp/a".toList) =
      .err "path-privacy failure in kernel: unremapped workspace path starts at byte 0" := by
  refine ⟨hostPath_sample (by decide) (by decide),
    new_sampleContract _ _ (by decide) (by decide) (by decide), ?_⟩
  have htarget : checkUnremapped "kernel" (normalisedPaths [.workspace])
      ⟨.target, utf8 "/tmp/a".toList, targetRemapDestination⟩ = .ok () :=
    (checkUnremapped_eq_ok (encodable_utf8 (by decide)) (by decide)).mpr (by decide)
  have hworkspace : checkUnremapped "kernel" (normalisedPaths [.workspace])
      ⟨.workspace, utf8 "/workspace".toList, workspaceRemapDestination⟩ =
        .err "path-privacy failure in kernel: unremapped workspace path starts at byte 0" := by
    have hfirst : firstSubslice (normalisedPaths [.workspace]) (utf8 "/workspace".toList) =
        some 0 := by decide
    rw [checkUnremapped, fromUtf8_utf8, Exec.okOr_some, Exec.ok_bind, hfirst]
    rfl
  rw [verifyPathPrivacy, sampleContract, BuildPathContract.of, Exec.foldIdx_cons, htarget,
    Exec.ok_bind, Exec.foldIdx_cons, hworkspace]
  rfl

end PolytopeOS.Host
