import PolytopeOS.Host.Rustflags

/-!
# What the compiler does with the remaps

The compiler reads its `--remap-path-prefix` options from the decoded flags. The
last one whose prefix is a path that the given path lies under replaces it. Two
clean builds differ in the target directory alone; with the flags of each, both
see the same paths.
-/

namespace PolytopeOS.Host
open Corelib

/-- One remap option: the value is cut at its last equals sign. -/
def parseRemap (argument : List Char) : Option (Bytes × Bytes) :=
  let value := argument.drop remapOption.length
  if remapOption <+: argument ∧ '=' ∈ value then
    some (utf8 (value.rdropWhile (· ≠ '=')).dropLast, utf8 (value.rtakeWhile (· ≠ '=')))
  else none

/-- The remap options among the compiler's arguments. A codegen option takes the
argument after it, whatever that is. -/
def remapOptions : List (List Char) → List (Bytes × Bytes)
  | [] => []
  | [argument] => if argument = codegenOption then [] else (parseRemap argument).toList
  | argument :: value :: rest =>
    if argument = codegenOption then remapOptions rest
    else (parseRemap argument).toList ++ remapOptions (value :: rest)

/-- A path below a destination; the destination itself when nothing is below. -/
def placed (destination rest : Bytes) : Bytes :=
  if rest = [] then destination else destination ++ slash :: rest

/-- Replace the prefix of `path` by the first of `remaps` whose source it is under. -/
def applyRemaps (remaps : List (Bytes × Bytes)) (path : Bytes) : Bytes :=
  (remaps.findSome? fun remap => (stripBase path remap.1).map (placed remap.2)).getD path

/-- The path that the compiler writes for `path`: the last matching option wins. -/
def rustcRemap (arguments : List (List Char)) (path : Bytes) : Bytes :=
  applyRemaps (remapOptions arguments).reverse path

/-- A remap as the compiler has it. -/
def PathRemap.replacement (remap : PathRemap) : Bytes × Bytes :=
  (remap.source, utf8 remap.destination)

theorem prefix_remapArgument {source destination : List Char} :
    remapOption <+: remapArgument source destination := by
  rw [remapArgument, List.append_assoc]
  exact List.prefix_append _ _

theorem parseRemap_remapArgument {source destination : List Char} (h : '=' ∉ destination) :
    parseRemap (remapArgument source destination) = some (utf8 source, utf8 destination) := by
  have hne : ∀ c ∈ destination.reverse, decide (c ≠ '=') = true := by
    intro c hc
    exact decide_eq_true fun heq => h (heq ▸ List.mem_reverse.mp hc)
  have hdrop : (remapArgument source destination).drop remapOption.length =
      (source ++ ['=']) ++ destination := by
    rw [remapArgument, List.append_assoc, List.drop_left, List.append_assoc, List.singleton_append]
  have hfrom : ((source ++ ['=']) ++ destination).rdropWhile (· ≠ '=') = source ++ ['='] := by
    rw [List.rdropWhile, List.reverse_append, List.dropWhile_append_of_pos hne]
    exact List.rdropWhile_concat_neg _ source '=' (by decide)
  have hto : ((source ++ ['=']) ++ destination).rtakeWhile (· ≠ '=') = destination := by
    rw [List.rtakeWhile, List.reverse_append, List.takeWhile_append_of_pos hne,
      List.reverse_append, List.reverse_reverse]
    exact congrArg (· ++ destination) (List.rtakeWhile_concat_neg _ source '=' (by decide))
  have hequals : '=' ∈ (source ++ ['=']) ++ destination := by simp
  rw [parseRemap, hdrop, if_pos ⟨prefix_remapArgument, hequals⟩, hfrom, hto, List.dropLast_concat]

theorem remapOptions_flags (flags : List ArtifactRustcFlag) (rest : List (List Char)) :
    remapOptions ((flags.flatMap fun flag => [codegenOption, flag.value]) ++ rest) =
      remapOptions rest := by
  induction flags with
  | nil => rfl
  | cons flag flags ih =>
    rw [List.flatMap_cons, List.append_assoc, ← ih]
    exact if_pos rfl

theorem remapArgument_ne_codegenOption (source destination : List Char) :
    remapArgument source destination ≠ codegenOption := by
  intro h
  have hprefix : remapOption <+: codegenOption := h ▸ prefix_remapArgument
  exact absurd hprefix.length_le (by decide)

theorem remapOptions_cons {argument : List Char} (h : argument ≠ codegenOption)
    (rest : List (List Char)) :
    remapOptions (argument :: rest) = (parseRemap argument).toList ++ remapOptions rest := by
  cases rest with
  | nil => simp only [remapOptions, if_neg h, List.append_nil]
  | cons value rest => rw [remapOptions, if_neg h]

theorem remapOptions_remaps {remaps : List PathRemap}
    (hsource : ∀ remap ∈ remaps, (fromUtf8 remap.source).isSome)
    (hdestination : ∀ remap ∈ remaps, '=' ∉ remap.destination) :
    remapOptions (remaps.map fun remap => remapArgument remap.text remap.destination) =
      remaps.map PathRemap.replacement := by
  induction remaps with
  | nil => rfl
  | cons remap remaps ih =>
    obtain ⟨hutf8, hsource⟩ := List.forall_mem_cons.mp hsource
    obtain ⟨hequals, hdestination⟩ := List.forall_mem_cons.mp hdestination
    obtain ⟨text, htext⟩ := Option.isSome_iff_exists.mp hutf8
    have hbytes : utf8 remap.text = remap.source := by
      rw [PathRemap.text, htext, Option.getD_some]
      exact (fromUtf8_eq_some.mp htext).symm
    rw [List.map_cons, remapOptions_cons (remapArgument_ne_codegenOption _ _),
      parseRemap_remapArgument hequals, hbytes, ih hsource hdestination]
    rfl

/-- The compiler has the remaps of the contract, tried in the contract's order:
the encoder reverses it and the last option wins. -/
theorem rustcRemap_encoded {artifact : ArtifactSpec} {contract : BuildPathContract}
    {encoded : List Char} (hsource : ∀ remap ∈ contract.remaps, Encodable remap.source)
    (h : encodedRustflags artifact contract = .ok encoded) (path : Bytes) :
    rustcRemap (cargoDecode encoded) path =
      applyRemaps (contract.remaps.map PathRemap.replacement) path := by
  have hutf8 : ∀ remap ∈ contract.remaps, (fromUtf8 remap.source).isSome := by
    intro remap hremap
    obtain ⟨text, htext, _⟩ := hsource remap hremap
    exact Option.isSome_iff_exists.mpr ⟨text, htext⟩
  have hequals : ∀ remap ∈ contract.remaps, '=' ∉ remap.destination := by
    intro remap hremap
    rw [contract.destinations remap hremap]
    exact remap.kind.equals_not_mem_destination
  obtain ⟨_, hclean, hseparator, rfl⟩ := (encodedRustflags_eq_ok hutf8).mp h
  rw [cargoDecode_intercalate ((separable_buildArguments hclean).mpr hseparator), rustcRemap,
    buildArguments_eq, remapOptions_flags,
    remapOptions_remaps (fun remap hmem => hutf8 remap (List.mem_reverse.mp hmem))
      (fun remap hmem => hequals remap (List.mem_reverse.mp hmem)),
    List.map_reverse, List.reverse_reverse]

theorem applyRemaps_of_strip {source destination path rest : Bytes}
    (h : stripBase path source = some rest) (remaps : List (Bytes × Bytes)) :
    applyRemaps ((source, destination) :: remaps) path = placed destination rest := by
  rw [applyRemaps, List.findSome?_cons, h]
  rfl

theorem applyRemaps_of_not_under {source path : Bytes} (h : ¬Under source path)
    (destination : Bytes) (remaps : List (Bytes × Bytes)) :
    applyRemaps ((source, destination) :: remaps) path = applyRemaps remaps path := by
  rw [applyRemaps, List.findSome?_cons, stripBase_of_not_under h]
  rfl

theorem prefix_placed (destination rest : Bytes) : destination <+: placed destination rest := by
  unfold placed
  split
  · exact List.prefix_refl destination
  · exact List.prefix_append destination _

/-- A path under some source gets a destination. -/
theorem prefix_applyRemaps {remaps : List (Bytes × Bytes)} {path : Bytes}
    (h : ∃ remap ∈ remaps, Under remap.1 path) :
    ∃ remap ∈ remaps, remap.2 <+: applyRemaps remaps path := by
  induction remaps with
  | nil => simp at h
  | cons remap remaps ih =>
    by_cases hunder : Under remap.1 path
    · refine ⟨remap, List.mem_cons_self, ?_⟩
      rw [applyRemaps_of_strip (if_pos hunder)]
      exact prefix_placed _ _
    · obtain ⟨other, hmem, hother⟩ := h
      have hrest : other ∈ remaps := by
        refine (List.mem_cons.mp hmem).resolve_left ?_
        rintro rfl
        exact hunder hother
      obtain ⟨found, hfound, hprefix⟩ := ih ⟨other, hrest, hother⟩
      refine ⟨found, List.mem_cons_of_mem _ hfound, ?_⟩
      rw [applyRemaps_of_not_under hunder]
      exact hprefix

/-- What the contract of a build does to a path. -/
theorem rustcRemap_of_new {artifact : ArtifactSpec} {workspace targetDirectory : Bytes}
    {hostPaths : HostPaths} {contract : BuildPathContract} {encoded : List Char}
    (hnew : BuildPathContract.new workspace targetDirectory hostPaths = .ok contract)
    (h : encodedRustflags artifact contract = .ok encoded) (path : Bytes) :
    rustcRemap (cargoDecode encoded) path =
      applyRemaps [(targetDirectory, utf8 targetRemapDestination),
        (workspace, utf8 workspaceRemapDestination),
        (hostPaths.cargoHome, utf8 cargoHomeRemapDestination),
        (hostPaths.userHome, utf8 userHomeRemapDestination)] path := by
  obtain ⟨rfl, hsource, _⟩ := BuildPathContract.new_eq_ok.mp hnew
  exact rustcRemap_encoded hsource h path

/-- A path of names keeps its spelling below the target destination. -/
theorem placed_trimmed {rest : Bytes} (hnames : ∀ segment ∈ segments rest, skipped segment = false)
    (destination : Bytes) :
    placed destination (trimmed (segments rest)) = destination ++ slash :: rest := by
  have hne : rest ≠ [] := by
    rintro rfl
    exact Bool.false_ne_true (hnames [] (List.mem_singleton_self _)).symm
  rw [trimmed_segments hnames, placed, if_neg hne]

section Builds

variable {artifact : ArtifactSpec} {workspace targetDirectory : Bytes} {hostPaths : HostPaths}
  {contract : BuildPathContract} {encoded : List Char}

/-- The target directory is tried first, so nothing else is replaced below it. -/
theorem rustcRemap_target
    (hnew : BuildPathContract.new workspace targetDirectory hostPaths = .ok contract)
    (h : encodedRustflags artifact contract = .ok encoded) {rest : Bytes}
    (hrest : IsRelative rest) :
    rustcRemap (cargoDecode encoded) (joinPath targetDirectory rest) =
      placed (utf8 targetRemapDestination) (trimmed (segments rest)) := by
  rw [rustcRemap_of_new hnew h, applyRemaps_of_strip (stripBase_joinPath hrest)]

theorem rustcRemap_destination
    (hnew : BuildPathContract.new workspace targetDirectory hostPaths = .ok contract)
    (h : encodedRustflags artifact contract = .ok encoded) {source path : Bytes}
    (hsource : source ∈ [targetDirectory, workspace, hostPaths.cargoHome, hostPaths.userHome])
    (hunder : Under source path) :
    ∃ kind : PathKind, utf8 kind.destination <+: rustcRemap (cargoDecode encoded) path := by
  obtain ⟨rfl, hencodable, _⟩ := BuildPathContract.new_eq_ok.mp hnew
  rw [rustcRemap_encoded hencodable h]
  have hsources : source ∈ (BuildPathContract.of workspace targetDirectory hostPaths).remaps.map
      PathRemap.source := hsource
  obtain ⟨remap, hremap, rfl⟩ := List.mem_map.mp hsources
  obtain ⟨found, hfound, hprefix⟩ := prefix_applyRemaps
    ⟨remap.replacement, List.mem_map_of_mem hremap, hunder⟩
  obtain ⟨remap, hremap, rfl⟩ := List.mem_map.mp hfound
  refine ⟨remap.kind, ?_⟩
  rw [← BuildPathContract.destinations _ remap hremap]
  exact hprefix

end Builds

/-- Two clean builds of an artifact in different target directories see the same
paths: whatever is below the target directory goes below the target destination
in its own spelling, less the slashes and dots at its ends that name nothing (a path
of names keeps its spelling, by `placed_trimmed`); what is under neither target
directory is treated alike; and every path under a host directory gets a fixed
destination. The nesting of the directories does not matter. -/
theorem remapping_erases_target (artifact : ArtifactSpec) (workspace ta tb : Bytes)
    (hostPaths : HostPaths) (contractA contractB : BuildPathContract)
    (encodedA encodedB : List Char)
    (hnewA : BuildPathContract.new workspace ta hostPaths = .ok contractA)
    (hnewB : BuildPathContract.new workspace tb hostPaths = .ok contractB)
    (hA : encodedRustflags artifact contractA = .ok encodedA)
    (hB : encodedRustflags artifact contractB = .ok encodedB) :
    (∀ rest, IsRelative rest →
      rustcRemap (cargoDecode encodedA) (joinPath ta rest) =
        placed (utf8 targetRemapDestination) (trimmed (segments rest)) ∧
      rustcRemap (cargoDecode encodedB) (joinPath tb rest) =
        placed (utf8 targetRemapDestination) (trimmed (segments rest))) ∧
    (∀ path, ¬Under ta path → ¬Under tb path →
      rustcRemap (cargoDecode encodedA) path = rustcRemap (cargoDecode encodedB) path) ∧
    (∀ source ∈ [ta, workspace, hostPaths.cargoHome, hostPaths.userHome], ∀ path,
      Under source path →
        ∃ kind : PathKind, utf8 kind.destination <+: rustcRemap (cargoDecode encodedA) path) ∧
    ∀ source ∈ [tb, workspace, hostPaths.cargoHome, hostPaths.userHome], ∀ path,
      Under source path →
        ∃ kind : PathKind, utf8 kind.destination <+: rustcRemap (cargoDecode encodedB) path := by
  refine ⟨?_, ?_, ?_, ?_⟩
  · intro rest hrest
    exact ⟨rustcRemap_target hnewA hA hrest, rustcRemap_target hnewB hB hrest⟩
  · intro path hta htb
    rw [rustcRemap_of_new hnewA hA, rustcRemap_of_new hnewB hB, applyRemaps_of_not_under hta,
      applyRemaps_of_not_under htb]
  · intro source hsource path hunder
    exact rustcRemap_destination hnewA hA hsource hunder
  · intro source hsource path hunder
    exact rustcRemap_destination hnewB hB hsource hunder

theorem remapping_erases_target_sample :
    ∃ encodedA encodedB,
      encodedRustflags sampleArtifact (sampleContract sampleWorkspace "/tmp/a".toList) =
        .ok encodedA ∧
      encodedRustflags sampleArtifact (sampleContract sampleWorkspace "/tmp/b".toList) =
        .ok encodedB ∧
      rustcRemap (cargoDecode encodedA) (joinPath (utf8 "/tmp/a".toList) (utf8 "x/y".toList)) =
        utf8 "/build/target/x/y".toList ∧
      rustcRemap (cargoDecode encodedB) (joinPath (utf8 "/tmp/b".toList) (utf8 "x/y".toList)) =
        utf8 "/build/target/x/y".toList := by
  obtain ⟨encodedA, hA⟩ := encodedRustflags_sample "/tmp/a".toList (by decide)
  obtain ⟨encodedB, hB⟩ := encodedRustflags_sample "/tmp/b".toList (by decide)
  have hbelow := (remapping_erases_target sampleArtifact _ _ _ _ _ _ _ _
    (new_sampleContract sampleWorkspace "/tmp/a".toList (by decide) (by decide) (by decide))
    (new_sampleContract sampleWorkspace "/tmp/b".toList (by decide) (by decide) (by decide)) hA hB).1
  have hplaced : placed (utf8 targetRemapDestination) (trimmed (segments (utf8 "x/y".toList))) =
      utf8 "/build/target/x/y".toList :=
    placed_trimmed (by decide) _
  rw [← hplaced]
  exact ⟨encodedA, encodedB, hA, hB, hbelow _ (by decide)⟩

end PolytopeOS.Host
