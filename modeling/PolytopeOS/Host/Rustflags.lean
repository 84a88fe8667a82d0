import PolytopeOS.Host.BuildPaths

/-!
# Encoded rustflags

A build passes its flags to Cargo in one string, separated by U+001F, so that a
flag may hold spaces. An argument that is empty or holds the separator would be
read back as another list of flags; the checks exclude both.
-/

namespace PolytopeOS.Host
open Corelib

inductive ArtifactRustcFlag where
  | staticRelocationModel
  | linkArgument (argument : List Char)
  deriving DecidableEq, Repr

/-- The part of an artifact's description that the flags depend on. -/
structure ArtifactSpec where
  target : List Char
  rustcFlags : List ArtifactRustcFlag

def uefiTarget : List Char := "x86_64-unknown-uefi".toList

def kernelTarget : List Char := "x86_64-unknown-none".toList

def debugNone : List Char := "/debug:none".toList

def noPie : List Char := "-no-pie".toList

def codegenOption : List Char := "-C".toList

def staticModel : List Char := "relocation-model=static".toList

def linkArg : List Char := "link-arg=".toList

def remapOption : List Char := "--remap-path-prefix=".toList

def validateRustflagValue (value : List Char) (description : String) : Exec String Unit :=
  Exec.ensure (value ≠ [] ∧ rustflagSeparator ∉ value)
    s!"{description} is empty or contains the Cargo rustflag separator"

def validateRustflagValues (arguments : List (List Char)) (description : String) :
    Exec String Unit :=
  Exec.foldIdx (fun _ _ argument => validateRustflagValue argument description) 0 () arguments

def ArtifactSpec.hasLinkArgument (artifact : ArtifactSpec) (expected : List Char) : Bool :=
  decide (ArtifactRustcFlag.linkArgument expected ∈ artifact.rustcFlags)

def validateArtifactRustcContract (artifact : ArtifactSpec) : Exec String Unit :=
  if artifact.target = uefiTarget ∧ !artifact.hasLinkArgument debugNone then
    .err "UEFI artifact contract must disable the nondeterministic CodeView record"
  else if artifact.target = kernelTarget ∧
      (.staticRelocationModel ∉ artifact.rustcFlags ∨ !artifact.hasLinkArgument noPie) then
    .err "kernel artifact contract must retain static relocation and -no-pie"
  else .ok ()

/-- The arguments that one flag of an artifact pushes. -/
def flagArguments : ArtifactRustcFlag → Exec String (List (List Char))
  | .staticRelocationModel => .ok [codegenOption, staticModel]
  | .linkArgument argument => do
    validateRustflagValue argument "link argument"
    .ok [codegenOption, linkArg ++ argument]

def artifactRustcArguments (artifact : ArtifactSpec) : Exec String (List (List Char)) := do
  validateArtifactRustcContract artifact
  let arguments ← Exec.foldIdx
    (fun _ arguments flag => flagArguments flag >>= fun pushed => .ok (arguments ++ pushed))
    0 [] artifact.rustcFlags
  validateRustflagValues arguments "artifact rustc argument"
  return arguments

def remapArgument (source destination : List Char) : List Char :=
  remapOption ++ source ++ '=' :: destination

/-- The argument that one remap of a contract pushes. -/
def remapArguments (remap : PathRemap) : Exec String (List (List Char)) := do
  let source ← Exec.okOr (fromUtf8 remap.source)
    "validated remap source unexpectedly became non-UTF-8"
  .ok [remapArgument source remap.destination]

def encodedRustflags (artifact : ArtifactSpec) (contract : BuildPathContract) :
    Exec String (List Char) := do
  let arguments ← artifactRustcArguments artifact
  -- rustc gives the last matching remap precedence, so broad prefixes come first
  let arguments ← Exec.foldIdx
    (fun _ arguments remap => remapArguments remap >>= fun pushed => .ok (arguments ++ pushed))
    0 arguments contract.remaps.reverse
  validateRustflagValues arguments "rustc argument"
  return [rustflagSeparator].intercalate arguments

-- ════════════════════════════════════════════════════════════════════════
-- What the flags should be
-- ════════════════════════════════════════════════════════════════════════

-- The texts of this part are those of Cargo and of the compiler, written out once
-- more: they do not depend on the constants of the encoder.

/-- The list of flags that Cargo reads from the encoded string; an empty string
holds none. -/
def cargoDecode (encoded : List Char) : List (List Char) :=
  if encoded = [] then [] else encoded.splitOn '\u001f'

/-- The flags that a target's artifacts must have. -/
def mandatoryFlags (target : List Char) : List ArtifactRustcFlag :=
  if target = "x86_64-unknown-uefi".toList then [.linkArgument "/debug:none".toList]
  else if target = "x86_64-unknown-none".toList then
    [.staticRelocationModel, .linkArgument "-no-pie".toList]
  else []

/-- A flag in the spelling that follows `-C`. -/
def ArtifactRustcFlag.value : ArtifactRustcFlag → List Char
  | .staticRelocationModel => "relocation-model=static".toList
  | .linkArgument argument => "link-arg=".toList ++ argument

/-- The text of a remap's source. -/
def PathRemap.text (remap : PathRemap) : List Char := (fromUtf8 remap.source).getD []

/-- The arguments of a build, as the compiler should see them. -/
def buildArguments (artifact : ArtifactSpec) (contract : BuildPathContract) :
    List (List Char) :=
  (artifact.rustcFlags.flatMap fun flag => ["-C".toList, flag.value]) ++
    contract.remaps.reverse.map fun remap =>
      "--remap-path-prefix=".toList ++ remap.text ++ '=' :: remap.destination

-- ════════════════════════════════════════════════════════════════════════
-- The round trip
-- ════════════════════════════════════════════════════════════════════════

/-- The build's arguments in the encoder's words. -/
theorem buildArguments_eq (artifact : ArtifactSpec) (contract : BuildPathContract) :
    buildArguments artifact contract =
      (artifact.rustcFlags.flatMap fun flag => [codegenOption, flag.value]) ++
        contract.remaps.reverse.map fun remap => remapArgument remap.text remap.destination := rfl

theorem ArtifactRustcFlag.value_eq (flag : ArtifactRustcFlag) :
    flag.value = match flag with
      | .staticRelocationModel => staticModel
      | .linkArgument argument => linkArg ++ argument := by
  cases flag <;> rfl

theorem mandatoryFlags_eq (target : List Char) :
    mandatoryFlags target =
      if target = uefiTarget then [.linkArgument debugNone]
      else if target = kernelTarget then [.staticRelocationModel, .linkArgument noPie]
      else [] := rfl

/-- A text that stands for itself in the encoded string. -/
def Separable (value : List Char) : Prop := value ≠ [] ∧ rustflagSeparator ∉ value

instance (value : List Char) : Decidable (Separable value) := inferInstanceAs (Decidable (_ ∧ _))

/-- Only a link argument can break the encoding; the other flags are fixed texts. -/
def ArtifactRustcFlag.Clean : ArtifactRustcFlag → Prop
  | .staticRelocationModel => True
  | .linkArgument argument => Separable argument

theorem forall_clean_iff {flags : List ArtifactRustcFlag} :
    (∀ flag ∈ flags, flag.Clean) ↔
      ∀ argument, .linkArgument argument ∈ flags → Separable argument := by
  constructor
  · exact fun h argument hmem => h _ hmem
  · intro h flag hmem
    cases flag with
    | staticRelocationModel => trivial
    | linkArgument argument => exact h argument hmem

theorem separable_append {fixed value : List Char} (hfixed : Separable fixed) :
    Separable (fixed ++ value) ↔ rustflagSeparator ∉ value := by
  rw [Separable, List.mem_append, not_or]
  constructor
  · exact fun h => h.2.2
  · exact fun h => ⟨List.append_ne_nil_of_left_ne_nil hfixed.1 value, hfixed.2, h⟩

theorem separable_codegenOption : Separable codegenOption := by decide

theorem validateRustflagValue_eq_ok {value : List Char} {description : String} :
    validateRustflagValue value description = .ok () ↔ Separable value := Exec.ensure_eq_ok

theorem validateRustflagValues_eq_ok {arguments : List (List Char)} {description : String} :
    validateRustflagValues arguments description = .ok () ↔
      ∀ argument ∈ arguments, Separable argument := by
  simp only [validateRustflagValues, Exec.foldIdx_check_eq_ok, validateRustflagValue_eq_ok]

theorem validateArtifactRustcContract_eq_ok {artifact : ArtifactSpec} :
    validateArtifactRustcContract artifact = .ok () ↔
      ∀ flag ∈ mandatoryFlags artifact.target, flag ∈ artifact.rustcFlags := by
  have hdiffer : kernelTarget ≠ uefiTarget := by decide
  rw [validateArtifactRustcContract, Exec.ite_err_eq_ok, Exec.ite_err_eq_ok, mandatoryFlags_eq]
  by_cases huefi : artifact.target = uefiTarget
  · simp [huefi, hdiffer.symm, ArtifactSpec.hasLinkArgument]
  · by_cases hkernel : artifact.target = kernelTarget
    · simp [hkernel, hdiffer, ArtifactSpec.hasLinkArgument]
    · simp [huefi, hkernel]

theorem flagArguments_eq_ok (flag : ArtifactRustcFlag) (pushed : List (List Char)) :
    flagArguments flag = .ok pushed ↔ flag.Clean ∧ pushed = [codegenOption, flag.value] := by
  cases flag with
  | staticRelocationModel => simp [flagArguments, ArtifactRustcFlag.Clean,
      ArtifactRustcFlag.value_eq, eq_comm]
  | linkArgument argument =>
    rw [flagArguments, Exec.check_bind_eq_ok, validateRustflagValue_eq_ok, Exec.ok.injEq,
      eq_comm (b := pushed), ArtifactRustcFlag.value_eq]
    rfl

theorem remapArguments_eq_ok (remap : PathRemap) (pushed : List (List Char)) :
    remapArguments remap = .ok pushed ↔ (fromUtf8 remap.source).isSome ∧
      pushed = [remapArgument remap.text remap.destination] := by
  rw [remapArguments, PathRemap.text]
  cases fromUtf8 remap.source <;> simp [eq_comm]

theorem ArtifactRustcFlag.Clean.separable {flag : ArtifactRustcFlag} (h : flag.Clean) :
    ∀ argument ∈ [codegenOption, flag.value], Separable argument := by
  have hvalue : Separable flag.value := by
    rw [ArtifactRustcFlag.value_eq]
    cases flag with
    | staticRelocationModel => exact (by decide : Separable staticModel)
    | linkArgument argument => exact (separable_append (by decide)).mpr h.2
  simpa using And.intro separable_codegenOption hvalue

theorem separable_remapArgument {source destination : List Char}
    (hdestination : rustflagSeparator ∉ destination) :
    Separable (remapArgument source destination) ↔ rustflagSeparator ∉ source := by
  have hequals : rustflagSeparator ≠ '=' := by decide
  rw [remapArgument, List.append_assoc, separable_append (by decide), List.mem_append,
    List.mem_cons]
  simp [hequals, hdestination]

theorem separable_flags {flags : List ArtifactRustcFlag} (hclean : ∀ flag ∈ flags, flag.Clean) :
    ∀ argument ∈ flags.flatMap fun flag => [codegenOption, flag.value], Separable argument := by
  intro argument hargument
  obtain ⟨flag, hflag, hmem⟩ := List.mem_flatMap.mp hargument
  exact (hclean flag hflag).separable argument hmem

/-- The arguments of an artifact pass their own check once its link arguments do. -/
theorem artifactRustcArguments_eq_ok {artifact : ArtifactSpec} {arguments : List (List Char)} :
    artifactRustcArguments artifact = .ok arguments ↔
      (∀ flag ∈ mandatoryFlags artifact.target, flag ∈ artifact.rustcFlags) ∧
      (∀ flag ∈ artifact.rustcFlags, flag.Clean) ∧
      arguments = artifact.rustcFlags.flatMap fun flag => [codegenOption, flag.value] := by
  rw [artifactRustcArguments, Exec.check_bind_eq_ok, validateArtifactRustcContract_eq_ok,
    Exec.bind_eq_ok]
  simp only [Exec.foldIdx_push_eq_ok flagArguments_eq_ok, List.nil_append, Exec.check_bind_eq_ok,
    validateRustflagValues_eq_ok, Exec.pure_eq_ok, Exec.ok.injEq]
  refine and_congr_right fun _ => ?_
  constructor
  · rintro ⟨_, ⟨hclean, rfl⟩, _, rfl⟩
    exact ⟨hclean, rfl⟩
  · rintro ⟨hclean, rfl⟩
    exact ⟨_, ⟨hclean, rfl⟩, separable_flags hclean, rfl⟩

theorem separable_buildArguments {artifact : ArtifactSpec} {contract : BuildPathContract}
    (hclean : ∀ flag ∈ artifact.rustcFlags, flag.Clean) :
    (∀ argument ∈ buildArguments artifact contract, Separable argument) ↔
      ∀ remap ∈ contract.remaps, rustflagSeparator ∉ remap.text := by
  have hremap : ∀ remap ∈ contract.remaps,
      (Separable (remapArgument remap.text remap.destination) ↔
        rustflagSeparator ∉ remap.text) := by
    intro remap hremap
    apply separable_remapArgument
    rw [contract.destinations remap hremap]
    exact remap.kind.separator_not_mem_destination
  rw [buildArguments_eq, List.forall_mem_append, and_iff_right (separable_flags hclean),
    List.forall_mem_map]
  simp only [List.mem_reverse]
  exact forall₂_congr hremap

/-- The encoder writes the build's arguments, when no check fails. -/
theorem encodedRustflags_eq_ok {artifact : ArtifactSpec} {contract : BuildPathContract}
    {encoded : List Char} (hutf8 : ∀ remap ∈ contract.remaps, (fromUtf8 remap.source).isSome) :
    encodedRustflags artifact contract = .ok encoded ↔
      (∀ flag ∈ mandatoryFlags artifact.target, flag ∈ artifact.rustcFlags) ∧
      (∀ flag ∈ artifact.rustcFlags, flag.Clean) ∧
      (∀ remap ∈ contract.remaps, rustflagSeparator ∉ remap.text) ∧
      encoded = [rustflagSeparator].intercalate (buildArguments artifact contract) := by
  simp only [encodedRustflags, ↓Exec.check_bind_eq_ok, Exec.bind_eq_ok,
    artifactRustcArguments_eq_ok, Exec.foldIdx_push_eq_ok remapArguments_eq_ok,
    validateRustflagValues_eq_ok, Exec.pure_eq_ok, Exec.ok.injEq, List.mem_reverse,
    ← List.map_eq_flatMap]
  constructor
  · rintro ⟨_, ⟨hmandatory, hclean, rfl⟩, _, ⟨_, rfl⟩, hseparable, rfl⟩
    exact ⟨hmandatory, hclean, (separable_buildArguments hclean).mp hseparable, rfl⟩
  · rintro ⟨hmandatory, hclean, hsources, rfl⟩
    exact ⟨_, ⟨hmandatory, hclean, rfl⟩, _, ⟨hutf8, rfl⟩,
      (separable_buildArguments hclean).mpr hsources, rfl⟩

/-- Cargo reads back a list of separable texts. -/
theorem cargoDecode_intercalate {arguments : List (List Char)}
    (h : ∀ argument ∈ arguments, Separable argument) :
    cargoDecode ([rustflagSeparator].intercalate arguments) = arguments := by
  cases arguments with
  | nil => rfl
  | cons argument rest =>
    have hne : [rustflagSeparator].intercalate (argument :: rest) ≠ [] := by
      intro hnil
      have hargument := (h argument List.mem_cons_self).1
      cases rest <;> simp_all [List.intercalate]
    rw [cargoDecode, if_neg hne]
    exact List.splitOn_intercalate _ (fun a ha => (h a ha).2) (List.cons_ne_nil _ _)

/-- The encoder accepts exactly the builds whose mandatory flags are present and
whose texts stand for themselves, and Cargo then reads the build's own
arguments: none is lost, split or added, and none is empty. -/
theorem encodedRustflags_roundTrip (artifact : ArtifactSpec) (contract : BuildPathContract)
    (hutf8 : ∀ remap ∈ contract.remaps, (fromUtf8 remap.source).isSome) :
    ((∃ encoded, encodedRustflags artifact contract = .ok encoded) ↔
      (∀ flag ∈ mandatoryFlags artifact.target, flag ∈ artifact.rustcFlags) ∧
      (∀ argument, .linkArgument argument ∈ artifact.rustcFlags →
        argument ≠ [] ∧ '\u001f' ∉ argument) ∧
      ∀ remap ∈ contract.remaps, '\u001f' ∉ remap.text) ∧
    ∀ encoded, encodedRustflags artifact contract = .ok encoded →
      cargoDecode encoded = buildArguments artifact contract ∧ [] ∉ cargoDecode encoded := by
  simp only [encodedRustflags_eq_ok hutf8]
  constructor
  · rw [forall_clean_iff]
    simp only [exists_and_left, exists_eq, and_true]
    rfl
  · rintro encoded ⟨_, hclean, hsources, rfl⟩
    have hseparable := (separable_buildArguments hclean).mpr hsources
    rw [cargoDecode_intercalate hseparable]
    exact ⟨rfl, fun hnil => (hseparable [] hnil).1 rfl⟩

def sampleArtifact : ArtifactSpec := ⟨uefiTarget, [.linkArgument debugNone]⟩

theorem text_sampleContract (target : List Char) :
    (sampleContract sampleWorkspace target).remaps.map PathRemap.text =
      [target, sampleWorkspace, "/home/dev/.cargo".toList, "/home/dev".toList] := by
  simp [sampleContract, BuildPathContract.of, sampleHostPaths, PathRemap.text, fromUtf8_utf8]

theorem utf8_sampleContract (target : List Char) :
    ∀ remap ∈ (sampleContract sampleWorkspace target).remaps, (fromUtf8 remap.source).isSome := by
  simp [sampleContract, BuildPathContract.of, sampleHostPaths, fromUtf8_utf8]

theorem separable_sampleContract {target : List Char} (h : rustflagSeparator ∉ target) :
    ∀ remap ∈ (sampleContract sampleWorkspace target).remaps, rustflagSeparator ∉ remap.text := by
  have htexts : ∀ text ∈ (sampleContract sampleWorkspace target).remaps.map PathRemap.text,
      rustflagSeparator ∉ text := by
    rw [text_sampleContract, List.forall_mem_cons]
    exact ⟨h, by decide⟩
  exact fun remap hremap => htexts _ (List.mem_map_of_mem hremap)

theorem encodedRustflags_sample (target : List Char) (h : rustflagSeparator ∉ target) :
    ∃ encoded,
      encodedRustflags sampleArtifact (sampleContract sampleWorkspace target) = .ok encoded := by
  have hclean : ∀ flag ∈ sampleArtifact.rustcFlags, flag.Clean := by
    intro flag hflag
    obtain rfl := List.mem_singleton.mp hflag
    exact (by decide : Separable debugNone)
  exact ⟨_, (encodedRustflags_eq_ok (utf8_sampleContract target)).mpr
    ⟨by decide, hclean, separable_sampleContract h, rfl⟩⟩

theorem encodedRustflags_roundTrip_sample :
    ∃ encoded,
      encodedRustflags sampleArtifact (sampleContract sampleWorkspace "/tmp/a".toList) =
        .ok encoded ∧
      cargoDecode encoded = ["-C".toList, "link-arg=/debug:none".toList,
        "--remap-path-prefix=/home/dev=/build/user-home".toList,
        "--remap-path-prefix=/home/dev/.cargo=/build/cargo-home".toList,
        "--remap-path-prefix=/home/dev/os=/workspace/polytope-os".toList,
        "--remap-path-prefix=/tmp/a=/build/target".toList] := by
  obtain ⟨encoded, h⟩ := encodedRustflags_sample "/tmp/a".toList (by decide)
  have hdecode := (encodedRustflags_roundTrip sampleArtifact _ (utf8_sampleContract _)).2 encoded h
  refine ⟨encoded, h, hdecode.1.trans ?_⟩
  simp only [buildArguments, sampleContract, BuildPathContract.of, sampleHostPaths,
    List.reverse_cons, List.reverse_nil, List.nil_append, List.cons_append, List.map_cons,
    List.map_nil, PathRemap.text, fromUtf8_utf8, Option.getD_some]
  rfl

end PolytopeOS.Host
