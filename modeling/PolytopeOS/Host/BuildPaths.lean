import PolytopeOS.Corelib.Exec
import PolytopeOS.Corelib.Paths
import PolytopeOS.Corelib.Unicode

/-!
# The path contract of a clean build

A clean build replaces four host directories by fixed destinations. The contract
of a build lists the replacements, the target directory first.
-/

namespace PolytopeOS.Host
open Corelib

def workspaceRemapDestination : List Char := "/workspace/polytope-os".toList

def cargoHomeRemapDestination : List Char := "/build/cargo-home".toList

def userHomeRemapDestination : List Char := "/build/user-home".toList

def targetRemapDestination : List Char := "/build/target".toList

def rustflagSeparator : Char := '\u001f'

/-- `path.to_str()` has to succeed, without the two characters that delimit the
flags and their parts. -/
def validateRemapPath (path : Bytes) (description : String) : Exec String Unit := do
  let value ← Exec.okOr (fromUtf8 path) s!"{description} is not valid UTF-8"
  Exec.ensure (rustflagSeparator ∉ value ∧ '=' ∉ value)
    s!"{description} contains a character unsupported by the rustflag contract"

inductive PathKind where
  | target
  | workspace
  | cargoHome
  | userHome
  deriving DecidableEq, Repr

namespace PathKind

def description : PathKind → String
  | .target => "target-directory"
  | .workspace => "workspace"
  | .cargoHome => "Cargo-home"
  | .userHome => "user-home"

/-- The destination that the constructor of a contract gives each kind. -/
def destination : PathKind → List Char
  | .target => targetRemapDestination
  | .workspace => workspaceRemapDestination
  | .cargoHome => cargoHomeRemapDestination
  | .userHome => userHomeRemapDestination

theorem separator_not_mem_destination (kind : PathKind) :
    rustflagSeparator ∉ kind.destination := by
  cases kind <;> decide

theorem equals_not_mem_destination (kind : PathKind) : '=' ∉ kind.destination := by
  cases kind <;> decide

end PathKind

structure PathRemap where
  kind : PathKind
  source : Bytes
  destination : List Char
  deriving DecidableEq, Repr

/-- The remaps of a build. Every one has the destination of its kind. -/
structure BuildPathContract where
  remaps : List PathRemap
  destinations : ∀ remap ∈ remaps, remap.destination = remap.kind.destination
  deriving DecidableEq

structure HostPaths where
  cargoHome : Bytes
  userHome : Bytes

/-- The contract that `BuildPathContract::new` checks and returns. -/
def BuildPathContract.of (workspace targetDirectory : Bytes) (hostPaths : HostPaths) :
    BuildPathContract where
  remaps := [⟨.target, targetDirectory, targetRemapDestination⟩,
    ⟨.workspace, workspace, workspaceRemapDestination⟩,
    ⟨.cargoHome, hostPaths.cargoHome, cargoHomeRemapDestination⟩,
    ⟨.userHome, hostPaths.userHome, userHomeRemapDestination⟩]
  destinations := by simp [PathKind.destination]

/-- No earlier remap has the source of the one at `index`. Sources are compared
as paths, by their components. -/
def checkDuplicate (remaps : List PathRemap) (index : ℕ) (remap : PathRemap) :
    Exec String Unit :=
  Exec.ensure (∀ existing ∈ remaps.take index,
      components existing.source ≠ components remap.source)
    (remap.kind.description ++ " path duplicates a more-specific remap source")

def checkDuplicates (remaps : List PathRemap) : Exec String Unit :=
  Exec.foldIdx (fun index _ remap => checkDuplicate remaps index remap) 0 () remaps

/-- `BuildPathContract::new`. -/
def BuildPathContract.new (workspace targetDirectory : Bytes) (hostPaths : HostPaths) :
    Exec String BuildPathContract := do
  validateRemapPath workspace "workspace"
  validateRemapPath targetDirectory "target directory"
  validateRemapPath hostPaths.cargoHome "Cargo home"
  validateRemapPath hostPaths.userHome "user home"
  let contract := BuildPathContract.of workspace targetDirectory hostPaths
  checkDuplicates contract.remaps
  return contract

/-- A source that can stand in a rustflag. -/
def Encodable (source : Bytes) : Prop :=
  ∃ text, fromUtf8 source = some text ∧ rustflagSeparator ∉ text ∧ '=' ∉ text

theorem validateRemapPath_eq_ok {path : Bytes} {description : String} :
    validateRemapPath path description = .ok () ↔ Encodable path := by
  simp only [validateRemapPath, Exec.bind_eq_ok, Exec.okOr_eq_ok, Exec.ensure_eq_ok, Encodable]

/-- What a returned contract is. -/
theorem BuildPathContract.new_eq_ok {workspace targetDirectory : Bytes} {hostPaths : HostPaths}
    {contract : BuildPathContract} :
    BuildPathContract.new workspace targetDirectory hostPaths = .ok contract ↔
      contract = .of workspace targetDirectory hostPaths ∧
      (∀ remap ∈ contract.remaps, Encodable remap.source) ∧
      checkDuplicates contract.remaps = .ok () := by
  simp only [BuildPathContract.new, Exec.check_bind_eq_ok, validateRemapPath_eq_ok,
    Exec.pure_eq_ok, Exec.ok.injEq]
  constructor
  · rintro ⟨hworkspace, htarget, hcargo, huser, hdistinct, rfl⟩
    refine ⟨rfl, ?_, hdistinct⟩
    simpa [BuildPathContract.of] using ⟨htarget, hworkspace, hcargo, huser⟩
  · rintro ⟨rfl, hencodable, hdistinct⟩
    have hsources : Encodable targetDirectory ∧ Encodable workspace ∧
        Encodable hostPaths.cargoHome ∧ Encodable hostPaths.userHome := by
      simpa [BuildPathContract.of] using hencodable
    obtain ⟨htarget, hworkspace, hcargo, huser⟩ := hsources
    exact ⟨hworkspace, htarget, hcargo, huser, hdistinct, rfl⟩

def sampleWorkspace : List Char := "/home/dev/os".toList

def sampleHostPaths : HostPaths := ⟨utf8 "/home/dev/.cargo".toList, utf8 "/home/dev".toList⟩

/-- A contract with the Cargo home inside the home directory. -/
def sampleContract (workspace target : List Char) : BuildPathContract :=
  .of (utf8 workspace) (utf8 target) sampleHostPaths

theorem encodable_utf8 {text : List Char} (h : rustflagSeparator ∉ text ∧ '=' ∉ text) :
    Encodable (utf8 text) := ⟨text, fromUtf8_utf8 text, h⟩

theorem new_sampleContract (workspace target : List Char)
    (hworkspace : rustflagSeparator ∉ workspace ∧ '=' ∉ workspace)
    (htarget : rustflagSeparator ∉ target ∧ '=' ∉ target)
    (hdistinct : checkDuplicates (sampleContract workspace target).remaps = .ok ()) :
    BuildPathContract.new (utf8 workspace) (utf8 target) sampleHostPaths =
      .ok (sampleContract workspace target) := by
  refine BuildPathContract.new_eq_ok.mpr ⟨rfl, ?_, hdistinct⟩
  simp only [sampleContract, BuildPathContract.of, sampleHostPaths, List.forall_mem_cons,
    List.not_mem_nil, false_imp_iff, implies_true, and_true]
  exact ⟨encodable_utf8 htarget, encodable_utf8 hworkspace, encodable_utf8 (by decide),
    encodable_utf8 (by decide)⟩

end PolytopeOS.Host
