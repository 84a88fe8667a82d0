import PolytopeOS.Corelib.Memory
import PolytopeOS.Arch.Console
import PolytopeOS.BootContract.Codec

/-!
# Kernel entry

`polytopeKernelMain` reads the handed-over range of physical memory and ends
with exactly one record.
-/

namespace PolytopeOS.Kernel
open Corelib Arch BootContract

def kernelReady : Bytes :=
  ascii "POLYTOPE_BOOT schema=1 seq=0004 phase=kernel_entry level=info code=KERNEL_READY"

def abiVersionRejected : Bytes :=
  ascii "POLYTOPE_BOOT schema=1 seq=0004 phase=kernel_entry level=error code=ABI_VERSION"

def contractLengthRejected : Bytes :=
  ascii "POLYTOPE_BOOT schema=1 seq=0004 phase=kernel_entry level=error code=CONTRACT_LENGTH"

def contractInvalid : Bytes :=
  ascii "POLYTOPE_BOOT schema=1 seq=0004 phase=kernel_entry level=error code=CONTRACT_INVALID"

def kernelPanic : Bytes :=
  ascii "POLYTOPE_BOOT schema=1 seq=0005 phase=panic level=fatal code=KERNEL_PANIC"

/-- The panic handler. -/
def panic : Halt := ⟨[kernelPanic], .kernelPanic⟩

/-- The branch taken once the contract has been parsed. -/
def enter (info : ValidatedBootInfo) : Halt :=
  if info.info.scenario.kind = .normal then ⟨[kernelReady], .success⟩
  else if info.info.scenario.kind = .deliberatePanic then panic
  else ⟨[contractInvalid], .contractRejected⟩

def polytopeKernelMain (memory : Memory) (contract length : ℕ) : Halt :=
  if length ≠ bootInfoSize then ⟨[contractLengthRejected], .contractRejected⟩
  else if contract = 0 ∨ contract % pageSizeBytes ≠ 0 ∨
      (checkedSize (contract + length)).isNone then
    ⟨[contractInvalid], .contractRejected⟩
  else
    match parse (memory.load contract length) with
    | .ok info => enter info
    | .err (.unsupportedVersion _ _) => ⟨[abiVersionRejected], .contractRejected⟩
    | .err (.truncated _ _) => ⟨[contractLengthRejected], .contractRejected⟩
    | .err (.lengthMismatch _ _) => ⟨[contractLengthRejected], .contractRejected⟩
    | .err _ => ⟨[contractInvalid], .contractRejected⟩
    | .panic => panic

/-- The five ways the kernel ends. -/
inductive Ends : Halt → Prop where
  | ready : Ends ⟨[kernelReady], .success⟩
  | abiVersion : Ends ⟨[abiVersionRejected], .contractRejected⟩
  | contractLength : Ends ⟨[contractLengthRejected], .contractRejected⟩
  | contractInvalid : Ends ⟨[contractInvalid], .contractRejected⟩
  | panic : Ends ⟨[kernelPanic], .kernelPanic⟩

theorem enter_ends (info : ValidatedBootInfo) : Ends (enter info) := by
  unfold enter
  split
  · exact .ready
  split
  · exact .panic
  · exact .contractInvalid

theorem polytopeKernelMain_ends (memory : Memory) (contract length : ℕ) :
    Ends (polytopeKernelMain memory contract length) := by
  unfold polytopeKernelMain
  split
  · exact .contractLength
  split
  · exact .contractInvalid
  split
  · exact enter_ends _
  · exact .abiVersion
  · exact .contractLength
  · exact .contractLength
  · exact .contractInvalid
  · exact .panic

theorem polytopeKernelMain_of_length {memory : Memory} {contract length : ℕ}
    (h : length ≠ bootInfoSize) :
    polytopeKernelMain memory contract length = ⟨[contractLengthRejected], .contractRejected⟩ :=
  if_pos h

/-- What the outer checks leave to the parser. -/
structure ContractRange (contract : ℕ) : Prop where
  nonzero : contract ≠ 0
  aligned : contract % pageSizeBytes = 0
  fits : contract + bootInfoSize < 2 ^ 64

theorem polytopeKernelMain_of_parse {memory : Memory} {contract : ℕ} {info : ValidatedBootInfo}
    (h : ContractRange contract) (hparse : parse (memory.load contract bootInfoSize) = .ok info) :
    polytopeKernelMain memory contract bootInfoSize = enter info := by
  unfold polytopeKernelMain
  rw [if_neg (by simp), if_neg (by simp [h.nonzero, h.aligned, checkedSize_of_lt h.fits]), hparse]

theorem polytopeKernelMain_of_version {memory : Memory} {contract : ℕ} {major minor : UInt16}
    (h : ContractRange contract)
    (hparse : parse (memory.load contract bootInfoSize) = .err (.unsupportedVersion major minor)) :
    polytopeKernelMain memory contract bootInfoSize =
      ⟨[abiVersionRejected], .contractRejected⟩ := by
  unfold polytopeKernelMain
  rw [if_neg (by simp), if_neg (by simp [h.nonzero, h.aligned, checkedSize_of_lt h.fits]), hparse]

end PolytopeOS.Kernel
