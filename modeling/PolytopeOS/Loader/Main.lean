import PolytopeOS.Kernel.Main
import PolytopeOS.Loader.Prepare

/-!
# The guest's run

`main` reports its progress by records, and the sequence number that a panic
reports is a variable that it updates between them. A `GuestRun` holds the
outcome of each stage; the record of a failed stage depends only on its error.
-/

namespace PolytopeOS.Loader
open Corelib Arch

def loaderStart : Bytes :=
  ascii "POLYTOPE_BOOT schema=1 seq=0001 phase=loader level=info code=LOADER_START"

def elfValid : Bytes :=
  ascii "POLYTOPE_BOOT schema=1 seq=0002 phase=loader level=info code=ELF_VALID"

def handoffReady : Bytes :=
  ascii "POLYTOPE_BOOT schema=1 seq=0003 phase=handoff level=info code=HANDOFF_READY"

def LoaderError.marker : LoaderError → Bytes
  | .fileRead => ascii "POLYTOPE_BOOT schema=1 seq=0002 phase=loader level=error code=FILE_READ"
  | .configInvalid =>
    ascii "POLYTOPE_BOOT schema=1 seq=0002 phase=loader level=error code=CONFIG_INVALID"
  | .elfInvalid =>
    ascii "POLYTOPE_BOOT schema=1 seq=0002 phase=loader level=error code=ELF_INVALID"
  | .allocation =>
    ascii "POLYTOPE_BOOT schema=1 seq=0002 phase=loader level=error code=ALLOCATION"
  | .kernelAddress =>
    ascii "POLYTOPE_BOOT schema=1 seq=0002 phase=loader level=error code=KERNEL_ADDRESS"
  | .contractStorage =>
    ascii "POLYTOPE_BOOT schema=1 seq=0002 phase=loader level=error code=CONTRACT_STORAGE"
  | .contract =>
    ascii "POLYTOPE_BOOT schema=1 seq=0003 phase=handoff level=error code=CONTRACT_BUILD"

def loaderPanicSequence2 : Bytes :=
  ascii "POLYTOPE_BOOT schema=1 seq=0002 phase=loader level=fatal code=LOADER_PANIC"

def loaderPanicSequence3 : Bytes :=
  ascii "POLYTOPE_BOOT schema=1 seq=0003 phase=handoff level=fatal code=LOADER_PANIC"

def loaderPanicSequence4 : Bytes :=
  ascii "POLYTOPE_BOOT schema=1 seq=0004 phase=handoff level=fatal code=LOADER_PANIC"

/-- What the loader has written, and `NEXT_PANIC_SEQUENCE`. -/
structure LoaderState where
  records : List Bytes
  nextPanicSequence : UInt8

namespace LoaderState

def init : LoaderState := ⟨[], 2⟩

def writeRecord (state : LoaderState) (record : Bytes) : LoaderState :=
  { state with records := state.records ++ [record] }

def storeSequence (state : LoaderState) (sequence : UInt8) : LoaderState :=
  { state with nextPanicSequence := sequence }

def exit (state : LoaderState) (code : QemuExitCode) : Halt := ⟨state.records, code⟩

def fail (state : LoaderState) (error : LoaderError) : Halt :=
  (state.writeRecord error.marker).exit .loaderFailure

/-- The panic handler. -/
def panic (state : LoaderState) : Halt :=
  let marker :=
    if state.nextPanicSequence = 2 then loaderPanicSequence2
    else if state.nextPanicSequence = 3 then loaderPanicSequence3
    else loaderPanicSequence4
  (state.writeRecord marker).exit .loaderFailure

end LoaderState

/-- How control leaves the loader once it transfers to the kernel. -/
inductive Transfer where
  /-- `transfer_to_kernel` panics. -/
  | panicked
  /-- The entry shim finds its probe not cleared. -/
  | bssClearFailure
  /-- `polytope_kernel_main` returns to the shim. -/
  | returned
  /-- The kernel runs on some contract bytes and length. -/
  | kernel (memory : Memory) (contract length : ℕ)

/-- The outcomes of the stages of one run. A failed `prepare_kernel` never gives
the contract error, and a failed `encode_contract` always does. -/
structure GuestRun where
  prepared : Exec LoaderError Prepared
  encoded : Exec LoaderError ℕ
  transfer : Transfer
  prepared_fails : prepared.Fails LoaderError.Early
  encoded_fails : encoded.Fails (· = .contract)

/-- The loader's `main`, up to the emulator's exit. -/
def main (run : GuestRun) : Halt :=
  let state := LoaderState.init.writeRecord loaderStart
  match run.prepared with
  | .err error => state.fail error
  | .panic => state.panic
  | .ok _ =>
    let state := (state.writeRecord elfValid).storeSequence 3
    match run.encoded with
    | .err error => state.fail error
    | .panic => state.panic
    | .ok _ =>
      let state := (state.writeRecord handoffReady).storeSequence 4
      match run.transfer with
      | .panicked => state.panic
      | .bssClearFailure => state.exit .loaderFailure
      | .returned => state.exit .kernelReturned
      | .kernel memory contract length =>
        let halt := Kernel.polytopeKernelMain memory contract length
        ⟨state.records ++ halt.records, halt.code⟩

/-- The handoff record is written once both stages have succeeded. -/
theorem main_handoffReady {run : GuestRun} :
    handoffReady ∈ (main run).records ↔
      ∃ p length, run.prepared = .ok p ∧ run.encoded = .ok length := by
  have hstart : handoffReady ≠ loaderStart := by decide +kernel
  have hvalid : handoffReady ≠ elfValid := by decide +kernel
  have hmarker : ∀ error : LoaderError, handoffReady ≠ error.marker := by
    intro error
    cases error <;> decide +kernel
  obtain ⟨prepared, encoded, transfer, hprepared, hencoded⟩ := run
  cases prepared with
  | err error =>
    show handoffReady ∈ [loaderStart, error.marker] ↔ _
    simp [hstart, hmarker]
  | panic =>
    have hpanic : handoffReady ≠ loaderPanicSequence2 := by decide +kernel
    show handoffReady ∈ [loaderStart, loaderPanicSequence2] ↔ _
    simp [hstart, hpanic]
  | ok p =>
    cases encoded with
    | err error =>
      show handoffReady ∈ [loaderStart, elfValid, error.marker] ↔ _
      simp [hstart, hvalid, hmarker]
    | panic =>
      have hpanic : handoffReady ≠ loaderPanicSequence3 := by decide +kernel
      show handoffReady ∈ [loaderStart, elfValid, loaderPanicSequence3] ↔ _
      simp [hstart, hvalid, hpanic]
    | ok length =>
      refine iff_of_true ?_ ⟨p, length, rfl, rfl⟩
      cases transfer <;> exact List.mem_of_getElem? (i := 2) rfl

/-- The run of the modelled stages on a platform whose final map is `map`. -/
def GuestRun.ofPlatform (platform : Platform) (m : Machine) (map : List MemoryDescriptor)
    (transfer : Transfer) : GuestRun :=
  let prepared := prepareKernel platform m
  { prepared := prepared.1
    encoded :=
      match prepared.1 with
      | .ok p => (encodeContract map p.contractStorage p.scenario prepared.2.memory).1
      | _ => .panic
    transfer
    prepared_fails := fun e => prepareKernel_fails platform m e
    encoded_fails := by
      split
      · exact encodeContract_fails _ _ _ _
      · exact nofun }

end PolytopeOS.Loader
