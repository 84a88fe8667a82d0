import PolytopeOS.Loader.Contract
import PolytopeOS.Loader.Load

/-!
# Preparing the kernel

Everything the loader does under boot services: read the two files, validate
them, load the kernel, reserve the stack guard and allocate contract storage.
The firmware's file layer and heap are parameters that may fail at any call.
-/

namespace PolytopeOS.Loader
open Corelib Arch BootContract BootElf

def fileReadChunkBytes : ℕ := 64 * 1024

/-- An open file: what each call of `read` delivers into a chunk of the given
length, `none` being a device error. -/
structure RegularFile where
  read : ℕ → ℕ → Option Bytes
  read_le : ∀ {call length bytes}, read call length = some bytes → bytes.length ≤ length

/-- A root directory. Opening a path fails, or gives a directory or a file. -/
structure Directory where
  openFile : String → Option (Option RegularFile)

/-- The firmware as the loader finds it. -/
structure Platform where
  firmware : Firmware
  /-- `get_image_file_system` and then `open_volume`. -/
  imageFileSystem : Option (Option Directory)
  /-- Whether a heap reservation succeeds, by path and number of the request. -/
  tryReserve : String → ℕ → Bool
  /-- Where the heap places the kernel file. -/
  kernelBuffer : ℕ

/-- The `loop` of `read_bounded_file` from its read number `call` on. -/
def readLoop (file : RegularFile) (tryReserve : ℕ → Bool) (maximum chunkLength : ℕ)
    (limitError : LoaderError) (call : ℕ) (bytes : Bytes) : Exec LoaderError Bytes :=
  match file.read call chunkLength with
  | none => .err .fileRead
  | some chunk =>
    if _hcount : chunk.length = 0 then .ok bytes
    else
      match _hlength : checkedSize (bytes.length + chunk.length) with
      | none => .err limitError
      | some newLength =>
        if _hlimit : newLength > maximum then .err limitError
        else if !tryReserve (call + 1) then .err .allocation
        else readLoop file tryReserve maximum chunkLength limitError (call + 1) (bytes ++ chunk)
termination_by maximum - bytes.length
decreasing_by
  have hlength := (checkedSize_eq_some.mp _hlength).2
  rw [List.length_append]
  omega

def readBoundedFile (root : Directory) (tryReserve : String → ℕ → Bool) (path : String)
    (maximum : ℕ) (limitError : LoaderError) : Exec LoaderError Bytes := do
  let handle ← Exec.okOr (root.openFile path) .fileRead
  let file ← Exec.okOr handle .fileRead
  let chunkLength := max 1 (min maximum fileReadChunkBytes)
  if !tryReserve path 0 then .err .allocation
  else readLoop file (tryReserve path) maximum chunkLength limitError 0 []

def reserveStackGuard (firmware : Firmware) : Action Machine LoaderError Unit := do
  let allocation ← firmware.allocate (.address stackGuardAddress) stackGuardMemoryType 1
    .kernelAddress
  if allocation ≠ stackGuardAddress.toNat then Action.lift (.err .kernelAddress) else pure ()

/-- The number of pages that `ContractStorage::allocate` requests. -/
def contractPages : ℕ := (bootInfoSize + (pageBytes - 1)) / pageBytes

/-- The storage invariant comes from the firmware's grant. -/
def ContractStorage.allocate (firmware : Firmware) : Action Machine LoaderError ContractStorage :=
  fun m =>
    match h : firmware.allocatePages .anyPages contractMemoryType contractPages m with
    | none => (.err .contractStorage, m)
    | some (base, m') =>
      let storage : ContractStorage :=
        { base
          byteLength := contractPages * pageBytes
          nonnull := (firmware.granted h).elim fun _ hfound => hfound.2.nonnull
          aligned := (firmware.granted h).elim fun _ hfound => hfound.2.aligned
          byteLength_eq := rfl
          fits := (firmware.granted h).elim fun _ hfound => hfound.2.fits }
      (.ok storage, m')

def kernelFile : String := "\\POLYTOPE\\KERNEL.ELF"
def scenarioFile : String := "\\POLYTOPE\\BOOT.CFG"

/-- What a successful `prepare_kernel` hands back. -/
structure Prepared where
  entryPoint : UInt64
  contractStorage : ContractStorage
  scenario : BootScenario

/-- The block that holds the file-system protocol: the kernel file and the scenario. -/
def readFiles (platform : Platform) : Exec LoaderError (Bytes × BootScenario) := do
  let protocol ← Exec.okOr platform.imageFileSystem .fileRead
  let root ← Exec.okOr protocol .fileRead
  let kernel ← readBoundedFile root platform.tryReserve kernelFile maxElfFileSize .elfInvalid
  let scenarioBytes ←
    readBoundedFile root platform.tryReserve scenarioFile maxScenarioBytes .configInvalid
  let scenario ← Exec.mapErr (fun _ => .configInvalid) (BootScenario.parse scenarioBytes)
  pure (kernel, scenario)

def prepareKernel (platform : Platform) : Action Machine LoaderError Prepared := do
  let (kernel, scenario) ← Action.lift (readFiles platform)
  Action.modify fun m => { m with memory := m.memory.store platform.kernelBuffer kernel }
  let elf ← Action.lift (Exec.mapErr (fun _ => .elfInvalid) (BootElf.parse kernel))
  loadSegments platform.firmware platform.kernelBuffer elf
  reserveStackGuard platform.firmware
  let contractStorage ← ContractStorage.allocate platform.firmware
  pure ⟨elf.entryPoint, contractStorage, scenario⟩

/-- An error that is reported by a record with sequence number 2. -/
def LoaderError.Early (e : LoaderError) : Prop := e ≠ .contract
  deriving Decidable

theorem readLoop_fails {limitError : LoaderError} (hlimit : limitError.Early) (file : RegularFile)
    (tryReserve : ℕ → Bool) (maximum chunkLength call : ℕ) (bytes : Bytes) :
    (readLoop file tryReserve maximum chunkLength limitError call bytes).Fails
      LoaderError.Early := by
  fun_induction readLoop file tryReserve maximum chunkLength limitError call bytes with
  | case1 => exact .err nofun
  | case2 => exact nofun
  | case3 => exact .err hlimit
  | case4 => exact .err hlimit
  | case5 => exact .err nofun
  | case6 _ _ _ _ _ _ _ _ _ ih => exact ih

theorem readBoundedFile_fails {limitError : LoaderError} (hlimit : limitError.Early)
    (root : Directory) (tryReserve : String → ℕ → Bool) (path : String) (maximum : ℕ) :
    (readBoundedFile root tryReserve path maximum limitError).Fails LoaderError.Early := by
  refine .bind (.okOr nofun _) fun handle => .bind (.okOr nofun _) fun file => ?_
  dsimp only
  split
  · exact .err nofun
  · exact readLoop_fails hlimit file _ _ _ _ _

theorem readFiles_fails (platform : Platform) : (readFiles platform).Fails LoaderError.Early :=
  .bind (.okOr nofun _) fun _ => .bind (.okOr nofun _) fun root =>
    .bind (readBoundedFile_fails (by decide) root _ _ _) fun _ =>
      .bind (readBoundedFile_fails (by decide) root _ _ _) fun _ =>
        .bind (.mapErr (fun _ => nofun) _) fun _ => nofun

theorem allocate_fails {error : LoaderError} (herror : error.Early) (firmware : Firmware)
    (request : AllocateType) (ty : MemoryType) (count : ℕ) :
    (firmware.allocate request ty count error).Fails LoaderError.Early := by
  intro m e h
  unfold Firmware.allocate at h
  split at h
  · cases h
  · cases h
    exact herror

theorem loadSegment_fails (firmware : Firmware) (file : ℕ) (segment : LoadSegment) :
    (loadSegment firmware file segment).Fails LoaderError.Early := by
  refine .bind (allocate_fails (by decide) _ _ _ _) fun allocation => ?_
  split
  · exact .lift (.err nofun)
  · exact .bind (.lift (.okOr nofun _)) fun _ => .bind (.modify _) fun _ => .modify _

theorem loadSegmentsFrom_fails (firmware : Firmware) (file : ℕ) (it : LoadSegments) :
    (loadSegmentsFrom firmware file it).Fails LoaderError.Early := by
  fun_induction loadSegmentsFrom firmware file it with
  | case1 it segment rest hnext ih => exact .bind (loadSegment_fails _ _ _) fun _ => ih
  | case2 => exact .pure ()
  | case3 => exact .lift nofun

theorem reserveStackGuard_fails (firmware : Firmware) :
    (reserveStackGuard firmware).Fails LoaderError.Early := by
  refine .bind (allocate_fails (by decide) _ _ _ _) fun allocation => ?_
  split
  · exact .lift (.err nofun)
  · exact .pure ()

theorem allocateStorage_fails (firmware : Firmware) :
    (ContractStorage.allocate firmware).Fails LoaderError.Early := by
  intro m e h
  unfold ContractStorage.allocate at h
  split at h
  · cases h
    exact nofun
  · cases h

/-- `prepare_kernel` never reports a contract failure. -/
theorem prepareKernel_fails (platform : Platform) :
    (prepareKernel platform).Fails LoaderError.Early :=
  .bind (.lift (readFiles_fails platform)) fun _ => .bind (.modify _) fun _ =>
    .bind (.lift (.mapErr (fun _ => nofun) _)) fun _ =>
      .bind (loadSegmentsFrom_fails _ _ _) fun _ =>
        .bind (reserveStackGuard_fails _) fun _ =>
          .bind (allocateStorage_fails _) fun _ => .pure _

/-- `encode_contract` reports nothing else. -/
theorem encodeContract_fails (descriptors : List MemoryDescriptor) (storage : ContractStorage)
    (scenario : BootScenario) (memory : Memory) :
    (encodeContract descriptors storage scenario memory).1.Fails (· = .contract) := by
  by_cases hmap : MapValid descriptors
  · obtain ⟨stored, _, _, hencode⟩ := encodeContract_of_valid storage scenario memory hmap
    rw [hencode]
    exact nofun
  · rw [encodeContract_of_invalid storage scenario memory hmap]
    exact .err rfl

end PolytopeOS.Loader
