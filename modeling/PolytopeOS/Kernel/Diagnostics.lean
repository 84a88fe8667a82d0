import PolytopeOS.Kernel.Main

/-!
# The kernel's diagnostic table

`docs/boot/DIAGNOSTICS.md` assigns a code to every way a handoff can go wrong.
`FollowsTable` states that assignment for an arbitrary length and contract, and
`kernel_follows_table_iff` says on which inputs the kernel keeps to it.
-/

namespace PolytopeOS.Kernel
open Corelib Arch BootContract

/-- How the kernel ends when the parser rejects the contract. -/
def rejection : ValidationError → Halt
  | .unsupportedVersion _ _ => ⟨[abiVersionRejected], .contractRejected⟩
  | .truncated _ _ | .lengthMismatch _ _ => ⟨[contractLengthRejected], .contractRejected⟩
  | _ => ⟨[contractInvalid], .contractRejected⟩

theorem polytopeKernelMain_of_err {memory : Memory} {contract : ℕ} {e : ValidationError}
    (h : ContractRange contract) (hparse : parse (memory.load contract bootInfoSize) = .err e) :
    polytopeKernelMain memory contract bootInfoSize = rejection e := by
  unfold polytopeKernelMain
  rw [if_neg (by simp), if_neg (by simp [h.nonzero, h.aligned, checkedSize_of_lt h.fits]), hparse]
  cases e <;> rfl

/-- The codes of the kernel's diagnostic table. -/
inductive Diagnostic where
  | kernelReady
  | abiVersion
  | contractLength
  | contractInvalid
  | kernelPanic
  deriving DecidableEq, Repr

def Diagnostic.record : Diagnostic → Bytes
  | .kernelReady => Kernel.kernelReady
  | .abiVersion => abiVersionRejected
  | .contractLength => contractLengthRejected
  | .contractInvalid => Kernel.contractInvalid
  | .kernelPanic => Kernel.kernelPanic

/-- The last letter of a record, which tells the codes apart. -/
def Diagnostic.lastLetter : Diagnostic → UInt8
  | .kernelReady => 89
  | .abiVersion => 78
  | .contractLength => 72
  | .contractInvalid => 68
  | .kernelPanic => 67

theorem Diagnostic.getLast?_record (d : Diagnostic) : d.record.getLast? = some d.lastLetter := by
  cases d <;> decide +kernel

theorem Diagnostic.record_inj {a b : Diagnostic} : a.record = b.record ↔ a = b := by
  refine ⟨fun h => ?_, congrArg _⟩
  have hlast : a.lastLetter = b.lastLetter := by
    rw [← Option.some_inj, ← getLast?_record, ← getLast?_record, h]
  cases a <;> cases b <;> first | rfl | exact absurd hlast (by decide)

/-- The three sizes that ABI 1.0 fixes. -/
def FixedSizes (header : BootHeader) : Prop :=
  header.headerSize = bootHeaderSizeU32 ∧ header.totalSize = bootInfoSizeU32 ∧
    header.memoryRegionSize = memoryRegionSizeU32
  deriving Decidable

def RightVersion (header : BootHeader) : Prop :=
  (header.abiMajor, header.abiMinor) = (abiMajor, abiMinor)
  deriving Decidable

/-- What the table of `docs/boot/DIAGNOSTICS.md` asks of a kernel that was given
`length` and finds the contract `info` at its address: exactly one record, with
the code that the table assigns. -/
structure FollowsTable (halt : Halt) (length : ℕ) (info : BootInfo) : Prop where
  one : ∃ record, halt.records = [record]
  contractLength : halt.records = [contractLengthRejected] ↔ length ≠ bootInfoSize ∨
    (info.header.magic = bootMagic ∧ RightVersion info.header ∧ ¬FixedSizes info.header)
  abiVersion : halt.records = [abiVersionRejected] ↔
    length = bootInfoSize ∧ info.header.magic = bootMagic ∧ ¬RightVersion info.header
  kernelReady : halt.records = [kernelReady] ↔
    length = bootInfoSize ∧ ContractValid info ∧ info.scenario.kind = .normal
  kernelPanic : halt.records = [kernelPanic] ↔
    length = bootInfoSize ∧ ContractValid info ∧ info.scenario.kind = .deliberatePanic
  contractInvalid : halt.records = [contractInvalid] ↔
    ¬(length ≠ bootInfoSize ∨
      (info.header.magic = bootMagic ∧ RightVersion info.header ∧ ¬FixedSizes info.header)) ∧
    ¬(length = bootInfoSize ∧ info.header.magic = bootMagic ∧ ¬RightVersion info.header) ∧
    ¬(length = bootInfoSize ∧ ContractValid info ∧ info.scenario.kind = .normal) ∧
    ¬(length = bootInfoSize ∧ ContractValid info ∧ info.scenario.kind = .deliberatePanic)

/-- The code the table assigns, as one chain of cases. -/
def prescribed (length : ℕ) (info : BootInfo) : Diagnostic :=
  if length = bootInfoSize then
    if info.header.magic = bootMagic then
      if RightVersion info.header then
        if FixedSizes info.header then
          if ContractValid info then
            if info.scenario.kind = .normal then .kernelReady
            else if info.scenario.kind = .deliberatePanic then .kernelPanic
            else .contractInvalid
          else .contractInvalid
        else .contractLength
      else .abiVersion
    else .contractInvalid
  else .contractLength

/-- A valid contract has the right magic, version and sizes, so the cases of the
table exclude each other. -/
theorem fixed_of_contractValid {info : BootInfo} (h : ContractValid info) :
    info.header.magic = bootMagic ∧ RightVersion info.header ∧ FixedSizes info.header := by
  obtain ⟨hmagic, hmajor, hminor, hsize, htotal, hregion, -⟩ := h.header
  exact ⟨hmagic, Prod.ext hmajor hminor, hsize, htotal, hregion⟩

theorem prescribed_eq_contractLength {length : ℕ} {info : BootInfo} :
    prescribed length info = .contractLength ↔ length ≠ bootInfoSize ∨
      (info.header.magic = bootMagic ∧ RightVersion info.header ∧ ¬FixedSizes info.header) := by
  unfold prescribed
  split_ifs <;> simp_all

theorem prescribed_eq_abiVersion {length : ℕ} {info : BootInfo} :
    prescribed length info = .abiVersion ↔
      length = bootInfoSize ∧ info.header.magic = bootMagic ∧ ¬RightVersion info.header := by
  unfold prescribed
  split_ifs <;> simp_all

theorem prescribed_eq_kernelReady {length : ℕ} {info : BootInfo} :
    prescribed length info = .kernelReady ↔
      length = bootInfoSize ∧ ContractValid info ∧ info.scenario.kind = .normal := by
  have hfixed : ContractValid info → info.header.magic = bootMagic ∧ RightVersion info.header ∧
      FixedSizes info.header := fixed_of_contractValid
  unfold prescribed
  split_ifs <;> simp_all

theorem prescribed_eq_kernelPanic {length : ℕ} {info : BootInfo} :
    prescribed length info = .kernelPanic ↔
      length = bootInfoSize ∧ ContractValid info ∧ info.scenario.kind = .deliberatePanic := by
  have hfixed : ContractValid info → info.header.magic = bootMagic ∧ RightVersion info.header ∧
      FixedSizes info.header := fixed_of_contractValid
  have hdistinct : ScenarioKind.normal ≠ .deliberatePanic := by decide
  unfold prescribed
  split_ifs <;> simp_all

theorem Diagnostic.eq_contractInvalid {d : Diagnostic} : d = .contractInvalid ↔
    d ≠ .contractLength ∧ d ≠ .abiVersion ∧ d ≠ .kernelReady ∧ d ≠ .kernelPanic := by
  cases d <;> simp

theorem followsTable_iff {halt : Halt} {length : ℕ} {info : BootInfo} :
    FollowsTable halt length info ↔ halt.records = [(prescribed length info).record] := by
  constructor
  · intro h
    cases hd : prescribed length info with
    | contractLength => exact h.contractLength.mpr (prescribed_eq_contractLength.mp hd)
    | abiVersion => exact h.abiVersion.mpr (prescribed_eq_abiVersion.mp hd)
    | kernelReady => exact h.kernelReady.mpr (prescribed_eq_kernelReady.mp hd)
    | kernelPanic => exact h.kernelPanic.mpr (prescribed_eq_kernelPanic.mp hd)
    | contractInvalid =>
      apply h.contractInvalid.mpr
      rw [← prescribed_eq_contractLength, ← prescribed_eq_abiVersion, ← prescribed_eq_kernelReady,
        ← prescribed_eq_kernelPanic]
      exact Diagnostic.eq_contractInvalid.mp hd
  · intro h
    have hrecord : ∀ d : Diagnostic, halt.records = [d.record] ↔ prescribed length info = d := by
      intro d
      rw [h, List.singleton_inj, Diagnostic.record_inj]
    refine ⟨⟨_, h⟩, (hrecord .contractLength).trans prescribed_eq_contractLength,
      (hrecord .abiVersion).trans prescribed_eq_abiVersion,
      (hrecord .kernelReady).trans prescribed_eq_kernelReady,
      (hrecord .kernelPanic).trans prescribed_eq_kernelPanic,
      (hrecord .contractInvalid).trans ?_⟩
    rw [← prescribed_eq_contractLength, ← prescribed_eq_abiVersion, ← prescribed_eq_kernelReady,
      ← prescribed_eq_kernelPanic]
    exact Diagnostic.eq_contractInvalid

theorem rejection_of_subject {e : ValidationError} (hheader : e.subject ≠ .header)
    (hlength : e.subject ≠ .length) : rejection e = ⟨[contractInvalid], .contractRejected⟩ := by
  cases e <;> first | exact absurd rfl hheader | exact absurd rfl hlength | rfl

theorem validateHeader_of_magic {header : BootHeader} (h : header.magic ≠ bootMagic) :
    validateHeader header = .err .badMagic :=
  if_pos h

theorem validateHeader_of_version {header : BootHeader} (hmagic : header.magic = bootMagic)
    (h : ¬RightVersion header) :
    validateHeader header = .err (.unsupportedVersion header.abiMajor header.abiMinor) := by
  unfold RightVersion at h
  unfold validateHeader
  rw [if_neg (not_not.mpr hmagic), if_pos h]

/-- Past the version check every failing header rule ends in the same record,
the ones about the fixed sizes included. -/
theorem rejection_of_header {header : BootHeader} {e : ValidationError}
    (hmagic : header.magic = bootMagic) (hversion : RightVersion header)
    (h : validateHeader header = .err e) :
    rejection e = ⟨[contractInvalid], .contractRejected⟩ := by
  unfold RightVersion at hversion
  unfold validateHeader at h
  rw [if_neg (not_not.mpr hmagic), if_neg (not_not.mpr hversion)] at h
  split_ifs at h
  all_goals
    rw [← Exec.err.inj h]
    rfl

theorem rejection_of_version {info : BootInfo} {e : ValidationError}
    (hmagic : info.header.magic = bootMagic) (hversion : RightVersion info.header)
    (h : validateRef info = .err e) : rejection e = ⟨[contractInvalid], .contractRejected⟩ := by
  rcases validateRef_eq_err.mp h with h | ⟨-, h | ⟨-, h | ⟨-, h⟩⟩⟩
  · exact rejection_of_header hmagic hversion h
  · have hsubject := validatePlatform_fails _ e h
    exact rejection_of_subject (by simp [hsubject]) (by simp [hsubject])
  · have hsubject := validateScenario_fails _ e h
    exact rejection_of_subject (by simp [hsubject]) (by simp [hsubject])
  · have hsubject := validateRegions_fails _ e h
    exact rejection_of_subject (by simp [hsubject]) (by simp [hsubject])

section
variable {memory : Memory} {contract : ℕ} {info : BootInfo}

theorem polytopeKernelMain_of_invalid {e : ValidationError} (hrange : ContractRange contract)
    (hload : memory.load contract bootInfoSize = info.wire) (h : validateRef info = .err e) :
    polytopeKernelMain memory contract bootInfoSize = rejection e := by
  apply polytopeKernelMain_of_err hrange
  rw [hload, parse_wire]
  exact BootInfo.validate_eq_err.mpr h

theorem polytopeKernelMain_of_valid (hrange : ContractRange contract)
    (hload : memory.load contract bootInfoSize = info.wire) (h : ContractValid info) :
    polytopeKernelMain memory contract bootInfoSize = enter ⟨info, validateRef_eq_ok.mpr h⟩ := by
  apply polytopeKernelMain_of_parse hrange
  rw [hload, parse_wire]
  exact BootInfo.validate_eq_ok.mpr ⟨validateRef_eq_ok.mpr h, rfl⟩

/-- A contract with the right magic and version that is not valid ends in
`CONTRACT_INVALID`, whichever rule it breaks. -/
theorem polytopeKernelMain_of_version_right (hrange : ContractRange contract)
    (hload : memory.load contract bootInfoSize = info.wire)
    (hmagic : info.header.magic = bootMagic) (hversion : RightVersion info.header)
    (h : ¬ContractValid info) :
    polytopeKernelMain memory contract bootInfoSize = ⟨[contractInvalid], .contractRejected⟩ := by
  cases hvalid : validateRef info with
  | ok u => exact absurd (validateRef_eq_ok.mp hvalid) h
  | err e =>
    rw [polytopeKernelMain_of_invalid hrange hload hvalid]
    exact rejection_of_version hmagic hversion hvalid
  | panic => exact absurd hvalid (validateRef_ne_panic info)

/-- Except for the fixed sizes the kernel emits the code that the table assigns. -/
theorem polytopeKernelMain_records (hrange : ContractRange contract)
    (hload : memory.load contract bootInfoSize = info.wire)
    (hsizes : ¬(info.header.magic = bootMagic ∧ RightVersion info.header ∧
      ¬FixedSizes info.header)) :
    (polytopeKernelMain memory contract bootInfoSize).records =
      [(prescribed bootInfoSize info).record] := by
  unfold prescribed
  rw [if_pos rfl]
  split_ifs with hmagic hversion hfixed hvalid hnormal hpanic
  · rw [polytopeKernelMain_of_valid hrange hload hvalid, enter, if_pos hnormal]
    rfl
  · rw [polytopeKernelMain_of_valid hrange hload hvalid, enter, if_neg hnormal, if_pos hpanic]
    rfl
  · rw [polytopeKernelMain_of_valid hrange hload hvalid, enter, if_neg hnormal, if_neg hpanic]
    rfl
  · rw [polytopeKernelMain_of_version_right hrange hload hmagic hversion hvalid]
    rfl
  · exact absurd ⟨hmagic, hversion, hfixed⟩ hsizes
  · have herr := validateRef_eq_err.mpr (Or.inl (validateHeader_of_version hmagic hversion))
    rw [polytopeKernelMain_of_invalid hrange hload herr]
    rfl
  · have herr := validateRef_eq_err.mpr (Or.inl (validateHeader_of_magic hmagic))
    rw [polytopeKernelMain_of_invalid hrange hload herr]
    rfl

/-- A wrong fixed size is reported as `CONTRACT_INVALID`, where the table asks
for `CONTRACT_LENGTH`. -/
theorem not_followsTable_of_sizes (hrange : ContractRange contract)
    (hload : memory.load contract bootInfoSize = info.wire)
    (hmagic : info.header.magic = bootMagic) (hversion : RightVersion info.header)
    (hsizes : ¬FixedSizes info.header) :
    ¬FollowsTable (polytopeKernelMain memory contract bootInfoSize) bootInfoSize info := by
  intro h
  have hinvalid : ¬ContractValid info := fun hvalid => hsizes (fixed_of_contractValid hvalid).2.2
  have hlength := h.contractLength.mpr (Or.inr ⟨hmagic, hversion, hsizes⟩)
  rw [polytopeKernelMain_of_version_right hrange hload hmagic hversion hinvalid,
    List.singleton_inj] at hlength
  exact absurd (Diagnostic.record_inj (a := .contractInvalid) (b := .contractLength).mp hlength)
    (by decide)

end

/-- The kernel follows the diagnostic table on every length and every contract
at a usable address, except on a contract whose magic and version are right and
one of whose fixed sizes is not. -/
theorem kernel_follows_table_iff (memory : Memory) (contract length : ℕ) (hnull : contract ≠ 0)
    (haligned : contract % pageSizeBytes = 0) (hwraps : contract + length < 2 ^ 64) :
    ∃ info : BootInfo, memory.load contract bootInfoSize = info.wire ∧
      (FollowsTable (polytopeKernelMain memory contract length) length info ↔
        ¬(length = bootInfoSize ∧ info.header.magic = bootMagic ∧ RightVersion info.header ∧
          ¬FixedSizes info.header)) := by
  obtain ⟨info, -, -, -, hload⟩ := readInfo_new (Memory.length_load memory contract bootInfoSize)
  refine ⟨info, hload, ?_⟩
  by_cases hlength : length = bootInfoSize
  · subst hlength
    have hrange : ContractRange contract := ⟨hnull, haligned, hwraps⟩
    constructor
    · rintro h ⟨-, hmagic, hversion, hsizes⟩
      exact not_followsTable_of_sizes hrange hload hmagic hversion hsizes h
    · intro h
      rw [followsTable_iff]
      exact polytopeKernelMain_records hrange hload fun hsizes => h ⟨rfl, hsizes⟩
  · refine iff_of_true ?_ fun h => hlength h.1
    rw [followsTable_iff, polytopeKernelMain_of_length hlength, prescribed, if_neg hlength]
    rfl

def validMemory : Memory := Memory.store (fun _ => 0) 4096 sampleInfo.wire

/-- A truncated length over zeros, and the full length over a valid contract. -/
theorem kernel_follows_table_iff_truncated :
    (∃ info : BootInfo, Memory.load (fun _ => 0) 4096 bootInfoSize = info.wire ∧
      FollowsTable (polytopeKernelMain (fun _ => 0) 4096 4175) 4175 info) ∧
    validMemory.load 4096 bootInfoSize = sampleInfo.wire ∧
      FollowsTable (polytopeKernelMain validMemory 4096 4176) 4176 sampleInfo := by
  obtain ⟨info, hload, htruncated⟩ :=
    kernel_follows_table_iff (fun _ => 0) 4096 4175 (by decide) (by decide) (by decide)
  obtain ⟨info', hload', hvalid⟩ :=
    kernel_follows_table_iff validMemory 4096 4176 (by decide) (by decide) (by decide)
  have hwire : validMemory.load 4096 bootInfoSize = sampleInfo.wire := by
    rw [validMemory, Memory.load_store _ _ sampleInfo.length_wire.ge,
      List.take_of_length_le sampleInfo.length_wire.le]
  obtain rfl : info' = sampleInfo :=
    decodes_readInfo.injective trivial trivial (hload'.symm.trans hwire)
  refine ⟨⟨info, hload, htruncated.mpr fun hbad => absurd hbad.1 (by decide)⟩, hwire, ?_⟩
  exact hvalid.mpr fun hbad => hbad.2.2.2 (by decide)

/-- A valid contract but for a header size of 33. -/
def wrongSizeInfo : BootInfo :=
  { sampleInfo with header := { sampleInfo.header with headerSize := 33 } }

def wrongSizeMemory : Memory := Memory.store (fun _ => 0) 4096 wrongSizeInfo.wire

theorem wrong_header_size_breaks_table :
    wrongSizeMemory.load 4096 4176 = wrongSizeInfo.wire ∧
      polytopeKernelMain wrongSizeMemory 4096 4176 = ⟨[contractInvalid], .contractRejected⟩ ∧
      ¬FollowsTable (polytopeKernelMain wrongSizeMemory 4096 4176) 4176 wrongSizeInfo := by
  have hload : wrongSizeMemory.load 4096 bootInfoSize = wrongSizeInfo.wire := by
    rw [wrongSizeMemory, Memory.load_store _ _ wrongSizeInfo.length_wire.ge,
      List.take_of_length_le wrongSizeInfo.length_wire.le]
  have hrange : ContractRange 4096 := ⟨by decide, by decide, by decide⟩
  have hsizes : ¬FixedSizes wrongSizeInfo.header := by decide
  exact ⟨hload,
    polytopeKernelMain_of_version_right hrange hload rfl rfl
      fun hvalid => hsizes (fixed_of_contractValid hvalid).2.2,
    not_followsTable_of_sizes hrange hload rfl rfl hsizes⟩

end PolytopeOS.Kernel
