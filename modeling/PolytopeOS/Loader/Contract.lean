import PolytopeOS.BootContract.Builder
import PolytopeOS.Kernel.Main
import PolytopeOS.Loader.Types

/-!
# Handing the memory map to the kernel

`encodeContract` turns the firmware's memory map into a contract in retained
pages, and spoils it on purpose in two of the test scenarios. The main result
follows the bytes through physical memory into the kernel's own checks.
-/

namespace PolytopeOS.Loader
open Corelib Arch BootContract Kernel

def normalizeMemoryKind (descriptor : MemoryDescriptor) : MemoryKind :=
  if descriptor.ty = stackGuardMemoryType then .reserved
  else if descriptor.ty = kernelMemoryType then .kernelImage
  else if descriptor.ty = contractMemoryType then .bootContract
  else if descriptor.ty = .conventional then .usable
  else if descriptor.ty = .loaderCode ∨ descriptor.ty = .loaderData ∨
      descriptor.ty = .bootServicesCode ∨ descriptor.ty = .bootServicesData then .reclaimable
  else if descriptor.ty = .runtimeServicesCode ∨ descriptor.ty = .runtimeServicesData then
    .firmwareRuntime
  else if descriptor.ty = .acpiReclaim then .acpiReclaimable
  else if descriptor.ty = .acpiNonVolatile then .acpiNvs
  else if descriptor.ty = .mmio ∨ descriptor.ty = .mmioPortSpace then .mmio
  else .reserved

def BootScenario.scenarioInfo : BootScenario → ScenarioInfo
  | .normal => .normal
  | .incompatibleVersion => .test .incompatibleVersion 0
  | .truncatedContract => .test .malformedMetadata 0
  | .deliberatePanic => .test .deliberatePanic 0

/-- One iteration of the loop over the map: the contract so far and the index of
its next region. -/
def contractStep (_ : ℕ) (state : BootInfo × ℕ) (descriptor : MemoryDescriptor) :
    Exec LoaderError (BootInfo × ℕ) :=
  if descriptor.pageCount = 0 then .ok state
  else do
    let length ← Exec.okOr (checkedMul descriptor.pageCount pageSize) .contract
    let region : MemoryRegion := ⟨descriptor.physStart, length, normalizeMemoryKind descriptor,
      descriptor.ty.raw, descriptor.att⟩
    let (result, info) := state.1.setMemoryRegion state.2 region
    result.mapErr fun _ => .contract
    let regionIndex ← Exec.okOr (checkedSize (state.2 + 1)) .contract
    return (info, regionIndex)

/-- `output[start..start + value.len()].copy_from_slice(value)`. -/
def copyFromSlice {ε : Type} (output : Bytes) (start : ℕ) (value : Bytes) : Exec ε Bytes :=
  if output.length < start + value.length then .panic
  else .ok (output.take start ++ value ++ output.drop (start + value.length))

/-- The part of `encode_contract` that works on the storage's bytes. -/
def encodeOutput (info : BootInfo) (scenario : BootScenario) (output : Bytes) :
    Exec LoaderError ℕ × Bytes :=
  match info.encode (List.replicate output.length 0) with
  | (.err _, output) => (.err .contract, output)
  | (.panic, output) => (.panic, output)
  | (.ok encoded, output) =>
    if scenario = .incompatibleVersion then
      match copyFromSlice output abiMajorOffset (u16ToLe (abiMajor + 1)) with
      | .ok output => (.ok encoded, output)
      | .err e => (.err e, output)
      | .panic => (.panic, output)
    else if scenario = .truncatedContract then
      (if encoded = 0 then .err .contract else .ok (encoded - 1), output)
    else (.ok encoded, output)

/-- Two retained pages for the encoded contract. -/
structure ContractStorage where
  base : ℕ
  byteLength : ℕ
  nonnull : base ≠ 0
  aligned : base % pageBytes = 0
  byteLength_eq : byteLength = 2 * pageBytes
  fits : base + byteLength ≤ 2 ^ 64

/-- The pair holds the call's outcome and the memory it leaves behind. -/
def encodeContract (descriptors : List MemoryDescriptor) (storage : ContractStorage)
    (scenario : BootScenario) (memory : Memory) : Exec LoaderError ℕ × Memory :=
  let info := BootInfo.new (.x86_64_uefi 0) scenario.scenarioInfo
  match Exec.foldIdx contractStep 0 (info, 0) descriptors with
  | .err e => (.err e, memory)
  | .panic => (.panic, memory)
  | .ok (info, _) =>
    let (result, output) :=
      encodeOutput info scenario (memory.load storage.base storage.byteLength)
    (result, memory.store storage.base output)

-- ════════════════════════════════════════════════════════════════════════
-- What the map has to satisfy
-- ════════════════════════════════════════════════════════════════════════

/-- The kinds that the kernel is told, by the firmware's number of the type. -/
def kindTable : List (UInt32 × MemoryKind) :=
  [(1, .reclaimable), (2, .reclaimable), (3, .reclaimable), (4, .reclaimable),
    (5, .firmwareRuntime), (6, .firmwareRuntime), (7, .usable), (9, .acpiReclaimable),
    (10, .acpiNvs), (11, .mmio), (12, .mmio), (0x80000000, .kernelImage),
    (0x80000001, .bootContract)]

/-- Every type that is not in the table is reserved. -/
def MemoryType.kind (ty : MemoryType) : MemoryKind := (kindTable.lookup ty.raw).getD .reserved

namespace MemoryDescriptor

/-- One past the last address of a descriptor, as an unbounded integer. -/
def endNat (descriptor : MemoryDescriptor) : ℕ :=
  descriptor.physStart.toNat + descriptor.pageCount.toNat * 4096

/-- The region that reports a descriptor to the kernel. -/
structure Describes (descriptor : MemoryDescriptor) (region : MemoryRegion) : Prop where
  start : region.start = descriptor.physStart
  length : region.length.toNat = descriptor.pageCount.toNat * 4096
  kind : region.kind = descriptor.ty.kind
  sourceKind : region.sourceKind = descriptor.ty.raw
  attributes : region.attributes = descriptor.att

def region (descriptor : MemoryDescriptor) : MemoryRegion :=
  ⟨descriptor.physStart, descriptor.pageCount * pageSize, normalizeMemoryKind descriptor,
    descriptor.ty.raw, descriptor.att⟩

end MemoryDescriptor

def nonempty (descriptors : List MemoryDescriptor) : List MemoryDescriptor :=
  descriptors.filter fun descriptor => descriptor.pageCount ≠ 0

/-- A map that can be handed over. -/
structure MapValid (descriptors : List MemoryDescriptor) : Prop where
  count : (nonempty descriptors).length ≤ 128
  range : ∀ descriptor ∈ nonempty descriptors,
    descriptor.physStart.toNat % 4096 = 0 ∧ descriptor.endNat < 2 ^ 64
  ordered : (nonempty descriptors).Pairwise fun earlier later =>
    earlier.endNat ≤ later.physStart.toNat

theorem nonempty_concat_of_zero (seen : List MemoryDescriptor) {descriptor : MemoryDescriptor}
    (h : descriptor.pageCount = 0) : nonempty (seen ++ [descriptor]) = nonempty seen := by
  simp [nonempty, h]

theorem nonempty_concat (seen : List MemoryDescriptor) {descriptor : MemoryDescriptor}
    (h : descriptor.pageCount ≠ 0) :
    nonempty (seen ++ [descriptor]) = nonempty seen ++ [descriptor] := by
  simp [nonempty, h]

theorem normalizeMemoryKind_known (descriptor : MemoryDescriptor) :
    1 ≤ (normalizeMemoryKind descriptor).raw.toNat ∧
      (normalizeMemoryKind descriptor).raw.toNat ≤ 9 := by
  unfold normalizeMemoryKind
  split_ifs <;> decide

theorem normalizeMemoryKind_eq_kind (descriptor : MemoryDescriptor) :
    normalizeMemoryKind descriptor = descriptor.ty.kind := by
  obtain ⟨⟨raw⟩, -, -, -⟩ := descriptor
  by_cases h : raw ∈ kindTable.map Prod.fst
  · simp only [kindTable, List.map_cons, List.map_nil, List.mem_cons, List.not_mem_nil,
      or_false] at h
    rcases h with rfl | rfl | rfl | rfl | rfl | rfl | rfl | rfl | rfl | rfl | rfl | rfl | rfl <;> rfl
  · have hnone : kindTable.lookup raw = none := by
      rw [List.lookup_eq_none_iff]
      intro row hrow
      exact bne_iff_ne.mpr fun heq => h (List.mem_map.mpr ⟨row, hrow, heq.symm⟩)
    have hkind : MemoryType.kind ⟨raw⟩ = .reserved := by
      rw [MemoryType.kind, hnone, Option.getD_none]
    simp only [kindTable, List.map_cons, List.map_nil, List.mem_cons, List.not_mem_nil, or_false,
      not_or] at h
    obtain ⟨h1, h2, h3, h4, h5, h6, h7, h9, h10, h11, h12, hkernel, hcontract⟩ := h
    rw [hkind]
    simp [normalizeMemoryKind, kernelMemoryType, contractMemoryType, MemoryType.conventional,
      MemoryType.loaderCode, MemoryType.loaderData, MemoryType.bootServicesCode,
      MemoryType.bootServicesData, MemoryType.runtimeServicesCode, MemoryType.runtimeServicesData,
      MemoryType.acpiReclaim, MemoryType.acpiNonVolatile, MemoryType.mmio,
      MemoryType.mmioPortSpace, h1, h2, h3, h4, h5, h6, h7, h9, h10, h11, h12, hkernel, hcontract]

theorem MemoryDescriptor.toNat_length {descriptor : MemoryDescriptor}
    (h : descriptor.pageCount.toNat * 4096 < 2 ^ 64) :
    descriptor.region.length.toNat = descriptor.pageCount.toNat * 4096 := by
  rw [MemoryDescriptor.region, UInt64.toNat_mul]
  exact Nat.mod_eq_of_lt h

theorem MemoryDescriptor.endNat_region {descriptor : MemoryDescriptor}
    (h : descriptor.pageCount.toNat * 4096 < 2 ^ 64) :
    descriptor.region.endNat = descriptor.endNat := by
  rw [MemoryRegion.endNat, MemoryDescriptor.toNat_length h]
  rfl

-- ════════════════════════════════════════════════════════════════════════
-- The loop over the map
-- ════════════════════════════════════════════════════════════════════════

/-- The contract built from the descriptors `seen`. -/
def contractOf (scenario : BootScenario) (seen : List MemoryDescriptor) : BootInfo :=
  BootInfo.ofRegions (.x86_64_uefi 0) scenario.scenarioInfo
    ((nonempty seen).map MemoryDescriptor.region)

/-- What the loop has checked about the descriptors `seen`: the rest is left to
the contract's own validation. -/
def LoopGood (seen : List MemoryDescriptor) : Prop :=
  (nonempty seen).length ≤ maxMemoryRegions ∧
    ∀ descriptor ∈ nonempty seen, descriptor.pageCount.toNat * 4096 < 2 ^ 64

theorem loopGood_concat {seen : List MemoryDescriptor} {descriptor : MemoryDescriptor}
    (hzero : descriptor.pageCount ≠ 0) (hseen : LoopGood seen) :
    LoopGood (seen ++ [descriptor]) ↔
      (nonempty seen).length < maxMemoryRegions ∧ descriptor.pageCount.toNat * 4096 < 2 ^ 64 := by
  rw [LoopGood, nonempty_concat seen hzero, List.length_append, List.length_singleton,
    List.forall_mem_append, List.forall_mem_singleton]
  exact and_congr Iff.rfl (and_iff_right hseen.2)

/-- The multiplication by the page size overflows. -/
theorem contractStep_overflow {descriptor : MemoryDescriptor} (index : ℕ) (state : BootInfo × ℕ)
    (hzero : descriptor.pageCount ≠ 0) (h : 2 ^ 64 ≤ descriptor.pageCount.toNat * 4096) :
    contractStep index state descriptor = .err .contract := by
  rw [contractStep, if_neg hzero, checkedMul_eq_none.mpr h]
  rfl

theorem contractStep_of_length {descriptor : MemoryDescriptor} (index : ℕ) (state : BootInfo × ℕ)
    (hzero : descriptor.pageCount ≠ 0) (h : descriptor.pageCount.toNat * 4096 < 2 ^ 64) :
    contractStep index state descriptor = (do
      (state.1.setMemoryRegion state.2 descriptor.region).1.mapErr fun _ => LoaderError.contract
      let regionIndex ← Exec.okOr (checkedSize (state.2 + 1)) .contract
      return ((state.1.setMemoryRegion state.2 descriptor.region).2, regionIndex)) := by
  have hmul : checkedMul descriptor.pageCount pageSize = some descriptor.region.length :=
    checkedMul_eq_some.mpr (MemoryDescriptor.toNat_length h)
  rw [contractStep, if_neg hzero, hmul]
  rfl

/-- A region that fits is appended to the table. -/
theorem contractStep_append (scenario : BootScenario) (index : ℕ) {seen : List MemoryDescriptor}
    {descriptor : MemoryDescriptor} (hzero : descriptor.pageCount ≠ 0)
    (hlength : descriptor.pageCount.toNat * 4096 < 2 ^ 64)
    (hroom : (nonempty seen).length < maxMemoryRegions) :
    contractStep index (contractOf scenario seen, (nonempty seen).length) descriptor =
      .ok (contractOf scenario (seen ++ [descriptor]), (nonempty (seen ++ [descriptor])).length) := by
  have hcount : ((nonempty seen).map MemoryDescriptor.region).length = (nonempty seen).length :=
    List.length_map _
  have hset : (contractOf scenario seen).setMemoryRegion
      ((nonempty seen).map MemoryDescriptor.region).length descriptor.region = _ :=
    BootInfo.setMemoryRegion_ofRegions descriptor.region (hcount.trans_lt hroom)
  have hsize : (nonempty seen).length + 1 < 2 ^ 64 := lt_of_le_of_lt hroom (by decide)
  rw [hcount] at hset
  rw [contractStep_of_length index _ hzero hlength]
  simp only [hset, Exec.mapErr_ok, Exec.ok_bind, checkedSize_of_lt hsize, Exec.okOr_some]
  simp [contractOf, nonempty_concat seen hzero]

/-- A full table refuses the region. -/
theorem contractStep_full (index : ℕ) {info : BootInfo} {count : ℕ} {descriptor : MemoryDescriptor}
    (hzero : descriptor.pageCount ≠ 0) (hlength : descriptor.pageCount.toNat * 4096 < 2 ^ 64)
    (hfull : maxMemoryRegions ≤ count) :
    contractStep index (info, count) descriptor = .err .contract := by
  rw [contractStep_of_length index _ hzero hlength]
  simp only [BootInfo.setMemoryRegion_full _ hfull]
  rfl

theorem contractStep_spec (scenario : BootScenario) (seen : List MemoryDescriptor)
    (descriptor : MemoryDescriptor) (hseen : LoopGood seen) :
    (LoopGood (seen ++ [descriptor]) ∧
      contractStep (0 + seen.length) (contractOf scenario seen, (nonempty seen).length)
        descriptor = .ok (contractOf scenario (seen ++ [descriptor]),
          (nonempty (seen ++ [descriptor])).length)) ∨
    (¬LoopGood (seen ++ [descriptor]) ∧ ∃ e,
      contractStep (0 + seen.length) (contractOf scenario seen, (nonempty seen).length)
        descriptor = .err e ∧ e = .contract) := by
  by_cases hzero : descriptor.pageCount = 0
  · left
    simp only [contractStep, if_pos hzero, contractOf, LoopGood,
      nonempty_concat_of_zero seen hzero]
    exact ⟨hseen, trivial⟩
  · rw [loopGood_concat hzero hseen]
    by_cases hlength : descriptor.pageCount.toNat * 4096 < 2 ^ 64
    · by_cases hroom : (nonempty seen).length < maxMemoryRegions
      · exact .inl ⟨⟨hroom, hlength⟩, contractStep_append scenario _ hzero hlength hroom⟩
      · exact .inr ⟨fun h => hroom h.1, _,
          contractStep_full _ hzero hlength (not_lt.mp hroom), rfl⟩
    · exact .inr ⟨fun h => hlength h.2, _,
        contractStep_overflow _ _ hzero (not_lt.mp hlength), rfl⟩

/-- The loop succeeds exactly when `LoopGood` holds, with every nonempty
descriptor in the contract. -/
theorem contractLoop_spec (scenario : BootScenario) (descriptors : List MemoryDescriptor) :
    (LoopGood descriptors ∧
      Exec.foldIdx contractStep 0 (BootInfo.new (.x86_64_uefi 0) scenario.scenarioInfo, 0)
        descriptors = .ok (contractOf scenario descriptors, (nonempty descriptors).length)) ∨
    (¬LoopGood descriptors ∧
      Exec.foldIdx contractStep 0 (BootInfo.new (.x86_64_uefi 0) scenario.scenarioInfo, 0)
        descriptors = .err .contract) := by
  have hinit : (BootInfo.new (.x86_64_uefi 0) scenario.scenarioInfo, 0) =
      (contractOf scenario [], (nonempty []).length) := by
    rw [contractOf, nonempty, List.filter_nil, List.map_nil, BootInfo.ofRegions_nil]
    rfl
  rw [hinit]
  rcases Exec.foldIdx_spec contractStep LoopGood
      (fun seen => (contractOf scenario seen, (nonempty seen).length))
      (fun _ (e : LoaderError) => e = .contract) ⟨Nat.zero_le _, by simp [nonempty]⟩
      (contractStep_spec scenario) descriptors with
    h | ⟨seen, descriptor, rest, e, rfl, hgood, hbad, herr, rfl⟩
  · exact Or.inl h
  · refine Or.inr ⟨fun h => hbad ?_, herr⟩
    rw [List.append_cons] at h
    have hsub : (nonempty (seen ++ [descriptor])).Sublist
        (nonempty (seen ++ [descriptor] ++ rest)) :=
      (List.sublist_append_left _ _).filter _
    exact ⟨hsub.length_le.trans h.1, fun d hd => h.2 d (hsub.subset hd)⟩

theorem MapValid.loopGood {descriptors : List MemoryDescriptor} (h : MapValid descriptors) :
    LoopGood descriptors := by
  refine ⟨h.count, fun descriptor hd => ?_⟩
  have hend := (h.range descriptor hd).2
  unfold MemoryDescriptor.endNat at hend
  omega

theorem regionValid_region {descriptor : MemoryDescriptor} (hpages : descriptor.pageCount ≠ 0)
    (hlen : descriptor.pageCount.toNat * 4096 < 2 ^ 64) :
    RegionValid descriptor.region ↔
      descriptor.physStart.toNat % 4096 = 0 ∧ descriptor.endNat < 2 ^ 64 := by
  have hnat := MemoryDescriptor.toNat_length hlen
  have hpos : descriptor.pageCount.toNat ≠ 0 := fun h => hpages (UInt64.toNat_inj.mp h)
  have hne : descriptor.region.length ≠ 0 := by
    intro h
    rw [h] at hnat
    have hzero : 0 = descriptor.pageCount.toNat * 4096 := hnat
    omega
  obtain ⟨hone, hnine⟩ := normalizeMemoryKind_known descriptor
  unfold RegionValid MemoryRegion.endNat MemoryDescriptor.endNat
  rw [hnat]
  constructor
  · rintro ⟨-, -, -, hstart, -, hend⟩
    exact ⟨hstart, hend⟩
  · rintro ⟨hstart, hend⟩
    exact ⟨hone, hnine, hne, hstart, Nat.mul_mod_left _ _, hend⟩

/-- Past the loop, the contract's validation asks for the rest of `MapValid`. -/
theorem contractOf_valid {descriptors : List MemoryDescriptor} (scenario : BootScenario)
    (hgood : LoopGood descriptors) :
    validateRef (contractOf scenario descriptors) = .ok () ↔ MapValid descriptors := by
  have hplatform : PlatformValid (.x86_64_uefi 0) := by decide
  have hscenario : ScenarioValid scenario.scenarioInfo := by cases scenario <;> decide
  have hpages : ∀ d ∈ nonempty descriptors, d.pageCount ≠ 0 := by
    intro d hd
    simpa using (List.mem_filter.mp hd).2
  have hend : ∀ d ∈ nonempty descriptors, d.region.endNat = d.endNat := fun d hd =>
    MemoryDescriptor.endNat_region (hgood.2 d hd)
  rw [validateRef_eq_ok, contractOf,
    BootInfo.contractValid_ofRegions ((List.length_map _).trans_le hgood.1), ActiveValid,
    List.pairwise_map]
  constructor
  · rintro ⟨-, -, hregions, hpairs⟩
    refine ⟨hgood.1, ?_, ?_⟩
    · intro d hd
      exact (regionValid_region (hpages d hd) (hgood.2 d hd)).mp
        (hregions _ (List.mem_map_of_mem hd))
    · refine hpairs.imp_of_mem fun {d d'} hd _ h => ?_
      rw [hend d hd] at h
      exact h
  · intro h
    refine ⟨hplatform, hscenario, ?_, ?_⟩
    · intro region hregion
      obtain ⟨d, hd, rfl⟩ := List.mem_map.mp hregion
      exact (regionValid_region (hpages d hd) (hgood.2 d hd)).mpr (h.range d hd)
    · refine h.ordered.imp_of_mem fun {d d'} hd _ hle => ?_
      rw [hend d hd]
      exact hle

-- ════════════════════════════════════════════════════════════════════════
-- The stored bytes
-- ════════════════════════════════════════════════════════════════════════

/-- The contract with the major version the incompatible scenario writes. -/
def bumpVersion (info : BootInfo) : BootInfo :=
  { info with header := { info.header with abiMajor := abiMajor + 1 } }

/-- The wire form after the major version. -/
def afterMajor (info : BootInfo) : Bytes :=
  u16ToLe info.header.abiMinor ++ u32ToLe info.header.headerSize ++ u32ToLe info.header.totalSize ++
    u32ToLe info.header.memoryRegionSize ++ u32ToLe info.header.memoryRegionCount ++
    u32ToLe info.header.flags ++ info.body

theorem wire_eq_major (info : BootInfo) :
    info.wire = info.header.magic.toList ++ (u16ToLe info.header.abiMajor ++ afterMajor info) := by
  simp [BootInfo.wire_eq, BootHeader.wire, afterMajor]

theorem copyFromSlice_version (info : BootInfo) (rest : Bytes) :
    (copyFromSlice (info.wire ++ rest) abiMajorOffset (u16ToLe (abiMajor + 1)) :
      Exec LoaderError Bytes) = .ok ((bumpVersion info).wire ++ rest) := by
  have hmagic : info.header.magic.toList.length = abiMajorOffset := Vector.length_toList
  have hbump : (bumpVersion info).wire = info.header.magic.toList ++
      (u16ToLe (abiMajor + 1) ++ afterMajor info) := wire_eq_major (bumpVersion info)
  unfold copyFromSlice
  simp only [wire_eq_major info, hbump, List.append_assoc]
  rw [if_neg]
  · rw [List.take_left' hmagic, ← List.drop_drop, List.drop_left' hmagic, List.drop_left' (by simp)]
  · simp only [List.length_append, hmagic, length_u16ToLe]
    omega

/-- The contract whose wire form is stored in a scenario. -/
def storedContract (scenario : BootScenario) (info : BootInfo) : BootInfo :=
  if scenario = .incompatibleVersion then bumpVersion info else info

/-- The length the kernel is told in a scenario. -/
def storedLength (scenario : BootScenario) : ℕ :=
  if scenario = .truncatedContract then bootInfoSize - 1 else bootInfoSize

theorem encodeOutput_of_valid {info : BootInfo} (scenario : BootScenario) {output : Bytes}
    (hvalid : validateRef info = .ok ()) (hlen : bootInfoSize ≤ output.length) :
    encodeOutput info scenario output = (.ok (storedLength scenario),
      (storedContract scenario info).wire ++
        (List.replicate output.length 0).drop bootInfoSize) := by
  have hencode : info.encode (List.replicate output.length 0) = _ :=
    BootInfo.encode_of_valid hvalid (by rw [List.length_replicate]; exact hlen)
  unfold encodeOutput
  rw [hencode]
  cases scenario with
  | incompatibleVersion =>
    simp only [if_true, copyFromSlice_version, storedContract, storedLength]
    rfl
  | _ => rfl

theorem encodeOutput_of_invalid {info : BootInfo} (scenario : BootScenario) (output : Bytes)
    (h : validateRef info ≠ .ok ()) : (encodeOutput info scenario output).1 = .err .contract := by
  obtain ⟨e, he⟩ := BootInfo.encode_of_invalid (List.replicate output.length 0) h
  simp only [encodeOutput, he]

theorem encodeContract_of_valid {descriptors : List MemoryDescriptor} (storage : ContractStorage)
    (scenario : BootScenario) (memory : Memory) (h : MapValid descriptors) :
    ∃ stored : Bytes, stored.take bootInfoSize =
        (storedContract scenario (contractOf scenario descriptors)).wire ∧
      stored.length = storage.byteLength ∧
      encodeContract descriptors storage scenario memory =
        (.ok (storedLength scenario), memory.store storage.base stored) := by
  have hsize : bootInfoSize ≤ storage.byteLength := by rw [storage.byteLength_eq]; decide
  have hwire := (storedContract scenario (contractOf scenario descriptors)).length_wire
  rcases contractLoop_spec scenario descriptors with ⟨hgood, hloop⟩ | ⟨hbad, -⟩
  · have hvalid := (contractOf_valid scenario hgood).mpr h
    have hout : encodeOutput _ scenario (memory.load storage.base storage.byteLength) = _ :=
      encodeOutput_of_valid scenario hvalid (by simpa using hsize)
    simp only [encodeContract, hloop, hout]
    refine ⟨_, List.take_left' hwire, ?_, rfl⟩
    rw [List.length_append, hwire, List.length_drop, List.length_replicate, Memory.length_load]
    omega
  · exact absurd h.loopGood hbad

theorem encodeContract_of_invalid {descriptors : List MemoryDescriptor}
    (storage : ContractStorage) (scenario : BootScenario) (memory : Memory)
    (h : ¬MapValid descriptors) :
    (encodeContract descriptors storage scenario memory).1 = .err .contract := by
  rcases contractLoop_spec scenario descriptors with ⟨hgood, hloop⟩ | ⟨-, hloop⟩
  · have hinvalid := mt (contractOf_valid scenario hgood).mp h
    simp only [encodeContract, hloop]
    exact encodeOutput_of_invalid scenario _ hinvalid
  · simp only [encodeContract, hloop]

theorem mapValid_of_encodeContract {descriptors : List MemoryDescriptor}
    {storage : ContractStorage} {scenario : BootScenario} {memory : Memory} {length : ℕ}
    (h : (encodeContract descriptors storage scenario memory).1 = .ok length) :
    MapValid descriptors := by
  by_contra hinvalid
  rw [encodeContract_of_invalid storage scenario memory hinvalid] at h
  cases h

/-- What the kernel finds at the contract's address. -/
theorem load_encodeContract {descriptors : List MemoryDescriptor} {storage : ContractStorage}
    {scenario : BootScenario} {memory memory' : Memory} {length : ℕ}
    (h : encodeContract descriptors storage scenario memory = (.ok length, memory')) :
    length = storedLength scenario ∧ memory'.load storage.base bootInfoSize =
      (storedContract scenario (contractOf scenario descriptors)).wire := by
  have hmap := mapValid_of_encodeContract (congrArg Prod.fst h)
  obtain ⟨stored, htake, hlen, hencode⟩ := encodeContract_of_valid storage scenario memory hmap
  rw [h, Prod.mk.injEq, Exec.ok.injEq] at hencode
  obtain ⟨rfl, rfl⟩ := hencode
  have hsize : bootInfoSize ≤ stored.length := by rw [hlen, storage.byteLength_eq]; decide
  refine ⟨rfl, ?_⟩
  rw [Memory.load_store memory storage.base hsize, htake]

theorem activeRegions_contractOf {descriptors : List MemoryDescriptor} (scenario : BootScenario)
    (h : MapValid descriptors) :
    (contractOf scenario descriptors).activeRegions =
      (nonempty descriptors).map MemoryDescriptor.region :=
  BootInfo.activeRegions_ofRegions ((List.length_map _).trans_le h.loopGood.1)

theorem describes_contractOf {descriptors : List MemoryDescriptor} (scenario : BootScenario)
    (h : MapValid descriptors) :
    List.Forall₂ MemoryDescriptor.Describes (nonempty descriptors)
      (contractOf scenario descriptors).activeRegions := by
  rw [activeRegions_contractOf scenario h, List.forall₂_map_right_iff, List.forall₂_same]
  intro d hd
  exact ⟨rfl, MemoryDescriptor.toNat_length (h.loopGood.2 d hd), normalizeMemoryKind_eq_kind d, rfl,
    rfl⟩

theorem map_kind_of_describes {descriptors : List MemoryDescriptor} {regions : List MemoryRegion}
    (h : List.Forall₂ MemoryDescriptor.Describes descriptors regions) :
    regions.map MemoryRegion.kind = descriptors.map fun descriptor => descriptor.ty.kind := by
  induction h with
  | nil => rfl
  | cons hfirst _ ih => rw [List.map_cons, List.map_cons, hfirst.kind, ih]

-- ════════════════════════════════════════════════════════════════════════
-- The kernel's side
-- ════════════════════════════════════════════════════════════════════════

theorem ContractStorage.range (storage : ContractStorage) : ContractRange storage.base where
  nonzero := storage.nonnull
  aligned := storage.aligned
  fits := by
    have hfits := storage.fits
    rw [storage.byteLength_eq] at hfits
    simp only [pageBytes, bootInfoSize] at hfits ⊢
    omega

theorem parse_bumpVersion {info : BootInfo} (h : ContractValid info) :
    parse (bumpVersion info).wire = .err (.unsupportedVersion 2 0) := by
  obtain ⟨hmagic, -, hminor, -⟩ := h.header
  have hpre : prevalidate (bumpVersion info).wire = .err (.unsupportedVersion 2 0) := by
    rw [BootInfo.wire_eq, prevalidate_wire]
    simp only [prevalidateHeader, bumpVersion, hmagic, hminor, ne_eq, not_true_eq_false, if_false]
    rfl
  rw [parse, hpre]
  rfl

/-- The map reaches the kernel whole or not at all. `encode_contract` accepts
exactly the maps that satisfy `MapValid`; the kernel then reports what the
scenario asks for, and in the normal one it sees every nonempty descriptor. -/
theorem handoff_end_to_end (descriptors : List MemoryDescriptor) (scenario : BootScenario)
    (storage : ContractStorage) (memory : Memory) :
    ((∃ length, (encodeContract descriptors storage scenario memory).1 = .ok length) ↔
      MapValid descriptors) ∧
    (¬MapValid descriptors →
      (encodeContract descriptors storage scenario memory).1 = .err .contract) ∧
    ∀ length memory', encodeContract descriptors storage scenario memory = (.ok length, memory') →
      match scenario with
      | .normal =>
        polytopeKernelMain memory' storage.base length = ⟨[kernelReady], .success⟩ ∧
        ∃ info, parse (memory'.load storage.base length) = .ok info ∧
          List.Forall₂ MemoryDescriptor.Describes (nonempty descriptors) info.memoryRegions
      | .incompatibleVersion =>
        parse (memory'.load storage.base length) = .err (.unsupportedVersion 2 0) ∧
        polytopeKernelMain memory' storage.base length =
          ⟨[abiVersionRejected], .contractRejected⟩
      | .truncatedContract =>
        polytopeKernelMain memory' storage.base length =
          ⟨[contractLengthRejected], .contractRejected⟩
      | .deliberatePanic =>
        polytopeKernelMain memory' storage.base length = ⟨[kernelPanic], .kernelPanic⟩ := by
  refine ⟨⟨?_, ?_⟩, encodeContract_of_invalid storage scenario memory, ?_⟩
  · rintro ⟨length, hok⟩
    exact mapValid_of_encodeContract hok
  · intro h
    obtain ⟨stored, -, -, hencode⟩ := encodeContract_of_valid storage scenario memory h
    exact ⟨storedLength scenario, by rw [hencode]⟩
  · intro length memory' hencode
    have hmap := mapValid_of_encodeContract (congrArg Prod.fst hencode)
    obtain ⟨rfl, hload⟩ := load_encodeContract hencode
    have hvalid := (contractOf_valid scenario hmap.loopGood).mpr hmap
    cases scenario with
    | normal =>
      have hparse : parse (Memory.load _ storage.base bootInfoSize) = .ok ⟨_, hvalid⟩ :=
        parse_eq_ok.mpr hload
      exact ⟨polytopeKernelMain_of_parse storage.range hparse, ⟨_, hvalid⟩, hparse,
        describes_contractOf .normal hmap⟩
    | incompatibleVersion =>
      have hparse : parse (Memory.load _ storage.base bootInfoSize) =
          .err (.unsupportedVersion 2 0) :=
        (congrArg parse hload).trans (parse_bumpVersion (validateRef_eq_ok.mp hvalid))
      exact ⟨hparse, polytopeKernelMain_of_version storage.range hparse⟩
    | truncatedContract => exact polytopeKernelMain_of_length (by decide)
    | deliberatePanic =>
      have hparse : parse (Memory.load _ storage.base bootInfoSize) = .ok ⟨_, hvalid⟩ :=
        parse_eq_ok.mpr hload
      exact polytopeKernelMain_of_parse storage.range hparse

/-- One descriptor for each kind, and an empty one. -/
def sampleMap : List MemoryDescriptor :=
  [⟨.conventional, 0x100000, 16, 0xf⟩, ⟨.loaderData, 0, 0, 0⟩,
    ⟨.bootServicesData, 0x110000, 1, 0xf⟩, ⟨kernelMemoryType, 0x200000, 3, 0xf⟩,
    ⟨contractMemoryType, 0x300000, 2, 0xf⟩, ⟨.runtimeServicesCode, 0x302000, 1, 0xf⟩,
    ⟨.acpiReclaim, 0x303000, 1, 0xf⟩, ⟨.acpiNonVolatile, 0x304000, 1, 0xf⟩,
    ⟨stackGuardMemoryType, 0x47ff000, 1, 0xf⟩, ⟨.mmio, 0xfed00000, 1, 0x1⟩]

def sampleStorage : ContractStorage where
  base := 0x400000
  byteLength := 8192
  nonnull := by decide
  aligned := by decide
  byteLength_eq := rfl
  fits := by decide

theorem handoff_end_to_end_sample :
    MapValid sampleMap ∧ ∃ length memory' info,
      encodeContract sampleMap sampleStorage .normal (fun _ => 0) = (.ok length, memory') ∧
      polytopeKernelMain memory' sampleStorage.base length = ⟨[kernelReady], .success⟩ ∧
      parse (memory'.load sampleStorage.base length) = .ok info ∧
      info.memoryRegions.map MemoryRegion.kind = [.usable, .reclaimable, .kernelImage,
        .bootContract, .firmwareRuntime, .acpiReclaimable, .acpiNvs, .reserved, .mmio] := by
  have hmap : MapValid sampleMap := ⟨by decide, by decide, by decide⟩
  have h := handoff_end_to_end sampleMap .normal sampleStorage fun _ => 0
  revert h
  generalize encodeContract sampleMap sampleStorage .normal (fun _ => 0) = outcome
  obtain ⟨result, memory'⟩ := outcome
  rintro ⟨haccept, -, hrun⟩
  obtain ⟨length, rfl⟩ : ∃ length, result = .ok length := haccept.mpr hmap
  obtain ⟨hready, info, hparse, hregions⟩ := hrun length memory' rfl
  refine ⟨hmap, length, memory', info, rfl, hready, hparse, ?_⟩
  rw [map_kind_of_describes hregions]
  decide

end PolytopeOS.Loader
