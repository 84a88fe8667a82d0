import PolytopeOS.Loader.Ownership

/-!
# Memory at the handoff

No allocation touches the bytes of a page that was granted to the loader. The
kernel's segments therefore keep their bytes through the allocations
and the writing of the contract that follow their loading, and the contract's
pages are none of theirs.
-/

namespace PolytopeOS.Loader
open Corelib BootContract BootElf

/-- An allocation leaves the bytes of the loader's pages alone. -/
theorem Granted.keeps {ty owner : MemoryType} {count base x : ℕ} {m found m' : Machine}
    (h : Granted ty count found base m') (hfound : Meanwhile m found) (howner : owner ∈ loaderTypes)
    (hx : m.Holds (x / pageBytes) owner) : m'.memory x = m.memory x := by
  rw [← hfound.memory]
  apply h.frame
  by_contra hin
  have haligned := h.aligned
  simp only [pageBytes] at hin haligned
  have hfree := h.conventional (x / pageBytes) (by simp only [pageBytes]; omega)
    (by simp only [pageBytes]; omega)
  -- a page of the loader is not conventional
  rw [(hfound.retains _ _ howner hx).2, Option.some.injEq] at hfree
  subst hfree
  exact absurd howner (by decide)

theorem reserveStackGuard_keeps {firmware : Firmware} {m m' : Machine}
    (h : reserveStackGuard firmware m = (.ok (), m')) {x : ℕ} {owner : MemoryType}
    (howner : owner ∈ loaderTypes) (hx : m.Holds (x / pageBytes) owner) :
    m'.memory x = m.memory x := by
  simp only [reserveStackGuard] at h
  obtain ⟨base, m₁, hallocate, h⟩ := Action.bind_eq_ok.mp h
  obtain ⟨found, hfound, hgrant⟩ := Firmware.allocate_eq_ok hallocate
  have hm : m₁ = m' := by
    by_cases hbase : base = stackGuardAddress.toNat
    · rw [if_neg (not_not.mpr hbase)] at h
      exact (Action.pure_eq_ok.mp h).2
    · rw [if_pos hbase] at h
      simp [Action.lift] at h
  rw [← hm]
  exact hgrant.keeps hfound howner hx

theorem allocateStorage_keeps {firmware : Firmware} {m m' : Machine} {storage : ContractStorage}
    (h : ContractStorage.allocate firmware m = (.ok storage, m')) {x : ℕ} {owner : MemoryType}
    (howner : owner ∈ loaderTypes) (hx : m.Holds (x / pageBytes) owner) :
    m'.memory x = m.memory x := by
  unfold ContractStorage.allocate at h
  split at h
  · cases h
  · next base m₁ hallocate =>
    cases h
    obtain ⟨found, hfound, hgrant⟩ := firmware.granted hallocate
    exact hgrant.keeps hfound howner hx

/-- The pages of a segment are whole. -/
theorem covers_page {segment : LoadSegment} {bytes : Bytes} (hs : segment.Planned bytes) {x : ℕ}
    (hx : segment.Covers x) : segment.Covers (x / pageBytes * pageBytes) := by
  have haligned := hs.aligned
  rw [LoadSegment.Covers] at hx ⊢
  simp only [pageBytes]
  omega

section Prepared

variable {platform : Platform} {m m' : Machine} {p : Prepared} {kernel : Bytes}
  {scenario : BootScenario} {elf : ValidatedElf} {segments : List LoadSegment}

/-- The stages of a successful `prepareKernel`, with the file in its buffer. -/
theorem prepareKernel_stages (h : prepareKernel platform m = (.ok p, m'))
    (hfiles : readFiles platform = .ok (kernel, scenario))
    (hparse : BootElf.parse kernel = .ok elf) :
    ∃ m₁ m₂ m₃, FileAt m₁ platform.kernelBuffer kernel ∧ p.entryPoint = elf.entryPoint ∧
      p.scenario = scenario ∧
      loadSegments platform.firmware platform.kernelBuffer elf m₁ = (.ok (), m₂) ∧
      reserveStackGuard platform.firmware m₂ = (.ok (), m₃) ∧
      ContractStorage.allocate platform.firmware m₃ = (.ok p.contractStorage, m') := by
  obtain ⟨⟨kernel', scenario'⟩, m₀, hread, h⟩ := Action.bind_eq_ok.mp h
  obtain ⟨hfiles', rfl⟩ := Action.lift_eq_ok.mp hread
  obtain ⟨rfl, rfl⟩ := Prod.mk.inj (Exec.ok.inj (hfiles.symm.trans hfiles'))
  obtain ⟨_, m₁, hstore, h⟩ := Action.bind_eq_ok.mp h
  obtain rfl := Action.modify_eq_ok.mp hstore
  obtain ⟨elf', m₁', hcheck, h⟩ := Action.bind_eq_ok.mp h
  obtain ⟨hparse', rfl⟩ := Action.lift_eq_ok.mp hcheck
  obtain rfl := Exec.ok.inj (hparse.symm.trans (Exec.mapErr_eq_ok.mp hparse'))
  obtain ⟨_, m₂, hload, h⟩ := Action.bind_eq_ok.mp h
  obtain ⟨_, m₃, hguard, h⟩ := Action.bind_eq_ok.mp h
  obtain ⟨storage, m₄, hstorage, h⟩ := Action.bind_eq_ok.mp h
  obtain ⟨rfl, rfl⟩ := Action.pure_eq_ok.mp h
  refine ⟨_, m₂, m₃, ?_, rfl, rfl, hload, hguard, hstorage⟩
  exact (Memory.load_store _ _ le_rfl).trans (List.take_length)

/-- Once the kernel is prepared, its segments hold the bytes of the file. -/
theorem prepareKernel_image (h : prepareKernel platform m = (.ok p, m'))
    (hfiles : readFiles platform = .ok (kernel, scenario)) (hparse : BootElf.parse kernel = .ok elf)
    (hsegments : elf.segments.collect = .ok segments)
    (hapart : ∀ segment ∈ segments, ApartFrom platform.kernelBuffer kernel segment) :
    ∀ segment ∈ segments, ∀ k < segment.span,
      m'.memory (segment.physicalAddress.toNat + k) = (segment.fileData[k]?).getD 0 := by
  obtain ⟨m₁, m₂, m₃, hfile, -, -, hload, hguard, hstorage⟩ := prepareKernel_stages h hfiles hparse
  have hplan := loadPlan_of_collect hparse hsegments
  have hloaded := loadSegments_loadedAll hsegments hplan hfile hapart hload
  rw [loadSegments, loadSegmentsFrom_eq hsegments] at hload
  obtain ⟨-, hpages⟩ := each_loadSegment_pages hplan.planned hload
  obtain ⟨hretains, -⟩ := reserveStackGuard_pages hguard
  intro segment hsegment k hk
  have hcovers : segment.Covers (segment.physicalAddress.toNat + k) := ⟨by omega, by omega⟩
  have hpage := hpages segment hsegment _
    (covers_page (hplan.planned segment hsegment) hcovers)
  have hkernel : kernelMemoryType ∈ loaderTypes := by decide
  rw [allocateStorage_keeps hstorage hkernel (hretains _ _ hkernel hpage),
    reserveStackGuard_keeps hguard hkernel hpage, hloaded.image segment hsegment k hk]

/-- The contract's pages are none of the kernel's. -/
theorem prepareKernel_storage_apart (h : prepareKernel platform m = (.ok p, m'))
    (hfiles : readFiles platform = .ok (kernel, scenario)) (hparse : BootElf.parse kernel = .ok elf)
    (hsegments : elf.segments.collect = .ok segments) {segment : LoadSegment}
    (hsegment : segment ∈ segments) {x : ℕ} (hx : segment.Covers x) :
    x < p.contractStorage.base ∨ p.contractStorage.base + p.contractStorage.byteLength ≤ x := by
  have hplan := loadPlan_of_collect hparse hsegments
  have howned := (prepareKernel_owned h hfiles hparse hsegments).1
  have hkernel := howned _ _ (.kernel hsegment (covers_page (hplan.planned _ hsegment) hx))
  by_contra hin
  have haligned := p.contractStorage.aligned
  rw [p.contractStorage.byteLength_eq] at hin
  have hcovers : p.contractStorage.Covers (x / pageBytes) := by
    rw [ContractStorage.Covers]
    simp only [pageBytes] at hin haligned ⊢
    omega
  rw [howned _ _ (.contract hcovers)] at hkernel
  exact absurd (Option.some.inj hkernel) (by decide)

end Prepared

/-- Writing the contract changes the storage only. -/
theorem encodeContract_frame {descriptors : List MemoryDescriptor} {storage : ContractStorage}
    {scenario : BootScenario} {memory memory' : Memory} {length : ℕ}
    (h : encodeContract descriptors storage scenario memory = (.ok length, memory')) {x : ℕ}
    (hx : x < storage.base ∨ storage.base + storage.byteLength ≤ x) : memory' x = memory x := by
  have hmap := mapValid_of_encodeContract (congrArg Prod.fst h)
  obtain ⟨stored, -, hlength, hencode⟩ := encodeContract_of_valid storage scenario memory hmap
  rw [h, Prod.mk.injEq] at hencode
  rw [hencode.2]
  exact Memory.store_outside _ (by rwa [hlength])

/-- How the kernel ends in a scenario. -/
def BootScenario.halt : BootScenario → Arch.Halt
  | .normal => ⟨[Kernel.kernelReady], .success⟩
  | .incompatibleVersion => ⟨[Kernel.abiVersionRejected], .contractRejected⟩
  | .truncatedContract => ⟨[Kernel.contractLengthRejected], .contractRejected⟩
  | .deliberatePanic => Kernel.panic

/-- The kernel's end depends on the stored contract only, wherever else its
memory may differ from what the loader left. -/
theorem polytopeKernelMain_of_stored {descriptors : List MemoryDescriptor}
    {storage : ContractStorage} {scenario : BootScenario} {memory memory' memory'' : Memory}
    {length : ℕ} (h : encodeContract descriptors storage scenario memory = (.ok length, memory'))
    (hsame : memory''.load storage.base bootInfoSize = memory'.load storage.base bootInfoSize) :
    Kernel.polytopeKernelMain memory'' storage.base length = scenario.halt := by
  have hmap := mapValid_of_encodeContract (congrArg Prod.fst h)
  obtain ⟨rfl, hload⟩ := load_encodeContract h
  have hvalid := (contractOf_valid scenario hmap.loopGood).mpr hmap
  rw [← hsame] at hload
  cases scenario with
  | normal =>
    have hparse : BootContract.parse (memory''.load storage.base bootInfoSize) =
        .ok ⟨_, hvalid⟩ := BootContract.parse_eq_ok.mpr hload
    exact Kernel.polytopeKernelMain_of_parse storage.range hparse
  | incompatibleVersion =>
    have hparse : BootContract.parse (memory''.load storage.base bootInfoSize) =
        .err (.unsupportedVersion 2 0) :=
      (congrArg BootContract.parse hload).trans (parse_bumpVersion (validateRef_eq_ok.mp hvalid))
    exact Kernel.polytopeKernelMain_of_version storage.range hparse
  | truncatedContract => exact Kernel.polytopeKernelMain_of_length (by decide)
  | deliberatePanic =>
    have hparse : BootContract.parse (memory''.load storage.base bootInfoSize) =
        .ok ⟨_, hvalid⟩ := BootContract.parse_eq_ok.mpr hload
    exact Kernel.polytopeKernelMain_of_parse storage.range hparse

end PolytopeOS.Loader
