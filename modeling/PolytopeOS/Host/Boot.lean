import PolytopeOS.Arch.Entry
import PolytopeOS.Host.GuestLog
import PolytopeOS.Host.Inspect
import PolytopeOS.Host.Scenario
import PolytopeOS.Loader.Image

/-!
# From the inspected kernel to the verdict

An inspected kernel is loaded, handed a contract and entered through the shim,
whose machine code the processor finds at the kernel's entry point. The shim leaves
the loaded image and the contract as they are, so that the kernel ends as the
image's scenario asks, and the host accepts the run for that scenario and for no
other.
-/

namespace PolytopeOS.Host
open Corelib Corelib.X86 Arch Loader BootElf

/-- The shim is linked as the inspected map says, and its probe is in `.bss`. -/
structure LinkedAs (symbols : Symbols) (report : KernelInspection) : Prop where
  bssStart : symbols.bssStart = report.bssStart
  bssEnd : symbols.bssEnd = report.bssEnd
  stackTop : symbols.bootstrapStackTop = report.stackTop
  probe : symbols.ProbeCleared

/-- What a segment takes from the file, at the addresses where it is loaded. -/
def fileImage (segment : LoadSegment) : Memory := fun x =>
  (segment.fileData[x - segment.physicalAddress.toNat]?).getD 0

/-- The kernel's first segment brings the machine code of the shim from the file, and
the entry point is its first instruction. -/
structure CarriesShim (symbols : Symbols) (elf : ValidatedElf) (segments : List LoadSegment) :
    Prop where
  entry : symbols.address 0 = elf.entryPoint
  code : ∃ text rest, segments = text :: rest ∧
    (polytopeKernelEntry symbols).AssembledIn (fileImage text) ∧
    ∀ x, (polytopeKernelEntry symbols).InCode x →
      text.physicalAddress.toNat ≤ x ∧ x < text.physicalAddress.toNat + text.fileData.length

/-- A state in which `transfer_to_kernel` jumps to the entry point. The segments and
the contract are as the loader left them; elsewhere, as on the loader's own stack,
memory may have changed. -/
structure Transferred (memory : Memory) (segments : List LoadSegment) (p : Prepared) (length : ℕ)
    (s : State) : Prop where
  location : s.location = .outside p.entryPoint
  image : ∀ segment ∈ segments, ∀ x, segment.Covers x → s.memory x = memory x
  stored : s.memory.load p.contractStorage.base BootContract.bootInfoSize =
    memory.load p.contractStorage.base BootContract.bootInfoSize
  contract : (s.registers .rdi).toNat = p.contractStorage.base
  length : (s.registers .rsi).toNat = length

/-- A boot up to the jump into the kernel: the files, a kernel that the inspector has
accepted and that carries the shim, the machine before and after the loader has
prepared it, and the state after the contract was written. The buffer of the kernel
file is apart from the segments. -/
structure KernelBoot where
  platform : Platform
  kernel : Bytes
  scenario : BootScenario
  files : readFiles platform = .ok (kernel, scenario.loader)
  sha256Hex : Bytes → String
  linkerMap : Bytes
  report : KernelInspection
  inspected : inspectKernelBytes sha256Hex kernel linkerMap = .ok report
  elf : ValidatedElf
  segments : List LoadSegment
  parsed : BootElf.parse kernel = .ok elf
  collected : elf.segments.collect = .ok segments
  apart : ∀ segment ∈ segments, ApartFrom platform.kernelBuffer kernel segment
  symbols : Symbols
  linked : LinkedAs symbols report
  shim : CarriesShim symbols elf segments
  before : Machine
  after : Machine
  prepared : Prepared
  prepares : prepareKernel platform before = (.ok prepared, after)
  map : List MemoryDescriptor
  length : ℕ
  memory : Memory
  encodes : encodeContract map prepared.contractStorage scenario.loader after.memory =
    (.ok length, memory)
  state : State
  transferred : Transferred memory segments prepared length state

theorem inspectKernelBytes_stackTop {sha256Hex : Bytes → String} {kernel map : Bytes}
    {report : KernelInspection} (h : inspectKernelBytes sha256Hex kernel map = .ok report) :
    report.stackTop = stackBaseAddress + stackSizeBytes := by
  rw [inspectKernelBytes] at h
  simp only [↓Exec.check_bind_eq_ok, Exec.bind_eq_ok] at h
  obtain ⟨-, -, -, text, -, elf, -, layout, -, segments, -, inspected, -, -, bss, -, bssEnd, -,
    loadEnd, -, kernelBytes, -, mapBytes, -, data, -, hreport⟩ := h
  rw [← Exec.ok.inj hreport]

/-- The four segments of an inspected kernel and where they lie. -/
theorem placed_of_inspection {sha256Hex : Bytes → String} {kernel map : Bytes}
    {report : KernelInspection} (h : inspectKernelBytes sha256Hex kernel map = .ok report) :
    ∃ elf text rodata data stack, BootElf.parse kernel = .ok elf ∧
      elf.segments.collect = .ok [text, rodata, data, stack] ∧
      Placed text rodata data stack report.bssStart.toNat report.bssEnd.toNat := by
  obtain ⟨elf, segments, inspected, layout, bss, helf, hsegments, hinspected, hcombined, hbss,
    hbssEnd, -, hstart⟩ := inspectKernelBytes_eq_ok h
  obtain ⟨t, r, d, s, rfl, hfacts⟩ := validateCombined_eq_ok hcombined hbss
  obtain ⟨text, rodata, data, stack, rfl, ht, -, hd, hs⟩ := exists_inspected hinspected
  have hplaced := placed_of_combined (loadPlan_of_collect helf hsegments) hfacts ht hd hs
  rw [← finish_eq_ok hbssEnd, ← hstart] at hplaced
  exact ⟨elf, text, rodata, data, stack, helf, hsegments, hplaced⟩

section Shim

variable {symbols : Symbols} {report : KernelInspection} {text rodata data stack : LoadSegment}

theorem LinkedAs.stack_eq (h : LinkedAs symbols report)
    (htop : report.stackTop = stackBaseAddress + stackSizeBytes) :
    symbols.stack.toNat = 0x04810000 := by
  rw [Symbols.stack, h.stackTop, htop]
  decide

/-- The inspected layout links the shim. -/
theorem LinkedAs.linked (h : LinkedAs symbols report)
    (htop : report.stackTop = stackBaseAddress + stackSizeBytes)
    (hplaced : Placed text rodata data stack report.bssStart.toNat report.bssEnd.toNat) :
    symbols.Linked := by
  have hstack := h.stack_eq htop
  have hbss := hplaced.bss_end
  have hguard := hplaced.guard_after
  have hmemory := hplaced.memory_le
  refine ⟨?_, h.probe, ?_, ?_⟩
  · rw [h.bssStart, h.bssEnd]
    exact hplaced.bss_nonempty.le
  · rw [hstack]
    decide
  · intro x hslot hin
    rw [Symbols.InSlot, hstack] at hslot
    rw [Symbols.InBss, h.bssStart, h.bssEnd] at hin
    omega

/-- What the shim changes lies in the kernel's own segments. -/
theorem covers_of_changed (h : LinkedAs symbols report)
    (htop : report.stackTop = stackBaseAddress + stackSizeBytes)
    (hplaced : Placed text rodata data stack report.bssStart.toNat report.bssEnd.toNat) {x : ℕ}
    (hx : symbols.InBss x ∨ symbols.InSlot x) :
    ∃ segment ∈ [text, rodata, data, stack], segment.Covers x := by
  have hstack := h.stack_eq htop
  obtain ⟨-, -, -, -, hbase, hspan, -, -, hmemory, -, hstart, -, hend⟩ := hplaced
  rcases hx with hin | hin
  · rw [Symbols.InBss, h.bssStart, h.bssEnd] at hin
    exact ⟨data, by simp, by omega, by omega⟩
  · rw [Symbols.InSlot, hstack] at hin
    exact ⟨stack, by simp, by omega, by omega⟩

/-- A byte of `.bss` comes from no file. -/
theorem fileData_of_inBss {bytes : Bytes} (h : LinkedAs symbols report)
    (hplaced : Placed text rodata data stack report.bssStart.toNat report.bssEnd.toNat)
    (hplan : LoadPlan bytes [text, rodata, data, stack]) {segment : LoadSegment}
    (hsegment : segment ∈ [text, rodata, data, stack]) {k : ℕ}
    (hin : symbols.InBss (segment.physicalAddress.toNat + k)) : segment.fileData[k]? = none := by
  rw [Symbols.InBss, h.bssStart, h.bssEnd] at hin
  have hclear := (hplaced.clearing hin.1 hin.2).1 segment hsegment
  rw [AddressRange.Contains, AddressRange.fileBacked] at hclear
  rw [List.getElem?_eq_none_iff, length_fileData (hplan.planned segment hsegment)]
  have hle : segment.physicalAddress.toNat ≤ segment.physicalAddress.toNat + k :=
    Nat.le_add_right _ _
  simp only [hle, true_and] at hclear
  omega

end Shim

theorem halt_loader (built : BootScenario) : built.loader.halt = built.prescribed := by
  cases built <;> rfl

theorem prescribed_injective : Function.Injective BootScenario.prescribed := by
  have hself : ∀ marker : Bytes, marker ∈ [marker] := List.mem_singleton_self
  have hrejected : Kernel.abiVersionRejected ≠ Kernel.contractLengthRejected :=
    ne_of_kind .abiVersion .contractLength (hself _) (hself _) (by decide)
  intro a b h
  cases a <;> cases b <;> first
    | rfl
    | exact absurd (congrArg Halt.code h) (by decide)
    | exact absurd (List.head_eq_of_cons_eq (congrArg Halt.records h)) hrejected
    | exact absurd (List.head_eq_of_cons_eq (congrArg Halt.records h)) hrejected.symm

theorem endsInKernel_of_kernelHalt {run : GuestRun} {halt : Halt} (h : kernelHalt run = some halt) :
    EndsInKernel run halt := by
  rcases main_ends run with hearly | ⟨halt', hkernel⟩
  · rw [hearly.noKernel] at h
    cases h
  · rw [hkernel.kernel, Option.some.injEq] at h
    rwa [h] at hkernel

namespace KernelBoot

variable (boot : KernelBoot) {s' : State}

theorem stackTop : boot.report.stackTop = stackBaseAddress + stackSizeBytes :=
  inspectKernelBytes_stackTop boot.inspected

theorem plan : LoadPlan boot.kernel boot.segments :=
  loadPlan_of_collect boot.parsed boot.collected

/-- The four segments and where they lie. -/
theorem placed : ∃ text rodata data stack, boot.segments = [text, rodata, data, stack] ∧
    Placed text rodata data stack boot.report.bssStart.toNat boot.report.bssEnd.toNat := by
  obtain ⟨elf, text, rodata, data, stack, helf, hsegments, hplaced⟩ :=
    placed_of_inspection boot.inspected
  obtain rfl := Exec.ok.inj (boot.parsed.symm.trans helf)
  exact ⟨text, rodata, data, stack, Exec.ok.inj (boot.collected.symm.trans hsegments), hplaced⟩

theorem shimLinked : boot.symbols.Linked := by
  obtain ⟨text, rodata, data, stack, -, hplaced⟩ := boot.placed
  exact boot.linked.linked boot.stackTop hplaced

/-- The bytes of the segments when the kernel is entered. -/
theorem state_image {segment : LoadSegment} (hsegment : segment ∈ boot.segments) {k : ℕ}
    (hk : k < segment.span) :
    boot.state.memory (segment.physicalAddress.toNat + k) = (segment.fileData[k]?).getD 0 := by
  have hcovers : segment.Covers (segment.physicalAddress.toNat + k) := ⟨by omega, by omega⟩
  have hapart := prepareKernel_storage_apart boot.prepares boot.files boot.parsed boot.collected
    hsegment hcovers
  rw [boot.transferred.image segment hsegment _ hcovers, encodeContract_frame boot.encodes hapart]
  exact prepareKernel_image boot.prepares boot.files boot.parsed boot.collected boot.apart segment
    hsegment k hk

/-- The code of the shim is in none of the places that it writes to. -/
theorem code_apart {x : ℕ} (hx : (polytopeKernelEntry boot.symbols).InCode x) :
    ¬boot.symbols.InBss x ∧ ¬boot.symbols.InSlot x := by
  obtain ⟨text, rodata, data, stack, hsegments, hplaced⟩ := boot.placed
  obtain ⟨text', rest, hshim, -, hinside⟩ := boot.shim.code
  obtain ⟨rfl, -⟩ := List.cons.inj (hshim.symm.trans hsegments)
  obtain ⟨hge, hlt⟩ := hinside x hx
  have hplan := boot.plan
  rw [hsegments] at hplan
  constructor
  · intro hbss
    -- the clearing covers no byte of the file
    have hnone := fileData_of_inBss boot.linked hplaced hplan List.mem_cons_self
      (k := x - text'.physicalAddress.toNat) (by rwa [Nat.add_sub_cancel' hge])
    rw [List.getElem?_eq_none_iff] at hnone
    omega
  · intro hslot
    rw [Symbols.InSlot, boot.linked.stack_eq boot.stackTop] at hslot
    have hspan := length_fileData_le_span (hplan.planned text' List.mem_cons_self)
    have hrodata := hplaced.rodata_after
    have hdata := hplaced.data_after
    have hguard := hplaced.guard_after
    omega

/-- The processor finds the shim at the address that it is sent to. -/
theorem code_present : (polytopeKernelEntry boot.symbols).AssembledIn boot.state.memory := by
  obtain ⟨text, rest, hsegments, hcode, hinside⟩ := boot.shim.code
  have htext : text ∈ boot.segments := hsegments ▸ List.mem_cons_self
  refine hcode.congr fun x hx => ?_
  obtain ⟨hge, hlt⟩ := hinside x hx
  have hspan := length_fileData_le_span (boot.plan.planned text htext)
  have hbyte := boot.state_image htext (k := x - text.physicalAddress.toNat) (by omega)
  rwa [Nat.add_sub_cancel' hge] at hbyte

/-- The shim calls the kernel. -/
theorem enters : ∃ s', CodeRuns boot.state s' ∧ Entered boot.symbols boot.state s' := by
  obtain ⟨-, -, -, -, hentry, -⟩ := prepareKernel_stages boot.prepares boot.files boot.parsed
  refine code_enters boot.shimLinked boot.code_present (fun x => boot.code_apart) ?_
  rw [boot.transferred.location, hentry, boot.shim.entry]

/-- The shim leaves the stored contract as it is. -/
theorem load_of_entered (hentered : Entered boot.symbols boot.state s') :
    s'.memory.load boot.prepared.contractStorage.base BootContract.bootInfoSize =
      boot.memory.load boot.prepared.contractStorage.base BootContract.bootInfoSize := by
  obtain ⟨text, rodata, data, stack, hsegments, hplaced⟩ := boot.placed
  rw [← boot.transferred.stored]
  apply Memory.load_congr
  intro i hi
  have hlength := boot.prepared.contractStorage.byteLength_eq
  have hout : ¬(boot.symbols.InBss (boot.prepared.contractStorage.base + i) ∨
      boot.symbols.InSlot (boot.prepared.contractStorage.base + i)) := by
    intro hchanged
    obtain ⟨segment, hsegment, hcovers⟩ :=
      covers_of_changed boot.linked boot.stackTop hplaced hchanged
    have := prepareKernel_storage_apart boot.prepares boot.files boot.parsed boot.collected
      (hsegments ▸ hsegment) hcovers
    simp only [BootContract.bootInfoSize] at hi
    simp only [pageBytes] at hlength
    omega
  exact hentered.frame _ (fun h => hout (.inl h)) (fun h => hout (.inr h))

/-- The kernel's main function then ends as the scenario asks. -/
theorem halt_of_entered (hentered : Entered boot.symbols boot.state s') :
    Kernel.polytopeKernelMain s'.memory (s'.registers .rdi).toNat (s'.registers .rsi).toNat =
      boot.scenario.prescribed := by
  rw [hentered.contract, hentered.length, boot.transferred.contract, boot.transferred.length,
    ← halt_loader]
  exact polytopeKernelMain_of_stored boot.encodes (boot.load_of_entered hentered)

/-- The run of the guest that goes on from there. -/
def run (s' : State) : GuestRun :=
  .ofPlatform boot.platform boot.before boot.map
    (.kernel s'.memory (s'.registers .rdi).toNat (s'.registers .rsi).toNat)

theorem endsInKernel (hentered : Entered boot.symbols boot.state s') :
    EndsInKernel (boot.run s') boot.scenario.prescribed := by
  obtain ⟨-, -, -, -, -, hscenario, -⟩ :=
    prepareKernel_stages boot.prepares boot.files boot.parsed
  apply endsInKernel_of_kernelHalt
  rw [← boot.halt_of_entered hentered]
  simp only [kernelHalt, run, GuestRun.ofPlatform, boot.prepares, hscenario, boot.encodes]

end KernelBoot

-- ════════════════════════════════════════════════════════════════════════
-- A sample boot
-- ════════════════════════════════════════════════════════════════════════

/-- The sample kernel beside the file of the truncated scenario. -/
def inspectedDirectory : Directory where
  openFile path :=
    if path = kernelFile then some (some (sampleFile sampleKernel))
    else if path = scenarioFile then some (some (sampleFile (ascii "truncated\n")))
    else none

def inspectedPlatform : Platform where
  firmware := firstFitFirmware 2
  imageFileSystem := some (some inspectedDirectory)
  tryReserve _ _ := true
  kernelBuffer := 0x5000000

theorem readFiles_inspected :
    readFiles inspectedPlatform = .ok (sampleKernel, BootScenario.truncated.loader) := by
  have hkernel : readBoundedFile inspectedDirectory (fun _ _ => true) kernelFile maxElfFileSize
      .elfInvalid = .ok sampleKernel :=
    readLoop_sampleFile (by decide +kernel) (by decide +kernel) (by decide +kernel) (by decide)
  have hscenario : readBoundedFile inspectedDirectory (fun _ _ => true) scenarioFile
      maxScenarioBytes .configInvalid = .ok (ascii "truncated\n") :=
    readLoop_sampleFile (by decide +kernel) (by decide +kernel) (by decide +kernel) (by decide)
  have hparse : Loader.BootScenario.parse (ascii "truncated\n") = .ok .truncatedContract := by
    decide +kernel
  simp only [readFiles, inspectedPlatform, Exec.okOr_some, Exec.ok_bind, hkernel, hscenario, hparse]
  rfl

theorem prepareKernel_inspected :
    ∃ p m', prepareKernel inspectedPlatform freeMachine = (.ok p, m') := by
  let m₁ : Machine :=
    { freeMachine with memory := freeMachine.memory.store 0x5000000 sampleKernel }
  let load := Action.each (loadSegment (firstFitFirmware 2) 0x5000000)
    ([0, 1, 2, 3].map (segmentOf sampleKernel))
  let m₂ := (load m₁).2
  let m₃ := (reserveStackGuard (firstFitFirmware 2) m₂).2
  have hload : load m₁ = (.ok (), m₂) := Prod.ext (by decide +kernel) rfl
  have hguard : reserveStackGuard (firstFitFirmware 2) m₂ = (.ok (), m₃) :=
    Prod.ext (by decide +kernel) rfl
  have hbase : ((ContractStorage.allocate (firstFitFirmware 2) m₃).1 >>= fun storage =>
      .ok storage.base : Exec LoaderError ℕ) = .ok 0x1000 := by decide +kernel
  obtain ⟨storage, hallocate, -⟩ := Exec.bind_eq_ok.mp hbase
  have hsegments : loadSegments (firstFitFirmware 2) 0x5000000 sampleHandle = load :=
    loadSegmentsFrom_eq collect_sampleKernel
  refine ⟨⟨0x4000000, storage, .truncatedContract⟩,
    (ContractStorage.allocate (firstFitFirmware 2) m₃).2, ?_⟩
  refine Action.bind_eq_ok.mpr ⟨_, _, Action.lift_eq_ok.mpr ⟨readFiles_inspected, rfl⟩, ?_⟩
  refine Action.bind_eq_ok.mpr ⟨(), m₁, rfl, ?_⟩
  refine Action.bind_eq_ok.mpr ⟨_, _, Action.lift_eq_ok.mpr
    ⟨Exec.mapErr_eq_ok.mpr parse_sampleKernel, rfl⟩, ?_⟩
  refine Action.bind_eq_ok.mpr ⟨(), m₂, (congrFun hsegments m₁).trans hload, ?_⟩
  refine Action.bind_eq_ok.mpr ⟨(), m₃, hguard, ?_⟩
  exact Action.bind_eq_ok.mpr ⟨storage, _, Prod.ext hallocate rfl, rfl⟩

/-- The sample's `.bss` is the probe. -/
theorem inspectKernelBytes_sample :
    ∃ report, inspectKernelBytes (fun _ => "") sampleKernel (utf8 sampleMap) = .ok report ∧
      report.bssStart = 0x4003000 ∧ report.bssEnd = 0x4003008 := by
  obtain ⟨report, hreport⟩ := exists_sampleReport
  refine ⟨report, hreport, ?_⟩
  have h := hreport
  rw [inspectKernelBytes] at h
  simp only [↓Exec.check_bind_eq_ok, Exec.bind_eq_ok, Exec.okOr_eq_ok] at h
  obtain ⟨-, -, -, text, htext, elf, -, layout, hlayout, segments, -, inspected, -, -, bss, hbss,
    bssEnd, hbssEnd, loadEnd, -, kernelBytes, -, mapBytes, -, data, -, heq⟩ := h
  obtain rfl := Option.some.inj ((fromUtf8_utf8 sampleMap).symm.trans htext)
  obtain rfl := Exec.ok.inj (parse_sampleMap.symm.trans hlayout)
  have hsection :
      sampleLayout.mapSection ".bss".toList = .ok ⟨".bss".toList, 0x4003000, 8, 10⟩ := by
    decide +kernel
  obtain rfl := Exec.ok.inj (hsection.symm.trans hbss)
  rw [← Exec.ok.inj heq]
  refine ⟨rfl, ?_⟩
  have hend : MapSection.finish ⟨".bss".toList, 0x4003000, 8, 10⟩ = .ok 0x4003008 := by
    decide +kernel
  exact Exec.ok.inj (hbssEnd.symm.trans hend)

/-- Where the instructions of the sample's shim begin, and where it ends. -/
def entryOffsets : List ℕ :=
  [0, 1, 2, 5, 8, 15, 19, 22, 32, 39, 46, 53, 56, 58, 60, 68, 70, 73, 76, 81, 86, 88, 93, 97, 98,
    99, 100, 102]

def sampleShim : Symbols where
  bootstrapStackTop := stackBaseAddress + stackSizeBytes
  polytopeBootBssProbe := 0x4003000
  bssStart := 0x4003000
  bssEnd := 0x4003008
  polytopeKernelMain := 0x4000080
  address index := 0x4000000 + UInt64.ofNat (entryOffsets.getD index 0)

theorem linkedAs_sample {report : KernelInspection}
    (hinspected : inspectKernelBytes (fun _ => "") sampleKernel (utf8 sampleMap) = .ok report)
    (hstart : report.bssStart = 0x4003000) (hend : report.bssEnd = 0x4003008) :
    LinkedAs sampleShim report := by
  refine ⟨hstart.symm, hend.symm, (inspectKernelBytes_stackTop hinspected).symm, ?_⟩
  intro i hi
  have hbounds : sampleShim.polytopeBootBssProbe.toNat = 0x4003000 ∧
      sampleShim.bssStart.toNat = 0x4003000 ∧ sampleShim.bssEnd.toNat = 0x4003008 := by decide
  obtain ⟨hprobe, hfirst, hlast⟩ := hbounds
  rw [Symbols.InBss, hprobe, hfirst, hlast]
  omega

/-- The decoder finds the shim's instructions in the bytes of the file. -/
theorem assembledIn_sample :
    (polytopeKernelEntry sampleShim).AssembledIn (fileImage (segmentOf sampleKernel 0)) := by
  have hcode : ∀ index ∈ List.range 27,
      (sampleShim.address index).toNat ≤ (sampleShim.address (index + 1)).toNat ∧
      instructionAt (fileImage (segmentOf sampleKernel 0)) (sampleShim.address index)
        ((sampleShim.address (index + 1)).toNat - (sampleShim.address index).toNat) =
          (polytopeKernelEntry sampleShim).instructions[index]?.map
            (polytopeKernelEntry sampleShim).coded := by
    decide +kernel
  exact fun index hindex => hcode index (List.mem_range.mpr hindex)

theorem carriesShim_sample :
    CarriesShim sampleShim sampleHandle ([0, 1, 2, 3].map (segmentOf sampleKernel)) := by
  refine ⟨by decide, segmentOf sampleKernel 0, _, rfl, assembledIn_sample, fun x hx => ?_⟩
  have hbounds : (sampleShim.address 0).toNat = 0x4000000 ∧
      (sampleShim.address 27).toNat = 0x4000066 ∧
      (segmentOf sampleKernel 0).physicalAddress.toNat = 0x4000000 ∧
      (segmentOf sampleKernel 0).fileData.length = 0x100 := by decide +kernel
  obtain ⟨hfirst, hlast, haddress, hlength⟩ := hbounds
  have hge : (sampleShim.address 0).toNat ≤ x := hx.1
  have hlt : x < (sampleShim.address 27).toNat := hx.2
  omega

/-- A transfer with arbitrary values in the other registers. -/
def transferState (memory : Memory) (entryPoint : UInt64) (contract length : ℕ) : State where
  location := .outside entryPoint
  registers r :=
    if r = .rdi then UInt64.ofNat contract else if r = .rsi then UInt64.ofNat length else 0x55
  zero := false
  direction := true
  interrupts := true
  memory := memory
  outputs := []

theorem transferred_transferState (memory : Memory) (segments : List LoadSegment) (p : Prepared)
    {length : ℕ} (h : length < 2 ^ 64) :
    Transferred memory segments p length
      (transferState memory p.entryPoint p.contractStorage.base length) := by
  have hbase : p.contractStorage.base < 2 ^ 64 := by
    have hfits := p.contractStorage.fits
    rw [p.contractStorage.byteLength_eq] at hfits
    simp only [pageBytes] at hfits
    omega
  exact ⟨rfl, fun _ _ _ _ => rfl, rfl, UInt64.toNat_ofNat_of_lt' hbase,
    UInt64.toNat_ofNat_of_lt' h⟩

theorem mapValid_nil : MapValid [] := ⟨by decide, by decide, by decide⟩

theorem apart_sample : ∀ segment ∈ [0, 1, 2, 3].map (segmentOf sampleKernel),
    ApartFrom 0x5000000 sampleKernel segment := by
  have hends : ([0, 1, 2, 3].map (segmentOf sampleKernel)).all
      fun segment => segment.physicalAddress.toNat + segment.span ≤ 0x5000000 := by decide +kernel
  intro segment hsegment x hx
  have hend := of_decide_eq_true (List.all_eq_true.mp hends segment hsegment)
  exact Or.inl (hx.2.trans_le hend)

/-- The sample kernel boots up to its entry. -/
theorem exists_sampleBoot : ∃ boot : KernelBoot, boot.scenario = .truncated ∧
    boot.kernel = sampleKernel ∧ boot.symbols = sampleShim ∧
    boot.segments = [0, 1, 2, 3].map (segmentOf sampleKernel) := by
  obtain ⟨report, hinspected, hstart, hend⟩ := inspectKernelBytes_sample
  obtain ⟨p, m', hprepared⟩ := prepareKernel_inspected
  obtain ⟨stored, -, -, hencoded⟩ := encodeContract_of_valid p.contractStorage
    BootScenario.truncated.loader m'.memory mapValid_nil
  have htransferred : Transferred _ ([0, 1, 2, 3].map (segmentOf sampleKernel)) p _ _ :=
    transferred_transferState (m'.memory.store p.contractStorage.base stored) _ p
      (show storedLength BootScenario.truncated.loader < 2 ^ 64 by decide)
  exact ⟨⟨_, _, .truncated, readFiles_inspected, _, _, _, hinspected, _, _, parse_sampleKernel,
    collect_sampleKernel, apart_sample, _, linkedAs_sample hinspected hstart hend,
    carriesShim_sample, _, _, _, hprepared, _, _, _, hencoded, _, htransferred⟩, rfl, rfl, rfl, rfl⟩

theorem reported_truncated {run : GuestRun}
    (h : EndsInKernel run BootScenario.truncated.prescribed) :
    Reported run ((Loader.main run).records.flatMap writeRecord) none
      ⟨none, some ((Loader.main run).records.flatMap writeRecord), none, none⟩ := by
  refine ⟨rfl, ?_, ?_, ?_⟩
  · rw [h.records]
    decide +kernel
  · intro content hcontent
    simp at hcontent
  · have hself : ∀ marker : Bytes, marker ∈ [marker] := List.mem_singleton_self
    rw [h.records]
    exact iff_of_false nofun
      (not_mem_kernelPath .ready .contractLength (hself _) (hself _) (by decide))

-- ════════════════════════════════════════════════════════════════════════
-- The boot
-- ════════════════════════════════════════════════════════════════════════

/-- The kernel's own code starts on the loaded image. The processor, sent to the
entry point, finds the shim's machine code there and calls the kernel with the
contract's address and length, in the one run it has. Every byte of every segment is
as the file has it or zero, but for the return address on the stack, and the contract
is as it was written. The kernel's main function then ends as the scenario asks. -/
theorem kernel_starts_on_loaded_image (boot : KernelBoot) :
    ∃ s', CodeRuns boot.state s' ∧ Entered boot.symbols boot.state s' ∧
      (∀ t, CodeRuns boot.state t → CodeRuns t s' ∨ CodeRuns s' t) ∧
      (∀ segment ∈ boot.segments, ∀ k < segment.span,
        ¬boot.symbols.InSlot (segment.physicalAddress.toNat + k) →
        s'.memory (segment.physicalAddress.toNat + k) = (segment.fileData[k]?).getD 0) ∧
      s'.memory.load boot.prepared.contractStorage.base BootContract.bootInfoSize =
        boot.memory.load boot.prepared.contractStorage.base BootContract.bootInfoSize ∧
      Kernel.polytopeKernelMain s'.memory (s'.registers .rdi).toNat (s'.registers .rsi).toNat =
        boot.scenario.prescribed := by
  obtain ⟨s', hrun, hentered⟩ := boot.enters
  refine ⟨s', hrun, hentered, fun t ht => ht.total hrun, ?_, boot.load_of_entered hentered,
    boot.halt_of_entered hentered⟩
  intro segment hsegment k hk hslot
  by_cases hin : boot.symbols.InBss (segment.physicalAddress.toNat + k)
  · -- the shim clears what the loader had zeroed
    obtain ⟨text, rodata, data, stack, hsegments, hplaced⟩ := boot.placed
    have hplan := boot.plan
    rw [hsegments] at hplan hsegment
    rw [hentered.cleared _ hin, fileData_of_inBss boot.linked hplaced hplan hsegment hin]
    rfl
  · rw [hentered.frame _ hin hslot]
    exact boot.state_image hsegment hk

/-- The sample kernel enters with the last byte of the shim's code in place, a
cleared probe, and the length that the truncated scenario reports. -/
theorem kernel_starts_on_loaded_image_sample :
    ∃ (boot : KernelBoot) (s' : State), boot.kernel = sampleKernel ∧ CodeRuns boot.state s' ∧
      s'.memory 0x4000065 = 0xfc ∧ s'.memory 0x4003000 = 0 ∧
      Kernel.polytopeKernelMain s'.memory (s'.registers .rdi).toNat (s'.registers .rsi).toNat =
        ⟨[Kernel.contractLengthRejected], .contractRejected⟩ := by
  obtain ⟨boot, hscenario, hkernel, hsymbols, hsegments⟩ := exists_sampleBoot
  obtain ⟨s', hrun, -, -, himage, -, hhalt⟩ := kernel_starts_on_loaded_image boot
  rw [hsegments, hsymbols] at himage
  rw [hscenario] at hhalt
  have hstack : sampleShim.stack.toNat = 0x4810000 := by decide
  have hbyte : ∀ i k x byte, i ∈ [0, 1, 2, 3] → k < (segmentOf sampleKernel i).span →
      (segmentOf sampleKernel i).physicalAddress.toNat + k = x → x < 0x4800000 →
      ((segmentOf sampleKernel i).fileData[k]?).getD 0 = byte → s'.memory x = byte := by
    rintro i k x byte hi hk rfl hx rfl
    refine himage _ (List.mem_map_of_mem hi) k hk ?_
    rw [Symbols.InSlot, hstack]
    omega
  refine ⟨boot, s', hkernel, hrun, ?_, ?_, hhalt⟩
  · exact hbyte 0 0x65 _ _ (by decide) (by decide +kernel) (by decide +kernel) (by decide)
      (by decide +kernel)
  · exact hbyte 2 0x1000 _ _ (by decide) (by decide +kernel) (by decide +kernel) (by decide)
      (by decide +kernel)

/-- An image built for a scenario passes the boot test of that scenario and of no
other. The processor, sent to the kernel's entry point, comes to the kernel's main
function; of the run that goes on from there the debug log holds the records among
complete lines of prose, and the other logs hold no rejection record that the run
has not written. -/
theorem boot_test_passes_iff_scenario (boot : KernelBoot) :
    ∃ s', CodeRuns boot.state s' ∧ Entered boot.symbols boot.state s' ∧
      ∀ stream ready capture, Interleaved (Loader.main (boot.run s')).records stream →
        Reported (boot.run s') stream ready capture → ∀ expected,
        (validateBootOutcome (reportOf (boot.run s') expected ready capture) = .ok () ↔
          expected = boot.scenario) := by
  obtain ⟨s', hrun, hentered⟩ := boot.enters
  refine ⟨s', hrun, hentered, fun stream ready capture hstream hreport expected => ?_⟩
  rw [validate_of_kernel expected (boot.endsInKernel hentered) hstream hreport]
  exact ⟨fun h => (prescribed_injective h).symm, fun h => congrArg _ h.symm⟩

theorem boot_test_passes_iff_scenario_sample :
    ∃ (boot : KernelBoot) (s' : State) (ready : Option ℕ) (capture : Capture),
      boot.kernel = sampleKernel ∧ CodeRuns boot.state s' ∧
      validateBootOutcome (reportOf (boot.run s') .truncated ready capture) = .ok () ∧
      validateBootOutcome (reportOf (boot.run s') .normal ready capture) ≠ .ok () := by
  obtain ⟨boot, hscenario, hkernel, -⟩ := exists_sampleBoot
  obtain ⟨s', hrun, hentered, htest⟩ := boot_test_passes_iff_scenario boot
  have hends := boot.endsInKernel hentered
  rw [hscenario] at hends htest
  have hverdict := htest _ _ _ (interleaved_records _) (reported_truncated hends)
  exact ⟨boot, s', _, _, hkernel, hrun, (hverdict .truncated).mpr rfl,
    fun h => absurd ((hverdict .normal).mp h) (by decide)⟩

end PolytopeOS.Host
