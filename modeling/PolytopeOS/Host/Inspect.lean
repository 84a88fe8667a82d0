import PolytopeOS.BootElf.Segments
import PolytopeOS.Corelib.Decimal
import PolytopeOS.Host.LinkerMap

/-!
# Inspection of the kernel and its linker map

The combined checks of a kernel file and the linker map of its build, and the
report they produce. The digest of the report is a parameter; nothing depends on
what it computes. A report implies a safe layout of the kernel in memory.
-/

namespace PolytopeOS.Host
open Corelib BootElf

def maxMapFileSize : ℕ := 4 * 1024 * 1024

def expectedSegments : ℕ := 4

structure SegmentInspection where
  index : ℕ
  flags : UInt32
  fileOffset : UInt64
  virtualAddress : UInt64
  physicalAddress : UInt64
  fileSize : UInt64
  memorySize : UInt64
  zeroFillSize : UInt64
  alignment : UInt64
  deriving DecidableEq, Repr

structure SectionInspection where
  name : List Char
  address : UInt64
  size : UInt64
  deriving DecidableEq, Repr

structure KernelInspection where
  schemaVersion : UInt32
  kernelSha256 : String
  mapSha256 : String
  kernelBytes : ℕ
  mapBytes : ℕ
  entryPoint : UInt64
  kernelBase : UInt64
  kernelLoadEnd : UInt64
  stackGuardBase : UInt64
  stackGuardBytes : UInt64
  stackBase : UInt64
  stackTop : UInt64
  bssStart : UInt64
  bssEnd : UInt64
  dataZeroFillBytes : UInt64
  writeXorExecute : Bool
  segments : List SegmentInspection
  sections : List SectionInspection
  deriving DecidableEq, Repr

def alignUp (value alignment : UInt64) : Exec InspectError UInt64 := do
  Exec.ensure alignment.toNat.isPowerOfTwo (.message "alignment must be a power of two")
  let sum ← Exec.okOr (checkedAdd value (alignment - 1))
    (.message "address alignment overflowed")
  return sum &&& ~~~(alignment - 1)

/-- One expected constant or symbol. -/
def checkValue (description : String) (values : List (List Char × UInt64))
    (expected : List Char × UInt64) : Exec InspectError Unit := do
  let name := String.ofList expected.1
  let actual ← Exec.okOr (values.lookup expected.1)
    (.message s!"linker map is missing {description} {name}")
  let found := hex actual.toNat
  let wanted := hex expected.2.toNat
  Exec.ensure (actual = expected.2)
    (.message s!"linker {description} {name} is {found}; expected {wanted}")

def expectedConstants : List (List Char × UInt64) :=
  [("KERNEL_BASE".toList, kernelBaseAddress), ("KERNEL_LOAD_LIMIT".toList, kernelLoadLimit),
    ("KERNEL_STACK_GUARD_BASE".toList, stackGuardAddress),
    ("KERNEL_STACK_BASE".toList, stackBaseAddress), ("KERNEL_STACK_SIZE".toList, stackSizeBytes),
    ("PAGE_SIZE".toList, pageSize)]

def MapLayout.validateConstantsAndSymbols (layout : MapLayout) (entryPoint : UInt64) :
    Exec InspectError Unit := do
  Exec.foldIdx (fun _ _ expected => checkValue "constant" layout.constants expected) 0 ()
    expectedConstants
  let text ← layout.mapSection ".text".toList
  let rodata ← layout.mapSection ".rodata".toList
  let data ← layout.mapSection ".data".toList
  let bss ← layout.mapSection ".bss".toList
  let expectedSymbols := [
    ("__kernel_start".toList, kernelBaseAddress), ("__text_start".toList, text.address),
    ("__text_end".toList, ← text.finish), ("__rodata_start".toList, rodata.address),
    ("__rodata_end".toList, ← rodata.finish), ("__data_start".toList, data.address),
    ("__data_end".toList, ← data.finish), ("__bss_start".toList, bss.address),
    ("__bss_end".toList, ← bss.finish),
    ("__bootstrap_stack_guard_start".toList, stackGuardAddress),
    ("__bootstrap_stack_guard_end".toList, stackBaseAddress),
    ("__bootstrap_stack_bottom".toList, stackBaseAddress),
    ("__bootstrap_stack_top".toList, stackBaseAddress + stackSizeBytes),
    ("__kernel_end".toList, stackBaseAddress + stackSizeBytes),
    ("polytope_kernel_entry".toList, entryPoint)]
  Exec.foldIdx (fun _ _ expected => checkValue "symbol" layout.symbols expected) 0 ()
    expectedSymbols
  Exec.ensure layout.sawLoadEndExpression
    (.message "linker map is missing the page-aligned __kernel_load_end expression")

/-- The loop remembers the line of the previous section. -/
def validateSectionOrder (layout : MapLayout) : Exec InspectError Unit := do
  let _ ← Exec.foldIdx (fun _ (previousLine : Option ℕ) name => do
    let found ← layout.mapSection name
    let shown := String.ofList name
    Exec.ensure (∀ previous ∈ previousLine, previous < found.line)
      (.message s!"linker-map section {shown} is out of order")
    return some found.line) 0 none sectionNames
  return ()

def validateSegment (segment : SegmentInspection) (mapSection : MapSection) (flags : UInt32)
    (exactMemorySize : Bool) : Exec InspectError Unit := do
  let name := String.ofList mapSection.name
  let found := hex segment.flags.toNat
  let wanted := hex flags.toNat
  Exec.ensure (segment.flags = flags)
    (.message s!"{name} PT_LOAD flags are {found}; expected {wanted}")
  Exec.ensure (segment.physicalAddress = mapSection.address)
    (.message s!"{name} PT_LOAD address differs from the linker map")
  Exec.ensure (segment.virtualAddress = segment.physicalAddress)
    (.message s!"{name} PT_LOAD is not identity mapped")
  Exec.ensure (segment.fileSize = mapSection.size)
    (.message s!"{name} initialized size differs from the linker map")
  Exec.ensure (exactMemorySize → segment.memorySize = mapSection.size)
    (.message s!"{name} memory size contains unexpected zero fill")
  Exec.ensure (segment.alignment = pageSize) (.message s!"{name} PT_LOAD is not page aligned")

def validateDataSegment (segment : SegmentInspection) (data bss : MapSection) :
    Exec InspectError Unit := do
  validateSegment segment data (pfR ||| pfW) false
  Exec.ensure (segment.zeroFillSize ≥ bss.size)
    (.message "data PT_LOAD does not reserve all .bss bytes")
  Exec.ensure (checkedAdd segment.physicalAddress segment.memorySize = some (← bss.finish))
    (.message "data PT_LOAD memory end differs from .bss end")
  Exec.ensure (checkedAdd segment.physicalAddress segment.fileSize = some (← data.finish))
    (.message "data PT_LOAD file end differs from .data end")

def validateStackSegment (segment : SegmentInspection) (stack : MapSection) :
    Exec InspectError Unit := do
  Exec.ensure (segment.flags = pfR ||| pfW)
    (.message "stack PT_LOAD must be readable, writable, and non-executable")
  Exec.ensure (segment.physicalAddress = stackBaseAddress ∧
      segment.virtualAddress = stackBaseAddress)
    (.message "stack PT_LOAD starts at the wrong address")
  Exec.ensure (segment.fileSize = 0)
    (.message "stack PT_LOAD must not consume initialized file bytes")
  Exec.ensure (segment.memorySize = stackSizeBytes ∧ segment.zeroFillSize = stackSizeBytes)
    (.message "stack PT_LOAD has the wrong reservation size")
  Exec.ensure (segment.alignment = pageSize) (.message "stack PT_LOAD is not page aligned")
  Exec.ensure ((← stack.finish) = stackBaseAddress + stackSizeBytes)
    (.message "linker-map stack end is incorrect")

/-- The six sections of the map, in its order. -/
structure Sections where
  text : MapSection
  rodata : MapSection
  data : MapSection
  bss : MapSection
  guard : MapSection
  stack : MapSection

def MapLayout.required (layout : MapLayout) : Exec InspectError Sections := do
  let text ← layout.mapSection ".text".toList
  let rodata ← layout.mapSection ".rodata".toList
  let data ← layout.mapSection ".data".toList
  let bss ← layout.mapSection ".bss".toList
  let guard ← layout.mapSection ".stack_guard".toList
  let stack ← layout.mapSection ".stack".toList
  return { text, rodata, data, bss, guard, stack }

/-- The checks of the sections among themselves. -/
def Sections.validate (s : Sections) : Exec InspectError Unit := do
  let guardAddress := hex stackGuardAddress.toNat
  let stackSize := hex stackSizeBytes.toNat
  let stackAddress := hex stackBaseAddress.toNat
  Exec.ensure (s.text.address = kernelBaseAddress ∧ s.text.size > 0)
    (.message ".text does not start at the non-empty kernel base")
  Exec.ensure (s.rodata.address % pageSize = 0 ∧ s.rodata.size > 0)
    (.message ".rodata is empty or misaligned")
  Exec.ensure (s.data.address % pageSize = 0 ∧ s.data.size > 0)
    (.message ".data is empty or misaligned")
  Exec.ensure (s.bss.address % pageSize = 0 ∧ s.bss.size > 0)
    (.message ".bss is empty or misaligned")
  Exec.ensure ((← s.text.finish) ≤ s.rodata.address) (.message ".text overlaps .rodata")
  Exec.ensure ((← s.rodata.finish) ≤ s.data.address) (.message ".rodata overlaps .data")
  Exec.ensure ((← s.data.finish) ≤ s.bss.address) (.message ".data overlaps .bss")
  Exec.ensure (s.guard.address = stackGuardAddress ∧ s.guard.size = pageSize)
    (.message s!"stack guard must be one page at {guardAddress}")
  Exec.ensure (s.stack.address = stackBaseAddress ∧ s.stack.size = stackSizeBytes)
    (.message s!"bootstrap stack must be {stackSize} bytes at {stackAddress}")
  Exec.ensure ((← alignUp (← s.bss.finish) pageSize) ≤ stackGuardAddress)
    (.message "kernel load sections overlap the stack guard")

/-- The checks of the segments against their sections. -/
def validateSegments (segments : List SegmentInspection) (s : Sections) :
    Exec InspectError Unit := do
  validateSegment (← Exec.unwrap segments[0]?) s.text (pfR ||| pfX) true
  validateSegment (← Exec.unwrap segments[1]?) s.rodata pfR true
  validateDataSegment (← Exec.unwrap segments[2]?) s.data s.bss
  validateStackSegment (← Exec.unwrap segments[3]?) s.stack
  Exec.ensure (∀ segment ∈ segments,
      ∃ finish ∈ checkedAdd segment.physicalAddress segment.memorySize,
        finish ≤ stackGuardAddress ∨ segment.physicalAddress ≥ stackBaseAddress)
    (.message "a PT_LOAD range maps the bootstrap-stack guard page")

def validateCombined (entryPoint : UInt64) (segments : List SegmentInspection)
    (layout : MapLayout) : Exec InspectError Unit := do
  let count := segments.length
  let found := hex entryPoint.toNat
  let wanted := hex kernelBaseAddress.toNat
  Exec.ensure (segments.length = expectedSegments)
    (.message s!"kernel has {count} PT_LOAD records; expected {expectedSegments}")
  Exec.ensure (entryPoint = kernelBaseAddress)
    (.message s!"kernel entry point is {found}; expected {wanted}")
  layout.validateConstantsAndSymbols entryPoint
  validateSectionOrder layout
  let required ← layout.required
  required.validate
  validateSegments segments required

def inspectSegment (segment : LoadSegment) : Exec InspectError SegmentInspection := do
  let zeroFillSize ← segment.zeroFillSize.mapErr Empty.elim
  return {
    index := segment.index
    flags := segment.flags.bits
    fileOffset := segment.fileOffset
    virtualAddress := segment.virtualAddress
    physicalAddress := segment.physicalAddress
    fileSize := segment.fileSize
    memorySize := segment.memorySize
    zeroFillSize
    alignment := segment.alignment }

def inspectSegments : List LoadSegment → Exec InspectError (List SegmentInspection)
  | [] => .ok []
  | segment :: rest => do return (← inspectSegment segment) :: (← inspectSegments rest)

def MapLayout.reportSections (layout : MapLayout) : List SectionInspection :=
  (sectionNames.filterMap fun name => layout.sections.lookup name).map
    fun found => ⟨found.name, found.address, found.size⟩

def inspectKernelBytes (sha256Hex : Bytes → String) (kernel map : Bytes) :
    Exec InspectError KernelInspection := do
  let kernelLength := kernel.length
  let mapLength := map.length
  Exec.ensure (kernel.length ≤ maxElfFileSize)
    (.message s!"kernel ELF is {kernelLength} bytes; maximum is {maxElfFileSize}")
  Exec.ensure (map.length ≤ maxMapFileSize)
    (.message s!"kernel linker map is {mapLength} bytes; maximum is {maxMapFileSize}")
  Exec.ensure (0 ∉ map) (.message "kernel linker map contains a NUL byte")
  let mapText ← Exec.okOr (fromUtf8 map) (.message "kernel linker map is not valid UTF-8")
  let elf ← (BootElf.parse kernel).mapErr .elfRejected
  let layout ← MapLayout.parse mapText
  let segments ← inspectSegments (← elf.segments.collect.mapErr Empty.elim)
  validateCombined elf.entryPoint segments layout
  let bss ← layout.mapSection ".bss".toList
  let bssEnd ← bss.finish
  let kernelLoadEnd ← alignUp bssEnd pageSize
  let kernelBytes ← Exec.okOr (checkedSize kernel.length)
    (.message "kernel byte count does not fit u64")
  let mapBytes ← Exec.okOr (checkedSize map.length) (.message "map byte count does not fit u64")
  let data ← Exec.unwrap segments[2]?
  return {
    schemaVersion := 1
    kernelSha256 := sha256Hex kernel
    mapSha256 := sha256Hex map
    kernelBytes
    mapBytes
    entryPoint := elf.entryPoint
    kernelBase := kernelBaseAddress
    kernelLoadEnd
    stackGuardBase := stackGuardAddress
    stackGuardBytes := pageSize
    stackBase := stackBaseAddress
    stackTop := stackBaseAddress + stackSizeBytes
    bssStart := bss.address
    bssEnd
    dataZeroFillBytes := data.zeroFillSize
    writeXorExecute := true
    segments
    sections := layout.reportSections }

theorem alignUp_eq_ok {value aligned : UInt64} (h : alignUp value pageSize = .ok aligned) :
    aligned.toNat = roundUp value.toNat 4096 := by
  rw [alignUp, Exec.check_bind_eq_ok] at h
  simp only [Exec.bind_eq_ok, Exec.okOr_eq_ok] at h
  obtain ⟨-, sum, hsum, haligned⟩ := h
  have hvalue : sum.toNat = value.toNat + 4095 := checkedAdd_eq_some.mp hsum
  rw [← Exec.ok.inj haligned, UInt64.toNat_and, UInt64.toNat_not]
  have hmask := and_highMask sum.toNat 12 64 sum.toNat_lt (by decide)
  rw [hvalue] at hmask ⊢
  exact hmask

theorem finish_eq_ok {mapSection : MapSection} {finish : UInt64}
    (h : mapSection.finish = .ok finish) :
    finish.toNat = mapSection.address.toNat + mapSection.size.toNat :=
  checkedAdd_eq_some.mp (Exec.okOr_eq_ok.mp h)

/-- What the combined checks establish about the segments and the `.bss` section. -/
structure Combined (entryPoint : UInt64) (text rodata data stack : SegmentInspection)
    (bss : MapSection) : Prop where
  entry : entryPoint = text.physicalAddress
  base : text.physicalAddress = kernelBaseAddress
  text_flags : text.flags = pfR ||| pfX
  rodata_flags : rodata.flags = pfR
  data_flags : data.flags = pfR ||| pfW
  stack_flags : stack.flags = pfR ||| pfW
  bss_nonempty : 0 < bss.size.toNat
  bss_start : data.physicalAddress.toNat + data.fileSize.toNat ≤ bss.address.toNat
  bss_end : data.physicalAddress.toNat + data.memorySize.toNat =
    bss.address.toNat + bss.size.toNat
  load_end : roundUp (bss.address.toNat + bss.size.toNat) 4096 ≤ stackGuardAddress.toNat
  stack_base : stack.physicalAddress = stackBaseAddress
  stack_size : stack.memorySize = stackSizeBytes
  stack_file : stack.fileSize = 0

theorem validateSegment_eq_ok {segment : SegmentInspection} {mapSection : MapSection}
    {flags : UInt32} {exactMemorySize : Bool}
    (h : validateSegment segment mapSection flags exactMemorySize = .ok ()) :
    segment.flags = flags ∧ segment.physicalAddress = mapSection.address := by
  simp only [validateSegment, Exec.check_bind_eq_ok, Exec.ensure_eq_ok] at h
  obtain ⟨hflags, haddress, -⟩ := h
  exact ⟨hflags, haddress⟩

theorem validateDataSegment_eq_ok {segment : SegmentInspection} {data bss : MapSection}
    (h : validateDataSegment segment data bss = .ok ()) :
    segment.flags = pfR ||| pfW ∧
      (∃ dataEnd, data.finish = .ok dataEnd ∧
        dataEnd.toNat = segment.physicalAddress.toNat + segment.fileSize.toNat) ∧
      segment.physicalAddress.toNat + segment.memorySize.toNat =
        bss.address.toNat + bss.size.toNat := by
  rw [validateDataSegment] at h
  simp only [↓Exec.check_bind_eq_ok, Exec.bind_eq_ok, Exec.ensure_eq_ok] at h
  obtain ⟨hsegment, -, bssEnd, hbss, hmemory, dataEnd, hdata, hfile⟩ := h
  refine ⟨(validateSegment_eq_ok hsegment).1, ⟨dataEnd, hdata, checkedAdd_eq_some.mp hfile⟩, ?_⟩
  rw [← finish_eq_ok hbss]
  exact (checkedAdd_eq_some.mp hmemory).symm

theorem Sections.validate_eq_ok {s : Sections} (h : s.validate = .ok ()) :
    s.text.address = kernelBaseAddress ∧ 0 < s.bss.size.toNat ∧
      (∃ dataEnd, s.data.finish = .ok dataEnd ∧ dataEnd.toNat ≤ s.bss.address.toNat) ∧
      roundUp (s.bss.address.toNat + s.bss.size.toNat) 4096 ≤ stackGuardAddress.toNat := by
  rw [Sections.validate] at h
  simp only [↓Exec.check_bind_eq_ok, Exec.bind_eq_ok, Exec.ensure_eq_ok] at h
  obtain ⟨htext, -, -, hbss, textEnd, -, -, rodataEnd, -, -, dataEnd, hdata, hle, -, -, bssEnd,
    hbssEnd, aligned, haligned, hguard⟩ := h
  refine ⟨htext.1, UInt64.lt_iff_toNat_lt.mp hbss.2, ⟨dataEnd, hdata, hle⟩, ?_⟩
  rw [← finish_eq_ok hbssEnd, ← alignUp_eq_ok haligned]
  exact hguard

theorem MapLayout.required_bss {layout : MapLayout} {s : Sections}
    (h : layout.required = .ok s) : layout.mapSection ".bss".toList = .ok s.bss := by
  simp only [MapLayout.required, Exec.bind_eq_ok] at h
  obtain ⟨text, -, rodata, -, data, -, bss, hbss, guard, -, stack, -, hs⟩ := h
  rw [← Exec.ok.inj hs]
  exact hbss

theorem validateStackSegment_eq_ok {segment : SegmentInspection} {stack : MapSection}
    (h : validateStackSegment segment stack = .ok ()) :
    segment.flags = pfR ||| pfW ∧ segment.physicalAddress = stackBaseAddress ∧
      segment.memorySize = stackSizeBytes ∧ segment.fileSize = 0 := by
  rw [validateStackSegment] at h
  simp only [↓Exec.check_bind_eq_ok, Exec.ensure_eq_ok] at h
  obtain ⟨hflags, haddress, hfile, hmemory, -⟩ := h
  exact ⟨hflags, haddress.1, hmemory.1, hfile⟩

theorem validateCombined_eq_ok {entryPoint : UInt64} {segments : List SegmentInspection}
    {layout : MapLayout} {bss : MapSection}
    (h : validateCombined entryPoint segments layout = .ok ())
    (hbss : layout.mapSection ".bss".toList = .ok bss) :
    ∃ text rodata data stack, segments = [text, rodata, data, stack] ∧
      Combined entryPoint text rodata data stack bss := by
  rw [validateCombined] at h
  simp only [↓Exec.check_bind_eq_ok, Exec.bind_eq_ok, Exec.ensure_eq_ok] at h
  obtain ⟨hlength, hentry, -, -, s, hs, hsections, hsegments⟩ := h
  obtain rfl := Exec.ok.inj ((MapLayout.required_bss hs).symm.trans hbss)
  obtain ⟨text, rodata, data, stack, rfl⟩ := List.length_eq_four.mp hlength
  rw [validateSegments] at hsegments
  simp only [List.getElem?_cons_zero, List.getElem?_cons_succ, Exec.unwrap_some, Exec.ok_bind,
    Exec.check_bind_eq_ok] at hsegments
  obtain ⟨htext, hrodata, hdata, hstack, -⟩ := hsegments
  obtain ⟨hbase, hnonempty, ⟨dataEnd, hdataEnd, hle⟩, hguard⟩ := Sections.validate_eq_ok hsections
  obtain ⟨htextFlags, htextAddress⟩ := validateSegment_eq_ok htext
  obtain ⟨hdataFlags, ⟨dataEnd', hdataEnd', hfile⟩, hmemory⟩ := validateDataSegment_eq_ok hdata
  obtain ⟨hstackFlags, hstackBase, hstackSize, hstackFile⟩ := validateStackSegment_eq_ok hstack
  obtain rfl := Exec.ok.inj (hdataEnd.symm.trans hdataEnd')
  refine ⟨text, rodata, data, stack, rfl, ?_⟩
  exact {
    entry := by rw [hentry, htextAddress, hbase]
    base := htextAddress.trans hbase
    text_flags := htextFlags
    rodata_flags := (validateSegment_eq_ok hrodata).1
    data_flags := hdataFlags
    stack_flags := hstackFlags
    bss_nonempty := hnonempty
    bss_start := by rw [← hfile]; exact hle
    bss_end := hmemory
    load_end := hguard
    stack_base := hstackBase
    stack_size := hstackSize
    stack_file := hstackFile }

theorem inspectSegment_eq_ok {segment : LoadSegment} {s : SegmentInspection}
    (h : inspectSegment segment = .ok s) :
    s.flags = segment.flags.bits ∧ s.physicalAddress = segment.physicalAddress ∧
      s.fileSize = segment.fileSize ∧ s.memorySize = segment.memorySize := by
  simp only [inspectSegment, Exec.bind_eq_ok] at h
  obtain ⟨zeroFillSize, -, hs⟩ := h
  rw [← Exec.ok.inj hs]
  exact ⟨rfl, rfl, rfl, rfl⟩

theorem inspectSegments_eq_ok {segments : List LoadSegment} {inspected : List SegmentInspection}
    (h : inspectSegments segments = .ok inspected) :
    List.Forall₂ (fun segment s => inspectSegment segment = .ok s) segments inspected := by
  induction segments generalizing inspected with
  | nil =>
    rw [← Exec.ok.inj h]
    exact .nil
  | cons segment rest ih =>
    simp only [inspectSegments, Exec.bind_eq_ok] at h
    obtain ⟨s, hs, tail, htail, hcons⟩ := h
    rw [← Exec.ok.inj hcons]
    exact .cons hs (ih htail)

theorem exists_inspected {segments : List LoadSegment} {t r d s : SegmentInspection}
    (h : inspectSegments segments = .ok [t, r, d, s]) :
    ∃ text rodata data stack, segments = [text, rodata, data, stack] ∧
      inspectSegment text = .ok t ∧ inspectSegment rodata = .ok r ∧
      inspectSegment data = .ok d ∧ inspectSegment stack = .ok s := by
  have hpairs := inspectSegments_eq_ok h
  obtain _ | ⟨ht, _ | ⟨hr, _ | ⟨hd, _ | ⟨hs, _ | _⟩⟩⟩⟩ := hpairs
  exact ⟨_, _, _, _, rfl, ht, hr, hd, hs⟩

/-- The parts of a successful inspection. -/
theorem inspectKernelBytes_eq_ok {sha256Hex : Bytes → String} {kernel map : Bytes}
    {report : KernelInspection} (h : inspectKernelBytes sha256Hex kernel map = .ok report) :
    ∃ elf segments inspected layout bss, BootElf.parse kernel = .ok elf ∧
      elf.segments.collect = .ok segments ∧ inspectSegments segments = .ok inspected ∧
      validateCombined elf.entryPoint inspected layout = .ok () ∧
      layout.mapSection ".bss".toList = .ok bss ∧ bss.finish = .ok report.bssEnd ∧
      alignUp report.bssEnd pageSize = .ok report.kernelLoadEnd ∧
      report.bssStart = bss.address := by
  rw [inspectKernelBytes] at h
  simp only [↓Exec.check_bind_eq_ok, Exec.bind_eq_ok, Exec.ensure_eq_ok, Exec.okOr_eq_ok,
    Exec.mapErr_eq_ok] at h
  obtain ⟨-, -, -, text, -, elf, helf, layout, -, segments, hsegments, inspected, hinspected,
    hcombined, bss, hbss, bssEnd, hbssEnd, loadEnd, hloadEnd, kernelBytes, -, mapBytes, -, data, -,
    hreport⟩ := h
  rw [← Exec.ok.inj hreport]
  exact ⟨elf, segments, inspected, layout, bss, helf, hsegments, hinspected, hcombined, hbss,
    hbssEnd, hloadEnd, rfl⟩

/-- A half-open range of addresses. -/
structure AddressRange where
  start : ℕ
  finish : ℕ

namespace AddressRange

def Contains (r : AddressRange) (x : ℕ) : Prop := r.start ≤ x ∧ x < r.finish

def Apart (a b : AddressRange) : Prop := ∀ x, ¬(a.Contains x ∧ b.Contains x)

def pages (segment : LoadSegment) : AddressRange :=
  ⟨segment.physicalAddress.toNat / 4096 * 4096,
    roundUp (segment.physicalAddress.toNat + segment.memorySize.toNat) 4096⟩

def memory (segment : LoadSegment) : AddressRange :=
  ⟨segment.physicalAddress.toNat, segment.physicalAddress.toNat + segment.memorySize.toNat⟩

/-- The bytes that come from the file. -/
def fileBacked (segment : LoadSegment) : AddressRange :=
  ⟨segment.physicalAddress.toNat, segment.physicalAddress.toNat + segment.fileSize.toNat⟩

def guardPage : AddressRange := ⟨0x047ff000, 0x04800000⟩

theorem apart_of_le {a b : AddressRange} (h : a.finish ≤ b.start) : a.Apart b := by
  rintro x ⟨ha, hb⟩
  exact absurd (ha.2.trans_le h) (Nat.not_lt.mpr hb.1)

theorem pages_eq {bytes : Bytes} {segment : LoadSegment} (h : segment.Planned bytes) :
    pages segment =
      ⟨segment.physicalAddress.toNat, segment.physicalAddress.toNat + segment.span⟩ := by
  have haligned := h.aligned
  rw [pages, roundUp_add_of_dvd (by decide) (Nat.dvd_of_mod_eq_zero haligned),
    Nat.div_mul_cancel (Nat.dvd_of_mod_eq_zero haligned)]
  rfl

end AddressRange

open AddressRange

/-- A kernel layout in which the loader can fill memory and the kernel can clear
its `.bss` without touching anything else. -/
structure SafeLayout (elf : ValidatedElf) (text rodata data stack : LoadSegment)
    (report : KernelInspection) : Prop where
  flags : text.flags.bits = pfR ||| pfX ∧ rodata.flags.bits = pfR ∧
    data.flags.bits = pfR ||| pfW ∧ stack.flags.bits = pfR ||| pfW
  apart : [pages text, pages rodata, pages data, guardPage, pages stack].Pairwise Apart
  bounded : ∀ r ∈ [pages text, pages rodata, pages data, guardPage, pages stack],
    0x04000000 ≤ r.start ∧ r.finish ≤ 0x04810000
  entry : elf.entryPoint = text.physicalAddress
  bss_nonempty : report.bssStart.toNat < report.bssEnd.toNat
  bss_inside : ∀ x, report.bssStart.toNat ≤ x → x < report.bssEnd.toNat → (memory data).Contains x
  bss_start : (fileBacked data).finish ≤ report.bssStart.toNat
  bss_end : report.bssEnd.toNat = (memory data).finish
  clearing : ∀ x, report.bssStart.toNat ≤ x → x < report.bssEnd.toNat →
    (∀ segment ∈ [text, rodata, data, stack], ¬(fileBacked segment).Contains x) ∧
    ¬(memory stack).Contains x ∧ ¬guardPage.Contains x
  load_end : report.kernelLoadEnd.toNat = (pages data).finish
  load_end_le : report.kernelLoadEnd.toNat ≤ guardPage.start

/-- The inequalities between the segments' addresses that carry the layout. -/
structure Placed (text rodata data stack : LoadSegment) (bssStart bssEnd : ℕ) : Prop where
  base : text.physicalAddress.toNat = 0x04000000
  rodata_after : text.physicalAddress.toNat + text.span ≤ rodata.physicalAddress.toNat
  data_after : rodata.physicalAddress.toNat + rodata.span ≤ data.physicalAddress.toNat
  guard_after : data.physicalAddress.toNat + data.span ≤ 0x047ff000
  stack_base : stack.physicalAddress.toNat = 0x04800000
  stack_span : stack.span = 0x00010000
  stack_file : stack.fileSize.toNat = 0
  file_le : ∀ segment ∈ [text, rodata, data], segment.fileSize.toNat ≤ segment.span
  memory_le : data.memorySize.toNat ≤ data.span
  stack_memory : stack.memorySize.toNat ≤ stack.span
  bss_start : data.physicalAddress.toNat + data.fileSize.toNat ≤ bssStart
  bss_nonempty : bssStart < bssEnd
  bss_end : bssEnd = data.physicalAddress.toNat + data.memorySize.toNat

theorem memorySize_le_span (segment : LoadSegment) : segment.memorySize.toNat ≤ segment.span :=
  le_roundUp _ (by decide)

/-- The load plan and the combined checks place the segments. -/
theorem placed_of_combined {bytes : Bytes} {entryPoint : UInt64}
    {text rodata data stack : LoadSegment} {t r d s : SegmentInspection} {bss : MapSection}
    (hplan : LoadPlan bytes [text, rodata, data, stack])
    (hcombined : Combined entryPoint t r d s bss)
    (ht : inspectSegment text = .ok t) (hd : inspectSegment data = .ok d)
    (hs : inspectSegment stack = .ok s) :
    Placed text rodata data stack bss.address.toNat (bss.address.toNat + bss.size.toNat) := by
  obtain ⟨-, htaddress, -, -⟩ := inspectSegment_eq_ok ht
  obtain ⟨-, hdaddress, hdfile, hdmemory⟩ := inspectSegment_eq_ok hd
  obtain ⟨-, hsaddress, hsfile, hsmemory⟩ := inspectSegment_eq_ok hs
  have horder := hplan.disjoint
  simp only [List.pairwise_cons, List.mem_cons, forall_eq_or_imp] at horder
  obtain ⟨⟨htr, -⟩, ⟨hrd, -⟩, -⟩ := horder
  have hdata := hplan.planned data (by simp)
  have hmemory := hcombined.bss_end
  have hguard := hcombined.load_end
  rw [hdaddress, hdmemory] at hmemory
  rw [← hmemory, roundUp_add_of_dvd (by decide) (Nat.dvd_of_mod_eq_zero hdata.aligned)] at hguard
  have hstack : stack.memorySize.toNat = 0x00010000 := by
    rw [← hsmemory, hcombined.stack_size]
    rfl
  have hbss := hcombined.bss_nonempty
  exact {
    base := by rw [← htaddress, hcombined.base]; rfl
    rodata_after := htr
    data_after := hrd
    guard_after := hguard
    stack_base := by rw [← hsaddress, hcombined.stack_base]; rfl
    stack_span := by rw [LoadSegment.span, hstack]; rfl
    stack_file := by rw [← hsfile, hcombined.stack_file]; rfl
    file_le := by
      intro segment hsegment
      have hplanned := hplan.planned segment (by simp at hsegment ⊢; tauto)
      exact hplanned.fileSize_le.trans (memorySize_le_span segment)
    memory_le := memorySize_le_span data
    stack_memory := memorySize_le_span stack
    bss_start := by rw [← hdaddress, ← hdfile]; exact hcombined.bss_start
    bss_nonempty := by omega
    bss_end := hmemory.symm }

section Placement

variable {bytes : Bytes} {text rodata data stack : LoadSegment} {bssStart bssEnd : ℕ}

/-- Load addresses are page aligned, so the page ranges start at them. -/
theorem pages_of_loadPlan (hplan : LoadPlan bytes [text, rodata, data, stack]) :
    [pages text, pages rodata, pages data, guardPage, pages stack] =
      [⟨text.physicalAddress.toNat, text.physicalAddress.toNat + text.span⟩,
        ⟨rodata.physicalAddress.toNat, rodata.physicalAddress.toNat + rodata.span⟩,
        ⟨data.physicalAddress.toNat, data.physicalAddress.toNat + data.span⟩,
        ⟨0x047ff000, 0x04800000⟩,
        ⟨stack.physicalAddress.toNat, stack.physicalAddress.toNat + stack.span⟩] := by
  rw [pages_eq (hplan.planned text (by simp)), pages_eq (hplan.planned rodata (by simp)),
    pages_eq (hplan.planned data (by simp)), pages_eq (hplan.planned stack (by simp)), guardPage]

theorem Placed.apart (h : Placed text rodata data stack bssStart bssEnd)
    (hplan : LoadPlan bytes [text, rodata, data, stack]) :
    [pages text, pages rodata, pages data, guardPage, pages stack].Pairwise Apart := by
  obtain ⟨hbase, hrodata, hdata, hguard, hstack, -⟩ := h
  rw [pages_of_loadPlan hplan]
  -- the ranges ascend, so it is enough to compare ends with starts
  apply List.Pairwise.imp (R := fun a b => a.finish ≤ b.start) apart_of_le
  simp only [List.pairwise_cons, List.forall_mem_cons, List.not_mem_nil, false_imp_iff,
    implies_true, List.Pairwise.nil, and_true]
  omega

theorem Placed.bounded (h : Placed text rodata data stack bssStart bssEnd)
    (hplan : LoadPlan bytes [text, rodata, data, stack]) :
    ∀ r ∈ [pages text, pages rodata, pages data, guardPage, pages stack],
      0x04000000 ≤ r.start ∧ r.finish ≤ 0x04810000 := by
  obtain ⟨hbase, hrodata, hdata, hguard, hstack, hspan, -⟩ := h
  rw [pages_of_loadPlan hplan]
  simp only [List.mem_cons, List.not_mem_nil, or_false, forall_eq_or_imp, forall_eq]
  omega

/-- Clearing the `.bss` range touches nothing else. -/
theorem Placed.clearing (h : Placed text rodata data stack bssStart bssEnd) {x : ℕ}
    (hstart : bssStart ≤ x) (hend : x < bssEnd) :
    (∀ segment ∈ [text, rodata, data, stack], ¬(fileBacked segment).Contains x) ∧
    ¬(memory stack).Contains x ∧ ¬guardPage.Contains x := by
  obtain ⟨hbase, hrodata, hdata, hguard, hstack, hspan, hfile, hfiles, hmemory, -, hbss, -,
    hbssEnd⟩ := h
  simp only [List.mem_cons, List.not_mem_nil, or_false, forall_eq_or_imp, forall_eq] at hfiles ⊢
  simp only [Contains, fileBacked, memory, guardPage]
  omega

end Placement

/-- A report implies a safe kernel layout. -/
theorem inspection_implies_safe_layout (sha256Hex : Bytes → String) (kernel map : Bytes)
    (report : KernelInspection) (h : inspectKernelBytes sha256Hex kernel map = .ok report) :
    ∃ elf text rodata data stack, BootElf.parse kernel = .ok elf ∧
      elf.segments.collect = .ok [text, rodata, data, stack] ∧
      SafeLayout elf text rodata data stack report := by
  obtain ⟨elf, segments, inspected, layout, bss, helf, hsegments, hinspected, hcombined, hbss,
    hbssEnd, hloadEnd, hstart⟩ := inspectKernelBytes_eq_ok h
  obtain ⟨t, r, d, s, rfl, hfacts⟩ := validateCombined_eq_ok hcombined hbss
  obtain ⟨text, rodata, data, stack, rfl, ht, hr, hd, hs⟩ := exists_inspected hinspected
  have hplan := loadPlan_of_collect helf hsegments
  have hplaced := placed_of_combined hplan hfacts ht hd hs
  have hend := finish_eq_ok hbssEnd
  have hload := alignUp_eq_ok hloadEnd
  rw [← hend] at hplaced
  obtain ⟨htflags, htaddress, -⟩ := inspectSegment_eq_ok ht
  refine ⟨elf, text, rodata, data, stack, helf, hsegments, ?_⟩
  exact {
    flags := ⟨htflags.symm.trans hfacts.text_flags,
      (inspectSegment_eq_ok hr).1.symm.trans hfacts.rodata_flags,
      (inspectSegment_eq_ok hd).1.symm.trans hfacts.data_flags,
      (inspectSegment_eq_ok hs).1.symm.trans hfacts.stack_flags⟩
    apart := hplaced.apart hplan
    bounded := hplaced.bounded hplan
    entry := hfacts.entry.trans htaddress
    bss_nonempty := by rw [hstart]; exact hplaced.bss_nonempty
    bss_inside := by
      intro x hx hlt
      have hinside := hplaced.bss_start
      rw [hstart] at hx
      rw [hplaced.bss_end] at hlt
      have hge : data.physicalAddress.toNat ≤ x := by omega
      exact ⟨hge, hlt⟩
    bss_start := by rw [hstart]; exact hplaced.bss_start
    bss_end := hplaced.bss_end
    clearing := by rw [hstart]; exact fun x => hplaced.clearing
    load_end := by rw [hload, hplaced.bss_end]; rfl
    load_end_le := by
      have hguard := hplaced.guard_after
      have hpages := congrArg AddressRange.finish (pages_eq (hplan.planned data (by simp)))
      rw [hload, hplaced.bss_end]
      exact hpages.le.trans hguard }

def sampleSections : List MapSection :=
  [⟨".text".toList, 0x4000000, 0x100, 7⟩, ⟨".rodata".toList, 0x4001000, 0x80, 8⟩,
    ⟨".data".toList, 0x4002000, 0x20, 9⟩, ⟨".bss".toList, 0x4003000, 8, 10⟩,
    ⟨".stack_guard".toList, 0x47ff000, 0x1000, 11⟩, ⟨".stack".toList, 0x4800000, 0x10000, 12⟩]

def sampleSymbols : List (List Char × UInt64) :=
  symbolNames.zip [0x4000000, 0x4000000, 0x4000100, 0x4001000, 0x4001080, 0x4002000, 0x4002020,
    0x4003000, 0x4003008, 0x47ff000, 0x4800000, 0x4800000, 0x4810000, 0x4810000, 0x4000000]

def sampleLayout : MapLayout :=
  ⟨sampleSections.map fun found => (found.name, found), expectedConstants, sampleSymbols, true⟩

/-- Virtual address, load address, size, alignment and name. -/
def mapLine (address size : UInt64) (name : List Char) : List Char :=
  Nat.toDigits 16 address.toNat ++ [' ', '0', ' '] ++ Nat.toDigits 16 size.toNat ++
    [' ', '1', ' '] ++ name ++ [' ']

/-- The constants, the sections from line 7 on, the symbols and the load end. -/
def sampleMap : List Char :=
  List.flatMap (· ++ ['\n']) <|
    expectedConstants.map (fun constant =>
      mapLine 0 0 constant.1 ++ ['=', ' '] ++ Nat.toDigits 16 constant.2.toNat) ++
    sampleSections.map (fun found => mapLine found.address found.size found.name) ++
    sampleSymbols.map (fun symbol => mapLine symbol.2 0 symbol.1) ++
    [mapLine 0 0 "__kernel_load_end".toList ++ ['=', ' '] ++ "ALIGN(PAGE_SIZE)".toList]

theorem parse_sampleMap : MapLayout.parse sampleMap = .ok sampleLayout := by decide +kernel

theorem exists_sampleReport :
    ∃ report, inspectKernelBytes (fun _ => "") sampleKernel (utf8 sampleMap) = .ok report := by
  have hkernel : sampleKernel.length ≤ maxElfFileSize := by decide +kernel
  have hmap : (utf8 sampleMap).length ≤ maxMapFileSize ∧ 0 ∉ utf8 sampleMap := by decide +kernel
  rw [inspectKernelBytes]
  refine Exec.exists_bind_eq_ok ((Exec.ensure_eq_ok (u := ())).mpr hkernel) ?_
  refine Exec.exists_bind_eq_ok ((Exec.ensure_eq_ok (u := ())).mpr hmap.1) ?_
  refine Exec.exists_bind_eq_ok ((Exec.ensure_eq_ok (u := ())).mpr hmap.2) ?_
  refine Exec.exists_bind_eq_ok (Exec.okOr_eq_ok.mpr (fromUtf8_utf8 sampleMap)) ?_
  refine Exec.exists_bind_eq_ok (Exec.mapErr_eq_ok.mpr parse_sampleKernel) ?_
  refine Exec.exists_bind_eq_ok parse_sampleMap ?_
  refine Exec.exists_bind_eq_ok (Exec.mapErr_eq_ok.mpr collect_sampleKernel) ?_
  -- the two parsers are done; what remains runs on their results
  decide +kernel

theorem inspection_implies_safe_layout_sample :
    ∃ report, inspectKernelBytes (fun _ => "") sampleKernel (utf8 sampleMap) = .ok report ∧
      ∃ elf text rodata data stack, BootElf.parse sampleKernel = .ok elf ∧
        elf.segments.collect = .ok [text, rodata, data, stack] ∧
        SafeLayout elf text rodata data stack report := by
  obtain ⟨report, hreport⟩ := exists_sampleReport
  exact ⟨report, hreport, inspection_implies_safe_layout _ _ _ _ hreport⟩

end PolytopeOS.Host
