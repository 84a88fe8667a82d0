import PolytopeOS.Corelib.Cursor
import PolytopeOS.BootContract.Validate

/-!
# The byte ABI of the contract

`BootInfo.encode` and `parse` are two separate field lists over byte cursors.
`BootInfo.wire` is the byte string both are about: the encoder emits it and the
decoder succeeds exactly on strings of this form, so the codec is a bijection
between valid contracts and accepted strings.
-/

namespace PolytopeOS.BootContract
open Corelib

-- ════════════════════════════════════════════════════════════════════════
-- Encoding
-- ════════════════════════════════════════════════════════════════════════

def writeRegion (region : MemoryRegion) : Encoder Empty Unit := do
  Writer.u64 region.start
  Writer.u64 region.length
  Writer.u32 region.kind.raw
  Writer.u32 region.sourceKind
  Writer.u64 region.attributes

def writeInfo (info : BootInfo) : Encoder Empty Unit := do
  Writer.put info.header.magic.toList
  Writer.u16 info.header.abiMajor
  Writer.u16 info.header.abiMinor
  Writer.u32 info.header.headerSize
  Writer.u32 info.header.totalSize
  Writer.u32 info.header.memoryRegionSize
  Writer.u32 info.header.memoryRegionCount
  Writer.u32 info.header.flags
  Writer.u32 info.platform.firmware.raw
  Writer.u32 info.platform.architecture.raw
  Writer.u64 info.platform.flags
  Writer.u64 info.platform.rsdpAddress
  Writer.u32 info.platform.rsdpLength
  Writer.u32 info.platform.bootCpuId
  Writer.u32 info.scenario.kind.raw
  Writer.u32 info.scenario.flags
  Writer.u64 info.scenario.argument
  Encoder.each writeRegion info.memoryRegions.toList

/-- The pair holds the call's outcome and the buffer it leaves behind. -/
def BootInfo.encode (info : BootInfo) (output : Bytes) : Exec EncodeError ℕ × Bytes :=
  match (validateRef info).mapErr EncodeError.invalid with
  | .err e => (.err e, output)
  | .panic => (.panic, output)
  | .ok () =>
    if output.length < bootInfoSize then
      (.err (.bufferTooSmall output.length bootInfoSize), output)
    else
      match writeInfo info (Writer.new (output.take bootInfoSize)) with
      | .err e => nomatch e
      | .panic => (.panic, output)
      | .ok ((), writer) =>
        let output := writer.bytes ++ output.drop bootInfoSize
        -- `debug_assert_eq!(writer.position, BOOT_INFO_SIZE)`
        if writer.position ≠ bootInfoSize then (.panic, output) else (.ok bootInfoSize, output)

-- ════════════════════════════════════════════════════════════════════════
-- Decoding
-- ════════════════════════════════════════════════════════════════════════

/-- The eight header fields, as `prevalidate` and `parse` both read them. -/
def readHeader : Decoder ValidationError BootHeader := do
  let magic ← Reader.array8
  let abiMajor ← Reader.u16
  let abiMinor ← Reader.u16
  let headerSize ← Reader.u32
  let totalSize ← Reader.u32
  let memoryRegionSize ← Reader.u32
  let memoryRegionCount ← Reader.u32
  let flags ← Reader.u32
  return { magic, abiMajor, abiMinor, headerSize, totalSize, memoryRegionSize,
           memoryRegionCount, flags }

def readPlatform : Decoder ValidationError PlatformInfo := do
  let firmware ← Reader.u32
  let architecture ← Reader.u32
  let flags ← Reader.u64
  let rsdpAddress ← Reader.u64
  let rsdpLength ← Reader.u32
  let bootCpuId ← Reader.u32
  return { firmware := ⟨firmware⟩, architecture := ⟨architecture⟩, flags, rsdpAddress,
           rsdpLength, bootCpuId }

def readScenario : Decoder ValidationError ScenarioInfo := do
  let kind ← Reader.u32
  let flags ← Reader.u32
  let argument ← Reader.u64
  return { kind := ⟨kind⟩, flags, argument }

def readRegion : Decoder ValidationError MemoryRegion := do
  let start ← Reader.u64
  let length ← Reader.u64
  let kind ← Reader.u32
  let sourceKind ← Reader.u32
  let attributes ← Reader.u64
  return { start, length, kind := ⟨kind⟩, sourceKind, attributes }

def readInfo : Decoder ValidationError BootInfo := do
  let header ← readHeader
  let platform ← readPlatform
  let scenario ← readScenario
  let memoryRegions ← Decoder.array readRegion maxMemoryRegions
  return { header, platform, scenario, memoryRegions }

structure PrevalidatedHeader where
  abiMajor : UInt16
  abiMinor : UInt16
  totalSize : UInt32
  memoryRegionCount : UInt32
  deriving DecidableEq, Repr

/-- The part of `prevalidate` after the header fields have been read. -/
def prevalidateHeader (length : ℕ) (header : BootHeader) :
    Exec ValidationError PrevalidatedHeader :=
  if header.magic ≠ bootMagic then .err .badMagic
  else if (header.abiMajor, header.abiMinor) ≠ (abiMajor, abiMinor) then
    .err (.unsupportedVersion header.abiMajor header.abiMinor)
  else if header.headerSize ≠ bootHeaderSizeU32 then
    .err (.headerSize header.headerSize bootHeaderSizeU32)
  else if header.totalSize ≠ bootInfoSizeU32 then
    .err (.totalSize header.totalSize bootInfoSizeU32)
  else if header.memoryRegionSize ≠ memoryRegionSizeU32 then
    .err (.memoryRegionSize header.memoryRegionSize memoryRegionSizeU32)
  else if header.memoryRegionCount > maxMemoryRegionsU32 then
    .err (.tooManyMemoryRegions header.memoryRegionCount maxMemoryRegionsU32)
  else if header.flags &&& ~~~knownHeaderFlags ≠ 0 then
    .err (.unknownHeaderFlags header.flags)
  else
    let declared := header.totalSize.toNat
    if length < declared then .err (.truncated length declared)
    else if length ≠ declared then .err (.lengthMismatch length declared)
    else .ok ⟨header.abiMajor, header.abiMinor, header.totalSize, header.memoryRegionCount⟩

def prevalidate (bytes : Bytes) : Exec ValidationError PrevalidatedHeader :=
  if bytes.length < bootHeaderSize then .err (.truncated bytes.length bootHeaderSize)
  else do
    let (header, _) ← readHeader (Reader.new bytes)
    prevalidateHeader bytes.length header

def parse (bytes : Bytes) : Exec ValidationError ValidatedBootInfo := do
  let _ ← prevalidate bytes
  let (info, reader) ← readInfo (Reader.new bytes)
  -- `debug_assert_eq!(reader.position, BOOT_INFO_SIZE)`
  if reader.position ≠ bootInfoSize then .panic else info.validate

-- ════════════════════════════════════════════════════════════════════════
-- The wire form
-- ════════════════════════════════════════════════════════════════════════

def BootHeader.wire (h : BootHeader) : Bytes :=
  h.magic.toList ++ u16ToLe h.abiMajor ++ u16ToLe h.abiMinor ++ u32ToLe h.headerSize ++
    u32ToLe h.totalSize ++ u32ToLe h.memoryRegionSize ++ u32ToLe h.memoryRegionCount ++
    u32ToLe h.flags

def PlatformInfo.wire (p : PlatformInfo) : Bytes :=
  u32ToLe p.firmware.raw ++ u32ToLe p.architecture.raw ++ u64ToLe p.flags ++
    u64ToLe p.rsdpAddress ++ u32ToLe p.rsdpLength ++ u32ToLe p.bootCpuId

def ScenarioInfo.wire (s : ScenarioInfo) : Bytes :=
  u32ToLe s.kind.raw ++ u32ToLe s.flags ++ u64ToLe s.argument

def MemoryRegion.wire (r : MemoryRegion) : Bytes :=
  u64ToLe r.start ++ u64ToLe r.length ++ u32ToLe r.kind.raw ++ u32ToLe r.sourceKind ++
    u64ToLe r.attributes

def BootInfo.wire (info : BootInfo) : Bytes :=
  info.header.wire ++ info.platform.wire ++ info.scenario.wire ++
    info.memoryRegions.toList.flatMap MemoryRegion.wire

theorem decodes_readHeader : Decodes readHeader (fun _ => True) BootHeader.wire 32 := by
  unfold readHeader
  refine Decodes.congr (Decodes.cast
    (Decodes.bind BootHeader.magic decodes_array8 fun magic =>
    Decodes.bind BootHeader.abiMajor decodes_u16 fun abiMajor =>
    Decodes.bind BootHeader.abiMinor decodes_u16 fun abiMinor =>
    Decodes.bind BootHeader.headerSize decodes_u32 fun headerSize =>
    Decodes.bind BootHeader.totalSize decodes_u32 fun totalSize =>
    Decodes.bind BootHeader.memoryRegionSize decodes_u32 fun memoryRegionSize =>
    Decodes.bind BootHeader.memoryRegionCount decodes_u32 fun memoryRegionCount =>
    Decodes.bind BootHeader.flags decodes_u32 fun flags =>
    Decodes.pure _ fun h => ?_) ?_) ?_
  · cases h
    simp [and_assoc]
  · rfl
  · intro h
    simp [BootHeader.wire]

theorem decodes_readPlatform : Decodes readPlatform (fun _ => True) PlatformInfo.wire 32 := by
  unfold readPlatform
  refine Decodes.congr (Decodes.cast
    (Decodes.bind (fun p : PlatformInfo => p.firmware.raw) decodes_u32 fun firmware =>
    Decodes.bind (fun p : PlatformInfo => p.architecture.raw) decodes_u32 fun architecture =>
    Decodes.bind PlatformInfo.flags decodes_u64 fun flags =>
    Decodes.bind PlatformInfo.rsdpAddress decodes_u64 fun rsdpAddress =>
    Decodes.bind PlatformInfo.rsdpLength decodes_u32 fun rsdpLength =>
    Decodes.bind PlatformInfo.bootCpuId decodes_u32 fun bootCpuId =>
    Decodes.pure _ fun p => ?_) ?_) ?_
  · rcases p with ⟨⟨_⟩, ⟨_⟩, _, _, _, _⟩
    simp [and_assoc]
  · rfl
  · intro p
    simp [PlatformInfo.wire]

theorem decodes_readScenario : Decodes readScenario (fun _ => True) ScenarioInfo.wire 16 := by
  unfold readScenario
  refine Decodes.congr (Decodes.cast
    (Decodes.bind (fun s : ScenarioInfo => s.kind.raw) decodes_u32 fun kind =>
    Decodes.bind ScenarioInfo.flags decodes_u32 fun flags =>
    Decodes.bind ScenarioInfo.argument decodes_u64 fun argument =>
    Decodes.pure _ fun s => ?_) ?_) ?_
  · rcases s with ⟨⟨_⟩, _, _⟩
    simp [and_assoc]
  · rfl
  · intro s
    simp [ScenarioInfo.wire]

theorem decodes_readRegion : Decodes readRegion (fun _ => True) MemoryRegion.wire 32 := by
  unfold readRegion
  refine Decodes.congr (Decodes.cast
    (Decodes.bind MemoryRegion.start decodes_u64 fun start =>
    Decodes.bind MemoryRegion.length decodes_u64 fun length =>
    Decodes.bind (fun r : MemoryRegion => r.kind.raw) decodes_u32 fun kind =>
    Decodes.bind MemoryRegion.sourceKind decodes_u32 fun sourceKind =>
    Decodes.bind MemoryRegion.attributes decodes_u64 fun attributes =>
    Decodes.pure _ fun r => ?_) ?_) ?_
  · rcases r with ⟨_, _, ⟨_⟩, _, _⟩
    simp [and_assoc]
  · rfl
  · intro r
    simp [MemoryRegion.wire]

theorem decodes_readInfo : Decodes readInfo (fun _ => True) BootInfo.wire bootInfoSize := by
  unfold readInfo
  refine Decodes.congr (Decodes.cast
    (Decodes.bind BootInfo.header decodes_readHeader fun header =>
    Decodes.bind BootInfo.platform decodes_readPlatform fun platform =>
    Decodes.bind BootInfo.scenario decodes_readScenario fun scenario =>
    Decodes.bind BootInfo.memoryRegions (decodes_readRegion.array maxMemoryRegions) fun regions =>
    Decodes.pure _ fun info => ?_) ?_) ?_
  · cases info
    simp [and_assoc]
  · rfl
  · intro info
    simp [BootInfo.wire]

theorem BootInfo.length_wire (info : BootInfo) : info.wire.length = bootInfoSize :=
  decodes_readInfo.length_eq info trivial

/-- The bytes after the header, which `prevalidate` does not look at. -/
def BootInfo.body (info : BootInfo) : Bytes :=
  info.platform.wire ++ info.scenario.wire ++ info.memoryRegions.toList.flatMap MemoryRegion.wire

theorem BootInfo.wire_eq (info : BootInfo) : info.wire = info.header.wire ++ info.body := by
  simp [BootInfo.wire, BootInfo.body]

theorem writes_writeRegion (region : MemoryRegion) : Writes (writeRegion region) region.wire := by
  have h : region.wire = u64ToLe region.start ++ (u64ToLe region.length ++
      (u32ToLe region.kind.raw ++ (u32ToLe region.sourceKind ++ u64ToLe region.attributes))) := by
    simp [MemoryRegion.wire]
  rw [h]
  exact (Writes.put _).append ((Writes.put _).append ((Writes.put _).append
    ((Writes.put _).append (Writes.put _))))

theorem writes_writeInfo (info : BootInfo) : Writes (writeInfo info) info.wire := by
  have h : info.wire = info.header.magic.toList ++ (u16ToLe info.header.abiMajor ++
      (u16ToLe info.header.abiMinor ++ (u32ToLe info.header.headerSize ++
      (u32ToLe info.header.totalSize ++ (u32ToLe info.header.memoryRegionSize ++
      (u32ToLe info.header.memoryRegionCount ++ (u32ToLe info.header.flags ++
      (u32ToLe info.platform.firmware.raw ++ (u32ToLe info.platform.architecture.raw ++
      (u64ToLe info.platform.flags ++ (u64ToLe info.platform.rsdpAddress ++
      (u32ToLe info.platform.rsdpLength ++ (u32ToLe info.platform.bootCpuId ++
      (u32ToLe info.scenario.kind.raw ++ (u32ToLe info.scenario.flags ++
      (u64ToLe info.scenario.argument ++
      info.memoryRegions.toList.flatMap MemoryRegion.wire)))))))))))))))) := by
    simp [BootInfo.wire, BootHeader.wire, PlatformInfo.wire, ScenarioInfo.wire]
  rw [h]
  have hput : ∀ value, Writes (Writer.put value : Encoder Empty Unit) value := Writes.put
  -- header
  refine (hput _).append <| (hput _).append <| (hput _).append <| (hput _).append <|
    (hput _).append <| (hput _).append <| (hput _).append <| (hput _).append ?_
  -- platform
  refine (hput _).append <| (hput _).append <| (hput _).append <| (hput _).append <|
    (hput _).append <| (hput _).append ?_
  -- scenario
  refine (hput _).append <| (hput _).append <| (hput _).append ?_
  exact Writes.each writes_writeRegion _

-- ════════════════════════════════════════════════════════════════════════
-- The codec
-- ════════════════════════════════════════════════════════════════════════

theorem BootInfo.encode_of_valid {info : BootInfo} {output : Bytes}
    (hvalid : validateRef info = .ok ()) (hlen : bootInfoSize ≤ output.length) :
    info.encode output = (.ok bootInfoSize, info.wire ++ output.drop bootInfoSize) := by
  have hbuffer : (output.take bootInfoSize).length = info.wire.length := by
    rw [List.length_take, info.length_wire, Nat.min_eq_left hlen]
  obtain ⟨w, hw, hbytes, hpos⟩ := (writes_writeInfo info).fills hbuffer
  rw [info.length_wire] at hpos
  simp only [BootInfo.encode, hvalid, Exec.mapErr_ok, hw, hbytes, hpos, ne_eq, not_true_eq_false,
    if_false]
  rw [if_neg (by omega)]

theorem BootInfo.encode_eq_ok {info : BootInfo} {output output' : Bytes} {n : ℕ}
    (h : info.encode output = (.ok n, output')) :
    validateRef info = .ok () ∧ bootInfoSize ≤ output.length := by
  unfold BootInfo.encode at h
  split at h
  · simp at h
  · simp at h
  · next hvalid =>
    refine ⟨Exec.mapErr_eq_ok.mp hvalid, ?_⟩
    by_contra hlt
    rw [if_pos (by omega)] at h
    simp at h

theorem BootInfo.encode_of_invalid {info : BootInfo} (output : Bytes)
    (h : validateRef info ≠ .ok ()) : ∃ e, info.encode output = (.err e, output) := by
  unfold BootInfo.encode
  cases hvalid : validateRef info with
  | ok u => exact absurd hvalid h
  | err e => exact ⟨.invalid e, rfl⟩
  | panic => exact absurd hvalid (validateRef_ne_panic info)

theorem BootInfo.encode_eq_err {info : BootInfo} {output : Bytes} {e : EncodeError}
    (h : (info.encode output).1 = .err e) : (info.encode output).2 = output := by
  cases hvalid : (validateRef info).mapErr EncodeError.invalid with
  | err e' => simp only [BootInfo.encode, hvalid]
  | panic => simp only [BootInfo.encode, hvalid]
  | ok u =>
    by_cases hlen : output.length < bootInfoSize
    · simp only [BootInfo.encode, hvalid, if_pos hlen]
    · rw [BootInfo.encode_of_valid (Exec.mapErr_eq_ok.mp hvalid) (by omega)] at h
      simp at h

/-- `prevalidate`'s copy of the header rules is `validateHeader`, with the length
test behind it. -/
theorem prevalidateHeader_eq (length : ℕ) (header : BootHeader) :
    prevalidateHeader length header = (validateHeader header >>= fun _ =>
      if length < bootInfoSize then .err (.truncated length bootInfoSize)
      else if length ≠ bootInfoSize then .err (.lengthMismatch length bootInfoSize)
      else .ok ⟨header.abiMajor, header.abiMinor, header.totalSize, header.memoryRegionCount⟩) := by
  have hdeclared : bootInfoSizeU32.toNat = bootInfoSize := rfl
  unfold prevalidateHeader validateHeader
  simp only [Exec.ite_err_bind, Exec.ok_bind]
  by_cases htotal : header.totalSize = bootInfoSizeU32
  · simp only [htotal, hdeclared]
  · simp only [htotal, ne_eq, not_false_eq_true, if_true]

/-- Any 32 bytes decode to a header, and `prevalidate` judges that header. -/
theorem readHeader_new {bytes : Bytes} (h : bootHeaderSize ≤ bytes.length) :
    ∃ header reader, readHeader (Reader.new bytes) = .ok (header, reader) ∧
      prevalidate bytes = prevalidateHeader bytes.length header := by
  obtain ⟨header, reader, hread⟩ := decodes_readHeader.total (Reader.new bytes) h
  refine ⟨header, reader, hread, ?_⟩
  unfold prevalidate
  rw [if_neg (by omega), hread]
  rfl

/-- A string of the contract's length is the wire form of what it decodes to. -/
theorem readInfo_new {bytes : Bytes} (h : bytes.length = bootInfoSize) :
    ∃ info reader, readInfo (Reader.new bytes) = .ok (info, reader) ∧
      reader.position = bootInfoSize ∧ bytes = info.wire := by
  obtain ⟨info, reader, hread⟩ := decodes_readInfo.total (Reader.new bytes) h.ge
  obtain ⟨-, hreads⟩ := (decodes_readInfo.eq_ok_iff _ _ _).mp hread
  have hposition : reader.position = bootInfoSize := by
    rw [hreads.position_eq, info.length_wire]
    exact Nat.zero_add _
  refine ⟨info, reader, hread, hposition, ?_⟩
  obtain ⟨hbytes, hrest⟩ := hreads
  rw [Reader.rest_new, Reader.rest, hbytes, hposition] at hrest
  rwa [show (Reader.new bytes).bytes = bytes from rfl, List.drop_of_length_le h.le,
    List.append_nil] at hrest

theorem readHeader_append (header : BootHeader) (rest : Bytes) :
    ∃ reader, readHeader (Reader.new (header.wire ++ rest)) = .ok (header, reader) := by
  have hlen : header.wire.length = 32 := decodes_readHeader.length_eq header trivial
  refine ⟨⟨header.wire ++ rest, 32, by rw [List.length_append]; omega⟩, ?_⟩
  rw [decodes_readHeader.eq_ok_iff]
  refine ⟨trivial, rfl, ?_⟩
  rw [Reader.rest_new, Reader.rest, List.drop_left' hlen]

/-- On a string that starts with a header, `prevalidate` checks that header. -/
theorem prevalidate_wire (header : BootHeader) (rest : Bytes) :
    prevalidate (header.wire ++ rest) = prevalidateHeader (32 + rest.length) header := by
  have hlen : header.wire.length = 32 := decodes_readHeader.length_eq header trivial
  obtain ⟨reader, hread⟩ := readHeader_append header rest
  unfold prevalidate
  rw [if_neg (by rw [List.length_append, hlen, bootHeaderSize]; omega), hread]
  simp [hlen]

theorem prevalidate_info (info : BootInfo) :
    prevalidate info.wire = prevalidateHeader bootInfoSize info.header := by
  have hlen := info.length_wire
  rw [info.wire_eq, List.length_append, decodes_readHeader.length_eq _ trivial] at hlen
  rw [info.wire_eq, prevalidate_wire, hlen]

/-- On a whole contract the length test passes, so parsing is validating: the
header check inside `validate` repeats one that has just been made. -/
theorem parse_wire (info : BootInfo) : parse info.wire = info.validate := by
  obtain ⟨info', reader, hread, hposition, hwire⟩ := readInfo_new info.length_wire
  have hinfo : info' = info := by
    have h := (decodes_readInfo.eq_ok_iff (Reader.new info.wire) info
      ⟨info.wire, bootInfoSize, info.length_wire.ge⟩).mpr ⟨trivial, rfl, by
        rw [Reader.rest_new, Reader.rest, List.drop_of_length_le info.length_wire.le,
          List.append_nil]⟩
    rw [hread, Exec.ok.injEq, Prod.mk.injEq] at h
    exact h.1
  subst hinfo
  have hpre : prevalidate info'.wire = (validateHeader info'.header >>= fun _ => .ok
      ⟨info'.header.abiMajor, info'.header.abiMinor, info'.header.totalSize,
        info'.header.memoryRegionCount⟩) := by
    rw [prevalidate_info, prevalidateHeader_eq, if_neg (lt_irrefl _), if_neg (not_not.mpr rfl)]
  unfold parse
  rw [hpre, hread]
  cases hheader : validateHeader info'.header with
  | ok u => simp [hposition]
  | err e =>
    have herr : validateRef info' = .err e := by rw [validateRef, hheader]; rfl
    exact (BootInfo.validate_eq_err.mpr herr).symm
  | panic =>
    have hpanic : validateRef info' = .panic := by rw [validateRef, hheader]; rfl
    exact absurd hpanic (validateRef_ne_panic info')

theorem prevalidate_eq_ok_length {bytes : Bytes} {p : PrevalidatedHeader}
    (h : prevalidate bytes = .ok p) : bytes.length = bootInfoSize := by
  simp only [prevalidate, Exec.ite_err_eq_ok, Exec.bind_eq_ok, prevalidateHeader_eq] at h
  obtain ⟨-, ⟨header, r⟩, -, -, -, -, hlen, -⟩ := h
  exact not_not.mp hlen

/-- `parse` accepts exactly the wire form of the contract it returns. -/
theorem parse_eq_ok {bytes : Bytes} {v : ValidatedBootInfo} :
    parse bytes = .ok v ↔ bytes = v.info.wire := by
  constructor
  · intro h
    obtain ⟨p, hp, -⟩ := Exec.bind_eq_ok.mp h
    obtain ⟨info, reader, -, -, rfl⟩ := readInfo_new (prevalidate_eq_ok_length hp)
    rw [parse_wire, BootInfo.validate_eq_ok] at h
    rw [h.2]
  · rintro rfl
    rw [parse_wire]
    exact BootInfo.validate_eq_ok.mpr ⟨v.validated, rfl⟩

/-- Encoding and parsing are inverse to each other between valid contracts and
accepted strings, and a failed encoding leaves its buffer alone. -/
theorem encode_parse_bijection :
    (∀ (info : BootInfo) v, info.validate = .ok v →
      ∃ written : Bytes, written.length = 4176 ∧
        (∀ output : Bytes, 4176 ≤ output.length →
          info.encode output = (.ok 4176, written ++ output.drop 4176)) ∧
        parse written = .ok v ∧ v.info = info) ∧
    (∀ bytes v, parse bytes = .ok v → bytes.length = 4176 ∧
      ∀ output : Bytes, 4176 ≤ output.length →
        v.info.encode output = (.ok 4176, bytes ++ output.drop 4176)) ∧
    (∀ (info : BootInfo) (output : Bytes) e,
      (info.encode output).1 = .err e → (info.encode output).2 = output) ∧
    (∀ bytes, (∃ v, parse bytes = .ok v) ↔ ∃ (info : BootInfo) (output : Bytes),
      output.length = 4176 ∧ info.encode output = (.ok 4176, bytes)) := by
  refine ⟨?_, ?_, fun _ _ _ => BootInfo.encode_eq_err, ?_⟩
  · intro info v hv
    obtain ⟨hvalid, rfl⟩ := BootInfo.validate_eq_ok.mp hv
    exact ⟨v.info.wire, v.info.length_wire, fun _ => BootInfo.encode_of_valid hvalid,
      parse_eq_ok.mpr rfl, rfl⟩
  · intro bytes v hv
    obtain rfl := parse_eq_ok.mp hv
    exact ⟨v.info.length_wire, fun _ => BootInfo.encode_of_valid v.validated⟩
  · intro bytes
    have hempty : ∀ output : Bytes, output.length = 4176 → output.drop 4176 = [] :=
      fun output h => List.drop_of_length_le h.le
    constructor
    · rintro ⟨v, hv⟩
      obtain rfl := parse_eq_ok.mp hv
      refine ⟨v.info, v.info.wire, v.info.length_wire, ?_⟩
      rw [BootInfo.encode_of_valid v.validated v.info.length_wire.ge, bootInfoSize,
        hempty _ v.info.length_wire, List.append_nil]
    · rintro ⟨info, output, hlen, henc⟩
      obtain ⟨hvalid, hle⟩ := BootInfo.encode_eq_ok henc
      rw [BootInfo.encode_of_valid hvalid hle, bootInfoSize, hempty output hlen,
        List.append_nil, Prod.mk.injEq] at henc
      exact ⟨⟨info, hvalid⟩, parse_eq_ok.mpr henc.2.symm⟩

theorem encode_parse_bijection_sample :
    sampleInfo.validate = .ok ⟨sampleInfo, sampleInfo_valid⟩ ∧
    ∃ written : Bytes, written.length = 4176 ∧
      (∀ output : Bytes, 4176 ≤ output.length →
        sampleInfo.encode output = (.ok 4176, written ++ output.drop 4176)) ∧
      parse written = .ok ⟨sampleInfo, sampleInfo_valid⟩ ∧ sampleInfo = sampleInfo := by
  have h : sampleInfo.validate = .ok ⟨sampleInfo, sampleInfo_valid⟩ :=
    BootInfo.validate_eq_ok.mpr ⟨sampleInfo_valid, rfl⟩
  exact ⟨h, encode_parse_bijection.1 sampleInfo _ h⟩

theorem prevalidate_ne_panic (bytes : Bytes) : prevalidate bytes ≠ .panic := by
  by_cases hlen : bytes.length < bootHeaderSize
  · unfold prevalidate
    rw [if_pos hlen]
    simp
  · obtain ⟨header, reader, -, hpre⟩ := readHeader_new (not_lt.mp hlen)
    rw [hpre, prevalidateHeader_eq]
    apply Exec.bind_ne_panic (validateHeader_ne_panic header)
    intro u _
    split_ifs <;> simp

theorem parse_ne_panic (bytes : Bytes) : parse bytes ≠ .panic := by
  cases hpre : prevalidate bytes with
  | ok p =>
    obtain ⟨info, reader, -, -, rfl⟩ := readInfo_new (prevalidate_eq_ok_length hpre)
    rw [parse_wire]
    exact BootInfo.validate_ne_panic info
  | err e =>
    unfold parse
    rw [hpre]
    simp
  | panic => exact absurd hpre (prevalidate_ne_panic bytes)

/-- The header rules are written twice, over the raw bytes and over the decoded
record, and the two copies give the same verdict and the same error. The length
test comes after them, so it is reached only by a good header. -/
theorem header_rules_agree (bytes : Bytes) :
    parse bytes ≠ .panic ∧
    (bootHeaderSize ≤ bytes.length → ∃ header reader,
      readHeader (Reader.new bytes) = .ok (header, reader) ∧
      (bytes.length = bootInfoSize →
        ((∃ p, prevalidate bytes = .ok p) ↔ validateHeader header = .ok ()) ∧
        (∀ e, prevalidate bytes = .err e ↔ validateHeader header = .err e) ∧
        (∀ provided required, prevalidate bytes ≠ .err (.truncated provided required)) ∧
        (∀ provided declared, prevalidate bytes ≠ .err (.lengthMismatch provided declared)) ∧
        (∃ info after, readInfo (Reader.new bytes) = .ok (info, after) ∧ info.header = header ∧
          ∀ p, prevalidate bytes = .ok p → validateHeader info.header = .ok ())) ∧
      (bytes.length ≠ bootInfoSize →
        (∀ e, validateHeader header = .err e → prevalidate bytes = .err e) ∧
        (validateHeader header = .ok () → prevalidate bytes =
          if bytes.length < bootInfoSize then .err (.truncated bytes.length bootInfoSize)
          else .err (.lengthMismatch bytes.length bootInfoSize)))) := by
  refine ⟨parse_ne_panic bytes, fun hlen => ?_⟩
  obtain ⟨header, reader, hread, hpre⟩ := readHeader_new hlen
  rw [prevalidateHeader_eq] at hpre
  refine ⟨header, reader, hread, fun hexact => ?_, fun hother => ?_⟩
  · rw [if_neg (by omega), if_neg (not_not.mpr hexact)] at hpre
    have herr : ∀ e, prevalidate bytes = .err e ↔ validateHeader header = .err e := by
      intro e
      rw [hpre]
      cases validateHeader header <;> simp
    have hok : (∃ p, prevalidate bytes = .ok p) ↔ validateHeader header = .ok () := by
      rw [hpre]
      cases validateHeader header <;> simp
    obtain ⟨info, after, hinfo, -, rfl⟩ := readInfo_new hexact
    have hheader : info.header = header := by
      obtain ⟨reader', hread'⟩ := readHeader_append info.header info.body
      rw [← info.wire_eq, hread, Exec.ok.injEq, Prod.mk.injEq] at hread'
      exact hread'.1.symm
    have hfails := validateHeader_fails header
    refine ⟨hok, herr, ?_, ?_, info, after, hinfo, hheader, ?_⟩
    · intro provided required h
      exact absurd (hfails _ ((herr _).mp h)) (by simp [ValidationError.subject])
    · intro provided declared h
      exact absurd (hfails _ ((herr _).mp h)) (by simp [ValidationError.subject])
    · intro p hp
      rw [hheader]
      exact hok.mp ⟨p, hp⟩
  · constructor
    · intro e he
      rw [hpre, he]
      rfl
    · intro hheader
      rw [hpre, hheader, Exec.ok_bind, if_pos hother]

theorem header_rules_agree_long :
    (sampleInfo.wire ++ [0]).length = 4177 ∧
      prevalidate (sampleInfo.wire ++ [0]) = .err (.lengthMismatch 4177 4176) := by
  have hlen : (sampleInfo.wire ++ [0]).length = 4177 := by
    rw [List.length_append, sampleInfo.length_wire]
    rfl
  obtain ⟨header, reader, hread, -, hother⟩ :=
    (header_rules_agree (sampleInfo.wire ++ [0])).2 (by rw [hlen]; decide)
  have hheader : header = sampleInfo.header := by
    obtain ⟨reader', hread'⟩ := readHeader_append sampleInfo.header (sampleInfo.body ++ [0])
    rw [← List.append_assoc, ← sampleInfo.wire_eq, hread, Exec.ok.injEq, Prod.mk.injEq] at hread'
    exact hread'.1
  have hvalid : validateHeader header = .ok () := by
    rw [hheader]
    exact validateHeader_eq_ok.mpr (validateRef_eq_ok.mp sampleInfo_valid).header
  refine ⟨hlen, ?_⟩
  rw [(hother (by rw [hlen]; decide)).2 hvalid, hlen]
  rfl

end PolytopeOS.BootContract
