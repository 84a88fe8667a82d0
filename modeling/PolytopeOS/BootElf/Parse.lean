import PolytopeOS.BootElf.Types

/-!
# The ELF validator

The functions of the source, in its order of checks. An index, an unchecked sum
or difference, a counter or a divisor that could go wrong is an operation that
can panic. `usize` and `u64` have the same range on the only supported target,
so the conversions between them do not fail.
-/

namespace PolytopeOS.BootElf
open Corelib

/-- `None` is the error `()`; an overflow of the unchecked additions is a panic. -/
def decodeProgramHeader (bytes : Bytes) (tableOffset index : ℕ) : Exec Unit ProgramHeader := do
  let delta ← Exec.okOr (checkedSize (index * programHeaderSize)) ()
  let offset ← Exec.okOr (checkedSize (tableOffset + delta)) ()
  let kind ← Exec.okOr (readU32 bytes offset) ()
  let flags ← Exec.okOr (readU32 bytes (← addSize offset 4)) ()
  let fileOffset ← Exec.okOr (readU64 bytes (← addSize offset 8)) ()
  let virtualAddress ← Exec.okOr (readU64 bytes (← addSize offset 16)) ()
  let physicalAddress ← Exec.okOr (readU64 bytes (← addSize offset 24)) ()
  let fileSize ← Exec.okOr (readU64 bytes (← addSize offset 32)) ()
  let memorySize ← Exec.okOr (readU64 bytes (← addSize offset 40)) ()
  let alignment ← Exec.okOr (readU64 bytes (← addSize offset 48)) ()
  return { kind, flags, fileOffset, virtualAddress, physicalAddress, fileSize, memorySize,
           alignment }

def alignUp (value alignment : UInt64) : Exec ParseError (Option UInt64) := do
  let mask ← subWord alignment 1
  return (checkedAdd value mask).map fun sum => sum &&& ~~~mask

def validateIdentification (bytes : Bytes) : Exec ParseError Unit := do
  if slice bytes 0 4 ≠ some elfMagic then .err .badMagic
  else do
    let elfClass ← byteAt bytes 4
    if elfClass ≠ elfClass64 then .err (.unsupportedClass elfClass)
    else do
      let encoding ← byteAt bytes 5
      if encoding ≠ elfData2Lsb then .err (.unsupportedByteOrder encoding)
      else do
        let version ← byteAt bytes 6
        if version ≠ evCurrentU8 then .err (.unsupportedIdentificationVersion version)
        else do
          let osAbi ← byteAt bytes 7
          if osAbi ≠ elfOsAbiSysv then .err (.unsupportedOsAbi osAbi)
          else do
            let abiVersion ← byteAt bytes 8
            if abiVersion ≠ 0 then .err (.unsupportedAbiVersion abiVersion)
            else do
              let padding ← sliceAt bytes 9 16
              if padding.any (· ≠ 0) then .err .nonZeroIdentificationPadding
              else .ok ()

/-- `u64::try_from(bytes.len()).unwrap_or(u64::MAX)`. -/
def fileSizeOf (bytes : Bytes) : UInt64 :=
  if bytes.length < 2 ^ 64 then UInt64.ofNat bytes.length else UInt64.ofNat (2 ^ 64 - 1)

def parseHeader (bytes : Bytes) : Exec ParseError ElfHeader := do
  let truncated := ParseError.truncated bytes.length elfHeaderSize
  let objectType ← Exec.okOr (readU16 bytes 16) truncated
  let machine ← Exec.okOr (readU16 bytes 18) truncated
  let version ← Exec.okOr (readU32 bytes 20) truncated
  let entry ← Exec.okOr (readU64 bytes 24) truncated
  let programHeaderOffset ← Exec.okOr (readU64 bytes 32) truncated
  let flags ← Exec.okOr (readU32 bytes 48) truncated
  let headerSize ← Exec.okOr (readU16 bytes 52) truncated
  let programHeaderSize ← Exec.okOr (readU16 bytes 54) truncated
  let programHeaderCount ← Exec.okOr (readU16 bytes 56) truncated
  if objectType ≠ etExec then .err (.unsupportedObjectType objectType)
  else if machine ≠ emX86_64 then .err (.unsupportedMachine machine)
  else if version ≠ evCurrentU32 then .err (.unsupportedVersion version)
  else if flags ≠ 0 then .err (.unsupportedElfFlags flags)
  else if headerSize ≠ elfHeaderSizeU16 then
    .err (.invalidHeaderSize headerSize elfHeaderSizeU16)
  else if programHeaderSize ≠ programHeaderSizeU16 then
    .err (.invalidProgramHeaderSize programHeaderSize programHeaderSizeU16)
  else if programHeaderCount = 0 ∨ programHeaderCount > maxProgramHeaders then
    .err (.invalidProgramHeaderCount programHeaderCount maxProgramHeaders)
  else if programHeaderOffset < 64 then
    .err (.programHeaderTableOverlapsHeader programHeaderOffset)
  else do
    let tableSize ← Exec.okOr (checkedMul programHeaderCount.toUInt64 56)
      .programHeaderTableOverflow
    let programHeaderTableEnd ← Exec.okOr (checkedAdd programHeaderOffset tableSize)
      .programHeaderTableOverflow
    let fileSize := fileSizeOf bytes
    if programHeaderTableEnd > fileSize then
      .err (.programHeaderTableOutOfBounds programHeaderTableEnd fileSize)
    else if ¬(minLoadAddress ≤ entry ∧ entry < maxLoadAddressExclusive) then
      .err (.entryOutsideLoadWindow entry)
    else .ok {
      entry
      programHeaderOffset := programHeaderOffset.toNat
      programHeaderCount
      programHeaderTableEnd
      fileSize }

/-- The alignment test; the second pair of remainders is evaluated only when the
address is on a page boundary. -/
def misaligned (header : ProgramHeader) : Exec ParseError Bool := do
  let page ← remWord header.physicalAddress pageSize
  if page ≠ 0 then return true
  else do
    let address ← remWord header.physicalAddress header.alignment
    let offset ← remWord header.fileOffset header.alignment
    return address ≠ offset

def validateLoadSegment (index : ℕ) (header : ProgramHeader) (fileSize : UInt64) :
    Exec ParseError UInt64 :=
  if header.flags &&& ~~~knownSegmentFlags ≠ 0 then
    .err (.unknownSegmentFlags index header.flags)
  else if header.flags &&& pfR = 0 then .err (.nonReadableSegment index)
  else if header.flags &&& (pfW ||| pfX) = pfW ||| pfX then .err (.writeExecuteSegment index)
  else if header.memorySize = 0 then .err (.emptyMemorySegment index)
  else if header.fileSize > header.memorySize then
    .err (.fileLargerThanMemory index header.fileSize header.memorySize)
  else do
    let fileEnd ← Exec.okOr (checkedAdd header.fileOffset header.fileSize)
      (.segmentFileRangeOverflow index)
    if fileEnd > fileSize then .err (.segmentFileRangeOutOfBounds index fileEnd fileSize)
    else if header.virtualAddress ≠ header.physicalAddress then
      .err (.virtualPhysicalAddressMismatch index header.virtualAddress header.physicalAddress)
    else if ¬header.alignment.toNat.isPowerOfTwo ∨
        ¬(pageSize ≤ header.alignment ∧ header.alignment ≤ maxSegmentAlignment) then
      .err (.invalidSegmentAlignment index header.alignment)
    else do
      if ← misaligned header then
        .err (.misalignedSegment index header.physicalAddress header.fileOffset header.alignment)
      else do
        let finish ← Exec.okOr (checkedAdd header.physicalAddress header.memorySize)
          (.segmentMemoryRangeOverflow index)
        if header.physicalAddress < minLoadAddress ∨ finish > maxLoadAddressExclusive then
          .err (.segmentOutsideLoadWindow index header.physicalAddress finish)
        else .ok finish

/-- What the loop over the program headers carries. -/
structure Scan where
  loadCount : ℕ
  totalLoadSize : UInt64
  previous : Option (ℕ × UInt64 × UInt64)
  entryIsExecutable : Bool
  deriving DecidableEq, Repr

/-- The order checks against the previous load segment. -/
def validateSegmentOrder (index : ℕ) (header : ProgramHeader) :
    Option (ℕ × UInt64 × UInt64) → Exec ParseError Unit
  | none => .ok ()
  | some (previousIndex, previousStart, previousEnd) =>
    if header.physicalAddress < previousStart then .err (.unsortedSegments previousIndex index)
    else if header.physicalAddress < previousEnd then
      .err (.overlappingSegments previousIndex index)
    else .ok ()

/-- The test for the entry point; the sum is unchecked and only evaluated for an
executable segment that starts at or before it. -/
def entryInside (entry : UInt64) (header : ProgramHeader) : Exec ParseError Bool :=
  if header.flags &&& pfX ≠ 0 ∧ entry ≥ header.virtualAddress then do
    let finish ← addWord header.virtualAddress header.memorySize
    return entry < finish
  else .ok false

/-- The loop body for one `PT_LOAD` header. -/
def scanLoad (elf : ElfHeader) (index : ℕ) (scan : Scan) (header : ProgramHeader) :
    Exec ParseError Scan := do
  let loadCount ← addCount scan.loadCount 1
  if loadCount > maxLoadSegments then .err (.tooManyLoadSegments loadCount maxLoadSegments)
  else do
    let finish ← validateLoadSegment index header elf.fileSize
    let pageEnd ← Exec.okOr (← alignUp finish pageSize) (.segmentMemoryRangeOverflow index)
    validateSegmentOrder index header scan.previous
    let totalLoadSize ← Exec.okOr (checkedAdd scan.totalLoadSize header.memorySize)
      .totalLoadSizeOverflow
    if totalLoadSize > maxTotalLoadSize then
      .err (.totalLoadSizeTooLarge totalLoadSize maxTotalLoadSize)
    else do
      let inside ← entryInside elf.entry header
      return {
        loadCount
        totalLoadSize
        previous := some (index, header.physicalAddress, pageEnd)
        entryIsExecutable := inside || scan.entryIsExecutable }

/-- The loop body; the element is the result of decoding the header there. -/
def scanStep (elf : ElfHeader) (index : ℕ) (scan : Scan) (decoded : Exec Unit ProgramHeader) :
    Exec ParseError Scan := do
  let header ← decoded.mapErr fun _ =>
    .programHeaderTableOutOfBounds elf.programHeaderTableEnd elf.fileSize
  if header.kind = ptNull then .ok scan
  else if header.kind ≠ ptLoad then .err (.unsupportedProgramHeaderType index header.kind)
  else scanLoad elf index scan header

def validateProgramHeaders (bytes : Bytes) (elf : ElfHeader) : Exec ParseError ℕ := do
  let scan ← Exec.foldIdx (scanStep elf) 0 ⟨0, 0, none, false⟩
    ((List.range elf.programHeaderCount.toNat).map
      (decodeProgramHeader bytes elf.programHeaderOffset))
  if scan.loadCount = 0 then .err .noLoadSegments
  else if !scan.entryIsExecutable then .err (.entryNotExecutable elf.entry)
  else .ok scan.loadCount

def parse (bytes : Bytes) : Exec ParseError ValidatedElf :=
  if bytes.length < elfHeaderSize then .err (.truncated bytes.length elfHeaderSize)
  else if bytes.length > maxElfFileSize then .err (.fileTooLarge bytes.length maxElfFileSize)
  else do
    validateIdentification bytes
    let header ← parseHeader bytes
    let loadSegmentCount ← validateProgramHeaders bytes header
    return {
      bytes
      entryPoint := header.entry
      programHeaderOffset := header.programHeaderOffset
      programHeaderCount := header.programHeaderCount
      loadSegmentCount }

end PolytopeOS.BootElf
