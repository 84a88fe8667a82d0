import PolytopeOS.Corelib.Exec
import PolytopeOS.Corelib.Slice

/-!
# The kernel's ELF subset

Constants, decoded headers and rejection reasons of the strict ELF64 profile.
Program-header indices and counters are naturals; they stay below nine.
-/

namespace PolytopeOS.BootElf
open Corelib

def minLoadAddress : UInt64 := 0x200000
def maxLoadAddressExclusive : UInt64 := 0x40000000
def kernelBaseAddress : UInt64 := 0x04000000
def kernelLoadLimit : UInt64 := 0x04800000
def stackGuardAddress : UInt64 := 0x047ff000
def stackBaseAddress : UInt64 := 0x04800000
def stackSizeBytes : UInt64 := 0x00010000
def maxElfFileSize : ℕ := 16 * 1024 * 1024
def maxProgramHeaders : UInt16 := 8
def maxLoadSegments : ℕ := 4
def maxTotalLoadSize : UInt64 := 64 * 1024 * 1024
def pageSize : UInt64 := 4096
def maxSegmentAlignment : UInt64 := 2 * 1024 * 1024

def elfHeaderSize : ℕ := 64
def programHeaderSize : ℕ := 56
def elfHeaderSizeU16 : UInt16 := 64
def programHeaderSizeU16 : UInt16 := 56
def elfMagic : Bytes := [0x7f, 0x45, 0x4c, 0x46]
def elfClass64 : UInt8 := 2
def elfData2Lsb : UInt8 := 1
def evCurrentU8 : UInt8 := 1
def evCurrentU32 : UInt32 := 1
def elfOsAbiSysv : UInt8 := 0
def etExec : UInt16 := 2
def emX86_64 : UInt16 := 62
def ptNull : UInt32 := 0
def ptLoad : UInt32 := 1
def pfX : UInt32 := 1
def pfW : UInt32 := 2
def pfR : UInt32 := 4
def knownSegmentFlags : UInt32 := pfX ||| pfW ||| pfR

structure SegmentFlags where
  bits : UInt32
  deriving DecidableEq, Repr

structure LoadSegment where
  index : ℕ
  flags : SegmentFlags
  fileOffset : UInt64
  virtualAddress : UInt64
  physicalAddress : UInt64
  fileSize : UInt64
  memorySize : UInt64
  alignment : UInt64
  fileData : Bytes
  deriving DecidableEq, Repr

/-- `memory_size - file_size`, which panics on underflow. -/
def LoadSegment.zeroFillSize (segment : LoadSegment) : Exec Empty UInt64 :=
  if segment.memorySize < segment.fileSize then .panic
  else .ok (segment.memorySize - segment.fileSize)

structure ValidatedElf where
  bytes : Bytes
  entryPoint : UInt64
  programHeaderOffset : ℕ
  programHeaderCount : UInt16
  loadSegmentCount : ℕ
  deriving DecidableEq, Repr

structure ElfHeader where
  entry : UInt64
  programHeaderOffset : ℕ
  programHeaderCount : UInt16
  programHeaderTableEnd : UInt64
  fileSize : UInt64
  deriving DecidableEq, Repr

structure ProgramHeader where
  kind : UInt32
  flags : UInt32
  fileOffset : UInt64
  virtualAddress : UInt64
  physicalAddress : UInt64
  fileSize : UInt64
  memorySize : UInt64
  alignment : UInt64
  deriving DecidableEq, Repr

inductive ParseError where
  | truncated (provided required : ℕ)
  | fileTooLarge (size maximum : ℕ)
  | badMagic
  | unsupportedClass (elfClass : UInt8)
  | unsupportedByteOrder (encoding : UInt8)
  | unsupportedIdentificationVersion (version : UInt8)
  | unsupportedOsAbi (osAbi : UInt8)
  | unsupportedAbiVersion (version : UInt8)
  | nonZeroIdentificationPadding
  | unsupportedObjectType (objectType : UInt16)
  | unsupportedMachine (machine : UInt16)
  | unsupportedVersion (version : UInt32)
  | unsupportedElfFlags (flags : UInt32)
  | invalidHeaderSize (found expected : UInt16)
  | invalidProgramHeaderSize (found expected : UInt16)
  | invalidProgramHeaderCount (count maximum : UInt16)
  | programHeaderTableOverlapsHeader (offset : UInt64)
  | programHeaderTableOverflow
  | programHeaderTableOutOfBounds (tableEnd fileSize : UInt64)
  | unsupportedProgramHeaderType (index : ℕ) (kind : UInt32)
  | tooManyLoadSegments (count maximum : ℕ)
  | noLoadSegments
  | unknownSegmentFlags (index : ℕ) (flags : UInt32)
  | nonReadableSegment (index : ℕ)
  | writeExecuteSegment (index : ℕ)
  | emptyMemorySegment (index : ℕ)
  | fileLargerThanMemory (index : ℕ) (fileSize memorySize : UInt64)
  | segmentFileRangeOverflow (index : ℕ)
  | segmentFileRangeOutOfBounds (index : ℕ) (fileEnd fileSize : UInt64)
  | segmentMemoryRangeOverflow (index : ℕ)
  | segmentOutsideLoadWindow (index : ℕ) (start finish : UInt64)
  | virtualPhysicalAddressMismatch (index : ℕ) (virtualAddress physicalAddress : UInt64)
  | invalidSegmentAlignment (index : ℕ) (alignment : UInt64)
  | misalignedSegment (index : ℕ) (address fileOffset alignment : UInt64)
  | unsortedSegments (previous current : ℕ)
  | overlappingSegments (previous current : ℕ)
  | totalLoadSizeOverflow
  | totalLoadSizeTooLarge (size maximum : UInt64)
  | entryOutsideLoadWindow (entry : UInt64)
  | entryNotExecutable (entry : UInt64)
  deriving DecidableEq, Repr

end PolytopeOS.BootElf
