import PolytopeOS.BootElf.Types
import PolytopeOS.Corelib.Scan
import Mathlib.Data.List.Infix

/-!
# The textual linker map

Sections, constants and symbols recovered from the lines of a linker map, one
whitespace-separated record a line. A map from names is a list of pairs in which
no name occurs twice.
-/

namespace PolytopeOS.Host
open Corelib

/-- Why an inspection fails: a message, or one that shows a value. -/
inductive InspectError where
  | message (text : String)
  /-- "invalid hexadecimal value", the value, and the line of the map. -/
  | invalidHexadecimal (value : List Char) (line : ℕ)
  /-- "kernel ELF rejected", and the parser's reason. -/
  | elfRejected (error : BootElf.ParseError)
  deriving DecidableEq, Repr

/-- `str::split_whitespace`. -/
def splitWhitespace (line : List Char) : List (List Char) :=
  (line.splitOnP isWhitespace).filter (· ≠ [])

/-- `to_digit(16)`. -/
def hexDigit (c : Char) : Option UInt64 :=
  if '0' ≤ c ∧ c ≤ '9' then some (UInt64.ofNat (c.toNat - '0'.toNat))
  else if 'a' ≤ c ∧ c ≤ 'f' then some (UInt64.ofNat (c.toNat - 'a'.toNat + 10))
  else if 'A' ≤ c ∧ c ≤ 'F' then some (UInt64.ofNat (c.toNat - 'A'.toNat + 10))
  else none

def hexValue (digits : List Char) : Option UInt64 :=
  digits.foldlM (fun value c => do checkedAdd (← checkedMul value 16) (← hexDigit c)) 0

/-- `u64::from_str_radix(digits, 16)`: a plus sign may stand before the digits. -/
def fromStrRadix16 : List Char → Option UInt64
  | [] => none
  | ['+'] => none
  | '+' :: digits => hexValue digits
  | digits => hexValue digits

/-- `value.strip_prefix("0x").unwrap_or(value)`. -/
def stripHexMark : List Char → List Char
  | '0' :: 'x' :: digits => digits
  | value => value

def parseHex (value : List Char) (line : ℕ) : Exec InspectError UInt64 :=
  let digits := stripHexMark value
  if digits = [] then .err (.message s!"empty hexadecimal value on map line {line}")
  else Exec.okOr (fromStrRadix16 digits) (.invalidHexadecimal value line)

structure MapSection where
  name : List Char
  address : UInt64
  size : UInt64
  line : ℕ
  deriving DecidableEq, Repr

/-- The end address of a section. -/
def MapSection.finish (mapSection : MapSection) : Exec InspectError UInt64 :=
  let name := String.ofList mapSection.name
  Exec.okOr (checkedAdd mapSection.address mapSection.size)
    (.message s!"{name} end address overflowed")

structure MapLayout where
  sections : List (List Char × MapSection)
  constants : List (List Char × UInt64)
  symbols : List (List Char × UInt64)
  sawLoadEndExpression : Bool
  deriving DecidableEq, Repr

def insertUnique {α : Type} (values : List (List Char × α)) (name : List Char) (value : α)
    (description : String) : Exec InspectError (List (List Char × α)) :=
  let shown := String.ofList name
  if (values.lookup name).isSome then
    .err (.message s!"linker map contains duplicate {description} {shown}")
  else .ok (values ++ [(name, value)])

def isKernelLoadEndExpression (fields : List (List Char)) : Bool :=
  ["__kernel_load_end".toList, "=".toList, "ALIGN(PAGE_SIZE)".toList] <:+: fields ||
    ["__kernel_load_end".toList, "=".toList, "ALIGN".toList, "(".toList, "PAGE_SIZE".toList,
      ")".toList] <:+: fields

def sectionNames : List (List Char) :=
  [".text".toList, ".rodata".toList, ".data".toList, ".bss".toList, ".stack_guard".toList,
    ".stack".toList]

def constantNames : List (List Char) :=
  ["KERNEL_BASE".toList, "KERNEL_LOAD_LIMIT".toList, "KERNEL_STACK_GUARD_BASE".toList,
    "KERNEL_STACK_BASE".toList, "KERNEL_STACK_SIZE".toList, "PAGE_SIZE".toList]

def symbolNames : List (List Char) :=
  ["__kernel_start".toList, "__text_start".toList, "__text_end".toList, "__rodata_start".toList,
    "__rodata_end".toList, "__data_start".toList, "__data_end".toList, "__bss_start".toList,
    "__bss_end".toList, "__bootstrap_stack_guard_start".toList,
    "__bootstrap_stack_guard_end".toList, "__bootstrap_stack_bottom".toList,
    "__bootstrap_stack_top".toList, "__kernel_end".toList, "polytope_kernel_entry".toList]

def forbiddenNames : List (List Char) :=
  [".interp".toList, ".dynamic".toList, ".dynsym".toList, ".dynstr".toList, ".rela.dyn".toList,
    ".rel.dyn".toList, ".plt".toList, ".got.plt".toList]

namespace MapLayout

/-- The record of a line: its fields 0, 2 and 4, and those from 5 on. -/
def record (layout : MapLayout) (line : ℕ) (address size name : List Char)
    (rest : List (List Char)) : Exec InspectError MapLayout :=
  let shown := String.ofList name
  if name ∈ sectionNames then do
    let address ← parseHex address line
    let size ← parseHex size line
    let sections ← insertUnique layout.sections name { name, address, size, line } "section"
    return { layout with sections }
  else if name ∈ constantNames ∧ rest[0]? = some "=".toList then do
    let value ← Exec.okOr rest[1]? (.message s!"map line {line} omits value for {shown}")
    let value ← parseHex value line
    let constants ← insertUnique layout.constants name value "constant"
    return { layout with constants }
  else if name ∈ symbolNames then do
    let address ← parseHex address line
    let symbols ← insertUnique layout.symbols name address "symbol"
    return { layout with symbols }
  else return layout

/-- The loop body for one line. -/
def parseLine (lineIndex : ℕ) (layout : MapLayout) (line : List Char) :
    Exec InspectError MapLayout :=
  match splitWhitespace line with
  | address :: lma :: size :: align :: name :: rest =>
    let shown := String.ofList name
    if name ∈ forbiddenNames then
      .err (.message s!"kernel linker map contains forbidden dynamic output section {shown}")
    else do
      let layout ← layout.record (lineIndex + 1) address size name rest
      if isKernelLoadEndExpression (address :: lma :: size :: align :: name :: rest) then
        return { layout with sawLoadEndExpression := true }
      else return layout
  | _ => .ok layout

/-- The section of a name. -/
def mapSection (layout : MapLayout) (name : List Char) : Exec InspectError MapSection :=
  let shown := String.ofList name
  Exec.okOr (layout.sections.lookup name)
    (.message s!"linker map is missing output section {shown}")

def parse (text : List Char) : Exec InspectError MapLayout := do
  let layout ← Exec.foldIdx parseLine 0 ⟨[], [], [], false⟩ (lines text)
  -- every section must be there
  let _ ← Exec.foldIdx (fun _ _ name => do let _ ← layout.mapSection name; return ()) 0 ()
    sectionNames
  return layout

end MapLayout

end PolytopeOS.Host
