import PolytopeOS.Corelib.X86

/-!
# Machine code

A processor takes its instructions from memory. `decode` reads one instruction off
the front of a byte string, in the encodings that assemblers choose for this part
of the instruction set. What it reads does not depend on the bytes behind it, so
that a processor has at most one next step. A processor follows the steps of a
program whose code is in memory, as long as these leave the code alone.
-/

namespace Corelib.X86

/-- An instruction as its bytes give it. The targets of the jumps are addresses. -/
inductive Coded where
  | operation (op : Operation)
  | repStosb
  | jne (target : UInt64)
  | jmp (target : UInt64)
  | call (target : UInt64)
  deriving DecidableEq, Repr

/-- What is read off the front of the code, and the bytes that are left. -/
abbrev Decoding (α : Type) := StateT Bytes Option α

namespace Decoding

def bytes (n : ℕ) : Decoding Bytes := fun code =>
  if n ≤ code.length then some (code.take n, code.drop n) else none

/-- A little-endian number of `n` bytes. -/
def number (n : ℕ) : Decoding ℕ := do
  let digits ← bytes n
  pure (ofLe digits)

/-- A number of `n` bytes whose sign bit fills the word. -/
def signed (n : ℕ) : Decoding UInt64 := do
  let value ← number n
  pure ⟨(BitVec.ofNat (8 * n) value).signExtend 64⟩

def failed {α : Type} : Decoding α := fun _ => none

/-- The register of a field of three bits, which a prefix extends by a fourth. -/
def register (extended : Bool) (field : ℕ) : Decoding Register :=
  match field + (if extended then 8 else 0) with
  | 0 => pure .rax
  | 1 => pure .rcx
  | 2 => pure .rdx
  | 4 => pure .rsp
  | 5 => pure .rbp
  | 6 => pure .rsi
  | 7 => pure .rdi
  | 12 => pure .r12
  | 13 => pure .r13
  | _ => failed

end Decoding

open Decoding

/-- The operands that a ModRM byte selects. -/
inductive Operands where
  /-- The fields of two registers. -/
  | registers (reg rm : ℕ)
  /-- The field of a register, and an address from the next instruction on. -/
  | relative (reg : ℕ) (offset : UInt64)

def operands : Decoding Operands := do
  let modRm ← number 1
  if modRm / 64 = 3 then pure (.registers (modRm / 8 % 8) (modRm % 8))
  else if modRm / 64 = 0 ∧ modRm % 8 = 5 then do
    let offset ← signed 4
    pure (.relative (modRm / 8 % 8) offset)
  else failed

/-- An operation on the registers of two fields. -/
def between (op : Register → Register → Operation) (r : Bool) (reg : ℕ) (b : Bool) (rm : ℕ) :
    Decoding (UInt64 → Coded) := do
  let source ← register r reg
  let target ← register b rm
  pure fun _ => .operation (op source target)

/-- An instruction for the whole word: `r` and `b` extend the two registers. The
result is a function of the address of the next instruction. -/
def decodeWide (r b : Bool) (opcode : ℕ) : Decoding (UInt64 → Coded) :=
  if opcode / 8 = 0xb8 / 8 then do
    let target ← register b (opcode % 8)
    let value ← number 8
    pure fun _ => .operation (.movabsq (UInt64.ofNat value) target)
  else do
    let found ← operands
    match opcode, found with
    | 0x29, .registers reg rm => between .subq r reg b rm
    | 0x31, .registers reg rm => between .xorq r reg b rm
    | 0x89, .registers reg rm => between .movq r reg b rm
    | 0x89, .relative reg offset => do
      let source ← register r reg
      pure fun next => .operation (.movqTo source (next + offset))
    | 0x8d, .relative reg offset => do
      let target ← register r reg
      pure fun next => .operation (.leaq (next + offset) target)
    | 0x83, .registers 4 rm => do
      let target ← register b rm
      let value ← signed 1
      pure fun _ => .operation (.andq value target)
    | 0x83, .relative 7 offset => do
      let value ← signed 1
      pure fun next => .operation (.cmpqAt value (next + offset))
    | _, _ => failed

def decodeOpcode (opcode : ℕ) : Decoding (UInt64 → Coded) :=
  if opcode / 8 = 0xb8 / 8 then do
    let target ← register false (opcode % 8)
    let value ← number 4
    pure fun _ => .operation (.movl (UInt32.ofNat value) target)
  else if opcode / 16 = 4 ∧ opcode / 2 % 2 = 0 ∧ opcode / 8 % 2 = 1 then do
    -- a prefix for the whole word
    let wide ← number 1
    decodeWide (opcode / 4 % 2 = 1) (opcode % 2 = 1) wide
  else
    match opcode with
    | 0x0f => do
      let second ← number 1
      if second = 0x85 then do
        let offset ← signed 4
        pure fun next => .jne (next + offset)
      else failed
    | 0x31 => do
      let found ← operands
      match found with
      | .registers reg rm => between .xorl false reg false rm
      | .relative _ _ => failed
    | 0x66 => do
      let second ← number 1
      if second / 8 = 0xb8 / 8 then do
        let target ← register false (second % 8)
        let value ← number 2
        pure fun _ => .operation (.movw (UInt16.ofNat value) target)
      else failed
    | 0x75 => do
      let offset ← signed 1
      pure fun next => .jne (next + offset)
    | 0xe8 => do
      let offset ← signed 4
      pure fun next => .call (next + offset)
    | 0xe9 => do
      let offset ← signed 4
      pure fun next => .jmp (next + offset)
    | 0xeb => do
      let offset ← signed 1
      pure fun next => .jmp (next + offset)
    | 0xef => pure fun _ => .operation .outl
    | 0xf3 => do
      let second ← number 1
      if second = 0xaa then pure fun _ => .repStosb else failed
    | 0xf4 => pure fun _ => .operation .hlt
    | 0xfa => pure fun _ => .operation .cli
    | 0xfc => pure fun _ => .operation .cld
    | _ => failed

def decode : Decoding (UInt64 → Coded) := do
  let opcode ← number 1
  decodeOpcode opcode

/-- The `n` bytes at an address are one instruction. -/
def instructionAt (memory : Memory) (address : UInt64) (n : ℕ) : Option Coded :=
  match decode (memory.load address.toNat n) with
  | some (coded, []) => some (coded (address + UInt64.ofNat n))
  | _ => none

/-- What an instruction does whose next one is at the address `next`. -/
def Coded.perform (next : UInt64) (coded : Coded) (s : State) : State :=
  match coded with
  | .operation op => (op.apply s).goTo (.outside next)
  | .repStosb => if s.registers .rcx = 0 then s.goTo (.outside next) else s.stosb
  | .jne target => s.goTo (.outside (if s.zero then next else target))
  | .jmp target => s.goTo (.outside target)
  | .call target => (s.push next).goTo (.outside target)

/-- One step of a processor that takes the instruction from memory. -/
inductive CodeStep (s : State) : State → Prop where
  | mk {address : UInt64} {n : ℕ} {coded : Coded} (hs : s.location = .outside address)
    (hcode : instructionAt s.memory address n = some coded) :
    CodeStep s (coded.perform (address + UInt64.ofNat n) s)

/-- Any number of such steps. -/
def CodeRuns : State → State → Prop := Relation.ReflTransGen CodeStep

-- ════════════════════════════════════════════════════════════════════════
-- One instruction at an address
-- ════════════════════════════════════════════════════════════════════════

namespace Decoding

variable {α β : Type}

/-- What is read does not depend on the bytes behind it. -/
def Local (d : Decoding α) : Prop :=
  ∀ code a rest more, d code = some (a, rest) → d (code ++ more) = some (a, rest ++ more)

theorem bind_eq_some {d : Decoding α} {k : α → Decoding β} {code : Bytes} {result : β × Bytes} :
    (d >>= k) code = some result ↔ ∃ a rest, d code = some (a, rest) ∧ k a rest = some result := by
  change (d code).bind _ = _ ↔ _
  rw [Option.bind_eq_some_iff, Prod.exists]

theorem Local.pure (a : α) : Local (Pure.pure a : Decoding α) := by
  intro code a' rest more h
  cases h
  rfl

theorem Local.failed : Local (failed : Decoding α) := by
  intro code a rest more h
  cases h

theorem Local.bind {d : Decoding α} {k : α → Decoding β} (hd : Local d) (hk : ∀ a, Local (k a)) :
    Local (d >>= k) := by
  intro code b rest more h
  obtain ⟨a, middle, hfirst, hsecond⟩ := bind_eq_some.mp h
  exact bind_eq_some.mpr ⟨a, _, hd _ _ _ more hfirst, hk a _ _ _ more hsecond⟩

theorem Local.ite {c : Prop} [Decidable c] {d d' : Decoding α} (h : Local d) (h' : Local d') :
    Local (if c then d else d') := by
  split
  · exact h
  · exact h'

theorem local_bytes (n : ℕ) : Local (bytes n) := by
  intro code a rest more h
  obtain ⟨hle, h⟩ := Option.ite_none_right_eq_some.mp h
  cases h
  have hle' : n ≤ (code ++ more).length := by
    rw [List.length_append]
    omega
  rw [bytes, if_pos hle', List.take_append_of_le_length hle, List.drop_append_of_le_length hle]

theorem local_number (n : ℕ) : Local (number n) := (local_bytes n).bind fun _ => .pure _

theorem local_signed (n : ℕ) : Local (signed n) := (local_number n).bind fun _ => .pure _

theorem local_register (extended : Bool) (field : ℕ) : Local (register extended field) := by
  unfold register
  split <;> first
    | exact .pure _
    | exact .failed

end Decoding

theorem local_operands : Local operands :=
  (local_number 1).bind fun _ =>
    .ite (.pure _) (.ite ((local_signed 4).bind fun _ => .pure _) .failed)

theorem local_between (op : Register → Register → Operation) (r : Bool) (reg : ℕ) (b : Bool)
    (rm : ℕ) : Local (between op r reg b rm) :=
  (local_register r reg).bind fun _ => (local_register b rm).bind fun _ => .pure _

theorem local_decodeWide (r b : Bool) (opcode : ℕ) : Local (decodeWide r b opcode) := by
  refine .ite ((local_register _ _).bind fun _ => (local_number 8).bind fun _ => .pure _)
    (local_operands.bind fun found => ?_)
  split
  · exact local_between _ _ _ _ _
  · exact local_between _ _ _ _ _
  · exact local_between _ _ _ _ _
  · exact (local_register _ _).bind fun _ => .pure _
  · exact (local_register _ _).bind fun _ => .pure _
  · exact (local_register _ _).bind fun _ => (local_signed 1).bind fun _ => .pure _
  · exact (local_signed 1).bind fun _ => .pure _
  · exact .failed

theorem local_decodeOpcode (opcode : ℕ) : Local (decodeOpcode opcode) := by
  refine .ite ((local_register _ _).bind fun _ => (local_number 4).bind fun _ => .pure _)
    (.ite ((local_number 1).bind fun _ => local_decodeWide _ _ _) ?_)
  split
  · exact (local_number 1).bind fun _ => .ite ((local_signed 4).bind fun _ => .pure _) .failed
  · refine local_operands.bind fun found => ?_
    split
    · exact local_between _ _ _ _ _
    · exact .failed
  · exact (local_number 1).bind fun _ => .ite
      ((local_register _ _).bind fun _ => (local_number 2).bind fun _ => .pure _) .failed
  · exact (local_signed 1).bind fun _ => .pure _
  · exact (local_signed 4).bind fun _ => .pure _
  · exact (local_signed 4).bind fun _ => .pure _
  · exact (local_signed 1).bind fun _ => .pure _
  · exact .pure _
  · exact (local_number 1).bind fun _ => .ite (.pure _) .failed
  · exact .pure _
  · exact .pure _
  · exact .pure _
  · exact .failed

theorem local_decode : Local decode := (local_number 1).bind fun _ => local_decodeOpcode _

theorem instructionAt_eq_some {memory : Memory} {address : UInt64} {n : ℕ} {coded : Coded} :
    instructionAt memory address n = some coded ↔
      ∃ f, decode (memory.load address.toNat n) = some (f, []) ∧
        f (address + UInt64.ofNat n) = coded := by
  unfold instructionAt
  split
  · next f hdecode => simp [hdecode]
  · next hother => simpa using fun f hdecode => absurd hdecode (hother f)

/-- An instruction reads its own bytes only. -/
theorem instructionAt_congr {memory memory' : Memory} {address : UInt64} {n : ℕ}
    (h : ∀ i < n, memory' (address.toNat + i) = memory (address.toNat + i)) :
    instructionAt memory' address n = instructionAt memory address n := by
  rw [instructionAt, Memory.load_congr h, instructionAt]

/-- At an address there is one instruction at most. -/
theorem instructionAt_unique {memory : Memory} {address : UInt64} {n n' : ℕ} {coded coded' : Coded}
    (h : instructionAt memory address n = some coded)
    (h' : instructionAt memory address n' = some coded') : n = n' ∧ coded = coded' := by
  wlog hle : n ≤ n' generalizing n n' coded coded'
  · obtain ⟨hn, hcoded⟩ := this h' h (Nat.le_of_not_le hle)
    exact ⟨hn.symm, hcoded.symm⟩
  obtain ⟨f, hdecode, rfl⟩ := instructionAt_eq_some.mp h
  obtain ⟨f', hdecode', rfl⟩ := instructionAt_eq_some.mp h'
  obtain ⟨k, rfl⟩ := Nat.exists_eq_add_of_le hle
  have hlonger := local_decode _ _ _ (memory.load (address.toNat + n) k) hdecode
  rw [← Memory.load_append, hdecode', Option.some.injEq, Prod.mk.injEq] at hlonger
  have hnil := congrArg List.length hlonger.2
  rw [List.nil_append, Memory.length_load, List.length_nil] at hnil
  rw [← hnil, hlonger.1]
  exact ⟨rfl, rfl⟩

theorem CodeStep.unique {s a b : State} (ha : CodeStep s a) (hb : CodeStep s b) : a = b := by
  obtain ⟨hs, hcode⟩ := ha
  obtain ⟨hs', hcode'⟩ := hb
  cases hs.symm.trans hs'
  obtain ⟨rfl, rfl⟩ := instructionAt_unique hcode hcode'
  rfl

/-- Two runs from one state are one run and a part of it. -/
theorem CodeRuns.total {s a b : State} (ha : CodeRuns s a) (hb : CodeRuns s b) :
    CodeRuns a b ∨ CodeRuns b a :=
  Relation.ReflTransGen.total_of_right_unique (fun _ _ _ hy hz => hy.unique hz) ha hb

-- ════════════════════════════════════════════════════════════════════════
-- Programs in memory
-- ════════════════════════════════════════════════════════════════════════

namespace Program

variable (program : Program)

/-- The instruction with its labels resolved. -/
def coded : Instruction → Coded
  | .operation op => .operation op
  | .repStosb => .repStosb
  | .jne target => .jne (program.address target)
  | .jmp target => .jmp (program.address target)
  | .call target => .call target

/-- Between the addresses of the first instruction and of the end. -/
def InCode (x : ℕ) : Prop :=
  (program.address 0).toNat ≤ x ∧ x < (program.address program.instructions.length).toNat

/-- The bytes at the program's addresses are its instructions. -/
def AssembledIn (memory : Memory) : Prop :=
  ∀ index < program.instructions.length,
    (program.address index).toNat ≤ (program.address (index + 1)).toNat ∧
    instructionAt memory (program.address index)
      ((program.address (index + 1)).toNat - (program.address index).toNat) =
        program.instructions[index]?.map program.coded

/-- The state of the processor that executes the program's code. -/
def placed (s : State) : State :=
  match s.location with
  | .inside index => s.goTo (.outside (program.address index))
  | .outside _ => s

variable {program}

theorem AssembledIn.address_le {memory : Memory} (h : program.AssembledIn memory) {i j : ℕ}
    (hij : i ≤ j) (hj : j ≤ program.instructions.length) :
    (program.address i).toNat ≤ (program.address j).toNat := by
  induction j, hij using Nat.le_induction with
  | base => exact le_rfl
  | succ j _ ih => exact (ih (by omega)).trans (h j (by omega)).1

/-- The code is all that matters. -/
theorem AssembledIn.congr {memory memory' : Memory} (h : program.AssembledIn memory)
    (hsame : ∀ x, program.InCode x → memory' x = memory x) : program.AssembledIn memory' := by
  intro index hindex
  obtain ⟨hle, hcode⟩ := h index hindex
  refine ⟨hle, ?_⟩
  rw [← hcode]
  apply instructionAt_congr
  intro i hi
  have hfirst := h.address_le (Nat.zero_le index) hindex.le
  have hlast := h.address_le (i := index + 1) hindex le_rfl
  exact hsame _ ⟨by omega, by omega⟩

end Program

section Placed

variable {program : Program} {s s' : State}

theorem placed_inside {index : ℕ} (hs : s.location = .inside index) :
    program.placed s = s.goTo (.outside (program.address index)) := by
  rw [Program.placed, hs]

theorem placed_goTo_inside (s : State) (index : ℕ) :
    program.placed (s.goTo (.inside index)) = s.goTo (.outside (program.address index)) := rfl

theorem next_address {memory : Memory} (h : program.AssembledIn memory) {index : ℕ}
    (hindex : index < program.instructions.length) :
    program.address index + UInt64.ofNat
        ((program.address (index + 1)).toNat - (program.address index).toNat) =
      program.address (index + 1) := by
  have hle := (h index hindex).1
  have hlt := (program.address (index + 1)).toNat_lt
  have hfits : (program.address (index + 1)).toNat - (program.address index).toNat < 2 ^ 64 := by
    omega
  apply UInt64.toNat_inj.mp
  rw [UInt64.toNat_add, UInt64.toNat_ofNat_of_lt' hfits, Nat.add_sub_cancel' hle]
  exact Nat.mod_eq_of_lt hlt

/-- A step of the program does what the bytes of its instruction say. -/
theorem placed_step {index : ℕ} {instruction : Instruction} (hs : s.location = .inside index)
    (hinstruction : program.instructions[index]? = some instruction)
    (hstep : step program s = some s') :
    program.placed s' = (program.coded instruction).perform (program.address (index + 1))
      (s.goTo (.outside (program.address index))) := by
  cases instruction with
  | operation op =>
    rw [step_operation hs hinstruction, Option.some.injEq] at hstep
    rw [← hstep, Program.coded, Coded.perform, apply_goTo, State.goTo_goTo]
    rfl
  | repStosb =>
    rw [step_repStosb hs hinstruction, Option.some.injEq] at hstep
    rw [← hstep, Program.coded, Coded.perform, State.goTo_registers]
    split
    · rfl
    · exact placed_inside hs
  | jne target =>
    rw [step_jne hs hinstruction, Option.some.injEq] at hstep
    rw [← hstep, placed_goTo_inside, apply_ite program.address]
    rfl
  | jmp target =>
    rw [step_jmp hs hinstruction, Option.some.injEq] at hstep
    rw [← hstep]
    rfl
  | call target =>
    rw [step_call hs hinstruction, Option.some.injEq] at hstep
    rw [← hstep]
    rfl

/-- The processor follows a step of a program whose code is in memory. -/
theorem codeStep_of_step (hcode : program.AssembledIn s.memory) (hstep : step program s = some s') :
    CodeStep (program.placed s) (program.placed s') := by
  cases hs : s.location with
  | outside address =>
    rw [step_outside hs] at hstep
    cases hstep
  | inside index =>
    cases hinstruction : program.instructions[index]? with
    | none =>
      rw [step, hs] at hstep
      simp only [hinstruction] at hstep
      cases hstep
    | some instruction =>
      have hindex := (List.getElem?_eq_some_iff.mp hinstruction).1
      have hat := (hcode index hindex).2
      rw [hinstruction, Option.map_some] at hat
      rw [placed_inside hs, placed_step hs hinstruction hstep, ← next_address hcode hindex]
      exact .mk rfl hat

/-- And so a whole run, as long as the code stays as it is. -/
theorem ReachesSparing.codeRuns (hrun : ReachesSparing program program.InCode s s')
    (hcode : program.AssembledIn s.memory) : CodeRuns (program.placed s) (program.placed s') := by
  suffices hboth : CodeRuns (program.placed s) (program.placed s') ∧
      program.AssembledIn s'.memory from hboth.1
  induction hrun with
  | refl => exact ⟨.refl, hcode⟩
  | tail _ hstep ih =>
    exact ⟨ih.1.tail (codeStep_of_step ih.2 hstep.1), ih.2.congr hstep.2⟩

end Placed

end Corelib.X86
