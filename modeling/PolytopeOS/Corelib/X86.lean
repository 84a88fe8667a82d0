import Mathlib.Logic.Relation
import PolytopeOS.Corelib.Memory

/-!
# A part of the x86-64 instruction set

Straight-line operations, the repeated store, jumps and the call, over a
register file, three flags, byte-addressed memory and a log of port writes. The
addresses that a linker fills in are part of the instructions. A step of the
repeated store stores one byte, since it can be interrupted between two; `hlt`
goes on, since the processor may be woken up.
-/

namespace Corelib.X86

inductive Register where
  | rax
  | rcx
  | rdx
  | rsp
  | rbp
  | rsi
  | rdi
  | r12
  | r13
  deriving DecidableEq, Repr

/-- The next instruction: one of the program, or one at an address outside it. -/
inductive Location where
  | inside (index : ℕ)
  | outside (address : UInt64)
  deriving DecidableEq, Repr

structure State where
  location : Location
  registers : Register → UInt64
  /-- The flags ZF, DF and IF. -/
  zero : Bool
  direction : Bool
  interrupts : Bool
  memory : Memory
  /-- The port and the value of each `outl`, in order. -/
  outputs : List (UInt16 × UInt32)

/-- The instructions that go on with the next one. The source comes first. -/
inductive Operation where
  | cli
  | cld
  | hlt
  | movq (source target : Register)
  | leaq (address : UInt64) (target : Register)
  | movabsq (value : UInt64) (target : Register)
  | movl (value : UInt32) (target : Register)
  | movw (value : UInt16) (target : Register)
  /-- `movq %source, address(%rip)`. -/
  | movqTo (source : Register) (address : UInt64)
  | andq (value : UInt64) (target : Register)
  | subq (source target : Register)
  | xorq (source target : Register)
  | xorl (source target : Register)
  /-- `cmpq $value, address(%rip)`. -/
  | cmpqAt (value address : UInt64)
  /-- `outl %eax, %dx`. -/
  | outl
  deriving DecidableEq, Repr

inductive Instruction where
  | operation (op : Operation)
  | repStosb
  | jne (target : ℕ)
  | jmp (target : ℕ)
  | call (target : UInt64)
  deriving DecidableEq, Repr

/-- The instructions of a program and the address of each of them. -/
structure Program where
  instructions : List Instruction
  address : ℕ → UInt64

namespace State

def set (s : State) (target : Register) (value : UInt64) : State :=
  { s with registers := Function.update s.registers target value }

/-- The result of an arithmetic instruction also sets the zero flag. -/
def setResult (s : State) (target : Register) (value : UInt64) : State :=
  { s.set target value with zero := value == 0 }

@[simp] theorem set_self (s : State) (target : Register) (value : UInt64) :
    (s.set target value).registers target = value := Function.update_self _ _ _

theorem set_of_ne (s : State) {target r : Register} (h : r ≠ target) (value : UInt64) :
    (s.set target value).registers r = s.registers r := Function.update_of_ne h _ _

@[simp] theorem set_memory (s : State) (target : Register) (value : UInt64) :
    (s.set target value).memory = s.memory := rfl

@[simp] theorem set_outputs (s : State) (target : Register) (value : UInt64) :
    (s.set target value).outputs = s.outputs := rfl

@[simp] theorem setResult_outputs (s : State) (target : Register) (value : UInt64) :
    (s.setResult target value).outputs = s.outputs := rfl

def goTo (s : State) (location : Location) : State := { s with location }

@[simp] theorem goTo_goTo (s : State) (first second : Location) :
    (s.goTo first).goTo second = s.goTo second := rfl

@[simp] theorem goTo_registers (s : State) (location : Location) :
    (s.goTo location).registers = s.registers := rfl

@[simp] theorem goTo_memory (s : State) (location : Location) :
    (s.goTo location).memory = s.memory := rfl

@[simp] theorem goTo_outputs (s : State) (location : Location) :
    (s.goTo location).outputs = s.outputs := rfl

end State

/-- The low half of a register, zero-extended. -/
def lowHalf (value : UInt64) : UInt64 := value.toUInt32.toUInt64

def Operation.apply (op : Operation) (s : State) : State :=
  match op with
  | .cli => { s with interrupts := false }
  | .cld => { s with direction := false }
  | .hlt => s
  | .movq source target => s.set target (s.registers source)
  | .leaq address target => s.set target address
  | .movabsq value target => s.set target value
  | .movl value target => s.set target value.toUInt64
  | .movw value target =>
    s.set target ((s.registers target &&& ~~~0xffff) ||| value.toUInt64)
  | .movqTo source address =>
    { s with memory := s.memory.store address.toNat (u64ToLe (s.registers source)) }
  | .andq value target => s.setResult target (s.registers target &&& value)
  | .subq source target => s.setResult target (s.registers target - s.registers source)
  | .xorq source target => s.setResult target (s.registers target ^^^ s.registers source)
  | .xorl source target =>
    s.setResult target (lowHalf (s.registers target) ^^^ lowHalf (s.registers source))
  | .cmpqAt value address =>
    { s with zero := u64OfLe (s.memory.load address.toNat 8) == value }
  | .outl =>
    { s with outputs := s.outputs ++ [((s.registers .rdx).toUInt16, (s.registers .rax).toUInt32)] }

/-- One byte of a repeated store. -/
def State.stosb (s : State) : State :=
  let step : UInt64 := if s.direction then -1 else 1
  { s with
    registers := Function.update (Function.update s.registers .rcx (s.registers .rcx - 1)) .rdi
      (s.registers .rdi + step)
    memory := s.memory.store (s.registers .rdi).toNat [(s.registers .rax).toUInt8] }

/-- A call pushes the address of the instruction after it. -/
def State.push (s : State) (value : UInt64) : State :=
  let top := s.registers .rsp - 8
  { s.set .rsp top with memory := s.memory.store top.toNat (u64ToLe value) }

@[simp] theorem State.push_goTo (s : State) (location : Location) (value : UInt64) :
    (s.goTo location).push value = (s.push value).goTo location := rfl

def step (program : Program) (s : State) : Option State :=
  match s.location with
  | .outside _ => none
  | .inside index =>
    match program.instructions[index]? with
    | none => none
    | some (.operation op) => some ((op.apply s).goTo (.inside (index + 1)))
    | some .repStosb =>
      if s.registers .rcx = 0 then some (s.goTo (.inside (index + 1))) else some s.stosb
    | some (.jne target) => some (s.goTo (.inside (if s.zero then index + 1 else target)))
    | some (.jmp target) => some (s.goTo (.inside target))
    | some (.call target) => some ((s.push (program.address (index + 1))).goTo (.outside target))

/-- Any number of steps. -/
def Reaches (program : Program) : State → State → Prop :=
  Relation.ReflTransGen fun s s' => step program s = some s'

/-- Any number of steps that leave the bytes of a region as they are. -/
def ReachesSparing (program : Program) (region : ℕ → Prop) : State → State → Prop :=
  Relation.ReflTransGen fun s s' =>
    step program s = some s' ∧ ∀ x, region x → s'.memory x = s.memory x

def execute (ops : List Operation) (s : State) : State := ops.foldl (fun s op => op.apply s) s

/-- The word at an address is zero when its bytes are. -/
theorem word_eq_zero_iff {memory : Memory} {a : ℕ} :
    u64OfLe (memory.load a 8) = 0 ↔ ∀ i < 8, memory (a + i) = 0 := by
  have hzero : u64ToLe 0 = List.replicate 8 0 := rfl
  rw [u64OfLe_eq_iff (Memory.length_load _ _ _), hzero, List.eq_replicate_iff, Memory.load]
  simp

/-- `movw` replaces the low 16 bits. -/
theorem toUInt16_movw (old : UInt64) (value : UInt16) :
    ((old &&& ~~~0xffff) ||| value.toUInt64).toUInt16 = value := by
  have hmask : (~~~0xffff : UInt64).toUInt16 = 0 := rfl
  rw [UInt64.toUInt16_or, UInt64.toUInt16_and, hmask, UInt16.and_zero, UInt16.zero_or,
    UInt16.toUInt16_toUInt64]

variable {program : Program} {s s' : State} {index : ℕ}

-- ════════════════════════════════════════════════════════════════════════
-- One step
-- ════════════════════════════════════════════════════════════════════════

theorem apply_goTo (op : Operation) (s : State) (location : Location) :
    op.apply (s.goTo location) = (op.apply s).goTo location := by
  cases op <;> rfl

theorem execute_goTo (ops : List Operation) (s : State) (location : Location) :
    execute ops (s.goTo location) = (execute ops s).goTo location := by
  induction ops generalizing s with
  | nil => rfl
  | cons op ops ih => exact (congrArg (execute ops) (apply_goTo op s location)).trans (ih _)

/-- Operations other than `outl` write to no port. -/
theorem execute_outputs {ops : List Operation} (h : Operation.outl ∉ ops) (s : State) :
    (execute ops s).outputs = s.outputs := by
  induction ops generalizing s with
  | nil => rfl
  | cons op ops ih =>
    rw [List.mem_cons, not_or] at h
    have happly : (op.apply s).outputs = s.outputs := by
      cases op with
      | outl => exact absurd rfl h.1
      | _ => simp only [Operation.apply, State.set_outputs, State.setResult_outputs]
    exact (ih h.2 (op.apply s)).trans happly

theorem step_operation {op : Operation} (hs : s.location = .inside index)
    (hcode : program.instructions[index]? = some (.operation op)) :
    step program s = some ((op.apply s).goTo (.inside (index + 1))) := by
  rw [step, hs]
  simp only [hcode]

theorem step_jne {target : ℕ} (hs : s.location = .inside index)
    (hcode : program.instructions[index]? = some (.jne target)) :
    step program s = some (s.goTo (.inside (if s.zero then index + 1 else target))) := by
  rw [step, hs]
  simp only [hcode]

theorem step_jmp {target : ℕ} (hs : s.location = .inside index)
    (hcode : program.instructions[index]? = some (.jmp target)) :
    step program s = some (s.goTo (.inside target)) := by
  rw [step, hs]
  simp only [hcode]

theorem step_call {target : UInt64} (hs : s.location = .inside index)
    (hcode : program.instructions[index]? = some (.call target)) :
    step program s = some ((s.push (program.address (index + 1))).goTo (.outside target)) := by
  rw [step, hs]
  simp only [hcode]

theorem step_repStosb (hs : s.location = .inside index)
    (hcode : program.instructions[index]? = some .repStosb) :
    step program s =
      some (if s.registers .rcx = 0 then s.goTo (.inside (index + 1)) else s.stosb) := by
  rw [step, hs]
  simp only [hcode]
  split <;> rfl

theorem step_outside {address : UInt64} (hs : s.location = .outside address) :
    step program s = none := by
  rw [step, hs]

-- ════════════════════════════════════════════════════════════════════════
-- Runs
-- ════════════════════════════════════════════════════════════════════════

theorem ReachesSparing.reaches {region : ℕ → Prop} (h : ReachesSparing program region s s') :
    Reaches program s s' := Relation.ReflTransGen.mono (fun _ _ => And.left) _ _ h

theorem ReachesSparing.of_step {region : ℕ → Prop} (h : step program s = some s')
    (hspared : ∀ x, region x → s'.memory x = s.memory x) : ReachesSparing program region s s' :=
  Relation.ReflTransGen.single ⟨h, hspared⟩

/-- An operation stores nothing in a region. -/
def Operation.Spares (op : Operation) (region : ℕ → Prop) : Prop :=
  ∀ s x, region x → (op.apply s).memory x = s.memory x

theorem spares_movqTo {region : ℕ → Prop} (source : Register) {address : UInt64}
    (h : ∀ i < 8, ¬region (address.toNat + i)) :
    (Operation.movqTo source address).Spares region := by
  intro s x hx
  refine Memory.store_outside _ ?_
  rw [length_u64ToLe]
  by_contra hin
  refine h (x - address.toNat) (by omega) ?_
  rwa [Nat.add_sub_cancel' (by omega)]

/-- An invariant of the steps holds along every run. -/
theorem Reaches.invariant {P : State → Prop} (hstep : ∀ s s', P s → step program s = some s' → P s')
    (hrun : Reaches program s s') (hs : P s) : P s' := by
  induction hrun with
  | refl => exact hs
  | tail _ hlast ih => exact hstep _ _ ih hlast

theorem Reaches.of_step (h : step program s = some s') : Reaches program s s' :=
  Relation.ReflTransGen.single h

/-- Two runs from one state are one run and a part of it. -/
theorem Reaches.total {a b : State} (ha : Reaches program s a) (hb : Reaches program s b) :
    Reaches program a b ∨ Reaches program b a :=
  Relation.ReflTransGen.total_of_right_unique
    (fun _ _ _ hy hz => Option.some.inj (hy.symm.trans hz)) ha hb

/-- A run goes no further than where it leaves the program. -/
theorem Reaches.eq_of_outside {address : UInt64} (hs : s.location = .outside address)
    (hrun : Reaches program s s') : s' = s :=
  hrun.invariant (P := fun t => t = s)
    (fun t t' ht hstep => by
      subst ht
      rw [step_outside hs] at hstep
      cases hstep) rfl

/-- A block of operations runs to its end. -/
theorem sparing_block (region : ℕ → Prop) (ops : List Operation) (hs : s.location = .inside index)
    (hcode : ops.map .operation <+: program.instructions.drop index)
    (hspares : ∀ op ∈ ops, op.Spares region) :
    ReachesSparing program region s ((execute ops s).goTo (.inside (index + ops.length))) := by
  induction ops generalizing s index with
  | nil =>
    have hstay : s.goTo (.inside index) = s := by rw [← hs]; rfl
    rw [List.length_nil, Nat.add_zero]
    exact hstay ▸ .refl
  | cons op ops ih =>
    obtain ⟨rest, hrest⟩ := hcode
    rw [List.forall_mem_cons] at hspares
    have hop : program.instructions[index]? = some (.operation op) := by
      rw [← List.head?_drop, ← hrest]
      rfl
    have htail : ops.map .operation <+: program.instructions.drop (index + 1) := by
      refine ⟨rest, ?_⟩
      rw [← List.drop_drop, ← hrest]
      rfl
    have hlater := ih (s := (op.apply s).goTo (.inside (index + 1))) rfl htail hspares.2
    rw [execute_goTo] at hlater
    rw [List.length_cons, Nat.add_comm ops.length 1, ← Nat.add_assoc]
    exact .head ⟨step_operation hs hop, hspares.1 s⟩ hlater

theorem reaches_block (ops : List Operation) (hs : s.location = .inside index)
    (hcode : ops.map .operation <+: program.instructions.drop index) :
    Reaches program s ((execute ops s).goTo (.inside (index + ops.length))) :=
  (sparing_block (fun _ => False) ops hs hcode fun _ _ _ _ => False.elim).reaches

/-- The state that a repeated store of `count` bytes leaves. -/
def State.filled (s : State) (count : ℕ) : State :=
  { s with
    registers := Function.update (Function.update s.registers .rcx 0) .rdi
      (s.registers .rdi + UInt64.ofNat count)
    memory := s.memory.store (s.registers .rdi).toNat
      (List.replicate count (s.registers .rax).toUInt8) }

theorem filled_registers {r : Register} (hrcx : r ≠ .rcx) (hrdi : r ≠ .rdi) (count : ℕ) :
    (s.filled count).registers r = s.registers r :=
  (Function.update_of_ne hrdi _ _).trans (Function.update_of_ne hrcx _ _)

@[simp] theorem filled_outputs (count : ℕ) : (s.filled count).outputs = s.outputs := rfl

theorem store_replicate_succ (memory : Memory) (a count : ℕ) (byte : UInt8) :
    (memory.store a [byte]).store (a + 1) (List.replicate count byte) =
      memory.store a (List.replicate (count + 1) byte) := by
  funext x
  rcases Nat.lt_trichotomy x a with hlt | rfl | hgt
  · rw [Memory.store_outside _ (.inl (by omega)), Memory.store_outside _ (.inl hlt),
      Memory.store_outside _ (.inl hlt)]
  · rw [Memory.store_outside _ (.inl (by omega))]
    simp [Memory.store]
  · obtain ⟨i, rfl⟩ := Nat.exists_eq_add_of_lt hgt
    rw [Nat.add_right_comm]
    by_cases hi : i < count
    · have hbyte : (List.replicate count byte)[i]? = some byte := by
        rw [List.getElem?_replicate, if_pos hi]
      have hbyte' : (List.replicate (count + 1) byte)[1 + i]? = some byte := by
        rw [List.getElem?_replicate, if_pos (by omega)]
      rw [Memory.store_inside _ _ hbyte, Nat.add_assoc, Memory.store_inside _ _ hbyte']
    · rw [Memory.store_outside _ (.inr (by rw [List.length_replicate]; omega)),
        Memory.store_outside _ (.inr (by rw [List.length_singleton]; omega)),
        Memory.store_outside _ (.inr (by rw [List.length_replicate]; omega))]

theorem stosb_rdi (hdirection : s.direction = false) :
    s.stosb.registers .rdi = s.registers .rdi + 1 := by
  simp only [State.stosb, hdirection, Function.update_self, Bool.false_eq_true, if_false]

theorem toNat_succ {a : UInt64} (h : a.toNat + 1 < 2 ^ 64) : (a + 1).toNat = a.toNat + 1 := by
  rw [UInt64.toNat_add]
  exact Nat.mod_eq_of_lt h

/-- One byte and then the rest. -/
theorem filled_stosb (hdirection : s.direction = false) {count : ℕ}
    (hfits : (s.registers .rdi).toNat + (count + 1) < 2 ^ 64) :
    s.stosb.filled count = s.filled (count + 1) := by
  have hrax : s.stosb.registers .rax = s.registers .rax := rfl
  have hnext := toNat_succ (a := s.registers .rdi) (by omega)
  have hsum : s.registers .rdi + 1 + UInt64.ofNat count =
      s.registers .rdi + UInt64.ofNat (count + 1) := by
    rw [UInt64.add_assoc, Nat.add_comm count 1, UInt64.ofNat_add]
    rfl
  simp only [State.filled, State.mk.injEq, stosb_rdi hdirection, hrax, hnext, hsum]
  refine ⟨rfl, ?_, rfl, rfl, rfl, store_replicate_succ _ _ _ _, rfl⟩
  funext r
  cases r <;> rfl

/-- With the direction flag clear the repeated store fills an ascending range. -/
theorem sparing_repStosb {region : ℕ → Prop} (hs : s.location = .inside index)
    (hcode : program.instructions[index]? = some .repStosb) (hdirection : s.direction = false)
    {count : ℕ} (hcount : (s.registers .rcx).toNat = count)
    (hfits : (s.registers .rdi).toNat + count < 2 ^ 64)
    (hspared : ∀ k < count, ¬region ((s.registers .rdi).toNat + k)) :
    ReachesSparing program region s ((s.filled count).goTo (.inside (index + 1))) := by
  -- on the count, which every step decreases by one
  induction count generalizing s with
  | zero =>
    have hzero : s.registers .rcx = 0 := UInt64.toNat_inj.mp hcount
    have hfilled : s.filled 0 = s := by
      have hregisters : Function.update (Function.update s.registers .rcx 0) .rdi
          (s.registers .rdi + UInt64.ofNat 0) = s.registers := by
        rw [← hzero, Function.update_eq_self]
        exact Function.update_eq_self_iff.mpr (UInt64.add_zero _)
      have hmemory : s.memory.store (s.registers .rdi).toNat [] = s.memory := by
        funext x
        exact Memory.store_outside _ (by simp only [List.length_nil]; omega)
      rw [State.filled, hregisters, List.replicate_zero, hmemory]
    have hstep := step_repStosb hs hcode
    rw [if_pos hzero] at hstep
    rw [hfilled]
    exact .of_step hstep fun _ _ => rfl
  | succ count ih =>
    have hne : s.registers .rcx ≠ 0 := by
      intro hzero
      rw [hzero] at hcount
      cases hcount
    have hstep := step_repStosb hs hcode
    rw [if_neg hne] at hstep
    have hrcx : (s.stosb.registers .rcx).toNat = count := by
      show (s.registers .rcx - 1).toNat = count
      rw [UInt64.toNat_sub_of_le _ _ (UInt64.le_iff_toNat_le.mpr (by rw [hcount]; simp)), hcount]
      rfl
    have hrdi : (s.stosb.registers .rdi).toNat = (s.registers .rdi).toNat + 1 := by
      rw [stosb_rdi hdirection, toNat_succ (by omega)]
    have hlater := ih (s := s.stosb) hs hdirection hrcx (by rw [hrdi]; omega) fun k hk => by
      rw [hrdi, Nat.add_assoc, Nat.add_comm 1 k]
      exact hspared (k + 1) (by omega)
    rw [filled_stosb hdirection hfits] at hlater
    refine .head ⟨hstep, fun x hx => Memory.store_outside _ ?_⟩ hlater
    have hne : x ≠ (s.registers .rdi).toNat := by
      rintro rfl
      exact hspared 0 (by omega) hx
    rw [List.length_singleton]
    omega

end Corelib.X86
