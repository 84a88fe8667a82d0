import Mathlib.Data.Nat.Bitwise
import PolytopeOS.Corelib.Exec

/-!
# Fixed-width words as bounded naturals

Checked arithmetic on 64-bit words and on 64-bit sizes, bit masks, and rounding
up to a power of two. Every lemma restates a word operation over the naturals,
where linear arithmetic applies.
-/

namespace Corelib

/-- Addition that fails on overflow. -/
def checkedAdd (a b : UInt64) : Option UInt64 :=
  if a.toNat + b.toNat < 2 ^ 64 then some (a + b) else none

theorem checkedAdd_eq_some {a b c : UInt64} :
    checkedAdd a b = some c ↔ c.toNat = a.toNat + b.toNat := by
  unfold checkedAdd
  have hc := c.toNat_lt
  split
  · rw [Option.some.injEq, ← UInt64.toNat_inj, UInt64.toNat_add]
    omega
  · simp only [reduceCtorEq, false_iff]
    omega

/-- Multiplication that fails on overflow. -/
def checkedMul (a b : UInt64) : Option UInt64 :=
  if a.toNat * b.toNat < 2 ^ 64 then some (a * b) else none

theorem checkedMul_eq_some {a b c : UInt64} :
    checkedMul a b = some c ↔ c.toNat = a.toNat * b.toNat := by
  unfold checkedMul
  have hc := c.toNat_lt
  split
  · next h =>
    rw [Option.some.injEq, ← UInt64.toNat_inj, UInt64.toNat_mul, Nat.mod_eq_of_lt h]
    exact eq_comm
  · next h =>
    simp only [reduceCtorEq, false_iff]
    intro hc'
    exact h (hc' ▸ hc)

theorem checkedMul_eq_none {a b : UInt64} :
    checkedMul a b = none ↔ 2 ^ 64 ≤ a.toNat * b.toNat := by
  unfold checkedMul
  split
  · next h => simpa only [reduceCtorEq, false_iff, not_le] using h
  · next h => simpa only [true_iff] using not_lt.mp h

/-- A 64-bit size or index that is in range. -/
def checkedSize (n : ℕ) : Option ℕ := if n < 2 ^ 64 then some n else none

theorem checkedSize_of_lt {n : ℕ} (h : n < 2 ^ 64) : checkedSize n = some n := if_pos h

/-- A conversion that saturates. -/
theorem getD_checkedSize (n : ℕ) : (checkedSize n).getD (2 ^ 64 - 1) = min n (2 ^ 64 - 1) := by
  unfold checkedSize
  split <;> simp only [Option.getD_some, Option.getD_none] <;> omega

theorem checkedSize_eq_some {n m : ℕ} : checkedSize n = some m ↔ n < 2 ^ 64 ∧ n = m := by
  unfold checkedSize
  split <;> simp_all

/-- Subtraction that fails below zero. -/
def checkedSub (a b : UInt64) : Option UInt64 := if b ≤ a then some (a - b) else none

/-- `saturating_add` of 64-bit counts. -/
def saturatingAdd (a b : ℕ) : ℕ := min (a + b) (2 ^ 64 - 1)

theorem saturatingAdd_of_lt {a b : ℕ} (h : a + b < 2 ^ 64) : saturatingAdd a b = a + b :=
  min_eq_left (Nat.le_sub_one_of_lt h)

/-- `saturating_mul` of 64-bit counts. -/
def saturatingMul (a b : ℕ) : ℕ := min (a * b) (2 ^ 64 - 1)

theorem saturatingMul_of_lt {a b : ℕ} (h : a * b < 2 ^ 64) : saturatingMul a b = a * b :=
  min_eq_left (Nat.le_sub_one_of_lt h)

/-- A number as a 32-bit word, when it is in range. -/
def checkedU32 (n : ℕ) : Option UInt32 := if n < 2 ^ 32 then some (UInt32.ofNat n) else none

theorem checkedU32_eq_some {n : ℕ} {v : UInt32} : checkedU32 n = some v ↔ v.toNat = n := by
  have hv := v.toNat_lt
  unfold checkedU32
  split
  · next h =>
    rw [Option.some.injEq, ← UInt32.toNat_inj, UInt32.toNat_ofNat_of_lt' h]
    exact eq_comm
  · next h =>
    simp only [reduceCtorEq, false_iff]
    omega

/-- Unchecked additions, which panic on overflow. -/
def addSize {ε : Type} (a b : ℕ) : Exec ε ℕ := Exec.unwrap (checkedSize (a + b))

/-- Unchecked multiplication, which panics on overflow. -/
def mulSize {ε : Type} (a b : ℕ) : Exec ε ℕ := Exec.unwrap (checkedSize (a * b))

/-- Unchecked subtraction of sizes, which panics below zero. -/
def subSize {ε : Type} (a b : ℕ) : Exec ε ℕ := if a < b then .panic else .ok (a - b)

def addWord {ε : Type} (a b : UInt64) : Exec ε UInt64 := Exec.unwrap (checkedAdd a b)

/-- Addition of 16-bit counters, kept as naturals. -/
def addCount {ε : Type} (a b : ℕ) : Exec ε ℕ := if 2 ^ 16 ≤ a + b then .panic else .ok (a + b)

/-- Unchecked subtraction, which panics below zero. -/
def subWord {ε : Type} (a b : UInt64) : Exec ε UInt64 := if a < b then .panic else .ok (a - b)

/-- The remainder, which panics on a zero divisor. -/
def remWord {ε : Type} (a b : UInt64) : Exec ε UInt64 := if b = 0 then .panic else .ok (a % b)

theorem addSize_of_lt {ε : Type} {a b : ℕ} (h : a + b < 2 ^ 64) :
    (addSize a b : Exec ε ℕ) = .ok (a + b) := by
  rw [addSize, checkedSize_of_lt h, Exec.unwrap_some]

theorem mulSize_of_lt {ε : Type} {a b : ℕ} (h : a * b < 2 ^ 64) :
    (mulSize a b : Exec ε ℕ) = .ok (a * b) := by
  rw [mulSize, checkedSize_of_lt h, Exec.unwrap_some]

theorem subSize_of_le {ε : Type} {a b : ℕ} (h : b ≤ a) : (subSize a b : Exec ε ℕ) = .ok (a - b) :=
  if_neg (Nat.not_lt.mpr h)

theorem addWord_of_lt {ε : Type} {a b : UInt64} (h : a.toNat + b.toNat < 2 ^ 64) :
    (addWord a b : Exec ε UInt64) = .ok (a + b) := by
  rw [addWord, checkedAdd, if_pos h, Exec.unwrap_some]

theorem addCount_of_lt {ε : Type} {a b : ℕ} (h : a + b < 2 ^ 16) :
    (addCount a b : Exec ε ℕ) = .ok (a + b) :=
  if_neg (not_le.mpr h)

theorem subWord_of_le {ε : Type} {a b : UInt64} (h : b ≤ a) :
    (subWord a b : Exec ε UInt64) = .ok (a - b) :=
  if_neg (UInt64.not_lt.mpr h)

theorem remWord_of_ne {ε : Type} {a b : UInt64} (h : b ≠ 0) :
    (remWord a b : Exec ε UInt64) = .ok (a % b) :=
  if_neg h

theorem word_mod_eq_zero {a b : UInt64} : a % b = 0 ↔ a.toNat % b.toNat = 0 := by
  rw [← UInt64.toNat_inj, UInt64.toNat_mod]
  rfl

/-- Masking away the `k` low bits of a `w`-bit number rounds it down to a
multiple of `2 ^ k`. -/
theorem and_highMask (x k w : ℕ) (hx : x < 2 ^ w) (hk : k ≤ w) :
    x &&& (2 ^ w - 1 - (2 ^ k - 1)) = x / 2 ^ k * 2 ^ k := by
  have hle : 2 ^ k ≤ 2 ^ w := Nat.pow_le_pow_right (by omega) hk
  have hpos : 0 < 2 ^ k := Nat.two_pow_pos k
  have hmask : 2 ^ w - 1 - (2 ^ k - 1) = 2 ^ w - ((2 ^ k - 1) + 1) := by omega
  apply Nat.eq_of_testBit_eq
  intro i
  rw [Nat.testBit_and, Nat.testBit_mul_two_pow, hmask,
    Nat.testBit_two_pow_sub_succ (by omega), Nat.testBit_two_pow_sub_one,
    Nat.testBit_div_two_pow]
  by_cases hki : k ≤ i
  · rw [Nat.sub_add_cancel hki]
    by_cases hiw : i < w
    · simp [hki, hiw]
    · have hxi : x < 2 ^ i := lt_of_lt_of_le hx (Nat.pow_le_pow_right (by omega) (by omega))
      rw [Nat.testBit_lt_two_pow hxi]
      simp
  · have hik : i < k := by omega
    simp [hki, hik]

/-- A `w`-bit number has no bit above the `k` low ones iff it is below `2 ^ k`. -/
theorem and_highMask_eq_zero (x k w : ℕ) (hx : x < 2 ^ w) (hk : k ≤ w) :
    x &&& (2 ^ w - 1 - (2 ^ k - 1)) = 0 ↔ x < 2 ^ k := by
  rw [and_highMask x k w hx hk, Nat.mul_eq_zero, Nat.div_eq_zero_iff]
  have hpos : 2 ^ k ≠ 0 := (Nat.two_pow_pos k).ne'
  simp only [hpos, false_or, or_false]

/-- A flag word that may use only its lowest bit is zero or one. -/
theorem and_not_one_eq_zero64 {flags : UInt64} :
    flags &&& ~~~1 = 0 ↔ flags = 0 ∨ flags = 1 := by
  have h := and_highMask_eq_zero flags.toNat 1 64 flags.toNat_lt (by omega)
  simp only [← UInt64.toNat_inj, UInt64.toNat_and, UInt64.toNat_not]
  rw [show UInt64.size - 1 - (1 : UInt64).toNat = 2 ^ 64 - 1 - (2 ^ 1 - 1) from rfl,
    show (0 : UInt64).toNat = 0 from rfl, h, show (1 : UInt64).toNat = 1 from rfl]
  omega

theorem and_not_one_eq_zero32 {flags : UInt32} :
    flags &&& ~~~1 = 0 ↔ flags = 0 ∨ flags = 1 := by
  have h := and_highMask_eq_zero flags.toNat 1 32 flags.toNat_lt (by omega)
  simp only [← UInt32.toNat_inj, UInt32.toNat_and, UInt32.toNat_not]
  rw [show UInt32.size - 1 - (1 : UInt32).toNat = 2 ^ 32 - 1 - (2 ^ 1 - 1) from rfl,
    show (0 : UInt32).toNat = 0 from rfl, h, show (1 : UInt32).toNat = 1 from rfl]
  omega

/-- Testing a single-bit mask reads that bit. -/
theorem and_bit_eq_zero {x : UInt32} (k : ℕ) (hk : k < 32) :
    x &&& UInt32.ofNat (2 ^ k) = 0 ↔ x.toNat.testBit k = false := by
  have hlt : 2 ^ k < 2 ^ 32 := Nat.pow_lt_pow_right (by omega) hk
  have hpos : 0 < 2 ^ k := Nat.two_pow_pos k
  rw [← UInt32.toNat_inj, UInt32.toNat_and, UInt32.toNat_ofNat', Nat.mod_eq_of_lt hlt,
    Nat.and_two_pow]
  cases x.toNat.testBit k <;> simp

/-- The least multiple of `a` that is at least `n`. -/
def roundUp (n a : ℕ) : ℕ := (n + (a - 1)) / a * a

theorem le_roundUp (n : ℕ) {a : ℕ} (ha : 0 < a) : n ≤ roundUp n a := by
  have h := Nat.div_add_mod (n + (a - 1)) a
  have hlt := Nat.mod_lt (n + (a - 1)) ha
  rw [Nat.mul_comm] at h
  unfold roundUp
  omega

theorem roundUp_le_iff {n a m : ℕ} (ha : 0 < a) (hm : a ∣ m) : roundUp n a ≤ m ↔ n ≤ m := by
  constructor
  · exact (le_roundUp n ha).trans
  · intro hn
    obtain ⟨q, rfl⟩ := hm
    unfold roundUp
    rw [Nat.mul_comm a q]
    refine Nat.mul_le_mul_right a ?_
    rw [← Nat.lt_succ_iff, Nat.div_lt_iff_lt_mul ha, Nat.succ_mul, Nat.mul_comm q a]
    omega

theorem roundUp_add_of_dvd {n a m : ℕ} (ha : 0 < a) (hm : a ∣ m) :
    roundUp (m + n) a = m + roundUp n a := by
  obtain ⟨q, rfl⟩ := hm
  unfold roundUp
  rw [Nat.add_assoc, Nat.mul_add_div ha, Nat.add_mul, Nat.mul_comm q a]

end Corelib
