import Mathlib.Data.Nat.Digits.Lemmas
import Mathlib.Tactic.NormNum

/-!
# Little-endian byte strings

`toLe n v` is the `n`-byte little-endian form of `v`, and `ofLe` the value of a
byte string. On strings of a fixed length they are inverse to each other, so
decoding a fixed-width word is injective.
-/

namespace Corelib

abbrev Bytes := List UInt8

/-- The `n` low bytes of a number, least significant first. -/
def toLe : ℕ → ℕ → Bytes
  | 0, _ => []
  | n + 1, v => UInt8.ofNat v :: toLe n (v / 256)

/-- The number a little-endian byte string stands for. -/
def ofLe (bytes : Bytes) : ℕ := Nat.ofDigits 256 (bytes.map UInt8.toNat)

@[simp] theorem length_toLe (n v : ℕ) : (toLe n v).length = n := by
  induction n generalizing v with
  | zero => rfl
  | succ n ih => simp [toLe, ih]

@[simp] theorem ofLe_nil : ofLe [] = 0 := rfl

theorem ofLe_cons (b : UInt8) (bytes : Bytes) : ofLe (b :: bytes) = b.toNat + 256 * ofLe bytes := by
  simp [ofLe, Nat.ofDigits_cons]

theorem ofLe_lt (bytes : Bytes) : ofLe bytes < 256 ^ bytes.length := by
  induction bytes with
  | nil => simp
  | cons b bytes ih =>
    have hb := b.toNat_lt
    rw [ofLe_cons, List.length_cons, pow_succ]
    omega

theorem ofLe_toLe (n v : ℕ) : ofLe (toLe n v) = v % 256 ^ n := by
  induction n generalizing v with
  | zero => simp [toLe, Nat.mod_one]
  | succ n ih =>
    have hsplit : v % 256 ^ (n + 1) = v % 256 + 256 * (v / 256 % 256 ^ n) := by
      rw [pow_succ, Nat.mul_comm, Nat.mod_mul]
    rw [toLe, ofLe_cons, ih, UInt8.toNat_ofNat', hsplit]

theorem toLe_ofLe (bytes : Bytes) : toLe bytes.length (ofLe bytes) = bytes := by
  induction bytes with
  | nil => rfl
  | cons b bytes ih =>
    have hb : b.toNat < 256 := b.toNat_lt
    have hmod : (b.toNat + 256 * ofLe bytes) % 256 = b.toNat := by omega
    have hdiv : (b.toNat + 256 * ofLe bytes) / 256 = ofLe bytes := by omega
    rw [List.length_cons, toLe, ofLe_cons, hdiv, ih]
    congr 1
    rw [← UInt8.toNat_inj, UInt8.toNat_ofNat']
    exact hmod

/-- Decoding inverts encoding on strings of the word's own length. -/
theorem eq_toLe_iff {bytes : Bytes} {n v : ℕ} (hlen : bytes.length = n) (hv : v < 256 ^ n) :
    bytes = toLe n v ↔ ofLe bytes = v := by
  constructor
  · rintro rfl
    rw [ofLe_toLe, Nat.mod_eq_of_lt hv]
  · rintro rfl
    rw [← hlen, toLe_ofLe]

/-- `u16::to_le_bytes` and `u16::from_le_bytes`. -/
def u16ToLe (v : UInt16) : Bytes := toLe 2 v.toNat

def u16OfLe (bytes : Bytes) : UInt16 := UInt16.ofNat (ofLe bytes)

/-- `u32::to_le_bytes` and `u32::from_le_bytes`. -/
def u32ToLe (v : UInt32) : Bytes := toLe 4 v.toNat

def u32OfLe (bytes : Bytes) : UInt32 := UInt32.ofNat (ofLe bytes)

/-- `u64::to_le_bytes` and `u64::from_le_bytes`. -/
def u64ToLe (v : UInt64) : Bytes := toLe 8 v.toNat

def u64OfLe (bytes : Bytes) : UInt64 := UInt64.ofNat (ofLe bytes)

@[simp] theorem length_u16ToLe (v : UInt16) : (u16ToLe v).length = 2 := length_toLe 2 _

@[simp] theorem length_u32ToLe (v : UInt32) : (u32ToLe v).length = 4 := length_toLe 4 _

@[simp] theorem length_u64ToLe (v : UInt64) : (u64ToLe v).length = 8 := length_toLe 8 _

theorem toNat_u16OfLe {bytes : Bytes} (h : bytes.length = 2) :
    (u16OfLe bytes).toNat = ofLe bytes := by
  have hlt := ofLe_lt bytes
  rw [h] at hlt
  exact UInt16.toNat_ofNat_of_lt' hlt

theorem toNat_u32OfLe {bytes : Bytes} (h : bytes.length = 4) :
    (u32OfLe bytes).toNat = ofLe bytes := by
  have hlt := ofLe_lt bytes
  rw [h] at hlt
  exact UInt32.toNat_ofNat_of_lt' hlt

theorem toNat_u64OfLe {bytes : Bytes} (h : bytes.length = 8) :
    (u64OfLe bytes).toNat = ofLe bytes := by
  have hlt := ofLe_lt bytes
  rw [h] at hlt
  exact UInt64.toNat_ofNat_of_lt' hlt

theorem u16OfLe_eq_iff {bytes : Bytes} {v : UInt16} (h : bytes.length = 2) :
    u16OfLe bytes = v ↔ bytes = u16ToLe v := by
  rw [u16ToLe, eq_toLe_iff h v.toNat_lt, ← toNat_u16OfLe h, UInt16.toNat_inj]

theorem u32OfLe_eq_iff {bytes : Bytes} {v : UInt32} (h : bytes.length = 4) :
    u32OfLe bytes = v ↔ bytes = u32ToLe v := by
  rw [u32ToLe, eq_toLe_iff h v.toNat_lt, ← toNat_u32OfLe h, UInt32.toNat_inj]

theorem u64OfLe_eq_iff {bytes : Bytes} {v : UInt64} (h : bytes.length = 8) :
    u64OfLe bytes = v ↔ bytes = u64ToLe v := by
  rw [u64ToLe, eq_toLe_iff h v.toNat_lt, ← toNat_u64OfLe h, UInt64.toNat_inj]

end Corelib
