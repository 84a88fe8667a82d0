import PolytopeOS.Corelib.LittleEndian

/-!
# Byte-addressed memory

A memory maps every address to a byte. `load` reads a range as a byte string and
`store` overwrites one; a store is seen inside its range and nowhere else.
-/

namespace Corelib

abbrev Memory := ℕ → UInt8

namespace Memory

/-- The `n` bytes at address `a`. -/
def load (m : Memory) (a n : ℕ) : Bytes := (List.range n).map fun i => m (a + i)

def store (m : Memory) (a : ℕ) (bytes : Bytes) : Memory := fun x =>
  if a ≤ x then (bytes[x - a]?).getD (m x) else m x

@[simp] theorem length_load (m : Memory) (a n : ℕ) : (load m a n).length = n := by
  simp [load]

theorem getElem?_load (m : Memory) (a : ℕ) {n i : ℕ} (hi : i < n) :
    (load m a n)[i]? = some (m (a + i)) := by
  simp [load, hi]

theorem load_append (m : Memory) (a n k : ℕ) :
    load m a (n + k) = load m a n ++ load m (a + n) k := by
  simp [load, List.range_add, Nat.add_assoc]

/-- A load sees its range only. -/
theorem load_congr {m m' : Memory} {a n : ℕ} (h : ∀ i < n, m (a + i) = m' (a + i)) :
    load m a n = load m' a n :=
  List.map_congr_left fun i hi => h i (List.mem_range.mp hi)

theorem store_inside (m : Memory) (a : ℕ) {bytes : Bytes} {i : ℕ} {b : UInt8}
    (hi : bytes[i]? = some b) : store m a bytes (a + i) = b := by
  simp [store, hi]

theorem store_outside (m : Memory) {a x : ℕ} {bytes : Bytes}
    (hx : x < a ∨ a + bytes.length ≤ x) : store m a bytes x = m x := by
  unfold store
  by_cases hax : a ≤ x
  · rw [if_pos hax, List.getElem?_eq_none (by omega)]
    rfl
  · rw [if_neg hax]

/-- Reading back the first bytes of a store. -/
theorem load_store (m : Memory) (a : ℕ) {bytes : Bytes} {n : ℕ} (hn : n ≤ bytes.length) :
    load (store m a bytes) a n = bytes.take n := by
  apply List.ext_getElem?
  intro i
  by_cases hi : i < n
  · have hb : bytes[i]? = some (bytes[i]) := List.getElem?_eq_getElem (by omega)
    rw [getElem?_load _ _ hi, store_inside m a hb, List.getElem?_take_of_lt hi, hb]
  · rw [List.getElem?_eq_none (by simp; omega), List.getElem?_eq_none (by simp; omega)]

end Memory

end Corelib
