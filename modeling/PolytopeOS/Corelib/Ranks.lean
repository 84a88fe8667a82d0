import Mathlib.Algebra.Order.Floor.Div
import Mathlib.Data.List.Sort
import Mathlib.Order.Bounds.Basic

/-!
# Ranks in sorted lists

The rank of a value is the number of elements that are at most it. In a sorted
list the element at an index is the least one whose rank exceeds the index, also
when elements repeat, so the nearest-rank percentile is a matter of indices.
-/

namespace Corelib

variable {α : Type} [LE α] {l : List α} {k : ℕ} {a b v : α}

theorem head_le_of_mem [Std.IsLinearOrder α] (hsorted : (a :: l).Pairwise (· ≤ ·))
    (hb : b ∈ a :: l) : a ≤ b := by
  rcases List.mem_cons.mp hb with rfl | hb
  · exact Std.le_refl b
  · exact List.rel_of_pairwise_cons hsorted hb

variable [DecidableLE α]

/-- The number of elements that are at most `v`. -/
def rank (l : List α) (v : α) : ℕ := l.countP (· ≤ v)

theorem rank_cons_of_le (l : List α) (h : a ≤ v) : rank (a :: l) v = rank l v + 1 :=
  List.countP_cons_of_pos (decide_eq_true h)

theorem rank_perm {l l' : List α} (h : l.Perm l') (v : α) : rank l v = rank l' v :=
  h.countP_eq _

variable [Std.IsLinearOrder α]

/-- No element is at most a value below the first. -/
theorem rank_eq_zero (hsorted : (a :: l).Pairwise (· ≤ ·)) (hv : ¬a ≤ v) :
    rank (a :: l) v = 0 := by
  rw [rank, List.countP_eq_zero]
  intro b hb hbv
  exact hv (Std.le_trans (head_le_of_mem hsorted hb) (of_decide_eq_true hbv))

/-- The elements up to an index are at most `v` exactly when the rank of `v`
exceeds the index. -/
theorem lt_rank_iff (hsorted : l.Pairwise (· ≤ ·)) (hk : k < l.length) :
    k < rank l v ↔ l[k] ≤ v := by
  induction l generalizing k with
  | nil => exact absurd hk (Nat.not_lt_zero k)
  | cons a l ih =>
    by_cases hav : a ≤ v
    · rw [rank_cons_of_le l hav]
      cases k with
      | zero => exact iff_of_true (Nat.succ_pos _) hav
      | succ k =>
        rw [Nat.add_lt_add_iff_right, List.getElem_cons_succ]
        exact ih hsorted.of_cons (Nat.lt_of_succ_lt_succ hk)
    · rw [rank_eq_zero hsorted hav]
      refine iff_of_false (Nat.not_lt_zero k) ?_
      intro hle
      exact hav (Std.le_trans (head_le_of_mem hsorted (List.getElem_mem hk)) hle)

/-- The element at an index is the least whose rank exceeds the index. -/
theorem isLeast_rank (hsorted : l.Pairwise (· ≤ ·)) (ha : l[k]? = some a) :
    IsLeast {v | v ∈ l ∧ k < rank l v} a := by
  obtain ⟨hk, rfl⟩ := List.getElem?_eq_some_iff.mp ha
  constructor
  · exact ⟨List.getElem_mem hk, (lt_rank_iff hsorted hk).mpr (Std.le_refl _)⟩
  · intro v hv
    exact (lt_rank_iff hsorted hk).mp hv.2

theorem le_of_index_le {i j : ℕ} (hsorted : l.Pairwise (· ≤ ·)) (hij : i ≤ j)
    (ha : l[i]? = some a) (hb : l[j]? = some b) : a ≤ b := by
  obtain ⟨hi, rfl⟩ := List.getElem?_eq_some_iff.mp ha
  obtain ⟨hmem, hrank⟩ := (isLeast_rank hsorted hb).1
  exact (lt_rank_iff hsorted hi).mp (Nat.lt_of_le_of_lt hij hrank)

theorem isLeast_first (hsorted : l.Pairwise (· ≤ ·)) (ha : l[0]? = some a) :
    IsLeast {v | v ∈ l} a := by
  constructor
  · exact List.mem_of_getElem? ha
  · intro v hv
    obtain ⟨i, hi⟩ := List.mem_iff_getElem?.mp hv
    exact le_of_index_le hsorted (Nat.zero_le i) ha hi

theorem isGreatest_last (hsorted : l.Pairwise (· ≤ ·)) (ha : l[l.length - 1]? = some a) :
    IsGreatest {v | v ∈ l} a := by
  constructor
  · exact List.mem_of_getElem? ha
  · intro v hv
    obtain ⟨i, hi⟩ := List.mem_iff_getElem?.mp hv
    obtain ⟨hlt, -⟩ := List.getElem?_eq_some_iff.mp hi
    exact le_of_index_le hsorted (Nat.le_sub_one_of_lt hlt) hi ha

/-- A sorted copy depends only on how often each element occurs. -/
theorem insertionSort_eq_of_perm {l l' : List α} (h : l.Perm l') :
    l.insertionSort (· ≤ ·) = l'.insertionSort (· ≤ ·) := by
  have hperm : (l.insertionSort (· ≤ ·)).Perm (l'.insertionSort (· ≤ ·)) :=
    ((List.perm_insertionSort _ l).trans h).trans (List.perm_insertionSort _ l').symm
  exact hperm.eq_of_pairwise' (List.pairwise_insertionSort _ l) (List.pairwise_insertionSort _ l')

/-- The index of the nearest rank: a rank exceeds it exactly when it covers `p`
parts in `q` of the elements. -/
theorem nearestRank_lt_iff {p q n c : ℕ} (hq : 0 < q) (hpos : 0 < n * p) :
    n * p ⌈/⌉ q - 1 < c ↔ n * p ≤ q * c := by
  have hceil : ¬n * p ⌈/⌉ q ≤ 0 := by
    rw [ceilDiv_le_iff_le_mul hq, Nat.mul_zero]
    exact Nat.not_le.mpr hpos
  rw [← ceilDiv_le_iff_le_mul hq]
  omega

end Corelib
