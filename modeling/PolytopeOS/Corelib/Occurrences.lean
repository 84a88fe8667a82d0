import Mathlib.Algebra.BigOperators.Group.List.Basic
import PolytopeOS.Corelib.Text

/-!
# Occurrences of a text

`windows n xs` are the stretches of `n` elements of a list. A text occurs in a
list as often as it is one of the windows of its length. In a list of parts that
a separator keeps apart, a text without the separator occurs in the parts alone.
-/

namespace Corelib

variable {α : Type}

/-- The stretches of `n` elements, in order, as `slice::windows` gives them. -/
def windows (n : ℕ) (xs : List α) : List (List α) :=
  (List.range (xs.length + 1 - n)).map fun i => (xs.drop i).take n

theorem windows_of_lt {n : ℕ} {xs : List α} (h : xs.length < n) : windows n xs = [] := by
  rw [windows, Nat.sub_eq_zero_of_le (by omega), List.range_zero, List.map_nil]

theorem windows_cons {n : ℕ} {x : α} {xs : List α} (h : n ≤ xs.length + 1) :
    windows n (x :: xs) = (x :: xs).take n :: windows n xs := by
  have hcount : (x :: xs).length + 1 - n = (xs.length + 1 - n) + 1 := by
    rw [List.length_cons]
    omega
  rw [windows, hcount, List.range_succ_eq_map, List.map_cons, List.map_map, List.drop_zero]
  rfl

variable [DecidableEq α]

/-- How often a text occurs in a list, overlaps included. -/
def occurrences (needle : List α) : List α → ℕ
  | [] => 0
  | x :: xs => (if needle <+: x :: xs then 1 else 0) + occurrences needle xs

@[simp] theorem occurrences_nil (needle : List α) : occurrences needle [] = 0 := rfl

theorem occurrences_cons (needle : List α) (x : α) (xs : List α) :
    occurrences needle (x :: xs) =
      (if needle <+: x :: xs then 1 else 0) + occurrences needle xs := rfl

theorem count_windows {needle : List α} (hne : needle ≠ []) (xs : List α) :
    (windows needle.length xs).count needle = occurrences needle xs := by
  have hpos := List.length_pos_iff.mpr hne
  induction xs with
  | nil => rw [windows_of_lt hpos]; rfl
  | cons x xs ih =>
    by_cases hlength : needle.length ≤ xs.length + 1
    · have hwindow : ((x :: xs).take needle.length == needle) = true ↔ needle <+: x :: xs := by
        rw [beq_iff_eq, List.prefix_iff_eq_take, eq_comm]
      rw [windows_cons hlength, List.count_cons, ih, occurrences_cons, Nat.add_comm]
      simp only [hwindow]
    · have hnot : ¬needle <+: x :: xs := fun h => hlength h.length_le
      have hcons : (x :: xs).length < needle.length := by
        rw [List.length_cons]
        omega
      rw [occurrences_cons, if_neg hnot, ← ih, windows_of_lt hcons, windows_of_lt (by omega),
        List.count_nil]

theorem occurrences_eq_zero {needle : List α} (hne : needle ≠ []) {xs : List α} :
    occurrences needle xs = 0 ↔ ¬needle <:+: xs := by
  induction xs with
  | nil => simpa [occurrences] using hne
  | cons x xs ih =>
    rw [occurrences_cons, Nat.add_eq_zero_iff, ih, List.infix_cons_iff, not_or]
    simp

theorem occurrences_append_cons {needle : List α} (hne : needle ≠ []) {a : α} (ha : a ∉ needle)
    (xs ys : List α) :
    occurrences needle (xs ++ a :: ys) = occurrences needle xs + occurrences needle ys := by
  induction xs with
  | nil =>
    have hnot : ¬needle <+: a :: ys := by
      rw [← List.nil_append (a :: ys), prefix_append_cons_iff ha, List.prefix_nil]
      exact hne
    rw [List.nil_append, occurrences_cons, if_neg hnot, occurrences_nil]
  | cons x xs ih =>
    rw [List.cons_append, occurrences_cons, ih, occurrences_cons, ← List.cons_append]
    simp only [prefix_append_cons_iff ha, Nat.add_assoc]

theorem occurrences_intercalate {needle : List α} (hne : needle ≠ []) {a : α} (ha : a ∉ needle)
    (parts : List (List α)) :
    occurrences needle ([a].intercalate parts) = (parts.map (occurrences needle)).sum := by
  induction parts with
  | nil => rfl
  | cons part parts ih =>
    cases parts with
    | nil => simp
    | cons next parts =>
      rw [List.intercalate_cons_cons, List.append_assoc, List.singleton_append,
        occurrences_append_cons hne ha, ih, List.map_cons (a := part), List.sum_cons]

end Corelib
