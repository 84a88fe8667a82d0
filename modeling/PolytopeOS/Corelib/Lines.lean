import Mathlib.Data.List.Induction

/-!
# Cutting a stream at its terminators

`cut sep xs` is the list of the terminated lines of `xs` and the unterminated
rest, computed one element at a time: what a reader knows after each prefix.
-/

namespace Corelib

variable {α : Type} [DecidableEq α]

def cutStep (sep : α) (cut : List (List α) × List α) (a : α) : List (List α) × List α :=
  if a = sep then (cut.1 ++ [cut.2], []) else (cut.1, cut.2 ++ [a])

/-- The terminated lines of a stream, without their terminators, and the rest. -/
def cut (sep : α) (xs : List α) : List (List α) × List α := xs.foldl (cutStep sep) ([], [])

theorem cut_concat (sep : α) (xs : List α) (a : α) :
    cut sep (xs ++ [a]) = cutStep sep (cut sep xs) a := by
  rw [cut, List.foldl_append]
  rfl

theorem cut_concat_sep (sep : α) (xs : List α) :
    cut sep (xs ++ [sep]) = ((cut sep xs).1 ++ [(cut sep xs).2], []) := by
  rw [cut_concat, cutStep, if_pos rfl]

theorem cut_concat_of_ne {sep a : α} (xs : List α) (h : a ≠ sep) :
    cut sep (xs ++ [a]) = ((cut sep xs).1, (cut sep xs).2 ++ [a]) := by
  rw [cut_concat, cutStep, if_neg h]

/-- Terminating every line and appending the rest gives the stream back. -/
theorem join_cut (sep : α) (xs : List α) :
    ((cut sep xs).1.flatMap fun line => line ++ [sep]) ++ (cut sep xs).2 = xs := by
  induction xs using List.reverseRecOn with
  | nil => rfl
  | append_singleton xs a ih =>
    by_cases ha : a = sep
    · subst ha
      rw [cut_concat_sep, List.flatMap_append, List.flatMap_singleton, List.append_nil,
        ← List.append_assoc, ih]
    · rw [cut_concat_of_ne xs ha, ← List.append_assoc, ih]

theorem infix_of_mem_cut {sep : α} {xs line : List α} (h : line ∈ (cut sep xs).1) :
    line <:+: xs := by
  obtain ⟨before, after, hsplit⟩ := List.append_of_mem h
  have hjoin := join_cut sep xs
  rw [hsplit, List.flatMap_append, List.flatMap_cons] at hjoin
  refine ⟨before.flatMap fun line => line ++ [sep],
    sep :: (after.flatMap fun line => line ++ [sep]) ++ (cut sep xs).2, Eq.trans ?_ hjoin⟩
  simp only [List.append_assoc, List.cons_append, List.nil_append]

/-- No line is terminated exactly when the terminator does not occur. -/
theorem cut_fst_eq_nil {sep : α} {xs : List α} : (cut sep xs).1 = [] ↔ sep ∉ xs := by
  induction xs using List.reverseRecOn with
  | nil => exact iff_of_true rfl List.not_mem_nil
  | append_singleton xs a ih =>
    by_cases ha : a = sep
    · subst ha
      simp [cut_concat_sep]
    · simp [cut_concat_of_ne xs ha, ih, Ne.symm ha]

theorem foldl_cutStep_of_not_mem {sep : α} {xs : List α} (h : sep ∉ xs) (lines : List (List α))
    (rest : List α) : xs.foldl (cutStep sep) (lines, rest) = (lines, rest ++ xs) := by
  induction xs generalizing rest with
  | nil => rw [List.foldl_nil, List.append_nil]
  | cons x xs ih =>
    rw [List.mem_cons, not_or] at h
    rw [List.foldl_cons, cutStep, if_neg (Ne.symm h.1), ih h.2, List.append_assoc]
    rfl

theorem foldl_cutStep_append (sep : α) (xs : List α) (lines lines' : List (List α))
    (rest : List α) :
    xs.foldl (cutStep sep) (lines ++ lines', rest) =
      (lines ++ (xs.foldl (cutStep sep) (lines', rest)).1,
        (xs.foldl (cutStep sep) (lines', rest)).2) := by
  induction xs generalizing lines' rest with
  | nil => rfl
  | cons x xs ih =>
    rw [List.foldl_cons, List.foldl_cons, cutStep, cutStep]
    by_cases hx : x = sep
    · rw [if_pos hx, if_pos hx, List.append_assoc, ih]
    · rw [if_neg hx, if_neg hx, ih]

/-- A stream that begins with a terminated line. -/
theorem cut_line_append {sep : α} {line : List α} (h : sep ∉ line) (xs : List α) :
    cut sep (line ++ [sep] ++ xs) = (line :: (cut sep xs).1, (cut sep xs).2) := by
  rw [cut, List.foldl_append, List.foldl_append, foldl_cutStep_of_not_mem h, List.nil_append,
    List.foldl_cons, List.foldl_nil, cutStep, if_pos rfl]
  exact foldl_cutStep_append sep xs [line] [] []

theorem cut_of_not_mem {sep : α} {xs : List α} (h : sep ∉ xs) : cut sep xs = ([], xs) :=
  foldl_cutStep_of_not_mem h [] []

/-- A stream is unterminated or begins with a terminated line. -/
theorem lineInduction (sep : α) {motive : List α → Prop} (rest : ∀ xs, sep ∉ xs → motive xs)
    (line : ∀ line xs, sep ∉ line → motive xs → motive (line ++ [sep] ++ xs)) (xs : List α) :
    motive xs := by
  by_cases h : sep ∈ xs
  · obtain ⟨first, after, hxs, hfirst⟩ := List.eq_append_cons_of_mem h
    have hafter : motive after := lineInduction sep rest line after
    rw [hxs, ← List.singleton_append, ← List.append_assoc]
    exact line first after hfirst hafter
  · exact rest xs h
termination_by xs.length
decreasing_by
  rw [hxs, List.length_append, List.length_cons]
  omega

end Corelib
