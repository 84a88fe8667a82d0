import Mathlib.Data.List.Induction
import Mathlib.Order.Nat
import Mathlib.Tactic.Common

/-!
# Ranges laid out one after another

A list of half-open ranges is ascending when each one ends before every later
one starts. A loop can check this by remembering only the last range.
-/

namespace Corelib

variable {α : Type}

/-- In an ascending list every range ends by the end of the last one. -/
theorem finish_le_last (start finish : α → ℕ) {xs : List α} {last : α}
    (hle : ∀ x ∈ xs, start x ≤ finish x)
    (hxs : xs.Pairwise (fun x y => finish x ≤ start y)) (hlast : xs.getLast? = some last) :
    ∀ x ∈ xs, finish x ≤ finish last := by
  obtain ⟨init, rfl⟩ := List.getLast?_eq_some_iff.mp hlast
  intro x hx
  rcases List.mem_append.mp hx with hinit | hone
  · have hpair := (List.pairwise_append.mp hxs).2.2 x hinit last (List.mem_singleton_self _)
    exact hpair.trans (hle last (by simp))
  · rw [List.mem_singleton.mp hone]

/-- Appending a range keeps the list ascending iff it starts after the last one. -/
theorem pairwise_concat_iff_last (start finish : α → ℕ) {xs : List α} {a : α}
    (hle : ∀ x ∈ xs, start x ≤ finish x)
    (hxs : xs.Pairwise (fun x y => finish x ≤ start y)) :
    (xs ++ [a]).Pairwise (fun x y => finish x ≤ start y) ↔
      ∀ last, xs.getLast? = some last → finish last ≤ start a := by
  rw [List.pairwise_append]
  constructor
  · rintro ⟨-, -, hall⟩ last hlast
    exact hall last (List.mem_of_getLast? hlast) a (List.mem_singleton_self _)
  · intro h
    refine ⟨hxs, List.pairwise_singleton _ _, ?_⟩
    intro x hx y hy
    rw [List.mem_singleton.mp hy]
    cases hlast : xs.getLast? with
    | none =>
      rw [List.getLast?_eq_none_iff] at hlast
      simp [hlast] at hx
    | some last => exact (finish_le_last start finish hle hxs hlast x hx).trans (h last hlast)

end Corelib
