import Mathlib.Data.List.Basic

/-!
# Fields between separators

A text of fields between single separators, in which a doubled separator stands
for one of the field's own. A field that was written with its separators doubled
is read back as it was, whatever it holds.
-/

namespace Corelib

variable {α : Type} [DecidableEq α]

def doubled (sep : α) (field : List α) : List α :=
  field.flatMap fun a => if a = sep then [sep, sep] else [a]

/-- The fields of a text. -/
def fields (sep : α) : List α → List (List α)
  | [] => [[]]
  | [a] => if a = sep then [[], []] else [[a]]
  | a :: b :: rest =>
    if a = sep then
      if b = sep then (fields sep rest).modifyHead (sep :: ·) else [] :: fields sep (b :: rest)
    else (fields sep (b :: rest)).modifyHead (a :: ·)

variable {sep a : α} {xs ys : List α}

theorem doubled_of_not_mem (h : sep ∉ xs) : doubled sep xs = xs := by
  induction xs with
  | nil => rfl
  | cons a xs ih =>
    rw [List.mem_cons, not_or] at h
    rw [doubled, List.flatMap_cons, if_neg (Ne.symm h.1)]
    exact congrArg (a :: ·) (ih h.2)

theorem fields_cons (h : a ≠ sep) : fields sep (a :: xs) = (fields sep xs).modifyHead (a :: ·) := by
  cases xs with
  | nil => simp [fields, h]
  | cons b xs => rw [fields, if_neg h]

/-- A single separator ends the field before it. -/
theorem fields_separator (h : xs.head? ≠ some sep) :
    fields sep (sep :: xs) = [] :: fields sep xs := by
  cases xs with
  | nil => simp [fields]
  | cons b xs => rw [fields, if_pos rfl, if_neg fun hb => h (congrArg some hb)]

theorem fields_append (h : sep ∉ xs) :
    fields sep (xs ++ ys) = (fields sep ys).modifyHead (xs ++ ·) := by
  induction xs with
  | nil => cases hys : fields sep ys <;> simp [hys]
  | cons a xs ih =>
    rw [List.mem_cons, not_or] at h
    rw [List.cons_append, fields_cons (Ne.symm h.1), ih h.2, List.modifyHead_modifyHead]
    rfl

theorem fields_doubled (field : List α) : fields sep (doubled sep field) = [field] := by
  induction field with
  | nil => rfl
  | cons a field ih =>
    rw [doubled, List.flatMap_cons]
    by_cases ha : a = sep
    · rw [if_pos ha, List.cons_append, List.cons_append, fields, if_pos rfl, if_pos rfl]
      change (fields sep (doubled sep field)).modifyHead (sep :: ·) = _
      rw [ih, ha]
      rfl
    · rw [if_neg ha, List.cons_append, fields_cons ha]
      change (fields sep (doubled sep field)).modifyHead (a :: ·) = _
      rw [ih]
      rfl

/-- Plain fields, and a last one whose end was written with doubled separators. -/
theorem fields_flatMap_doubled {plain : List (List α)} {beginning : List α}
    (hplain : ∀ field ∈ plain, field ≠ [] ∧ sep ∉ field)
    (hbeginning : beginning ≠ [] ∧ sep ∉ beginning) (rest : List α) :
    fields sep (plain.flatMap (· ++ [sep]) ++ (beginning ++ doubled sep rest)) =
      plain ++ [beginning ++ rest] := by
  have hhead {field more : List α} (h : field ≠ [] ∧ sep ∉ field) :
      (field ++ more).head? ≠ some sep := by
    cases field with
    | nil => exact absurd rfl h.1
    | cons a field => exact fun ha => h.2 (Option.some.inj ha ▸ List.mem_cons_self)
  induction plain with
  | nil =>
    rw [List.flatMap_nil, List.nil_append, List.nil_append, fields_append hbeginning.2,
      fields_doubled]
    rfl
  | cons field plain ih =>
    rw [List.forall_mem_cons] at hplain
    have hnext : (plain.flatMap (· ++ [sep]) ++ (beginning ++ doubled sep rest)).head? ≠
        some sep := by
      cases plain with
      | nil =>
        rw [List.flatMap_nil, List.nil_append]
        exact hhead hbeginning
      | cons next plain =>
        rw [List.flatMap_cons, List.append_assoc, List.append_assoc]
        exact hhead (hplain.2 next List.mem_cons_self)
    rw [List.flatMap_cons, List.append_assoc, List.append_assoc, fields_append hplain.1.2,
      List.singleton_append, fields_separator hnext, ih hplain.2, List.modifyHead_cons,
      List.append_nil]
    rfl

end Corelib
