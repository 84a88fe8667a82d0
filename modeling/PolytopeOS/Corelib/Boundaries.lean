import PolytopeOS.Corelib.Exec
import PolytopeOS.Corelib.Scan

/-!
# Character boundaries

The slices of a text exist exactly on its character boundaries. A loop that
slices the text anew in every round, to look at the next character, stays on
them and does what a scan of the characters does.
-/

namespace Corelib

variable {p : Char → Bool} {text rest : List Char} {c : Char} {offset : ℕ}

/-- `str::is_char_boundary`: the index of a character's first byte, or the end. -/
def IsCharBoundary (text : List Char) (index : ℕ) : Prop :=
  index = (utf8 text).length ∨ ∃ byte ∈ (utf8 text)[index]?, byte.IsUTF8FirstByte

theorem utf8_cons (c : Char) (text : List Char) :
    utf8 (c :: text) = String.utf8EncodeChar c ++ utf8 text :=
  List.flatMap_cons

theorem length_utf8 (text : List Char) : (utf8 text).length = byteLength text := by
  induction text with
  | nil => rfl
  | cons c text ih =>
    rw [utf8_cons, List.length_append, String.length_utf8EncodeChar, ih, byteLength_cons]

theorem isCharBoundary_zero (text : List Char) : IsCharBoundary text 0 := by
  cases text with
  | nil => exact Or.inl rfl
  | cons c text =>
    have hpos : 0 < (String.utf8EncodeChar c).length := by
      rw [String.length_utf8EncodeChar]
      exact c.utf8Size_pos
    refine Or.inr ⟨(String.utf8EncodeChar c)[0], ?_, ?_⟩
    · rw [utf8_cons, List.getElem?_append_left hpos]
      exact List.getElem?_eq_getElem hpos
    · exact UInt8.isUTF8FirstByte_getElem_utf8EncodeChar.mpr rfl

/-- No byte inside a character starts one. -/
theorem not_isCharBoundary_cons (hpos : 0 < offset) (h : offset < c.utf8Size) :
    ¬IsCharBoundary (c :: text) offset := by
  have hlt : offset < (String.utf8EncodeChar c).length := by rwa [String.length_utf8EncodeChar]
  rintro (hend | ⟨byte, hbyte, hfirst⟩)
  · rw [length_utf8, byteLength_cons] at hend
    omega
  · rw [utf8_cons, List.getElem?_append_left hlt, List.getElem?_eq_getElem hlt,
      Option.mem_some] at hbyte
    subst hbyte
    have hzero := UInt8.isUTF8FirstByte_getElem_utf8EncodeChar.mp hfirst
    omega

theorem isCharBoundary_cons_add {n : ℕ} :
    IsCharBoundary (c :: text) (c.utf8Size + n) ↔ IsCharBoundary text n := by
  rw [IsCharBoundary, IsCharBoundary, length_utf8, length_utf8, byteLength_cons, utf8_cons,
    ← String.length_utf8EncodeChar, List.getElem?_append_right (Nat.le_add_right _ _),
    Nat.add_sub_cancel_left, Nat.add_right_inj]

theorem suffixAt_cons_of_lt (hpos : 0 < offset) (h : offset < c.utf8Size) :
    suffixAt (c :: text) offset = none := by
  obtain ⟨n, rfl⟩ := Nat.exists_eq_succ_of_ne_zero hpos.ne'
  rw [suffixAt, if_pos h]

/-- An offset into a text is its start, inside its first character or past it. -/
theorem offset_cases (c : Char) (offset : ℕ) :
    offset = 0 ∨ (0 < offset ∧ offset < c.utf8Size) ∨ ∃ n, offset = c.utf8Size + n := by
  by_cases hlt : offset < c.utf8Size
  · rcases Nat.eq_zero_or_pos offset with hzero | hpos
    · exact Or.inl hzero
    · exact Or.inr (Or.inl ⟨hpos, hlt⟩)
  · exact Or.inr (Or.inr (Nat.exists_eq_add_of_le (Nat.le_of_not_lt hlt)))

/-- A slice exists exactly on the boundaries. -/
theorem exists_suffixAt_iff :
    (∃ rest, suffixAt text offset = some rest) ↔ IsCharBoundary text offset := by
  induction text generalizing offset with
  | nil =>
    cases offset with
    | zero => exact iff_of_true ⟨[], rfl⟩ (Or.inl rfl)
    | succ n => simp [suffixAt, IsCharBoundary, utf8]
  | cons c text ih =>
    rcases offset_cases c offset with rfl | ⟨hpos, hlt⟩ | ⟨n, rfl⟩
    · exact iff_of_true ⟨_, suffixAt_zero _⟩ (isCharBoundary_zero _)
    · refine iff_of_false ?_ (not_isCharBoundary_cons hpos hlt)
      simp [suffixAt_cons_of_lt hpos hlt]
    · rw [suffixAt_cons_add, isCharBoundary_cons_add, ih]

theorem suffixAt_eq_some : suffixAt text offset = some rest ↔
    ∃ before, text = before ++ rest ∧ offset = byteLength before := by
  constructor
  · intro h
    induction text generalizing offset with
    | nil =>
      cases offset with
      | zero => exact ⟨[], Option.some.inj h, rfl⟩
      | succ n => simp [suffixAt] at h
    | cons c text ih =>
      rcases offset_cases c offset with rfl | ⟨hpos, hlt⟩ | ⟨n, rfl⟩
      · exact ⟨[], Option.some.inj h, rfl⟩
      · simp [suffixAt_cons_of_lt hpos hlt] at h
      · rw [suffixAt_cons_add] at h
        obtain ⟨before, rfl, rfl⟩ := ih h
        exact ⟨c :: before, rfl, byteLength_cons.symm⟩
  · rintro ⟨before, rfl, rfl⟩
    exact suffixAt_append before rest

/-- The slice one character further. -/
theorem suffixAt_step (h : suffixAt text offset = some (c :: rest)) :
    suffixAt text (offset + c.utf8Size) = some rest := by
  obtain ⟨before, rfl, rfl⟩ := suffixAt_eq_some.mp h
  exact suffixAt_eq_some.mpr ⟨before ++ [c], by simp, by simp⟩

theorem lt_of_suffixAt (h : suffixAt text offset = some (c :: rest)) :
    offset < byteLength text := by
  obtain ⟨before, rfl, rfl⟩ := suffixAt_eq_some.mp h
  rw [byteLength_append]
  exact Nat.lt_add_of_pos_right (byteLength_pos (List.cons_ne_nil c rest))

/-- `text[offset..].chars().next()`; a slice off the boundaries panics. -/
def charAt {ε : Type} (text : List Char) (offset : ℕ) : Exec ε (Option Char) := do
  let rest ← Exec.unwrap (suffixAt text offset)
  return rest.head?

theorem charAt_of_suffixAt {ε : Type} (h : suffixAt text offset = some rest) :
    charAt text offset = (.ok rest.head? : Exec ε _) := by
  rw [charAt, h]
  rfl

/-- The loop that advances an offset over a class of characters, with a slice of
the whole text in every round. -/
def skipWhile {ε : Type} (p : Char → Bool) (text : List Char) (offset : ℕ) : Exec ε ℕ :=
  match _hslice : suffixAt text offset with
  | none => .panic
  | some [] => .ok offset
  | some (c :: _) => if p c then skipWhile p text (offset + c.utf8Size) else .ok offset
termination_by byteLength text - offset
decreasing_by
  have hlt := lt_of_suffixAt _hslice
  have hpos := c.utf8Size_pos
  omega

theorem skipWhile_of_none {ε : Type} (h : suffixAt text offset = none) :
    skipWhile p text offset = (.panic : Exec ε ℕ) := by
  rw [skipWhile]
  split <;> simp_all

theorem skipWhile_of_nil {ε : Type} (h : suffixAt text offset = some []) :
    skipWhile p text offset = (.ok offset : Exec ε ℕ) := by
  rw [skipWhile]
  split <;> simp_all

theorem skipWhile_of_cons {ε : Type} (h : suffixAt text offset = some (c :: rest)) :
    skipWhile p text offset =
      (if p c then skipWhile p text (offset + c.utf8Size) else .ok offset : Exec ε ℕ) := by
  rw [skipWhile]
  split <;> simp_all

/-- The loop over slices ends where the scan of the characters ends. -/
theorem skipWhile_eq {ε : Type} (h : suffixAt text offset = some rest) :
    skipWhile p text offset = (.ok (scanWhile p rest offset).1 : Exec ε ℕ) := by
  induction rest generalizing offset with
  | nil => exact skipWhile_of_nil h
  | cons c rest ih =>
    rw [skipWhile_of_cons h, scanWhile]
    split
    · exact ih (suffixAt_step h)
    · rfl

/-- What a scan leaves is the slice at the offset it ends at. -/
theorem suffixAt_scanWhile (h : suffixAt text offset = some rest) :
    suffixAt text (scanWhile p rest offset).1 = some (scanWhile p rest offset).2 := by
  induction rest generalizing offset with
  | nil => exact h
  | cons c rest ih =>
    rw [scanWhile]
    split
    · exact ih (suffixAt_step h)
    · exact h

end Corelib
