import PolytopeOS.Corelib.Unicode

/-!
# Scanning text at byte offsets

A cursor into a text is a byte offset, and the slices at it exist only on
character boundaries. A loop that advances the offset over a class of characters
ends at the first character outside the class.
-/

namespace Corelib

/-- The Unicode property `White_Space`, as `char::is_whitespace` decides it. -/
def isWhitespace (c : Char) : Bool :=
  let n := c.toNat
  (9 ≤ n && n ≤ 13) || n == 0x20 || n == 0x85 || n == 0xa0 || n == 0x1680 ||
    (0x2000 ≤ n && n ≤ 0x200a) || n == 0x2028 || n == 0x2029 || n == 0x202f || n == 0x205f ||
    n == 0x3000

def byteLength (text : List Char) : ℕ := (text.map Char.utf8Size).sum

/-- The slice `&text[offset..]`. -/
def suffixAt : List Char → ℕ → Option (List Char)
  | text, 0 => some text
  | [], _ + 1 => none
  | c :: text, n + 1 => if n + 1 < c.utf8Size then none else suffixAt text (n + 1 - c.utf8Size)

/-- The slice `&text[..offset]`. -/
def prefixAt : List Char → ℕ → Option (List Char)
  | _, 0 => some []
  | [], _ + 1 => none
  | c :: text, n + 1 =>
    if n + 1 < c.utf8Size then none else (prefixAt text (n + 1 - c.utf8Size)).map (c :: ·)

/-- The slice `&text[start..finish]`. -/
def textAt (text : List Char) (start finish : ℕ) : Option (List Char) :=
  if start ≤ finish then (suffixAt text start).bind (prefixAt · (finish - start)) else none

variable {p : Char → Bool} {before text rest : List Char} {c : Char} {offset : ℕ}

@[simp] theorem byteLength_nil : byteLength [] = 0 := rfl

@[simp] theorem byteLength_cons : byteLength (c :: text) = c.utf8Size + byteLength text := by
  simp [byteLength]

@[simp] theorem byteLength_append :
    byteLength (before ++ text) = byteLength before + byteLength text := by
  simp [byteLength]

theorem byteLength_pos (h : text ≠ []) : 0 < byteLength text := by
  cases text with
  | nil => exact absurd rfl h
  | cons c text =>
    rw [byteLength_cons]
    exact Nat.add_pos_left c.utf8Size_pos _

theorem suffixAt_zero (text : List Char) : suffixAt text 0 = some text := by
  cases text <;> rfl

theorem suffixAt_cons_add (n : ℕ) : suffixAt (c :: text) (c.utf8Size + n) = suffixAt text n := by
  obtain ⟨m, hm⟩ := Nat.exists_eq_add_of_lt c.utf8Size_pos
  rw [Nat.zero_add] at hm
  have hadd : c.utf8Size + n = (m + n) + 1 := by omega
  rw [hadd, suffixAt, if_neg (by omega)]
  congr 1
  omega

/-- A slice from the end of a part is what follows the part. -/
theorem suffixAt_append (before rest : List Char) :
    suffixAt (before ++ rest) (byteLength before) = some rest := by
  induction before with
  | nil => exact suffixAt_zero rest
  | cons c before ih => rw [byteLength_cons, List.cons_append, suffixAt_cons_add, ih]

theorem prefixAt_zero (text : List Char) : prefixAt text 0 = some [] := by
  cases text <;> rfl

theorem prefixAt_append (text rest : List Char) :
    prefixAt (text ++ rest) (byteLength text) = some text := by
  induction text with
  | nil => exact prefixAt_zero rest
  | cons c text ih =>
    obtain ⟨m, hm⟩ := Nat.exists_eq_add_of_lt c.utf8Size_pos
    rw [Nat.zero_add] at hm
    have hadd : byteLength (c :: text) = (m + byteLength text) + 1 := by
      rw [byteLength_cons]
      omega
    have hsub : m + byteLength text + 1 - c.utf8Size = byteLength text := by omega
    rw [hadd, List.cons_append, prefixAt, if_neg (by omega), hsub, ih, Option.map_some]

theorem textAt_append (before text rest : List Char) :
    textAt (before ++ (text ++ rest)) (byteLength before) (byteLength before + byteLength text) =
      some text := by
  rw [textAt, if_pos (Nat.le_add_right _ _), suffixAt_append, Option.bind_some,
    Nat.add_sub_cancel_left, prefixAt_append]

/-- A position in a concatenation lies in one of its parts. -/
theorem append_eq_append_cons {α : Type} {x y b a : List α} {c : α} (h : x ++ y = b ++ c :: a) :
    (∃ a', x = b ++ c :: a') ∨ ∃ b', b = x ++ b' ∧ y = b' ++ c :: a := by
  rcases List.append_eq_append_iff.mp h with ⟨b', hb, hy⟩ | ⟨a', hx, hy⟩
  · exact Or.inr ⟨b', hb, hy⟩
  · cases a' with
    | nil => exact Or.inr ⟨[], by simpa using hx.symm, hy.symm⟩
    | cons d a' =>
      rw [List.cons_append, List.cons.injEq] at hy
      exact Or.inl ⟨a', by rw [hx, hy.1]⟩

/-- The character at an offset inside a part belongs to the part. -/
theorem mem_of_offset {after b a : List Char} (h : before ++ (text ++ after) = b ++ c :: a)
    (hstart : byteLength before ≤ byteLength b)
    (hfinish : byteLength b < byteLength before + byteLength text) : c ∈ text := by
  have hc := c.utf8Size_pos
  rcases append_eq_append_cons h with ⟨a', rfl⟩ | ⟨b', rfl, hrest⟩
  · simp only [byteLength_append, byteLength_cons] at hstart
    omega
  rcases append_eq_append_cons hrest with ⟨a', rfl⟩ | ⟨b'', rfl, -⟩
  · simp
  · simp only [byteLength_append] at hfinish
    omega

/-- A prefix of a text is determined by its number of bytes. -/
theorem prefix_inj {before' rest' : List Char} (h : before ++ rest = before' ++ rest')
    (hlen : byteLength before = byteLength before') : before = before' := by
  have hprefix := prefixAt_append before rest
  rw [h, hlen, prefixAt_append] at hprefix
  exact (Option.some.inj hprefix).symm

/-- A text that does not go on with a character of the class. -/
def Stops (p : Char → Bool) (rest : List Char) : Prop := ∀ c ∈ rest.head?, p c = false

theorem stops_nil : Stops p [] := by simp [Stops]

theorem stops_cons : Stops p (c :: rest) ↔ p c = false := by simp [Stops]

/-- The loop that advances an offset over a class of characters, with what is left. -/
def scanWhile (p : Char → Bool) : List Char → ℕ → ℕ × List Char
  | [], offset => (offset, [])
  | c :: rest, offset => if p c then scanWhile p rest (offset + c.utf8Size) else (offset, c :: rest)

theorem scanWhile_of_stops (h : Stops p rest) : scanWhile p rest offset = (offset, rest) := by
  cases rest with
  | nil => rfl
  | cons c rest => simp [scanWhile, stops_cons.mp h]

/-- The loop ends where the class does. -/
theorem scanWhile_append (htext : ∀ c ∈ text, p c) (h : Stops p rest) :
    scanWhile p (text ++ rest) offset = (offset + byteLength text, rest) := by
  induction text generalizing offset with
  | nil => exact scanWhile_of_stops h
  | cons c text ih =>
    obtain ⟨hc, htext⟩ := List.forall_mem_cons.mp htext
    rw [List.cons_append, scanWhile, if_pos hc, ih htext, byteLength_cons, Nat.add_assoc]

/-- Every text is a part of the class and a rest that stops. -/
theorem exists_scan (p : Char → Bool) (text : List Char) :
    ∃ part rest, text = part ++ rest ∧ (∀ c ∈ part, p c) ∧ Stops p rest := by
  refine ⟨text.takeWhile p, text.dropWhile p, List.takeWhile_append_dropWhile.symm, ?_, ?_⟩
  · intro c hc
    exact List.mem_takeWhile_imp hc
  · intro c hc
    have h := List.head?_dropWhile_not p text
    rw [Option.mem_def.mp hc] at h
    simpa using h

end Corelib
