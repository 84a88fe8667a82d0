import PolytopeOS.Corelib.Scan
import PolytopeOS.Corelib.Word

/-!
# The bootstrap lexer

An iterator over tokens and lexical errors, driven by a byte offset into the
source. `Lexeme` says what one call of `next` consumes and returns, and `Lexed`
what a run to exhaustion returns; every source has such a run.
-/

namespace PolytopeOS.Compiler
open Corelib

/-- A byte range, half open. -/
structure Span where
  start : ℕ
  finish : ℕ
  deriving DecidableEq, Repr

inductive TokenKind where
  | function
  | identifier (text : List Char)
  | integer (value : UInt64)
  | leftParen
  | rightParen
  | leftBrace
  | rightBrace
  deriving DecidableEq, Repr

structure Token where
  kind : TokenKind
  span : Span
  deriving DecidableEq, Repr

structure LexError where
  character : Char
  offset : ℕ
  deriving DecidableEq, Repr

abbrev Item := Except LexError Token

structure Lexer where
  source : List Char
  offset : ℕ
  deriving DecidableEq, Repr

def Lexer.new (source : List Char) : Lexer := ⟨source, 0⟩

def punctuation : Char → Option TokenKind
  | '(' => some .leftParen
  | ')' => some .rightParen
  | '{' => some .leftBrace
  | '}' => some .rightBrace
  | _ => none

def isWordStart (c : Char) : Bool := c.isAlpha || c == '_'

def isWordChar (c : Char) : Bool := c.isAlphanum || c == '_'

/-- `to_digit(10)`, as a `u64`. -/
def toDigit (c : Char) : Option UInt64 :=
  if c.isDigit then some (UInt64.ofNat (c.toNat - '0'.toNat)) else none

/-- The loop of the integer branch, with the offset at which it ends. -/
def scanInteger : List Char → ℕ → UInt64 → Except LexError UInt64 × ℕ
  | [], offset, value => (.ok value, offset)
  | next :: rest, offset, value =>
    match toDigit next with
    | none => (.ok value, offset)
    | some digit =>
      match (checkedMul value 10).bind (checkedAdd · digit) with
      | none => (.error ⟨next, offset⟩, offset)
      | some updated => scanInteger rest (offset + next.utf8Size) updated

def wordKind (text : List Char) : TokenKind :=
  if text = "fn".toList then .function else .identifier text

def Lexer.next {ε : Type} (lexer : Lexer) : Exec ε (Option Item × Lexer) := do
  let rest ← Exec.unwrap (suffixAt lexer.source lexer.offset)
  let (start, rest) := scanWhile isWhitespace rest lexer.offset
  match rest with
  | [] => return (none, { lexer with offset := start })
  | character :: rest =>
    match punctuation character with
    | some kind =>
      return (some (.ok ⟨kind, ⟨start, start + 1⟩⟩), { lexer with offset := start + 1 })
    | none =>
      if isWordStart character then
        let (finish, _) := scanWhile isWordChar rest (start + character.utf8Size)
        let text ← Exec.unwrap (textAt lexer.source start finish)
        return (some (.ok ⟨wordKind text, ⟨start, finish⟩⟩), { lexer with offset := finish })
      else if character.isDigit then
        -- an overflow leaves the offset at the digit that does not fit
        let (value, finish) := scanInteger (character :: rest) start 0
        return (some (value.map fun v => ⟨.integer v, ⟨start, finish⟩⟩),
          { lexer with offset := finish })
      else
        return (some (.error ⟨character, start⟩),
          { lexer with offset := start + character.utf8Size })

/-- Run the iterator until it returns `None`; the error is a lack of fuel. -/
def Lexer.collect : ℕ → Lexer → Exec Unit (List Item)
  | 0, _ => .err ()
  | fuel + 1, lexer => do
    match ← lexer.next with
    | (none, _) => return []
    | (some item, lexer) => return item :: (← collect fuel lexer)

/-- The number a text of ASCII digits denotes. -/
def decimalValue (digits : List Char) : ℕ := Nat.ofDigitChars 10 digits 0

/-- What a call of `next` consumes once the whitespace is skipped, with the text
after it, the offset of its start and the item it returns. -/
inductive Lexeme (start : ℕ) : List Char → List Char → Item → Prop
  | bracket {c : Char} {kind : TokenKind} {after : List Char} (hkind : punctuation c = some kind) :
      Lexeme start [c] after (.ok ⟨kind, ⟨start, start + 1⟩⟩)
  | word {c : Char} {text after : List Char} (hc : isWordStart c)
      (htext : ∀ d ∈ text, isWordChar d) (hafter : Stops isWordChar after) :
      Lexeme start (c :: text) after
        (.ok ⟨wordKind (c :: text), ⟨start, start + byteLength (c :: text)⟩⟩)
  | integer {digits after : List Char} (hne : digits ≠ []) (hdigits : ∀ d ∈ digits, d.isDigit)
      (hafter : Stops Char.isDigit after) (hfits : decimalValue digits < 2 ^ 64) :
      Lexeme start digits after
        (.ok ⟨.integer (UInt64.ofNat (decimalValue digits)),
          ⟨start, start + byteLength digits⟩⟩)
  | overflow {digits after : List Char} {d : Char} (hne : digits ≠ [])
      (hdigits : ∀ d ∈ digits, d.isDigit) (hd : d.isDigit)
      (hfits : decimalValue digits < 2 ^ 64) (hover : 2 ^ 64 ≤ decimalValue (digits ++ [d])) :
      Lexeme start digits (d :: after) (.error ⟨d, start + byteLength digits⟩)
  | unexpected {c : Char} {after : List Char} (hspace : isWhitespace c = false)
      (hkind : punctuation c = none) (hword : isWordStart c = false) (hdigit : c.isDigit = false) :
      Lexeme start [c] after (.error ⟨c, start⟩)

/-- A run to exhaustion over `rest`, after `before`, and the items it returns. -/
inductive Lexed : List Char → List Char → List Item → Prop
  | done {before gap : List Char} (hgap : ∀ c ∈ gap, isWhitespace c) : Lexed before gap []
  | cons {before gap text after : List Char} {item : Item} {items : List Item}
      (hgap : ∀ c ∈ gap, isWhitespace c)
      (hitem : Lexeme (byteLength (before ++ gap)) text after item)
      (hrest : Lexed (before ++ gap ++ text) after items) :
      Lexed before (gap ++ (text ++ after)) (item :: items)

variable {c : Char} {kind : TokenKind}

theorem isDigit_iff : c.isDigit = true ↔ 48 ≤ c.toNat ∧ c.toNat ≤ 57 := by
  simp only [Char.isDigit, Bool.and_eq_true, decide_eq_true_eq, ge_iff_le, UInt32.le_iff_toNat_le]
  exact Iff.rfl

theorem isAlpha_iff : c.isAlpha = true ↔
    (65 ≤ c.toNat ∧ c.toNat ≤ 90) ∨ (97 ≤ c.toNat ∧ c.toNat ≤ 122) := by
  have hranges : c.isAlpha = (decide (65 ≤ c.val ∧ c.val ≤ 90) ||
      decide (97 ≤ c.val) && decide (c.val ≤ 122)) := rfl
  simp only [hranges, Bool.or_eq_true, Bool.and_eq_true, decide_eq_true_eq,
    UInt32.le_iff_toNat_le]
  exact Iff.rfl

theorem isWordStart_iff : isWordStart c = true ↔
    (65 ≤ c.toNat ∧ c.toNat ≤ 90) ∨ (97 ≤ c.toNat ∧ c.toNat ≤ 122) ∨ c.toNat = 95 := by
  have hunderscore : c = '_' ↔ c.toNat = 95 := by
    rw [← Char.toNat_inj]
    rfl
  simp only [isWordStart, Bool.or_eq_true, isAlpha_iff, beq_iff_eq, hunderscore, or_assoc]

theorem isWordChar_iff : isWordChar c = true ↔ isWordStart c = true ∨ c.isDigit = true := by
  simp only [isWordChar, isWordStart, Char.isAlphanum, Bool.or_eq_true]
  tauto

theorem isWhitespace_eq_false_of_range (h : 33 ≤ c.toNat ∧ c.toNat ≤ 126) :
    isWhitespace c = false := by
  simp only [isWhitespace, Bool.or_eq_false_iff, Bool.and_eq_false_iff, decide_eq_false_iff_not,
    beq_eq_false_iff_ne]
  omega

/-- The four classes of a lexeme's first character exclude each other. -/
theorem classes_of_punctuation (h : punctuation c = some kind) :
    isWhitespace c = false ∧ isWordStart c = false ∧ c.isDigit = false ∧ c.utf8Size = 1 := by
  unfold punctuation at h
  split at h <;> first | decide | simp at h

theorem classes_of_wordStart (h : isWordStart c) :
    isWhitespace c = false ∧ punctuation c = none ∧ c.isDigit = false := by
  have hrange := isWordStart_iff.mp h
  refine ⟨isWhitespace_eq_false_of_range (by omega), ?_, ?_⟩
  · cases hkind : punctuation c with
    | none => rfl
    | some kind => exact absurd h (by simp [(classes_of_punctuation hkind).2.1])
  · rw [Bool.eq_false_iff, Ne, isDigit_iff]
    omega

theorem classes_of_digit (h : c.isDigit) :
    isWhitespace c = false ∧ punctuation c = none ∧ isWordStart c = false ∧ c.utf8Size = 1 := by
  have hrange := isDigit_iff.mp h
  refine ⟨isWhitespace_eq_false_of_range (by omega), ?_, ?_, ?_⟩
  · cases hkind : punctuation c with
    | none => rfl
    | some kind => exact absurd h (by simp [(classes_of_punctuation hkind).2.2.1])
  · rw [Bool.eq_false_iff, Ne, isWordStart_iff]
    omega
  · rw [Char.utf8Size_eq_one_iff, UInt32.le_iff_toNat_le]
    exact hrange.2.trans (by decide)

theorem isWordChar_eq_false {c : Char} (hword : isWordStart c = false)
    (hdigit : c.isDigit = false) : isWordChar c = false := by
  rw [Bool.eq_false_iff, Ne, isWordChar_iff]
  simp [hword, hdigit]

theorem isWordChar_of_isWhitespace {c : Char} (h : isWhitespace c) : isWordChar c = false := by
  apply isWordChar_eq_false
  · by_contra hword
    exact absurd h (by simp [(classes_of_wordStart (Bool.eq_true_of_not_eq_false hword)).1])
  · by_contra hdigit
    exact absurd h (by simp [(classes_of_digit (Bool.eq_true_of_not_eq_false hdigit)).1])

theorem stops_isDigit_of_isWordChar {after : List Char} (h : Stops isWordChar after) :
    Stops Char.isDigit after := by
  intro c hc
  by_contra hdigit
  have hchar := isWordChar_iff.mpr (Or.inr (Bool.eq_true_of_not_eq_false hdigit))
  exact absurd (h c hc) (by simp [hchar])

theorem le_ofDigitChars (digits : List Char) (v : ℕ) : v ≤ Nat.ofDigitChars 10 digits v := by
  rw [Nat.ofDigitChars_eq_ofDigitChars_zero]
  have hpow : 1 ≤ 10 ^ digits.length := Nat.one_le_pow _ _ (by decide)
  exact (Nat.le_mul_of_pos_left v hpow).trans (Nat.le_add_right _ _)

/-- One round of the accumulator. -/
theorem checked_digit {v d : ℕ} (hv : v < 2 ^ 64) (hd : d < 10) :
    (checkedMul (UInt64.ofNat v) 10).bind (checkedAdd · (UInt64.ofNat d)) =
      if 10 * v + d < 2 ^ 64 then some (UInt64.ofNat (10 * v + d)) else none := by
  have htoNat : ∀ n, n < 2 ^ 64 → (UInt64.ofNat n).toNat = n :=
    fun n hn => UInt64.toNat_ofNat_of_lt' hn
  have hten : (10 : UInt64).toNat = 10 := rfl
  by_cases hmul : v * 10 < 2 ^ 64
  · have hproduct : checkedMul (UInt64.ofNat v) 10 = some (UInt64.ofNat (v * 10)) := by
      rw [checkedMul_eq_some, htoNat _ hmul, htoNat _ hv, hten]
    rw [hproduct, Option.bind_some]
    split
    · next hsum =>
      rw [checkedAdd_eq_some, htoNat _ hsum, htoNat _ hmul, htoNat _ (by omega)]
      omega
    · next hsum => rw [checkedAdd, htoNat _ hmul, htoNat _ (by omega), if_neg (by omega)]
  · have hproduct : checkedMul (UInt64.ofNat v) 10 = none := by
      rw [checkedMul_eq_none, htoNat _ hv, hten]
      omega
    rw [hproduct, Option.bind_none, if_neg (by omega)]

theorem scanInteger_of_stops {rest : List Char} {offset : ℕ} {value : UInt64}
    (h : Stops Char.isDigit rest) : scanInteger rest offset value = (.ok value, offset) := by
  cases rest with
  | nil => rfl
  | cons c rest => simp [scanInteger, toDigit, stops_cons.mp h]

theorem scanInteger_cons {rest : List Char} {offset v : ℕ} (hc : c.isDigit) (hv : v < 2 ^ 64) :
    scanInteger (c :: rest) offset (UInt64.ofNat v) =
      if Nat.ofDigitChars 10 [c] v < 2 ^ 64 then
        scanInteger rest (offset + c.utf8Size) (UInt64.ofNat (Nat.ofDigitChars 10 [c] v))
      else (.error ⟨c, offset⟩, offset) := by
  have hrange := isDigit_iff.mp hc
  have hzero : '0'.toNat = 48 := rfl
  have hdigit : toDigit c = some (UInt64.ofNat (c.toNat - '0'.toNat)) := if_pos hc
  rw [scanInteger, hdigit]
  simp only [checked_digit hv (show c.toNat - '0'.toNat < 10 by omega), Nat.ofDigitChars_cons,
    Nat.ofDigitChars_nil]
  by_cases hsum : 10 * v + (c.toNat - '0'.toNat) < 2 ^ 64
  · rw [if_pos hsum, if_pos hsum]
  · rw [if_neg hsum, if_neg hsum]

/-- The loop over digits whose value fits. -/
theorem scanInteger_append {digits rest : List Char} {offset v : ℕ}
    (hdigits : ∀ d ∈ digits, d.isDigit) (hfits : Nat.ofDigitChars 10 digits v < 2 ^ 64) :
    scanInteger (digits ++ rest) offset (UInt64.ofNat v) =
      scanInteger rest (offset + byteLength digits)
        (UInt64.ofNat (Nat.ofDigitChars 10 digits v)) := by
  induction digits generalizing offset v with
  | nil => rfl
  | cons c digits ih =>
    obtain ⟨hc, hdigits⟩ := List.forall_mem_cons.mp hdigits
    have hsplit : Nat.ofDigitChars 10 (c :: digits) v =
        Nat.ofDigitChars 10 digits (Nat.ofDigitChars 10 [c] v) :=
      Nat.ofDigitChars_append (l := [c]) v
    have hle := le_ofDigitChars digits (Nat.ofDigitChars 10 [c] v)
    have hv := le_ofDigitChars [c] v
    rw [hsplit] at hfits ⊢
    rw [List.cons_append, scanInteger_cons hc (by omega), if_pos (by omega), ih hdigits hfits,
      byteLength_cons, Nat.add_assoc]

theorem scanInteger_digits {digits after : List Char} {offset : ℕ}
    (hdigits : ∀ d ∈ digits, d.isDigit) (hfits : decimalValue digits < 2 ^ 64)
    (hafter : Stops Char.isDigit after) :
    scanInteger (digits ++ after) offset 0 =
      (.ok (UInt64.ofNat (decimalValue digits)), offset + byteLength digits) := by
  have h : scanInteger (digits ++ after) offset (UInt64.ofNat 0) = _ :=
    scanInteger_append hdigits hfits
  rwa [scanInteger_of_stops hafter] at h

theorem scanInteger_overflow {digits after : List Char} {d : Char} {offset : ℕ}
    (hdigits : ∀ d ∈ digits, d.isDigit) (hd : d.isDigit) (hfits : decimalValue digits < 2 ^ 64)
    (hover : 2 ^ 64 ≤ decimalValue (digits ++ [d])) :
    scanInteger (digits ++ d :: after) offset 0 =
      (.error ⟨d, offset + byteLength digits⟩, offset + byteLength digits) := by
  have h : scanInteger (digits ++ d :: after) offset (UInt64.ofNat 0) = _ :=
    scanInteger_append hdigits hfits
  rw [decimalValue] at hfits
  rw [decimalValue, Nat.ofDigitChars_append] at hover
  rwa [scanInteger_cons hd hfits, if_neg (Nat.not_lt.mpr hover)] at h

theorem exists_digit_cons {digits : List Char} (hne : digits ≠ [])
    (hdigits : ∀ d ∈ digits, d.isDigit) : ∃ d rest, digits = d :: rest ∧ d.isDigit := by
  obtain ⟨d, rest, rfl⟩ := List.exists_cons_of_ne_nil hne
  exact ⟨d, rest, rfl, hdigits d List.mem_cons_self⟩

/-- What a lexeme starts with. -/
theorem Lexeme.exists_cons {start : ℕ} {text after : List Char} {item : Item}
    (h : Lexeme start text after item) :
    ∃ c rest, text = c :: rest ∧ isWhitespace c = false := by
  cases h with
  | bracket hkind => exact ⟨_, _, rfl, (classes_of_punctuation hkind).1⟩
  | word hc _ _ => exact ⟨_, _, rfl, (classes_of_wordStart hc).1⟩
  | integer hne hdigits _ _ =>
    obtain ⟨c, rest, rfl, hc⟩ := exists_digit_cons hne hdigits
    exact ⟨c, rest, rfl, (classes_of_digit hc).1⟩
  | overflow hne hdigits _ _ _ =>
    obtain ⟨c, rest, rfl, hc⟩ := exists_digit_cons hne hdigits
    exact ⟨c, rest, rfl, (classes_of_digit hc).1⟩
  | unexpected hspace _ _ _ => exact ⟨_, _, rfl, hspace⟩

theorem Lexeme.stops {start : ℕ} {text after : List Char} {item : Item}
    (h : Lexeme start text after item) : Stops isWhitespace (text ++ after) := by
  obtain ⟨c, rest, rfl, hc⟩ := h.exists_cons
  exact stops_cons.mpr hc

/-- A call of `next` returns the lexeme after the whitespace and moves past it. -/
theorem next_lexeme {ε : Type} {before gap text after : List Char} {item : Item}
    (hgap : ∀ c ∈ gap, isWhitespace c)
    (h : Lexeme (byteLength (before ++ gap)) text after item) :
    (Lexer.mk (before ++ (gap ++ (text ++ after))) (byteLength before)).next =
      (.ok (some item, ⟨before ++ (gap ++ (text ++ after)),
        byteLength (before ++ gap) + byteLength text⟩) : Exec ε _) := by
  have hslice : suffixAt (before ++ (gap ++ (text ++ after))) (byteLength before) =
      some (gap ++ (text ++ after)) := suffixAt_append _ _
  rw [Lexer.next, hslice, Exec.unwrap_some, Exec.ok_bind, scanWhile_append hgap h.stops,
    ← byteLength_append]
  cases h with
  | bracket hkind =>
    obtain ⟨-, -, -, hsize⟩ := classes_of_punctuation hkind
    simp [hkind, hsize]
  | @word c word _ hc htext hafter =>
    obtain ⟨-, hkind, -⟩ := classes_of_wordStart hc
    have hscan : scanWhile isWordChar (word ++ after) (byteLength (before ++ gap) + c.utf8Size) =
        (byteLength (before ++ gap) + byteLength (c :: word), after) := by
      rw [scanWhile_append htext hafter, byteLength_cons, Nat.add_assoc]
    have htextAt : textAt (before ++ (gap ++ (c :: word ++ after))) (byteLength (before ++ gap))
        (byteLength (before ++ gap) + byteLength (c :: word)) = some (c :: word) := by
      rw [← List.append_assoc]
      exact textAt_append _ _ _
    rw [List.cons_append] at htextAt ⊢
    simp only [hkind, hc, if_true, hscan, htextAt, Exec.unwrap_some, Exec.ok_bind, Exec.pure_eq_ok]
  | integer hne hdigits hafter hfits =>
    obtain ⟨c, digits, rfl, hc⟩ := exists_digit_cons hne hdigits
    obtain ⟨-, hkind, hword, -⟩ := classes_of_digit hc
    have hscan : scanInteger (c :: (digits ++ after)) (byteLength (before ++ gap)) 0 = _ :=
      scanInteger_digits hdigits hfits hafter
    rw [List.cons_append]
    simp only [hkind, hword, hc, if_true, hscan]
    rfl
  | @overflow _ rest d hne hdigits hd hfits hover =>
    obtain ⟨c, digits, rfl, hc⟩ := exists_digit_cons hne hdigits
    obtain ⟨-, hkind, hword, -⟩ := classes_of_digit hc
    have hscan : scanInteger (c :: (digits ++ d :: rest)) (byteLength (before ++ gap)) 0 = _ :=
      scanInteger_overflow hdigits hd hfits hover
    rw [List.cons_append]
    simp only [hkind, hword, hc, if_true, hscan]
    rfl
  | unexpected hspace hkind hword hdigit =>
    simp [hkind, hword, hdigit]

theorem next_gap {ε : Type} {before gap : List Char} (hgap : ∀ c ∈ gap, isWhitespace c) :
    (Lexer.mk (before ++ gap) (byteLength before)).next =
      (.ok (none, ⟨before ++ gap, byteLength (before ++ gap)⟩) : Exec ε _) := by
  have hscan : scanWhile isWhitespace (gap ++ []) (byteLength before) = _ :=
    scanWhile_append hgap stops_nil
  rw [List.append_nil, ← byteLength_append] at hscan
  rw [Lexer.next, suffixAt_append, Exec.unwrap_some, Exec.ok_bind, hscan]
  rfl

theorem Lexeme.length_pos {start : ℕ} {text after : List Char} {item : Item}
    (h : Lexeme start text after item) : 0 < text.length := by
  obtain ⟨c, rest, rfl, -⟩ := h.exists_cons
  exact Nat.succ_pos _

/-- A step of a run moves the gap and the lexeme to what lies behind. -/
theorem source_regroup (before gap text after : List Char) :
    before ++ (gap ++ (text ++ after)) = before ++ gap ++ text ++ after := by
  simp only [List.append_assoc]

/-- With fuel for every character, the iterator is exhausted and has returned the
items of the run. -/
theorem Lexed.collect {before rest : List Char} {items : List Item} (h : Lexed before rest items)
    {fuel : ℕ} (hfuel : rest.length < fuel) :
    (Lexer.mk (before ++ rest) (byteLength before)).collect fuel = .ok items := by
  induction h generalizing fuel with
  | done hgap =>
    obtain ⟨fuel, rfl⟩ := Nat.exists_eq_add_of_lt hfuel
    rw [Lexer.collect, next_gap hgap]
    rfl
  | @cons before gap text after item items hgap hitem hrest ih =>
    have hpos := hitem.length_pos
    simp only [List.length_append] at hfuel
    obtain ⟨fuel, rfl⟩ := Nat.exists_eq_succ_of_ne_zero (show fuel ≠ 0 by omega)
    have htail := ih (show after.length < fuel by omega)
    rw [byteLength_append, ← source_regroup] at htail
    rw [Lexer.collect, next_lexeme hgap hitem, Exec.ok_bind]
    simp only [htail, Exec.ok_bind, Exec.pure_eq_ok]

/-- A number that does not fit has a first digit that makes it too large. -/
theorem exists_overflow {digits : List Char} (h : 2 ^ 64 ≤ decimalValue digits) :
    ∃ fitting d rest, digits = fitting ++ d :: rest ∧ decimalValue fitting < 2 ^ 64 ∧
      2 ^ 64 ≤ decimalValue (fitting ++ [d]) := by
  induction digits using List.reverseRecOn with
  | nil => exact absurd h (by decide)
  | append_singleton digits d ih =>
    by_cases hfits : decimalValue digits < 2 ^ 64
    · exact ⟨digits, d, [], rfl, hfits, h⟩
    · obtain ⟨fitting, e, rest, rfl, hfits, hover⟩ := ih (Nat.le_of_not_lt hfits)
      exact ⟨fitting, e, rest ++ [d], by simp, hfits, hover⟩

theorem decimalValue_singleton_lt {d : Char} (hd : d.isDigit) : decimalValue [d] < 10 := by
  have hrange := isDigit_iff.mp hd
  have hzero : '0'.toNat = 48 := rfl
  rw [decimalValue, Nat.ofDigitChars_cons, Nat.ofDigitChars_nil]
  omega

/-- The integer branch either consumes the digits or stops at the one that does not fit. -/
theorem exists_integer (start : ℕ) {digits after : List Char} (hne : digits ≠ [])
    (hdigits : ∀ d ∈ digits, d.isDigit) (hafter : Stops Char.isDigit after) :
    ∃ text rest item, digits ++ after = text ++ rest ∧ Lexeme start text rest item := by
  by_cases hfits : decimalValue digits < 2 ^ 64
  · exact ⟨digits, after, _, rfl, .integer hne hdigits hafter hfits⟩
  · obtain ⟨fitting, d, rest, rfl, hfits, hover⟩ := exists_overflow (Nat.le_of_not_lt hfits)
    have hd := hdigits d (by simp)
    have hfitting : fitting ≠ [] := by
      rintro rfl
      have hsmall := decimalValue_singleton_lt hd
      rw [List.nil_append] at hover
      omega
    refine ⟨fitting, d :: rest ++ after, _, by simp, .overflow hfitting ?_ hd hfits hover⟩
    intro e he
    exact hdigits e (List.mem_append_left _ he)

theorem exists_lexeme (start : ℕ) {c : Char} {rest : List Char} (hc : isWhitespace c = false) :
    ∃ text after item, c :: rest = text ++ after ∧ Lexeme start text after item := by
  cases hkind : punctuation c with
  | some kind => exact ⟨[c], rest, _, rfl, .bracket hkind⟩
  | none =>
    by_cases hword : isWordStart c
    · obtain ⟨part, after, rfl, hpart, hafter⟩ := exists_scan isWordChar rest
      exact ⟨c :: part, after, _, rfl, .word hword hpart hafter⟩
    by_cases hdigit : c.isDigit
    · obtain ⟨part, after, rfl, hpart, hafter⟩ := exists_scan Char.isDigit rest
      have hdigits : ∀ d ∈ c :: part, d.isDigit := List.forall_mem_cons.mpr ⟨hdigit, hpart⟩
      exact exists_integer start (List.cons_ne_nil c part) hdigits hafter
    · exact ⟨[c], rest, _, rfl, .unexpected hc hkind (Bool.eq_false_iff.mpr hword)
        (Bool.eq_false_iff.mpr hdigit)⟩

/-- What lies ahead of a call of `next`: only whitespace, or whitespace and a lexeme. -/
theorem exists_gap (before rest : List Char) :
    (∀ c ∈ rest, isWhitespace c) ∨ ∃ gap text after item, rest = gap ++ (text ++ after) ∧
      (∀ c ∈ gap, isWhitespace c) ∧ Lexeme (byteLength (before ++ gap)) text after item := by
  obtain ⟨gap, tail, rfl, hgap, hstops⟩ := exists_scan isWhitespace rest
  cases tail with
  | nil =>
    rw [List.append_nil]
    exact Or.inl hgap
  | cons c tail =>
    obtain ⟨text, after, item, hsplit, hitem⟩ :=
      exists_lexeme (byteLength (before ++ gap)) (stops_cons.mp hstops)
    exact Or.inr ⟨gap, text, after, item, by rw [hsplit], hgap, hitem⟩

/-- Every source has a run. -/
theorem exists_lexed (before rest : List Char) : ∃ items, Lexed before rest items := by
  induction hn : rest.length using Nat.strong_induction_on generalizing before rest with
  | _ n ih =>
    rcases exists_gap before rest with hgap | ⟨gap, text, after, item, rfl, hgap, hitem⟩
    · exact ⟨[], .done hgap⟩
    · have hpos := hitem.length_pos
      simp only [List.length_append] at hn
      obtain ⟨items, hitems⟩ := ih after.length (by omega) (before ++ gap ++ text) after rfl
      exact ⟨item :: items, .cons hgap hitem hitems⟩

/-- A run over the whole source is what the iterator returns. -/
theorem collect_new {source : List Char} {items : List Item} (h : Lexed [] source items) {fuel : ℕ}
    (hfuel : source.length < fuel) : (Lexer.new source).collect fuel = .ok items :=
  h.collect hfuel

end PolytopeOS.Compiler
