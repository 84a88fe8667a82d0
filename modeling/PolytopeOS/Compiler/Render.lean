import PolytopeOS.Compiler.Lexer

/-!
# Printing and lexing

Kinds of tokens rendered as text with whitespace between them come back from the
lexer, each with the span of its text. A separator may be empty next to a bracket
and at the ends of the source.
-/

namespace PolytopeOS.Compiler
open Corelib

namespace TokenKind

def render : TokenKind → List Char
  | .function => "fn".toList
  | .identifier text => text
  | .integer value => Nat.toDigits 10 value.toNat
  | .leftParen => ['(']
  | .rightParen => [')']
  | .leftBrace => ['\x7b']
  | .rightBrace => ['\x7d']

def isBracket : TokenKind → Bool
  | .leftParen | .rightParen | .leftBrace | .rightBrace => true
  | _ => false

/-- An identifier is a word other than the keyword. -/
def WellFormed : TokenKind → Prop
  | .identifier text => text ≠ "fn".toList ∧ (∃ c ∈ text.head?, isWordStart c) ∧
      ∀ c ∈ text, isWordChar c
  | _ => True

end TokenKind

/-- Kinds as text, each with the separator that follows it. -/
def renderAll : List (TokenKind × List Char) → List Char
  | [] => []
  | (kind, separator) :: rest => kind.render ++ (separator ++ renderAll rest)

/-- The tokens of a rendering that starts at an offset. -/
def tokensAt : ℕ → List (TokenKind × List Char) → List Token
  | _, [] => []
  | start, (kind, separator) :: rest =>
    ⟨kind, ⟨start, start + byteLength kind.render⟩⟩ ::
      tokensAt (start + byteLength kind.render + byteLength separator) rest

/-- Whitespace between the kinds, empty only next to a bracket. -/
structure Separated (tokens : List (TokenKind × List Char)) : Prop where
  whitespace : ∀ p ∈ tokens, ∀ c ∈ p.2, isWhitespace c
  nonempty : tokens.IsChain fun a b => a.2 = [] → a.1.isBracket ∨ b.1.isBracket

variable {kind : TokenKind} {start : ℕ} {after : List Char}

theorem exists_bracket (h : kind.isBracket) :
    ∃ c, kind.render = [c] ∧ punctuation c = some kind := by
  cases kind with
  | leftParen => exact ⟨'(', rfl, rfl⟩
  | rightParen => exact ⟨')', rfl, rfl⟩
  | leftBrace => exact ⟨'\x7b', rfl, rfl⟩
  | rightBrace => exact ⟨'\x7d', rfl, rfl⟩
  | function => exact absurd h (by decide)
  | identifier text => exact absurd h (by simp [TokenKind.isBracket])
  | integer value => exact absurd h (by simp [TokenKind.isBracket])

theorem Lexeme.of_bracket (h : kind.isBracket) :
    Lexeme start kind.render after (.ok ⟨kind, ⟨start, start + byteLength kind.render⟩⟩) := by
  obtain ⟨c, hrender, hkind⟩ := exists_bracket h
  have hlength : byteLength [c] = 1 := by simp [(classes_of_punctuation hkind).2.2.2]
  rw [hrender, hlength]
  exact .bracket hkind

theorem Lexeme.of_word {text : List Char} (hstart : ∃ c ∈ text.head?, isWordStart c)
    (htext : ∀ c ∈ text, isWordChar c) (hafter : Stops isWordChar after) :
    Lexeme start text after (.ok ⟨wordKind text, ⟨start, start + byteLength text⟩⟩) := by
  cases text with
  | nil => simp at hstart
  | cons c text =>
    obtain ⟨d, hd, hword⟩ := hstart
    obtain rfl : c = d := Option.some.inj hd
    exact .word hword (List.forall_mem_cons.mp htext).2 hafter

theorem Lexeme.of_integer (value : UInt64) (hafter : Stops Char.isDigit after) :
    Lexeme start (TokenKind.integer value).render after
      (.ok ⟨.integer value, ⟨start, start + byteLength (TokenKind.integer value).render⟩⟩) := by
  have hvalue : decimalValue (Nat.toDigits 10 value.toNat) = value.toNat :=
    Nat.ofDigitChars_ten_toDigits
  have hlexeme : Lexeme start (Nat.toDigits 10 value.toNat) after _ :=
    .integer Nat.toDigits_ne_nil
      (fun d hd => Nat.isDigit_of_mem_toDigits (by decide) (by decide) hd) hafter
      (by rw [hvalue]; exact value.toNat_lt)
  rwa [hvalue, UInt64.ofNat_toNat] at hlexeme

/-- A rendered kind is a lexeme when no word character follows or it is a bracket. -/
theorem Lexeme.of_render (hkind : kind.WellFormed)
    (hafter : kind.isBracket ∨ Stops isWordChar after) :
    Lexeme start kind.render after (.ok ⟨kind, ⟨start, start + byteLength kind.render⟩⟩) := by
  rcases hafter with hbracket | hafter
  · exact .of_bracket hbracket
  cases kind with
  | function => exact .of_word ⟨'f', rfl, rfl⟩ (List.all_eq_true.mp rfl) hafter
  | identifier text =>
    obtain ⟨hkeyword, hstart, htext⟩ := hkind
    have hlexeme : Lexeme start text after _ := .of_word hstart htext hafter
    rwa [wordKind, if_neg hkeyword] at hlexeme
  | integer value => exact .of_integer value (stops_isDigit_of_isWordChar hafter)
  | leftParen => exact .of_bracket rfl
  | rightParen => exact .of_bracket rfl
  | leftBrace => exact .of_bracket rfl
  | rightBrace => exact .of_bracket rfl

/-- What follows a kind other than a bracket does not continue it. -/
theorem stops_separator {separator : List Char} {rest : List (TokenKind × List Char)}
    (h : Separated ((kind, separator) :: rest)) (hkind : kind.isBracket = false) :
    Stops isWordChar (separator ++ renderAll rest) := by
  cases separator with
  | cons c separator =>
    have hspace := h.whitespace _ List.mem_cons_self c List.mem_cons_self
    exact stops_cons.mpr (isWordChar_of_isWhitespace hspace)
  | nil =>
    cases rest with
    | nil => exact stops_nil
    | cons p rest =>
      have hnext : p.1.isBracket := by
        rcases (List.isChain_cons_cons.mp h.nonempty).1 rfl with hbracket | hbracket
        · exact absurd hbracket (by simp [hkind])
        · exact hbracket
      obtain ⟨c, hrender, hc⟩ := exists_bracket hnext
      obtain ⟨-, hword, hdigit, -⟩ := classes_of_punctuation hc
      rw [List.nil_append, renderAll, hrender]
      exact stops_cons.mpr (isWordChar_eq_false hword hdigit)

theorem Separated.tail {p : TokenKind × List Char} {rest : List (TokenKind × List Char)}
    (h : Separated (p :: rest)) : Separated rest :=
  ⟨fun q hq => h.whitespace q (List.mem_cons_of_mem p hq), h.nonempty.tail⟩

/-- The run over a rendering. -/
theorem Lexed.of_renderAll {tokens : List (TokenKind × List Char)} {before leading : List Char}
    (hleading : ∀ c ∈ leading, isWhitespace c) (hkinds : ∀ p ∈ tokens, p.1.WellFormed)
    (h : Separated tokens) :
    Lexed before (leading ++ renderAll tokens)
      ((tokensAt (byteLength (before ++ leading)) tokens).map .ok) := by
  induction tokens generalizing before leading with
  | nil =>
    rw [renderAll, List.append_nil]
    exact .done hleading
  | cons p rest ih =>
    obtain ⟨kind, separator⟩ := p
    obtain ⟨hkind, hkinds⟩ := List.forall_mem_cons.mp hkinds
    have hseparator := h.whitespace _ List.mem_cons_self
    have hafter : kind.isBracket ∨ Stops isWordChar (separator ++ renderAll rest) := by
      cases hbracket : kind.isBracket with
      | true => exact Or.inl rfl
      | false => exact Or.inr (stops_separator h hbracket)
    have hrest : Lexed (before ++ leading ++ kind.render) (separator ++ renderAll rest) _ :=
      ih hseparator hkinds h.tail
    rw [byteLength_append, byteLength_append] at hrest
    rw [renderAll, tokensAt, List.map_cons]
    exact .cons hleading (.of_render hkind hafter) hrest

/-- Kinds with single spaces between them. -/
def spaced : List TokenKind → List (TokenKind × List Char)
  | [] => []
  | kind :: rest => (kind, if rest = [] then [] else [' ']) :: spaced rest

theorem map_fst_spaced (kinds : List TokenKind) : (spaced kinds).map Prod.fst = kinds := by
  induction kinds with
  | nil => rfl
  | cons kind rest ih => rw [spaced, List.map_cons, ih]

theorem separated_spaced (kinds : List TokenKind) : Separated (spaced kinds) := by
  induction kinds with
  | nil => exact ⟨by simp [spaced], List.IsChain.nil⟩
  | cons kind rest ih =>
    refine ⟨List.forall_mem_cons.mpr ⟨?_, ih.whitespace⟩, List.isChain_cons.mpr ⟨?_, ih.nonempty⟩⟩
    · intro c hc
      split at hc
      · simp at hc
      · rw [List.mem_singleton.mp hc]
        rfl
    · intro p hp hempty
      -- only the last kind has no space after it, and nothing follows it
      cases rest with
      | nil => simp [spaced] at hp
      | cons next rest => simp at hempty

theorem map_kind_tokensAt (start : ℕ) (tokens : List (TokenKind × List Char)) :
    (tokensAt start tokens).map Token.kind = tokens.map Prod.fst := by
  induction tokens generalizing start with
  | nil => rfl
  | cons p rest ih => rw [tokensAt, List.map_cons, List.map_cons, ih]

/-- The kinds a run returns can be rendered. -/
theorem Lexed.wellFormed {before rest : List Char} {items : List Item}
    (h : Lexed before rest items) : ∀ token, .ok token ∈ items → token.kind.WellFormed := by
  induction h with
  | done hgap => simp
  | cons hgap hitem hrest ih =>
    intro token hmem
    rcases List.mem_cons.mp hmem with rfl | hmem
    · cases hitem with
      | bracket hkind =>
        unfold punctuation at hkind
        split at hkind <;> first | (rw [← Option.some.inj hkind]; trivial) | simp at hkind
      | @word c text _ hc htext hafter =>
        show (wordKind (c :: text)).WellFormed
        unfold wordKind
        split
        · trivial
        · next hkeyword =>
          exact ⟨hkeyword, ⟨c, rfl, hc⟩,
            List.forall_mem_cons.mpr ⟨isWordChar_iff.mpr (Or.inl hc), htext⟩⟩
      | integer hne hdigits hafter hfits => trivial
    · exact ih token hmem

/-- Printing then lexing is the identity: on every rendering of kinds, with the
spans of their texts, and on the kinds of every source without a lexical error. -/
theorem lex_render :
    (∀ (leading : List Char) (tokens : List (TokenKind × List Char)),
      (∀ c ∈ leading, isWhitespace c) → (∀ p ∈ tokens, p.1.WellFormed) → Separated tokens →
      ∀ fuel, (leading ++ renderAll tokens).length < fuel →
        (Lexer.new (leading ++ renderAll tokens)).collect fuel =
          .ok ((tokensAt (byteLength leading) tokens).map .ok)) ∧
    (∀ (source : List Char) (tokens : List Token),
      (∀ fuel, source.length < fuel → (Lexer.new source).collect fuel = .ok (tokens.map .ok)) →
      ∀ fuel, (renderAll (spaced (tokens.map Token.kind))).length < fuel →
        ∃ again : List Token,
          (Lexer.new (renderAll (spaced (tokens.map Token.kind)))).collect fuel =
            .ok (again.map .ok) ∧
          again.map Token.kind = tokens.map Token.kind) := by
  constructor
  · intro leading tokens hleading hkinds hseparated fuel hfuel
    exact collect_new (.of_renderAll hleading hkinds hseparated) hfuel
  · intro source tokens hsource fuel hfuel
    obtain ⟨items, hitems⟩ := exists_lexed [] source
    have heq := (collect_new hitems (Nat.lt_succ_self _)).symm.trans
      (hsource _ (Nat.lt_succ_self _))
    obtain rfl := Exec.ok.inj heq
    have hkinds : ∀ p ∈ spaced (tokens.map Token.kind), p.1.WellFormed := by
      intro p hp
      have hmem := List.mem_map_of_mem (f := Prod.fst) hp
      rw [map_fst_spaced, List.mem_map] at hmem
      obtain ⟨token, htoken, hkind⟩ := hmem
      rw [← hkind]
      exact hitems.wellFormed token (List.mem_map_of_mem htoken)
    have hrun : Lexed [] ([] ++ renderAll (spaced (tokens.map Token.kind))) _ :=
      .of_renderAll (by simp) hkinds (separated_spaced _)
    refine ⟨_, collect_new hrun hfuel, ?_⟩
    rw [map_kind_tokensAt, map_fst_spaced]

/-- A rendering with an ideographic space and empty separators next to brackets. -/
def sampleTokens : List (TokenKind × List Char) :=
  [(.function, [' ']), (.identifier "main".toList, []), (.leftParen, []), (.rightParen, ['\u3000']),
    (.integer 42, [])]

theorem lex_render_sample :
    (Lexer.new (['\n'] ++ renderAll sampleTokens)).collect 20 =
      .ok ((tokensAt (byteLength ['\n']) sampleTokens).map .ok) := by
  have hspaces : sampleTokens.all (fun p => p.2.all isWhitespace) = true := rfl
  refine lex_render.1 ['\n'] sampleTokens (List.all_eq_true.mp rfl) ?_ ⟨?_, ?_⟩ 20
    (by decide +kernel)
  · intro p hp
    simp only [sampleTokens, List.mem_cons, List.not_mem_nil, or_false] at hp
    rcases hp with rfl | rfl | rfl | rfl | rfl
    · trivial
    · exact ⟨by decide, ⟨'m', rfl, rfl⟩, List.all_eq_true.mp rfl⟩
    · trivial
    · trivial
    · trivial
  · exact fun p hp => List.all_eq_true.mp (List.all_eq_true.mp hspaces p hp)
  · simp [sampleTokens, TokenKind.isBracket]

end PolytopeOS.Compiler
