import PolytopeOS.Host.Language
import PolytopeOS.Host.Outcome

/-!
# Watching the debug log

`LogCursor.containsNew` scans what a growing log has gained since the last poll.
Its state follows the consumed part of the log: the unterminated line while it
is short, and a flag once it is too long to be a record.
-/

namespace PolytopeOS.Host
open Corelib Arch

def maxObservedLogBytes : ℕ := 4 * 1024 * 1024

structure LogCursor where
  offset : ℕ
  scanned : ℕ
  pendingLine : Bytes
  discardingOverlongLine : Bool
  deriving DecidableEq, Repr

/-- One poll: the log file as it is then, if it exists, and how many bytes each
read of the poll would return if it were not limited otherwise. -/
structure Poll where
  file : Option Bytes
  shortReads : ℕ → ℕ

/-- What is visible of the log. -/
def Poll.visible (poll : Poll) : Bytes := poll.file.getD []

/-- The size of a read: any positive number up to the limit, and zero at the end of the file. -/
def readCount (available maximum short : ℕ) : ℕ :=
  if min available maximum = 0 then 0 else max 1 (min short (min available maximum))

def saturatingAdd (a b : ℕ) : ℕ := min (a + b) (2 ^ 64 - 1)

namespace LogCursor

def new : LogCursor := ⟨0, 0, [], false⟩

/-- The loop body for one byte, with whether it ends a line equal to the needle. -/
def feed (needle : Bytes) (cursor : LogCursor) (byte : UInt8) : Bool × LogCursor :=
  if byte = 10 then
    (!cursor.discardingOverlongLine && stripCr cursor.pendingLine == needle,
      { cursor with pendingLine := [], discardingOverlongLine := false })
  else if !cursor.discardingOverlongLine then
    if cursor.pendingLine.length < maxDiagnosticRecordBytes + 1 then
      (false, { cursor with pendingLine := cursor.pendingLine ++ [byte] })
    else (false, { cursor with pendingLine := [], discardingOverlongLine := true })
  else (false, cursor)

/-- The loop over the bytes of one read, left at the first match. -/
def scanChunk (needle : Bytes) (cursor : LogCursor) : Bytes → Bool × LogCursor
  | [] => (false, cursor)
  | byte :: rest =>
    match feed needle cursor byte with
    | (true, cursor) => (true, cursor)
    | (false, cursor) => scanChunk needle cursor rest

theorem feed_position (needle : Bytes) (cursor : LogCursor) (byte : UInt8) :
    (feed needle cursor byte).2.offset = cursor.offset ∧
      (feed needle cursor byte).2.scanned = cursor.scanned := by
  unfold feed
  split_ifs <;> exact ⟨rfl, rfl⟩

/-- Scanning does not move the cursor. -/
theorem scanChunk_position (needle : Bytes) (cursor : LogCursor) (chunk : Bytes) :
    (scanChunk needle cursor chunk).2.offset = cursor.offset ∧
      (scanChunk needle cursor chunk).2.scanned = cursor.scanned := by
  induction chunk generalizing cursor with
  | nil => exact ⟨rfl, rfl⟩
  | cons byte rest ih =>
    have hfeed := feed_position needle cursor byte
    unfold scanChunk
    split
    · next heq =>
      rw [heq] at hfeed
      exact hfeed
    · next next heq =>
      rw [heq] at hfeed
      obtain ⟨hoffset, hscanned⟩ := ih next
      exact ⟨hoffset.trans hfeed.1, hscanned.trans hfeed.2⟩

/-- The bytes that one `read` delivers into the 4096-byte buffer. -/
def read (cursor : LogCursor) (content : Bytes) (short : ℕ) : Bytes :=
  let maximum := min (maxObservedLogBytes - cursor.scanned) 4096
  let available := content.length - cursor.offset
  (content.drop cursor.offset).take (readCount available maximum short)

def advance (cursor : LogCursor) (count : ℕ) : LogCursor :=
  { cursor with
    offset := saturatingAdd cursor.offset count
    scanned := saturatingAdd cursor.scanned count }

theorem lt_scanned_advance {cursor : LogCursor} {count : ℕ}
    (h : cursor.scanned < maxObservedLogBytes) (hcount : count ≠ 0) :
    cursor.scanned < (cursor.advance count).scanned := by
  show _ < saturatingAdd _ _
  simp only [saturatingAdd, maxObservedLogBytes] at h ⊢
  omega

/-- The `while` loop of one poll, from its read number `call` on. -/
def readLoop (needle content : Bytes) (shortReads : ℕ → ℕ) (call : ℕ) (cursor : LogCursor) :
    Bool × LogCursor :=
  if _hscanned : cursor.scanned < maxObservedLogBytes then
    if _hread : (cursor.read content (shortReads call)).length = 0 then (false, cursor)
    else
      match _hscan : scanChunk needle
          (cursor.advance (cursor.read content (shortReads call)).length)
          (cursor.read content (shortReads call)) with
      | (true, matched) => (true, matched)
      | (false, scanned) => readLoop needle content shortReads (call + 1) scanned
  else (false, cursor)
termination_by maxObservedLogBytes - cursor.scanned
decreasing_by
  have hkeep := congrArg (fun result => result.2.scanned) _hscan
  rw [(scanChunk_position _ _ _).2] at hkeep
  have hgain := lt_scanned_advance _hscanned _hread
  dsimp only at hkeep
  omega

def containsNew (needle : Bytes) (poll : Poll) (cursor : LogCursor) : Bool × LogCursor :=
  match poll.file with
  | none => (false, cursor)
  | some content =>
    let cursor := if content.length < cursor.offset then new else cursor
    if cursor.scanned ≥ maxObservedLogBytes then (false, cursor)
    else readLoop needle content poll.shortReads 0 cursor

/-- The answers of a series of polls. -/
def answers (needle : Bytes) (cursor : LogCursor) : List Poll → List Bool
  | [] => []
  | poll :: rest =>
    (containsNew needle poll cursor).1 :: answers needle (containsNew needle poll cursor).2 rest

end LogCursor

structure ReadyMarkerObserver where
  cursors : List LogCursor
  observedAt : Option ℕ

namespace ReadyMarkerObserver

def new (paths : ℕ) : ReadyMarkerObserver := ⟨List.replicate paths .new, none⟩

/-- The loop over the cursors, left at the first match. -/
def observeCursors : List LogCursor → List Poll → Bool × List LogCursor
  | cursor :: cursors, poll :: polls =>
    match LogCursor.containsNew readyMarker poll cursor with
    | (true, cursor) => (true, cursor :: cursors)
    | (false, cursor) =>
      ((observeCursors cursors polls).1, cursor :: (observeCursors cursors polls).2)
  | cursors, _ => (false, cursors)

/-- One round with a poll for each cursor, at the given time since the start. -/
def observe (observer : ReadyMarkerObserver) (polls : List Poll) (elapsed : ℕ) :
    ReadyMarkerObserver :=
  if observer.observedAt.isSome then observer
  else
    { cursors := (observeCursors observer.cursors polls).2
      observedAt := if (observeCursors observer.cursors polls).1 then some elapsed else none }

/-- The rounds of `execute_bounded_qemu`, which watches the debug log alone. -/
def watch (rounds : List (Poll × ℕ)) (observer : ReadyMarkerObserver) : ReadyMarkerObserver :=
  rounds.foldl (fun observer round => observer.observe [round.1] round.2) observer

end ReadyMarkerObserver

-- ════════════════════════════════════════════════════════════════════════
-- Batch search
-- ════════════════════════════════════════════════════════════════════════

/-- A terminated line of the stream equals the needle, up to a carriage return. -/
def Hit (needle bytes : Bytes) : Prop := ∃ line ∈ (cut 10 bytes).1, stripCr line = needle
  deriving Decidable

theorem hit_concat (needle bytes : Bytes) (byte : UInt8) :
    Hit needle (bytes ++ [byte]) ↔
      Hit needle bytes ∨ (byte = 10 ∧ stripCr (tail bytes) = needle) := by
  by_cases hbyte : byte = 10
  · subst hbyte
    simp only [Hit, cut_concat_sep, List.mem_append, List.mem_singleton, or_and_right, exists_or,
      exists_eq_left, true_and]
    rfl
  · simp only [Hit, cut_concat_of_ne bytes hbyte, hbyte, false_and, or_false]

theorem Hit.append {needle bytes : Bytes} (h : Hit needle bytes) (more : Bytes) :
    Hit needle (bytes ++ more) := by
  induction more using List.reverseRecOn with
  | nil => rwa [List.append_nil]
  | append_singleton more byte ih =>
    rw [← List.append_assoc]
    exact (hit_concat _ _ _).mpr (.inl ih)

theorem Hit.mono {needle bytes more : Bytes} (h : Hit needle bytes) (hle : bytes <+: more) :
    Hit needle more := by
  obtain ⟨rest, rfl⟩ := hle
  exact h.append rest

-- ════════════════════════════════════════════════════════════════════════
-- What the cursor knows
-- ════════════════════════════════════════════════════════════════════════

/-- The line buffer after a consumed stream. -/
structure Buffers (consumed : Bytes) (cursor : LogCursor) : Prop where
  short : (tail consumed).length ≤ maxDiagnosticRecordBytes + 1 →
    cursor.pendingLine = tail consumed ∧ cursor.discardingOverlongLine = false
  long : maxDiagnosticRecordBytes + 1 < (tail consumed).length →
    cursor.pendingLine = [] ∧ cursor.discardingOverlongLine = true

theorem length_stripCr (line : Bytes) : line.length ≤ (stripCr line).length + 1 := by
  unfold stripCr
  split
  · rw [List.length_dropLast]
    omega
  · omega

theorem tail_concat_newline (bytes : Bytes) : tail (bytes ++ [10]) = [] :=
  congrArg Prod.snd (cut_concat_sep 10 bytes)

theorem tail_concat_of_ne (bytes : Bytes) {byte : UInt8} (h : byte ≠ 10) :
    tail (bytes ++ [byte]) = tail bytes ++ [byte] :=
  congrArg Prod.snd (cut_concat_of_ne bytes h)

theorem feed_newline {needle consumed : Bytes} {cursor : LogCursor}
    (hneedle : needle.length ≤ maxDiagnosticRecordBytes) (h : Buffers consumed cursor) :
    (LogCursor.feed needle cursor 10).1 = true ↔ stripCr (tail consumed) = needle := by
  rw [LogCursor.feed, if_pos rfl]
  by_cases hshort : (tail consumed).length ≤ maxDiagnosticRecordBytes + 1
  · obtain ⟨hpending, hdiscarding⟩ := h.short hshort
    simp [hpending, hdiscarding]
  · obtain ⟨_, hdiscarding⟩ := h.long (Nat.not_le.mp hshort)
    -- a discarded line is longer than the needle, even without its carriage return
    have hne : stripCr (tail consumed) ≠ needle := by
      intro heq
      have hlength := length_stripCr (tail consumed)
      rw [heq] at hlength
      omega
    simp [hdiscarding, hne]

theorem feed_other (needle : Bytes) {consumed : Bytes} {cursor : LogCursor}
    (h : Buffers consumed cursor) {byte : UInt8} (hbyte : byte ≠ 10) :
    (LogCursor.feed needle cursor byte).1 = false ∧
      Buffers (consumed ++ [byte]) (LogCursor.feed needle cursor byte).2 := by
  rw [LogCursor.feed, if_neg hbyte]
  have htail := tail_concat_of_ne consumed hbyte
  by_cases hshort : (tail consumed).length ≤ maxDiagnosticRecordBytes + 1
  · obtain ⟨hpending, hdiscarding⟩ := h.short hshort
    rw [if_pos (by rw [hdiscarding]; rfl), hpending]
    split
    · next hroom =>
      refine ⟨rfl, fun _ => ⟨htail.symm, hdiscarding⟩, fun hlong => ?_⟩
      rw [htail, List.length_append, List.length_singleton] at hlong
      omega
    · next hfull =>
      refine ⟨rfl, fun hfits => ?_, fun _ => ⟨rfl, rfl⟩⟩
      rw [htail, List.length_append, List.length_singleton] at hfits
      omega
  · obtain ⟨hpending, hdiscarding⟩ := h.long (Nat.not_le.mp hshort)
    rw [if_neg (by rw [hdiscarding]; decide)]
    refine ⟨rfl, fun hfits => ?_, fun _ => ⟨hpending, hdiscarding⟩⟩
    rw [htail, List.length_append, List.length_singleton] at hfits
    omega

/-- One byte keeps the buffer in step, and a match is the end of a matching line. -/
theorem feed_spec {needle consumed : Bytes} {cursor : LogCursor}
    (hneedle : needle.length ≤ maxDiagnosticRecordBytes) (h : Buffers consumed cursor)
    (byte : UInt8) :
    Buffers (consumed ++ [byte]) (LogCursor.feed needle cursor byte).2 ∧
      ((LogCursor.feed needle cursor byte).1 = true ↔
        byte = 10 ∧ stripCr (tail consumed) = needle) := by
  by_cases hbyte : byte = 10
  · subst hbyte
    refine ⟨?_, by rw [feed_newline hneedle h, eq_self, true_and]⟩
    rw [LogCursor.feed, if_pos rfl]
    refine ⟨fun _ => ⟨(tail_concat_newline consumed).symm, rfl⟩, fun hlong => ?_⟩
    rw [tail_concat_newline] at hlong
    exact absurd hlong (Nat.not_lt_zero _)
  · obtain ⟨hfound, hbuffers⟩ := feed_other needle h hbyte
    exact ⟨hbuffers, by simp [hfound, hbyte]⟩

theorem scanChunk_spec {needle consumed : Bytes} {cursor : LogCursor}
    (hneedle : needle.length ≤ maxDiagnosticRecordBytes) (h : Buffers consumed cursor)
    (hmiss : ¬Hit needle consumed) (chunk : Bytes) :
    ((LogCursor.scanChunk needle cursor chunk).1 = true ↔ Hit needle (consumed ++ chunk)) ∧
      ((LogCursor.scanChunk needle cursor chunk).1 = false →
        Buffers (consumed ++ chunk) (LogCursor.scanChunk needle cursor chunk).2) := by
  induction chunk generalizing consumed cursor with
  | nil =>
    rw [List.append_nil]
    exact ⟨iff_of_false nofun hmiss, fun _ => h⟩
  | cons byte rest ih =>
    obtain ⟨hbuffers, hfound⟩ := feed_spec hneedle h byte
    have hhit := hit_concat needle consumed byte
    rw [← hfound] at hhit
    rw [List.append_cons, LogCursor.scanChunk]
    split
    · next heq =>
      rw [heq] at hhit
      exact ⟨iff_of_true rfl ((hhit.mpr (.inr rfl)).append rest), nofun⟩
    · next heq =>
      rw [heq] at hhit hbuffers
      exact ih hbuffers fun hit => (hhit.mp hit).elim hmiss nofun

/-- The cursor has consumed exactly this much of the log. -/
structure Tracks (consumed : Bytes) (cursor : LogCursor) : Prop extends
    Buffers consumed cursor where
  offset : cursor.offset = consumed.length
  scanned : cursor.scanned = consumed.length

theorem tracks_new : Tracks [] LogCursor.new where
  short _ := ⟨rfl, rfl⟩
  long h := absurd h (Nat.not_lt_zero _)
  offset := rfl
  scanned := rfl

/-- The part of a log that is ever observed. -/
def observed (content : Bytes) : Bytes := content.take maxObservedLogBytes

theorem prefix_observed {consumed content : Bytes} (hle : consumed <+: content)
    (hbound : consumed.length ≤ maxObservedLogBytes) : consumed <+: observed content := by
  rw [observed, List.prefix_take_iff]
  exact ⟨hle, hbound⟩

theorem readCount_le (available maximum short : ℕ) :
    readCount available maximum short ≤ min available maximum := by
  unfold readCount
  split <;> omega

theorem readCount_eq_zero {available maximum short : ℕ} :
    readCount available maximum short = 0 ↔ min available maximum = 0 := by
  unfold readCount
  split <;> omega

/-- A read extends what has been consumed, and is empty only at the end of the file. -/
theorem read_spec {content consumed : Bytes} {cursor : LogCursor} (h : Tracks consumed cursor)
    (hle : consumed <+: content) (hbound : cursor.scanned < maxObservedLogBytes) (short : ℕ) :
    consumed ++ cursor.read content short <+: content ∧
      (consumed ++ cursor.read content short).length ≤ maxObservedLogBytes ∧
      ((cursor.read content short).length = 0 → consumed = content) := by
  obtain ⟨rest, rfl⟩ := hle
  have hread : cursor.read (consumed ++ rest) short =
      rest.take (readCount rest.length (min (maxObservedLogBytes - consumed.length) 4096) short) := by
    rw [LogCursor.read, h.offset, h.scanned, List.drop_left, List.length_append,
      Nat.add_sub_cancel_left]
  rw [h.scanned] at hbound
  have hcount := readCount_le rest.length (min (maxObservedLogBytes - consumed.length) 4096) short
  have hzero := @readCount_eq_zero rest.length (min (maxObservedLogBytes - consumed.length) 4096)
    short
  rw [hread]
  refine ⟨?_, ?_, ?_⟩
  · exact (List.prefix_append_right_inj consumed).mpr (List.take_prefix _ _)
  · rw [List.length_append, List.length_take]
    omega
  · intro hempty
    rw [List.length_take] at hempty
    have hnil : rest = [] := List.eq_nil_of_length_eq_zero (by omega)
    rw [hnil, List.append_nil]

theorem Tracks.advance {content consumed : Bytes} {cursor : LogCursor} (h : Tracks consumed cursor)
    {short : ℕ} (hbound : (consumed ++ cursor.read content short).length ≤ maxObservedLogBytes) :
    Buffers consumed (cursor.advance (cursor.read content short).length) ∧
      (cursor.advance (cursor.read content short).length).offset =
        (consumed ++ cursor.read content short).length ∧
      (cursor.advance (cursor.read content short).length).scanned =
        (consumed ++ cursor.read content short).length := by
  rw [List.length_append] at hbound ⊢
  refine ⟨⟨h.short, h.long⟩, ?_, ?_⟩
  · show saturatingAdd _ _ = _
    simp only [saturatingAdd, h.offset, maxObservedLogBytes] at hbound ⊢
    omega
  · show saturatingAdd _ _ = _
    simp only [saturatingAdd, h.scanned, maxObservedLogBytes] at hbound ⊢
    omega

/-- A poll reads on until it has seen all that is visible, unless it finds the needle. -/
theorem readLoop_spec {needle content : Bytes}
    (hneedle : needle.length ≤ maxDiagnosticRecordBytes) (shortReads : ℕ → ℕ) (call : ℕ)
    {consumed : Bytes} {cursor : LogCursor} (h : Tracks consumed cursor)
    (hle : consumed <+: content) (hbound : consumed.length ≤ maxObservedLogBytes)
    (hmiss : ¬Hit needle consumed) :
    ((LogCursor.readLoop needle content shortReads call cursor).1 = true ↔
        Hit needle (observed content)) ∧
      ((LogCursor.readLoop needle content shortReads call cursor).1 = false →
        Tracks (observed content) (LogCursor.readLoop needle content shortReads call cursor).2) := by
  fun_induction LogCursor.readLoop needle content shortReads call cursor generalizing consumed with
  | case1 call cursor hscanned hread =>
    obtain rfl := (read_spec h hle hscanned _).2.2 hread
    have hall : observed consumed = consumed := List.take_of_length_le hbound
    rw [hall]
    exact ⟨iff_of_false nofun hmiss, fun _ => h⟩
  | case2 call cursor hscanned hread matched hscan =>
    obtain ⟨hle', hbound', _⟩ := read_spec h hle hscanned (shortReads call)
    have hspec := scanChunk_spec hneedle (h.advance hbound').1 hmiss
      (cursor.read content (shortReads call))
    rw [hscan] at hspec
    exact ⟨iff_of_true rfl ((hspec.1.mp rfl).mono (prefix_observed hle' hbound')), nofun⟩
  | case3 call cursor hscanned hread scanned hscan ih =>
    obtain ⟨hle', hbound', _⟩ := read_spec h hle hscanned (shortReads call)
    obtain ⟨hbuffers, hoffset, hscanned'⟩ := h.advance hbound'
    have hspec := scanChunk_spec hneedle hbuffers hmiss (cursor.read content (shortReads call))
    have hposition := LogCursor.scanChunk_position needle
      (cursor.advance (cursor.read content (shortReads call)).length)
      (cursor.read content (shortReads call))
    rw [hscan] at hspec hposition
    refine ih ⟨hspec.2 rfl, hposition.1.trans hoffset, hposition.2.trans hscanned'⟩ hle' hbound' ?_
    exact fun hit => nomatch hspec.1.mpr hit
  | case4 call cursor hscanned =>
    rw [h.scanned] at hscanned
    have hall : observed content = consumed := by
      obtain ⟨rest, rfl⟩ := hle
      have hfull : maxObservedLogBytes = consumed.length := by omega
      rw [observed, hfull, List.take_left]
    rw [hall]
    exact ⟨iff_of_false nofun hmiss, fun _ => h⟩

-- ════════════════════════════════════════════════════════════════════════
-- Series of polls
-- ════════════════════════════════════════════════════════════════════════

theorem length_observed_le (content : Bytes) : (observed content).length ≤ maxObservedLogBytes :=
  List.length_take_le _ _

theorem observed_mono {content content' : Bytes} (h : content <+: content') :
    observed content <+: observed content' :=
  prefix_observed ((List.take_prefix _ _).trans h) (length_observed_le content)

theorem containsNew_spec {needle seen : Bytes} {cursor : LogCursor} {poll : Poll}
    (hneedle : needle.length ≤ maxDiagnosticRecordBytes) (h : Tracks (observed seen) cursor)
    (hgrow : seen <+: poll.visible) (hmiss : ¬Hit needle (observed seen)) :
    ((LogCursor.containsNew needle poll cursor).1 = true ↔
        Hit needle (observed poll.visible)) ∧
      ((LogCursor.containsNew needle poll cursor).1 = false →
        Tracks (observed poll.visible) (LogCursor.containsNew needle poll cursor).2) := by
  obtain ⟨file, shortReads⟩ := poll
  cases file with
  | none =>
    obtain rfl : seen = [] := List.prefix_nil.mp hgrow
    exact ⟨iff_of_false nofun hmiss, fun _ => h⟩
  | some content =>
    have hle : observed seen <+: content := (List.take_prefix _ _).trans hgrow
    -- an append-only log is never shorter than the offset
    have hkept : ¬content.length < cursor.offset := by
      rw [h.offset]
      exact Nat.not_lt.mpr hle.length_le
    simp only [LogCursor.containsNew, Poll.visible, Option.getD_some, if_neg hkept]
    split
    · next hfull =>
      have hloop := readLoop_spec hneedle shortReads 0 h hle (length_observed_le seen) hmiss
      rw [LogCursor.readLoop, dif_neg (Nat.not_lt.mpr hfull)] at hloop
      exact hloop
    · exact readLoop_spec hneedle shortReads 0 h hle (length_observed_le seen) hmiss

/-- A new cursor has seen nothing. -/
theorem tracks_observed_nil (needle : Bytes) :
    Tracks (observed []) LogCursor.new ∧ ¬Hit needle (observed []) := by
  have hnil : observed [] = [] := List.take_nil
  rw [hnil]
  refine ⟨tracks_new, ?_⟩
  rintro ⟨line, hline, -⟩
  exact absurd hline List.not_mem_nil

/-- The polls see a log that only grows. -/
def Grows (polls : List Poll) : Prop :=
  polls.Pairwise fun earlier later => earlier.visible <+: later.visible

/-- The first positive answer comes at the first poll that sees a matching line. -/
theorem findIdx?_answers {needle seen : Bytes} {cursor : LogCursor} {polls : List Poll}
    (hneedle : needle.length ≤ maxDiagnosticRecordBytes) (h : Tracks (observed seen) cursor)
    (hmiss : ¬Hit needle (observed seen)) (hseen : ∀ poll ∈ polls, seen <+: poll.visible)
    (hgrows : Grows polls) :
    (LogCursor.answers needle cursor polls).findIdx? (· = true) =
      polls.findIdx? fun poll => Hit needle (observed poll.visible) := by
  induction polls generalizing seen cursor with
  | nil => rfl
  | cons poll rest ih =>
    rw [List.forall_mem_cons] at hseen
    obtain ⟨hlater, hrest⟩ := List.pairwise_cons.mp hgrows
    obtain ⟨hfound, htracks⟩ := containsNew_spec hneedle h hseen.1 hmiss
    rw [LogCursor.answers, List.findIdx?_cons, List.findIdx?_cons]
    by_cases hhit : Hit needle (observed poll.visible)
    · rw [if_pos (by simpa using hfound.mpr hhit), if_pos (by simpa using hhit)]
    · have hfalse : (LogCursor.containsNew needle poll cursor).1 = false :=
        Bool.eq_false_iff.mpr (mt hfound.mp hhit)
      rw [if_neg (by simpa using hfalse), if_neg (by simpa using hhit),
        ih (htracks hfalse) hhit hlater hrest]

theorem findIdx?_answers_new {needle : Bytes} {polls : List Poll}
    (hneedle : needle.length ≤ maxDiagnosticRecordBytes) (hgrows : Grows polls) :
    (LogCursor.answers needle .new polls).findIdx? (· = true) =
      polls.findIdx? fun poll => Hit needle (observed poll.visible) := by
  obtain ⟨htracks, hmiss⟩ := tracks_observed_nil needle
  exact findIdx?_answers hneedle htracks hmiss (fun _ _ => List.nil_prefix) hgrows

/-- Some poll answers yes exactly when the last one could see a matching line. -/
theorem true_mem_answers {needle : Bytes} {polls : List Poll} {last : Poll}
    (hneedle : needle.length ≤ maxDiagnosticRecordBytes) (hgrows : Grows (polls ++ [last])) :
    true ∈ LogCursor.answers needle .new (polls ++ [last]) ↔
      Hit needle (observed last.visible) := by
  have hsome := congrArg Option.isSome (findIdx?_answers_new hneedle hgrows)
  rw [List.findIdx?_isSome, List.findIdx?_isSome, Bool.eq_iff_iff, List.any_eq_true,
    List.any_eq_true] at hsome
  have hlater := (List.pairwise_append.mp hgrows).2.2
  constructor
  · intro h
    obtain ⟨poll, hpoll, hhit⟩ := hsome.mp ⟨true, h, rfl⟩
    rcases List.mem_append.mp hpoll with hpoll | hpoll
    · have hle := hlater poll hpoll last (List.mem_singleton_self _)
      exact (of_decide_eq_true hhit).mono (observed_mono hle)
    · exact List.mem_singleton.mp hpoll ▸ of_decide_eq_true hhit
  · intro h
    obtain ⟨answer, hmem, hanswer⟩ := hsome.mpr
      ⟨last, List.mem_append_right _ (List.mem_singleton_self _), decide_eq_true h⟩
    exact of_decide_eq_true hanswer ▸ hmem

theorem observed_of_complete {file : Option Bytes} (h : (readLogBounded file).2 = false) :
    observed (file.getD []) = (readLogBounded file).1 := by
  cases file with
  | none => exact List.take_nil
  | some content =>
    have hle : content.length ≤ maxCapturedLogBytes := by
      simp only [readLogBounded, List.length_take] at h
      split at h
      · cases h
      · omega
    rw [readLogBounded_of_le hle]
    exact List.take_of_length_le hle

theorem watch_of_observed (rounds : List (Poll × ℕ)) (cursors : List LogCursor) (elapsed : ℕ) :
    (ReadyMarkerObserver.watch rounds ⟨cursors, some elapsed⟩).observedAt.isSome = true := by
  induction rounds with
  | nil => rfl
  | cons round rest ih => exact ih

/-- The observer has recorded an observation once a poll has answered yes. -/
theorem observedAt_watch {rounds : List (Poll × ℕ)} {cursor : LogCursor} :
    (ReadyMarkerObserver.watch rounds ⟨[cursor], none⟩).observedAt.isSome = true ↔
      true ∈ LogCursor.answers readyMarker cursor (rounds.map Prod.fst) := by
  induction rounds generalizing cursor with
  | nil => exact iff_of_false nofun List.not_mem_nil
  | cons round rest ih =>
    rw [List.map_cons, LogCursor.answers, List.mem_cons]
    cases hnew : LogCursor.containsNew readyMarker round.1 cursor with
    | mk found next =>
      have hobserve : ReadyMarkerObserver.watch (round :: rest) ⟨[cursor], none⟩ =
          ReadyMarkerObserver.watch rest
            ⟨[next], if found then some round.2 else none⟩ := by
        simp only [ReadyMarkerObserver.watch, List.foldl_cons, ReadyMarkerObserver.observe,
          Option.isSome_none, Bool.false_eq_true, if_false, ReadyMarkerObserver.observeCursors, hnew]
        cases found <;> rfl
      rw [hobserve]
      cases found with
      | false =>
        rw [if_neg Bool.false_ne_true, ih]
        exact (or_iff_right Bool.false_ne_true.symm).symm
      | true => exact iff_of_true (watch_of_observed rest _ round.2) (.inl rfl)

theorem hit_readyMarker {bytes : Bytes} : Hit readyMarker bytes ↔ readyMarker ∈ records bytes := by
  have hkind : readyMarker ∈ RecordKind.ready.texts := List.mem_singleton_self _
  have hrecord : isRecord readyMarker = true :=
    (recognised_of_mem _ (mem_catalogue_iff.mpr hkind)).isRecord
  rw [records, List.mem_filter, List.mem_map, and_iff_left hrecord]
  rfl

/-- An accepted capture is the whole log, and its evidence for the ready record
is a matching line of that log. -/
theorem ready_iff_hit {file : Option Bytes}
    (h : (parseProtocolStream (readLogBounded file).1 (readLogBounded file).2).violation = none) :
    (parseProtocolStream (readLogBounded file).1 (readLogBounded file).2).markers.ready = true ↔
      Hit readyMarker (observed (file.getD [])) := by
  have htrace : parseProtocolStream (readLogBounded file).1 (readLogBounded file).2 =
      ⟨(parseProtocolStream (readLogBounded file).1 (readLogBounded file).2).markers, none⟩ := by
    rw [← h]
  obtain ⟨hcomplete, _, haccepted⟩ := parseProtocolStream_eq_ok.mp htrace
  rw [observed_of_complete hcomplete, hit_readyMarker]
  constructor
  · intro hready
    rw [haccepted.path_of_ready hready]
    exact List.mem_of_getElem? (i := 3) rfl
  · exact haccepted.ready_of_mem

/-- Watching a growing log is searching it: some poll reports the ready record
exactly when the complete log has it as a terminated line within its first
4 MiB, and the first such report is at the first poll that could see that line.
Where the captured log is free of violations, the observer agrees with its trace. -/
theorem watching_is_batch_search (rounds : List (Poll × ℕ)) (last : Poll × ℕ)
    (hgrows : Grows ((rounds ++ [last]).map Prod.fst)) :
    let polls := (rounds ++ [last]).map Prod.fst
    let found := LogCursor.answers readyMarker .new polls
    let trace := parseProtocolStream (readLogBounded last.1.file).1 (readLogBounded last.1.file).2
    (true ∈ found ↔ Hit readyMarker (observed last.1.visible)) ∧
    (found.findIdx? (· = true) =
      polls.findIdx? fun poll => Hit readyMarker (observed poll.visible)) ∧
    (trace.violation = none →
      ((ReadyMarkerObserver.watch (rounds ++ [last]) (.new 1)).observedAt.isSome = true ↔
        trace.markers.ready = true)) := by
  intro polls found trace
  have hneedle : readyMarker.length ≤ maxDiagnosticRecordBytes := by decide +kernel
  have hfound : true ∈ found ↔ Hit readyMarker (observed last.1.visible) := by
    have hpolls : polls = rounds.map Prod.fst ++ [last.1] := List.map_append
    show true ∈ LogCursor.answers readyMarker .new polls ↔ _
    rw [hpolls]
    exact true_mem_answers hneedle (hpolls ▸ hgrows)
  refine ⟨hfound, findIdx?_answers_new hneedle hgrows, fun hviolation => ?_⟩
  calc (ReadyMarkerObserver.watch (rounds ++ [last]) (.new 1)).observedAt.isSome = true
      ↔ true ∈ found := observedAt_watch
    _ ↔ Hit readyMarker (observed last.1.visible) := hfound
    _ ↔ trace.markers.ready = true := (ready_iff_hit hviolation).symm

/-- The log of a successful boot, with a serial console's line ends. -/
def readyLog : Bytes := (kernelPath readyMarker).flatMap (· ++ [13, 10])

/-- Before the log exists, and when it ends inside the ready record. -/
def earlyRounds : List (Poll × ℕ) :=
  [(⟨none, fun _ => 7⟩, 0), (⟨some (readyLog.take 270), fun _ => 7⟩, 5)]

def lastRound : Poll × ℕ := (⟨some readyLog, fun _ => 7⟩, 10)

theorem watching_is_batch_search_ready :
    Grows ((earlyRounds ++ [lastRound]).map Prod.fst) ∧
      (parseProtocolStream readyLog false).violation = none ∧
      (ReadyMarkerObserver.watch (earlyRounds ++ [lastRound]) (.new 1)).observedAt.isSome = true := by
  have hgrows : Grows ((earlyRounds ++ [lastRound]).map Prod.fst) := by
    simp [Grows, earlyRounds, lastRound, Poll.visible, List.take_prefix]
  have hbounded : readLogBounded (some readyLog) = (readyLog, false) := by decide +kernel
  have htail : isRecord (tail readyLog) = false := by decide +kernel
  have hrecords : records readyLog = kernelPath readyMarker := by decide +kernel
  have htrace := parseProtocolStream_of_accepted htail hrecords .ready
  have hsearch := (watching_is_batch_search earlyRounds lastRound hgrows).2.2
  simp only [lastRound, hbounded, htrace] at hsearch
  exact ⟨hgrows, congrArg ProtocolTrace.violation htrace, (hsearch trivial).mpr trivial⟩

end PolytopeOS.Host
