import PolytopeOS.Corelib.LittleEndian
import PolytopeOS.Corelib.Word

/-!
# Bounded reading in chunks

A loop that reads chunks until an empty one and stops when the total would pass
a limit. `readChunks` also records what the loop holds at each read, so that the
number of reads and the memory in use can be stated. `Delivers` is the meaning of
the stream alone: the concatenation of the chunks before the first empty one.
-/

namespace Corelib

/-- Why a bounded read stops without a result. -/
inductive ReadError where
  | device
  | overflow
  | limit
  | reserve
  deriving DecidableEq, Repr

/-- A run of the loop: its outcome, and the bytes held at each read. -/
structure ReadRun where
  outcome : Exec ReadError Bytes
  buffers : List Bytes

/-- The same run, one read earlier. -/
def ReadRun.after (bytes : Bytes) (run : ReadRun) : ReadRun := ⟨run.outcome, bytes :: run.buffers⟩

/-- The loop from its read number `call` on, holding `bytes`. `reserve` is asked
before a chunk is kept, with the number of the read and the new length. -/
def readChunks (read : ℕ → Option Bytes) (reserve : ℕ → ℕ → Bool) (maximum call : ℕ)
    (bytes : Bytes) : ReadRun :=
  match read call with
  | none => ⟨.err .device, [bytes]⟩
  | some chunk =>
    if _hcount : chunk.length = 0 then ⟨.ok bytes, [bytes]⟩
    else
      match _hlength : checkedSize (bytes.length + chunk.length) with
      | none => ⟨.err .overflow, [bytes]⟩
      | some newLength =>
        if _hlimit : newLength > maximum then ⟨.err .limit, [bytes]⟩
        else if !reserve call newLength then ⟨.err .reserve, [bytes]⟩
        else (readChunks read reserve maximum (call + 1) (bytes ++ chunk)).after bytes
termination_by maximum - bytes.length
decreasing_by
  have hlength := (checkedSize_eq_some.mp _hlength).2
  rw [List.length_append]
  omega

/-- The bytes that a stream delivers from a read on. A stream without an empty
chunk delivers nothing. -/
inductive Delivers (stream : ℕ → Bytes) : ℕ → Bytes → Prop
  | done {call : ℕ} (h : stream call = []) : Delivers stream call []
  | more {call : ℕ} {rest : Bytes} (h : stream call ≠ []) (hrest : Delivers stream (call + 1) rest) :
      Delivers stream call (stream call ++ rest)

variable {read : ℕ → Option Bytes} {reserve : ℕ → ℕ → Bool} {maximum call : ℕ} {bytes : Bytes}
  {stream : ℕ → Bytes}

/-- A turn that reads a chunk whose new length is in range. -/
theorem readChunks_chunk (read : ℕ → Option Bytes) {chunk : Bytes} {newLength : ℕ}
    (hread : read call = some chunk) (hcount : chunk.length ≠ 0)
    (hlength : checkedSize (bytes.length + chunk.length) = some newLength) :
    readChunks read reserve maximum call bytes =
      if newLength > maximum then ⟨.err .limit, [bytes]⟩
      else if !reserve call newLength then ⟨.err .reserve, [bytes]⟩
      else (readChunks read reserve maximum (call + 1) (bytes ++ chunk)).after bytes := by
  rw [readChunks]
  simp only [hread, hcount, dite_false]
  split
  · next hoverflow => cases hoverflow.symm.trans hlength
  · next hlength' =>
    obtain rfl := Option.some.inj (hlength.symm.trans hlength')
    rfl

theorem Delivers.unique {a b : Bytes} (ha : Delivers stream call a) (hb : Delivers stream call b) :
    a = b := by
  induction ha generalizing b with
  | done h =>
    cases hb with
    | done => rfl
    | more hne => exact absurd h hne
  | more hne _ ih =>
    cases hb with
    | done h => exact absurd h hne
    | more _ hrest => rw [ih hrest]

theorem Delivers.uncons {rest : Bytes} (h : Delivers stream call rest) (hne : stream call ≠ []) :
    ∃ after, rest = stream call ++ after ∧ Delivers stream (call + 1) after := by
  cases h with
  | done hnil => exact absurd hnil hne
  | more _ hafter => exact ⟨_, rfl, hafter⟩

/-- A chunk that does not fit cannot be part of what fits. -/
theorem Delivers.past {rest : Bytes} (h : Delivers stream call rest) (hne : stream call ≠ [])
    (hlong : maximum < bytes.length + (stream call).length) :
    maximum < (bytes ++ rest).length := by
  obtain ⟨after, rfl, _⟩ := h.uncons hne
  rw [List.length_append, List.length_append]
  omega

/-- Every read but the last adds at least one byte, and no buffer passes the limit. -/
theorem readChunks_bounded (read : ℕ → Option Bytes) (reserve : ℕ → ℕ → Bool) (call : ℕ)
    (h : bytes.length ≤ maximum) :
    (readChunks read reserve maximum call bytes).buffers.length + bytes.length ≤ maximum + 1 ∧
      ∀ buffer ∈ (readChunks read reserve maximum call bytes).buffers, buffer.length ≤ maximum := by
  fun_induction readChunks read reserve maximum call bytes with
  | case6 call bytes chunk hread hcount newLength hlength hlimit hreserve ih =>
    obtain ⟨-, rfl⟩ := checkedSize_eq_some.mp hlength
    rw [List.length_append] at ih
    obtain ⟨hreads, hheld⟩ := ih (by omega)
    refine ⟨?_, List.forall_mem_cons.mpr ⟨h, hheld⟩⟩
    rw [ReadRun.after, List.length_cons]
    omega
  | _ =>
    simp only [List.length_singleton, List.forall_mem_singleton]
    omega

/-- What the loop makes of a stream without device errors: the delivered bytes if
they fit, and otherwise an error. -/
theorem readChunks_outcome (reserve : ℕ → ℕ → Bool) (call : ℕ)
    (hread : ∀ call, read call = some (stream call)) (hfits : bytes.length ≤ maximum)
    (hmaximum : maximum < 2 ^ 64) :
    (∃ rest, Delivers stream call rest ∧ (bytes ++ rest).length ≤ maximum ∧
      (readChunks read reserve maximum call bytes).outcome = .ok (bytes ++ rest)) ∨
    ((∀ rest, Delivers stream call rest → maximum < (bytes ++ rest).length) ∧
      ((readChunks read reserve maximum call bytes).outcome = .err .limit ∨
        (readChunks read reserve maximum call bytes).outcome = .err .overflow)) ∨
    (readChunks read reserve maximum call bytes).outcome = .err .reserve := by
  fun_induction readChunks read reserve maximum call bytes with
  | case1 call bytes hdevice => cases (hread call).symm.trans hdevice
  | case2 call bytes chunk hchunk hcount =>
    obtain rfl := Option.some.inj ((hread call).symm.trans hchunk)
    refine Or.inl ⟨[], .done (List.length_eq_zero_iff.mp hcount), ?_, ?_⟩
    · rw [List.append_nil]
      exact hfits
    · rw [List.append_nil]
  | case3 call bytes chunk hchunk hcount hoverflow =>
    obtain rfl := Option.some.inj ((hread call).symm.trans hchunk)
    have hword : 2 ^ 64 ≤ bytes.length + (stream call).length := by
      by_contra hlt
      rw [checkedSize_of_lt (not_le.mp hlt)] at hoverflow
      cases hoverflow
    have hne : stream call ≠ [] := mt List.length_eq_zero_iff.mpr hcount
    exact Or.inr (Or.inl ⟨fun _ hrest => hrest.past hne (by omega), Or.inr rfl⟩)
  | case4 call bytes chunk hchunk hcount newLength hlength hlimit =>
    obtain rfl := Option.some.inj ((hread call).symm.trans hchunk)
    obtain ⟨-, rfl⟩ := checkedSize_eq_some.mp hlength
    have hne : stream call ≠ [] := mt List.length_eq_zero_iff.mpr hcount
    exact Or.inr (Or.inl ⟨fun _ hrest => hrest.past hne hlimit, Or.inl rfl⟩)
  | case5 => exact Or.inr (Or.inr rfl)
  | case6 call bytes chunk hchunk hcount newLength hlength hlimit hreserve ih =>
    obtain rfl := Option.some.inj ((hread call).symm.trans hchunk)
    obtain ⟨-, rfl⟩ := checkedSize_eq_some.mp hlength
    have hne : stream call ≠ [] := mt List.length_eq_zero_iff.mpr hcount
    have hlonger : (bytes ++ stream call).length ≤ maximum := by
      rw [List.length_append]
      omega
    rcases ih hlonger with ⟨rest, hrest, hle, hok⟩ | ⟨hlong, herr⟩ | hreserve
    · refine Or.inl ⟨stream call ++ rest, .more hne hrest, ?_, ?_⟩
      · rw [← List.append_assoc]
        exact hle
      · rw [← List.append_assoc]
        exact hok
    · refine Or.inr (Or.inl ⟨fun rest hrest => ?_, herr⟩)
      obtain ⟨after, rfl, hafter⟩ := hrest.uncons hne
      rw [← List.append_assoc]
      exact hlong after hafter
    · exact Or.inr (Or.inr hreserve)

/-- With an allocator that grants every length up to the limit, no run ends in its
error. -/
theorem readChunks_ne_reserve (h : ∀ call, ∀ length ≤ maximum, reserve call length = true) :
    (readChunks read reserve maximum call bytes).outcome ≠ .err .reserve := by
  fun_induction readChunks read reserve maximum call bytes with
  | case5 call bytes chunk hchunk hcount newLength hlength hlimit hreserve =>
    rw [h call newLength (not_lt.mp hlimit)] at hreserve
    cases hreserve
  | case6 _ _ _ _ _ _ _ _ _ ih => exact ih
  | _ => simp

/-- The bytes of the first `n` chunks. -/
def received (stream : ℕ → Bytes) (n : ℕ) : Bytes := (List.range n).flatMap stream

theorem received_succ (stream : ℕ → Bytes) (n : ℕ) :
    received stream (n + 1) = received stream n ++ stream n := by
  rw [received, List.range_succ, List.flatMap_append, List.flatMap_singleton]
  rfl

/-- It is enough that the allocator grants what the chunks so far add up to, as
long as that is within the limit. -/
theorem readChunks_received_ne_reserve (hread : ∀ call, read call = some (stream call))
    (h : ∀ n, (received stream (n + 1)).length ≤ maximum →
      reserve n (received stream (n + 1)).length = true) (hbytes : bytes = received stream call) :
    (readChunks read reserve maximum call bytes).outcome ≠ .err .reserve := by
  have hnext : ∀ {call : ℕ} {bytes chunk : Bytes}, bytes = received stream call →
      read call = some chunk → bytes ++ chunk = received stream (call + 1) := by
    intro call bytes chunk hbytes hchunk
    rw [received_succ, hbytes, Option.some.inj ((hread call).symm.trans hchunk)]
  fun_induction readChunks read reserve maximum call bytes with
  | case5 call bytes chunk hchunk hcount newLength hlength hlimit hreserve =>
    obtain ⟨-, rfl⟩ := checkedSize_eq_some.mp hlength
    rw [← List.length_append, hnext hbytes hchunk] at hlimit hreserve
    rw [h call (not_lt.mp hlimit)] at hreserve
    cases hreserve
  | case6 call bytes chunk hchunk hcount newLength hlength hlimit hgranted ih =>
    exact ih (hnext hbytes hchunk)
  | _ => simp

/-- An allocator that refuses lengths past half of the address space keeps the
length from overflowing. -/
theorem readChunks_ne_overflow (hreserve : ∀ call length, reserve call length = true →
      length < 2 ^ 63) (hchunk : ∀ call chunk, read call = some chunk → chunk.length ≤ 2 ^ 63)
    (hbytes : bytes.length < 2 ^ 63) :
    (readChunks read reserve maximum call bytes).outcome ≠ .err .overflow := by
  fun_induction readChunks read reserve maximum call bytes with
  | case3 call bytes chunk hread hcount hoverflow =>
    have hle := hchunk call chunk hread
    rw [checkedSize_of_lt (by omega)] at hoverflow
    cases hoverflow
  | case6 call bytes chunk hread hcount newLength hlength hlimit hgranted ih =>
    obtain ⟨-, rfl⟩ := checkedSize_eq_some.mp hlength
    refine ih ?_
    rw [List.length_append]
    exact hreserve call _ (by simpa using hgranted)
  | _ => simp

end Corelib
