import PolytopeOS.Corelib.Exec
import PolytopeOS.Corelib.LittleEndian

/-!
# Byte cursors and exact decoders

A `Reader` walks over a byte string and a `Writer` overwrites one in place; both
panic when asked to go past the end. `Decodes d P s n` says that the decoder `d`
succeeds exactly on the strings `s a` of length `n`, one for each value `a` with
`P a`, and `Writes e out` that the encoder `e` emits `out`. Both compose along
the fields of a record and along arrays, so a record codec is checked one field
at a time.
-/

namespace Corelib

/-- A read cursor that has not passed the end of its bytes. -/
structure Reader where
  bytes : Bytes
  position : ℕ
  position_le : position ≤ bytes.length

/-- A write cursor that has not passed the end of its bytes. -/
structure Writer where
  bytes : Bytes
  position : ℕ
  position_le : position ≤ bytes.length

abbrev Decoder (ε α : Type) := StateT Reader (Exec ε) α

abbrev Encoder (ε α : Type) := StateT Writer (Exec ε) α

variable {ε α β : Type}

namespace Reader

def new (bytes : Bytes) : Reader := ⟨bytes, 0, Nat.zero_le _⟩

/-- The bytes a reader has not consumed. -/
def rest (r : Reader) : Bytes := r.bytes.drop r.position

@[simp] theorem rest_new (bytes : Bytes) : (new bytes).rest = bytes := rfl

theorem length_rest (r : Reader) : r.rest.length = r.bytes.length - r.position :=
  List.length_drop

/-- Going from `r` to `r'` consumes exactly `chunk`. -/
def Reads (r : Reader) (chunk : Bytes) (r' : Reader) : Prop :=
  r'.bytes = r.bytes ∧ r.rest = chunk ++ r'.rest

theorem Reads.refl (r : Reader) : r.Reads [] r := ⟨rfl, rfl⟩

theorem reads_nil {r r' : Reader} : r.Reads [] r' ↔ r' = r := by
  constructor
  · rintro ⟨hb, hr⟩
    have hl := congrArg List.length hr
    simp only [List.nil_append, length_rest, hb] at hl
    have h1 := r.position_le
    have h2 := r'.position_le
    rw [hb] at h2
    cases r
    cases r'
    simp only [Reader.mk.injEq] at *
    exact ⟨hb, by omega⟩
  · rintro rfl
    exact Reads.refl _

theorem Reads.position_eq {r r' : Reader} {chunk : Bytes} (h : r.Reads chunk r') :
    r'.position = r.position + chunk.length := by
  obtain ⟨hb, hr⟩ := h
  have hl := congrArg List.length hr
  simp only [List.length_append, length_rest, hb] at hl
  have h1 := r.position_le
  have h2 := r'.position_le
  rw [hb] at h2
  omega

/-- `self.bytes[self.position..self.position + n]`, then advance. -/
def slice (n : ℕ) : Decoder ε Bytes := fun r =>
  if h : r.position + n ≤ r.bytes.length then
    .ok ((r.bytes.drop r.position).take n, ⟨r.bytes, r.position + n, h⟩)
  else .panic

theorem slice_eq_ok {n : ℕ} {r r' : Reader} {chunk : Bytes} :
    (slice n : Decoder ε Bytes) r = .ok (chunk, r') ↔ chunk.length = n ∧ r.Reads chunk r' := by
  unfold slice
  constructor
  · intro h
    split at h
    · next hle =>
      simp only [Exec.ok.injEq, Prod.mk.injEq] at h
      obtain ⟨rfl, rfl⟩ := h
      refine ⟨?_, rfl, ?_⟩
      · rw [List.length_take, List.length_drop]
        omega
      · simp only [rest]
        rw [← List.drop_drop, List.take_append_drop]
    · simp at h
  · rintro ⟨rfl, h⟩
    have hpos := h.position_eq
    obtain ⟨hb, hr⟩ := h
    have hle := r'.position_le
    rw [hb, hpos] at hle
    rw [dif_pos hle]
    simp only [Exec.ok.injEq, Prod.mk.injEq]
    refine ⟨?_, ?_⟩
    · change List.take chunk.length r.rest = chunk
      rw [hr, List.take_left]
    · cases r'
      simp only [Reader.mk.injEq]
      exact ⟨hb.symm, hpos.symm⟩

end Reader

/-- `d` succeeds exactly on the strings `s a` with `P a`, all of length `n`. -/
structure Decodes (d : Decoder ε α) (P : α → Prop) (s : α → Bytes) (n : ℕ) : Prop where
  length_eq : ∀ a, P a → (s a).length = n
  total : ∀ r : Reader, n ≤ r.rest.length → ∃ a r', d r = .ok (a, r')
  eq_ok_iff : ∀ (r : Reader) a r', d r = .ok (a, r') ↔ P a ∧ r.Reads (s a) r'

namespace Decodes

theorem cast {d : Decoder ε α} {P : α → Prop} {s : α → Bytes} {n m : ℕ}
    (h : Decodes d P s n) (hn : n = m) : Decodes d P s m := hn ▸ h

theorem congr {d : Decoder ε α} {P : α → Prop} {s s' : α → Bytes} {n : ℕ}
    (h : Decodes d P s n) (hs : ∀ a, s' a = s a) : Decodes d P s' n := by
  obtain rfl : s' = s := funext hs
  exact h

/-- Two values with one encoding are the same. -/
theorem injective {d : Decoder ε α} {P : α → Prop} {s : α → Bytes} {n : ℕ} (h : Decodes d P s n)
    {a b : α} (ha : P a) (hb : P b) (heq : s a = s b) : a = b := by
  obtain ⟨r, r', hreads⟩ : ∃ r r' : Reader, r.Reads (s a) r' :=
    ⟨.new (s a), ⟨s a, (s a).length, le_rfl⟩, rfl,
      by rw [Reader.rest_new, Reader.rest, List.drop_length, List.append_nil]⟩
  have hfirst := (h.eq_ok_iff r a r').mpr ⟨ha, hreads⟩
  rw [heq] at hreads
  have hsecond := (h.eq_ok_iff r b r').mpr ⟨hb, hreads⟩
  exact (Prod.mk.inj (Exec.ok.inj (hfirst.symm.trans hsecond))).1

/-- The end of a record: nothing more is consumed. -/
theorem pure {P : α → Prop} (a : α) (hP : ∀ b, P b ↔ b = a) :
    Decodes (Pure.pure a : Decoder ε α) P (fun _ => []) 0 where
  length_eq _ _ := rfl
  total r _ := ⟨a, r, rfl⟩
  eq_ok_iff r b r' := by
    rw [Reader.reads_nil, hP]
    change Exec.ok (a, r) = Exec.ok (b, r') ↔ _
    simp only [Exec.ok.injEq, Prod.mk.injEq]
    exact ⟨fun h => ⟨h.1.symm, h.2.symm⟩, fun h => ⟨h.1.symm, h.2.symm⟩⟩

/-- One more field: the value read is the field `proj` of the record. -/
theorem bind {d : Decoder ε α} {k : α → Decoder ε β} {s : α → Bytes} {t : β → Bytes}
    {Q : β → Prop} {n m : ℕ} (proj : β → α) (hd : Decodes d (fun _ => True) s n)
    (hk : ∀ a, Decodes (k a) (fun b => Q b ∧ proj b = a) t m) :
    Decodes (d >>= k) Q (fun b => s (proj b) ++ t b) (n + m) where
  length_eq b hb := by
    rw [List.length_append, hd.length_eq _ trivial, (hk _).length_eq b ⟨hb, rfl⟩]
  total r hr := by
    obtain ⟨a, r₁, ha⟩ := hd.total r (by omega)
    have hlen := congrArg List.length ((hd.eq_ok_iff r a r₁).mp ha).2.2
    rw [List.length_append, hd.length_eq a trivial] at hlen
    obtain ⟨b, r₂, hb⟩ := (hk a).total r₁ (by omega)
    refine ⟨b, r₂, ?_⟩
    change (d r >>= fun p => k p.1 p.2) = _
    rw [ha]
    exact hb
  eq_ok_iff r b r' := by
    change (d r >>= fun p => k p.1 p.2) = _ ↔ _
    rw [Exec.bind_eq_ok]
    constructor
    · rintro ⟨⟨a, r₁⟩, ha, hb⟩
      obtain ⟨-, hb₁, hr₁⟩ := (hd.eq_ok_iff r a r₁).mp ha
      obtain ⟨⟨hQ, rfl⟩, hb₂, hr₂⟩ := ((hk a).eq_ok_iff r₁ b r').mp hb
      exact ⟨hQ, hb₂.trans hb₁, by rw [hr₁, hr₂, List.append_assoc]⟩
    · rintro ⟨hQ, hb, hr⟩
      -- the field's own length tells where the record continues
      have hlen : n ≤ r.rest.length := by
        rw [hr, List.length_append, List.length_append, hd.length_eq _ trivial]
        omega
      obtain ⟨a, r₁, ha⟩ := hd.total r hlen
      obtain ⟨-, hb₁, hr₁⟩ := (hd.eq_ok_iff r a r₁).mp ha
      have hsplit : s a ++ r₁.rest = s (proj b) ++ (t b ++ r'.rest) := by
        rw [← hr₁, hr, List.append_assoc]
      obtain ⟨hs, hrest⟩ := List.append_inj hsplit
        (by rw [hd.length_eq _ trivial, hd.length_eq _ trivial])
      have hproj : proj b = a := by
        have hread : d r = .ok (proj b, r₁) :=
          (hd.eq_ok_iff r (proj b) r₁).mpr ⟨trivial, hb₁, by rw [hr₁, hs]⟩
        rw [ha] at hread
        simp only [Exec.ok.injEq, Prod.mk.injEq] at hread
        exact hread.1.symm
      exact ⟨(a, r₁), ha, ((hk a).eq_ok_iff r₁ b r').mpr ⟨⟨hQ, hproj⟩, hb.trans hb₁.symm, hrest⟩⟩

/-- A decoder followed by an injective reading of the bytes as a value. -/
theorem ofSlice {n : ℕ} {f : Bytes → α} {s : α → Bytes}
    (hlen : ∀ a, (s a).length = n)
    (hf : ∀ bytes a, bytes.length = n → (f bytes = a ↔ bytes = s a)) :
    Decodes (do return f (← Reader.slice n) : Decoder ε α) (fun _ => True) s n where
  length_eq a _ := hlen a
  total r hr := by
    rw [Reader.length_rest] at hr
    have hle := r.position_le
    refine ⟨f ((r.bytes.drop r.position).take n), ⟨r.bytes, r.position + n, by omega⟩, ?_⟩
    change ((Reader.slice n : Decoder ε Bytes) r >>= fun p => Exec.ok (f p.1, p.2)) = _
    rw [Reader.slice, dif_pos (by omega)]
    rfl
  eq_ok_iff r a r' := by
    change ((Reader.slice n : Decoder ε Bytes) r >>= fun p => Exec.ok (f p.1, p.2)) = _ ↔ _
    simp only [Exec.bind_eq_ok, Exec.ok.injEq, Prod.exists, Prod.mk.injEq, true_and]
    constructor
    · rintro ⟨chunk, r₁, hread, hfa, rfl⟩
      obtain ⟨hn, hreads⟩ := Reader.slice_eq_ok.mp hread
      rw [(hf chunk a hn).mp hfa] at hreads
      exact hreads
    · intro hreads
      exact ⟨s a, r', Reader.slice_eq_ok.mpr ⟨hlen a, hreads⟩, (hf _ a (hlen a)).mpr rfl, rfl⟩

end Decodes

namespace Reader

def array8 : Decoder ε (Vector UInt8 8) := do
  let bytes ← slice 8
  return Vector.ofFn (fun i : Fin 8 => bytes.getD i 0)

def u16 : Decoder ε UInt16 := do return u16OfLe (← slice 2)

def u32 : Decoder ε UInt32 := do return u32OfLe (← slice 4)

def u64 : Decoder ε UInt64 := do return u64OfLe (← slice 8)

end Reader

theorem decodes_array8 :
    Decodes (Reader.array8 : Decoder ε (Vector UInt8 8)) (fun _ => True) Vector.toList 8 := by
  refine Decodes.ofSlice (f := fun bytes => Vector.ofFn (fun i : Fin 8 => bytes.getD i 0))
    (fun v => by simp) ?_
  intro bytes v hlen
  constructor
  · rintro rfl
    apply List.ext_getElem
    · simp [hlen]
    · intro i h1 h2
      simp [h1]
  · rintro rfl
    ext i hi
    simp

theorem decodes_u16 : Decodes (Reader.u16 : Decoder ε UInt16) (fun _ => True) u16ToLe 2 :=
  Decodes.ofSlice length_u16ToLe (fun _ _ h => u16OfLe_eq_iff h)

theorem decodes_u32 : Decodes (Reader.u32 : Decoder ε UInt32) (fun _ => True) u32ToLe 4 :=
  Decodes.ofSlice length_u32ToLe (fun _ _ h => u32OfLe_eq_iff h)

theorem decodes_u64 : Decodes (Reader.u64 : Decoder ε UInt64) (fun _ => True) u64ToLe 8 :=
  Decodes.ofSlice length_u64ToLe (fun _ _ h => u64OfLe_eq_iff h)

/-- Fill an array of `n` slots from consecutive records. -/
def Decoder.array (d : Decoder ε α) : (n : ℕ) → Decoder ε (Vector α n)
  | 0 => pure #v[]
  | n + 1 => do
    let xs ← Decoder.array d n
    let x ← d
    return xs.push x

theorem Decodes.array {d : Decoder ε α} {s : α → Bytes} {k : ℕ}
    (hd : Decodes d (fun _ => True) s k) (n : ℕ) :
    Decodes (Decoder.array d n) (fun _ => True) (fun v => v.toList.flatMap s) (n * k) := by
  induction n with
  | zero =>
    have h : Decodes (Decoder.array d 0) (fun _ => True) (fun _ => []) 0 :=
      Decodes.pure #v[] (fun b => by simp)
    refine (h.congr fun v => ?_).cast (by simp)
    have hv : v = #v[] := by simp
    rw [hv]
    rfl
  | succ n ih =>
    have h : Decodes (Decoder.array d (n + 1)) (fun _ => True)
        (fun v => v.pop.toList.flatMap s ++ (s v.back ++ [])) (n * k + (k + 0)) := by
      refine Decodes.bind (fun v : Vector α (n + 1) => v.pop) ih fun (xs : Vector α n) => ?_
      refine Decodes.bind (fun v : Vector α (n + 1) => v.back) hd fun x => ?_
      refine Decodes.pure (xs.push x) fun v => ?_
      constructor
      · rintro ⟨⟨-, rfl⟩, rfl⟩
        simp
      · rintro rfl
        exact ⟨⟨trivial, Vector.pop_push⟩, Vector.back_eq_of_push_eq (Vector.push_pop_back _)⟩
    refine (h.congr fun v => ?_).cast (by rw [Nat.succ_mul, Nat.add_zero])
    conv_lhs => rw [← Vector.push_pop_back v, Vector.toList_push]
    simp

namespace Writer

def new (bytes : Bytes) : Writer := ⟨bytes, 0, Nat.zero_le _⟩

/-- The bytes written so far. -/
def written (w : Writer) : Bytes := w.bytes.take w.position

/-- The bytes the writer has not reached. -/
def rest (w : Writer) : Bytes := w.bytes.drop w.position

/-- `self.bytes[self.position..end].copy_from_slice(value)`, then advance. -/
def put (value : Bytes) : Encoder ε Unit := fun w =>
  if h : w.position + value.length ≤ w.bytes.length then
    .ok ((), ⟨w.bytes.take w.position ++ value ++ w.bytes.drop (w.position + value.length),
      w.position + value.length, by
        simp only [List.length_append, List.length_take, List.length_drop]
        omega⟩)
  else .panic

def u16 (value : UInt16) : Encoder ε Unit := put (u16ToLe value)

def u32 (value : UInt32) : Encoder ε Unit := put (u32ToLe value)

def u64 (value : UInt64) : Encoder ε Unit := put (u64ToLe value)

end Writer

/-- `e` appends `out` to what was written and skips as many old bytes. -/
def Writes (e : Encoder ε Unit) (out : Bytes) : Prop :=
  ∀ w : Writer, out.length ≤ w.rest.length → ∃ w', e w = .ok ((), w') ∧
    w'.written = w.written ++ out ∧ w'.rest = w.rest.drop out.length

namespace Writes

theorem put (value : Bytes) : Writes (Writer.put value : Encoder ε Unit) value := by
  intro w hlen
  have hle := w.position_le
  rw [Writer.rest, List.length_drop] at hlen
  have htake : (w.bytes.take w.position).length = w.position := by
    rw [List.length_take]
    omega
  refine ⟨_, dif_pos (by omega), ?_, ?_⟩
  · simp only [Writer.written]
    rw [List.take_append_of_le_length (by rw [List.length_append]; omega),
      List.take_of_length_le (by rw [List.length_append]; omega)]
  · simp only [Writer.rest]
    rw [List.drop_append_of_le_length (by rw [List.length_append]; omega),
      List.drop_of_length_le (by rw [List.length_append]; omega), List.nil_append,
      List.drop_drop]

theorem nil : Writes (pure () : Encoder ε Unit) [] := by
  intro w _
  exact ⟨w, rfl, by simp, by simp⟩

theorem append {e e' : Encoder ε Unit} {out out' : Bytes} (h : Writes e out) (h' : Writes e' out') :
    Writes (do e; e') (out ++ out') := by
  intro w hlen
  rw [List.length_append] at hlen
  obtain ⟨w₁, hw₁, hout₁, hrest₁⟩ := h w (by omega)
  obtain ⟨w₂, hw₂, hout₂, hrest₂⟩ := h' w₁ (by rw [hrest₁, List.length_drop]; omega)
  refine ⟨w₂, ?_, ?_, ?_⟩
  · change (e w >>= fun p => e' p.2) = _
    rw [hw₁]
    exact hw₂
  · rw [hout₂, hout₁, List.append_assoc]
  · rw [hrest₂, hrest₁, List.drop_drop, List.length_append]

end Writes

/-- Write one record after another. -/
def Encoder.each (e : α → Encoder ε Unit) : List α → Encoder ε Unit
  | [] => pure ()
  | a :: rest => do e a; Encoder.each e rest

theorem Writes.each {e : α → Encoder ε Unit} {s : α → Bytes} (h : ∀ a, Writes (e a) (s a))
    (xs : List α) : Writes (Encoder.each e xs) (xs.flatMap s) := by
  induction xs with
  | nil => exact Writes.nil
  | cons x xs ih =>
    rw [List.flatMap_cons]
    exact (h x).append ih

/-- An encoder that fills a buffer exactly leaves its output there. -/
theorem Writes.fills {e : Encoder ε Unit} {out : Bytes} (h : Writes e out) {buffer : Bytes}
    (hlen : buffer.length = out.length) :
    ∃ w, e (Writer.new buffer) = .ok ((), w) ∧ w.bytes = out ∧ w.position = out.length := by
  obtain ⟨w, hw, hout, hrest⟩ := h (Writer.new buffer) (by simp [Writer.rest, Writer.new, hlen])
  have hnil : w.rest = [] := by
    rw [hrest]
    simp [Writer.rest, Writer.new, hlen]
  have hwritten : w.written = out := by
    rw [hout]
    simp [Writer.written, Writer.new]
  refine ⟨w, hw, ?_, ?_⟩
  · rw [← List.take_append_drop w.position w.bytes]
    change w.written ++ w.rest = out
    rw [hwritten, hnil, List.append_nil]
  · rw [← hwritten, Writer.written, List.length_take, Nat.min_eq_left w.position_le]

end Corelib
