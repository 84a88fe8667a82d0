import PolytopeOS.Corelib.Chunks
import PolytopeOS.Host.AtomicWrite
import PolytopeOS.Loader.Prepare

/-!
# Bounded file reads

The loader and the image builder each read a file in chunks under a limit. Both
loops are the one of `Corelib.readChunks`, with the errors each of them returns. On
the host itself a file is read at once, after its length was checked.
-/

namespace PolytopeOS.Host
open Corelib Loader

/-- The answers about a path, at the two calls of `read_bounded`. -/
structure Reading where
  /-- Whether it is a regular file, and its length. -/
  metadata : Option (Bool × ℕ)
  contents : Option Bytes

def readBounded (read : Bytes → Reading) (path : Bytes) (maximum : ℕ) (description : String) :
    Exec String Bytes := do
  let (isFile, length) ← Exec.okOr (read path).metadata
    ("failed to inspect " ++ description ++ " " ++ display path)
  Exec.ensure isFile (description ++ " is not a regular file: " ++ display path)
  Exec.ensure (length ≤ maximum) s!"{description} is {length} bytes; maximum is {maximum}"
  Exec.okOr (read path).contents ("failed to read " ++ description ++ " " ++ display path)

theorem readBounded_eq_ok {read : Bytes → Reading} {path bytes : Bytes} {maximum : ℕ}
    {description : String} : readBounded read path maximum description = .ok bytes ↔
      ∃ length, (read path).metadata = some (true, length) ∧ length ≤ maximum ∧
        (read path).contents = some bytes := by
  simp only [readBounded, ↓Exec.check_bind_eq_ok, Exec.bind_eq_ok, Exec.okOr_eq_ok,
    Exec.ensure_eq_ok]
  constructor
  · rintro ⟨⟨_, length⟩, hmetadata, rfl, hle, hcontents⟩
    exact ⟨length, hmetadata, hle, hcontents⟩
  · rintro ⟨length, hmetadata, hle, hcontents⟩
    exact ⟨(true, length), hmetadata, rfl, hle, hcontents⟩

/-- A directory of the image's file system. -/
structure FatDirectory where
  openFile : String → Option RegularFile

/-- A vector never holds more than `isize::MAX` bytes. -/
def maxVectorBytes : ℕ := 2 ^ 63 - 1

def fatReadErrors (path : String) (maximum : ℕ) : ReadError → String
  | .device => s!"failed to read ESP file {path}"
  | .overflow => s!"ESP file {path} length overflowed"
  | .limit => s!"ESP file {path} exceeds its {maximum}-byte limit"
  | .reserve => s!"failed to reserve bounded storage for ESP file {path}"

/-- The loop of `read_fat_file`, which reads 8 KiB at a time. -/
def fatReadRun (file : RegularFile) (tryReserve : ℕ → Bool) (maximum : ℕ) : ReadRun :=
  readChunks (fun call => file.read call (8 * 1024))
    (fun call length => decide (length ≤ maxVectorBytes) && tryReserve call) maximum 0 []

def readFatFile (root : FatDirectory) (tryReserve : ℕ → Bool) (path : String) (maximum : ℕ) :
    Exec String Bytes := do
  let file ← Exec.okOr (root.openFile path) s!"required ESP file {path} is missing"
  Exec.mapErr (fatReadErrors path maximum) (fatReadRun file tryReserve maximum).outcome

/-- The errors of the loader's loop: an overflowing length is past the limit. -/
def loaderReadErrors (limitError : LoaderError) : ReadError → LoaderError
  | .device => .fileRead
  | .overflow | .limit => limitError
  | .reserve => .allocation

def loaderChunkLength (maximum : ℕ) : ℕ := max 1 (min maximum fileReadChunkBytes)

/-- The loop of `read_bounded_file`. -/
def loaderReadRun (file : RegularFile) (tryReserve : ℕ → Bool) (maximum : ℕ) : ReadRun :=
  readChunks (fun call => file.read call (loaderChunkLength maximum))
    (fun call _ => tryReserve (call + 1)) maximum 0 []

theorem readLoop_eq_readChunks {file : RegularFile} {tryReserve : ℕ → Bool}
    {maximum chunkLength : ℕ} {limitError : LoaderError} {call : ℕ} {bytes : Bytes} :
    readLoop file tryReserve maximum chunkLength limitError call bytes =
      Exec.mapErr (loaderReadErrors limitError)
        (readChunks (fun call => file.read call chunkLength) (fun call _ => tryReserve (call + 1))
          maximum call bytes).outcome := by
  fun_induction readLoop file tryReserve maximum chunkLength limitError call bytes with
  | case1 call bytes hread => simp [readChunks, hread, Exec.mapErr, loaderReadErrors]
  | case2 call bytes chunk hread hcount => simp [readChunks, hread, hcount]
  | case3 call bytes chunk hread hcount hoverflow =>
    rw [readChunks]
    simp only [hread, hcount, dite_false]
    split
    · rfl
    · next hlength => cases hoverflow.symm.trans hlength
  | case4 call bytes chunk hread hcount newLength hlength hlimit =>
    rw [readChunks_chunk (file.read · chunkLength) hread hcount hlength, if_pos hlimit]
    rfl
  | case5 call bytes chunk hread hcount newLength hlength hlimit hreserve =>
    rw [readChunks_chunk (file.read · chunkLength) hread hcount hlength, if_neg hlimit,
      if_pos hreserve]
    rfl
  | case6 call bytes chunk hread hcount newLength hlength hlimit hreserve ih =>
    rw [readChunks_chunk (file.read · chunkLength) hread hcount hlength, if_neg hlimit,
      if_neg hreserve, ih]
    rfl

theorem readBoundedFile_eq {root : Directory} {file : RegularFile} {tryReserve : String → ℕ → Bool}
    {path : String} {maximum : ℕ} {limitError : LoaderError}
    (hopen : root.openFile path = some (some file)) (hreserve : tryReserve path 0 = true) :
    readBoundedFile root tryReserve path maximum limitError =
      Exec.mapErr (loaderReadErrors limitError)
        (loaderReadRun file (tryReserve path) maximum).outcome := by
  rw [readBoundedFile, hopen, Exec.okOr_some, Exec.ok_bind, Exec.okOr_some, Exec.ok_bind]
  simp only [hreserve, Bool.not_true, Bool.false_eq_true, if_false]
  exact readLoop_eq_readChunks

/-- A bounded read of a stream: it ends after few reads, holds no more than the
limit, returns what the stream delivers if that fits, and otherwise reports the
limit. -/
structure ExactRead {ε : Type} (maximum : ℕ) (errors : ReadError → ε) (stream : ℕ → Bytes)
    (run : ReadRun) (result : Exec ε Bytes) : Prop where
  traced : result = Exec.mapErr errors run.outcome
  reads : run.buffers.length ≤ maximum + 2
  held : ∀ buffer ∈ run.buffers, buffer.length ≤ maximum
  exact : ∀ content, result = .ok content ↔ Delivers stream 0 content ∧ content.length ≤ maximum
  otherwise : (¬∃ content, Delivers stream 0 content ∧ content.length ≤ maximum) →
    result = .err (errors .limit)

section Exact

variable {ε : Type} {maximum : ℕ} {errors : ReadError → ε} {stream : ℕ → Bytes}
  {read : ℕ → Option Bytes} {reserve : ℕ → ℕ → Bool}

theorem exactRead_readChunks (hmaximum : maximum < 2 ^ 64)
    (hread : ∀ call, read call = some (stream call))
    (hreserve : (readChunks read reserve maximum 0 []).outcome ≠ .err .reserve)
    (hoverflow : (readChunks read reserve maximum 0 []).outcome = .err .overflow →
      errors .overflow = errors .limit) :
    ExactRead maximum errors stream (readChunks read reserve maximum 0 [])
      (Exec.mapErr errors (readChunks read reserve maximum 0 []).outcome) := by
  have hempty : ([] : Bytes).length ≤ maximum := Nat.zero_le maximum
  obtain ⟨hreads, hheld⟩ := readChunks_bounded read reserve 0 hempty
  suffices h : (∀ content, Exec.mapErr errors (readChunks read reserve maximum 0 []).outcome =
        .ok content ↔ Delivers stream 0 content ∧ content.length ≤ maximum) ∧
      ((¬∃ content, Delivers stream 0 content ∧ content.length ≤ maximum) →
        Exec.mapErr errors (readChunks read reserve maximum 0 []).outcome = .err (errors .limit)) from
    ⟨rfl, by omega, hheld, h.1, h.2⟩
  rcases readChunks_outcome reserve 0 hread hempty hmaximum with
    ⟨content, hdelivers, hle, hok⟩ | ⟨hlong, herr⟩ | herr
  · rw [hok, List.nil_append]
    refine ⟨fun other => ⟨?_, ?_⟩, fun hnone => absurd ⟨content, hdelivers, hle⟩ hnone⟩
    · intro heq
      obtain rfl := Exec.ok.inj heq
      exact ⟨hdelivers, hle⟩
    · rintro ⟨hother, -⟩
      rw [hdelivers.unique hother]
      rfl
  · have hlimit : Exec.mapErr errors (readChunks read reserve maximum 0 []).outcome =
        .err (errors .limit) := by
      rcases herr with herr | herr
      · rw [herr]
        rfl
      · rw [herr, ← hoverflow herr]
        rfl
    rw [hlimit]
    refine ⟨fun content => iff_of_false nofun ?_, fun _ => rfl⟩
    rintro ⟨hdelivers, hle⟩
    exact absurd (hlong content hdelivers) (not_lt.mpr hle)
  · exact absurd herr hreserve

/-- The result is a function of what the stream delivers. -/
theorem ExactRead.split_independent {stream' : ℕ → Bytes} {run run' : ReadRun}
    {result result' : Exec ε Bytes} (h : ExactRead maximum errors stream run result)
    (h' : ExactRead maximum errors stream' run' result')
    (hsame : ∀ content, Delivers stream 0 content ↔ Delivers stream' 0 content) :
    result = result' := by
  by_cases hfits : ∃ content, Delivers stream 0 content ∧ content.length ≤ maximum
  · obtain ⟨content, hdelivers, hle⟩ := hfits
    rw [(h.exact content).mpr ⟨hdelivers, hle⟩,
      (h'.exact content).mpr ⟨(hsame content).mp hdelivers, hle⟩]
  · have hfits' : ¬∃ content, Delivers stream' 0 content ∧ content.length ≤ maximum := by
      simpa only [← hsame] using hfits
    rw [h.otherwise hfits, h'.otherwise hfits']

end Exact

section Members

variable {maximum : ℕ} {path : String} {stream : ℕ → Bytes}

theorem readBoundedFile_exact {root : Directory} {file : RegularFile}
    {tryReserve : String → ℕ → Bool} {limitError : LoaderError} (hmaximum : maximum < 2 ^ 64)
    (hopen : root.openFile path = some (some file))
    (hread : ∀ call, file.read call (loaderChunkLength maximum) = some (stream call))
    (hreserve : ∀ call, tryReserve path call = true) :
    ExactRead maximum (loaderReadErrors limitError) stream
      (loaderReadRun file (tryReserve path) maximum)
      (readBoundedFile root tryReserve path maximum limitError) := by
  rw [readBoundedFile_eq hopen (hreserve 0)]
  exact exactRead_readChunks hmaximum hread
    (readChunks_ne_reserve fun call _ _ => hreserve (call + 1)) fun _ => rfl

/-- The loop has an error of its own for a length past the address space, which no
vector reaches. -/
theorem fatReadRun_ne_overflow (file : RegularFile) (tryReserve : ℕ → Bool) (maximum : ℕ) :
    (fatReadRun file tryReserve maximum).outcome ≠ .err .overflow := by
  refine readChunks_ne_overflow (fun call length hgranted => ?_) (fun call chunk hread => ?_)
    (by decide)
  · rw [Bool.and_eq_true, decide_eq_true_eq, maxVectorBytes] at hgranted
    omega
  · exact (file.read_le hread).trans (by decide)

/-- No allocation fails when the allocator grants every request that a vector can
hold, and what is kept under the limit is never longer than that. -/
theorem readFatFile_exact {root : FatDirectory} {file : RegularFile} {tryReserve : ℕ → Bool}
    (hmaximum : maximum < 2 ^ 64) (hopen : root.openFile path = some file)
    (hread : ∀ call, file.read call (8 * 1024) = some (stream call))
    (hreserve : ∀ call, tryReserve call = true)
    (hvector : ∀ n, (received stream n).length ≤ maximum →
      (received stream n).length ≤ maxVectorBytes) :
    ExactRead maximum (fatReadErrors path maximum) stream (fatReadRun file tryReserve maximum)
      (readFatFile root tryReserve path maximum) := by
  rw [readFatFile, hopen, Exec.okOr_some, Exec.ok_bind]
  refine exactRead_readChunks hmaximum hread
    (readChunks_received_ne_reserve hread (fun n hle => ?_) rfl)
    fun herr => absurd herr (fatReadRun_ne_overflow file tryReserve maximum)
  rw [Bool.and_eq_true, decide_eq_true_eq]
  exact ⟨hvector (n + 1) hle, hreserve n⟩

end Members

/-- Both bounded reads are exact under every limit, for every stream of chunks, and
their results do not depend on how the content is split. -/
theorem boundedReads_exact (maximum : ℕ) (hmaximum : maximum < 2 ^ 64) :
    (∀ (root : Directory) (file : RegularFile) (tryReserve : String → ℕ → Bool) (path : String)
      (limitError : LoaderError) (stream : ℕ → Bytes),
      root.openFile path = some (some file) →
      (∀ call, file.read call (loaderChunkLength maximum) = some (stream call)) →
      (∀ call, tryReserve path call = true) →
      ExactRead maximum (loaderReadErrors limitError) stream
        (loaderReadRun file (tryReserve path) maximum)
        (readBoundedFile root tryReserve path maximum limitError)) ∧
    (∀ (root : FatDirectory) (file : RegularFile) (tryReserve : ℕ → Bool) (path : String)
      (stream : ℕ → Bytes),
      root.openFile path = some file →
      (∀ call, file.read call (8 * 1024) = some (stream call)) →
      (∀ call, tryReserve call = true) →
      (∀ n, (received stream n).length ≤ maximum →
        (received stream n).length ≤ maxVectorBytes) →
      ExactRead maximum (fatReadErrors path maximum) stream (fatReadRun file tryReserve maximum)
        (readFatFile root tryReserve path maximum)) ∧
    (∀ (ε : Type) (errors : ReadError → ε) (stream stream' : ℕ → Bytes) (run run' : ReadRun)
      (result result' : Exec ε Bytes),
      ExactRead maximum errors stream run result → ExactRead maximum errors stream' run' result' →
      (∀ content, Delivers stream 0 content ↔ Delivers stream' 0 content) → result = result') :=
  ⟨fun _ _ _ _ _ _ hopen hread hreserve => readBoundedFile_exact hmaximum hopen hread hreserve,
    fun _ _ _ _ _ hopen hread hreserve hvector =>
      readFatFile_exact hmaximum hopen hread hreserve hvector,
    fun _ _ _ _ _ _ _ _ h h' hsame => h.split_independent h' hsame⟩

/-- Three bytes in two chunks, then the end. -/
def sampleChunks : ℕ → Bytes
  | 0 => [1, 2]
  | 1 => [3]
  | _ => []

theorem sampleChunks_delivers : Delivers sampleChunks 0 [1, 2, 3] := by
  have h : Delivers sampleChunks 0 (sampleChunks 0 ++ (sampleChunks 1 ++ [])) :=
    .more (by decide) (.more (by decide) (.done rfl))
  exact h

def sampleRegularFile : RegularFile :=
  ⟨fun call length => some ((sampleChunks call).take length), by
    intro call length bytes h
    obtain rfl := Option.some.inj h
    exact List.length_take_le _ _⟩

theorem length_sampleChunks_le (call : ℕ) : (sampleChunks call).length ≤ 2 := by
  unfold sampleChunks
  split <;> decide

theorem sampleRegularFile_read {length : ℕ} (h : 2 ≤ length) (call : ℕ) :
    sampleRegularFile.read call length = some (sampleChunks call) :=
  congrArg some (List.take_of_length_le ((length_sampleChunks_le call).trans h))

theorem sampleChunks_past : ¬∃ content, Delivers sampleChunks 0 content ∧ content.length ≤ 2 := by
  rintro ⟨content, hdelivers, hle⟩
  rw [hdelivers.unique sampleChunks_delivers] at hle
  exact absurd hle (by decide)

/-- Under a limit of three bytes both loops read the two chunks whole, under two
bytes both refuse them. -/
theorem boundedReads_exact_sample :
    readBoundedFile ⟨fun _ => some (some sampleRegularFile)⟩ (fun _ _ => true) "KERNEL.ELF" 3
        .elfInvalid = .ok [1, 2, 3] ∧
      readBoundedFile ⟨fun _ => some (some sampleRegularFile)⟩ (fun _ _ => true) "KERNEL.ELF" 2
        .elfInvalid = .err .elfInvalid ∧
      readFatFile ⟨fun _ => some sampleRegularFile⟩ (fun _ => true) "POLYTOPE/KERNEL.ELF" 3 =
        .ok [1, 2, 3] ∧
      readFatFile ⟨fun _ => some sampleRegularFile⟩ (fun _ => true) "POLYTOPE/KERNEL.ELF" 2 =
        .err "ESP file POLYTOPE/KERNEL.ELF exceeds its 2-byte limit" := by
  have hchunk : ∀ maximum, 2 ≤ maximum → 2 ≤ loaderChunkLength maximum := by
    intro maximum hmaximum
    unfold loaderChunkLength fileReadChunkBytes
    omega
  have hloader : ∀ maximum, 2 ≤ maximum → maximum < 2 ^ 64 → _ := fun maximum hmaximum hword =>
    (boundedReads_exact maximum hword).1 ⟨fun _ => some (some sampleRegularFile)⟩
      sampleRegularFile (fun _ _ => true) "KERNEL.ELF" .elfInvalid sampleChunks rfl
      (sampleRegularFile_read (hchunk maximum hmaximum)) fun _ => rfl
  have hfat : ∀ maximum ≤ maxVectorBytes, maximum < 2 ^ 64 → _ := fun maximum hmaximum hword =>
    (boundedReads_exact maximum hword).2.1 ⟨fun _ => some sampleRegularFile⟩ sampleRegularFile
      (fun _ => true) "POLYTOPE/KERNEL.ELF" sampleChunks rfl (sampleRegularFile_read (by decide))
      (fun _ => rfl) fun _ hle => hle.trans hmaximum
  refine ⟨((hloader 3 (by decide) (by decide)).exact _).mpr ⟨sampleChunks_delivers, by decide⟩,
    (hloader 2 (by decide) (by decide)).otherwise sampleChunks_past,
    ((hfat 3 (by decide) (by decide)).exact _).mpr ⟨sampleChunks_delivers, by decide⟩, ?_⟩
  rw [(hfat 2 (by decide) (by decide)).otherwise sampleChunks_past]
  decide

end PolytopeOS.Host
