import PolytopeOS.Corelib.LittleEndian
import PolytopeOS.Corelib.Ranks
import PolytopeOS.Corelib.Word

/-!
# Statistics of a boot baseline

`sampleStatistics` summarises the measurements of repeated boots. It works on a
sorted copy, so it does not depend on their order, and its 95th percentile is the
least measurement that at least 95 in 100 of them do not exceed.
-/

namespace PolytopeOS.Host
open Corelib Float.Model

structure SampleStatistics where
  min : UInt64
  median : Float
  p95 : UInt64
  max : UInt64
  mean : Float
  populationStddev : Float
  deriving DecidableEq, Repr

/-- The product of two numbers before it is rounded. -/
def exactProduct : UnpackedFloat → UnpackedFloat → UnpackedFloat
  | .finite sign mantissa exponent hpos, .finite sign' mantissa' exponent' hpos' =>
    .finite (sign * sign') (mantissa * mantissa') (exponent + exponent') (Nat.mul_pos hpos hpos')
  | x, y => x.mul .binary64 y

/-- `f64::mul_add`, which rounds once. -/
def mulAdd (a b c : Float) : Float :=
  ⟨pack ((exactProduct a.toModel.unpack b.toModel.unpack).add .binary64 c.toModel.unpack)⟩

/-- `f64::midpoint` of numbers whose sum is finite. -/
def midpoint (a b : Float) : Float := (a + b) / 2.0

/-- `sum::<f64>`. -/
def sumF64 (values : List Float) : Float := values.foldl (· + ·) (-0.0)

def u64ToF64 (value : UInt64) : Float :=
  let bytes := u64ToLe value
  let low := u32OfLe (bytes.take 4)
  let high := u32OfLe (bytes.drop 4)
  mulAdd high.toFloat 4294967296.0 low.toFloat

def sortedMedian {ε : Type} (sorted : List UInt64) : Exec ε Float := do
  let middle := sorted.length / 2
  if sorted.length % 2 = 0 then
    let below ← Exec.index sorted (← subSize middle 1)
    let above ← Exec.index sorted middle
    return midpoint (u64ToF64 below) (u64ToF64 above)
  else
    return u64ToF64 (← Exec.index sorted middle)

def p95Index (length : ℕ) : ℕ := saturatingMul length 95 ⌈/⌉ 100 - 1

def sampleStatistics {ε : Type} (samples : List UInt64) : Exec ε (Option SampleStatistics) :=
  if samples.isEmpty then .ok none
  else do
    -- `sort_unstable`: equal numbers are the same, so every sort gives this list
    let sorted := samples.insertionSort (· ≤ ·)
    let median ← sortedMedian sorted
    match checkedU32 sorted.length with
    | none => return none
    | some length =>
      let count := length.toFloat
      let mean := sumF64 (sorted.map u64ToF64) / count
      let populationVariance := sumF64 (sorted.map fun value =>
        let difference := u64ToF64 value - mean
        difference * difference) / count
      let min ← Exec.index sorted 0
      let p95 ← Exec.index sorted (p95Index sorted.length)
      let max ← Exec.index sorted (← subSize sorted.length 1)
      return some ⟨min, median, p95, max, mean, populationVariance.sqrt⟩

variable {ε : Type} {samples : List UInt64}

theorem exists_sortedMedian {sorted : List UInt64} (hne : sorted ≠ []) :
    ∃ median, (sortedMedian sorted : Exec ε Float) = .ok median := by
  have hpos := List.length_pos_iff.mpr hne
  rw [sortedMedian]
  split
  · rw [subSize_of_le (by omega), Exec.ok_bind, Exec.index_of_lt (by omega), Exec.ok_bind,
      Exec.index_of_lt (by omega), Exec.ok_bind]
    exact ⟨_, rfl⟩
  · rw [Exec.index_of_lt (by omega), Exec.ok_bind]
    exact ⟨_, rfl⟩

theorem p95Index_lt_iff {length count : ℕ} (hpos : 0 < length) (hlen : length < 2 ^ 32) :
    p95Index length < count ↔ 95 * length ≤ 100 * count := by
  rw [p95Index, saturatingMul_of_lt (by omega), nearestRank_lt_iff (by decide) (by omega),
    Nat.mul_comm]

theorem p95Index_lt {length : ℕ} (hpos : 0 < length) (hlen : length < 2 ^ 32) :
    p95Index length < length :=
  (p95Index_lt_iff hpos hlen).mpr (by omega)

/-- What is returned stands at three places of the sorted copy. -/
theorem exists_sampleStatistics (hne : samples ≠ []) (hlen : samples.length < 2 ^ 32) :
    ∃ stats, sampleStatistics samples = (.ok (some stats) : Exec ε _) ∧
      (samples.insertionSort (· ≤ ·))[0]? = some stats.min ∧
      (samples.insertionSort (· ≤ ·))[p95Index samples.length]? = some stats.p95 ∧
      (samples.insertionSort (· ≤ ·))[samples.length - 1]? = some stats.max := by
  have hempty : ¬samples.isEmpty = true := by simpa using hne
  have hlength := samples.length_insertionSort (· ≤ ·)
  rw [sampleStatistics, if_neg hempty]
  generalize samples.insertionSort (· ≤ ·) = sorted at hlength ⊢
  have hpos : 0 < sorted.length := by rwa [hlength, List.length_pos_iff]
  have hsmall : sorted.length < 2 ^ 32 := by rwa [hlength]
  have hindex := p95Index_lt hpos hsmall
  obtain ⟨median, hmedian⟩ := exists_sortedMedian (ε := ε) (List.length_pos_iff.mp hpos)
  have hcount : checkedU32 sorted.length = some (UInt32.ofNat sorted.length) := if_pos hsmall
  simp only [hmedian, hcount, subSize_of_le hpos, Exec.index_of_lt hpos, Exec.index_of_lt hindex,
    Exec.index_of_lt (Nat.sub_one_lt hpos.ne'), Exec.ok_bind, Exec.pure_eq_ok]
  refine ⟨_, rfl, ?_, ?_, ?_⟩
  · exact List.getElem?_eq_getElem hpos
  · rw [← hlength]
    exact List.getElem?_eq_getElem hindex
  · rw [← hlength]
    exact List.getElem?_eq_getElem (Nat.sub_one_lt hpos.ne')

/-- None of the statistics depends on the order of the samples. -/
theorem sampleStatistics_perm {other : List UInt64} (h : other.Perm samples) :
    (sampleStatistics other : Exec ε _) = sampleStatistics samples := by
  rw [sampleStatistics, sampleStatistics, h.isEmpty_eq, insertionSort_eq_of_perm h]

/-- The 95th percentile is the nearest-rank one, between the least and the
greatest sample. -/
theorem sampleStatistics_nearestRank (samples : List UInt64) (hne : samples ≠ [])
    (hlen : samples.length < 2 ^ 32) :
    ∃ stats, sampleStatistics samples = (.ok (some stats) : Exec ε _) ∧
      IsLeast {v | v ∈ samples} stats.min ∧ IsGreatest {v | v ∈ samples} stats.max ∧
      IsLeast {v | v ∈ samples ∧ 95 * samples.length ≤ 100 * rank samples v} stats.p95 ∧
      (∀ other : List UInt64, other.Perm samples →
        sampleStatistics other = (.ok (some stats) : Exec ε _)) ∧
      stats.min ≤ stats.p95 ∧ stats.p95 ≤ stats.max := by
  obtain ⟨stats, hstats, hmin, hp95, hmax⟩ := exists_sampleStatistics (ε := ε) hne hlen
  have hpos := List.length_pos_iff.mpr hne
  have hindex := p95Index_lt hpos hlen
  have hperm := samples.perm_insertionSort (· ≤ ·)
  have hsorted := samples.pairwise_insertionSort (· ≤ ·)
  have hlength := hperm.length_eq
  refine ⟨stats, hstats, ?_, ?_, ?_, ?_, ?_, ?_⟩
  · have h := isLeast_first hsorted hmin
    simpa only [hperm.mem_iff] using h
  · rw [← hlength] at hmax
    have h := isGreatest_last hsorted hmax
    simpa only [hperm.mem_iff] using h
  · have h := isLeast_rank hsorted hp95
    simpa only [hperm.mem_iff, rank_perm hperm, p95Index_lt_iff hpos hlen] using h
  · intro other h
    rw [sampleStatistics_perm h, hstats]
  · exact le_of_index_le hsorted (Nat.zero_le _) hmin hp95
  · exact le_of_index_le hsorted (Nat.le_sub_one_of_lt hindex) hp95 hmax

/-- Nineteen of twenty samples are at most the percentile, eighteen of them equal. -/
theorem sampleStatistics_nearestRank_sample :
    (sampleStatistics (30 :: 20 :: List.replicate 18 10) : Exec Unit _) =
      .ok (some ⟨10, 10.0, 20, 30, 11.5, Float.sqrt 22.75⟩) ∧
    IsLeast {v | v ∈ 30 :: 20 :: List.replicate 18 10 ∧
      95 * 20 ≤ 100 * rank (30 :: 20 :: List.replicate 18 10) v} (20 : UInt64) := by
  have heval : (sampleStatistics (30 :: 20 :: List.replicate 18 10) : Exec Unit _) =
      .ok (some ⟨10, 10.0, 20, 30, 11.5, Float.sqrt 22.75⟩) := by decide +kernel
  obtain ⟨stats, hstats, -, -, hp95, -⟩ := sampleStatistics_nearestRank (ε := Unit)
    (30 :: 20 :: List.replicate 18 10) (by simp) (by decide)
  obtain rfl := Option.some.inj (Exec.ok.inj (heval.symm.trans hstats))
  exact ⟨heval, hp95⟩

-- the distribution that the source tests; with four samples the percentile is the greatest
example : (sampleStatistics [10, 20, 30, 40] : Exec Unit _) =
    .ok (some ⟨10, 25.0, 40, 40, 25.0, Float.sqrt 125.0⟩) := by decide +kernel

end PolytopeOS.Host
