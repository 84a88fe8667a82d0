import PolytopeOS.Corelib.Chains
import PolytopeOS.Host.Fat

/-!
# Cluster chains of an accepted partition

The layout checks look at each entry of the allocation table by itself. Here the
table is followed from entry to entry, as the reads of directories and files do.
-/

namespace PolytopeOS.Host
open Corelib

namespace FatRegions

/-- The cluster that an entry links to; the end of a chain has none. -/
def successor (regions : FatRegions) (c : ℕ) : Option ℕ :=
  if endOfChain ≤ entry regions.fat c then none else some (entry regions.fat c)

def Allocated (regions : FatRegions) (c : ℕ) : Prop :=
  (2 ≤ c ∧ c < regions.entryCount) ∧ entry regions.fat c ≠ 0

instance (regions : FatRegions) (c : ℕ) : Decidable (regions.Allocated c) :=
  inferInstanceAs (Decidable ((2 ≤ c ∧ c < regions.entryCount) ∧ entry regions.fat c ≠ 0))

def allocatedClusters (regions : FatRegions) : Finset ℕ :=
  (Finset.range regions.entryCount).filter regions.Allocated

/-- Following the links from a cluster ends within as many entries as there are
allocated clusters, visits none twice and stays among the allocated ones. -/
def WellFormedChain (regions : FatRegions) (c : ℕ) : Prop :=
  ∃ path, Chain regions.successor c path ∧ path.length ≤ regions.allocatedClusters.card ∧
    path.Nodup ∧ ∀ d ∈ path, regions.Allocated d

/-- The first free cluster that the FSInfo sector names. -/
def nextFree (regions : FatRegions) : ℕ := field regions.fsInfo 492 4

end FatRegions

variable {partition : Bytes} {regions : FatRegions} {c d : ℕ}

theorem mem_allocatedClusters : c ∈ regions.allocatedClusters ↔ regions.Allocated c := by
  rw [FatRegions.allocatedClusters, Finset.mem_filter, Finset.mem_range]
  exact and_iff_right_of_imp fun h => h.1.2

/-- An accepted partition has a canonical table up to the cluster it names. -/
theorem canonicalTable_of_accepted (h : rawFat32Regions partition = .ok regions)
    (haccepted : validateRawFat32Layout partition = .ok ()) :
    CanonicalTable regions.fat regions.entryCount regions.nextFree := by
  rw [validateRawFat32Layout, h, Exec.ok_bind,
    validateCanonicalFatEntries_eq_ok (dataLba_lt_of_regions h).le] at haccepted
  obtain ⟨f, htable, -, rfl⟩ := haccepted
  exact htable

theorem CanonicalTable.allocated_iff
    (h : CanonicalTable regions.fat regions.entryCount regions.nextFree) :
    regions.Allocated c ↔ 2 ≤ c ∧ c < regions.nextFree := by
  have hmem := h.firstFree_mem
  constructor
  · rintro ⟨⟨hlow, hhigh⟩, hne⟩
    refine ⟨hlow, ?_⟩
    by_contra hge
    exact hne (h.free c (not_lt.mp hge) hhigh)
  · rintro ⟨hlow, hlt⟩
    exact ⟨⟨hlow, hlt.trans hmem.2⟩, (h.allocated c hlow hlt).1⟩

/-- A link of an allocated cluster leads to an allocated cluster when it is below
the first free one. -/
theorem CanonicalTable.successor_allocated_iff
    (h : CanonicalTable regions.fat regions.entryCount regions.nextFree)
    (hc : 2 ≤ c ∧ c < regions.nextFree) :
    (∀ d, regions.successor c = some d → regions.Allocated d) ↔
      entry regions.fat c < regions.nextFree ∨ endOfChain ≤ entry regions.fat c := by
  have hlink := (h.allocated c hc.1 hc.2).2
  unfold FatRegions.successor
  by_cases hend : endOfChain ≤ entry regions.fat c
  · simp [hend]
  · rw [if_neg hend]
    simp only [hend, or_false, Option.some.injEq, forall_eq', h.allocated_iff] at hlink ⊢
    exact and_iff_right hlink.1

/-- The allocated chains of an accepted partition are well formed exactly when no
allocated entry links to a free cluster and no allocated cluster is on a cycle. -/
theorem fatChains_wellFormed_iff (h : rawFat32Regions partition = .ok regions)
    (haccepted : validateRawFat32Layout partition = .ok ()) :
    (∀ c, regions.Allocated c → regions.WellFormedChain c) ↔
      ∀ c, 2 ≤ c → c < regions.nextFree →
        (entry regions.fat c < regions.nextFree ∨ endOfChain ≤ entry regions.fat c) ∧
        ¬Relation.TransGen (Links regions.successor) c c := by
  have htable := canonicalTable_of_accepted h haccepted
  constructor
  · intro hchains c hlow hlt
    have hc : regions.Allocated c := htable.allocated_iff.mpr ⟨hlow, hlt⟩
    obtain ⟨path, hchain, -, -, hmem⟩ := hchains c hc
    refine ⟨(htable.successor_allocated_iff ⟨hlow, hlt⟩).mp fun d hd => ?_, hchain.not_cycle⟩
    -- the next cluster is on the path too
    cases hchain with
    | last hnone => cases hnone.symm.trans hd
    | step hsome rest =>
      obtain rfl := Option.some.inj (hsome.symm.trans hd)
      exact hmem _ (List.mem_cons_of_mem _ rest.mem_head)
  · intro hlocal c hc
    have hclosed : ∀ a ∈ regions.allocatedClusters, ∀ b, regions.successor a = some b →
        b ∈ regions.allocatedClusters := by
      intro a ha b hb
      have ha' := htable.allocated_iff.mp (mem_allocatedClusters.mp ha)
      exact mem_allocatedClusters.mpr
        ((htable.successor_allocated_iff ha').mpr (hlocal a ha'.1 ha'.2).1 b hb)
    have hacyclic : ∀ a ∈ regions.allocatedClusters,
        ¬Relation.TransGen (Links regions.successor) a a := by
      intro a ha
      have ha' := htable.allocated_iff.mp (mem_allocatedClusters.mp ha)
      exact (hlocal a ha'.1 ha'.2).2
    obtain ⟨path, hchain, hnodup, hmem⟩ :=
      exists_chain hclosed hacyclic (mem_allocatedClusters.mpr hc)
    exact ⟨path, hchain, length_le_card hnodup hmem, hnodup,
      fun d hd => mem_allocatedClusters.mp (hmem d hd)⟩

theorem sample_accepted {value : UInt32} (h : Linked 4 (value.toNat % 2 ^ 28)) :
    validateRawFat32Layout (samplePartition value) = .ok () := by
  rw [validateRawFat32Layout, rawFat32Regions_sample, Exec.ok_bind,
    validateCanonicalFatEntries_eq_ok (by change 10 ≤ 12; decide)]
  exact ⟨3, sampleFat_table h, by rw [sampleRegions, length_sampleFsInfo]; decide,
    sampleFsInfo_hint⟩

theorem entry_sample (value : UInt32) :
    entry (sampleRegions value).fat 2 = value.toNat % 2 ^ 28 :=
  entry_fatOf rfl

/-- A table in which the first cluster leads over the second to the third. -/
def chainFat : Bytes := fatOf (sampleTable [3, 4, 0x0fffffff] 1 122)

def chainPartition : Bytes := partitionOf (sampleBoot 14) (sampleFsInfo 5) chainFat 4

def chainRegions : FatRegions := ⟨chainFat, 14, 10, sampleFsInfo 5⟩

theorem length_chainFat : chainFat.length = 512 := by
  rw [chainFat, length_fatOf]
  rfl

theorem rawFat32Regions_chain : rawFat32Regions chainPartition = .ok chainRegions := by
  refine rawFat32Regions_partitionOf (length_sampleBoot 14) (length_sampleFsInfo 5)
    length_chainFat rfl (by decide) (fun partition hpartition => ?_) (by decide +kernel)
  rw [validateFatBootSector, hpartition]
  decide +kernel

theorem chain_nextFree : chainRegions.nextFree = 5 := by
  show field (sampleFsInfo 5) 492 4 = 5
  decide +kernel

theorem chain_accepted : validateRawFat32Layout chainPartition = .ok () := by
  rw [validateRawFat32Layout, rawFat32Regions_chain, Exec.ok_bind,
    validateCanonicalFatEntries_eq_ok (by change 10 ≤ 14; decide)]
  have hlinks : ∀ link ∈ ([3, 4, 0x0fffffff] : List UInt32), Linked 6 (link.toNat % 2 ^ 28) := by
    rw [List.forall_mem_cons, List.forall_mem_cons, List.forall_mem_singleton]
    decide
  exact ⟨5, canonicalTable_fatOf 122 Nat.one_pos hlinks,
    by rw [chainRegions, length_sampleFsInfo]; decide, chain_nextFree⟩

theorem entry_chain : entry chainRegions.fat 2 = 3 ∧ entry chainRegions.fat 3 = 4 ∧
    entry chainRegions.fat 4 = 0x0fffffff :=
  ⟨entry_fatOf (v := 3) rfl, entry_fatOf (v := 4) rfl, entry_fatOf (v := 0x0fffffff) rfl⟩

/-- A partition with a chain of three clusters. -/
theorem fatChains_wellFormed_iff_sample :
    validateRawFat32Layout chainPartition = .ok () ∧
      (∀ c, chainRegions.Allocated c → chainRegions.WellFormedChain c) ∧
      Chain chainRegions.successor 2 [2, 3, 4] := by
  obtain ⟨htwo, hthree, hfour⟩ := entry_chain
  have hsecond : chainRegions.successor 2 = some 3 := by rw [FatRegions.successor, htwo]; rfl
  have hthird : chainRegions.successor 3 = some 4 := by rw [FatRegions.successor, hthree]; rfl
  have hlast : chainRegions.successor 4 = none := by rw [FatRegions.successor, hfour]; rfl
  have hchain₄ : Chain chainRegions.successor 4 [4] := .last hlast
  have hchain₃ : Chain chainRegions.successor 3 [3, 4] := .step hthird hchain₄
  have hchain₂ : Chain chainRegions.successor 2 [2, 3, 4] := .step hsecond hchain₃
  refine ⟨chain_accepted, ?_, hchain₂⟩
  refine (fatChains_wellFormed_iff rawFat32Regions_chain chain_accepted).mpr fun c hlow hlt => ?_
  rw [chain_nextFree] at hlt ⊢
  obtain rfl | rfl | rfl : c = 2 ∨ c = 3 ∨ c = 4 := by omega
  · exact ⟨Or.inl (by omega), hchain₂.not_cycle⟩
  · exact ⟨Or.inl (by omega), hchain₃.not_cycle⟩
  · exact ⟨Or.inr (by rw [hfour]; decide), hchain₄.not_cycle⟩

/-- Two accepted partitions with one allocated cluster each. In the first it links
to itself, so that its chain never ends; in the second it links to a free cluster. -/
theorem accepted_malformed_chains :
    (validateRawFat32Layout (samplePartition 2) = .ok () ∧
      rawFat32Regions (samplePartition 2) = .ok (sampleRegions 2) ∧
      (sampleRegions 2).Allocated 2 ∧ (sampleRegions 2).successor 2 = some 2 ∧
      ¬(sampleRegions 2).WellFormedChain 2) ∧
    (validateRawFat32Layout (samplePartition 3) = .ok () ∧
      rawFat32Regions (samplePartition 3) = .ok (sampleRegions 3) ∧
      (sampleRegions 3).Allocated 2 ∧ (sampleRegions 3).successor 2 = some 3 ∧
      ¬(sampleRegions 3).Allocated 3 ∧ ¬(sampleRegions 3).WellFormedChain 2) := by
  have hself : (sampleRegions 2).successor 2 = some 2 := by
    rw [FatRegions.successor, entry_sample]
    rfl
  have hfree : (sampleRegions 3).successor 2 = some 3 := by
    rw [FatRegions.successor, entry_sample]
    rfl
  have hthree : ¬(sampleRegions 3).Allocated 3 := by
    rintro ⟨-, hne⟩
    exact hne (entry_fatOf (c := 3) (v := 0) rfl)
  refine ⟨⟨sample_accepted (by decide), rawFat32Regions_sample 2, ⟨by decide, ?_⟩, hself, ?_⟩,
    sample_accepted (by decide), rawFat32Regions_sample 3, ⟨by decide, ?_⟩, hfree, hthree, ?_⟩
  · rw [entry_sample]
    decide
  · rintro ⟨path, hchain, -⟩
    exact hchain.not_cycle (.single hself)
  · rw [entry_sample]
    decide
  · rintro ⟨path, hchain, -, -, hmem⟩
    cases hchain with
    | last hnone => cases hnone.symm.trans hfree
    | step hsome rest =>
      obtain rfl := Option.some.inj (hsome.symm.trans hfree)
      exact hthree (hmem _ (List.mem_cons_of_mem _ rest.mem_head))

end PolytopeOS.Host
