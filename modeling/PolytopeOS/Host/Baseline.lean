import PolytopeOS.Host.GuestLog
import PolytopeOS.Host.Observe
import PolytopeOS.Host.Prose
import PolytopeOS.Host.Statistics

/-!
# Boot baselines

`run_baseline` boots an image several times and writes what it measured. Files on
the host may change between the boots, so the reports have to agree on everything
that identifies an execution. A baseline is written for agreeing and successful
boots only, and the output never holds a part of one.
-/

namespace PolytopeOS.Host
open Corelib

inductive HarnessError where
  | host (message : String)
  | outcome (error : OutcomeError)

def BootHost.runBoot (host : BootHost) (request : BootRequest) :
    Action (Disk (List Component)) HarnessError BootEvidence := do
  let run ← (host.observeBoot request .scenario).mapErr .host
  Action.lift ((validateBootOutcome run.toBootRun).mapErr .outcome)
  return run

structure BaselineRequest where
  boot : BootRequest
  runs : ℕ
  output : Bytes

structure BaselineReport where
  schemaVersion : ℕ
  runs : ℕ
  timeToReadyMarkerMs : SampleStatistics
  peakRssKib : SampleStatistics
  peakRssSampleCount : ℕ
  hostOs : String
  hostArch : String
  ovmfRelease : String
  samples : List BootEvidence

/-- The host of a baseline, as every one of its boots finds it. -/
structure BaselineHost where
  boot : ℕ → BootHost
  os : String
  arch : String
  serialize : BaselineReport → Option Bytes
  pid : ℕ
  faults : Faults

/-- The complete execution identity of two reports is the same. -/
def BootEvidence.SharesIdentity (sample first : BootEvidence) : Prop :=
  sample.mode = first.mode ∧ sample.scenario = first.scenario ∧
    sample.timeoutMs = first.timeoutMs ∧ sample.imageSha256 = first.imageSha256 ∧
    sample.imageBytes = first.imageBytes ∧ sample.ovmfCodeSha256 = first.ovmfCodeSha256 ∧
    sample.ovmfVarsSha256 = first.ovmfVarsSha256 ∧ sample.qemuVersion = first.qemuVersion ∧
    sample.ovmfRelease = first.ovmfRelease ∧ sample.qemuArgv = first.qemuArgv

instance (sample first : BootEvidence) : Decidable (sample.SharesIdentity first) :=
  inferInstanceAs (Decidable (_ ∧ _))

/-- The boots of a baseline, from the one with the given number on. -/
def runBoots (boot : ℕ → BootHost) (request : BootRequest) (index : ℕ) :
    ℕ → Action (Disk (List Component)) HarnessError (List BootEvidence)
  | 0 => pure []
  | count + 1 => do
    let sample ← (boot index).runBoot request
    let rest ← runBoots boot request (index + 1) count
    return sample :: rest

def noMarkerTime : HarnessError :=
  .host "a validated normal boot did not retain its KERNEL_READY observation time"

def noPeakSample (index : ℕ) : HarnessError :=
  let run := index + 1
  .host (s!"baseline run {run} has no peak-RSS sample; " ++
    "ensure the host `ps` command supports RSS reporting")

def otherIdentity (index : ℕ) : HarnessError :=
  let run := index + 1
  .host s!"baseline run {run} does not share the first run's complete execution identity"

/-- The part of `run_baseline` between the boots and the output. -/
def BaselineHost.summarise (host : BaselineHost) (samples : List BootEvidence) :
    Exec HarnessError BaselineReport := do
  let markerTimes ← Exec.collectSome (fun sample => sample.timeToReadyMarkerMs.map UInt64.ofNat)
    (fun _ => noMarkerTime) 0 samples
  let peakRssSamples ← Exec.collectSome (fun sample => sample.peakRssKib.map UInt64.ofNat)
    noPeakSample 0 samples
  let first ← Exec.okOr samples.head? (.host "the baseline unexpectedly has no samples")
  Exec.foldIdx
    (fun index _ sample => Exec.ensure (sample.SharesIdentity first) (otherIdentity index))
    1 () samples.tail
  let timeToReadyMarkerMs ← Exec.okOr (← sampleStatistics markerTimes)
    (.host "the non-empty baseline unexpectedly has no marker-time samples")
  let peakRssKib ← Exec.okOr (← sampleStatistics peakRssSamples)
    (.host "the non-empty baseline unexpectedly has no RSS samples")
  return {
    schemaVersion := 2
    runs := samples.length
    timeToReadyMarkerMs
    peakRssKib
    peakRssSampleCount := peakRssSamples.length
    hostOs := host.os
    hostArch := host.arch
    ovmfRelease := first.ovmfRelease
    samples }

def BaselineHost.measure (host : BaselineHost) (request : BaselineRequest) :
    Action (Disk (List Component)) HarnessError BaselineReport := do
  Action.lift (Exec.ensure (request.runs > 0) (.host "baseline requires at least one run"))
  Action.lift (Exec.ensure (request.runs ≤ 100) (.host "baseline run count is capped at 100"))
  Action.lift (Exec.ensure (request.boot.scenario = .normal)
    (.host "boot-time baselines require the normal scenario"))
  let samples ← runBoots host.boot request.boot 0 request.runs
  Action.lift (host.summarise samples)

/-- `run_baseline` -/
def BaselineHost.runBaseline (host : BaselineHost) (request : BaselineRequest) :
    Action (Disk (List Component)) HarnessError BaselineReport := do
  let report ← host.measure request
  (writeJsonAtomic host.pid host.faults request.output (host.serialize report)).mapErr .host
  return report

-- ════════════════════════════════════════════════════════════════════════
-- What a report stands for
-- ════════════════════════════════════════════════════════════════════════

/-- A boot that passed as a normal one. -/
structure BootEvidence.Booted (sample : BootEvidence) : Prop where
  mode : sample.mode = .scenario
  scenario : sample.scenario = .normal
  classification : sample.classification = .ready
  exitStatus : sample.exitStatus = some readyExitStatus
  timed : sample.timeToReadyMarkerMs.isSome
  terminalCode : sample.terminalCode = some "KERNEL_READY"
  noViolation : sample.diagnosticProtocolError = none

/-- What a baseline for a request has to be. -/
structure BaselineReport.Sound (request : BaselineRequest) (report : BaselineReport) : Prop where
  bounds : 1 ≤ request.runs ∧ request.runs ≤ 100
  count : report.samples.length = request.runs ∧ report.runs = request.runs ∧
    report.peakRssSampleCount = request.runs
  booted : ∀ sample ∈ report.samples, sample.Booted
  identity : ∀ sample ∈ report.samples, ∀ other ∈ report.samples, sample.SharesIdentity other
  release : ∀ sample ∈ report.samples, sample.ovmfRelease = report.ovmfRelease
  statistics : ∃ times peaks : List UInt64,
    report.samples.map (fun sample => sample.timeToReadyMarkerMs.map UInt64.ofNat) =
      times.map some ∧
    report.samples.map (fun sample => sample.peakRssKib.map UInt64.ofNat) = peaks.map some ∧
    (sampleStatistics times : Exec HarnessError _) = .ok (some report.timeToReadyMarkerMs) ∧
    (sampleStatistics peaks : Exec HarnessError _) = .ok (some report.peakRssKib)

theorem observeBoot_request {host : BootHost} {request : BootRequest} {mode : BootMode}
    {run : BootEvidence} {disk disk' : Disk (List Component)}
    (h : host.observeBoot request mode disk = (.ok run, disk')) :
    run.mode = mode ∧ run.scenario = request.scenario := by
  obtain ⟨inputs, directory, start, execution, -, -, -, -, rfl, -⟩ := observeBoot_eq_ok.mp h
  exact ⟨rfl, rfl⟩

theorem runBoot_booted {host : BootHost} {request : BootRequest} {run : BootEvidence}
    {disk disk' : Disk (List Component)} (hnormal : request.scenario = .normal)
    (h : host.runBoot request disk = (.ok run, disk')) : run.Booted := by
  simp only [BootHost.runBoot, Action.bind_eq_ok, Action.mapErr_eq_ok, Action.lift_eq_ok,
    Action.pure_eq_ok, Exec.mapErr_eq_ok] at h
  obtain ⟨_, _, hobserve, _, _, ⟨hvalid, rfl⟩, rfl, rfl⟩ := h
  obtain ⟨hmode, hscenario⟩ := observeBoot_request hobserve
  rw [hnormal] at hscenario
  rw [validateBootOutcome, if_pos hmode, validateScenarioOutcome, hscenario,
    Exec.ensure_eq_ok] at hvalid
  obtain ⟨hready, hstatus, -, -, -, htimed, hcode, hviolation⟩ := hvalid
  exact ⟨hmode, hscenario, hready, hstatus, htimed, hcode, Option.isNone_iff_eq_none.mp hviolation⟩

/-- Every boot of a baseline is a boot that passed. -/
theorem runBoots_booted {boot : ℕ → BootHost} {request : BootRequest} {index count : ℕ}
    {samples : List BootEvidence} {disk disk' : Disk (List Component)}
    (hnormal : request.scenario = .normal)
    (h : runBoots boot request index count disk = (.ok samples, disk')) :
    samples.length = count ∧ ∀ sample ∈ samples, sample.Booted := by
  induction count generalizing index samples disk disk' with
  | zero =>
    rw [runBoots, Action.pure_eq_ok] at h
    obtain ⟨rfl, -⟩ := h
    exact ⟨rfl, fun _ hsample => absurd hsample List.not_mem_nil⟩
  | succ count ih =>
    simp only [runBoots, Action.bind_eq_ok, Action.pure_eq_ok] at h
    obtain ⟨sample, _, hsample, rest, _, hrest, rfl, -⟩ := h
    obtain ⟨hlength, hbooted⟩ := ih hrest
    refine ⟨congrArg (· + 1) hlength, List.forall_mem_cons.mpr ⟨?_, hbooted⟩⟩
    exact runBoot_booted hnormal hsample

theorem runBoots_sameOutside {boot : ℕ → BootHost} {request : BootRequest}
    {region : Set (List Component)}
    (h : ∀ index mode, ((boot index).observeBoot request mode).Keeps (SameOutside region))
    (index count : ℕ) : (runBoots boot request index count).Keeps (SameOutside region) := by
  induction count generalizing index with
  | zero => exact Action.Keeps.pure _
  | succ count ih =>
    have hboot : ((boot index).runBoot request).Keeps (SameOutside region) :=
      (h index .scenario).mapErr.bind fun _ => (Action.Keeps.lift _).bind fun _ =>
        Action.Keeps.pure _
    exact hboot.bind fun _ => (ih (index + 1)).bind fun _ => Action.Keeps.pure _

theorem BootEvidence.SharesIdentity.common {sample other first : BootEvidence}
    (h : sample.SharesIdentity first) (h' : other.SharesIdentity first) :
    sample.SharesIdentity other := by
  simp only [BootEvidence.SharesIdentity] at h h' ⊢
  simp only [h, h', and_self]

theorem length_of_map_some {α β : Type} {f : α → Option β} {xs : List α} {ys : List β}
    (h : xs.map f = ys.map some) : xs.length = ys.length := by
  simpa using congrArg List.length h

theorem isSome_of_map_some {α β : Type} {f : α → Option β} {xs : List α} {ys : List β}
    (h : xs.map f = ys.map some) : ∀ a ∈ xs, (f a).isSome := by
  intro a ha
  have hmem : f a ∈ ys.map some := h ▸ List.mem_map_of_mem ha
  obtain ⟨b, -, hb⟩ := List.mem_map.mp hmem
  rw [← hb, Option.isSome_some]

theorem exists_map_some {α β : Type} {f : α → Option β} {xs : List α}
    (h : ∀ a ∈ xs, (f a).isSome) : ∃ ys : List β, xs.map f = ys.map some := by
  induction xs with
  | nil => exact ⟨[], rfl⟩
  | cons a xs ih =>
    rw [List.forall_mem_cons] at h
    obtain ⟨b, hb⟩ := Option.isSome_iff_exists.mp h.1
    obtain ⟨ys, hys⟩ := ih h.2
    exact ⟨b :: ys, by rw [List.map_cons, List.map_cons, hb, hys]⟩

/-- Boots that passed are summarised, or one of them has no memory sample, or one
has another identity than the first: no other check can fail. -/
theorem summarise_cases (host : BaselineHost) {samples : List BootEvidence}
    (hbounds : 1 ≤ samples.length ∧ samples.length ≤ 100)
    (hbooted : ∀ sample ∈ samples, sample.Booted) :
    (∃ report, host.summarise samples = .ok report) ∨
      (∃ index sample, samples[index]? = some sample ∧ sample.peakRssKib = none ∧
        host.summarise samples = .err (noPeakSample index)) ∨
      ∃ first index sample, samples[0]? = some first ∧ samples[index]? = some sample ∧
        ¬sample.SharesIdentity first ∧ host.summarise samples = .err (otherIdentity index) := by
  obtain ⟨first, rest, rfl⟩ := List.exists_cons_of_length_pos hbounds.1
  have hstatistics {measurements : List UInt64} {f : BootEvidence → Option UInt64}
      (h : (first :: rest).map f = measurements.map some) :
      ∃ stats, sampleStatistics measurements = (.ok (some stats) : Exec HarnessError _) := by
    rw [length_of_map_some h] at hbounds
    obtain ⟨stats, hstats, -⟩ := exists_sampleStatistics
      (List.length_pos_iff.mp hbounds.1) (by omega)
    exact ⟨stats, hstats⟩
  -- the marker times are there, because the boots passed
  obtain ⟨times, htimes⟩ : ∃ times : List UInt64, (first :: rest).map
      (fun sample => sample.timeToReadyMarkerMs.map UInt64.ofNat) = times.map some :=
    exists_map_some fun sample hsample => by simpa using (hbooted sample hsample).timed
  obtain ⟨time, htime⟩ := hstatistics htimes
  rw [BaselineHost.summarise, Exec.collectSome_eq_ok.mpr htimes, Exec.ok_bind]
  rcases Exec.collectSome_cases (fun sample => sample.peakRssKib.map UInt64.ofNat) noPeakSample 0
    (first :: rest) with ⟨peaks, hpeaks⟩ | ⟨index, sample, hsample, hnone, hpeaks⟩
  · obtain ⟨peak, hpeak⟩ := hstatistics (Exec.collectSome_eq_ok.mp hpeaks)
    rw [hpeaks, Exec.ok_bind, List.head?_cons, Exec.okOr_some, Exec.ok_bind, List.tail_cons]
    rcases Exec.foldIdx_ensure_cases (fun sample : BootEvidence => sample.SharesIdentity first)
      otherIdentity 1 rest with hshared | ⟨index, sample, hsample, hdiffers, hcheck⟩
    · refine Or.inl (Exec.exists_bind_eq_ok (Exec.foldIdx_ensure_eq_ok.mpr hshared) ?_)
      refine Exec.exists_bind_eq_ok htime (Exec.exists_bind_eq_ok rfl ?_)
      exact Exec.exists_bind_eq_ok hpeak (Exec.exists_bind_eq_ok rfl ⟨_, rfl⟩)
    · refine Or.inr (Or.inr ⟨first, 1 + index, sample, rfl, ?_, hdiffers, by rw [hcheck]; rfl⟩)
      rw [Nat.add_comm]
      exact hsample
  · refine Or.inr (Or.inl ⟨index, sample, hsample, by simpa using hnone, ?_⟩)
    rw [hpeaks, Nat.zero_add]
    rfl

theorem summarise_complete (host : BaselineHost) {samples : List BootEvidence}
    (hbounds : 1 ≤ samples.length ∧ samples.length ≤ 100)
    (hbooted : ∀ sample ∈ samples, sample.Booted)
    (hpeaks : ∀ sample ∈ samples, sample.peakRssKib.isSome)
    (hidentity : ∀ sample ∈ samples, ∀ other ∈ samples, sample.SharesIdentity other) :
    ∃ report, host.summarise samples = .ok report := by
  rcases summarise_cases host hbounds hbooted with hreport | ⟨_, sample, hsample, hnone, -⟩ |
    ⟨first, _, sample, hfirst, hsample, hdiffers, -⟩
  · exact hreport
  · have hsome := hpeaks sample (List.mem_of_getElem? hsample)
    rw [hnone] at hsome
    cases hsome
  · exact absurd (hidentity sample (List.mem_of_getElem? hsample) first
      (List.mem_of_getElem? hfirst)) hdiffers

theorem summarise_sound {host : BaselineHost} {request : BaselineRequest}
    {samples : List BootEvidence} {report : BaselineReport}
    (hbounds : 1 ≤ request.runs ∧ request.runs ≤ 100) (hlength : samples.length = request.runs)
    (hbooted : ∀ sample ∈ samples, sample.Booted) (h : host.summarise samples = .ok report) :
    report.samples = samples ∧ report.Sound request := by
  simp only [BaselineHost.summarise, ↓Exec.check_bind_eq_ok, Exec.bind_eq_ok, Exec.okOr_eq_ok,
    Exec.collectSome_eq_ok, Exec.foldIdx_ensure_eq_ok] at h
  obtain ⟨times, htimes, peaks, hpeaks, first, hfirst, hidentity, _, htimeStats, time, rfl, _,
    hpeakStats, peak, rfl, hreport⟩ := h
  cases hreport
  obtain ⟨rest, rfl⟩ : ∃ rest, samples = first :: rest := List.head?_eq_some_iff.mp hfirst
  have hshared : ∀ sample ∈ first :: rest, sample.SharesIdentity first :=
    List.forall_mem_cons.mpr ⟨by simp [BootEvidence.SharesIdentity], hidentity⟩
  refine ⟨rfl, hbounds, ⟨hlength, hlength, ?_⟩, hbooted, ?_, ?_, times, peaks, htimes, hpeaks,
    htimeStats, hpeakStats⟩
  · exact (length_of_map_some hpeaks).symm.trans hlength
  · exact fun sample hsample other hother =>
      (hshared sample hsample).common (hshared other hother)
  · exact fun sample hsample => (hshared sample hsample).2.2.2.2.2.2.2.2.1

theorem measure_sound {host : BaselineHost} {request : BaselineRequest} {report : BaselineReport}
    {disk disk' : Disk (List Component)} (h : host.measure request disk = (.ok report, disk')) :
    report.Sound request := by
  simp only [BaselineHost.measure, Action.bind_eq_ok, Action.lift_eq_ok, Exec.ensure_eq_ok] at h
  obtain ⟨_, _, ⟨hpos, rfl⟩, _, _, ⟨hcapped, rfl⟩, _, _, ⟨hnormal, rfl⟩, samples, _, hboots,
    hreport, rfl⟩ := h
  obtain ⟨hlength, hbooted⟩ := runBoots_booted hnormal hboots
  exact (summarise_sound ⟨hpos, hcapped⟩ hlength hbooted hreport).2

theorem measure_of_boots (host : BaselineHost) {request : BaselineRequest}
    {samples : List BootEvidence} {disk disk' : Disk (List Component)}
    (hbounds : 1 ≤ request.runs ∧ request.runs ≤ 100) (hnormal : request.boot.scenario = .normal)
    (h : runBoots host.boot request.boot 0 request.runs disk = (.ok samples, disk')) :
    host.measure request disk = (host.summarise samples, disk') := by
  simp only [BaselineHost.measure, Exec.ensure, gt_iff_lt, Nat.pos_iff_ne_zero.mpr
    (Nat.one_le_iff_ne_zero.mp hbounds.1), hbounds.2, hnormal, if_true]
  exact Action.bind_of_ok h

/-- The boots stay in a region of the disk that the output is outside of. -/
structure Confined (host : BaselineHost) (request : BaselineRequest)
    (region : Set (List Component)) : Prop where
  boots : ∀ index mode,
    ((host.boot index).observeBoot request.boot mode).Keeps (SameOutside region)
  output : location request.output ∉ region

theorem measure_sameOutside {host : BaselineHost} {request : BaselineRequest}
    {region : Set (List Component)} (h : Confined host request region) :
    (host.measure request).Keeps (SameOutside region) :=
  (Action.Keeps.lift _).bind fun _ => (Action.Keeps.lift _).bind fun _ =>
    (Action.Keeps.lift _).bind fun _ => (runBoots_sameOutside h.boots 0 request.runs).bind fun _ =>
    Action.Keeps.lift _

/-- After the measurements, the run leaves what the writer leaves, and succeeds
with it. -/
theorem runBaseline_of_measure {host : BaselineHost} {request : BaselineRequest}
    {report : BaselineReport} {disk disk₁ : Disk (List Component)}
    (h : host.measure request disk = (.ok report, disk₁)) :
    ∃ result, host.runBaseline request disk = (result, (writeJsonAtomic host.pid host.faults
        request.output (host.serialize report) disk₁).2) ∧
      ∀ report', result = .ok report' → report' = report ∧ ∃ u, (writeJsonAtomic host.pid
        host.faults request.output (host.serialize report) disk₁).1 = .ok u := by
  have hrun : host.runBaseline request disk = _ := Action.bind_of_ok h
  rw [hrun]
  rcases hwrite : writeJsonAtomic host.pid host.faults request.output (host.serialize report)
    disk₁ with ⟨u | error | _, disk₂⟩
  · refine ⟨.ok report, Action.bind_of_ok (a := u) (by rw [Action.mapErr, hwrite]; rfl), ?_⟩
    rintro _ ⟨⟩
    exact ⟨rfl, u, rfl⟩
  · refine ⟨.err (.host error), Action.bind_of_err (by rw [Action.mapErr, hwrite]; rfl), ?_⟩
    simp
  · refine ⟨.panic, Action.bind_of_panic (by rw [Action.mapErr, hwrite]; rfl), ?_⟩
    simp

-- ════════════════════════════════════════════════════════════════════════
-- A baseline of two boots
-- ════════════════════════════════════════════════════════════════════════

theorem readyStream_accepted (capture : Capture) (h : capture.debug = some readyStream) :
    validateBootOutcome (observeBoot .scenario .normal readyExecution.toQemuExecution capture) =
      .ok () := by
  have htrace := parseProtocolStream_of_interleaved (interleaved_records (kernelPath readyMarker))
    Accepted.ready
  have hread : readLogBounded capture.debug = (readyStream, false) := by
    rw [h]
    exact readLogBounded_of_le (by decide +kernel)
  refine (if_pos rfl).trans (Exec.ensure_eq_ok.mpr ?_)
  simp only [observeBoot, hread]
  rw [readyStream, htrace]
  decide

/-- The boots on this host pass, and their reports differ in the log only. -/
theorem runBoot_ready : ∃ report : Capture → BootEvidence,
    (∀ capture, (report capture).peakRssKib.isSome) ∧
    (∀ capture capture', (report capture).SharesIdentity (report capture')) ∧
    ∀ disk, ∃ capture disk',
      sampleBootHost.runBoot sampleBootRequest disk = (.ok (report capture), disk') := by
  obtain ⟨inputs, hsample⟩ := observeBoot_sample
  refine ⟨sampleBootHost.evidence sampleBootRequest .scenario inputs
    (sampleBootHost.invocation .scenario inputs bootDirectory) readyExecution, ?_, ?_,
    fun disk => ?_⟩
  · simp [BootHost.evidence, readyExecution]
  · simp [BootHost.evidence, BootEvidence.SharesIdentity, observeTimedBoot, observeBoot]
  obtain ⟨finish, hlog, hobserve⟩ := hsample disk
  refine ⟨captured bootDirectory finish.files,
    sampleBootHost.dropDirectory bootDirectory finish, ?_⟩
  rw [BootHost.runBoot]
  simp only [Action.bind_eq_ok, Action.mapErr_eq_ok, Action.lift_eq_ok, Action.pure_eq_ok,
    Exec.mapErr_eq_ok]
  exact ⟨_, _, hobserve, (), _, ⟨readyStream_accepted _ hlog, rfl⟩, rfl, rfl⟩

def sampleBaselineHost : BaselineHost where
  boot _ := sampleBootHost
  os := "linux"
  arch := "x86_64"
  serialize report := some (utf8 (toString report.runs).toList)
  pid := 7
  faults := noFaults

def sampleBaselineRequest : BaselineRequest := ⟨sampleBootRequest, 2, utf8 "baseline.json".toList⟩

theorem confined_sample :
    Confined sampleBaselineHost sampleBaselineRequest (below bootDirectory) where
  boots _ _ := by
    refine observeBoot_sameOutside (fun directory hdirectory => ?_) ?_
    · rw [Exec.ok.inj (hdirectory.symm.trans temporary_sample)]
    rintro argv disk file hfile
    refine Function.update_of_ne (fun heq => hfile ?_) _ _
    have hname : Arch.ascii "debug.log" ∈ stagedNames := by decide
    rw [heq]
    exact staged_mem_below hname bootDirectory
  output h := absurd (List.IsPrefix.length_le h) (by decide)

theorem exists_runBoots {boot : ℕ → BootHost} {request : BootRequest}
    {report : Capture → BootEvidence}
    (h : ∀ index disk, ∃ capture disk',
      (boot index).runBoot request disk = (.ok (report capture), disk'))
    (index count : ℕ) (disk : Disk (List Component)) : ∃ captures : List Capture, ∃ disk',
      runBoots boot request index count disk = (.ok (captures.map report), disk') := by
  induction count generalizing index disk with
  | zero => exact ⟨[], disk, rfl⟩
  | succ count ih =>
    obtain ⟨capture, disk₁, hfirst⟩ := h index disk
    obtain ⟨captures, disk₂, hrest⟩ := ih (index + 1) disk₁
    refine ⟨capture :: captures, disk₂, ?_⟩
    simp only [runBoots, Action.bind_eq_ok, Action.pure_eq_ok]
    exact ⟨_, _, hfirst, _, _, hrest, rfl, rfl⟩

/-- Both boots pass, with a memory sample each and one identity. -/
theorem runBoots_sample (disk : Disk (List Component)) : ∃ samples disk',
    runBoots sampleBaselineHost.boot sampleBaselineRequest.boot 0 sampleBaselineRequest.runs disk =
        (.ok samples, disk') ∧
      (∀ sample ∈ samples, sample.peakRssKib.isSome) ∧
      ∀ sample ∈ samples, ∀ other ∈ samples, sample.SharesIdentity other := by
  obtain ⟨report, hpeak, hidentity, hboots⟩ := runBoot_ready
  obtain ⟨captures, disk', hruns⟩ := exists_runBoots (fun _ => hboots) 0 2 disk
  refine ⟨captures.map report, disk', hruns, ?_, ?_⟩
  · simpa using fun capture _ => hpeak capture
  · simpa using fun capture _ capture' _ => hidentity capture capture'

theorem measure_sample (disk : Disk (List Component)) : ∃ report disk',
    sampleBaselineHost.measure sampleBaselineRequest disk = (.ok report, disk') := by
  obtain ⟨samples, disk', hboots, hpeaks, hidentity⟩ := runBoots_sample disk
  obtain ⟨hlength, hbooted⟩ := runBoots_booted rfl hboots
  obtain ⟨report, hreport⟩ :=
    summarise_complete sampleBaselineHost (hlength ▸ by decide) hbooted hpeaks hidentity
  refine ⟨report, disk', (measure_of_boots _ (by decide) rfl hboots).trans ?_⟩
  rw [hreport]

-- ════════════════════════════════════════════════════════════════════════
-- The baseline of a request
-- ════════════════════════════════════════════════════════════════════════

/-- Boots that passed give a report exactly when each has a memory sample and all
have one identity. Otherwise the result is the error of a boot without a sample,
or of one with another identity than the first: the other errors are out of
reach, and nothing overflows. -/
theorem baseline_accepts_iff (host : BaselineHost) {request : BaselineRequest}
    {samples : List BootEvidence} {disk disk' : Disk (List Component)}
    (hbounds : 1 ≤ request.runs ∧ request.runs ≤ 100) (hnormal : request.boot.scenario = .normal)
    (h : runBoots host.boot request.boot 0 request.runs disk = (.ok samples, disk')) :
    ((∃ report, host.measure request disk = (.ok report, disk')) ↔
      (∀ sample ∈ samples, sample.peakRssKib.isSome) ∧
        ∀ sample ∈ samples, ∀ other ∈ samples, sample.SharesIdentity other) ∧
    ((∃ report, host.measure request disk = (.ok report, disk')) ∨
      (∃ index sample, samples[index]? = some sample ∧ sample.peakRssKib = none ∧
        host.measure request disk = (.err (noPeakSample index), disk')) ∨
      ∃ first index sample, samples[0]? = some first ∧ samples[index]? = some sample ∧
        ¬sample.SharesIdentity first ∧
        host.measure request disk = (.err (otherIdentity index), disk')) := by
  obtain ⟨hlength, hbooted⟩ := runBoots_booted hnormal h
  rw [← hlength] at hbounds
  rw [measure_of_boots host (hlength ▸ hbounds) hnormal h]
  simp only [Prod.mk.injEq, and_true]
  refine ⟨⟨?_, ?_⟩, summarise_cases host hbounds hbooted⟩
  · rintro ⟨report, hreport⟩
    obtain ⟨rfl, hsound⟩ := summarise_sound (hlength ▸ hbounds) hlength hbooted hreport
    obtain ⟨-, peaks, -, hpeaks, -⟩ := hsound.statistics
    refine ⟨fun sample hsample => ?_, hsound.identity⟩
    simpa using isSome_of_map_some hpeaks sample hsample
  · rintro ⟨hpeaks, hidentity⟩
    exact summarise_complete host hbounds hbooted hpeaks hidentity

theorem baseline_accepts_iff_sample : ∃ samples disk',
    runBoots sampleBaselineHost.boot sampleBaselineRequest.boot 0 sampleBaselineRequest.runs
      ⟨fun _ => none, []⟩ = (.ok samples, disk') ∧
    ∃ report, sampleBaselineHost.measure sampleBaselineRequest ⟨fun _ => none, []⟩ =
      (.ok report, disk') := by
  obtain ⟨samples, disk', hboots, haccepted⟩ := runBoots_sample ⟨fun _ => none, []⟩
  exact ⟨samples, disk', hboots,
    (baseline_accepts_iff sampleBaselineHost (by decide) rfl hboots).1.mpr haccepted⟩

/-- At the end of every run, whatever failed, the output is as it was or holds the
whole of a sound report: up to a hundred boots, as many as were asked for, which
all reached the kernel in executions of one identity. A run that returns a report
has written that report. -/
theorem baseline_report_sound {host : BaselineHost} {request : BaselineRequest}
    {region : Set (List Component)} (hconfined : Confined host request region)
    (disk : Disk (List Component)) :
    ((host.runBaseline request disk).2.files (location request.output) =
        disk.files (location request.output) ∨
      ∃ report bytes, report.Sound request ∧ host.serialize report = some bytes ∧
        (host.runBaseline request disk).2.files (location request.output) = some bytes) ∧
    ∀ report, (host.runBaseline request disk).1 = .ok report →
      report.Sound request ∧
        (host.runBaseline request disk).2.files (location request.output) =
          host.serialize report := by
  have houtside := measure_sameOutside hconfined disk
  rcases hmeasure : host.measure request disk with ⟨report | error | _, disk₁⟩
  · rw [hmeasure] at houtside
    have hsound := measure_sound hmeasure
    obtain ⟨result, hrun, hresult⟩ := runBaseline_of_measure hmeasure
    rw [hrun]
    rcases writeOutput_output disk₁ with ⟨hsame, hfailed⟩ | ⟨bytes, hbytes, houtput⟩
    · refine ⟨Or.inl (hsame.trans (houtside _ hconfined.output)), fun report' hreport => ?_⟩
      obtain ⟨-, u, hok⟩ := hresult report' hreport
      exact absurd hok (hfailed u)
    · have hserialized : host.serialize report = some bytes := Exec.okOr_eq_ok.mp hbytes
      refine ⟨Or.inr ⟨report, bytes, hsound, hserialized, houtput⟩, fun report' hreport => ?_⟩
      obtain ⟨rfl, -⟩ := hresult report' hreport
      exact ⟨hsound, houtput.trans hserialized.symm⟩
  · rw [hmeasure] at houtside
    have hrun : host.runBaseline request disk = (.err error, disk₁) := Action.bind_of_err hmeasure
    rw [hrun]
    exact ⟨Or.inl (houtside _ hconfined.output), by simp⟩
  · rw [hmeasure] at houtside
    have hrun : host.runBaseline request disk = (.panic, disk₁) := Action.bind_of_panic hmeasure
    rw [hrun]
    exact ⟨Or.inl (houtside _ hconfined.output), by simp⟩

theorem baseline_report_sound_sample : ∃ report disk',
    sampleBaselineHost.runBaseline sampleBaselineRequest ⟨fun _ => none, []⟩ =
      (.ok report, disk') ∧
    report.Sound sampleBaselineRequest ∧
    disk'.files (location sampleBaselineRequest.output) = some (Arch.ascii "2") := by
  have hname : fileName sampleBaselineRequest.output = some (utf8 "baseline.json".toList) := by
    decide +kernel
  obtain ⟨report, disk₁, hmeasure⟩ := measure_sample ⟨fun _ => none, []⟩
  have houtside := measure_sameOutside confined_sample ⟨fun _ => none, []⟩
  rw [hmeasure] at houtside
  have htemporary : location (temporaryPath jsonWriter 7 sampleBaselineRequest.output
      (utf8 "baseline.json".toList)) ∉ below bootDirectory := by
    intro hbelow
    have hlength := List.IsPrefix.length_le hbelow
    rw [location_temporaryPath _ _ hname, List.length_append, List.length_singleton] at hlength
    exact absurd hlength (by decide)
  obtain ⟨disk', hwrite⟩ := writeOutput_noFaults hname (houtside _ htemporary)
  have hrun : sampleBaselineHost.runBaseline sampleBaselineRequest ⟨fun _ => none, []⟩ =
      (.ok report, disk') := by
    rw [BaselineHost.runBaseline]
    simp only [Action.bind_eq_ok, Action.mapErr_eq_ok, Action.pure_eq_ok]
    exact ⟨report, disk₁, hmeasure, (), disk', hwrite, rfl, rfl⟩
  have hsound := (baseline_report_sound confined_sample ⟨fun _ => none, []⟩).2 report
    (congrArg Prod.fst hrun)
  rw [hrun] at hsound
  refine ⟨report, disk', hrun, hsound.1, hsound.2.trans ?_⟩
  show some (utf8 (toString report.runs).toList) = _
  rw [hsound.1.count.2.1]
  decide

end PolytopeOS.Host
