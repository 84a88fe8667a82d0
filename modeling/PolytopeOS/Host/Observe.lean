import PolytopeOS.Host.ImageLoading
import PolytopeOS.Host.Invocation
import PolytopeOS.Host.Supervise
import PolytopeOS.Host.Temporary

/-!
# Observing a boot

`observe_boot` reads and checks the image, copies what it has read into a
directory of its own and starts the emulator on the copies. The report is about
the bytes that were executed, even if the files change after they were read.
-/

namespace PolytopeOS.Host
open Corelib Corelib.Processes Arch

/-- A finished process. -/
structure ProcessOutput where
  success : Bool
  status : String
  stdout : Bytes

structure BootRequest where
  image : Bytes
  scenario : BootScenario
  /-- In nanoseconds. -/
  timeout : ℕ
  qemu : Option Bytes
  ovmfCache : Bytes

/-- What `fs::write` and `File::create` may meet. -/
structure StagingFaults where
  image : Bool × Option ℕ
  code : Bool × Option ℕ
  vars : Bool × Option ℕ
  stdout : Bool
  stderr : Bool

/-- The host of one boot: what it answers, and the emulator. -/
structure BootHost where
  linux : Bool
  tools : ImageTools
  read : Bytes → Reading
  isFile : Bytes → Bool
  /-- `POLYTOPE_QEMU` -/
  qemu : Option Bytes
  /-- `PATH` -/
  searchPath : Option Bytes
  version : Bytes → Option ProcessOutput
  /-- `POLYTOPE_OVMF_CODE` and `POLYTOPE_OVMF_VARS` -/
  ovmfCode : Option Bytes
  ovmfVars : Option Bytes
  /-- The code and variable files of the pinned release, fetched into a cache. -/
  prebuilt : Bytes → Option (Bytes × Bytes)
  /-- `env::temp_dir` and the process, with the answers to `create`. -/
  tempDir : Bytes
  pid : ℕ
  directories : DirectoryAnswers
  faults : StagingFaults
  /-- Which files `remove_dir_all` comes to remove. -/
  removes : List Component → Bool
  /-- The answers to the supervisor's calls, and the debug log as it reads it. -/
  environment : Environment String
  log : Bytes → ℕ → Except String Poll
  /-- What the emulator does to the files, once it was started with a vector. -/
  emulate : List Bytes → Disk (List Component) → Disk (List Component)

-- ════════════════════════════════════════════════════════════════════════
-- The emulator and its firmware
-- ════════════════════════════════════════════════════════════════════════

def requireFile (isFile : Bytes → Bool) (path : Bytes) (source : String) : Exec String Bytes :=
  if isFile path then .ok path
  else .err (source ++ " does not identify a file: " ++ display path)

def colon : UInt8 := 0x3a

/-- The first of the directories of `PATH` that has the program. -/
def findOnPath (isFile : Bytes → Bool) (searchPath : Option Bytes) (program : String) :
    Option Bytes :=
  searchPath.bind fun path =>
    ((path.splitOn colon).map fun directory => joinPath directory (ascii program)).find? isFile

def qemuCandidates : List Bytes :=
  [ascii "/opt/homebrew/bin/qemu-system-x86_64", ascii "/usr/local/bin/qemu-system-x86_64",
    ascii "/usr/bin/qemu-system-x86_64"]

def BootHost.resolveQemu (host : BootHost) (overridePath : Option Bytes) : Exec String Bytes :=
  match overridePath, host.qemu with
  | some path, _ => requireFile host.isFile path "QEMU override"
  | none, some path => requireFile host.isFile path "POLYTOPE_QEMU"
  | none, none =>
    match findOnPath host.isFile host.searchPath "qemu-system-x86_64" with
    | some path => .ok path
    | none =>
      Exec.okOr (qemuCandidates.find? host.isFile)
        "qemu-system-x86_64 is unavailable; install QEMU or set POLYTOPE_QEMU"

def BootHost.qemuVersion (host : BootHost) (qemu : Bytes) : Exec String (List Char) := do
  let output ← Exec.okOr (host.version qemu) ("failed to query " ++ display qemu ++ " version")
  Exec.ensure output.success ("QEMU version command failed with " ++ output.status)
  return ((lines ((fromUtf8 (lossy output.stdout)).getD [])).head?).getD
    "unknown QEMU version".toList

structure FirmwarePaths where
  code : Bytes
  vars : Bytes
  release : String

def ovmfRelease : String := "edk2-stable202605-r1"

def BootHost.resolveFirmware (host : BootHost) (cache : Bytes) : Exec String FirmwarePaths :=
  match host.ovmfCode, host.ovmfVars with
  | some code, some vars => do
    Exec.ensure (host.isFile code) ("POLYTOPE_OVMF_CODE is not a file: " ++ display code)
    Exec.ensure (host.isFile vars) ("POLYTOPE_OVMF_VARS is not a file: " ++ display vars)
    return ⟨code, vars, "environment-override"⟩
  | none, none => do
    let (code, vars) ← Exec.okOr (host.prebuilt cache)
      "failed to fetch checksum-pinned OVMF edk2-stable202605-r1"
    return ⟨code, vars, ovmfRelease⟩
  | _, _ => .err "POLYTOPE_OVMF_CODE and POLYTOPE_OVMF_VARS must be set together"

-- ════════════════════════════════════════════════════════════════════════
-- The run
-- ════════════════════════════════════════════════════════════════════════

theorem slash_not_mem_qemu : slash ∉ utf8 "qemu".toList := by decide

/-- The directory that `TemporaryDirectory::create` makes for a boot. -/
def BootHost.temporary (host : BootHost) : Exec String Bytes :=
  DirectoryRequest.create ⟨host.tempDir, "qemu".toList, host.pid, slash_not_mem_qemu⟩
    host.directories

def SuperviseError.message (qemu image : Bytes) : SuperviseError String → String
  | .start _ => "failed to start " ++ display qemu ++ " for image " ++ display image
  | .log error => error
  | .query _ => "failed to query QEMU status"
  | .terminate _ => "failed to terminate and reap timed-out QEMU"

/-- `execute_bounded_qemu` with an executable, an image for its message, an argument
vector, a timeout and the debug log. An emulator that was not started changes no
file. -/
def BootHost.execute (host : BootHost) (qemu image : Bytes) (argv : List Bytes) (timeout : ℕ)
    (debugLog : Bytes) : Action (Disk (List Component)) String SupervisedExecution := fun disk =>
  match (supervise (host.log debugLog) timeout host.environment).1 with
  | .ok execution => (.ok execution, host.emulate argv disk)
  | .error (.start error) => (.err (SuperviseError.message qemu image (.start error)), disk)
  | .error error => (.err (error.message qemu image), host.emulate argv disk)

/-- What is known before anything is written. -/
structure BootInputs where
  image : Bytes
  manifest : ImageManifest
  qemu : Bytes
  version : List Char
  firmware : FirmwarePaths
  ovmfCode : Bytes
  ovmfVars : Bytes

def maxFirmwareBytes : ℕ := 64 * 1024 * 1024

/-- The checks of `observe_boot`, up to the temporary directory. -/
def BootHost.bootInputs (host : BootHost) (request : BootRequest) : Exec String BootInputs := do
  Exec.ensure (request.timeout > 0) "boot timeout must be positive"
  let image ← readBounded host.read request.image diskBytes "boot image"
  let length := image.length
  Exec.ensure (length = diskBytes) s!"boot image is {length} bytes; expected {diskBytes}"
  let manifest ← (host.tools.validateImageBytes image).mapErr
    fun _ => "refusing to execute an invalid image"
  Exec.ensure (manifest.scenario = request.scenario)
    ("requested scenario " ++ String.ofList request.scenario.asStr ++
      " does not match image scenario " ++ String.ofList manifest.scenario.asStr)
  let qemu ← host.resolveQemu request.qemu
  let version ← host.qemuVersion qemu
  let firmware ← host.resolveFirmware request.ovmfCache
  let ovmfCode ← readBounded host.read firmware.code maxFirmwareBytes "OVMF code"
  let ovmfVars ← readBounded host.read firmware.vars maxFirmwareBytes "OVMF vars"
  return { image, manifest, qemu, version, firmware, ovmfCode, ovmfVars }

/-- The paths of the files below the temporary directory. -/
def stagedPaths (directory : Bytes) : InvocationPaths where
  ovmfCode := joinPath directory (ascii "validated-code.fd")
  ovmfVars := joinPath directory (ascii "vars.fd")
  image := joinPath directory (ascii "validated-boot.img")
  serialLog := joinPath directory (ascii "serial.log")
  debugLog := joinPath directory (ascii "debug.log")

def stdoutPath (directory : Bytes) : Bytes := joinPath directory (ascii "stdout.log")

def stderrPath (directory : Bytes) : Bytes := joinPath directory (ascii "stderr.log")

/-- `fs::write` -/
def writeFile (faults : Bool × Option ℕ) (path bytes : Bytes) (error : String) :
    Action (Disk (List Component)) String Unit := do
  createFile faults.1 (location path) error
  writeAll faults.2 (location path) bytes error

/-- The copies and the two empty logs. -/
def BootHost.stage (host : BootHost) (inputs : BootInputs) (directory : Bytes) :
    Action (Disk (List Component)) String Unit := do
  let paths := stagedPaths directory
  writeFile host.faults.image paths.image inputs.image
    "failed to stage validated boot-image bytes"
  writeFile host.faults.code paths.ovmfCode inputs.ovmfCode
    "failed to stage validated OVMF-code bytes"
  writeFile host.faults.vars paths.ovmfVars inputs.ovmfVars
    ("failed to create mutable OVMF vars at " ++ display paths.ovmfVars)
  createFile host.faults.stdout (location (stdoutPath directory))
    "failed to create QEMU stdout log"
  createFile host.faults.stderr (location (stderrPath directory))
    "failed to create QEMU stderr log"

/-- A report with everything that identifies the execution. -/
structure BootEvidence extends TimedRun where
  peakRssKib : Option ℕ
  imageSha256 : String
  imageBytes : ℕ
  ovmfCodeSha256 : String
  ovmfVarsSha256 : String
  qemuVersion : List Char
  ovmfRelease : String
  qemuArgv : List Bytes

/-- The logs that the execution has left. -/
def captured (directory : Bytes) (files : Files (List Component)) : Capture where
  serial := files (location (stagedPaths directory).serialLog)
  debug := files (location (stagedPaths directory).debugLog)
  stderr := files (location (stderrPath directory))
  stdout := files (location (stdoutPath directory))

def BootHost.evidence (host : BootHost) (request : BootRequest) (mode : BootMode)
    (inputs : BootInputs) (invocation : QemuInvocation) (execution : SupervisedExecution)
    (capture : Capture) : BootEvidence where
  toTimedRun := observeTimedBoot mode request.scenario (request.timeout / nanosPerMilli)
    execution.toTimedExecution capture
  peakRssKib := execution.peakRssKib
  imageSha256 := host.tools.sha256Hex inputs.image
  imageBytes := inputs.image.length
  ovmfCodeSha256 := host.tools.sha256Hex inputs.ovmfCode
  ovmfVarsSha256 := host.tools.sha256Hex inputs.ovmfVars
  qemuVersion := inputs.version
  ovmfRelease := inputs.firmware.release
  qemuArgv := invocation.sanitizedArgv

def BootHost.invocation (host : BootHost) (mode : BootMode) (inputs : BootInputs)
    (directory : Bytes) : QemuInvocation :=
  qemuInvocation host.linux inputs.qemu (stagedPaths directory) (mode = .scenario)

/-- The part of the run that lives in the temporary directory. -/
def BootHost.runStaged (host : BootHost) (request : BootRequest) (mode : BootMode)
    (inputs : BootInputs) (directory : Bytes) :
    Action (Disk (List Component)) String BootEvidence := do
  host.stage inputs directory
  let invocation := host.invocation mode inputs directory
  let execution ← host.execute inputs.qemu (stagedPaths directory).image invocation.arguments
    request.timeout (stagedPaths directory).debugLog
  let files ← Action.get
  return host.evidence request mode inputs invocation execution (captured directory files.files)

/-- The destructor of the temporary directory, which may fail in part. -/
def BootHost.dropDirectory (host : BootHost) (directory : Bytes) (disk : Disk (List Component)) :
    Disk (List Component) :=
  disk.step .remove fun file =>
    if location directory <+: file ∧ host.removes file then none else disk.files file

/-- `observe_boot` -/
def BootHost.observeBoot (host : BootHost) (request : BootRequest) (mode : BootMode) :
    Action (Disk (List Component)) String BootEvidence := do
  let inputs ← Action.lift (host.bootInputs request)
  let directory ← Action.lift host.temporary
  Action.dropping (host.runStaged request mode inputs directory) (host.dropDirectory directory)

-- ════════════════════════════════════════════════════════════════════════
-- The staged files
-- ════════════════════════════════════════════════════════════════════════

theorem writeFile_eq_ok {faults : Bool × Option ℕ} {path bytes : Bytes} {error : String} {u : Unit}
    {disk disk' : Disk (List Component)}
    (h : writeFile faults path bytes error disk = (.ok u, disk')) :
    disk'.files = Function.update disk.files (location path) (some bytes) := by
  obtain ⟨_, disk₁, hcreate, hwrite⟩ := Action.bind_eq_ok.mp h
  have hcreated := createFile_eq_ok hcreate
  have hempty : disk₁.files (location path) = some [] := by rw [hcreated, Function.update_self]
  rw [writeAll_eq_ok hempty hwrite, hcreated, Function.update_idem]

theorem writeFile_sameOutside {region : Set (List Component)} {faults : Bool × Option ℕ}
    {path bytes : Bytes} {error : String} (h : location path ∈ region) :
    (writeFile faults path bytes error).Keeps (SameOutside region) :=
  (createFile_sameOutside _ h).bind fun _ => writeAll_sameOutside _ h

/-- The names of the files in the temporary directory. -/
def stagedNames : List Bytes :=
  [ascii "validated-boot.img", ascii "validated-code.fd", ascii "vars.fd", ascii "stdout.log",
    ascii "stderr.log", ascii "serial.log", ascii "debug.log"]

theorem location_staged {name : Bytes} (h : name ∈ stagedNames) (directory : Bytes) :
    location (joinPath directory name) = location directory ++ [.normal name] := by
  have hname : slash ∉ name ∧ 3 ≤ name.length := by
    revert name
    decide
  exact location_joinPath_long hname.1 hname.2

theorem nodup_staged (directory : Bytes) :
    (stagedNames.map fun name => location (joinPath directory name)).Nodup := by
  have hnames : stagedNames.Nodup := by decide
  refine hnames.map_on fun name hname other hother heq => ?_
  rw [location_staged hname, location_staged hother] at heq
  simpa using List.append_cancel_left heq

/-- The files below a directory. -/
def below (directory : Bytes) : Set (List Component) := { file | location directory <+: file }

theorem staged_mem_below {name : Bytes} (h : name ∈ stagedNames) (directory : Bytes) :
    location (joinPath directory name) ∈ below directory := by
  rw [location_staged h]
  exact List.prefix_append _ _

/-- When the copies were made they hold what was read. -/
theorem stage_eq_ok {host : BootHost} {inputs : BootInputs} {directory : Bytes} {u : Unit}
    {disk disk' : Disk (List Component)} (h : host.stage inputs directory disk = (.ok u, disk')) :
    disk'.files (location (stagedPaths directory).image) = some inputs.image ∧
      disk'.files (location (stagedPaths directory).ovmfCode) = some inputs.ovmfCode ∧
      disk'.files (location (stagedPaths directory).ovmfVars) = some inputs.ovmfVars := by
  simp only [BootHost.stage, Action.bind_eq_ok] at h
  obtain ⟨_, _, himage, _, _, hcode, _, _, hvars, _, _, hstdout, hstderr⟩ := h
  have hfiles := createFile_eq_ok hstderr
  rw [createFile_eq_ok hstdout, writeFile_eq_ok hvars, writeFile_eq_ok hcode,
    writeFile_eq_ok himage] at hfiles
  have hdistinct := nodup_staged directory
  simp only [stagedNames, List.map_cons, List.map_nil, List.nodup_cons, List.mem_cons,
    List.not_mem_nil, or_false, not_or] at hdistinct
  simp [hfiles, stagedPaths, stdoutPath, stderrPath, hdistinct]

-- ════════════════════════════════════════════════════════════════════════
-- What is executed
-- ════════════════════════════════════════════════════════════════════════

/-- The files of the drives, in the order of their options. -/
def driveFiles (read : List (Bytes × Setting)) : List Bytes :=
  read.filterMap fun (name, value) =>
    match value with
    | .properties list => if name = ascii "-drive" then list.lookup (some (ascii "file")) else none
    | _ => none

theorem driveFiles_intendedSettings (linux : Bool) (paths : InvocationPaths)
    (attachDebugExit : Bool) :
    driveFiles (intendedSettings linux paths attachDebugExit) =
      [paths.ovmfCode, paths.ovmfVars, paths.image] := by
  cases attachDebugExit <;> cases linux <;> rfl

theorem texts_stagedPaths {directory : Bytes} (h : lossy directory = directory) :
    (stagedPaths directory).texts = stagedPaths directory := by
  have hjoin {name : Bytes} (hname : name.all (· < 0x80) = true) :=
    lossy_joinPath h (lossy_of_ascii hname)
  simp only [stagedPaths, InvocationPaths.texts, InvocationPaths.mk.injEq]
  refine ⟨hjoin ?_, hjoin ?_, hjoin ?_, hjoin ?_, hjoin ?_⟩ <;> decide

/-- The drives that the emulator opens hold the given contents when it starts. -/
def StartedOn (read : OptionReader) (argv : List Bytes) (start : Disk (List Component))
    (code vars image : Bytes) : Prop :=
  ∃ settings codeFile varsFile imageFile, read argv = some settings ∧
    driveFiles settings = [codeFile, varsFile, imageFile] ∧
    start.files (location codeFile) = some code ∧ start.files (location varsFile) = some vars ∧
    start.files (location imageFile) = some image

theorem startedOn_staged {read : OptionReader} (hread : ReadsOptions read) {host : BootHost}
    {mode : BootMode} {inputs : BootInputs} {directory : Bytes}
    (htext : lossy directory = directory) {u : Unit} {disk start : Disk (List Component)}
    (hstage : host.stage inputs directory disk = (.ok u, start)) :
    StartedOn read (host.invocation mode inputs directory).arguments start inputs.ovmfCode
      inputs.ovmfVars inputs.image := by
  obtain ⟨himage, hcode, hvars⟩ := stage_eq_ok hstage
  refine ⟨_, _, _, _, hread.qemuInvocation _ _ _ _, driveFiles_intendedSettings _ _ _, ?_⟩
  rw [texts_stagedPaths htext]
  exact ⟨hcode, hvars, himage⟩

theorem stage_sameOutside (host : BootHost) (inputs : BootInputs) (directory : Bytes) :
    (host.stage inputs directory).Keeps (SameOutside (below directory)) := by
  have hbelow (name : String) (h : ascii name ∈ stagedNames) := staged_mem_below h directory
  exact (writeFile_sameOutside (hbelow "validated-boot.img" (by decide))).bind fun _ =>
    (writeFile_sameOutside (hbelow "validated-code.fd" (by decide))).bind fun _ =>
    (writeFile_sameOutside (hbelow "vars.fd" (by decide))).bind fun _ =>
    (createFile_sameOutside _ (hbelow "stdout.log" (by decide))).bind fun _ =>
    createFile_sameOutside _ (hbelow "stderr.log" (by decide))

theorem execute_eq_ok {host : BootHost} {qemu image debugLog : Bytes} {argv : List Bytes}
    {timeout : ℕ} {execution : SupervisedExecution} {disk disk' : Disk (List Component)} :
    host.execute qemu image argv timeout debugLog disk = (.ok execution, disk') ↔
      (supervise (host.log debugLog) timeout host.environment).1 = .ok execution ∧
        host.emulate argv disk = disk' := by
  unfold BootHost.execute
  split <;> simp_all

theorem execute_sameOutside {host : BootHost} {region : Set (List Component)} {argv : List Bytes}
    (h : ∀ disk, SameOutside region disk (host.emulate argv disk)) (qemu image : Bytes)
    (timeout : ℕ) (debugLog : Bytes) :
    (host.execute qemu image argv timeout debugLog).Keeps (SameOutside region) := by
  intro disk
  unfold BootHost.execute
  split
  · exact h disk
  · exact fun _ _ => rfl
  · exact h disk

/-- With an emulator that stays in a region with the temporary directory, nothing
outside it changes. -/
theorem observeBoot_sameOutside {host : BootHost} {request : BootRequest} {mode : BootMode}
    {region : Set (List Component)}
    (hdirectory : ∀ directory, host.temporary = .ok directory → below directory ⊆ region)
    (hemulate : ∀ argv disk, SameOutside region disk (host.emulate argv disk)) :
    (host.observeBoot request mode).Keeps (SameOutside region) := by
  refine Action.Keeps.lift_bind fun inputs _ => ?_
  refine Action.Keeps.lift_bind fun directory htemporary => ?_
  have hbelow := hdirectory directory htemporary
  refine Action.Keeps.dropping ?_ fun disk file hfile => if_neg fun h => hfile (hbelow h.1)
  refine Action.Keeps.bind (fun disk file hfile => ?_) fun _ =>
    (execute_sameOutside (hemulate _) _ _ _ _).bind fun _ => Action.Keeps.get.bind fun _ =>
      Action.Keeps.pure _
  exact stage_sameOutside host inputs directory disk file fun h => hfile (hbelow h)

/-- The inputs are what was read from the paths of the request and of the firmware,
and the image passed its validation. -/
structure BootInputs.Checked (host : BootHost) (request : BootRequest) (inputs : BootInputs) :
    Prop where
  timeout : request.timeout > 0
  imageRead : readBounded host.read request.image diskBytes "boot image" = .ok inputs.image
  length : inputs.image.length = diskBytes
  validated : host.tools.validateImageBytes inputs.image = .ok inputs.manifest
  scenario : inputs.manifest.scenario = request.scenario
  emulator : host.resolveQemu request.qemu = .ok inputs.qemu
  version : host.qemuVersion inputs.qemu = .ok inputs.version
  firmware : host.resolveFirmware request.ovmfCache = .ok inputs.firmware
  codeRead : readBounded host.read inputs.firmware.code maxFirmwareBytes "OVMF code" =
    .ok inputs.ovmfCode
  varsRead : readBounded host.read inputs.firmware.vars maxFirmwareBytes "OVMF vars" =
    .ok inputs.ovmfVars

theorem bootInputs_eq_ok {host : BootHost} {request : BootRequest} {inputs : BootInputs} :
    host.bootInputs request = .ok inputs ↔ inputs.Checked host request := by
  simp only [BootHost.bootInputs, ↓Exec.check_bind_eq_ok, Exec.bind_eq_ok, Exec.ensure_eq_ok,
    Exec.mapErr_eq_ok]
  constructor
  · rintro ⟨_, htimeout, image, himage, hlength, manifest, hvalid, hscenario, qemu, hqemu, version,
      hversion, firmware, hfirmware, code, hcode, vars, hvars, hinputs⟩
    cases hinputs
    exact ⟨htimeout, himage, hlength, hvalid, hscenario, hqemu, hversion, hfirmware, hcode, hvars⟩
  · rintro ⟨htimeout, himage, hlength, hvalid, hscenario, hqemu, hversion, hfirmware, hcode, hvars⟩
    exact ⟨(), htimeout, _, himage, hlength, _, hvalid, hscenario, _, hqemu, _, hversion, _,
      hfirmware, _, hcode, _, hvars, rfl⟩

/-- The stages of a boot that is reported. -/
theorem observeBoot_eq_ok {host : BootHost} {request : BootRequest} {mode : BootMode}
    {evidence : BootEvidence} {disk disk' : Disk (List Component)} :
    host.observeBoot request mode disk = (.ok evidence, disk') ↔
      ∃ inputs directory start execution, host.bootInputs request = .ok inputs ∧
        host.temporary = .ok directory ∧ host.stage inputs directory disk = (.ok (), start) ∧
        (supervise (host.log (stagedPaths directory).debugLog) request.timeout
          host.environment).1 = .ok execution ∧
        evidence = host.evidence request mode inputs (host.invocation mode inputs directory)
          execution (captured directory (host.emulate
            (host.invocation mode inputs directory).arguments start).files) ∧
        disk' = host.dropDirectory directory
          (host.emulate (host.invocation mode inputs directory).arguments start) := by
  simp only [BootHost.observeBoot, BootHost.runStaged, Action.bind_eq_ok, Action.lift_eq_ok,
    Action.dropping_eq_ok, Action.get_eq_ok, Action.pure_eq_ok, execute_eq_ok]
  constructor
  · rintro ⟨inputs, _, ⟨hinputs, rfl⟩, directory, _, ⟨hdirectory, rfl⟩, _, ⟨_, start, hstage,
      execution, _, ⟨hexecution, rfl⟩, _, _, ⟨rfl, rfl⟩, rfl, rfl⟩, rfl⟩
    exact ⟨inputs, directory, start, execution, hinputs, hdirectory, hstage, hexecution, rfl, rfl⟩
  · rintro ⟨inputs, directory, start, execution, hinputs, hdirectory, hstage, hexecution, rfl, rfl⟩
    exact ⟨inputs, _, ⟨hinputs, rfl⟩, directory, _, ⟨hdirectory, rfl⟩, _, ⟨(), start, hstage,
      execution, _, ⟨hexecution, rfl⟩, _, _, ⟨rfl, rfl⟩, rfl, rfl⟩, rfl⟩

/-- A directory whose name holds a comma. -/
def bootDirectory : Bytes := ascii "/tmp/a,b/.polytope-qemu-7-0"

def sampleBootRequest : BootRequest where
  image := ascii "os.img"
  scenario := .normal
  timeout := 15 * 1000 * nanosPerMilli
  qemu := none
  ovmfCache := ascii "cache"

def readyStream : Bytes := (kernelPath readyMarker).flatMap writeRecord

/-- Every process ends at once, and the helper prints a size. -/
def readyEnvironment : Environment String where
  pause _ := 0
  spawn _ := .ok ()
  tryWait _ := .ok (some ⟨some readyExitStatus⟩)
  kill _ := .ok ()
  wait _ := .ok ⟨none⟩
  output _ := .ok (ascii " 8192" ++ [10])

def readyExecution : SupervisedExecution := ⟨⟨⟨some readyExitStatus, some 0, false⟩, 0⟩, some 8192⟩

/-- A host with the sample's image, on which a file of the firmware holds its own
name, and with an emulator whose guest reaches the kernel. -/
def sampleBootHost : BootHost where
  linux := true
  tools := sampleTools
  read path :=
    if path = ascii "os.img" then ⟨some (true, diskBytes), some sampleDisk⟩
    else ⟨some (true, path.length), some path⟩
  isFile _ := true
  qemu := none
  searchPath := none
  version _ := some ⟨true, "exit status: 0", ascii "QEMU"⟩
  ovmfCode := none
  ovmfVars := none
  prebuilt cache := some (joinPath cache (ascii "code.fd"), joinPath cache (ascii "vars.fd"))
  tempDir := ascii "/tmp/a,b"
  pid := 7
  directories := ⟨true, fun call => (call, .created)⟩
  faults := ⟨(false, none), (false, none), (false, none), false, false⟩
  removes _ := true
  environment := readyEnvironment
  log _ _ := .ok ⟨some readyStream, id⟩
  emulate _ disk := disk.step .write
    (Function.update disk.files (location (stagedPaths bootDirectory).debugLog) (some readyStream))

theorem temporary_sample : sampleBootHost.temporary = .ok bootDirectory := by
  have hpath : DirectoryRequest.path ⟨ascii "/tmp/a,b", "qemu".toList, 7, slash_not_mem_qemu⟩ 0 =
      bootDirectory := by
    decide +kernel
  exact congrArg Exec.ok hpath

theorem read_firmware_sample (name : Bytes) (description : String)
    (hname : joinPath (ascii "cache") name ≠ ascii "os.img")
    (hle : (joinPath (ascii "cache") name).length ≤ maxFirmwareBytes) :
    readBounded sampleBootHost.read (joinPath (ascii "cache") name) maxFirmwareBytes description =
      .ok (joinPath (ascii "cache") name) := by
  have hread : sampleBootHost.read (joinPath (ascii "cache") name) =
      ⟨some (true, (joinPath (ascii "cache") name).length), some (joinPath (ascii "cache") name)⟩ :=
    if_neg hname
  exact readBounded_eq_ok.mpr ⟨_, by rw [hread], hle, by rw [hread]⟩

theorem bootInputs_sample : ∃ inputs, sampleBootHost.bootInputs sampleBootRequest = .ok inputs := by
  obtain ⟨manifest, hvalid, -, -, hscenario⟩ := validateImageBytes_sample
  have hread : sampleBootHost.read (ascii "os.img") =
      ⟨some (true, diskBytes), some sampleDisk⟩ := rfl
  have himage : readBounded sampleBootHost.read (ascii "os.img") diskBytes "boot image" =
      .ok sampleDisk :=
    readBounded_eq_ok.mpr ⟨_, by rw [hread], le_rfl, by rw [hread]⟩
  have hcode := read_firmware_sample (ascii "code.fd") "OVMF code" (by decide) (by decide)
  have hvars := read_firmware_sample (ascii "vars.fd") "OVMF vars" (by decide) (by decide)
  exact ⟨⟨sampleDisk, manifest, _, _, _, _, _⟩, bootInputs_eq_ok.mpr ⟨by decide, himage,
    length_sampleDisk, hvalid, hscenario, rfl, rfl, rfl, hcode, hvars⟩⟩

/-- The observer finds the ready record in the first poll. -/
theorem observe_readyStream (started : ℕ) (sys : System String) : ∃ cursors,
    observe (fun _ => .ok ⟨some readyStream, id⟩) started (.new 1) sys =
      (.ok ⟨cursors, some ((sys.pass 0).now.1 - started)⟩, (sys.pass 0).now.2) := by
  have hrecords : records readyStream = kernelPath readyMarker := by decide +kernel
  have hlength : readyStream.length ≤ maxObservedLogBytes := by decide +kernel
  have hhit : Hit readyMarker (observed readyStream) := by
    rw [observed, List.take_of_length_le hlength, hit_readyMarker, hrecords]
    decide +kernel
  obtain ⟨htracks, hmiss⟩ := tracks_observed_nil readyMarker
  have hfound : (LogCursor.containsNew readyMarker ⟨some readyStream, id⟩ .new).1 = true :=
    (containsNew_spec (by decide) htracks List.nil_prefix hmiss).1.mpr hhit
  have hcursors :
      (ReadyMarkerObserver.observeCursors [.new] [⟨some readyStream, id⟩]).1 = true := by
    rw [ReadyMarkerObserver.observeCursors]
    split
    · rfl
    · next hmissed =>
      rw [hmissed] at hfound
      cases hfound
  refine ⟨(ReadyMarkerObserver.observeCursors [.new] [⟨some readyStream, id⟩]).2, ?_⟩
  simp [observe, ReadyMarkerObserver.new, ReadyMarkerObserver.observe, hcursors]

/-- The emulator ends at once, and the helper that is started after it. -/
theorem supervise_ready (timeout : ℕ) :
    (supervise (fun _ => .ok ⟨some readyStream, id⟩) timeout readyEnvironment).1 =
      .ok readyExecution := by
  obtain ⟨cursors, hobserve⟩ := observe_readyStream (System.initial readyEnvironment).now.1
    (spawnedNext (System.initial readyEnvironment).now.2).now.2
  have hround : ∃ sys, superviseRound (fun _ => .ok ⟨some readyStream, id⟩) timeout
      (System.initial readyEnvironment).now.1 ⟨.new 0, .new 1, .new⟩
      (spawnedNext (System.initial readyEnvironment).now.2) =
        (some (.ended ⟨some readyExitStatus⟩ false),
          ⟨(ChildGuard.new 0).disarm, ⟨cursors, some 0⟩, .new⟩, sys) ∧
      sys.environment = readyEnvironment ∧ sys.time = 0 := by
    rw [superviseRound, hobserve]
    exact ⟨_, rfl, rfl, rfl⟩
  obtain ⟨sys, hround, henvironment, htime⟩ := hround
  have hloop : executeBoundedQemu (fun _ => .ok ⟨some readyStream, id⟩) timeout
      (timeout / pollInterval + 2) (.initial readyEnvironment) =
        some (superviseEnd (fun _ => .ok ⟨some readyStream, id⟩)
          (System.initial readyEnvironment).now.1 ⟨some readyExitStatus⟩ false
          ⟨(ChildGuard.new 0).disarm, ⟨cursors, some 0⟩, .new⟩ sys) := by
    have hspawn : (System.initial readyEnvironment).now.2.spawn =
        (.ok 0, spawnedNext (System.initial readyEnvironment).now.2) := rfl
    simp only [executeBoundedQemu, hspawn, superviseLoop, hround, Option.map_some, superviseEnding]
  rw [supervise]
  simp only [hloop, Option.get_some]
  obtain ⟨environment, calls, time, processes, events⟩ := sys
  cases henvironment
  cases htime
  have hpeak : parseRssOutput (.ok (ascii " 8192" ++ [10]) : Except String Bytes) = some 8192 := by
    decide +kernel
  simp [superviseEnd, observe, RssSampler.poll, RssSampler.start, RssSampler.new,
    RssSampler.finish, System.initial, System.now, System.pass, System.emit, System.spawn,
    System.tryWait, System.readOutput, ChildGuard.disarm, ChildGuard.drop, readyEnvironment,
    readyExecution, hpeak, wholeMillis_eq, maxOption]

/-- The report of the sample, with the logs that the emulator has left. -/
theorem observeBoot_sample : ∃ inputs : BootInputs, ∀ disk, ∃ finish : Disk (List Component),
    finish.files (location (stagedPaths bootDirectory).debugLog) = some readyStream ∧
      sampleBootHost.observeBoot sampleBootRequest .scenario disk =
        (.ok (sampleBootHost.evidence sampleBootRequest .scenario inputs
          (sampleBootHost.invocation .scenario inputs bootDirectory) readyExecution
          (captured bootDirectory finish.files)),
        sampleBootHost.dropDirectory bootDirectory finish) := by
  obtain ⟨inputs, hinputs⟩ := bootInputs_sample
  refine ⟨inputs, fun disk => ?_⟩
  obtain ⟨start, hstage⟩ : ∃ start,
      sampleBootHost.stage inputs bootDirectory disk = (.ok (), start) := ⟨_, rfl⟩
  refine ⟨_, ?_, observeBoot_eq_ok.mpr ⟨inputs, bootDirectory, start, readyExecution, hinputs,
    temporary_sample, hstage, supervise_ready _, rfl, rfl⟩⟩
  show Function.update start.files (location (stagedPaths bootDirectory).debugLog)
    (some readyStream) (location (stagedPaths bootDirectory).debugLog) = some readyStream
  exact Function.update_self _ _ _

end PolytopeOS.Host
