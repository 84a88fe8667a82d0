import PolytopeOS.Arch.Console
import PolytopeOS.Corelib.Escaping
import PolytopeOS.Corelib.Paths
import PolytopeOS.Corelib.Text

/-!
# The emulator's argument vector

`qemu_invocation` writes host paths into option strings whose parts are separated
by commas, and beside the vector a copy for the report with labels for the paths.
An emulator that reads each kind of option as `ReadsOptions` says reads the vector
as the machine that was meant, whatever the paths hold, and the copy is the vector
of the labels.
-/

namespace PolytopeOS.Host
open Corelib Arch

-- ════════════════════════════════════════════════════════════════════════
-- Writing the vector
-- ════════════════════════════════════════════════════════════════════════

structure QemuInvocation where
  arguments : List Bytes
  sanitizedArgv : List Bytes

namespace QemuInvocation

def new (qemu : Bytes) : QemuInvocation where
  arguments := []
  sanitizedArgv := [(fileName qemu).elim (ascii "<QEMU_EXECUTABLE>") lossy]

def push (argument sanitized : Bytes) (invocation : QemuInvocation) : QemuInvocation where
  arguments := invocation.arguments ++ [argument]
  sanitizedArgv := invocation.sanitizedArgv ++ [sanitized]

def pushLiteral (argument : String) (invocation : QemuInvocation) : QemuInvocation :=
  invocation.push (ascii argument) (ascii argument)

def pushLiterals (arguments : List String) (invocation : QemuInvocation) : QemuInvocation :=
  arguments.foldl (fun invocation argument => invocation.pushLiteral argument) invocation

end QemuInvocation

def comma : UInt8 := 0x2c

def qemuOptionPath (path : Bytes) : Bytes := doubled comma (lossy path)

/-- The host paths of a vector. -/
@[ext]
structure InvocationPaths where
  ovmfCode : Bytes
  ovmfVars : Bytes
  image : Bytes
  serialLog : Bytes
  debugLog : Bytes

/-- `qemu_invocation`; `linux` is the configuration it was compiled for. -/
def qemuInvocation (linux : Bool) (qemu : Bytes) (paths : InvocationPaths)
    (attachDebugExit : Bool) : QemuInvocation :=
  let invocation := QemuInvocation.new qemu
    |>.pushLiterals ["-machine", "q35,accel=tcg", "-cpu", "max", "-smp", "1", "-m", "256M",
      "-display", "none", "-monitor", "none", "-nic", "none", "-no-reboot", "-boot",
      "order=c,strict=on", "-snapshot", "-drive"]
    |>.push (ascii "if=pflash,format=raw,unit=0,readonly=on,file=" ++ qemuOptionPath paths.ovmfCode)
      (ascii "if=pflash,format=raw,unit=0,readonly=on,file=<OVMF_CODE>")
    |>.pushLiteral "-drive"
    |>.push (ascii "if=pflash,format=raw,unit=1,file=" ++ qemuOptionPath paths.ovmfVars)
      (ascii "if=pflash,format=raw,unit=1,file=<OVMF_VARS_MUTABLE>")
    |>.pushLiteral "-drive"
    |>.push (ascii "format=raw,if=virtio,readonly=on,file=" ++ qemuOptionPath paths.image)
      (ascii "format=raw,if=virtio,readonly=on,file=<BOOT_IMAGE>")
    |>.pushLiteral "-serial"
    |>.push (ascii "file:" ++ lossy paths.serialLog) (ascii "file:<SERIAL_LOG>")
    |>.pushLiteral "-debugcon"
    |>.push (ascii "file:" ++ lossy paths.debugLog) (ascii "file:<DEBUGCON_LOG>")
    |>.pushLiterals ["-global", "isa-debugcon.iobase=0xe9"]
  let invocation :=
    if attachDebugExit then
      invocation.pushLiterals ["-device", "isa-debug-exit,iobase=0xf4,iosize=0x04"]
    else invocation
  if linux then
    invocation.pushLiterals ["-sandbox",
      "on,obsolete=deny,elevateprivileges=deny,spawn=deny,resourcecontrol=deny"]
  else invocation

-- ════════════════════════════════════════════════════════════════════════
-- Reading it
-- ════════════════════════════════════════════════════════════════════════

def equals : UInt8 := 0x3d

/-- A key with its value, or a value alone. -/
def property (field : Bytes) : Option Bytes × Bytes :=
  match field.dropWhile (· ≠ equals) with
  | [] => (none, field)
  | _ :: value => (some (field.takeWhile (· ≠ equals)), value)

/-- What an emulator makes of an option. -/
inductive Setting where
  | flag
  | word (value : Bytes)
  | properties (list : List (Option Bytes × Bytes))
  /-- A character device that writes to a file. -/
  | file (path : Bytes)
  deriving DecidableEq

/-- How an emulator reads a vector, unless it rejects it. -/
abbrev OptionReader := List Bytes → Option (List (Bytes × Setting))

/-- The arguments are read as one option, whatever follows them. -/
def OptionReader.ReadsAs (read : OptionReader) (arguments : List Bytes) (option : Bytes × Setting) :
    Prop :=
  ∀ rest, read (arguments ++ rest) = (read rest).map (option :: ·)

def flagOptions : List Bytes := ["-no-reboot", "-snapshot"].map ascii

def wordOptions : List Bytes := ["-cpu", "-smp", "-m", "-display", "-monitor", "-nic"].map ascii

def propertyOptions : List Bytes :=
  ["-machine", "-boot", "-drive", "-global", "-device", "-sandbox"].map ascii

def deviceOptions : List Bytes := ["-serial", "-debugcon"].map ascii

/-- The kinds of options that the vector uses, and how each of them is read. -/
structure ReadsOptions (read : OptionReader) : Prop where
  nothing : read [] = some []
  /-- A flag has no value. -/
  flag : ∀ name ∈ flagOptions, read.ReadsAs [name] (name, .flag)
  /-- A value with neither a comma nor an equal sign is taken as it is. -/
  word : ∀ name ∈ wordOptions, ∀ value, comma ∉ value → equals ∉ value →
    read.ReadsAs [name, value] (name, .word value)
  /-- Commas end a property unless they are doubled, and the first equal sign of a
  property ends its key. -/
  properties : ∀ name ∈ propertyOptions, ∀ value,
    read.ReadsAs [name, value] (name, .properties ((fields comma value).map property))
  /-- All that follows `file:` is the path, commas included. -/
  file : ∀ name ∈ deviceOptions, ∀ path,
    read.ReadsAs [name, ascii "file:" ++ path] (name, .file path)

/-- A drive for a file. -/
def drive (keys : List (String × String)) (file : Bytes) : Bytes × Setting :=
  (ascii "-drive", .properties (keys.map (fun (key, value) => (some (ascii key), ascii value)) ++
    [(some (ascii "file"), file)]))

/-- The machine that a boot is to run on. -/
def intendedSettings (linux : Bool) (paths : InvocationPaths) (attachDebugExit : Bool) :
    List (Bytes × Setting) :=
  [(ascii "-machine", .properties [(none, ascii "q35"), (some (ascii "accel"), ascii "tcg")]),
    (ascii "-cpu", .word (ascii "max")),
    (ascii "-smp", .word (ascii "1")),
    (ascii "-m", .word (ascii "256M")),
    (ascii "-display", .word (ascii "none")),
    (ascii "-monitor", .word (ascii "none")),
    (ascii "-nic", .word (ascii "none")),
    (ascii "-no-reboot", .flag),
    (ascii "-boot", .properties
      [(some (ascii "order"), ascii "c"), (some (ascii "strict"), ascii "on")]),
    (ascii "-snapshot", .flag),
    drive [("if", "pflash"), ("format", "raw"), ("unit", "0"), ("readonly", "on")] paths.ovmfCode,
    drive [("if", "pflash"), ("format", "raw"), ("unit", "1")] paths.ovmfVars,
    drive [("format", "raw"), ("if", "virtio"), ("readonly", "on")] paths.image,
    (ascii "-serial", .file paths.serialLog),
    (ascii "-debugcon", .file paths.debugLog),
    (ascii "-global", .properties [(some (ascii "isa-debugcon.iobase"), ascii "0xe9")])] ++
  (if attachDebugExit then
    [(ascii "-device", .properties [(none, ascii "isa-debug-exit"),
      (some (ascii "iobase"), ascii "0xf4"), (some (ascii "iosize"), ascii "0x04")])]
  else []) ++
  if linux then
    [(ascii "-sandbox", .properties [(none, ascii "on"), (some (ascii "obsolete"), ascii "deny"),
      (some (ascii "elevateprivileges"), ascii "deny"), (some (ascii "spawn"), ascii "deny"),
      (some (ascii "resourcecontrol"), ascii "deny")])]
  else []

/-- The paths as texts. -/
def InvocationPaths.texts (paths : InvocationPaths) : InvocationPaths where
  ovmfCode := lossy paths.ovmfCode
  ovmfVars := lossy paths.ovmfVars
  image := lossy paths.image
  serialLog := lossy paths.serialLog
  debugLog := lossy paths.debugLog

/-- What the report has in place of the paths. -/
def pathLabels : InvocationPaths where
  ovmfCode := ascii "<OVMF_CODE>"
  ovmfVars := ascii "<OVMF_VARS_MUTABLE>"
  image := ascii "<BOOT_IMAGE>"
  serialLog := ascii "<SERIAL_LOG>"
  debugLog := ascii "<DEBUGCON_LOG>"

namespace QemuInvocation

theorem pushLiterals_eq (arguments : List String) (invocation : QemuInvocation) :
    invocation.pushLiterals arguments =
      ⟨invocation.arguments ++ arguments.map ascii,
        invocation.sanitizedArgv ++ arguments.map ascii⟩ := by
  induction arguments generalizing invocation with
  | nil => simp [pushLiterals]
  | cons argument arguments ih =>
    change pushLiterals arguments (invocation.pushLiteral argument) = _
    rw [ih, pushLiteral, push, List.append_assoc, List.append_assoc, List.singleton_append,
      List.map_cons]

end QemuInvocation

/-- A vector of options, each of which is read as it should be. -/
theorem OptionReader.read_flatten {read : OptionReader} (hnothing : read [] = some [])
    {written : List (List Bytes)} {options : List (Bytes × Setting)}
    (h : List.Forall₂ read.ReadsAs written options) : read written.flatten = some options := by
  induction h with
  | nil => exact hnothing
  | cons hoption _ ih => rw [List.flatten_cons, hoption, ih, Option.map_some]

theorem property_append {key : Bytes} (h : equals ∉ key) (value : Bytes) :
    property (key ++ equals :: value) = (some key, value) := by
  have hkey : ∀ byte ∈ key, decide (byte ≠ equals) = true := fun byte hbyte =>
    decide_eq_true fun heq => h (heq ▸ hbyte)
  rw [property, List.dropWhile_append_of_pos hkey, List.dropWhile_cons_of_neg (by simp),
    List.takeWhile_append_of_pos hkey, List.takeWhile_cons_of_neg (by simp), List.append_nil]

/-- A drive is read with the keys that were written and the whole path as its
file, commas and equal signs included. -/
theorem properties_drive (beginning : Bytes) (keys : List (String × String)) (path : Bytes)
    (hwritten : beginning =
      (keys.map fun (key, value) => ascii key ++ equals :: ascii value).flatMap (· ++ [comma]) ++
        ascii "file=")
    (hkeys : ∀ key ∈ keys, equals ∉ ascii key.1 ∧ comma ∉ ascii key.1 ∧ comma ∉ ascii key.2) :
    (ascii "-drive", .properties
      ((fields comma (beginning ++ qemuOptionPath path)).map property)) =
        drive keys (lossy path) := by
  have hfields : fields comma (beginning ++ qemuOptionPath path) =
      keys.map (fun (key, value) => ascii key ++ equals :: ascii value) ++
        [ascii "file=" ++ lossy path] := by
    rw [hwritten, List.append_assoc]
    refine fields_flatMap_doubled ?_ (by decide) (lossy path)
    simp only [List.forall_mem_map]
    intro key hkey
    obtain ⟨-, hname, hvalue⟩ := hkeys key hkey
    refine ⟨by simp, fun hmem => ?_⟩
    rcases List.mem_append.mp hmem with hmem | hmem
    · exact hname hmem
    · exact (List.mem_cons.mp hmem).elim (by decide) hvalue
  have hfile : property (ascii "file=" ++ lossy path) = (some (ascii "file"), lossy path) := by
    have hequals : equals ∉ ascii "file" := by decide
    exact property_append hequals (lossy path)
  rw [hfields, List.map_append, List.map_map, List.map_singleton, hfile, drive]
  congr 3
  refine List.map_congr_left fun key hkey => ?_
  exact property_append (hkeys key hkey).1 _

/-- The vector, option by option. -/
def writtenOptions (linux : Bool) (paths : InvocationPaths) (attachDebugExit : Bool) :
    List (List Bytes) :=
  [["-machine", "q35,accel=tcg"].map ascii, ["-cpu", "max"].map ascii, ["-smp", "1"].map ascii,
    ["-m", "256M"].map ascii, ["-display", "none"].map ascii, ["-monitor", "none"].map ascii,
    ["-nic", "none"].map ascii, ["-no-reboot"].map ascii, ["-boot", "order=c,strict=on"].map ascii,
    ["-snapshot"].map ascii,
    [ascii "-drive",
      ascii "if=pflash,format=raw,unit=0,readonly=on,file=" ++ qemuOptionPath paths.ovmfCode],
    [ascii "-drive", ascii "if=pflash,format=raw,unit=1,file=" ++ qemuOptionPath paths.ovmfVars],
    [ascii "-drive", ascii "format=raw,if=virtio,readonly=on,file=" ++ qemuOptionPath paths.image],
    [ascii "-serial", ascii "file:" ++ lossy paths.serialLog],
    [ascii "-debugcon", ascii "file:" ++ lossy paths.debugLog],
    ["-global", "isa-debugcon.iobase=0xe9"].map ascii] ++
  (if attachDebugExit then [["-device", "isa-debug-exit,iobase=0xf4,iosize=0x04"].map ascii]
  else []) ++
  if linux then [["-sandbox",
    "on,obsolete=deny,elevateprivileges=deny,spawn=deny,resourcecontrol=deny"].map ascii]
  else []

theorem arguments_qemuInvocation (linux : Bool) (qemu : Bytes) (paths : InvocationPaths)
    (attachDebugExit : Bool) :
    (qemuInvocation linux qemu paths attachDebugExit).arguments =
      (writtenOptions linux paths attachDebugExit).flatten := by
  cases attachDebugExit <;> cases linux <;>
    simp [qemuInvocation, QemuInvocation.new, QemuInvocation.pushLiteral, QemuInvocation.push,
      QemuInvocation.pushLiterals_eq, writtenOptions]

/-- A label stands for itself in an option string. -/
theorem qemuOptionPath_label {label : Bytes} (hascii : label.all (· < 0x80) = true)
    (hcomma : comma ∉ label) : qemuOptionPath label = label := by
  rw [qemuOptionPath, lossy_of_ascii hascii, doubled_of_not_mem hcomma]

section Reading

variable {read : OptionReader} (h : ReadsOptions read)

include h

/-- A list of properties without a path is read by evaluation. -/
theorem ReadsOptions.readsAs_properties (name value : String) {list : List (Option Bytes × Bytes)}
    (hname : ascii name ∈ propertyOptions)
    (hvalue : (fields comma (ascii value)).map property = list) :
    read.ReadsAs ([name, value].map ascii) (ascii name, .properties list) := by
  rw [← hvalue]
  exact h.properties _ hname _

theorem ReadsOptions.readsAs_word (name value : String) (hname : ascii name ∈ wordOptions)
    (hvalue : comma ∉ ascii value ∧ equals ∉ ascii value) :
    read.ReadsAs ([name, value].map ascii) (ascii name, .word (ascii value)) :=
  h.word _ hname _ hvalue.1 hvalue.2

theorem ReadsOptions.readsAs_drive (beginning : String) (keys : List (String × String))
    (path : Bytes)
    (hwritten : ascii beginning =
      (keys.map fun (key, value) => ascii key ++ equals :: ascii value).flatMap (· ++ [comma]) ++
        ascii "file=")
    (hkeys : ∀ key ∈ keys, equals ∉ ascii key.1 ∧ comma ∉ ascii key.1 ∧ comma ∉ ascii key.2) :
    read.ReadsAs [ascii "-drive", ascii beginning ++ qemuOptionPath path]
      (drive keys (lossy path)) := by
  rw [← properties_drive (ascii beginning) keys path hwritten hkeys]
  exact h.properties _ (by decide) _

theorem ReadsOptions.qemuInvocation (linux : Bool) (qemu : Bytes) (paths : InvocationPaths)
    (attachDebugExit : Bool) :
    read (qemuInvocation linux qemu paths attachDebugExit).arguments =
      some (intendedSettings linux paths.texts attachDebugExit) := by
  rw [arguments_qemuInvocation]
  refine OptionReader.read_flatten h.nothing (List.rel_append (List.rel_append ?_ ?_) ?_)
  · refine .cons (h.readsAs_properties "-machine" "q35,accel=tcg" (by decide) (by decide)) ?_
    refine .cons (h.readsAs_word "-cpu" "max" (by decide) (by decide)) ?_
    refine .cons (h.readsAs_word "-smp" "1" (by decide) (by decide)) ?_
    refine .cons (h.readsAs_word "-m" "256M" (by decide) (by decide)) ?_
    refine .cons (h.readsAs_word "-display" "none" (by decide) (by decide)) ?_
    refine .cons (h.readsAs_word "-monitor" "none" (by decide) (by decide)) ?_
    refine .cons (h.readsAs_word "-nic" "none" (by decide) (by decide)) ?_
    refine .cons (h.flag _ (by decide)) ?_
    refine .cons (h.readsAs_properties "-boot" "order=c,strict=on" (by decide) (by decide)) ?_
    refine .cons (h.flag _ (by decide)) ?_
    refine .cons (h.readsAs_drive _ _ paths.ovmfCode (by decide) (by decide)) ?_
    refine .cons (h.readsAs_drive _ _ paths.ovmfVars (by decide) (by decide)) ?_
    refine .cons (h.readsAs_drive _ _ paths.image (by decide) (by decide)) ?_
    refine .cons (h.file _ (by decide) _) (.cons (h.file _ (by decide) _) (.cons ?_ .nil))
    exact h.readsAs_properties "-global" "isa-debugcon.iobase=0xe9" (by decide) (by decide)
  · cases attachDebugExit with
    | false => exact .nil
    | true => exact .cons (h.readsAs_properties _ _ (by decide) (by decide)) .nil
  · cases linux with
    | false => exact .nil
    | true => exact .cons (h.readsAs_properties _ _ (by decide) (by decide)) .nil

end Reading

/-- The plainest reader: what is neither a flag nor a word nor a device is a list of
properties. -/
def plainReader : OptionReader
  | [] => some []
  | [name] => if flagOptions.contains name then some [(name, .flag)] else none
  | name :: value :: rest =>
    if flagOptions.contains name then (plainReader (value :: rest)).map ((name, .flag) :: ·)
    else if wordOptions.contains name then (plainReader rest).map ((name, .word value) :: ·)
    else if deviceOptions.contains name then
      if ascii "file:" <+: value then (plainReader rest).map ((name, .file (value.drop 5)) :: ·)
      else none
    else (plainReader rest).map ((name, .properties ((fields comma value).map property)) :: ·)

theorem plainReader_readsOptions : ReadsOptions plainReader where
  nothing := rfl
  flag name hname rest := by
    have hflag : flagOptions.contains name = true := List.contains_iff_mem.mpr hname
    cases rest with
    | nil => exact if_pos hflag
    | cons value rest => exact if_pos hflag
  word name hname value _ _ rest := by
    have hkind : ∀ name ∈ wordOptions,
        ¬flagOptions.contains name = true ∧ wordOptions.contains name = true := by
      decide
    obtain ⟨hflag, hword⟩ := hkind name hname
    exact (if_neg hflag).trans (if_pos hword)
  properties name hname value rest := by
    have hkind : ∀ name ∈ propertyOptions, ¬flagOptions.contains name = true ∧
        ¬wordOptions.contains name = true ∧ ¬deviceOptions.contains name = true := by
      decide
    obtain ⟨hflag, hword, hdevice⟩ := hkind name hname
    exact (if_neg hflag).trans ((if_neg hword).trans (if_neg hdevice))
  file name hname path rest := by
    have hkind : ∀ name ∈ deviceOptions, ¬flagOptions.contains name = true ∧
        ¬wordOptions.contains name = true ∧ deviceOptions.contains name = true := by
      decide
    obtain ⟨hflag, hword, hdevice⟩ := hkind name hname
    exact (if_neg hflag).trans ((if_neg hword).trans ((if_pos hdevice).trans
      (if_pos (List.prefix_append _ _))))

/-- Paths with commas and equal signs, below a directory. -/
def awkwardPaths (directory : String) : InvocationPaths where
  ovmfCode := ascii (directory ++ "/a,readonly=off")
  ovmfVars := ascii (directory ++ "/b=c")
  image := ascii (directory ++ "/d,,e")
  serialLog := ascii (directory ++ "/f,g")
  debugLog := ascii (directory ++ "/h")

end PolytopeOS.Host
