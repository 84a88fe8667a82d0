import PolytopeOS.Arch.Console

/-!
# The early console at its ports

`EarlyConsole` drives a UART and the emulator's debug console by port accesses.
The UART is modelled by the registers that its ports reach; what it answers to a
poll of its line status is up to the device. The debug console receives every
record whole, and the serial line receives what the UART was ready for.
-/

namespace PolytopeOS.Arch
open Corelib

def com1 : UInt16 := 0x03f8

def debugcon : UInt16 := 0x00e9

def qemuExitPort : UInt16 := 0x00f4

def transmitReady : UInt8 := 0x20

def maxTransmitPolls : ℕ := 4096

-- ════════════════════════════════════════════════════════════════════════
-- The devices
-- ════════════════════════════════════════════════════════════════════════

/-- The registers of a UART that can be written. -/
structure UartSettings where
  divisorLow : UInt8
  divisorHigh : UInt8
  interruptEnable : UInt8
  fifoControl : UInt8
  lineControl : UInt8
  modemControl : UInt8
  deriving DecidableEq, Repr

/-- The top bit of the line control register makes the first two ports reach the
divisor. -/
def UartSettings.latched (settings : UartSettings) : Bool := settings.lineControl &&& 0x80 ≠ 0

/-- A UART and the bytes it has sent. -/
structure Uart where
  settings : UartSettings
  sent : Bytes

def Uart.write (uart : Uart) (offset : UInt16) (value : UInt8) : Uart :=
  let settings := uart.settings
  if offset = 0 then
    if settings.latched then { uart with settings := { settings with divisorLow := value } }
    else { uart with sent := uart.sent ++ [value] }
  else if offset = 1 then
    if settings.latched then { uart with settings := { settings with divisorHigh := value } }
    else { uart with settings := { settings with interruptEnable := value } }
  else if offset = 2 then { uart with settings := { settings with fifoControl := value } }
  else if offset = 3 then { uart with settings := { settings with lineControl := value } }
  else if offset = 4 then { uart with settings := { settings with modemControl := value } }
  else uart

/-- The devices behind the ports, the answers of the line status register by the
number of the read, and the number of reads so far. -/
structure Ports where
  uart : Uart
  debug : Bytes
  exits : List UInt32
  lineStatus : ℕ → UInt8
  reads : ℕ

def outU8 (port : UInt16) (value : UInt8) (ports : Ports) : Ports :=
  if port = debugcon then { ports with debug := ports.debug ++ [value] }
  else { ports with uart := ports.uart.write (port - com1) value }

def outU32 (port : UInt16) (value : UInt32) (ports : Ports) : Ports :=
  if port = qemuExitPort then { ports with exits := ports.exits ++ [value] } else ports

/-- A read of the line status register. -/
def inU8 (port : UInt16) (ports : Ports) : UInt8 × Ports :=
  if port = com1 + 5 then (ports.lineStatus ports.reads, { ports with reads := ports.reads + 1 })
  else (0xff, ports)

-- ════════════════════════════════════════════════════════════════════════
-- The driver
-- ════════════════════════════════════════════════════════════════════════

structure EarlyConsole where
  initialized : Bool

namespace EarlyConsole

def initializeUart (_ : EarlyConsole) (ports : Ports) : EarlyConsole × Ports :=
  let ports := outU8 (com1 + 1) 0x00 ports
  let ports := outU8 (com1 + 3) 0x80 ports
  let ports := outU8 com1 0x03 ports
  let ports := outU8 (com1 + 1) 0x00 ports
  let ports := outU8 (com1 + 3) 0x03 ports
  let ports := outU8 (com1 + 2) 0xc7 ports
  let ports := outU8 (com1 + 4) 0x0b ports
  (⟨true⟩, ports)

def new (ports : Ports) : EarlyConsole × Ports := initializeUart ⟨false⟩ ports

/-- The loop over the polls that are left. -/
def transmit (byte : UInt8) : ℕ → Ports → Ports
  | 0, ports => ports
  | polls + 1, ports =>
    let (status, ports) := inU8 (com1 + 5) ports
    if status &&& transmitReady ≠ 0 then outU8 com1 byte ports else transmit byte polls ports

def writeSerialByte (byte : UInt8) (ports : Ports) : Ports := transmit byte maxTransmitPolls ports

def writeByte (byte : UInt8) (state : EarlyConsole × Ports) : EarlyConsole × Ports :=
  let (console, ports) := if state.1.initialized then state else state.1.initializeUart state.2
  let ports := if byte = 10 then writeSerialByte 13 ports else ports
  let ports := writeSerialByte byte ports
  (console, outU8 debugcon byte ports)

def writeRecord (record : Bytes) (state : EarlyConsole × Ports) : EarlyConsole × Ports :=
  writeByte 10 ((record.take maxRecordBytes).foldl (fun state byte => writeByte byte state) state)

end EarlyConsole

def qemuExit (code : QemuExitCode) (ports : Ports) : Ports :=
  outU32 qemuExitPort (UInt32.ofNat code.value) ports

/-- The records of one console, from its construction on. -/
def consoleRecords (records : List Bytes) (ports : Ports) : Ports :=
  (records.foldl (fun state record => EarlyConsole.writeRecord record state)
    (EarlyConsole.new ports)).2

/-- Consoles constructed one after another. -/
def consoles (sessions : List (List Bytes)) (ports : Ports) : Ports :=
  sessions.foldl (fun ports records => consoleRecords records ports) ports

-- ════════════════════════════════════════════════════════════════════════
-- What reaches the devices
-- ════════════════════════════════════════════════════════════════════════

/-- A byte as the serial line carries it. -/
def carriage (byte : UInt8) : Bytes := if byte = 10 then [13, 10] else [byte]

/-- The device becomes ready within the polls for a byte, whenever it is asked. -/
def Prompt (lineStatus : ℕ → UInt8) : Prop :=
  ∀ n, ∃ k < maxTransmitPolls, lineStatus (n + k) &&& transmitReady ≠ 0

/-- The debug console got `debug` and the serial line a part of `line`, in order,
and all of it from a prompt device. No byte took more polls than it may. -/
structure Wrote (ports ports' : Ports) (debug line : Bytes) : Prop where
  debug : ports'.debug = ports.debug ++ debug
  sent : ∃ sent, sent.Sublist line ∧ ports'.uart.sent = ports.uart.sent ++ sent ∧
    (Prompt ports.lineStatus → sent = line)
  exits : ports'.exits = ports.exits
  lineStatus : ports'.lineStatus = ports.lineStatus
  reads : ports'.reads ≤ ports.reads + maxTransmitPolls * line.length

variable {ports ports₁ ports₂ : Ports} {debug debug' line line' : Bytes}

theorem Wrote.refl (ports : Ports) : Wrote ports ports [] [] where
  debug := (List.append_nil _).symm
  sent := ⟨[], .slnil, (List.append_nil _).symm, fun _ => rfl⟩
  exits := rfl
  lineStatus := rfl
  reads := Nat.le_add_right _ _

theorem Wrote.trans (h : Wrote ports ports₁ debug line) (h' : Wrote ports₁ ports₂ debug' line') :
    Wrote ports ports₂ (debug ++ debug') (line ++ line') := by
  obtain ⟨sent, hsub, hsent, hall⟩ := h.sent
  obtain ⟨sent', hsub', hsent', hall'⟩ := h'.sent
  constructor
  case debug => rw [h'.debug, h.debug, List.append_assoc]
  case sent =>
    refine ⟨sent ++ sent', hsub.append hsub', by rw [hsent', hsent, List.append_assoc], ?_⟩
    intro hprompt
    rw [hall hprompt, hall' (h.lineStatus ▸ hprompt)]
  case exits => rw [h'.exits, h.exits]
  case lineStatus => rw [h'.lineStatus, h.lineStatus]
  case reads =>
    have hreads := h.reads
    have hreads' := h'.reads
    rw [List.length_append, Nat.mul_add]
    omega

theorem inU8_lineStatus (ports : Ports) :
    inU8 (com1 + 5) ports =
      (ports.lineStatus ports.reads, { ports with reads := ports.reads + 1 }) := if_pos rfl

theorem outU8_debugcon (byte : UInt8) (ports : Ports) :
    outU8 debugcon byte ports = { ports with debug := ports.debug ++ [byte] } := if_pos rfl

theorem outU8_com1 (ports : Ports) (h : ports.uart.settings.latched = false) (byte : UInt8) :
    outU8 com1 byte ports =
      { ports with uart := { ports.uart with sent := ports.uart.sent ++ [byte] } } := by
  have hdevice : com1 ≠ debugcon := by decide
  have hoffset : com1 - com1 = 0 := by decide
  rw [outU8, if_neg hdevice, hoffset, Uart.write, if_pos rfl, h, if_neg Bool.false_ne_true]

/-- The loop sends the byte if the device is ready at one of its polls, and else
drops it. -/
theorem transmit_spec (h : ports.uart.settings.latched = false) (byte : UInt8) (polls : ℕ) :
    ∃ sent reads, EarlyConsole.transmit byte polls ports =
        { ports with uart := { ports.uart with sent := ports.uart.sent ++ sent }, reads } ∧
      sent.Sublist [byte] ∧ reads ≤ ports.reads + polls ∧
      ((∃ k < polls, ports.lineStatus (ports.reads + k) &&& transmitReady ≠ 0) → sent = [byte]) := by
  induction polls generalizing ports with
  | zero =>
    refine ⟨[], ports.reads, ?_, List.nil_sublist _, le_rfl, ?_⟩
    · rw [EarlyConsole.transmit, List.append_nil]
    · rintro ⟨k, hk, -⟩
      exact absurd hk (Nat.not_lt_zero k)
  | succ polls ih =>
    by_cases hready : ports.lineStatus ports.reads &&& transmitReady ≠ 0
    · refine ⟨[byte], ports.reads + 1, ?_, List.Sublist.refl _, by omega, fun _ => rfl⟩
      rw [EarlyConsole.transmit, inU8_lineStatus]
      simp only [if_pos hready]
      exact outU8_com1 { ports with reads := ports.reads + 1 } h byte
    · obtain ⟨sent, reads, htransmit, hsub, hreads, hall⟩ :=
        @ih { ports with reads := ports.reads + 1 } h
      refine ⟨sent, reads, ?_, hsub, ?_, ?_⟩
      · rw [EarlyConsole.transmit, inU8_lineStatus]
        simp only [if_neg hready]
        exact htransmit
      · have hreads' : reads ≤ ports.reads + 1 + polls := hreads
        omega
      · rintro ⟨k, hk, hstatus⟩
        cases k with
        | zero => exact absurd hstatus hready
        | succ k =>
          rw [Nat.add_comm k 1, ← Nat.add_assoc] at hstatus
          exact hall ⟨k, Nat.lt_of_succ_lt_succ hk, hstatus⟩

theorem writeSerialByte_wrote (h : ports.uart.settings.latched = false) (byte : UInt8) :
    Wrote ports (EarlyConsole.writeSerialByte byte ports) [] [byte] ∧
      (EarlyConsole.writeSerialByte byte ports).uart.settings = ports.uart.settings := by
  obtain ⟨sent, reads, htransmit, hsub, hreads, hall⟩ := transmit_spec h byte maxTransmitPolls
  rw [EarlyConsole.writeSerialByte, htransmit]
  refine ⟨⟨(List.append_nil _).symm, ⟨sent, hsub, rfl, ?_⟩, rfl, rfl, hreads⟩, rfl⟩
  exact fun hprompt => hall (hprompt ports.reads)

/-- The settings that `initializeUart` makes: 38400 baud, eight data bits, no
parity, one stop bit, and the FIFOs on. -/
structure Configured (settings : UartSettings) : Prop where
  divisorLow : settings.divisorLow = 3
  divisorHigh : settings.divisorHigh = 0
  lineControl : settings.lineControl = 3
  fifoControl : settings.fifoControl = 0xc7
  modemControl : settings.modemControl = 0x0b

theorem Configured.latched {settings : UartSettings} (h : Configured settings) :
    settings.latched = false := by
  rw [UartSettings.latched, h.lineControl]
  decide

/-- The writes of `initializeUart`, as the UART sees them. -/
def configure (uart : Uart) : Uart :=
  [(1, 0x00), (3, 0x80), (0, 0x03), (1, 0x00), (3, 0x03), (2, 0xc7), (4, 0x0b)].foldl
    (fun uart access => uart.write access.1 access.2) uart

theorem new_eq (ports : Ports) :
    EarlyConsole.new ports = (⟨true⟩, { ports with uart := configure ports.uart }) := rfl

/-- The first write reaches the interrupt register only if the divisor is not
latched; the others have the same effect in every state. -/
theorem configure_eq (uart : Uart) :
    configure uart =
      { settings :=
          { divisorLow := 3
            divisorHigh := 0
            interruptEnable := if uart.settings.latched then uart.settings.interruptEnable else 0
            fifoControl := 0xc7
            lineControl := 3
            modemControl := 0x0b }
        sent := uart.sent } := by
  cases hlatched : uart.settings.latched with
  | true =>
    have hfirst : uart.write 1 0x00 =
        { uart with settings := { uart.settings with divisorHigh := 0 } } := by
      simp [Uart.write, hlatched]
    rw [configure, List.foldl_cons, hfirst]
    simp [Uart.write, UartSettings.latched]
  | false =>
    have hfirst : uart.write 1 0x00 =
        { uart with settings := { uart.settings with interruptEnable := 0 } } := by
      simp [Uart.write, hlatched]
    rw [configure, List.foldl_cons, hfirst]
    simp [Uart.write, UartSettings.latched]

/-- A constructed console has configured the UART, whatever state it found it in,
and nothing went to the line. -/
theorem new_configures (ports : Ports) :
    Configured (EarlyConsole.new ports).2.uart.settings ∧
      Wrote ports (EarlyConsole.new ports).2 [] [] := by
  rw [new_eq, configure_eq]
  refine ⟨⟨rfl, rfl, rfl, rfl, rfl⟩, (List.append_nil _).symm, ?_, rfl, rfl, Nat.le_add_right _ _⟩
  exact ⟨[], .slnil, (List.append_nil _).symm, fun _ => rfl⟩

/-- A console that is ready to write. -/
structure Ready (state : EarlyConsole × Ports) : Prop where
  initialized : state.1.initialized = true
  configured : Configured state.2.uart.settings

/-- What writing from a ready console gives. -/
structure Written (state state' : EarlyConsole × Ports) (debug : Bytes) : Prop where
  ready : Ready state'
  wrote : Wrote state.2 state'.2 debug (debug.flatMap carriage)

variable {state state' state₂ : EarlyConsole × Ports}

theorem Written.trans (h : Written state state' debug) (h' : Written state' state₂ debug') :
    Written state state₂ (debug ++ debug') := by
  refine ⟨h'.ready, ?_⟩
  rw [List.flatMap_append]
  exact h.wrote.trans h'.wrote

theorem writeByte_written (h : Ready state) (byte : UInt8) :
    Written state (EarlyConsole.writeByte byte state) [byte] := by
  obtain ⟨console, ports⟩ := state
  have hinitialized : console.initialized = true := h.initialized
  have hlatched : ports.uart.settings.latched = false := h.configured.latched
  -- the serial line first, with a carriage return before a line feed
  have hserial : ∃ ports₁, EarlyConsole.writeByte byte (console, ports) =
      (console, outU8 debugcon byte ports₁) ∧ Wrote ports ports₁ [] (carriage byte) ∧
      ports₁.uart.settings = ports.uart.settings := by
    by_cases hbyte : byte = 10
    · obtain ⟨hreturn, hsettings⟩ := writeSerialByte_wrote hlatched 13
      obtain ⟨hfeed, hsettings'⟩ := writeSerialByte_wrote (hsettings ▸ hlatched) byte
      refine ⟨_, ?_, ?_, hsettings'.trans hsettings⟩
      · simp only [EarlyConsole.writeByte, if_pos hinitialized, if_pos hbyte]
      · rw [carriage, if_pos hbyte]
        exact hbyte ▸ hreturn.trans hfeed
    · obtain ⟨hwrote, hsettings⟩ := writeSerialByte_wrote hlatched byte
      refine ⟨_, ?_, ?_, hsettings⟩
      · simp only [EarlyConsole.writeByte, if_pos hinitialized, if_neg hbyte]
      · rw [carriage, if_neg hbyte]
        exact hwrote
  obtain ⟨ports₁, hwrite, hwrote, hsettings⟩ := hserial
  rw [hwrite, outU8_debugcon]
  refine ⟨⟨h.initialized, hsettings ▸ h.configured⟩, ?_⟩
  rw [List.flatMap_singleton]
  refine ⟨?_, hwrote.sent, hwrote.exits, hwrote.lineStatus, hwrote.reads⟩
  show ports₁.debug ++ [byte] = _
  rw [hwrote.debug, List.append_nil]

theorem writeBytes_written (h : Ready state) (bytes : Bytes) :
    Written state (bytes.foldl (fun state byte => EarlyConsole.writeByte byte state) state)
      bytes := by
  induction bytes generalizing state with
  | nil => exact ⟨h, .refl _⟩
  | cons byte bytes ih =>
    have hfirst := writeByte_written h byte
    exact hfirst.trans (ih hfirst.ready)

/-- The debug console receives a record as `writeRecord` says. -/
theorem writeRecord_written (h : Ready state) (record : Bytes) :
    Written state (EarlyConsole.writeRecord record state) (writeRecord record) := by
  have hbytes := writeBytes_written h (record.take maxRecordBytes)
  exact hbytes.trans (writeByte_written hbytes.ready 10)

theorem writeRecords_written (h : Ready state) (records : List Bytes) :
    Written state (records.foldl (fun state record => EarlyConsole.writeRecord record state) state)
      (records.flatMap writeRecord) := by
  induction records generalizing state with
  | nil => exact ⟨h, .refl _⟩
  | cons record records ih =>
    have hfirst := writeRecord_written h record
    rw [List.flatMap_cons]
    exact hfirst.trans (ih hfirst.ready)

theorem consoleRecords_wrote (records : List Bytes) (ports : Ports) :
    Wrote ports (consoleRecords records ports) (records.flatMap writeRecord)
        ((records.flatMap writeRecord).flatMap carriage) ∧
      Configured (consoleRecords records ports).uart.settings := by
  obtain ⟨hconfigured, hnew⟩ := new_configures ports
  have hwritten : Written (EarlyConsole.new ports) _ _ :=
    writeRecords_written ⟨rfl, hconfigured⟩ records
  exact ⟨hnew.trans hwritten.wrote, hwritten.ready.configured⟩

theorem consoles_wrote (sessions : List (List Bytes)) (ports : Ports) :
    Wrote ports (consoles sessions ports) (sessions.flatten.flatMap writeRecord)
      ((sessions.flatten.flatMap writeRecord).flatMap carriage) := by
  induction sessions generalizing ports with
  | nil => exact .refl ports
  | cons records sessions ih =>
    rw [List.flatten_cons, List.flatMap_append, List.flatMap_append]
    exact (consoleRecords_wrote records ports).1.trans (ih (consoleRecords records ports))

theorem consoles_configured {sessions : List (List Bytes)} (h : sessions ≠ []) (ports : Ports) :
    Configured (consoles sessions ports).uart.settings := by
  induction sessions generalizing ports with
  | nil => exact absurd rfl h
  | cons records sessions ih =>
    cases sessions with
    | nil => exact (consoleRecords_wrote records ports).2
    | cons next sessions => exact ih (List.cons_ne_nil _ _) (consoleRecords records ports)

/-- Whatever the UART answers and whatever state it is found in, the consoles of a
run put exactly the run's records on the debug console, in order. The serial
line gets a part of the same bytes with carriage returns, and all of them from a
prompt device; a byte never takes more than its polls. Every console leaves the
UART configured. -/
theorem consoles_refine_records (sessions : List (List Bytes)) (ports : Ports) :
    Wrote ports (consoles sessions ports) (sessions.flatten.flatMap writeRecord)
        ((sessions.flatten.flatMap writeRecord).flatMap carriage) ∧
      (sessions ≠ [] → Configured (consoles sessions ports).uart.settings) :=
  ⟨consoles_wrote sessions ports, fun h => consoles_configured h ports⟩

end PolytopeOS.Arch
