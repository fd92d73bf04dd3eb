import PeripheralBank.Hardware
import PeripheralBank.Profile
import PeripheralBank.RegisterFields

/-!
# Simulated hardware

Hardware in memory, for any profile and any number of instances.  It keeps the registers of each
instance, records the first calls it gets, and counts the divisors that real hardware would not have
taken.  A call to an instance outside the table finds no registers: it changes none and is not
recorded.
-/

namespace PeripheralBank

structure SimulatedHardware (instances : Nat) where
  profile : Profile
  clock : UInt32
  strategy : RateStrategy := .hot
  registers : Vector Registers instances := Vector.replicate instances {}
  events : List Event := []
  /-- The divisors that the registers could not have held: the exact number, where a counter of one
  word would come round to zero in the end. -/
  faults : Nat := 0

namespace SimulatedHardware

variable {m : Nat}

/-- The number of calls that are recorded until the record is cleared. -/
def maxEvents : Nat :=
  64

/-- Hardware whose divider chain runs from the instruction clock, which is half the oscillator. -/
def ofOscillator (profile : Profile) (oscillator : UInt32) (strategy : RateStrategy := .hot) :
    SimulatedHardware m :=
  { profile, clock := oscillator / 2, strategy }

/-- Whether the registers of the family can hold a divisor: both ratios belong to the chain, the
pair is not forbidden, and there are fields for it. -/
def accepts (profile : Profile) (divisor : Divisor) : Bool :=
  profile.chain.primary.contains divisor.primary
    && profile.chain.secondary.contains divisor.secondary
    && profile.chain.forbidden != some (divisor.primary, divisor.secondary)
    && (profile.family == .qei || (RegisterFields.encode? profile.family divisor).isSome)

/-!
# Calls
-/

def record (event : Event) (hardware : SimulatedHardware m) : SimulatedHardware m :=
  if hardware.events.length < maxEvents then
    { hardware with events := hardware.events ++ [event] }
  else
    hardware

def modify (index : Nat) (change : Registers -> Registers) (hardware : SimulatedHardware m) :
    SimulatedHardware m :=
  if hin : index < m then
    { hardware with registers := hardware.registers.set index (change hardware.registers[index]) }
  else
    hardware

/-- Changes the registers of an instance of the table and records the call that did it. -/
def modifyRecorded (index : Nat) (call : Call) (change : Registers -> Registers)
    (hardware : SimulatedHardware m) : SimulatedHardware m :=
  if index < m then
    (hardware.modify index change).record ⟨index, call⟩
  else
    hardware

/-- Counts a divisor that the registers cannot hold. -/
def judge (divisor : Divisor) (hardware : SimulatedHardware m) : SimulatedHardware m :=
  if accepts hardware.profile divisor then
    hardware
  else
    { hardware with faults := hardware.faults + 1 }

/-- Does a call.  A divisor is judged before its instance is looked up, and a kick of the transmit
interrupt is counted and not recorded. -/
def perform (hardware : SimulatedHardware m) (index : Nat) (call : Call) : SimulatedHardware m :=
  match call with
  | .enable on => hardware.modifyRecorded index call ({ · with enabled := on })
  | .rate divisor =>
      (hardware.judge divisor).modifyRecorded index call ({ · with divisor := some divisor })
  | .arm on => hardware.modifyRecorded index call ({ · with armed := on })
  | .wordWidth bits => hardware.modifyRecorded index call ({ · with wordWidth := some bits })
  | .kickTransmit =>
      hardware.modify index fun registers =>
        { registers with transmitRequests := registers.transmitRequests + 1 }

/-- Does a call, and says so where the instance is not in the table. -/
def perform? (hardware : SimulatedHardware m) (index : Nat) (call : Call) :
    Except Failure Unit × SimulatedHardware m :=
  (if index < m then .ok () else .error .noSuchInstance, hardware.perform index call)

/-!
# Counters and registers
-/

def readCounter (hardware : SimulatedHardware m) (index : Nat) : Except Failure UInt32 :=
  if hardware.profile.hasCounter then
    if hin : index < m then .ok hardware.registers[index].counter else .error .noSuchInstance
  else
    refuse .unsupported

def writeCounter (hardware : SimulatedHardware m) (index : Nat) (value : UInt32) :
    Except Failure Unit × SimulatedHardware m :=
  if hardware.profile.hasCounter then
    if index < m then
      (.ok (), hardware.modify index ({ · with counter := value }))
    else
      (.error .noSuchInstance, hardware)
  else
    (refuse .unsupported, hardware)

/-- Moves the counter of an instance that runs, around at thirty-two bits. -/
def advance (index : Nat) (ticks : UInt32) (hardware : SimulatedHardware m) :
    Except Failure Unit × SimulatedHardware m :=
  if index < m then
    (.ok (), hardware.modify index fun registers =>
      if registers.enabled then { registers with counter := registers.counter + ticks }
      else registers)
  else
    (.error .noSuchInstance, hardware)

def registers? (hardware : SimulatedHardware m) (index : Nat) :
    Except Failure (Option Registers) :=
  if hin : index < m then .ok (some hardware.registers[index]) else .error .noSuchInstance

instance : Inspectable (SimulatedHardware m) where
  instances := m
  family hardware := hardware.profile.family
  clock := clock
  chain hardware := hardware.profile.chain
  perform := perform
  rateStrategy := strategy
  wordWidths hardware := hardware.profile.wordWidths
  readCounter hardware index := (hardware.readCounter index, hardware)
  writeCounter := writeCounter
  setClock hz hardware := { hardware with clock := hz }
  advance := advance
  events := events
  clearEvents hardware := { hardware with events := [] }
  faults := faults
  registers? := registers?

/-- Hardware of one instance drives a registry of one. -/
theorem one_driven : 1 ≤ Hardware.instances (SimulatedHardware 1) :=
  Nat.le_refl 1

end SimulatedHardware

end PeripheralBank
