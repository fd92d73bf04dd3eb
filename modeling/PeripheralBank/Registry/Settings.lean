import PeripheralBank.Registry.Basic

/-!
# Settings of an instance

Rates, word widths and counters.  A rate that cannot be had leaves the former one in force.  While
an instance runs, hardware that asks for it is switched off around the write of the divider.
-/

namespace PeripheralBank
namespace Registry

variable {η : Type} [Hardware η] {κ : Type} {n slots : Nat}

/-!
# Rates
-/

/-- Programs a divisor, with the instance switched off around it where that is needed. -/
def program (registry : Registry η κ n slots) (i : Fin n) (divisor : Divisor) :
    Registry η κ n slots :=
  if (registry.slotAt i).state = .enabled ∧ Hardware.rateStrategy registry.hardware = .restart then
    ((registry.call i (.enable false)).call i (.rate divisor)).call i (.enable true)
  else
    registry.call i (.rate divisor)

/-- Finds the divisor for a rate, keeps both and programs the divisor. -/
def setRate (registry : Registry η κ n slots) (handle : Handle) (rate : Rate) :
    Except Failure Divisor × Registry η κ n slots :=
  match registry.locateOpen handle with
  | .error failure => (.error failure, registry)
  | .ok i =>
      match (Hardware.chain registry.hardware).solve (Hardware.clock registry.hardware) rate with
      | .error failure => (.error failure, registry)
      | .ok divisor =>
          (.ok divisor,
            (registry.setSlot i
              { registry.slotAt i with rate := { requested := some rate, divisor } }).program i
              divisor)

/-- The achieved rate in the unit that was asked for. -/
def currentRate (registry : Registry η κ n slots) (handle : Handle) : Except Failure Rate := do
  let i ← registry.locateOpen handle
  match (registry.slotAt i).rate.achieved? with
  | none => refuse .invalidState
  | some rate => return rate

def requestedRate (registry : Registry η κ n slots) (handle : Handle) : Except Failure Rate := do
  let i ← registry.locateOpen handle
  match (registry.slotAt i).rate.requested with
  | none => refuse .invalidState
  | some rate => return rate

/-- All that is kept about the rate, for instances that are not held as well. -/
def rateConfig (registry : Registry η κ n slots) (handle : Handle) :
    Except Failure RateConfig := do
  let i ← registry.locate handle
  return (registry.slotAt i).rate

/-!
# Word widths
-/

/-- The width that was set, else the hardware's first, if it has any. -/
def widthInForce? (registry : Registry η κ n slots) (i : Fin n) : Option UInt8 :=
  (registry.slotAt i).wordWidth.or (Hardware.wordWidths registry.hardware).head?

/-- The width that transfers go by: families without word widths transfer bytes. -/
def transferWidth (registry : Registry η κ n slots) (i : Fin n) : UInt8 :=
  (registry.widthInForce? i).getD 8

/-- Sets the number of bits in a word, which must be one that the hardware knows. -/
def setWordWidth (registry : Registry η κ n slots) (handle : Handle) (bits : UInt8) :
    Except Failure Unit × Registry η κ n slots :=
  match registry.locateOpen handle with
  | .error failure => (.error failure, registry)
  | .ok i =>
      if bits ∈ Hardware.wordWidths registry.hardware then
        (.ok (), (registry.setSlot i { registry.slotAt i with wordWidth := some bits }).call i
          (.wordWidth bits))
      else
        (refuse .invalidArgument, registry)

def wordWidth (registry : Registry η κ n slots) (handle : Handle) : Except Failure UInt8 := do
  let i ← registry.locateOpen handle
  match registry.widthInForce? i with
  | none => refuse .unsupported
  | some bits => return bits

/-!
# Counters
-/

def counter (registry : Registry η κ n slots) (handle : Handle) :
    Except Failure UInt32 × Registry η κ n slots :=
  match registry.locateOpen handle with
  | .error failure => (.error failure, registry)
  | .ok i =>
      let (value, hardware) := Hardware.readCounter registry.hardware i
      (value, registry.setHardware hardware)

def setCounter (registry : Registry η κ n slots) (handle : Handle) (value : UInt32) :
    Except Failure Unit × Registry η κ n slots :=
  match registry.locateOpen handle with
  | .error failure => (.error failure, registry)
  | .ok i =>
      let (done, hardware) := Hardware.writeCounter registry.hardware i value
      (done, registry.setHardware hardware)

end Registry
end PeripheralBank
