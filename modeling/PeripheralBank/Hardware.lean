import PeripheralBank.Divider.Chain
import PeripheralBank.Family

/-!
# Hardware

The register side of a family, as a registry sees it: what it is, and the calls it understands.  A
call names an instance and one thing to be done to it, so the calls a registry makes form a sequence
that can be recorded and reasoned about.
-/

namespace PeripheralBank

/-- How a new rate reaches an instance that runs. -/
inductive RateStrategy where
  /-- The divider registers are written while the instance runs. -/
  | hot
  /-- The instance is switched off around the write. -/
  | restart
deriving DecidableEq

/-- Something to be done to one instance. -/
inductive Call where
  | enable (on : Bool)
  | rate (divisor : Divisor)
  /-- Lets the interrupt through or holds it back. -/
  | arm (on : Bool)
  | wordWidth (bits : UInt8)
  /-- Kicks the transmit interrupt, since there is something to send. -/
  | kickTransmit
deriving DecidableEq

/-- The register side of a family.  Hardware takes rates while it runs, transfers bytes and has no
counter, unless it says otherwise. -/
class Hardware (η : Type) where
  /-- The number of instances driven. -/
  instances : Nat
  family : η -> Family
  /-- The frequency that enters the divider chain. -/
  clock : η -> UInt32
  chain : η -> Chain
  /-- Does a call to an instance.  What the hardware does not know it ignores. -/
  perform : η -> Nat -> Call -> η
  rateStrategy : η -> RateStrategy := fun _ => .hot
  /-- The word widths that can be transferred, the one after a reset first. -/
  wordWidths : η -> List UInt8 := fun _ => [8]
  readCounter : η -> Nat -> Except Failure UInt32 × η :=
    fun hardware _ => (refuse .unsupported, hardware)
  writeCounter : η -> Nat -> UInt32 -> Except Failure Unit × η :=
    fun hardware _ _ => (refuse .unsupported, hardware)

structure Event where
  index : Nat
  call : Call
deriving DecidableEq

/-!
# Hardware that can be watched
-/

/-- What the registers of one instance hold. -/
structure Registers where
  enabled : Bool := false
  armed : Bool := false
  divisor : Option Divisor := none
  wordWidth : Option UInt8 := none
  counter : UInt32 := 0
  /-- The kicks of the transmit interrupt: the exact number, where a counter of one word would come
  round to zero in the end. -/
  transmitRequests : Nat := 0
deriving DecidableEq

/-- Hardware on a workbench: its registers and its record of calls can be seen, its clock changed
and its counters moved. -/
class Inspectable (η : Type) extends Hardware η where
  setClock : UInt32 -> η -> η
  /-- Moves the counter of an instance by some ticks, if the instance runs. -/
  advance : Nat -> UInt32 -> η -> Except Failure Unit × η
  events : η -> List Event
  clearEvents : η -> η
  /-- The number of divisors written that real hardware would not have taken. -/
  faults : η -> Nat
  /-- The registers of an instance, where the hardware has any. -/
  registers? : η -> Nat -> Except Failure (Option Registers)

end PeripheralBank
