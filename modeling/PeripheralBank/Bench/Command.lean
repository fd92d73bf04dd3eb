import PeripheralBank.Registry.Request

/-!
# Commands

What can be done to a registry over hardware that can be watched: requests, summaries of an
instance, and a look at or a hand on the hardware itself.  Callbacks are named by numbers.
-/

namespace PeripheralBank

/-- All that an instance tells about itself. -/
structure Snapshot where
  state : Except Failure State
  config : Except Failure RateConfig
  hasCallback : Except Failure Bool
  currentRate : Except Failure Rate
  requestedRate : Except Failure Rate
  wordWidth : Except Failure UInt8
  counter : Except Failure UInt32
  readable : Except Failure Nat
  writable : Except Failure Nat
  pending : Except Failure Nat
  overflows : Except Failure Nat

inductive Command where
  | request (request : Request Nat)
  | snapshot (handle : Handle)
  /-- The handle of an index, whether there is such an instance or not. -/
  | handle (index : Nat)
  | registers (index : Nat)
  | faults
  | events
  | clearEvents
  | advance (index : Nat) (ticks : UInt32)
  | setClock (hz : UInt32)

inductive CommandAnswer where
  | reply (reply : Reply)
  | snapshot (snapshot : Snapshot)
  | registers (registers : Option Registers)
  | events (events : List Event)

variable {η : Type} [Inspectable η] {κ : Type} {n slots : Nat}

namespace Registry

/-- Asks an instance for all that it tells.  Reading a counter may leave a mark on the hardware. -/
def snapshot (registry : Registry η κ n slots) (handle : Handle) :
    Snapshot × Registry η κ n slots :=
  let (counter, after) := registry.counter handle
  ({ state := registry.state handle
     config := registry.rateConfig handle
     hasCallback := registry.hasCallback handle
     currentRate := registry.currentRate handle
     requestedRate := registry.requestedRate handle
     wordWidth := registry.wordWidth handle
     counter := counter
     readable := after.readable handle
     writable := after.writable handle
     pending := after.pending handle
     overflows := after.overflows handle },
    after)

end Registry

namespace Command

def run (command : Command) (registry : Registry η Nat n slots) :
    Except Failure CommandAnswer × Registry η Nat n slots :=
  match command with
  | request asked => (asked.run registry).map (·.map .reply) id
  | snapshot device => (registry.snapshot device).map (.ok ∘ .snapshot) id
  | handle index => (.ok (.reply (.handle (registry.handle index))), registry)
  | registers index =>
      ((Inspectable.registers? registry.hardware index).map .registers, registry)
  | faults => (.ok (.reply (.count (Inspectable.faults registry.hardware))), registry)
  | events => (.ok (.events (Inspectable.events registry.hardware)), registry)
  | clearEvents =>
      (.ok (.reply .done), registry.setHardware (Inspectable.clearEvents registry.hardware))
  | advance index ticks =>
      let (moved, hardware) := Inspectable.advance index ticks registry.hardware
      (moved.map fun _ => .reply .done, registry.setHardware hardware)
  | setClock hz =>
      (.ok (.reply .done), registry.setHardware (Inspectable.setClock hz registry.hardware))

/-- Runs commands one after the other; one that fails does not keep the next from running. -/
def runAll : List Command -> Registry η Nat n slots ->
    List (Except Failure CommandAnswer) × Registry η Nat n slots
  | [], registry => ([], registry)
  | command :: rest, registry =>
      let (answer, registry) := command.run registry
      let (answers, registry) := runAll rest registry
      (answer :: answers, registry)

end Command

end PeripheralBank
