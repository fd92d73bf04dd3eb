import PeripheralBank.Line
import PeripheralBank.Registry.Basic

/-!
# Interrupts

Handling one interrupt of an instance.  The flag is acknowledged first.  Then the bound callback
runs; without one, outbound words are fed to the line while it has room, and one received word is
stored.  A received word that finds no room is dropped and counted.
-/

namespace PeripheralBank

/-- What an interrupt turned out to be. -/
inductive Service where
  /-- The instance was not running. -/
  | spurious
  | callback
  /-- Words were fed to the line, and a word was received or not. -/
  | transfer (sent : Nat) (received : Bool)
deriving DecidableEq

variable {ω : Type} [Line ω]

/-!
# Moving words
-/

namespace Ring

variable {slots : Nat}

/-- Feeds the words of a ring to a line while the line has room, and counts them. -/
def feed (ring : Ring UInt16 slots) (line : ω) : Nat × Ring UInt16 slots × ω :=
  if Line.transmitReady line then
    match hfront : ring.dequeue? with
    | none => (0, ring, line)
    | some (word, rest) =>
        have _hshorter := size_of_dequeue? hfront
        let (sent, ring, line) := rest.feed (Line.transmit word line)
        (sent + 1, ring, line)
  else
    (0, ring, line)
termination_by ring.size

/-- Takes a received word off a line into a ring.  Says whether there was one. -/
def takeReceived (ring : Ring UInt16 slots) (line : ω) : Bool × Ring UInt16 slots × ω :=
  match Line.receive line with
  | (none, line) => (false, ring, line)
  | (some word, line) => (true, (ring.pushOrDrop word).2, line)

end Ring

namespace Buffers

variable {slots : Nat}

def exchange (buffers : Buffers slots) (line : ω) : Service × Buffers slots × ω :=
  let (sent, outbound, line) := buffers.outbound.feed line
  let (received, inbound, line) := buffers.inbound.takeReceived line
  (.transfer sent received, { outbound, inbound }, line)

end Buffers

/-!
# Handling
-/

namespace Registry

variable {η : Type} [Hardware η] {κ : Type} {n slots : Nat}

/-- Handles an interrupt of an instance that runs. -/
def serve (registry : Registry η κ n slots)
    (invoke : κ -> ω -> Registry η κ n slots -> ω × Registry η κ n slots) (i : Fin n) (line : ω) :
    Service × ω × Registry η κ n slots :=
  match (registry.slotAt i).callback with
  | some callback =>
      let (line, registry) := invoke callback line registry
      (.callback, line, registry)
  | none =>
      match registry.buffersAt? i with
      | none => (.transfer 0 false, line, registry)
      | some buffers =>
          let (service, moved, line) := buffers.exchange line
          (service, line, registry.setBuffers i moved)

/-- Handles an interrupt of an instance.  `invoke` runs a callback on the line's state and the
registry; while it does, the instance is in service. -/
def interrupt (registry : Registry η κ n slots)
    (invoke : κ -> ω -> Registry η κ n slots -> ω × Registry η κ n slots) (index : Nat) (line : ω) :
    Except Failure Service × ω × Registry η κ n slots :=
  if hin : index < n then
    let i : Fin n := ⟨index, hin⟩
    let line := Line.acknowledge line
    if (registry.slotAt i).state = .enabled then
      let (service, line, registry) := (registry.setInService i true).serve invoke i line
      (.ok service, line, registry.setInService i false)
    else
      (.ok .spurious, line, registry)
  else
    (refuse .invalidHandle, line, registry)

end Registry

end PeripheralBank
