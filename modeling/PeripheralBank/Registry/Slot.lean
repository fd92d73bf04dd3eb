import PeripheralBank.Divider.Divisor
import PeripheralBank.Ring.Basic

/-!
# Slots

What a registry keeps of one instance: its state, its rate, its word width and its callback; and the
two buffers that carry words between the application and the interrupt.
-/

namespace PeripheralBank

/-- The life of an instance: held by nobody, held, or held and running. -/
inductive State where
  | unused
  | opened
  | enabled
deriving DecidableEq

/-- The rate last asked for and the divisor that was found for it; all zero before the first. -/
structure RateConfig where
  requested : Option Rate := none
  divisor : Divisor := {}
deriving DecidableEq

/-- The achieved rate in the unit that was asked for. -/
def RateConfig.achieved? (config : RateConfig) : Option Rate :=
  config.requested.map config.divisor.achieved

/-- What is kept of one instance, where callbacks are named by `κ`. -/
structure Slot (κ : Type) where
  state : State := .unused
  rate : RateConfig := {}
  /-- The width that was set, if one was; else the hardware's first holds. -/
  wordWidth : Option UInt8 := none
  callback : Option κ := none
deriving DecidableEq

/-- The words on their way out and the words that have come in. -/
structure Buffers (slots : Nat) where
  outbound : Ring UInt16 slots
  inbound : Ring UInt16 slots

namespace Buffers

variable {slots : Nat}

def empty : Buffers (slots + 1) :=
  { outbound := .empty, inbound := .empty }

/-- Discards all words in both directions and forgets the overflows. -/
def clear (buffers : Buffers slots) : Buffers slots :=
  { outbound := buffers.outbound.clear, inbound := buffers.inbound.clear }

end Buffers

end PeripheralBank
