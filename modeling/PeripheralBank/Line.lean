/-!
# Interrupt lines

The interrupt side of one instance: the flag to acknowledge, the way into its transmitter and what
it has received.  A line is anything whose state answers these four; the state may hold more than
the line, so that what happens on the line and beside it has one order.
-/

namespace PeripheralBank

/-- The interrupt side of one instance, as part of a state.  A line that says nothing else has no
room to transmit and receives nothing. -/
class Line (ω : Type) where
  /-- Acknowledges the interrupt flag. -/
  acknowledge : ω -> ω
  /-- Whether there is room for at least one more word to transmit. -/
  transmitReady : ω -> Bool := fun _ => false
  transmit : UInt16 -> ω -> ω := fun _ state => state
  /-- Takes the oldest received word, if there is one. -/
  receive : ω -> Option UInt16 × ω := fun state => (none, state)

namespace Line

/-- A line with something beside it. -/
instance beside {ω σ : Type} [Line ω] : Line (ω × σ) where
  acknowledge state := (acknowledge state.1, state.2)
  transmitReady state := transmitReady state.1
  transmit word state := (transmit word state.1, state.2)
  receive state :=
    let (word, line) := receive state.1
    (word, line, state.2)

end Line

/-- A line that counts how often it was acknowledged and has nothing else.  The number is exact,
where a counter of one word would come round to zero in the end. -/
structure BareLine where
  acknowledged : Nat := 0
deriving DecidableEq

instance : Line BareLine where
  acknowledge line := { acknowledged := line.acknowledged + 1 }

end PeripheralBank
