import PeripheralBank.Error

/-!
# Rates

A rate is a frequency or a period in one of two units.  Against a clock it asks for a raw ratio: the
number of clock cycles in one cycle of the output, rounded down.
-/

namespace PeripheralBank

/-- A frequency or a period, as asked for or as achieved. -/
inductive Rate where
  | hertz (value : UInt32)
  | microseconds (value : UInt32)
  | milliseconds (value : UInt32)
deriving DecidableEq

namespace Rate

def microsecondsPerSecond : UInt64 :=
  1000000

def millisecondsPerSecond : UInt64 :=
  1000

def value : Rate -> UInt32
  | hertz v => v
  | microseconds v => v
  | milliseconds v => v

/-- The rounded down clock cycles of one output cycle, where the clock is not stopped. -/
def cycles (clock : UInt32) : Rate -> UInt64
  | hertz v => clock.toUInt64 / v.toUInt64
  | microseconds v => clock.toUInt64 * v.toUInt64 / microsecondsPerSecond
  | milliseconds v => clock.toUInt64 * v.toUInt64 / millisecondsPerSecond

/-- The raw ratio that a rate asks for.  A rate of zero is no rate, and what is faster than the
clock cannot be achieved. -/
def rawRatio (rate : Rate) (clock : UInt32) : Except Failure UInt64 :=
  if rate.value = 0 then
    refuse .invalidArgument
  else if clock = 0 then
    refuse .rateUnachievable
  else if rate.cycles clock = 0 then
    refuse .rateUnachievable
  else
    .ok (rate.cycles clock)

end Rate

end PeripheralBank
