import PeripheralBank.Divider.Rate

/-!
# Divisors

A divisor is a choice of one ratio per stage, kept with the raw ratio and the clock it was chosen
for and the frequency it achieves.  From it the achieved rate reads back in any unit.
-/

namespace PeripheralBank

/-- The frequency that two ratios make of a clock, rounded down; zero where a ratio is zero. -/
def dividedClock (primary secondary clock : UInt32) : UInt32 :=
  let ratio := primary.toUInt64 * secondary.toUInt64
  if ratio = 0 then 0 else (clock.toUInt64 / ratio).toUInt32

/-- A ratio for each stage and what they achieve. -/
structure Divisor where
  primary : UInt32 := 0
  secondary : UInt32 := 0
  /-- The ratio of clock and rate that the stages were fitted to. -/
  raw : UInt64 := 0
  clock : UInt32 := 0
  frequency : UInt32 := 0
deriving DecidableEq

namespace Divisor

def ratio (divisor : Divisor) : UInt64 :=
  divisor.primary.toUInt64 * divisor.secondary.toUInt64

/-- The achieved period in a unit, rounded down and held at the largest number of thirty-two bits;
zero where no clock is known. -/
def period (divisor : Divisor) (unitsPerSecond : UInt64) : UInt32 :=
  if divisor.clock = 0 then
    0
  else
    (min (divisor.ratio * unitsPerSecond / divisor.clock.toUInt64) 4294967295).toUInt32

def periodMicroseconds (divisor : Divisor) : UInt32 :=
  divisor.period Rate.microsecondsPerSecond

def periodMilliseconds (divisor : Divisor) : UInt32 :=
  divisor.period Rate.millisecondsPerSecond

/-- The achieved rate in the unit of another one. -/
def achieved (divisor : Divisor) : Rate -> Rate
  | .hertz _ => .hertz divisor.frequency
  | .microseconds _ => .microseconds divisor.periodMicroseconds
  | .milliseconds _ => .milliseconds divisor.periodMilliseconds

end Divisor

end PeripheralBank
