import PeripheralBank.Divider.Divisor
import PeripheralBank.Divider.Stage

/-!
# Divider chains

Two stages in a row divide a clock, and one pair of their ratios may be forbidden.  Fitting a raw
ratio takes the first primary ratio whose largest product reaches it, rounds what is left to the
secondary stage, and moves off the forbidden pair.
-/

namespace PeripheralBank

structure Chain where
  primary : Stage
  secondary : Stage
  /-- The pair that the hardware must never be given. -/
  forbidden : Option (UInt32 × UInt32) := none
deriving DecidableEq

namespace Chain

/-- Whether a primary ratio reaches a raw ratio with the last secondary ratio. -/
def covers (chain : Chain) (raw : UInt64) (primary : UInt32) : Bool :=
  decide (raw ≤ primary.toUInt64 * chain.secondary.last.toUInt64)

/-- The first primary ratio that reaches a raw ratio, else the last one. -/
def primaryFor (chain : Chain) (raw : UInt64) : UInt32 :=
  (chain.primary.search (chain.covers raw)).getD chain.primary.last

/-- The quotient of a raw ratio by a primary one, rounded to the nearest with halves up. -/
def roundedQuotient (raw : UInt64) (primary : UInt32) : UInt64 :=
  let divisor := primary.toUInt64
  raw / divisor + (if (divisor + 1) / 2 ≤ raw % divisor then 1 else 0)

/-- The secondary ratio closest to what the primary ratio leaves. -/
def secondaryFor (chain : Chain) (raw : UInt64) (primary : UInt32) : UInt32 :=
  chain.secondary.closest (roundedQuotient raw primary)

/-- A secondary ratio that the primary one may stand with: the given one unless the pair is
forbidden, then the next above, then the next below. -/
def permitted (chain : Chain) (primary secondary : UInt32) : Option UInt32 :=
  if chain.forbidden = some (primary, secondary) then
    (chain.secondary.above? secondary).or (chain.secondary.below? secondary)
  else
    some secondary

def fit (chain : Chain) (clock : UInt32) (raw : UInt64) : Except Failure Divisor :=
  if chain.primary.isEmpty || chain.secondary.isEmpty || clock == 0 || raw == 0 then
    refuse .rateUnachievable
  else
    let primary := chain.primaryFor raw
    if primary = 0 then
      .error .zeroRatio
    else
      match chain.permitted primary (chain.secondaryFor raw primary) with
      | none => refuse .rateUnachievable
      | some secondary =>
          .ok { primary, secondary, raw, clock, frequency := dividedClock primary secondary clock }

/-- The ratios that best approximate a rate. -/
def solve (chain : Chain) (clock : UInt32) (rate : Rate) : Except Failure Divisor :=
  match rate.rawRatio clock with
  | .error failure => .error failure
  | .ok raw => chain.fit clock raw

end Chain

end PeripheralBank
