import PeripheralBank.Proofs.Divider.Accuracy
import PeripheralBank.Proofs.Divider.Monotone

/-!
# The solver on natural numbers

The solver works on words of thirty-two and sixty-four bits.  The definitions below are the same
formulas on natural numbers, which have no end and lose nothing.  Both give the same ratios for
every chain, every clock and every raw ratio, so no product, sum or conversion of the solver wraps
around or cuts anything off.
-/

namespace PeripheralBank
namespace Unbounded

/-!
# Formulas without words
-/

def cycles (clock : Nat) : Rate -> Nat
  | .hertz value => clock / value.toNat
  | .microseconds value => clock * value.toNat / 1000000
  | .milliseconds value => clock * value.toNat / 1000

def rawRatio (rate : Rate) (clock : Nat) : Except Failure Nat :=
  if rate.value.toNat = 0 then
    refuse .invalidArgument
  else if clock = 0 then
    refuse .rateUnachievable
  else if cycles clock rate = 0 then
    refuse .rateUnachievable
  else
    .ok (cycles clock rate)

inductive Stage where
  | table (ratios : List Nat)
  | range (low high : Nat)
deriving DecidableEq

namespace Stage

def ratios : Stage -> List Nat
  | table ratios => ratios
  | range low high => List.range' low (high + 1 - low)

def last : Stage -> Nat
  | table ratios => ratios.getLastD 0
  | range _ high => high

def isEmpty : Stage -> Bool
  | table ratios => ratios.isEmpty
  | range low high => decide (high < low) || low == 0

def distance (target ratio : Nat) : Nat :=
  ((ratio : Int) - target).natAbs

def closer (target held candidate : Nat) : Nat :=
  if distance target candidate < distance target held then candidate else held

def closest (stage : Stage) (target : Nat) : Nat :=
  match stage with
  | table [] => 0
  | table (ratio :: rest) => rest.foldl (closer target) ratio
  | range low high => max low (min high target)

def above? (stage : Stage) (value : Nat) : Option Nat :=
  match stage with
  | table ratios => ratios.find? fun ratio => decide (value < ratio)
  | range _ high => if value < high then some (value + 1) else none

def below? (stage : Stage) (value : Nat) : Option Nat :=
  match stage with
  | table ratios => ratios.reverse.find? fun ratio => decide (ratio < value)
  | range low _ => if low < value then some (value - 1) else none

end Stage

structure Chain where
  primary : Stage
  secondary : Stage
  forbidden : Option (Nat × Nat)
deriving DecidableEq

structure Divisor where
  primary : Nat
  secondary : Nat
  raw : Nat
  clock : Nat
  frequency : Nat
deriving DecidableEq

namespace Chain

def covers (chain : Chain) (raw primary : Nat) : Bool :=
  decide (raw ≤ primary * chain.secondary.last)

/-- The first primary ratio whose largest product reaches a raw ratio, else the last one. -/
def primaryFor (chain : Chain) (raw : Nat) : Nat :=
  (chain.primary.ratios.find? (chain.covers raw)).getD chain.primary.last

def secondaryFor (chain : Chain) (raw primary : Nat) : Nat :=
  chain.secondary.closest (PeripheralBank.Chain.roundHalfUp raw primary)

def permitted (chain : Chain) (primary secondary : Nat) : Option Nat :=
  if chain.forbidden = some (primary, secondary) then
    (chain.secondary.above? secondary).or (chain.secondary.below? secondary)
  else
    some secondary

def fit (chain : Chain) (clock raw : Nat) : Except Failure Divisor :=
  if chain.primary.isEmpty || chain.secondary.isEmpty || clock == 0 || raw == 0 then
    refuse .rateUnachievable
  else
    let primary := chain.primaryFor raw
    if primary = 0 then
      .error .zeroRatio
    else
      match chain.permitted primary (chain.secondaryFor raw primary) with
      | none => refuse .rateUnachievable
      | some secondary =>
        .ok { primary, secondary, raw, clock, frequency := clock / (primary * secondary) }

end Chain
end Unbounded

/-!
# Raw ratios
-/

namespace Rate

theorem toNat_cycles (rate : Rate) (clock : UInt32) :
    (rate.cycles clock).toNat = Unbounded.cycles clock.toNat rate := by
  cases rate with
  | hertz value => exact UInt64.toNat_div _ _
  | microseconds value =>
      rw [cycles, UInt64.toNat_div, Chain.toNat_mul_toUInt64]
      rfl
  | milliseconds value =>
      rw [cycles, UInt64.toNat_div, Chain.toNat_mul_toUInt64]
      rfl

theorem toNat_rawRatio (rate : Rate) (clock : UInt32) :
    (rate.rawRatio clock).map UInt64.toNat = Unbounded.rawRatio rate clock.toNat := by
  simp only [rawRatio, Unbounded.rawRatio, ← toNat_cycles, ← UInt32.toNat_inj, ← UInt64.toNat_inj,
    UInt32.toNat_zero, UInt64.toNat_zero]
  split_ifs <;> rfl

end Rate

/-!
# Ratios of a stage
-/

namespace Stage

def naturals : Stage -> Unbounded.Stage
  | table ratios => .table (ratios.map UInt32.toNat)
  | range low high => .range low.toNat high.toNat

theorem last_naturals (stage : Stage) : stage.naturals.last = stage.last.toNat := by
  cases stage with
  | table ratios =>
      simp only [naturals, Unbounded.Stage.last, last, List.getLastD_eq_getLast?, List.getLast?_map]
      cases ratios.getLast? with
      | none => rfl
      | some ratio => rfl
  | range low high => rfl

theorem isEmpty_naturals (stage : Stage) : stage.naturals.isEmpty = stage.isEmpty := by
  cases stage with
  | table ratios => exact List.isEmpty_map
  | range low high =>
      simp only [naturals, Unbounded.Stage.isEmpty, isEmpty, UInt32.lt_iff_toNat_lt, beq_eq_decide,
        ← UInt32.toNat_inj, UInt32.toNat_zero]

theorem toNat_closer (target : UInt64) (held candidate : UInt32) :
    (closer target held candidate).toNat =
      Unbounded.Stage.closer target.toNat held.toNat candidate.toNat := by
  simp only [closer, UInt64.lt_iff_toNat_lt, toNat_distance]
  exact apply_ite UInt32.toNat _ _ _

theorem toNat_closest {stage : Stage} (hstage : ¬ stage.Barren) (target : UInt64) :
    (stage.closest target).toNat = stage.naturals.closest target.toNat := by
  cases stage with
  | table ratios =>
      cases ratios with
      | nil => rfl
      | cons ratio rest =>
          show (rest.foldl (closer target) ratio).toNat =
            (rest.map UInt32.toNat).foldl (Unbounded.Stage.closer target.toNat) ratio.toNat
          rw [List.foldl_map]
          exact (List.foldl_hom UInt32.toNat fun held candidate =>
            (toNat_closer target held candidate).symm).symm
  | range low high =>
      have hends : low ≤ high := UInt32.not_lt.mp fun hlt => hstage (Or.inl hlt)
      exact Chain.toNat_closest_range hends target

theorem toNat_above? (stage : Stage) (value : UInt32) :
    (stage.above? value).map UInt32.toNat = stage.naturals.above? value.toNat := by
  cases stage with
  | table ratios =>
      simp only [above?, naturals, Unbounded.Stage.above?, List.find?_map, UInt32.lt_iff_toNat_lt]
      rfl
  | range low high =>
      simp only [above?, naturals, Unbounded.Stage.above?, UInt32.lt_iff_toNat_lt]
      split
      · rename_i hlt
        rw [Option.map_some, toNat_add_one_of_lt (UInt32.lt_iff_toNat_lt.mpr hlt)]
      · rfl

theorem toNat_below? (stage : Stage) (value : UInt32) :
    (stage.below? value).map UInt32.toNat = stage.naturals.below? value.toNat := by
  cases stage with
  | table ratios =>
      simp only [below?, naturals, Unbounded.Stage.below?, ← List.map_reverse, List.find?_map,
        UInt32.lt_iff_toNat_lt]
      rfl
  | range low high =>
      simp only [below?, naturals, Unbounded.Stage.below?, UInt32.lt_iff_toNat_lt]
      split
      · rename_i hlt
        rw [Option.map_some, toNat_sub_one_of_lt (UInt32.lt_iff_toNat_lt.mpr hlt)]
      · rfl

/-!
# The search for the primary ratio
-/

section Search

variable {passes : UInt32 -> Bool} {test : Nat -> Bool}
  (htest : forall ratio, test ratio.toNat = passes ratio)
include htest

theorem find?_range'_of_test {value high : UInt32} (hwithin : value ≤ high) :
    (List.range' value.toNat (high.toNat + 1 - value.toNat)).find? test =
      if passes value then some value.toNat
      else (List.range' (value.toNat + 1) (high.toNat - value.toNat)).find? test := by
  have hbound := UInt32.le_iff_toNat_le.mp hwithin
  have hcount : high.toNat + 1 - value.toNat = (high.toNat - value.toNat) + 1 := by lia
  rw [hcount, List.range'_succ, List.find?_cons, htest]
  cases passes value with
  | true => rfl
  | false => rfl

/-- The walk through a range meets the numbers of the range one after the other. -/
theorem toNat_walk_range {low high value : UInt32} (hwithin : value ≤ high) :
    ((range low high).walk passes value).map UInt32.toNat =
      (List.range' value.toNat (high.toNat + 1 - value.toNat)).find? test := by
  induction value using walk.induct (range low high) passes with
  | case1 value hpasses =>
      rw [find?_range'_of_test htest hwithin, walk_of_passes hpasses, if_pos hpasses]
      rfl
  | case2 value hfails hnone =>
      have hlast : high.toNat - value.toNat = 0 := by
        simp only [above?, ite_eq_right_iff, reduceCtorEq, imp_false, UInt32.not_lt,
          UInt32.le_iff_toNat_le] at hnone
        lia
      rw [find?_range'_of_test htest hwithin, if_neg hfails, hlast,
        walk_of_above?_none (by simpa using hfails) hnone]
      rfl
  | case3 value hfails next hnext _ ih =>
      rw [find?_range'_of_test htest hwithin, if_neg hfails,
        walk_of_above?_some (by simpa using hfails) hnext]
      simp only [above?, Option.ite_none_right_eq_some, Option.some.injEq] at hnext
      rcases hnext with ⟨hbelow, rfl⟩
      have hsucc := toNat_add_one_of_lt hbelow
      have hwithin' : value + 1 ≤ high := by
        rw [UInt32.le_iff_toNat_le, hsucc]
        exact UInt32.lt_iff_toNat_lt.mp hbelow
      rw [ih hwithin', hsucc, Nat.add_sub_add_right]

theorem toNat_search {stage : Stage} (hstage : ¬ stage.Barren)
    (hup : forall a b, a ≤ b -> passes a = true -> passes b = true) :
    (stage.search passes).map UInt32.toNat = stage.naturals.ratios.find? test := by
  cases stage with
  | table ratios =>
      cases ratios with
      | nil => exact absurd rfl hstage
      | cons ratio rest =>
          have hsame : passes = test ∘ UInt32.toNat := funext fun other => (htest other).symm
          rw [search_table hup, hsame]
          exact (List.find?_map ..).symm
  | range low high =>
      exact toNat_walk_range htest (UInt32.not_lt.mp fun hlt => hstage (Or.inl hlt))

end Search

end Stage

/-!
# Fits
-/

namespace Divisor

def naturals (divisor : Divisor) : Unbounded.Divisor where
  primary := divisor.primary.toNat
  secondary := divisor.secondary.toNat
  raw := divisor.raw.toNat
  clock := divisor.clock.toNat
  frequency := divisor.frequency.toNat

end Divisor

namespace Chain

def naturals (chain : Chain) : Unbounded.Chain where
  primary := chain.primary.naturals
  secondary := chain.secondary.naturals
  forbidden := chain.forbidden.map (Prod.map UInt32.toNat UInt32.toNat)

theorem covers_naturals (chain : Chain) (raw : UInt64) (primary : UInt32) :
    chain.naturals.covers raw.toNat primary.toNat = chain.covers raw primary := by
  rw [Bool.eq_iff_iff, covers_iff, ← Stage.last_naturals]
  exact decide_eq_true_iff

theorem forbidden_naturals_iff {chain : Chain} {primary secondary : UInt32} :
    chain.naturals.forbidden = some (primary.toNat, secondary.toNat) ↔
      chain.forbidden = some (primary, secondary) := by
  simp only [naturals, Option.map_eq_some_iff, Prod.map, Prod.mk.injEq, UInt32.toNat_inj]
  constructor
  · rintro ⟨⟨_, _⟩, hforbidden, rfl, rfl⟩
    exact hforbidden
  · intro hforbidden
    exact ⟨_, hforbidden, rfl, rfl⟩

theorem toNat_permitted (chain : Chain) (primary secondary : UInt32) :
    (chain.permitted primary secondary).map UInt32.toNat =
      chain.naturals.permitted primary.toNat secondary.toNat := by
  simp only [permitted, Unbounded.Chain.permitted, forbidden_naturals_iff]
  split
  · rw [Option.map_or, Stage.toNat_above?, Stage.toNat_below?]
    rfl
  · rfl

theorem toNat_primaryFor {chain : Chain} (hprimary : ¬ chain.primary.Barren) (raw : UInt64) :
    (chain.primaryFor raw).toNat = chain.naturals.primaryFor raw.toNat := by
  have hsearch := Stage.toNat_search (chain.covers_naturals raw) hprimary (chain.covers_of_le raw)
  have hlast := chain.primary.last_naturals
  rw [primaryFor, Unbounded.Chain.primaryFor]
  show _ = (List.find? _ chain.primary.naturals.ratios).getD chain.primary.naturals.last
  rw [← hsearch, hlast]
  cases chain.primary.search (chain.covers raw) with
  | none => rfl
  | some found => rfl

theorem Ready.toNat_secondaryFor {chain : Chain} {clock : UInt32} {raw : UInt64}
    (hready : chain.Ready clock raw) {primary : UInt32} (hprimary : primary ≠ 0) :
    (chain.secondaryFor raw primary).toNat =
      chain.naturals.secondaryFor raw.toNat primary.toNat := by
  rw [secondaryFor, Stage.toNat_closest hready.secondary, toNat_roundedQuotient raw hprimary]
  rfl

theorem ready_naturals_iff {chain : Chain} {clock : UInt32} {raw : UInt64} :
    (chain.naturals.primary.isEmpty || chain.naturals.secondary.isEmpty || clock.toNat == 0 ||
      raw.toNat == 0) = false ↔ chain.Ready clock raw := by
  have hprimary : chain.naturals.primary.isEmpty = _ := chain.primary.isEmpty_naturals
  have hsecondary : chain.naturals.secondary.isEmpty = _ := chain.secondary.isEmpty_naturals
  have hclock : clock.toNat = 0 ↔ clock = 0 := by
    rw [← UInt32.toNat_inj, UInt32.toNat_zero]
  have hraw : raw.toNat = 0 ↔ raw = 0 := by
    rw [← UInt64.toNat_inj, UInt64.toNat_zero]
  rw [hprimary, hsecondary, Bool.eq_false_iff]
  simp only [ne_eq, Bool.or_eq_true, beq_iff_eq, not_or, Stage.isEmpty_iff_barren, hclock, hraw]
  constructor
  · rintro ⟨⟨⟨hfirst, hsecond⟩, hclock⟩, hraw⟩
    exact ⟨hfirst, hsecond, hclock, hraw⟩
  · intro hready
    exact ⟨⟨⟨hready.primary, hready.secondary⟩, hready.clock_ne_zero⟩, hready.raw_ne_zero⟩

/-- The words take the same way through a fit as the numbers that they stand for. -/
theorem fit_naturals (chain : Chain) (clock : UInt32) (raw : UInt64) :
    (chain.fit clock raw).map Divisor.naturals = chain.naturals.fit clock.toNat raw.toNat := by
  unfold Unbounded.Chain.fit
  by_cases hready : chain.Ready clock raw
  · rw [ready_naturals_iff.mpr hready, if_neg Bool.false_ne_true, ← toNat_primaryFor hready.primary]
    by_cases hzero : chain.primaryFor raw = 0
    · rw [fit_of_zero hready hzero, hzero]
      rfl
    · have hpositive : (chain.primaryFor raw).toNat ≠ 0 := (toNat_pos hzero).ne'
      rw [fit_of_ready hready hzero, if_neg hpositive, ← hready.toNat_secondaryFor hzero,
        ← toNat_permitted]
      simp only [picked]
      cases chain.permitted (chain.primaryFor raw)
          (chain.secondaryFor raw (chain.primaryFor raw)) with
      | none => rfl
      | some secondary =>
          simp only [Except.map, Divisor.naturals, toNat_dividedClock, Option.map_some]
  · rw [fit_of_not_ready hready, if_pos]
    · rfl
    · rw [← Bool.not_eq_false, ready_naturals_iff]
      exact hready

/-!
# Periods of the families
-/

theorem Ready.of_fit {chain : Chain} {clock : UInt32} {raw : UInt64} {divisor : Divisor}
    (hfit : chain.fit clock raw = .ok divisor) : chain.Ready clock raw := by
  by_cases hready : chain.Ready clock raw
  · exact hready
  · rw [fit_of_not_ready hready] at hfit
    cases hfit

theorem periods_of_fit {family : Family} {clock : UInt32} {raw : UInt64} {divisor : Divisor}
    (hfit : family.profile.chain.fit clock raw = .ok divisor) :
    divisor.primary.toNat * divisor.secondary.toNat * 1000000 < UInt64.size ∧
      divisor.periodMicroseconds.toNat =
        min (divisor.primary.toNat * divisor.secondary.toNat * 1000000 / clock.toNat)
          (UInt32.size - 1) ∧
      divisor.periodMilliseconds.toNat =
        min (divisor.primary.toNat * divisor.secondary.toNat * 1000 / clock.toNat)
          (UInt32.size - 1) := by
  rcases exists_steady family with ⟨product, hsteady⟩
  have hready := Ready.of_fit hfit
  have hclock : 1 ≤ clock := UInt32.le_iff_toNat_le.mpr (toNat_pos hready.clock_ne_zero)
  have hraw : 1 ≤ raw := by
    rw [UInt64.le_iff_toNat_le, UInt64.toNat_one, Nat.one_le_iff_ne_zero, ← UInt64.toNat_zero, Ne,
      UInt64.toNat_inj]
    exact hready.raw_ne_zero
  have hmicroseconds : Rate.microsecondsPerSecond.toNat ≤ 1000000 := by decide
  have hmilliseconds : Rate.millisecondsPerSecond.toNat ≤ 1000000 := by decide
  rw [← Divisor.toNat_ratio]
  refine ⟨?_, ?_, ?_⟩
  · exact Nat.lt_of_le_of_lt (hsteady.ratio_mul_le hclock hraw hfit hmicroseconds) (by decide)
  · exact hsteady.toNat_period hclock hraw hfit hmicroseconds
  · exact hsteady.toNat_period hclock hraw hfit hmilliseconds

/-- Raw ratios, the products of the search, the rounded quotient, the held secondary ratio and the
frequency come out of the words as they come out of the numbers, and so does a whole fit.  The
periods of what a family can be given do as well, up to the largest word. -/
theorem solver_never_wraps (chain : Chain) (clock : UInt32) (rate : Rate) (raw : UInt64) :
    (rate.rawRatio clock).map UInt64.toNat = Unbounded.rawRatio rate clock.toNat ∧
    (forall primary : UInt32,
      (primary.toUInt64 * chain.secondary.last.toUInt64).toNat =
          primary.toNat * chain.secondary.last.toNat ∧
        (chain.covers raw primary = true ↔
          raw.toNat ≤ primary.toNat * chain.secondary.last.toNat)) ∧
    (forall primary : UInt32, primary ≠ 0 ->
      (roundedQuotient raw primary).toNat = roundHalfUp raw.toNat primary.toNat) ∧
    (forall low high : UInt32, low ≤ high -> forall target : UInt64,
      ((Stage.range low high).closest target).toNat =
        max low.toNat (min high.toNat target.toNat)) ∧
    (forall primary secondary : UInt32,
      (dividedClock primary secondary clock).toNat =
        clock.toNat / (primary.toNat * secondary.toNat)) ∧
    (chain.fit clock raw).map Divisor.naturals = chain.naturals.fit clock.toNat raw.toNat ∧
    (forall (family : Family) (divisor : Divisor),
      family.profile.chain.fit clock raw = .ok divisor ->
        divisor.primary.toNat * divisor.secondary.toNat * 1000000 < UInt64.size ∧
          divisor.periodMicroseconds.toNat =
            min (divisor.primary.toNat * divisor.secondary.toNat * 1000000 / clock.toNat)
              (UInt32.size - 1) ∧
          divisor.periodMilliseconds.toNat =
            min (divisor.primary.toNat * divisor.secondary.toNat * 1000 / clock.toNat)
              (UInt32.size - 1)) := by
  refine ⟨rate.toNat_rawRatio clock, ?_, ?_, ?_, ?_, chain.fit_naturals clock raw, ?_⟩
  · intro primary
    exact ⟨toNat_mul_toUInt64 primary chain.secondary.last, covers_iff⟩
  · intro primary hprimary
    exact toNat_roundedQuotient raw hprimary
  · intro low high hends target
    exact toNat_closest_range hends target
  · intro primary secondary
    exact toNat_dividedClock primary secondary clock
  · intro family divisor hfit
    exact periods_of_fit hfit

theorem fit_ccp_largest :
    Family.ccp.profile.chain.fit 1 18446744073709551615 =
      .ok
        { primary := 64
          secondary := 4294967295
          raw := 18446744073709551615
          clock := 1
          frequency := 0 } := by
  decide +kernel

/-- The largest raw ratio on the slowest clock.  Its quotient is held at the largest secondary
ratio, and its period at the largest word. -/
theorem solver_never_wraps_of_largest :
    (roundedQuotient 18446744073709551615 64).toNat = 288230376151711744 ∧
      ((Stage.range 1 4294967295).closest 288230376151711744).toNat = 4294967295 ∧
      Profile.ccp.chain.naturals.fit 1 18446744073709551615 =
        .ok
          { primary := 64
            secondary := 4294967295
            raw := 18446744073709551615
            clock := 1
            frequency := 0 } ∧
      exists divisor, Family.ccp.profile.chain.fit 1 18446744073709551615 = .ok divisor ∧
        divisor.primary.toNat * divisor.secondary.toNat * 1000000 < UInt64.size ∧
        divisor.periodMicroseconds.toNat = UInt32.size - 1 := by
  rcases solver_never_wraps Family.ccp.profile.chain 1 (.hertz 1) 18446744073709551615 with
    ⟨_, _, hrounded, hheld, _, hfit, hperiods⟩
  rcases hperiods .ccp _ fit_ccp_largest with ⟨hbelow, hmicroseconds, _⟩
  rw [fit_ccp_largest] at hfit
  refine ⟨?_, ?_, hfit.symm, _, fit_ccp_largest, hbelow,
    hmicroseconds.trans (by decide +kernel)⟩
  · rw [hrounded 64 (by decide)]
    simp [roundHalfUp]
  · rw [hheld 1 4294967295 (by decide) 288230376151711744]
    simp

end Chain
end PeripheralBank
