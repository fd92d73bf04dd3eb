import PeripheralBank.Proofs.Divider.Magnitude
import PeripheralBank.Proofs.Registry.Screens
import PeripheralBank.Simulation.Hardware

/-!
# What is read back of a granted rate

A rate that was granted reads back as what was achieved, in whole units of the request, of which a
period has no more than thirty-two bits hold.  So it reads as zero where less than one unit was
achieved.  A request of two units or more comes to that only where the table has no pair that
achieves one.
-/

namespace PeripheralBank

/-!
# Less than one unit
-/

namespace Rate

/-- Whether a clock and a ratio make less than one unit of a rate: no cycle in a second, or a period
that ends before the first microsecond or millisecond. -/
def BelowUnit (clock ratio : Nat) : Rate -> Prop
  | hertz _ => clock < ratio
  | microseconds _ => ratio * 1000000 < clock
  | milliseconds _ => ratio * 1000 < clock

end Rate

namespace Chain

section Steady

variable {chain : Chain} {product : UInt64 -> Nat} {clock : UInt32} {raw : UInt64}
  {divisor : Divisor} (hsteady : chain.Steady product) (hclock : 1 ≤ clock) (hraw : 1 ≤ raw)
  (hfit : chain.fit clock raw = .ok divisor)
include hsteady hclock hraw hfit

theorem Steady.frequency_eq_zero_iff :
    divisor.frequency = 0 ↔ clock.toNat < divisor.ratio.toNat := by
  have hpos : 0 < divisor.ratio.toNat := by
    rw [hsteady.toNat_ratio_of_fit hclock hraw hfit]
    exact hsteady.positive raw
  rw [← UInt32.toNat_inj, (hsteady.readback hfit).right, UInt32.toNat_zero]
  exact Nat.div_eq_zero_iff_lt hpos

theorem Steady.period_eq_zero_iff {units : UInt64} (hunits : units.toNat ≤ 1000000) :
    divisor.period units = 0 ↔ divisor.ratio.toNat * units.toNat < clock.toNat := by
  have hruns := UInt32.le_iff_toNat_le.mp hclock
  rw [UInt32.toNat_one] at hruns
  have hperiod := hsteady.toNat_period hclock hraw hfit hunits
  rw [← UInt32.toNat_inj, hperiod, UInt32.toNat_zero, ← Nat.div_eq_zero_iff_lt hruns]
  lia

theorem Steady.value_achieved_eq_zero_iff (rate : Rate) :
    (divisor.achieved rate).value = 0 ↔ rate.BelowUnit clock.toNat divisor.ratio.toNat := by
  cases rate with
  | hertz _ => exact hsteady.frequency_eq_zero_iff hclock hraw hfit
  | microseconds _ => exact hsteady.period_eq_zero_iff hclock hraw hfit (by decide)
  | milliseconds _ => exact hsteady.period_eq_zero_iff hclock hraw hfit (by decide)

end Steady

/-!
# Requests of two units or more
-/

theorem Twofold.le_of_above {chain : Chain} {raw product clock : Nat}
    (htwofold : chain.Twofold raw product) (hraw : 2 * raw ≤ clock) (hbelow : clock < product)
    {primary secondary : UInt32} (hlegal : chain.Legal primary secondary) :
    clock < primary.toNat * secondary.toNat := by
  rcases htwofold.above with hmost | hleast
  · exact absurd hbelow (Nat.not_lt.mpr (Nat.le_trans hmost hraw))
  · exact Nat.lt_of_lt_of_le hbelow (hleast primary secondary hlegal)

theorem Twofold.lt_of_below {chain : Chain} {raw product clock units : Nat}
    (htwofold : chain.Twofold raw product) (hraw : 2 * clock < (raw + 1) * units)
    (hbelow : product * units < clock) {primary secondary : UInt32}
    (hlegal : chain.Legal primary secondary) :
    primary.toNat * secondary.toNat * units < clock := by
  rcases htwofold.below with hhalf | hgreatest
  · have hmost : (raw + 1) * units ≤ 2 * product * units := Nat.mul_le_mul_right units hhalf
    rw [Nat.mul_assoc] at hmost
    lia
  · exact Nat.lt_of_le_of_lt (Nat.mul_le_mul_right units (hgreatest primary secondary hlegal))
      hbelow

end Chain

/-- Two hertz or more ask for half of the clock at most. -/
theorem Rate.two_mul_cycles_le {clock value : UInt32} (htwo : 2 ≤ value.toNat) :
    2 * (Rate.cycles clock (.hertz value)).toNat ≤ clock.toNat := by
  have hquotient : (Rate.cycles clock (.hertz value)).toNat = clock.toNat / value.toNat := by
    simp only [Rate.cycles, UInt64.toNat_div, UInt32.toNat_toUInt64]
  rw [hquotient]
  calc
    2 * (clock.toNat / value.toNat) ≤ value.toNat * (clock.toNat / value.toNat) :=
      Nat.mul_le_mul_right _ htwo
    _ ≤ clock.toNat := Nat.mul_div_le clock.toNat value.toNat

/-- A period of two units or more asks for twice the cycles of one unit, up to rounding. -/
theorem Rate.two_mul_lt_cycles {clock value : UInt32} {units : UInt64} (htwo : 2 ≤ value.toNat)
    (hunits : 0 < units.toNat) :
    2 * clock.toNat <
      ((clock.toUInt64 * value.toUInt64 / units).toNat + 1) * units.toNat := by
  rw [UInt64.toNat_div, Chain.toNat_mul_toUInt64, Nat.mul_comm _ units.toNat]
  calc
    2 * clock.toNat ≤ value.toNat * clock.toNat := Nat.mul_le_mul_right _ htwo
    _ = clock.toNat * value.toNat := Nat.mul_comm _ _
    _ < units.toNat * (clock.toNat * value.toNat / units.toNat + 1) :=
      Nat.lt_mul_div_succ _ hunits

theorem Chain.Twofold.belowUnit_of_legal {chain : Chain} {rate : Rate} {clock : UInt32}
    {product : Nat} (htwofold : chain.Twofold (rate.cycles clock).toNat product)
    (htwo : 2 ≤ rate.value) (hbelow : rate.BelowUnit clock.toNat product)
    {primary secondary : UInt32} (hlegal : chain.Legal primary secondary) :
    rate.BelowUnit clock.toNat (primary.toNat * secondary.toNat) := by
  rw [UInt32.le_iff_toNat_le] at htwo
  cases rate with
  | hertz value => exact htwofold.le_of_above (Rate.two_mul_cycles_le htwo) hbelow hlegal
  | microseconds value =>
      exact htwofold.lt_of_below (Rate.two_mul_lt_cycles htwo (by decide)) hbelow hlegal
  | milliseconds value =>
      exact htwofold.lt_of_below (Rate.two_mul_lt_cycles htwo (by decide)) hbelow hlegal

/-!
# What a registry tells of a granted rate
-/

namespace Registry

variable {η : Type} [Hardware η] {κ : Type} {n slots : Nat}
  {registry after : Registry η κ n slots} {handle : Handle} {rate : Rate} {divisor : Divisor}

theorem handle_adoptRate (i j : Fin n) :
    (registry.adoptRate i rate divisor).handle j = registry.handle j := by
  unfold adoptRate program
  split
  · rfl
  · rfl

/-- An instance that adopted a rate reads back what its divisor achieves. -/
theorem currentRate_adoptRate {i : Fin n} (hheld : registry.locateOpen handle = .ok i) :
    (registry.adoptRate i rate divisor).currentRate handle = .ok (divisor.achieved rate) := by
  rcases locate_of_locateOpen hheld with ⟨hlocated, hused⟩
  have hslot := slotAt_adoptRate registry i i rate divisor
  rw [if_pos rfl] at hslot
  have hused' : ((registry.adoptRate i rate divisor).slotAt i).state ≠ .unused := by
    rw [hslot]
    exact hused
  rw [handle_of_locate hlocated, ← handle_adoptRate i i, currentRate_handle hused', hslot]
  rfl

/-- A rate is granted with the divisor that solves it, and reads back what that achieves. -/
theorem currentRate_of_setRate (hset : registry.setRate handle rate = (.ok divisor, after)) :
    (Hardware.chain registry.hardware).solve (Hardware.clock registry.hardware) rate = .ok divisor ∧
      after.currentRate handle = .ok (divisor.achieved rate) := by
  unfold setRate at hset
  cases hheld : registry.locateOpen handle with
  | error failure =>
      rw [hheld] at hset
      cases hset
  | ok i =>
      rw [hheld] at hset
      cases hsolved : (Hardware.chain registry.hardware).solve
          (Hardware.clock registry.hardware) rate with
      | error failure =>
          simp only [hsolved] at hset
          cases hset
      | ok found =>
          simp only [hsolved] at hset
          cases hset
          exact ⟨rfl, currentRate_adoptRate hheld⟩

/-- On the table of a family, a granted rate reads back as its divisor achieves it: rounded down,
and as a period held at the largest number of thirty-two bits.  That is zero exactly where less than
one of its units was achieved.  For a request of two units or more, no legal pair of the table
achieves one then. -/
theorem granted_rate_reads_back {family : Family}
    (hchain : Hardware.chain registry.hardware = family.profile.chain)
    (hset : registry.setRate handle rate = (.ok divisor, after)) :
    let clock := (Hardware.clock registry.hardware).toNat
    after.currentRate handle = .ok (divisor.achieved rate) ∧
    ((divisor.achieved rate).value = 0 ↔ rate.BelowUnit clock divisor.ratio.toNat) ∧
    (2 ≤ rate.value -> (divisor.achieved rate).value = 0 ->
      forall primary secondary, family.profile.chain.Legal primary secondary ->
        rate.BelowUnit clock (primary.toNat * secondary.toNat)) := by
  intro clock
  rcases currentRate_of_setRate hset with ⟨hsolved, hcurrent⟩
  rw [hchain] at hsolved
  rcases Chain.solve_eq_ok_iff.mp hsolved with ⟨raw, hraw, hfit⟩
  rcases Rate.one_le_of_rawRatio hraw with ⟨hclock, hone⟩
  rcases Rate.rawRatio_eq_ok_iff.mp hraw with ⟨_, _, _, rfl⟩
  rcases Chain.exists_steady family with ⟨product, hsteady⟩
  have hzero := hsteady.value_achieved_eq_zero_iff hclock hone hfit rate
  refine ⟨hcurrent, hzero, ?_⟩
  intro htwo hread primary secondary hlegal
  exact (Chain.twofold_of_fit hclock hone hfit).belowUnit_of_legal htwo (hzero.mp hread) hlegal

/-- The input filter of an encoder divides by 128 at most.  At 16 MHz five milliseconds are granted
and read back as zero, and so would be every ratio that the filter has. -/
theorem granted_rate_reads_back_of_encoder :
    let start : Registry (SimulatedHardware 1) Nat 1 1 :=
      .unbuffered { profile := .qei, clock := 16000000 }
    let device := start.handle 0
    let granted := start.allocate.2.setRate device (.milliseconds 5)
    granted.1.toOption.isSome = true ∧
      granted.2.currentRate device = .ok (.milliseconds 0) ∧
      forall primary secondary, Profile.qei.chain.Legal primary secondary ->
        Rate.BelowUnit 16000000 (primary.toNat * secondary.toNat) (.milliseconds 5) := by
  intro start device granted
  let divisor : Divisor :=
    { primary := 128, secondary := 1, raw := 80000, clock := 16000000, frequency := 125000 }
  have hgranted : granted.1 = .ok divisor := by decide +kernel
  have hset : granted = (.ok divisor, granted.2) := by rw [← hgranted]
  have hchain : Hardware.chain start.allocate.2.hardware = Family.qei.profile.chain := rfl
  have hachieved : divisor.achieved (.milliseconds 5) = .milliseconds 0 := by decide
  rcases granted_rate_reads_back hchain hset with ⟨hcurrent, _, hlegal⟩
  rw [hachieved] at hcurrent hlegal
  exact ⟨congrArg (·.toOption.isSome) hgranted, hcurrent, hlegal (by decide) rfl⟩

/-- A microsecond of one and a half cycles gets one cycle, which is less than a microsecond. -/
theorem granted_microsecond_reads_zero :
    ¬ forall (family : Family) (clock : UInt32)
      (registry after : Registry (SimulatedHardware 1) Nat 1 1) (handle : Handle) (rate : Rate)
      (divisor : Divisor),
      registry.hardware.profile = family.profile -> registry.hardware.clock = clock ->
        registry.setRate handle rate = (.ok divisor, after) ->
        forall achieved, after.currentRate handle = .ok achieved -> achieved.value ≠ 0 := by
  intro hall
  let start : Registry (SimulatedHardware 1) Nat 1 1 :=
    .unbuffered { profile := .timer, clock := 1500000 }
  let granted := start.allocate.2.setRate (start.handle 0) (.microseconds 1)
  let divisor : Divisor :=
    { primary := 1, secondary := 1, raw := 1, clock := 1500000, frequency := 1500000 }
  have hgranted : granted.1 = .ok divisor := by decide +kernel
  have hset : granted = (.ok divisor, granted.2) := by rw [← hgranted]
  have hcurrent : granted.2.currentRate (start.handle 0) = .ok (.microseconds 0) := by
    decide +kernel
  exact hall .timer 1500000 start.allocate.2 granted.2 (start.handle 0) (.microseconds 1) divisor
    rfl rfl hset _ hcurrent rfl

end Registry
end PeripheralBank
