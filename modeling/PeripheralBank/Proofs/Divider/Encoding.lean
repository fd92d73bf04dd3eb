import PeripheralBank.Proofs.Divider.Fields
import PeripheralBank.Proofs.Divider.Monotone
import PeripheralBank.Simulation.Hardware

/-!
# Fields for what is solved

What a family solves a rate to is a legal pair of its table.  The register fields of the family
hold every pair of the table, so a solved divisor has fields, unless the family has none at all.
Simulated hardware of the family judges divisors by table, forbidden pair and fields, and accepts
exactly the legal ones.
-/

namespace PeripheralBank

/-!
# Fields of any family
-/

namespace RegisterFields

variable {family : Family} {divisor : Divisor}

/-- A family with register fields has them for the pairs of its table. -/
theorem isSome_encode?_iff (hfields : family ≠ .qei) (divisor : Divisor) :
    (encode? family divisor).isSome = true ↔
      family.profile.chain.primary.contains divisor.primary = true ∧
        family.profile.chain.secondary.contains divisor.secondary = true := by
  cases family with
  | ccp =>
      rw [encode?, Option.isSome_map]
      exact Chain.heldIn_ccp.encodes_iff divisor
  | spi =>
      rw [encode?, Option.isSome_map]
      exact Chain.heldIn_spi.encodes_iff divisor
  | uart =>
      rw [encode?, Option.isSome_map]
      exact Chain.heldIn_uart.encodes_iff divisor
  | qei => exact absurd rfl hfields
  | timer | oc =>
      rw [encode?, Option.isSome_map]
      exact Chain.heldIn_timer.encodes_iff divisor

theorem decode?_of_encode? {fields : RegisterFields}
    (hencoded : encode? family divisor = some fields) :
    fields.decode? = some (divisor.primary, divisor.secondary) := by
  cases family with
  | ccp =>
      rcases Option.map_eq_some_iff.mp hencoded with ⟨held, hheld, rfl⟩
      exact Chain.heldIn_ccp.decode_of_encode hheld
  | spi =>
      rcases Option.map_eq_some_iff.mp hencoded with ⟨held, hheld, rfl⟩
      exact Chain.heldIn_spi.decode_of_encode hheld
  | uart =>
      rcases Option.map_eq_some_iff.mp hencoded with ⟨held, hheld, rfl⟩
      exact Chain.heldIn_uart.decode_of_encode hheld
  | qei => cases hencoded
  | timer | oc =>
      rcases Option.map_eq_some_iff.mp hencoded with ⟨held, hheld, rfl⟩
      exact Chain.heldIn_timer.decode_of_encode hheld

end RegisterFields

/-!
# Solved divisors
-/

namespace Family

variable {family : Family} {clock : UInt32} {rate : Rate} {divisor : Divisor}

theorem family_profile (family : Family) : family.profile.family = family := by
  cases family with
  | _ => rfl

theorem exists_rising (family : Family) :
    exists ratios highest, family.profile.chain.Rising ratios highest := by
  cases family with
  | ccp => exact ⟨_, _, Chain.rising_ccp⟩
  | spi => exact ⟨_, _, Chain.rising_spi⟩
  | uart => exact ⟨_, _, Chain.rising_uart⟩
  | qei => exact ⟨_, _, Chain.rising_qei⟩
  | timer | oc => exact ⟨_, _, Chain.rising_timer⟩

/-- On the table of a family, every raw ratio finds a divisor. -/
theorem exists_solved_iff :
    (exists divisor, family.solve clock rate = .ok divisor) ↔
      exists raw, rate.rawRatio clock = .ok raw := by
  constructor
  · rintro ⟨divisor, hsolved⟩
    rcases Chain.solve_eq_ok_iff.mp hsolved with ⟨raw, hraw, _⟩
    exact ⟨raw, hraw⟩
  · rintro ⟨raw, hraw⟩
    rcases Rate.one_le_of_rawRatio hraw with ⟨hclock, hone⟩
    rcases Chain.exists_steady family with ⟨product, hsteady⟩
    rcases hsteady.fits hclock hone with ⟨divisor, hfit, _⟩
    exact ⟨divisor, Chain.solve_eq_ok_iff.mpr ⟨raw, hraw, hfit⟩⟩

/-- So what keeps a family from a divisor is that the rate has no raw ratio. -/
theorem failure_of_solve {failure : Failure} (hfailed : family.solve clock rate = .error failure) :
    failure = .refused .invalidArgument ∨ failure = .refused .rateUnachievable := by
  cases hraw : rate.rawRatio clock with
  | error reason =>
      have hsame : family.solve clock rate = .error reason := by
        unfold solve Chain.solve
        rw [hraw]
      rw [hsame] at hfailed
      cases hfailed
      exact Rate.failure_of_rawRatio hraw
  | ok raw =>
      rcases exists_solved_iff.mpr ⟨raw, hraw⟩ with ⟨divisor, hsolved⟩
      rw [hsolved] at hfailed
      cases hfailed

theorem legal_of_solve (hsolved : family.solve clock rate = .ok divisor) :
    family.profile.chain.Legal divisor.primary divisor.secondary := by
  rcases Chain.solve_eq_ok_iff.mp hsolved with ⟨raw, _, hfit⟩
  rcases exists_rising family with ⟨ratios, highest, hrising⟩
  exact (Chain.legal_of_fit (fun _ => hrising.primaryFor_ne_zero raw) hfit).left

/-- A solved divisor has register fields in every family that has any. -/
theorem isSome_encode?_of_solve (hsolved : family.solve clock rate = .ok divisor) :
    (RegisterFields.encode? family divisor).isSome = true ↔ family ≠ .qei := by
  constructor
  · rintro hencoded rfl
    cases hencoded
  · intro hfields
    have hlegal := legal_of_solve hsolved
    exact (RegisterFields.isSome_encode?_iff hfields divisor).mpr
      ⟨hlegal.primary_mem, hlegal.secondary_mem⟩

end Family

/-!
# What simulated hardware accepts
-/

/-- The hardware of a family takes exactly the legal divisors of its table. -/
theorem SimulatedHardware.accepts_iff_legal {family : Family} {divisor : Divisor} :
    accepts family.profile divisor = true ↔
      family.profile.chain.Legal divisor.primary divisor.secondary := by
  have hfields : family.profile.chain.primary.contains divisor.primary = true ->
      family.profile.chain.secondary.contains divisor.secondary = true ->
      (family == .qei || (RegisterFields.encode? family divisor).isSome) = true := by
    intro hprimary hsecondary
    by_cases hnone : family = .qei
    · simp [hnone]
    · simp [(RegisterFields.isSome_encode?_iff hnone divisor).mpr ⟨hprimary, hsecondary⟩]
  rw [accepts, Family.family_profile]
  constructor
  · intro haccepted
    simp only [Bool.and_eq_true, bne_iff_ne] at haccepted
    rcases haccepted with ⟨⟨⟨hprimary, hsecondary⟩, hallowed⟩, _⟩
    exact ⟨hprimary, hsecondary, hallowed⟩
  · rintro ⟨hprimary, hsecondary, hallowed⟩
    simp only [Bool.and_eq_true, bne_iff_ne]
    exact ⟨⟨⟨hprimary, hsecondary⟩, hallowed⟩, hfields hprimary hsecondary⟩

end PeripheralBank
