import PeripheralBank.Proofs.Divider.Rounding

/-!
# What a divisor reads back

The frequency and the periods of a divisor as natural numbers.  The words hold every
product of ratios that the tables of the families offer, also when it is counted in
the smallest unit.
-/

namespace PeripheralBank

theorem toNat_dividedClock (primary secondary clock : UInt32) :
    (dividedClock primary secondary clock).toNat =
      clock.toNat / (primary.toNat * secondary.toNat) := by
  have hproduct := Chain.toNat_mul_toUInt64 primary secondary
  have hclock := clock.toNat_lt
  show (if primary.toUInt64 * secondary.toUInt64 = 0 then 0
    else (clock.toUInt64 / (primary.toUInt64 * secondary.toUInt64)).toUInt32).toNat = _
  split
  · rename_i hzero
    rw [hzero, UInt64.toNat_zero] at hproduct
    rw [← hproduct, Nat.div_zero, UInt32.toNat_zero]
  · have hquotient := Nat.div_le_self clock.toNat (primary.toNat * secondary.toNat)
    rw [UInt64.toNat_toUInt32, UInt64.toNat_div, hproduct, UInt32.toNat_toUInt64]
    exact Nat.mod_eq_of_lt (by lia)

namespace Divisor

theorem toNat_ratio (divisor : Divisor) :
    divisor.ratio.toNat = divisor.primary.toNat * divisor.secondary.toNat :=
  Chain.toNat_mul_toUInt64 divisor.primary divisor.secondary

theorem toNat_period {divisor : Divisor} {units : UInt64} (hclock : divisor.clock ≠ 0)
    (hbound : divisor.ratio.toNat * units.toNat < UInt64.size) :
    (divisor.period units).toNat =
      min (divisor.ratio.toNat * units.toNat / divisor.clock.toNat) 4294967295 := by
  have hquotient : (divisor.ratio * units / divisor.clock.toUInt64).toNat =
      divisor.ratio.toNat * units.toNat / divisor.clock.toNat := by
    have hheld := Nat.mod_eq_of_lt hbound
    rw [UInt64.size] at hheld
    rw [UInt64.toNat_div, UInt64.toNat_mul, hheld, UInt32.toNat_toUInt64]
  have hheld : (min (divisor.ratio * units / divisor.clock.toUInt64) 4294967295).toNat =
      min (divisor.ratio.toNat * units.toNat / divisor.clock.toNat) 4294967295 := by
    rw [← hquotient]
    show (if _ ≤ (4294967295 : UInt64) then _ else (4294967295 : UInt64)).toNat = _
    split
    · rename_i hbelow
      rw [UInt64.le_iff_toNat_le, UInt64.toNat_ofNat] at hbelow
      lia
    · rename_i habove
      rw [UInt64.le_iff_toNat_le, UInt64.toNat_ofNat] at habove
      rw [UInt64.toNat_ofNat]
      lia
  unfold period
  rw [if_neg hclock, UInt64.toNat_toUInt32, hheld]
  lia

end Divisor
end PeripheralBank
