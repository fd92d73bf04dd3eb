import PeripheralBank.Proofs.Divider.Search

/-!
# Rounding to a multiple

What the words of the solver stand for as natural numbers, and why a quotient
that is rounded to the nearest and held within a range gives the multiple that
comes closest.
-/

namespace PeripheralBank
namespace Chain

/-- How far the product of two ratios lies from a raw ratio. -/
def deviation (raw primary secondary : Nat) : Nat :=
  ((primary * secondary : Int) - raw).natAbs

/-!
# Halves up
-/

def roundHalfUp (value divisor : Nat) : Nat :=
  value / divisor + if (divisor + 1) / 2 ≤ value % divisor then 1 else 0

theorem two_mul_roundHalfUp_le (value : Nat) {divisor : Nat} (hdivisor : 0 < divisor) :
    2 * (divisor * roundHalfUp value divisor) ≤ 2 * value + divisor := by
  have hsplit := Nat.div_add_mod value divisor
  have hrest := Nat.mod_lt value hdivisor
  unfold roundHalfUp
  split
  · rw [Nat.mul_add]
    lia
  · rw [Nat.add_zero]
    lia

theorem lt_two_mul_roundHalfUp (value : Nat) {divisor : Nat} (hdivisor : 0 < divisor) :
    2 * value < 2 * (divisor * roundHalfUp value divisor) + divisor := by
  have hsplit := Nat.div_add_mod value divisor
  have hrest := Nat.mod_lt value hdivisor
  unfold roundHalfUp
  split
  · rw [Nat.mul_add]
    lia
  · rw [Nat.add_zero]
    lia

theorem roundHalfUp_mono {small large : Nat} (divisor : Nat) (hle : small ≤ large) :
    roundHalfUp small divisor ≤ roundHalfUp large divisor := by
  rcases Nat.eq_zero_or_pos divisor with rfl | hdivisor
  · simp [roundHalfUp]
  · rcases Nat.lt_or_ge (roundHalfUp large divisor) (roundHalfUp small divisor) with hlt | hge
    · -- a whole step back would be more than both roundings together make up for
      have hstep := Nat.mul_le_mul_left divisor (Nat.succ_le_of_lt hlt)
      have hsmall := two_mul_roundHalfUp_le small hdivisor
      have hlarge := lt_two_mul_roundHalfUp large hdivisor
      rw [Nat.succ_eq_add_one, Nat.mul_add, Nat.mul_one] at hstep
      lia
    · exact hge

theorem deviation_le_of_le_roundHalfUp {raw primary near far : Nat}
    (hprimary : 0 < primary) (hfar : far ≤ near)
    (hnear : near ≤ roundHalfUp raw primary) :
    deviation raw primary near ≤ deviation raw primary far := by
  have hround := two_mul_roundHalfUp_le raw hprimary
  have htop := Nat.mul_le_mul_left primary hnear
  rcases Nat.eq_or_lt_of_le hfar with rfl | hlt
  · exact Nat.le_refl _
  · have hstep := Nat.mul_le_mul_left primary (Nat.succ_le_of_lt hlt)
    rw [Nat.succ_eq_add_one, Nat.mul_add, Nat.mul_one] at hstep
    simp only [deviation, ← Int.natCast_mul]
    lia

theorem deviation_le_of_roundHalfUp_le {raw primary near far : Nat}
    (hprimary : 0 < primary) (hfar : near ≤ far)
    (hnear : roundHalfUp raw primary ≤ near) :
    deviation raw primary near ≤ deviation raw primary far := by
  have hround := lt_two_mul_roundHalfUp raw hprimary
  have hbottom := Nat.mul_le_mul_left primary hnear
  rcases Nat.eq_or_lt_of_le hfar with rfl | hlt
  · exact Nat.le_refl _
  · have hstep := Nat.mul_le_mul_left primary (Nat.succ_le_of_lt hlt)
    rw [Nat.succ_eq_add_one, Nat.mul_add, Nat.mul_one] at hstep
    simp only [deviation, ← Int.natCast_mul]
    lia

/-!
# Words as natural numbers
-/

theorem toNat_pos {word : UInt32} (hword : word ≠ 0) : 0 < word.toNat := by
  rw [Nat.pos_iff_ne_zero, Ne, ← UInt32.toNat_zero, UInt32.toNat_inj]
  exact hword

theorem toNat_mul_toUInt64 (a b : UInt32) :
    (a.toUInt64 * b.toUInt64).toNat = a.toNat * b.toNat := by
  have hproduct : a.toNat * b.toNat < 2 ^ 32 * 2 ^ 32 :=
    Nat.mul_lt_mul'' a.toNat_lt b.toNat_lt
  rw [UInt64.toNat_mul, UInt32.toNat_toUInt64, UInt32.toNat_toUInt64]
  exact Nat.mod_eq_of_lt hproduct

theorem covers_iff {chain : Chain} {raw : UInt64} {primary : UInt32} :
    chain.covers raw primary = true ↔
      raw.toNat ≤ primary.toNat * chain.secondary.last.toNat := by
  rw [covers, decide_eq_true_iff, UInt64.le_iff_toNat_le, toNat_mul_toUInt64]

/-- A larger primary ratio reaches what a smaller one reaches. -/
theorem covers_of_le (chain : Chain) (raw : UInt64) (a b : UInt32) (hle : a ≤ b)
    (ha : chain.covers raw a = true) : chain.covers raw b = true := by
  have hmul := Nat.mul_le_mul_right chain.secondary.last.toNat
    (UInt32.le_iff_toNat_le.mp hle)
  exact covers_iff.mpr (Nat.le_trans (covers_iff.mp ha) hmul)

/-- Nothing is lost to the word size: a quotient that is rounded up is at most
half of the largest word. -/
theorem toNat_roundedQuotient (raw : UInt64) {primary : UInt32} (hprimary : primary ≠ 0) :
    (roundedQuotient raw primary).toNat = roundHalfUp raw.toNat primary.toNat := by
  have hraw := raw.toNat_lt
  have hword := primary.toNat_lt
  have hpos := toNat_pos hprimary
  have hhalf : ((primary.toUInt64 + 1) / 2).toNat = (primary.toNat + 1) / 2 := by
    rw [UInt64.toNat_div, UInt64.toNat_add, UInt32.toNat_toUInt64]
    simp only [UInt64.toNat_ofNat]
    lia
  have hcond : (primary.toUInt64 + 1) / 2 ≤ raw % primary.toUInt64 ↔
      (primary.toNat + 1) / 2 ≤ raw.toNat % primary.toNat := by
    rw [UInt64.le_iff_toNat_le, hhalf, UInt64.toNat_mod, UInt32.toNat_toUInt64]
  unfold roundedQuotient roundHalfUp
  simp only [hcond, UInt64.toNat_add, UInt64.toNat_div, UInt32.toNat_toUInt64]
  split
  · rename_i hup
    have hrest := Nat.mod_lt raw.toNat hpos
    have htwo : 2 ≤ primary.toNat := by
      lia
    have hquotient : raw.toNat / primary.toNat ≤ raw.toNat / 2 :=
      Nat.div_le_div_left htwo (by decide)
    rw [UInt64.toNat_one]
    exact Nat.mod_eq_of_lt (by lia)
  · have hquotient := Nat.div_le_self raw.toNat primary.toNat
    rw [UInt64.toNat_zero, Nat.add_zero]
    exact Nat.mod_eq_of_lt (by lia)

theorem toNat_closest_range {low high : UInt32} (hle : low ≤ high) (target : UInt64) :
    ((Stage.range low high).closest target).toNat =
      max low.toNat (min high.toNat target.toNat) := by
  have hends := UInt32.le_iff_toNat_le.mp hle
  have hbound := high.toNat_lt
  show (if target < low.toUInt64 then low
    else if high.toUInt64 < target then high else target.toUInt32).toNat = _
  split
  · rename_i hbelow
    rw [UInt64.lt_iff_toNat_lt, UInt32.toNat_toUInt64] at hbelow
    lia
  · rename_i hlow
    rw [UInt64.lt_iff_toNat_lt, UInt32.toNat_toUInt64] at hlow
    split
    · rename_i habove
      rw [UInt64.lt_iff_toNat_lt, UInt32.toNat_toUInt64] at habove
      lia
    · rename_i hhigh
      rw [UInt64.lt_iff_toNat_lt, UInt32.toNat_toUInt64] at hhigh
      rw [UInt64.toNat_toUInt32]
      lia

/-!
# The closest secondary ratio of a range
-/

theorem toNat_secondaryFor {chain : Chain} {low high : UInt32}
    (hrange : chain.secondary = .range low high) (hends : low ≤ high) (raw : UInt64)
    {primary : UInt32} (hprimary : primary ≠ 0) :
    (chain.secondaryFor raw primary).toNat =
      max low.toNat (min high.toNat (roundHalfUp raw.toNat primary.toNat)) := by
  rw [secondaryFor, hrange, toNat_closest_range hends, toNat_roundedQuotient raw hprimary]

/-- With a given primary ratio, no secondary ratio of a range comes closer than
the one that rounding and holding within the range yields. -/
theorem deviation_secondaryFor_le {chain : Chain} {low high : UInt32}
    (hrange : chain.secondary = .range low high)
    (raw : UInt64) {primary : UInt32} {secondary : Nat} (hprimary : primary ≠ 0)
    (hlow : low.toNat ≤ secondary) (hhigh : secondary ≤ high.toNat) :
    deviation raw.toNat primary.toNat (chain.secondaryFor raw primary).toNat ≤
      deviation raw.toNat primary.toNat secondary := by
  have hpos := toNat_pos hprimary
  have hends : low ≤ high := UInt32.le_iff_toNat_le.mpr (Nat.le_trans hlow hhigh)
  rw [toNat_secondaryFor hrange hends raw hprimary]
  -- the choice lies between the rounded quotient and any other ratio of the range
  rcases Nat.le_total secondary (roundHalfUp raw.toNat primary.toNat) with hle | hge
  · exact deviation_le_of_le_roundHalfUp hpos (by lia) (by lia)
  · exact deviation_le_of_roundHalfUp_le hpos (by lia) (by lia)

end Chain
end PeripheralBank
