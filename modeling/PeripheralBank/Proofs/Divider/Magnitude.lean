import PeripheralBank.Proofs.Divider.Monotone

/-!
# How far a fit can miss

On the tables of the families, the product of the two ratios is at most twice the raw ratio and more
than half of it.  The exceptions lie at the ends of a table, where no pair has a smaller or a larger
product.  Rounding alone never goes further, and a change to the next primary ratio does not either
if that is at most twice the largest product of the one before.
-/

namespace PeripheralBank
namespace Chain

/-- A product that a raw ratio is twofold at most, or that is the least or the greatest which a
chain allows. -/
structure Twofold (chain : Chain) (raw product : Nat) : Prop where
  above : product ≤ 2 * raw ∨
    forall primary secondary, chain.Legal primary secondary ->
      product ≤ primary.toNat * secondary.toNat
  below : raw < 2 * product ∨
    forall primary secondary, chain.Legal primary secondary ->
      primary.toNat * secondary.toNat ≤ product

section Graded

variable {chain : Chain} {ratios : List UInt32} {highest : UInt32}

/-!
# The chosen pair
-/

theorem Graded.mem_of_legal (hgraded : chain.Graded ratios highest) {primary secondary : UInt32}
    (hlegal : chain.Legal primary secondary) :
    primary ∈ ratios ∧ 1 ≤ secondary.toNat ∧ secondary.toNat ≤ highest.toNat := by
  rcases hgraded.mem_iff.mp ⟨hlegal.primary_mem, hlegal.secondary_mem⟩ with ⟨hmem, hone, htop⟩
  exact ⟨hmem, UInt32.le_iff_toNat_le.mp hone, UInt32.le_iff_toNat_le.mp htop⟩

/-- A primary ratio with a smaller one before it is at most twice the raw ratio. -/
theorem Graded.primaryFor_le_two_mul (hgraded : chain.Graded ratios highest)
    (hclose : ratios.IsChain fun ratio next => next.toNat ≤ 2 * (ratio.toNat * highest.toNat))
    {raw : UInt64} {ratio : UInt32} (hratio : ratio ∈ ratios) (hlt : ratio < chain.primaryFor raw) :
    (chain.primaryFor raw).toNat ≤ 2 * raw.toNat := by
  rcases hgraded.exists_predecessor hratio hlt with ⟨front, last, after, hsplit, _, hmissed⟩
  have hlast : last.toNat * highest.toNat < raw.toNat := by
    rw [← Bool.not_eq_true, covers_iff, hgraded.secondary_eq] at hmissed
    exact Nat.not_le.mp hmissed
  rw [hsplit, List.isChain_append_cons_cons] at hclose
  exact Nat.le_trans hclose.right.left (Nat.mul_le_mul_left 2 (Nat.le_of_lt hlast))

theorem Graded.picked_above (hgraded : chain.Graded ratios highest) (hhighest : 1 ≤ highest)
    (hclose : ratios.IsChain fun ratio next => next.toNat ≤ 2 * (ratio.toNat * highest.toNat))
    (raw : UInt64) :
    chain.pickedProduct raw ≤ 2 * raw.toNat ∨
      forall primary secondary, chain.Legal primary secondary ->
        chain.pickedProduct raw ≤ primary.toNat * secondary.toNat := by
  have hpos := toNat_pos (hgraded.primaryFor_ne_zero raw)
  have hround := two_mul_roundHalfUp_le raw.toNat hpos
  have hsecondary := hgraded.toNat_picked_snd hhighest raw
  show (chain.primaryFor raw).toNat * (chain.picked raw).2.toNat ≤ _ ∨ _
  cases hrounded : roundHalfUp raw.toNat (chain.primaryFor raw).toNat with
  | zero =>
      -- the least product of the chosen primary ratio is the least of all, or not too large
      rw [hrounded, Nat.min_zero, Nat.max_zero] at hsecondary
      by_cases hsmaller : exists ratio, ratio ∈ ratios ∧ ratio < chain.primaryFor raw
      · rcases hsmaller with ⟨ratio, hratio, hlt⟩
        rw [hsecondary, Nat.mul_one]
        exact Or.inl (hgraded.primaryFor_le_two_mul hclose hratio hlt)
      · refine Or.inr fun primary secondary hlegal => ?_
        rcases hgraded.mem_of_legal hlegal with ⟨hmem, hone, _⟩
        have hleast : chain.primaryFor raw ≤ primary :=
          UInt32.not_lt.mp fun hlt => hsmaller ⟨primary, hmem, hlt⟩
        show (chain.primaryFor raw).toNat * (chain.picked raw).2.toNat ≤ _
        rw [hsecondary]
        exact Nat.mul_le_mul (UInt32.le_iff_toNat_le.mp hleast) hone
  | succ quotient =>
      -- a quotient of one or more is at least half of what was rounded
      rw [hrounded] at hround hsecondary
      have hheld : (chain.picked raw).2.toNat ≤ quotient + 1 := by lia
      have hproduct := Nat.mul_le_mul_left (chain.primaryFor raw).toNat hheld
      rw [Nat.mul_add, Nat.mul_one] at hround hproduct
      exact Or.inl (by lia)

theorem Graded.picked_below (hgraded : chain.Graded ratios highest) (hhighest : 1 ≤ highest)
    (raw : UInt64) :
    raw.toNat < 2 * chain.pickedProduct raw ∨
      forall primary secondary, chain.Legal primary secondary ->
        primary.toNat * secondary.toNat ≤ chain.pickedProduct raw := by
  have hpos := toNat_pos (hgraded.primaryFor_ne_zero raw)
  have hround := lt_two_mul_roundHalfUp raw.toNat hpos
  have hsecondary := hgraded.toNat_picked_snd hhighest raw
  show _ < 2 * ((chain.primaryFor raw).toNat * (chain.picked raw).2.toNat) ∨ _
  have hone : (chain.primaryFor raw).toNat ≤
      (chain.primaryFor raw).toNat * (chain.picked raw).2.toNat :=
    Nat.le_mul_of_pos_right _ (by lia)
  rcases Nat.le_total (roundHalfUp raw.toNat (chain.primaryFor raw).toNat) highest.toNat with
    hwithin | hbeyond
  · have hheld : roundHalfUp raw.toNat (chain.primaryFor raw).toNat ≤
        (chain.picked raw).2.toNat := by lia
    have hproduct := Nat.mul_le_mul_left (chain.primaryFor raw).toNat hheld
    exact Or.inl (by lia)
  · have hheld : (chain.picked raw).2.toNat = highest.toNat := by
      have := UInt32.le_iff_toNat_le.mp hhighest
      rw [UInt32.toNat_one] at this
      lia
    cases hcovers : chain.covers raw (chain.primaryFor raw) with
    | true =>
        rw [covers_iff, hgraded.secondary_eq] at hcovers
        have hreached : raw.toNat ≤ (chain.primaryFor raw).toNat * highest.toNat := hcovers
        rw [hheld]
        exact Or.inl (by lia)
    | false =>
        refine Or.inr fun primary secondary hlegal => ?_
        rcases hgraded.mem_of_legal hlegal with ⟨hmem, _, htop⟩
        have hgreatest := hgraded.le_primaryFor_of_not_covers hmem hcovers
        show _ ≤ (chain.primaryFor raw).toNat * (chain.picked raw).2.toNat
        rw [hheld]
        exact Nat.mul_le_mul (UInt32.le_iff_toNat_le.mp hgreatest) htop

theorem Graded.twofold_picked (hgraded : chain.Graded ratios highest) (hhighest : 1 ≤ highest)
    (hclose : ratios.IsChain fun ratio next => next.toNat ≤ 2 * (ratio.toNat * highest.toNat))
    (raw : UInt64) : chain.Twofold raw.toNat (chain.pickedProduct raw) where
  above := hgraded.picked_above hhighest hclose raw
  below := hgraded.picked_below hhighest raw

/-!
# Fits of the families
-/

theorem Rising.twofold_of_fit (hrising : chain.Rising ratios highest)
    (hclose : ratios.IsChain fun ratio next => next.toNat ≤ 2 * (ratio.toNat * highest.toNat))
    (hnone : chain.forbidden = none)
    (hbound : forall ratio, ratio ∈ ratios -> ratio.toNat * highest.toNat ≤ 64 * 4294967296)
    {clock : UInt32} {raw : UInt64} {divisor : Divisor} (hclock : 1 ≤ clock) (hraw : 1 ≤ raw)
    (hfit : chain.fit clock raw = .ok divisor) :
    chain.Twofold raw.toNat divisor.ratio.toNat := by
  rw [(hrising.steady hnone hbound).toNat_ratio_of_fit hclock hraw hfit]
  exact hrising.twofold_picked hrising.one_le_highest hclose raw

end Graded

theorem twofold_of_fit_spi {clock : UInt32} {raw : UInt64} {divisor : Divisor}
    (hclock : 1 ≤ clock) (hraw : 1 ≤ raw) (hfit : Profile.spi.chain.fit clock raw = .ok divisor) :
    Profile.spi.chain.Twofold raw.toNat divisor.ratio.toNat := by
  have hpicked := rising_spi.twofold_picked (by decide) (by decide) raw
  rw [UInt64.le_iff_toNat_le, UInt64.toNat_one] at hraw
  rw [steady_spi.toNat_ratio_of_fit hclock (UInt64.le_iff_toNat_le.mpr hraw) hfit]
  constructor
  · refine hpicked.above.imp (fun hmost => by lia) ?_
    intro hleast primary secondary hlegal
    exact Nat.max_le.mpr ⟨two_le_of_legal_spi hlegal, hleast primary secondary hlegal⟩
  · refine hpicked.below.imp (fun hhalf => by lia) ?_
    intro hgreatest primary secondary hlegal
    exact Nat.le_trans (hgreatest primary secondary hlegal) (Nat.le_max_right _ _)

theorem twofold_of_fit {family : Family} {clock : UInt32} {raw : UInt64} {divisor : Divisor}
    (hclock : 1 ≤ clock) (hraw : 1 ≤ raw)
    (hfit : family.profile.chain.fit clock raw = .ok divisor) :
    family.profile.chain.Twofold raw.toNat divisor.ratio.toNat := by
  cases family with
  | ccp => exact rising_ccp.twofold_of_fit (by decide) rfl (by simp) hclock hraw hfit
  | spi => exact twofold_of_fit_spi hclock hraw hfit
  | uart => exact rising_uart.twofold_of_fit (by decide) rfl (by simp) hclock hraw hfit
  | qei => exact rising_qei.twofold_of_fit (by decide) rfl (by simp) hclock hraw hfit
  | timer | oc => exact rising_timer.twofold_of_fit (by decide) rfl (by simp) hclock hraw hfit

end Chain
end PeripheralBank
