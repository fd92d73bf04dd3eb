import PeripheralBank.Proofs.Divider.Closeness
import PeripheralBank.Proofs.Divider.Readback

/-!
# Fits in the order of their raw ratios

A larger raw ratio never gets a smaller product of ratios.  While the primary ratio
stays the same this is the order of rounding.  Where the primary ratio changes, the
products of the next one must not be rounded back below the largest product of the
one before, which is a condition on neighbours in the table.  Slower rates ask for
larger raw ratios, so they get lower frequencies and longer periods.
-/

namespace PeripheralBank
namespace Chain

/-- A graded chain where what lies just beyond the products of one primary ratio is
not rounded back below them by the next. -/
structure Rising (chain : Chain) (ratios : List UInt32) (highest : UInt32) : Prop
    extends chain.Graded ratios highest where
  one_le_highest : 1 ≤ highest
  stepping : ratios.IsChain fun ratio next =>
    ratio.toNat * highest.toNat ≤
      next.toNat * roundHalfUp (ratio.toNat * highest.toNat + 1) next.toNat

/-- The product of the pair that is chosen before the forbidden pair is looked at. -/
def pickedProduct (chain : Chain) (raw : UInt64) : Nat :=
  (chain.picked raw).1.toNat * (chain.picked raw).2.toNat

section Rising

variable {chain : Chain} {ratios : List UInt32} {highest : UInt32}

/-!
# The product of the chosen pair
-/

theorem Graded.primaryFor_mono (hgraded : chain.Graded ratios highest) {a b : UInt64}
    (hle : a ≤ b) : chain.primaryFor a ≤ chain.primaryFor b := by
  cases hreached : chain.covers b (chain.primaryFor b) with
  | true =>
      apply hgraded.primaryFor_le_of_covers (hgraded.primaryFor_mem b)
      exact covers_iff.mpr (Nat.le_trans (UInt64.le_iff_toNat_le.mp hle) (covers_iff.mp hreached))
  | false => exact hgraded.le_primaryFor_of_not_covers (hgraded.primaryFor_mem a) hreached

theorem Rising.pickedProduct_le (hrising : chain.Rising ratios highest) (raw : UInt64) :
    chain.pickedProduct raw ≤ (chain.primaryFor raw).toNat * highest.toNat := by
  have hhighest := UInt32.le_iff_toNat_le.mp hrising.one_le_highest
  rw [UInt32.toNat_one] at hhighest
  apply Nat.mul_le_mul_left
  rw [hrising.toNat_picked_snd hrising.one_le_highest]
  lia

theorem Rising.pickedProduct_pos (hrising : chain.Rising ratios highest) (raw : UInt64) :
    0 < chain.pickedProduct raw := by
  apply Nat.mul_pos (toNat_pos (hrising.primaryFor_ne_zero raw))
  rw [hrising.toNat_picked_snd hrising.one_le_highest]
  lia

theorem Rising.le_pickedProduct (hrising : chain.Rising ratios highest) {raw : UInt64}
    {bound : Nat} (hhighest : bound ≤ (chain.primaryFor raw).toNat * highest.toNat)
    (hrounded : bound ≤ (chain.primaryFor raw).toNat *
      roundHalfUp raw.toNat (chain.primaryFor raw).toNat) :
    bound ≤ chain.pickedProduct raw := by
  have hheld : min highest.toNat (roundHalfUp raw.toNat (chain.primaryFor raw).toNat) ≤
      (chain.picked raw).2.toNat := by
    rw [hrising.toNat_picked_snd hrising.one_le_highest]
    exact Nat.le_max_right _ _
  calc
    bound ≤ min ((chain.primaryFor raw).toNat * highest.toNat)
        ((chain.primaryFor raw).toNat *
          roundHalfUp raw.toNat (chain.primaryFor raw).toNat) :=
      Nat.le_min.mpr ⟨hhighest, hrounded⟩
    _ = (chain.primaryFor raw).toNat *
        min highest.toNat (roundHalfUp raw.toNat (chain.primaryFor raw).toNat) :=
      Nat.mul_min_mul_left _ _ _
    _ ≤ chain.pickedProduct raw := Nat.mul_le_mul_left _ hheld

/-- A change to a larger primary ratio does not fall behind the products of the
smaller ones. -/
theorem Rising.mul_highest_le_pickedProduct (hrising : chain.Rising ratios highest)
    {raw : UInt64} {ratio : UInt32} (hratio : ratio ∈ ratios)
    (hlt : ratio < chain.primaryFor raw) :
    ratio.toNat * highest.toNat ≤ chain.pickedProduct raw := by
  rcases hrising.exists_predecessor hratio hlt with ⟨front, last, after, hsplit, hle, hmissed⟩
  have hlast : last.toNat * highest.toNat < raw.toNat := by
    rw [← Bool.not_eq_true, covers_iff, hrising.secondary_eq] at hmissed
    exact Nat.not_le.mp hmissed
  have hstep : last.toNat * highest.toNat ≤ (chain.primaryFor raw).toNat *
      roundHalfUp (last.toNat * highest.toNat + 1) (chain.primaryFor raw).toNat := by
    have hchain := hrising.stepping
    rw [hsplit, List.isChain_append_cons_cons] at hchain
    exact hchain.right.left
  have hnext : last < chain.primaryFor raw :=
    hrising.lt_of_mem_before (hsplit.trans (List.append_cons front last _))
      (List.mem_append_right front List.mem_cons_self)
  apply Nat.le_trans (Nat.mul_le_mul_right _ (UInt32.le_iff_toNat_le.mp hle))
  apply hrising.le_pickedProduct
  · exact Nat.mul_le_mul_right _ (Nat.le_of_lt (UInt32.lt_iff_toNat_lt.mp hnext))
  · exact Nat.le_trans hstep (Nat.mul_le_mul_left _ (roundHalfUp_mono _ hlast))

theorem Rising.pickedProduct_mono (hrising : chain.Rising ratios highest) {a b : UInt64}
    (hle : a ≤ b) : chain.pickedProduct a ≤ chain.pickedProduct b := by
  rcases UInt32.lt_or_eq_of_le (hrising.primaryFor_mono hle) with hlt | heq
  · exact Nat.le_trans (hrising.pickedProduct_le a)
      (hrising.mul_highest_le_pickedProduct (hrising.primaryFor_mem a) hlt)
  · have hround := roundHalfUp_mono (chain.primaryFor b).toNat (UInt64.le_iff_toNat_le.mp hle)
    show (chain.primaryFor a).toNat * _ ≤ (chain.primaryFor b).toNat * _
    rw [hrising.toNat_picked_snd hrising.one_le_highest,
      hrising.toNat_picked_snd hrising.one_le_highest, heq]
    apply Nat.mul_le_mul_left
    lia

/-!
# Fits as a function of the raw ratio
-/

/-- Every clock that runs gets a fit.  The product of its ratios depends on the raw
ratio alone, and does not fall as that grows.  No family goes beyond a primary ratio of 64
with a secondary ratio of thirty-two bits. -/
structure Steady (chain : Chain) (product : UInt64 -> Nat) : Prop where
  mono {a b : UInt64} (hle : a ≤ b) : product a ≤ product b
  positive (raw : UInt64) : 0 < product raw
  bounded (raw : UInt64) : product raw ≤ 64 * 4294967296
  fits {clock : UInt32} {raw : UInt64} (hclock : 1 ≤ clock) (hraw : 1 ≤ raw) :
    exists divisor, chain.fit clock raw = .ok divisor ∧ divisor.ratio.toNat = product raw
  readback {clock : UInt32} {raw : UInt64} {divisor : Divisor}
    (hfit : chain.fit clock raw = .ok divisor) :
    divisor.clock = clock ∧ divisor.frequency.toNat = clock.toNat / divisor.ratio.toNat

theorem Graded.readback_of_fit (hgraded : chain.Graded ratios highest) {clock : UInt32}
    {raw : UInt64} {divisor : Divisor} (hfit : chain.fit clock raw = .ok divisor) :
    divisor.clock = clock ∧ divisor.frequency.toNat = clock.toNat / divisor.ratio.toNat := by
  rcases legal_of_fit (fun _ => hgraded.primaryFor_ne_zero raw) hfit with
    ⟨_, _, hclock, hfrequency⟩
  rw [hfrequency, toNat_dividedClock, Divisor.toNat_ratio]
  exact ⟨hclock, rfl⟩

theorem Rising.bounded (hrising : chain.Rising ratios highest)
    (hbound : forall ratio, ratio ∈ ratios -> ratio.toNat * highest.toNat ≤ 64 * 4294967296)
    (raw : UInt64) : chain.pickedProduct raw ≤ 64 * 4294967296 :=
  Nat.le_trans (hrising.pickedProduct_le raw) (hbound _ (hrising.primaryFor_mem raw))

theorem Rising.steady (hrising : chain.Rising ratios highest) (hnone : chain.forbidden = none)
    (hbound : forall ratio, ratio ∈ ratios -> ratio.toNat * highest.toNat ≤ 64 * 4294967296) :
    chain.Steady chain.pickedProduct where
  mono := hrising.pickedProduct_mono
  positive := hrising.pickedProduct_pos
  bounded := hrising.bounded hbound
  fits {clock raw} hclock hraw := by
    have hallowed : chain.forbidden ≠ some (chain.picked raw) := by
      rw [hnone]
      exact nofun
    rcases hrising.fit_of_allowed hrising.one_le_highest hclock hraw hallowed with
      ⟨divisor, hfit, hprimary, hsecondary⟩
    refine ⟨divisor, hfit, ?_⟩
    rw [Divisor.toNat_ratio, hprimary, hsecondary]
    rfl
  readback := hrising.readback_of_fit

end Rising

/-!
# The tables of the families
-/

theorem rising_spi : Profile.spi.chain.Rising [1, 4, 16, 64] 8 where
  toGraded := nested_spi.graded
  one_le_highest := by decide
  stepping := by decide

theorem rising_uart : Profile.uart.chain.Rising [4, 16] 65536 where
  toGraded := nested_uart.graded
  one_le_highest := by decide
  stepping := by decide

theorem rising_timer : Profile.timer.chain.Rising [1, 8, 64, 256] 65536 where
  toGraded := nested_timer.graded
  one_le_highest := by decide
  stepping := by decide

/-- The largest product of a ratio is no product of the next one, but it is rounded
up to one. -/
theorem rising_ccp : Profile.ccp.chain.Rising [1, 4, 16, 64] 4294967295 where
  primary_eq := rfl
  secondary_eq := rfl
  ne_nil := by decide
  ascending := by decide
  positive := by simp
  one_le_highest := by decide
  stepping := by decide

theorem rising_qei : Profile.qei.chain.Rising [1, 2, 4, 8, 16, 32, 64, 128] 1 where
  primary_eq := rfl
  secondary_eq := rfl
  ne_nil := by decide
  ascending := by decide
  positive := by simp
  one_le_highest := by decide
  stepping := by decide

/-- Where the forbidden pair is chosen, the product one becomes two, which is the
least product that is left. -/
theorem steady_spi : Profile.spi.chain.Steady fun raw => max 2 (Profile.spi.chain.pickedProduct raw)
    where
  mono {a b} hle := by
    have hproducts := rising_spi.pickedProduct_mono hle
    lia
  positive raw := Nat.lt_of_lt_of_le Nat.two_pos (Nat.le_max_left 2 _)
  bounded raw := by
    have hbound := rising_spi.bounded (by simp) raw
    lia
  fits {clock raw} hclock hraw := by
    by_cases hpicked : Profile.spi.chain.picked raw = (1, 1)
    · refine ⟨_, fit_spi_of_undivided hclock hraw hpicked, ?_⟩
      rw [Divisor.toNat_ratio, pickedProduct, hpicked]
      rfl
    · have hallowed : Profile.spi.chain.forbidden ≠ some (Profile.spi.chain.picked raw) :=
        fun hforbidden => hpicked (Option.some.inj hforbidden).symm
      rcases rising_spi.fit_of_allowed (by decide) hclock hraw hallowed with
        ⟨divisor, hfit, hprimary, hsecondary⟩
      have hlegal := (legal_of_fit (fun _ => rising_spi.primaryFor_ne_zero raw) hfit).left
      have htwo := two_le_of_legal_spi hlegal
      refine ⟨divisor, hfit, ?_⟩
      rw [hprimary, hsecondary] at htwo
      rw [Divisor.toNat_ratio, hprimary, hsecondary]
      exact (Nat.max_eq_right htwo).symm
  readback := rising_spi.readback_of_fit

theorem exists_steady (family : Family) :
    exists product, family.profile.chain.Steady product := by
  cases family with
  | ccp => exact ⟨_, rising_ccp.steady rfl (by simp)⟩
  | spi => exact ⟨_, steady_spi⟩
  | uart => exact ⟨_, rising_uart.steady rfl (by simp)⟩
  | qei => exact ⟨_, rising_qei.steady rfl (by simp)⟩
  | timer => exact ⟨_, rising_timer.steady rfl (by simp)⟩
  | oc => exact ⟨_, rising_timer.steady rfl (by simp)⟩

/-!
# Fits in order
-/

section Steady

variable {chain : Chain} {product : UInt64 -> Nat} {clock : UInt32} {raw a b : UInt64}
  {divisor first second : Divisor}

theorem Steady.toNat_ratio_of_fit (hsteady : chain.Steady product) (hclock : 1 ≤ clock)
    (hraw : 1 ≤ raw) (hfit : chain.fit clock raw = .ok divisor) :
    divisor.ratio.toNat = product raw := by
  rcases hsteady.fits hclock hraw with ⟨found, hfound, hratio⟩
  rw [hfit] at hfound
  cases hfound
  exact hratio

theorem Steady.ratio_le (hsteady : chain.Steady product) (hclock : 1 ≤ clock) (ha : 1 ≤ a)
    (hle : a ≤ b) (hfirst : chain.fit clock a = .ok first)
    (hsecond : chain.fit clock b = .ok second) : first.ratio ≤ second.ratio := by
  rw [UInt64.le_iff_toNat_le, hsteady.toNat_ratio_of_fit hclock ha hfirst,
    hsteady.toNat_ratio_of_fit hclock (UInt64.le_trans ha hle) hsecond]
  exact hsteady.mono hle

theorem Steady.frequency_le (hsteady : chain.Steady product) (hclock : 1 ≤ clock) (ha : 1 ≤ a)
    (hle : a ≤ b) (hfirst : chain.fit clock a = .ok first)
    (hsecond : chain.fit clock b = .ok second) : second.frequency ≤ first.frequency := by
  have hratio := UInt64.le_iff_toNat_le.mp (hsteady.ratio_le hclock ha hle hfirst hsecond)
  have hpos : 0 < first.ratio.toNat := by
    rw [hsteady.toNat_ratio_of_fit hclock ha hfirst]
    exact hsteady.positive a
  rw [UInt32.le_iff_toNat_le, (hsteady.readback hfirst).right, (hsteady.readback hsecond).right]
  exact Nat.div_le_div_left hratio hpos

/-- The words hold the product of a fit also when it is counted in microseconds. -/
theorem Steady.ratio_mul_le (hsteady : chain.Steady product) (hclock : 1 ≤ clock) (hraw : 1 ≤ raw)
    (hfit : chain.fit clock raw = .ok divisor) {units : UInt64} (hunits : units.toNat ≤ 1000000) :
    divisor.ratio.toNat * units.toNat ≤ 64 * 4294967296 * 1000000 := by
  rw [hsteady.toNat_ratio_of_fit hclock hraw hfit]
  exact Nat.mul_le_mul (hsteady.bounded raw) hunits

theorem Steady.toNat_period (hsteady : chain.Steady product) (hclock : 1 ≤ clock) (hraw : 1 ≤ raw)
    (hfit : chain.fit clock raw = .ok divisor) {units : UInt64} (hunits : units.toNat ≤ 1000000) :
    (divisor.period units).toNat =
      min (divisor.ratio.toNat * units.toNat / clock.toNat) 4294967295 := by
  have hsame := (hsteady.readback hfit).left
  have hheld := hsteady.ratio_mul_le hclock hraw hfit hunits
  rw [Divisor.toNat_period, hsame]
  · rw [hsame]
    rintro rfl
    cases UInt32.le_iff_toNat_le.mp hclock
  · lia

/-- Longer periods stay longer in every unit down to the microsecond. -/
theorem Steady.period_le (hsteady : chain.Steady product) (hclock : 1 ≤ clock) (ha : 1 ≤ a)
    (hle : a ≤ b) (hfirst : chain.fit clock a = .ok first)
    (hsecond : chain.fit clock b = .ok second) {units : UInt64}
    (hunits : units.toNat ≤ 1000000) : first.period units ≤ second.period units := by
  have hratio := UInt64.le_iff_toNat_le.mp (hsteady.ratio_le hclock ha hle hfirst hsecond)
  have hquotient := Nat.div_le_div_right (c := clock.toNat)
    (Nat.mul_le_mul_right units.toNat hratio)
  rw [UInt32.le_iff_toNat_le, hsteady.toNat_period hclock ha hfirst hunits,
    hsteady.toNat_period hclock (UInt64.le_trans ha hle) hsecond hunits]
  lia

end Steady
end Chain

/-!
# Slower and faster rates
-/

namespace Rate

/-- Two rates in one unit, of which the first asks for at most as many cycles a second. -/
inductive AtMost : Rate -> Rate -> Prop where
  | hertz {low high : UInt32} (hle : low ≤ high) : AtMost (.hertz low) (.hertz high)
  | microseconds {short long : UInt32} (hle : short ≤ long) :
      AtMost (.microseconds long) (.microseconds short)
  | milliseconds {short long : UInt32} (hle : short ≤ long) :
      AtMost (.milliseconds long) (.milliseconds short)

theorem rawRatio_eq_ok_iff {rate : Rate} {clock : UInt32} {raw : UInt64} :
    rate.rawRatio clock = .ok raw ↔
      rate.value ≠ 0 ∧ clock ≠ 0 ∧ raw ≠ 0 ∧ rate.cycles clock = raw := by
  unfold rawRatio
  constructor
  · intro hraw
    split at hraw
    · cases hraw
    · split at hraw
      · cases hraw
      · split at hraw
        · cases hraw
        · rename_i hvalue hclock hcycles
          cases hraw
          exact ⟨hvalue, hclock, hcycles, rfl⟩
  · rintro ⟨hvalue, hclock, hraw, rfl⟩
    rw [if_neg hvalue, if_neg hclock, if_neg hraw]

theorem failure_of_rawRatio {rate : Rate} {clock : UInt32} {failure : Failure}
    (hfailed : rate.rawRatio clock = .error failure) :
    failure = .refused .invalidArgument ∨ failure = .refused .rateUnachievable := by
  unfold rawRatio at hfailed
  split at hfailed
  · cases hfailed
    exact Or.inl rfl
  · refine Or.inr ?_
    split at hfailed
    · cases hfailed
      rfl
    · split at hfailed
      · cases hfailed
        rfl
      · cases hfailed

/-- A rate has a raw ratio only on a clock that runs, and it takes a cycle at least. -/
theorem one_le_of_rawRatio {rate : Rate} {clock : UInt32} {raw : UInt64}
    (hraw : rate.rawRatio clock = .ok raw) : 1 ≤ clock ∧ 1 ≤ raw := by
  rcases rawRatio_eq_ok_iff.mp hraw with ⟨_, hclock, hne, _⟩
  constructor
  · exact UInt32.le_iff_toNat_le.mpr (Chain.toNat_pos hclock)
  · rw [UInt64.le_iff_toNat_le, UInt64.toNat_one, Nat.one_le_iff_ne_zero]
    exact fun hzero => hne (UInt64.toNat_inj.mp hzero)

theorem mul_div_mono {short long : UInt32} (clock : UInt32) (units : UInt64)
    (hle : short ≤ long) :
    clock.toUInt64 * short.toUInt64 / units ≤ clock.toUInt64 * long.toUInt64 / units := by
  rw [UInt64.le_iff_toNat_le, UInt64.toNat_div, UInt64.toNat_div, Chain.toNat_mul_toUInt64,
    Chain.toNat_mul_toUInt64]
  exact Nat.div_le_div_right (Nat.mul_le_mul_left _ (UInt32.le_iff_toNat_le.mp hle))

/-- The slower of two rates takes at least as many cycles of the clock. -/
theorem AtMost.cycles_le {slow fast : Rate} (hrates : slow.AtMost fast) (clock : UInt32)
    (hslow : slow.value ≠ 0) : fast.cycles clock ≤ slow.cycles clock := by
  cases hrates with
  | @hertz low high hle =>
      have hpos : 0 < low.toNat := Chain.toNat_pos hslow
      rw [UInt64.le_iff_toNat_le]
      simp only [cycles, UInt64.toNat_div, UInt32.toNat_toUInt64]
      exact Nat.div_le_div_left (UInt32.le_iff_toNat_le.mp hle) hpos
  | microseconds hle => exact mul_div_mono clock microsecondsPerSecond hle
  | milliseconds hle => exact mul_div_mono clock millisecondsPerSecond hle

end Rate

theorem Chain.solve_eq_ok_iff {chain : Chain} {clock : UInt32} {rate : Rate}
    {divisor : Divisor} :
    chain.solve clock rate = .ok divisor ↔
      exists raw, rate.rawRatio clock = .ok raw ∧ chain.fit clock raw = .ok divisor := by
  unfold solve
  cases rate.rawRatio clock with
  | error failure => simp
  | ok raw => simp

/-- On the tables of all families, a larger raw ratio gets no smaller ratio and no higher
frequency.  So of two rates in one unit the slower one gets no smaller ratio, no higher
frequency and no shorter period. -/
theorem solving_keeps_order (family : Family) (clock : UInt32) :
    (forall a b : UInt64, 1 ≤ clock -> 1 ≤ a -> a ≤ b ->
      exists first second, family.profile.chain.fit clock a = .ok first ∧
        family.profile.chain.fit clock b = .ok second ∧
        first.ratio ≤ second.ratio ∧ second.frequency ≤ first.frequency) ∧
    (forall slow fast slower faster, slow.AtMost fast ->
      family.solve clock slow = .ok slower -> family.solve clock fast = .ok faster ->
      faster.ratio ≤ slower.ratio ∧ slower.frequency ≤ faster.frequency ∧
        faster.periodMicroseconds ≤ slower.periodMicroseconds ∧
        faster.periodMilliseconds ≤ slower.periodMilliseconds) := by
  rcases Chain.exists_steady family with ⟨product, hsteady⟩
  constructor
  · intro a b hclock ha hle
    rcases hsteady.fits hclock ha with ⟨first, hfirst, _⟩
    rcases hsteady.fits hclock (UInt64.le_trans ha hle) with ⟨second, hsecond, _⟩
    exact ⟨first, second, hfirst, hsecond, hsteady.ratio_le hclock ha hle hfirst hsecond,
      hsteady.frequency_le hclock ha hle hfirst hsecond⟩
  · intro slow fast slower faster hrates hslow hfast
    rcases Chain.solve_eq_ok_iff.mp hslow with ⟨b, hlong, hsecond⟩
    rcases Chain.solve_eq_ok_iff.mp hfast with ⟨a, hshort, hfirst⟩
    rcases Rate.rawRatio_eq_ok_iff.mp hlong with ⟨hvalue, hclock, _, rfl⟩
    rcases Rate.rawRatio_eq_ok_iff.mp hshort with ⟨_, _, hraw, rfl⟩
    have hruns : 1 ≤ clock := UInt32.le_iff_toNat_le.mpr (Chain.toNat_pos hclock)
    have hone : 1 ≤ fast.cycles clock := by
      rw [UInt64.le_iff_toNat_le, UInt64.toNat_one, Nat.one_le_iff_ne_zero]
      exact fun hzero => hraw (UInt64.toNat_inj.mp hzero)
    have hle := hrates.cycles_le clock hvalue
    exact ⟨hsteady.ratio_le hruns hone hle hfirst hsecond,
      hsteady.frequency_le hruns hone hle hfirst hsecond,
      hsteady.period_le hruns hone hle hfirst hsecond (by decide),
      hsteady.period_le hruns hone hle hfirst hsecond (by decide)⟩

/-- Right beyond the largest product of four, which sixteen does not divide, the ratio still
does not fall. -/
theorem ccp_keeps_order_between_primaries :
    (exists first second, Profile.ccp.chain.fit 4294967295 17179869180 = .ok first ∧
      Profile.ccp.chain.fit 4294967295 17179869181 = .ok second ∧
      first.ratio ≤ second.ratio ∧ second.frequency ≤ first.frequency) ∧
    exists slower faster,
      Family.ccp.solve 4294967295 (.milliseconds 4001) = .ok slower ∧ slower.primary = 16 ∧
      Family.ccp.solve 4294967295 (.milliseconds 4000) = .ok faster ∧ faster.primary = 4 ∧
      faster.ratio ≤ slower.ratio ∧ slower.frequency ≤ faster.frequency ∧
      faster.periodMicroseconds ≤ slower.periodMicroseconds ∧
      faster.periodMilliseconds ≤ slower.periodMilliseconds := by
  have hsolved : forall (rate : Rate) (raw : UInt64) (primary : UInt32),
      rate.rawRatio 4294967295 = .ok raw -> 1 ≤ raw -> Profile.ccp.chain.primaryFor raw = primary ->
        exists divisor, Family.ccp.solve 4294967295 rate = .ok divisor ∧
          divisor.primary = primary := by
    intro rate raw primary hrate hraw hchosen
    have hclock : (1 : UInt32) ≤ 4294967295 := by decide
    rcases Chain.rising_ccp.fit_of_allowed (by decide) hclock hraw nofun with
      ⟨divisor, hfit, hprimary, _⟩
    exact ⟨divisor, Chain.solve_eq_ok_iff.mpr ⟨raw, hrate, hfit⟩, hprimary.trans hchosen⟩
  have hsixteen : Profile.ccp.chain.primaryFor 17184164147 = 16 := by
    rw [Chain.rising_ccp.primaryFor_eq]
    decide
  have hfour : Profile.ccp.chain.primaryFor 17179869180 = 4 := by
    rw [Chain.rising_ccp.primaryFor_eq]
    decide
  rcases hsolved (.milliseconds 4001) 17184164147 16 (by decide) (by decide) hsixteen with
    ⟨slower, hslow, hslowest⟩
  rcases hsolved (.milliseconds 4000) 17179869180 4 (by decide) (by decide) hfour with
    ⟨faster, hfast, hfastest⟩
  rcases solving_keeps_order .ccp 4294967295 with ⟨hfits, hrates⟩
  exact ⟨hfits 17179869180 17179869181 (by decide) (by decide) (by decide), slower, faster,
    hslow, hslowest, hfast, hfastest,
    hrates _ _ _ _ (.milliseconds (by decide)) hslow hfast⟩

end PeripheralBank
