import PeripheralBank.Proofs.Divider.Graded

/-!
# The closest pair of a divider chain

Only one primary ratio is ever tried, the first that reaches the raw ratio.  In a
table where each ratio divides the next, every product of a larger ratio is also
a product of that one or lies beyond its largest.  Where the next ratio divides
the largest product of the one before, the products of the smaller ratios do not
come closer from below either.
-/

namespace PeripheralBank
namespace Chain

/-- Primary ratios that divide each other in turn, with every secondary ratio up to
a highest one behind them, so that no gap is left between their products. -/
structure Nested (chain : Chain) (ratios : List UInt32) (highest : UInt32) : Prop where
  primary_eq : chain.primary = .table ratios
  secondary_eq : chain.secondary = .range 1 highest
  ne_nil : ratios ≠ []
  ascending : ratios.IsChain (· < ·)
  positive : forall ratio, ratio ∈ ratios -> 0 < ratio
  dividing : ratios.IsChain fun ratio next =>
    ratio.toNat ∣ next.toNat ∧ next.toNat ∣ ratio.toNat * highest.toNat

section Nested

variable {chain : Chain} {ratios : List UInt32} {highest : UInt32}

theorem Nested.graded (hnested : chain.Nested ratios highest) : chain.Graded ratios highest where
  primary_eq := hnested.primary_eq
  secondary_eq := hnested.secondary_eq
  ne_nil := hnested.ne_nil
  ascending := hnested.ascending
  positive := hnested.positive

theorem Nested.dvd_of_mem_append (hnested : chain.Nested ratios highest)
    {before after : List UInt32} {pivot ratio : UInt32}
    (hsplit : ratios = before ++ pivot :: after) (hratio : ratio ∈ after) :
    pivot.toNat ∣ ratio.toNat := by
  have : Trans (fun a b : UInt32 => a.toNat ∣ b.toNat) (fun a b : UInt32 => a.toNat ∣ b.toNat)
      (fun a b : UInt32 => a.toNat ∣ b.toNat) := ⟨Nat.dvd_trans⟩
  have hchain : ratios.IsChain fun a b => a.toNat ∣ b.toNat :=
    hnested.dividing.imp fun _ _ hab => hab.left
  have hpairwise := List.isChain_iff_pairwise.mp hchain
  rw [hsplit] at hpairwise
  have htail := (List.pairwise_append.mp hpairwise).right.left
  exact (List.pairwise_cons.mp htail).left ratio hratio

/-!
# Products of the chosen primary ratio
-/

theorem deviation_le_of_le_raw {raw product primary secondary other ratio : Nat}
    (hproduct : primary * secondary = product)
    (hother : other * ratio ≤ product) (hraw : product ≤ raw) :
    deviation raw primary secondary ≤ deviation raw other ratio := by
  simp only [deviation, ← Int.natCast_mul]
  lia

theorem deviation_le_of_raw_le {raw product primary secondary other ratio : Nat}
    (hproduct : primary * secondary = product)
    (hother : product ≤ other * ratio) (hraw : raw ≤ product) :
    deviation raw primary secondary ≤ deviation raw other ratio := by
  simp only [deviation, ← Int.natCast_mul]
  lia

/-- The largest product of the ratio before the chosen one is a product of the
chosen one as well, and no product of the smaller ratios is closer. -/
theorem Nested.exists_closer_than_before (hnested : chain.Nested ratios highest)
    {raw : UInt64} {before after : List UInt32} {pivot ratio secondary : UInt32}
    (hsplit : ratios = before ++ pivot :: after)
    (hmissed : forall ratio, ratio ∈ before -> chain.covers raw ratio = false)
    (hhighest : 1 ≤ highest.toNat) (hratio : ratio ∈ before) (hsecondary : secondary ≤ highest) :
    exists multiple, 1 ≤ multiple ∧ multiple ≤ highest.toNat ∧
      deviation raw.toNat pivot.toNat multiple ≤
        deviation raw.toNat ratio.toNat secondary.toNat := by
  rcases List.eq_nil_or_concat before with hnil | ⟨front, last, hconcat⟩
  · rw [hnil] at hratio
    cases hratio
  rw [List.concat_eq_append] at hconcat
  subst hconcat
  have hsplit' : ratios = front ++ last :: pivot :: after := by
    rw [hsplit, List.append_assoc]
    rfl
  have hdvd : pivot.toNat ∣ last.toNat * highest.toNat := by
    have hchain := hnested.dividing
    rw [hsplit', List.isChain_append_cons_cons] at hchain
    exact hchain.right.left.right
  rcases hdvd with ⟨multiple, hmultiple⟩
  have hlast : last ∈ front ++ [last] := List.mem_append_right front List.mem_cons_self
  have hlastPos : 0 < last.toNat := by
    have hmem : last ∈ ratios := by
      rw [hsplit]
      exact List.mem_append_left _ hlast
    exact UInt32.lt_iff_toNat_lt.mp (hnested.positive last hmem)
  have hlastLe : last.toNat ≤ pivot.toNat :=
    UInt32.le_iff_toNat_le.mp (UInt32.le_of_lt (hnested.graded.lt_of_mem_before hsplit hlast))
  have hratioLe : ratio.toNat ≤ last.toNat := by
    rcases List.mem_append.mp hratio with hfront | hsame
    · exact UInt32.le_iff_toNat_le.mp
        (UInt32.le_of_lt (hnested.graded.lt_of_mem_before hsplit' hfront))
    · rw [List.mem_singleton.mp hsame]
  have hproductLe : ratio.toNat * secondary.toNat ≤ last.toNat * highest.toNat :=
    Nat.mul_le_mul hratioLe (UInt32.le_iff_toNat_le.mp hsecondary)
  have hraw : last.toNat * highest.toNat ≤ raw.toNat := by
    have hfails := hmissed last hlast
    rw [← Bool.not_eq_true, covers_iff, hnested.secondary_eq] at hfails
    exact Nat.le_of_lt (Nat.not_le.mp hfails)
  refine ⟨multiple, ?_, ?_, deviation_le_of_le_raw hmultiple.symm hproductLe hraw⟩
  · rw [Nat.one_le_iff_ne_zero]
    rintro rfl
    have hpos := Nat.mul_pos hlastPos hhighest
    rw [hmultiple, Nat.mul_zero] at hpos
    exact Nat.lt_irrefl 0 hpos
  · apply Nat.le_of_mul_le_mul_left _ (Nat.lt_of_lt_of_le hlastPos hlastLe)
    rw [← hmultiple]
    exact Nat.mul_le_mul_right highest.toNat hlastLe

/-- A product of a larger ratio is a product of the chosen one, or lies beyond the
largest of those, which reaches the raw ratio. -/
theorem Nested.exists_closer_than_after (hnested : chain.Nested ratios highest)
    {raw : UInt64} {before after : List UInt32} {pivot ratio secondary : UInt32}
    (hsplit : ratios = before ++ pivot :: after)
    (hcovers : chain.covers raw pivot = true)
    (hratio : ratio ∈ after) (hone : 1 ≤ secondary) (hsecondary : secondary ≤ highest) :
    exists multiple, 1 ≤ multiple ∧ multiple ≤ highest.toNat ∧
      deviation raw.toNat pivot.toNat multiple ≤
        deviation raw.toNat ratio.toNat secondary.toNat := by
  rcases hnested.dvd_of_mem_append hsplit hratio with ⟨factor, hfactor⟩
  rw [UInt32.le_iff_toNat_le] at hone hsecondary
  rw [covers_iff, hnested.secondary_eq] at hcovers
  have hsame : ratio.toNat * secondary.toNat = pivot.toNat * (factor * secondary.toNat) := by
    rw [hfactor, Nat.mul_assoc]
  have hfactorPos : 0 < factor := by
    have hmem : ratio ∈ ratios := by
      rw [hsplit]
      exact List.mem_append_right before (List.mem_cons_of_mem pivot hratio)
    have hpos := UInt32.lt_iff_toNat_lt.mp (hnested.positive ratio hmem)
    rw [hfactor] at hpos
    exact Nat.pos_of_mul_pos_left hpos
  rcases Nat.le_total (factor * secondary.toNat) highest.toNat with hwithin | hbeyond
  · refine ⟨factor * secondary.toNat, Nat.mul_pos hfactorPos hone, hwithin, ?_⟩
    simp only [deviation, ← Int.natCast_mul, hsame]
    exact Nat.le_refl _
  · refine ⟨highest.toNat, Nat.le_trans hone hsecondary, Nat.le_refl _, ?_⟩
    apply deviation_le_of_raw_le rfl _ hcovers
    rw [hsame]
    exact Nat.mul_le_mul_left pivot.toNat hbeyond

/-!
# No pair is closer than the chosen one
-/

theorem Nested.picked_closest (hnested : chain.Nested ratios highest)
    (raw : UInt64) {primary secondary : UInt32}
    (hprimary : chain.primary.contains primary = true)
    (hsecondary : chain.secondary.contains secondary = true) :
    deviation raw.toNat (chain.picked raw).1.toNat (chain.picked raw).2.toNat ≤
      deviation raw.toNat primary.toNat secondary.toNat := by
  rcases hnested.graded.mem_iff.mp ⟨hprimary, hsecondary⟩ with ⟨hmem, hone, htop⟩
  rcases hnested.graded.primaryFor_split raw with ⟨before, after, hsplit, hmissed, hreached⟩
  have hhighest : 1 ≤ highest.toNat :=
    UInt32.le_iff_toNat_le.mp (UInt32.le_trans hone htop)
  -- some product of the chosen primary ratio comes at least as close
  have hmultiple : exists multiple, 1 ≤ multiple ∧ multiple ≤ highest.toNat ∧
      deviation raw.toNat (chain.primaryFor raw).toNat multiple ≤
        deviation raw.toNat primary.toNat secondary.toNat := by
    rw [hsplit, List.mem_append, List.mem_cons] at hmem
    rcases hmem with hbefore | rfl | hafter
    · exact hnested.exists_closer_than_before hsplit hmissed hhighest hbefore htop
    · exact ⟨secondary.toNat, UInt32.le_iff_toNat_le.mp hone,
        UInt32.le_iff_toNat_le.mp htop, Nat.le_refl _⟩
    · rcases hreached with hcovers | rfl
      · exact hnested.exists_closer_than_after hsplit hcovers hafter hone htop
      · cases hafter
  rcases hmultiple with ⟨multiple, hlow, hhigh, hcloser⟩
  exact Nat.le_trans
    (deviation_secondaryFor_le hnested.secondary_eq raw (hnested.graded.primaryFor_ne_zero raw)
      hlow hhigh) hcloser

/-- A fit of the chain exists, and no pair that is allowed comes closer to the raw
ratio. -/
def FitsClosest (chain : Chain) (clock : UInt32) (raw : UInt64) : Prop :=
  exists divisor, chain.fit clock raw = .ok divisor ∧
    forall primary secondary, chain.Legal primary secondary ->
      deviation raw.toNat divisor.primary.toNat divisor.secondary.toNat ≤
        deviation raw.toNat primary.toNat secondary.toNat

theorem Nested.fitsClosest_of_allowed (hnested : chain.Nested ratios highest)
    (hhighest : 1 ≤ highest) {clock : UInt32} {raw : UInt64}
    (hclock : 1 ≤ clock) (hraw : 1 ≤ raw)
    (hallowed : chain.forbidden ≠ some (chain.picked raw)) :
    chain.FitsClosest clock raw := by
  rcases hnested.graded.fit_of_allowed hhighest hclock hraw hallowed with
    ⟨divisor, hfit, hprimary, hsecondary⟩
  refine ⟨divisor, hfit, ?_⟩
  intro primary secondary hlegal
  rw [hprimary, hsecondary]
  exact hnested.picked_closest raw hlegal.primary_mem hlegal.secondary_mem

end Nested

/-!
# The tables of the families
-/

theorem nested_spi : Profile.spi.chain.Nested [1, 4, 16, 64] 8 where
  primary_eq := rfl
  secondary_eq := rfl
  ne_nil := by decide
  ascending := by decide
  positive := by simp
  dividing := by decide

theorem nested_uart : Profile.uart.chain.Nested [4, 16] 65536 where
  primary_eq := rfl
  secondary_eq := rfl
  ne_nil := by decide
  ascending := by decide
  positive := by simp
  dividing := by decide

theorem nested_timer : Profile.timer.chain.Nested [1, 8, 64, 256] 65536 where
  primary_eq := rfl
  secondary_eq := rfl
  ne_nil := by decide
  ascending := by decide
  positive := by simp
  dividing := by decide

/-- Only the raw ratio one asks for the clock as it is. -/
theorem eq_one_of_picked_spi {raw : UInt64} (hraw : 1 ≤ raw)
    (hpicked : Profile.spi.chain.picked raw = (1, 1)) : raw = 1 := by
  have hclosest := nested_spi.picked_closest raw
    (show Profile.spi.chain.primary.contains 1 = true by decide)
    (show Profile.spi.chain.secondary.contains 2 = true by decide)
  rw [hpicked] at hclosest
  rw [UInt64.le_iff_toNat_le] at hraw
  simp only [deviation, UInt32.toNat_ofNat] at hclosest
  apply UInt64.toNat_inj.mp
  rw [UInt64.toNat_one] at *
  lia

/-- Besides the forbidden one, no product of the SPI table is one. -/
theorem two_le_of_legal_spi {primary secondary : UInt32}
    (hlegal : Profile.spi.chain.Legal primary secondary) :
    2 ≤ primary.toNat * secondary.toNat := by
  rcases nested_spi.graded.mem_iff.mp ⟨hlegal.primary_mem, hlegal.secondary_mem⟩ with
    ⟨hmem, hone, _⟩
  have hprimary := UInt32.lt_iff_toNat_lt.mp (nested_spi.positive primary hmem)
  have hsecondary := UInt32.le_iff_toNat_le.mp hone
  rw [UInt32.toNat_zero] at hprimary
  rw [UInt32.toNat_one] at hsecondary
  rcases Nat.lt_or_ge 1 (primary.toNat * secondary.toNat) with hmore | hless
  · exact hmore
  · exfalso
    have hfirst : primary.toNat ≤ primary.toNat * secondary.toNat :=
      Nat.le_mul_of_pos_right primary.toNat hsecondary
    have hsecond : secondary.toNat ≤ primary.toNat * secondary.toNat :=
      Nat.le_mul_of_pos_left secondary.toNat hprimary
    have hp : primary = 1 := UInt32.toNat_inj.mp (by rw [UInt32.toNat_one]; lia)
    have hs : secondary = 1 := UInt32.toNat_inj.mp (by rw [UInt32.toNat_one]; lia)
    apply hlegal.allowed
    rw [hp, hs]
    rfl

/-- Where the forbidden pair would be chosen, the next secondary ratio is taken. -/
theorem fit_spi_of_undivided {clock : UInt32} {raw : UInt64} (hclock : 1 ≤ clock)
    (hraw : 1 ≤ raw) (hpicked : Profile.spi.chain.picked raw = (1, 1)) :
    Profile.spi.chain.fit clock raw =
      .ok { primary := 1, secondary := 2, raw, clock, frequency := dividedClock 1 2 clock } := by
  have hready := nested_spi.graded.ready (by decide) hclock hraw
  have hbumped : Profile.spi.chain.permitted 1 1 = some 2 := by
    decide
  rw [fit_of_ready hready (nested_spi.graded.primaryFor_ne_zero raw), hpicked, hbumped]

theorem fitsClosest_spi {clock : UInt32} {raw : UInt64} (hclock : 1 ≤ clock) (hraw : 1 ≤ raw) :
    Profile.spi.chain.FitsClosest clock raw := by
  by_cases hpicked : Profile.spi.chain.picked raw = (1, 1)
  · refine ⟨_, fit_spi_of_undivided hclock hraw hpicked, ?_⟩
    cases eq_one_of_picked_spi hraw hpicked
    intro primary secondary hlegal
    have htwo := two_le_of_legal_spi hlegal
    simp only [deviation, UInt32.toNat_ofNat, UInt64.toNat_one, ← Int.natCast_mul]
    lia
  · apply nested_spi.fitsClosest_of_allowed (by decide) hclock hraw
    intro hforbidden
    exact hpicked (Option.some.inj hforbidden).symm

/-!
# Globally closest fits

A range that ends before its first ratio is excluded: it leaves nothing to choose.
-/

theorem fits_globally_closest {chain : Chain} {clock : UInt32} {raw : UInt64}
    (hchain :
      (exists ratios highest, chain.Nested ratios highest ∧ 1 ≤ highest ∧
        chain.forbidden = none) ∨
      chain ∈ [Profile.spi.chain, Profile.uart.chain, Profile.timer.chain, Profile.oc.chain])
    (hclock : 1 ≤ clock) (hraw : 1 ≤ raw) :
    exists divisor, chain.fit clock raw = .ok divisor ∧
      forall primary secondary, chain.Legal primary secondary ->
        deviation raw.toNat divisor.primary.toNat divisor.secondary.toNat ≤
          deviation raw.toNat primary.toNat secondary.toNat := by
  have hfree : forall ratios highest, chain.Nested ratios highest -> 1 ≤ highest ->
      chain.forbidden = none -> chain.FitsClosest clock raw := by
    intro ratios highest hnested hhighest hnone
    apply hnested.fitsClosest_of_allowed hhighest hclock hraw
    rw [hnone]
    intro hsome
    cases hsome
  rcases hchain with ⟨ratios, highest, hnested, hhighest, hnone⟩ | hmem
  · exact hfree ratios highest hnested hhighest hnone
  · simp only [List.mem_cons, List.not_mem_nil, or_false] at hmem
    rcases hmem with rfl | rfl | rfl | rfl
    · exact fitsClosest_spi hclock hraw
    · exact hfree [4, 16] 65536 nested_uart (by decide) rfl
    · exact hfree [1, 8, 64, 256] 65536 nested_timer (by decide) rfl
    · exact hfree [1, 8, 64, 256] 65536 nested_timer (by decide) rfl

/-- The raw ratio twenty-six lies between two products of the SPI table. -/
theorem spi_closest_to_twenty_six :
    Profile.spi.chain ∈
        [Profile.spi.chain, Profile.uart.chain, Profile.timer.chain, Profile.oc.chain] ∧
      exists divisor, Profile.spi.chain.fit 16000000 26 = .ok divisor ∧
        forall primary secondary, Profile.spi.chain.Legal primary secondary ->
          deviation 26 divisor.primary.toNat divisor.secondary.toNat ≤
            deviation 26 primary.toNat secondary.toNat :=
  ⟨List.mem_cons_self,
    fits_globally_closest (Or.inr List.mem_cons_self) (by decide) (by decide)⟩

/-- A range from one to zero has no ratio to fit. -/
theorem nested_with_empty_range_not_fitted :
    ¬ forall (chain : Chain) (ratios : List UInt32) (highest : UInt32),
      chain.Nested ratios highest -> chain.forbidden = none ->
        forall (clock : UInt32) (raw : UInt64), 1 ≤ clock -> 1 ≤ raw ->
          exists divisor, chain.fit clock raw = .ok divisor ∧
            forall primary secondary, chain.Legal primary secondary ->
              deviation raw.toNat divisor.primary.toNat divisor.secondary.toNat ≤
                deviation raw.toNat primary.toNat secondary.toNat := by
  intro hall
  have hnested : Nested { primary := .table [1], secondary := .range 1 0 } [1] 0 :=
    ⟨rfl, rfl, by decide, by decide, by simp, by decide⟩
  rcases hall _ [1] 0 hnested rfl 1 1 (by decide) (by decide) with ⟨divisor, hfit, _⟩
  rw [fit_of_not_ready] at hfit
  · cases hfit
  · intro hready
    exact hready.secondary (Or.inl (by decide))

end Chain
end PeripheralBank
