import PeripheralBank.Proofs.Divider.Legality
import PeripheralBank.Proofs.Divider.Rounding

/-!
# How close the secondary ratio comes

The primary ratio is chosen first, from stages of any kind and order.  What it leaves is rounded to
a whole number and handed to the secondary stage.  In a range the outcome is the closest that there
is, and misses by half a step of the primary ratio at most.  In a table the number may lie midway
between two ratios although what it was rounded from does not; then the smaller one is taken where
the larger one may be closer.
-/

namespace PeripheralBank
namespace Chain

/-!
# Fits of an allowed pair
-/

/-- The divisor of the pair that is chosen before the forbidden pair is looked at. -/
def pickedDivisor (chain : Chain) (clock : UInt32) (raw : UInt64) : Divisor where
  primary := (chain.picked raw).1
  secondary := (chain.picked raw).2
  raw := raw
  clock := clock
  frequency := dividedClock (chain.picked raw).1 (chain.picked raw).2 clock

section Allowed

variable {chain : Chain} {clock : UInt32} {raw : UInt64}
  (hsecondary : ¬ chain.secondary.Barren) (hchosen : 0 < chain.primaryFor raw)
  (hclock : 1 ≤ clock) (hraw : 1 ≤ raw) (hallowed : chain.forbidden ≠ some (chain.picked raw))
include hsecondary hchosen hclock hraw hallowed

/-- Where the chosen pair is allowed it is the outcome, unless the primary stage is barren. -/
theorem fit_eq_ok_iff_of_allowed {divisor : Divisor} :
    chain.fit clock raw = .ok divisor ↔
      ¬ chain.primary.Barren ∧ chain.pickedDivisor clock raw = divisor := by
  by_cases hprimary : chain.primary.Barren
  · rw [fit_of_not_ready (fun hready => hready.primary hprimary)]
    constructor
    · intro hrefused
      cases hrefused
    · rintro ⟨hfertile, _⟩
      exact absurd hprimary hfertile
  · have hready : chain.Ready clock raw := by
      refine ⟨hprimary, hsecondary, ?_, ?_⟩
      · rintro rfl
        cases UInt32.le_iff_toNat_le.mp hclock
      · rintro rfl
        cases UInt64.le_iff_toNat_le.mp hraw
    have hpositive : chain.primaryFor raw ≠ 0 := (UInt32.ne_of_lt hchosen).symm
    have hpermitted : chain.permitted (chain.picked raw).1 (chain.picked raw).2 = some _ :=
      permitted_of_ne hallowed
    rw [fit_of_ready hready hpositive, hpermitted]
    exact ⟨fun hfit => ⟨hprimary, Except.ok.inj hfit⟩, fun hsame => congrArg Except.ok hsame.right⟩

theorem exists_fit_iff_of_allowed :
    (exists divisor, chain.fit clock raw = .ok divisor) ↔ ¬ chain.primary.Barren := by
  simp only [fit_eq_ok_iff_of_allowed hsecondary hchosen hclock hraw hallowed,
    exists_and_left, exists_eq', and_true]

end Allowed

/-!
# Half a step
-/

theorem roundHalfUp_mul (divisor multiple : Nat) (hdivisor : 0 < divisor) :
    roundHalfUp (divisor * multiple) divisor = multiple := by
  have hhalf : ¬ (divisor + 1) / 2 ≤ 0 := by lia
  rw [roundHalfUp, Nat.mul_mod_right, Nat.mul_div_cancel_left multiple hdivisor, if_neg hhalf,
    Nat.add_zero]

theorem deviation_roundHalfUp_le (raw : Nat) {primary : Nat} (hprimary : 0 < primary) :
    deviation raw primary (roundHalfUp raw primary) ≤ primary / 2 := by
  have habove := two_mul_roundHalfUp_le raw hprimary
  have hbelow := lt_two_mul_roundHalfUp raw hprimary
  simp only [deviation, ← Int.natCast_mul]
  lia

/-- Between the first and the last product of a range nothing is lost by holding the ratio within
the range. -/
theorem toNat_secondaryFor_of_within {chain : Chain} {low high : UInt32}
    (hrange : chain.secondary = .range low high) (hends : low ≤ high) {raw : UInt64}
    {primary : UInt32} (hprimary : primary ≠ 0)
    (hbelow : primary.toNat * low.toNat ≤ raw.toNat)
    (habove : raw.toNat ≤ primary.toNat * high.toNat) :
    (chain.secondaryFor raw primary).toNat = roundHalfUp raw.toNat primary.toNat := by
  have hpos := toNat_pos hprimary
  have hlow := roundHalfUp_mono primary.toNat hbelow
  have hhigh := roundHalfUp_mono primary.toNat habove
  rw [roundHalfUp_mul primary.toNat low.toNat hpos] at hlow
  rw [roundHalfUp_mul primary.toNat high.toNat hpos] at hhigh
  rw [toNat_secondaryFor hrange hends raw hprimary, Nat.min_eq_right hhigh, Nat.max_eq_right hlow]

/-- Behind any primary stage, a range yields the ratio that comes closest with the chosen primary
one, and misses by half a step at most where the products of the range lie on both sides. -/
theorem fit_within_half_step {chain : Chain} {low high clock : UInt32} {raw : UInt64}
    (hrange : chain.secondary = .range low high) (hlow : 1 ≤ low) (hends : low ≤ high)
    (hchosen : 0 < chain.primaryFor raw) (hclock : 1 ≤ clock) (hraw : 1 ≤ raw)
    (hallowed : chain.forbidden ≠ some (chain.picked raw)) :
    ((exists divisor, chain.fit clock raw = .ok divisor) ↔ ¬ chain.primary.Barren) ∧
    forall divisor, chain.fit clock raw = .ok divisor ->
      divisor.primary = chain.primaryFor raw ∧
      (forall other, low ≤ other -> other ≤ high ->
        deviation raw.toNat divisor.primary.toNat divisor.secondary.toNat ≤
          deviation raw.toNat divisor.primary.toNat other.toNat) ∧
      (divisor.primary.toNat * low.toNat ≤ raw.toNat ->
        raw.toNat ≤ divisor.primary.toNat * high.toNat ->
        deviation raw.toNat divisor.primary.toNat divisor.secondary.toNat ≤
          divisor.primary.toNat / 2) := by
  have hsecondary : ¬ chain.secondary.Barren := by
    rw [hrange]
    rintro (hlt | rfl)
    · exact UInt32.not_le.mpr hlt hends
    · cases UInt32.le_iff_toNat_le.mp hlow
  have hpositive : chain.primaryFor raw ≠ 0 := (UInt32.ne_of_lt hchosen).symm
  refine ⟨exists_fit_iff_of_allowed hsecondary hchosen hclock hraw hallowed, ?_⟩
  intro divisor hfit
  rcases (fit_eq_ok_iff_of_allowed hsecondary hchosen hclock hraw hallowed).mp hfit with ⟨_, rfl⟩
  refine ⟨rfl, ?_, ?_⟩
  · intro other hfrom hto
    exact deviation_secondaryFor_le hrange raw hpositive (UInt32.le_iff_toNat_le.mp hfrom)
      (UInt32.le_iff_toNat_le.mp hto)
  · intro hbelow habove
    have hrounded := toNat_secondaryFor_of_within hrange hends hpositive hbelow habove
    show deviation raw.toNat _ (chain.secondaryFor raw (chain.primaryFor raw)).toNat ≤ _
    rw [hrounded]
    exact deviation_roundHalfUp_le raw.toNat (toNat_pos hpositive)

/-- Half a step is reached: in a table out of order that starts with 64, the raw ratio 224 lies
right between two products, of which the larger one is taken. -/
theorem half_step_reached_by_unordered_table :
    let chain : Chain :=
      { primary := .table [64, 4, 16], secondary := .range 3 200, forbidden := some (64, 3) }
    exists divisor, chain.fit 16000000 224 = .ok divisor ∧ divisor.primary = 64 ∧
      (forall other : UInt32, 3 ≤ other -> other ≤ 200 ->
        deviation 224 64 divisor.secondary.toNat ≤ deviation 224 64 other.toNat) ∧
      deviation 224 64 divisor.secondary.toNat ≤ 32 ∧ deviation 224 64 4 = 32 := by
  intro chain
  have hprimary : chain.primaryFor 224 = 64 := by
    rw [primaryFor, Stage.search, Stage.walk_of_passes (by decide)]
    rfl
  have hallowed : chain.forbidden ≠ some (chain.picked 224) := by
    rw [picked, hprimary]
    decide
  have hchosen : 0 < chain.primaryFor 224 := by
    rw [hprimary]
    decide
  have hrange : chain.secondary = .range 3 200 := rfl
  have hclock : (1 : UInt32) ≤ 16000000 := by decide
  rcases fit_within_half_step hrange (by decide) (by decide) hchosen hclock (by decide) hallowed
    with ⟨hfits, haccurate⟩
  rcases hfits.mpr (by simp [chain, Stage.Barren]) with ⟨divisor, hfit⟩
  rcases haccurate divisor hfit with ⟨hsame, hclosest, hhalf⟩
  rw [hprimary] at hsame
  rw [hsame] at hclosest hhalf
  exact ⟨divisor, hfit, hsame, hclosest, hhalf (by decide) (by decide), by decide⟩

end Chain

/-!
# The closest ratio of an ascending table
-/

namespace Stage

theorem toNat_distance (target : UInt64) (ratio : UInt32) :
    (distance target ratio).toNat = ((ratio.toNat : Int) - target.toNat).natAbs := by
  unfold distance
  split
  · rename_i hbelow
    rw [UInt64.toNat_sub_of_le _ _ (UInt64.le_of_lt hbelow), UInt32.toNat_toUInt64]
    rw [UInt64.lt_iff_toNat_lt, UInt32.toNat_toUInt64] at hbelow
    lia
  · rename_i habove
    rw [UInt64.not_lt] at habove
    rw [UInt64.toNat_sub_of_le _ _ habove, UInt32.toNat_toUInt64]
    rw [UInt64.le_iff_toNat_le, UInt32.toNat_toUInt64] at habove
    lia

/-- A ratio goes before another one if it lies closer to the target, or as close and not above
it. -/
def Before (target : UInt64) (first second : UInt32) : Prop :=
  distance target first < distance target second ∨
    distance target first = distance target second ∧ first ≤ second

theorem Before.refl (target : UInt64) (ratio : UInt32) : Before target ratio ratio :=
  Or.inr ⟨rfl, UInt32.le_refl ratio⟩

theorem Before.trans {target : UInt64} {first second third : UInt32}
    (hfirst : Before target first second) (hsecond : Before target second third) :
    Before target first third := by
  rcases hfirst with hcloser | ⟨heven, hle⟩
  · rcases hsecond with hcloser' | ⟨heven', _⟩
    · exact Or.inl (UInt64.lt_trans hcloser hcloser')
    · exact Or.inl (heven' ▸ hcloser)
  · rcases hsecond with hcloser' | ⟨heven', hle'⟩
    · exact Or.inl (heven ▸ hcloser')
    · exact Or.inr ⟨heven.trans heven', UInt32.le_trans hle hle'⟩

theorem before_closer (target : UInt64) {held candidate : UInt32} (hlt : held < candidate) :
    Before target (closer target held candidate) held ∧
      Before target (closer target held candidate) candidate := by
  unfold closer
  split
  · rename_i hcloser
    exact ⟨Or.inl hcloser, Before.refl target candidate⟩
  · rename_i hnot
    refine ⟨Before.refl target held, ?_⟩
    rcases UInt64.lt_or_eq_of_le (UInt64.not_lt.mp hnot) with hcloser | heven
    · exact Or.inl hcloser
    · exact Or.inr ⟨heven, UInt32.le_of_lt hlt⟩

/-- The ratio that is held at the end of an ascending table goes before all of them. -/
theorem before_foldl_closer (target : UInt64) (held : UInt32) (rest : List UInt32)
    (hascending : (held :: rest).Pairwise (· < ·)) :
    forall other, other ∈ held :: rest ->
      Before target (rest.foldl (closer target) held) other := by
  induction rest generalizing held with
  | nil =>
      intro other hother
      rw [List.mem_singleton.mp hother]
      exact Before.refl target held
  | cons candidate rest ih =>
      rcases List.pairwise_cons.mp hascending with ⟨hheld, htail⟩
      rcases List.pairwise_cons.mp htail with ⟨hcandidate, hrest⟩
      rcases before_closer target (hheld candidate List.mem_cons_self) with ⟨hbefore, hbefore'⟩
      have hnext : forall later, later ∈ rest -> closer target held candidate < later := by
        intro later hlater
        unfold closer
        split
        · exact hcandidate later hlater
        · exact hheld later (List.mem_cons_of_mem candidate hlater)
      have hlast := ih (closer target held candidate) (List.pairwise_cons.mpr ⟨hnext, hrest⟩)
      intro other hother
      rw [List.foldl_cons]
      rcases List.mem_cons.mp hother with rfl | hother
      · exact (hlast _ List.mem_cons_self).trans hbefore
      · rcases List.mem_cons.mp hother with rfl | hother
        · exact (hlast _ List.mem_cons_self).trans hbefore'
        · exact hlast other (List.mem_cons_of_mem _ hother)

theorem before_closest {ratios : List UInt32} (hascending : ratios.Pairwise (· < ·))
    (target : UInt64) {other : UInt32} (hother : other ∈ ratios) :
    Before target ((table ratios).closest target) other := by
  cases ratios with
  | nil => cases hother
  | cons ratio rest => exact before_foldl_closer target ratio rest hascending other hother

/-- Of two ratios the larger one goes first only if the target is beyond the middle. -/
theorem Before.lt_of_lt {target : UInt64} {first second : UInt32}
    (hbefore : Before target first second) (hlt : second < first) :
    second.toNat + first.toNat < 2 * target.toNat := by
  simp only [Before, UInt64.lt_iff_toNat_lt, ← UInt64.toNat_inj, toNat_distance,
    UInt32.le_iff_toNat_le] at hbefore
  rw [UInt32.lt_iff_toNat_lt] at hlt
  lia

theorem Before.le_of_lt {target : UInt64} {first second : UInt32}
    (hbefore : Before target first second) (hlt : first < second) :
    2 * target.toNat ≤ first.toNat + second.toNat := by
  simp only [Before, UInt64.lt_iff_toNat_lt, ← UInt64.toNat_inj, toNat_distance,
    UInt32.le_iff_toNat_le] at hbefore
  rw [UInt32.lt_iff_toNat_lt] at hlt
  lia

end Stage

namespace Chain

/-!
# Two roundings

A multiple of the primary ratio is closer to the raw ratio than another one if the raw ratio lies on
its side of the middle.  The secondary stage decides by the quotient that was rounded, so its choice
is the closest except where the rounding fell onto the middle.
-/

theorem deviation_lt_of_lt_iff {raw primary low high : Nat} (hprimary : 0 < primary)
    (hlt : low < high) :
    deviation raw primary high < deviation raw primary low ↔ primary * (low + high) < 2 * raw := by
  have hproducts := Nat.mul_lt_mul_of_pos_left hlt hprimary
  rw [Nat.mul_add]
  simp only [deviation, ← Int.natCast_mul]
  lia

theorem deviation_le_of_lt_iff {raw primary low high : Nat} (hprimary : 0 < primary)
    (hlt : low < high) :
    deviation raw primary high ≤ deviation raw primary low ↔ primary * (low + high) ≤ 2 * raw := by
  have hproducts := Nat.mul_lt_mul_of_pos_left hlt hprimary
  rw [Nat.mul_add]
  simp only [deviation, ← Int.natCast_mul]
  lia

/-- A smaller ratio that the stage passed over is no closer. -/
theorem deviation_le_of_middle_below {raw primary chosen other : Nat} (hprimary : 0 < primary)
    (hlt : other < chosen) (hmiddle : other + chosen < 2 * roundHalfUp raw primary) :
    deviation raw primary chosen ≤ deviation raw primary other := by
  rw [deviation_le_of_lt_iff hprimary hlt]
  have hround := two_mul_roundHalfUp_le raw hprimary
  have hstep := Nat.mul_le_mul_left primary (Nat.succ_le_of_lt hmiddle)
  rw [Nat.succ_eq_add_one, Nat.mul_add primary (other + chosen) 1, Nat.mul_one,
    Nat.mul_left_comm] at hstep
  lia

/-- A larger one that it passed over is closer only if the quotient was rounded down onto the
middle. -/
theorem deviation_lt_iff_of_middle_above {raw primary chosen other : Nat} (hprimary : 0 < primary)
    (hlt : chosen < other) (hmiddle : 2 * roundHalfUp raw primary ≤ chosen + other) :
    deviation raw primary other < deviation raw primary chosen ↔
      chosen + other = 2 * roundHalfUp raw primary ∧ primary * roundHalfUp raw primary < raw := by
  rw [deviation_lt_of_lt_iff hprimary hlt]
  have hround := lt_two_mul_roundHalfUp raw hprimary
  rcases Nat.eq_or_lt_of_le hmiddle with heq | hbeyond
  · rw [← heq, Nat.mul_left_comm]
    lia
  · have hstep := Nat.mul_le_mul_left primary (Nat.succ_le_of_lt hbeyond)
    rw [Nat.succ_eq_add_one, Nat.mul_add primary (2 * roundHalfUp raw primary) 1, Nat.mul_one,
      Nat.mul_left_comm] at hstep
    lia

/-- Where it is closer, then by less than a step of the primary ratio. -/
theorem deviation_lt_add_of_middle_above {raw primary chosen other : Nat} (hprimary : 0 < primary)
    (hlt : chosen < other) (hmiddle : 2 * roundHalfUp raw primary ≤ chosen + other) :
    deviation raw primary chosen < deviation raw primary other + primary := by
  have hround := lt_two_mul_roundHalfUp raw hprimary
  have hproducts := Nat.mul_lt_mul_of_pos_left hlt hprimary
  have hsum := Nat.mul_le_mul_left primary hmiddle
  rw [Nat.mul_left_comm, Nat.mul_add] at hsum
  simp only [deviation, ← Int.natCast_mul]
  lia

/-- A ratio is the closest but for larger ones that lie as far beyond the rounded quotient.  These
are closer if the quotient was rounded down, and then by less than a step. -/
structure ClosestOffMiddle (raw primary chosen other : Nat) : Prop where
  closer_iff : deviation raw primary other < deviation raw primary chosen ↔
    chosen < other ∧ chosen + other = 2 * roundHalfUp raw primary ∧
      primary * roundHalfUp raw primary < raw
  near : deviation raw primary chosen < deviation raw primary other + primary

theorem ClosestOffMiddle.of_le {raw primary chosen other : Nat} (hprimary : 0 < primary)
    (hle : other ≤ chosen) (hcloser : deviation raw primary chosen ≤ deviation raw primary other) :
    ClosestOffMiddle raw primary chosen other where
  closer_iff := by
    constructor
    · exact fun hlt => absurd hcloser (Nat.not_le.mpr hlt)
    · exact fun hbeyond => absurd hle (Nat.not_le.mpr hbeyond.left)
  near := Nat.lt_of_le_of_lt hcloser (Nat.lt_add_of_pos_right hprimary)

theorem closestOffMiddle_of_before {raw : UInt64} {primary chosen other : UInt32}
    (hprimary : primary ≠ 0)
    (hbefore : Stage.Before (roundedQuotient raw primary) chosen other) :
    ClosestOffMiddle raw.toNat primary.toNat chosen.toNat other.toNat := by
  have hpos := toNat_pos hprimary
  have hquotient := toNat_roundedQuotient raw hprimary
  rcases Nat.lt_trichotomy chosen.toNat other.toNat with hlt | heq | hgt
  · have hmiddle := hbefore.le_of_lt (UInt32.lt_iff_toNat_lt.mpr hlt)
    rw [hquotient] at hmiddle
    have hcloser := deviation_lt_iff_of_middle_above hpos hlt hmiddle
    refine ⟨?_, deviation_lt_add_of_middle_above hpos hlt hmiddle⟩
    rw [hcloser, and_iff_right hlt]
  · exact .of_le hpos (Nat.le_of_eq heq.symm) (heq ▸ Nat.le_refl _)
  · have hmiddle := hbefore.lt_of_lt (UInt32.lt_iff_toNat_lt.mpr hgt)
    rw [hquotient] at hmiddle
    exact .of_le hpos (Nat.le_of_lt hgt) (deviation_le_of_middle_below hpos hgt hmiddle)

/-- Behind any primary stage, an ascending table yields a ratio of its own that comes closest with
the chosen primary one, but for larger ratios that lie as far beyond the rounded quotient: one of
these is closer exactly if the quotient was rounded down, and by less than one step. -/
theorem table_fit_closest_off_middle {chain : Chain} {ratios : List UInt32} {clock : UInt32}
    {raw : UInt64} (htable : chain.secondary = .table ratios) (hne : ratios ≠ [])
    (hascending : ratios.Pairwise (· < ·)) (hchosen : 0 < chain.primaryFor raw)
    (hclock : 1 ≤ clock) (hraw : 1 ≤ raw)
    (hallowed : chain.forbidden ≠ some (chain.picked raw)) :
    ((exists divisor, chain.fit clock raw = .ok divisor) ↔ ¬ chain.primary.Barren) ∧
    forall divisor, chain.fit clock raw = .ok divisor ->
      divisor.primary = chain.primaryFor raw ∧ divisor.secondary ∈ ratios ∧
      forall other, other ∈ ratios ->
        ClosestOffMiddle raw.toNat divisor.primary.toNat divisor.secondary.toNat other.toNat := by
  have hsecondary : ¬ chain.secondary.Barren := by
    rw [htable]
    exact hne
  have hpositive : chain.primaryFor raw ≠ 0 := (UInt32.ne_of_lt hchosen).symm
  refine ⟨exists_fit_iff_of_allowed hsecondary hchosen hclock hraw hallowed, ?_⟩
  intro divisor hfit
  rcases (fit_eq_ok_iff_of_allowed hsecondary hchosen hclock hraw hallowed).mp hfit with ⟨_, rfl⟩
  have hclosest : (chain.pickedDivisor clock raw).secondary =
      (Stage.table ratios).closest (roundedQuotient raw (chain.primaryFor raw)) :=
    congrArg (·.closest (roundedQuotient raw (chain.primaryFor raw))) htable
  refine ⟨rfl, ?_, ?_⟩
  · have hmem := contains_closest hsecondary (roundedQuotient raw (chain.primaryFor raw))
    rw [htable, Stage.contains_table] at hmem
    rw [hclosest]
    exact hmem
  · intro other hother
    rw [hclosest]
    exact closestOffMiddle_of_before hpositive (Stage.before_closest hascending _ hother)

/-- Nine is two and a quarter times four.  The quotient is rounded to two, which lies midway between
one and three, and one is taken. -/
theorem fit_nine :
    Chain.fit { primary := .table [4], secondary := .table [1, 3] } 1 9 =
      .ok { primary := 4, secondary := 1, raw := 9, clock := 1, frequency := 0 } := by
  decide +kernel

theorem table_fit_closest_off_middle_of_nine :
    let chain : Chain := { primary := .table [4], secondary := .table [1, 3] }
    exists divisor, chain.fit 1 9 = .ok divisor ∧ ClosestOffMiddle 9 4 1 3 ∧
      deviation 9 4 3 < deviation 9 4 1 ∧ 1 + 3 = 2 * roundHalfUp 9 4 := by
  intro chain
  have hprimary : chain.primaryFor 9 = 4 := by decide +kernel
  have hchosen : 0 < chain.primaryFor 9 := by
    rw [hprimary]
    decide
  have htable : chain.secondary = .table [1, 3] := rfl
  have hclock : (1 : UInt32) ≤ 1 := by decide
  rcases table_fit_closest_off_middle htable (by decide) (by decide) hchosen hclock (by decide)
    (by decide) with ⟨_, hclosest⟩
  rcases hclosest _ fit_nine with ⟨_, _, hothers⟩
  exact ⟨_, fit_nine, hothers 3 (by decide), by decide, by decide⟩

/-- Three would be closer to nine: twelve misses it by three, and four by five. -/
theorem midway_ratio_not_closest :
    ¬ forall (chain : Chain) (ratios : List UInt32), chain.secondary = .table ratios ->
      ratios ≠ [] -> ratios.Pairwise (· < ·) -> (forall ratio, ratio ∈ ratios -> 0 < ratio) ->
      forall (clock : UInt32) (raw : UInt64), 0 < chain.primaryFor raw -> 1 ≤ clock -> 1 ≤ raw ->
        chain.forbidden ≠ some (chain.picked raw) ->
        forall divisor, chain.fit clock raw = .ok divisor -> forall other, other ∈ ratios ->
          deviation raw.toNat divisor.primary.toNat divisor.secondary.toNat ≤
            deviation raw.toNat divisor.primary.toNat other.toNat := by
  intro hall
  have hchosen : 0 < Chain.primaryFor { primary := .table [4], secondary := .table [1, 3] } 9 := by
    decide +kernel
  have hclosest := hall { primary := .table [4], secondary := .table [1, 3] } [1, 3] rfl
    (by decide) (by decide) (by simp) 1 9 hchosen (by decide) (by decide) (by decide) _ fit_nine 3
    (by decide)
  exact absurd hclosest (by decide)

end Chain
end PeripheralBank
