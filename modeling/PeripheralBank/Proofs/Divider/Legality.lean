import PeripheralBank.Profile
import PeripheralBank.Proofs.Divider.Search

/-!
# Legal divisors

Fitting a raw ratio yields ratios of the two stages that are allowed to stand
together, and turns the raw ratio down exactly where there is nothing to choose
from.
-/

namespace PeripheralBank
namespace Chain

/-- A pair of ratios that the hardware may be given. -/
structure Legal (chain : Chain) (primary secondary : UInt32) : Prop where
  primary_mem : chain.primary.contains primary = true
  secondary_mem : chain.secondary.contains secondary = true
  allowed : chain.forbidden ≠ some (primary, secondary)

/-- A clock that runs, a raw ratio to fit, and ratios to fit it to. -/
structure Ready (chain : Chain) (clock : UInt32) (raw : UInt64) : Prop where
  primary : ¬ chain.primary.Barren
  secondary : ¬ chain.secondary.Barren
  clock_ne_zero : clock ≠ 0
  raw_ne_zero : raw ≠ 0

/-- The pair that is chosen before the forbidden pair is looked at. -/
def picked (chain : Chain) (raw : UInt64) : UInt32 × UInt32 :=
  (chain.primaryFor raw, chain.secondaryFor raw (chain.primaryFor raw))

/-!
# The chosen pair
-/

theorem contains_primaryFor {chain : Chain} (hprimary : ¬ chain.primary.Barren)
    (raw : UInt64) : chain.primary.contains (chain.primaryFor raw) = true := by
  unfold primaryFor
  cases hsearch : chain.primary.search (chain.covers raw) with
  | none => exact Stage.contains_last hprimary
  | some found => exact (Stage.contains_of_search hprimary hsearch).left

theorem foldl_closer_mem (target : UInt64) (held : UInt32) (ratios : List UInt32) :
    ratios.foldl (Stage.closer target) held ∈ held :: ratios := by
  induction ratios generalizing held with
  | nil => exact List.mem_cons_self
  | cons ratio rest ih =>
      have hrest := ih (Stage.closer target held ratio)
      rw [List.foldl_cons]
      rcases List.mem_cons.mp hrest with hhead | htail
      · rw [hhead]
        unfold Stage.closer
        split
        · exact List.mem_cons_of_mem held List.mem_cons_self
        · exact List.mem_cons_self
      · exact List.mem_cons_of_mem held (List.mem_cons_of_mem ratio htail)

theorem closest_range (low high : UInt32) (target : UInt64) :
    (Stage.range low high).closest target =
      if target < low.toUInt64 then low
      else if high.toUInt64 < target then high
      else target.toUInt32 :=
  rfl

theorem contains_closest {stage : Stage} (hstage : ¬ stage.Barren) (target : UInt64) :
    stage.contains (stage.closest target) = true := by
  cases stage with
  | table ratios =>
      cases ratios with
      | nil => exact absurd rfl hstage
      | cons ratio rest =>
          exact Stage.contains_table.mpr (foldl_closer_mem target ratio rest)
  | range low high =>
      have hends := Stage.contains_range.mp (Stage.contains_first hstage)
      rw [closest_range]
      split
      · exact Stage.contains_range.mpr hends
      · split
        · exact Stage.contains_range.mpr ⟨hends.right, UInt32.le_refl high⟩
        · rename_i hlow hhigh
          -- within the range the target has at most thirty-two bits
          apply Stage.contains_range.mpr
          have hbound := high.toNat_lt
          rw [UInt64.not_lt, UInt64.le_iff_toNat_le] at hlow hhigh
          simp only [UInt32.toNat_toUInt64] at hlow hhigh
          simp only [UInt32.le_iff_toNat_le, UInt64.toNat_toUInt32]
          lia

/-!
# Avoiding the forbidden pair
-/

theorem permitted_of_ne {chain : Chain} {primary secondary : UInt32}
    (hne : chain.forbidden ≠ some (primary, secondary)) :
    chain.permitted primary secondary = some secondary := by
  rw [permitted, if_neg hne]

theorem permitted_of_eq {chain : Chain} {primary secondary : UInt32}
    (heq : chain.forbidden = some (primary, secondary)) :
    chain.permitted primary secondary =
      (chain.secondary.above? secondary).or (chain.secondary.below? secondary) := by
  rw [permitted, if_pos heq]

/-- The secondary ratio that is given up is never taken in its own place. -/
theorem ne_of_above?_or_below? {stage : Stage} {value next : UInt32}
    (hnext : (stage.above? value).or (stage.below? value) = some next) :
    next ≠ value := by
  rintro rfl
  rcases Option.or_eq_some_iff.mp hnext with habove | ⟨_, hbelow⟩
  · exact UInt32.lt_irrefl next (Stage.lt_of_above? habove)
  · exact UInt32.lt_irrefl next (Stage.lt_of_below? hbelow)

theorem legal_of_permitted {chain : Chain} {primary secondary found : UInt32}
    (hprimary : chain.primary.contains primary = true)
    (hsecondary : chain.secondary.contains secondary = true)
    (hfound : chain.permitted primary secondary = some found) :
    chain.Legal primary found := by
  by_cases hforbidden : chain.forbidden = some (primary, secondary)
  · rw [permitted_of_eq hforbidden] at hfound
    refine ⟨hprimary, ?_, ?_⟩
    · rcases Option.or_eq_some_iff.mp hfound with habove | ⟨_, hbelow⟩
      · exact Stage.contains_of_above? hsecondary habove
      · exact Stage.contains_of_below? hsecondary hbelow
    · rw [hforbidden]
      intro hsame
      cases hsame
      exact ne_of_above?_or_below? hfound rfl
  · rw [permitted_of_ne hforbidden] at hfound
    cases hfound
    exact ⟨hprimary, hsecondary, hforbidden⟩

/-- There is no way around the forbidden pair exactly if its secondary ratio is
the only one. -/
theorem permitted_eq_none_iff {chain : Chain} {primary secondary : UInt32}
    (hsecondary : chain.secondary.contains secondary = true) :
    chain.permitted primary secondary = none ↔
      chain.forbidden = some (primary, secondary) ∧
        forall ratio, chain.secondary.contains ratio = true -> ratio = secondary := by
  by_cases hforbidden : chain.forbidden = some (primary, secondary)
  · rw [permitted_of_eq hforbidden, Option.or_eq_none_iff,
      Stage.above?_eq_none_iff hsecondary, Stage.below?_eq_none_iff hsecondary]
    constructor
    · rintro ⟨htop, hbottom⟩
      exact ⟨hforbidden, fun ratio hratio =>
        UInt32.le_antisymm (htop ratio hratio) (hbottom ratio hratio)⟩
    · rintro ⟨_, honly⟩
      constructor
      · intro ratio hratio
        rw [honly ratio hratio]
        exact UInt32.le_refl secondary
      · intro ratio hratio
        rw [honly ratio hratio]
        exact UInt32.le_refl secondary
  · rw [permitted_of_ne hforbidden]
    constructor
    · intro hnone
      cases hnone
    · rintro ⟨hforbidden', _⟩
      exact absurd hforbidden' hforbidden

/-!
# The outcomes of a fit
-/

theorem fit_of_not_ready {chain : Chain} {clock : UInt32} {raw : UInt64}
    (hready : ¬ chain.Ready clock raw) :
    chain.fit clock raw = refuse .rateUnachievable := by
  unfold fit
  split
  · rfl
  · rename_i hpass
    simp only [Bool.or_eq_true, beq_iff_eq, not_or, Stage.isEmpty_iff_barren] at hpass
    rcases hpass with ⟨⟨⟨hprimary, hsecondary⟩, hclock⟩, hraw⟩
    exact absurd ⟨hprimary, hsecondary, hclock, hraw⟩ hready

theorem passes_of_ready {chain : Chain} {clock : UInt32} {raw : UInt64}
    (hready : chain.Ready clock raw) :
    ¬ (chain.primary.isEmpty || chain.secondary.isEmpty || clock == 0 || raw == 0) = true := by
  simp only [Bool.or_eq_true, beq_iff_eq, not_or, Stage.isEmpty_iff_barren]
  exact ⟨⟨⟨hready.primary, hready.secondary⟩, hready.clock_ne_zero⟩, hready.raw_ne_zero⟩

/-- A primary ratio of zero would be divided by. -/
theorem fit_of_zero {chain : Chain} {clock : UInt32} {raw : UInt64}
    (hready : chain.Ready clock raw) (hzero : chain.primaryFor raw = 0) :
    chain.fit clock raw = .error .zeroRatio := by
  unfold fit
  rw [if_neg (passes_of_ready hready)]
  exact if_pos hzero

theorem fit_of_ready {chain : Chain} {clock : UInt32} {raw : UInt64}
    (hready : chain.Ready clock raw) (hchosen : chain.primaryFor raw ≠ 0) :
    chain.fit clock raw =
      match chain.permitted (chain.picked raw).1 (chain.picked raw).2 with
      | none => refuse .rateUnachievable
      | some secondary =>
          .ok
            { primary := (chain.picked raw).1
              secondary
              raw
              clock
              frequency := dividedClock (chain.picked raw).1 secondary clock } := by
  unfold fit
  rw [if_neg (passes_of_ready hready)]
  exact if_neg hchosen

theorem picked_mem {chain : Chain} {clock : UInt32} {raw : UInt64}
    (hready : chain.Ready clock raw) :
    chain.primary.contains (chain.picked raw).1 = true ∧
      chain.secondary.contains (chain.picked raw).2 = true :=
  ⟨contains_primaryFor hready.primary raw, contains_closest hready.secondary _⟩

theorem legal_of_fit {chain : Chain} {clock : UInt32} {raw : UInt64} {divisor : Divisor}
    (hchosen : chain.Ready clock raw -> chain.primaryFor raw ≠ 0)
    (hfit : chain.fit clock raw = .ok divisor) :
    chain.Legal divisor.primary divisor.secondary ∧ divisor.raw = raw ∧
      divisor.clock = clock ∧
      divisor.frequency = dividedClock divisor.primary divisor.secondary clock := by
  by_cases hready : chain.Ready clock raw
  · rcases picked_mem hready with ⟨hprimary, hsecondary⟩
    rw [fit_of_ready hready (hchosen hready)] at hfit
    cases hpermitted : chain.permitted (chain.picked raw).1 (chain.picked raw).2 with
    | none =>
        rw [hpermitted] at hfit
        cases hfit
    | some secondary =>
        rw [hpermitted] at hfit
        cases hfit
        exact ⟨legal_of_permitted hprimary hsecondary hpermitted, rfl, rfl, rfl⟩
  · rw [fit_of_not_ready hready] at hfit
    cases hfit

theorem fit_eq_refuse_iff {chain : Chain} {clock : UInt32} {raw : UInt64}
    (hchosen : chain.Ready clock raw -> chain.primaryFor raw ≠ 0) :
    chain.fit clock raw = refuse .rateUnachievable ↔
      ¬ chain.Ready clock raw ∨
        chain.forbidden = some (chain.picked raw) ∧
          forall ratio, chain.secondary.contains ratio = true ->
            ratio = (chain.picked raw).2 := by
  by_cases hready : chain.Ready clock raw
  · rw [fit_of_ready hready (hchosen hready)]
    have hnone : chain.permitted (chain.picked raw).1 (chain.picked raw).2 = none ↔ _ :=
      permitted_eq_none_iff (picked_mem hready).right
    cases hpermitted : chain.permitted (chain.picked raw).1 (chain.picked raw).2 with
    | none => exact ⟨fun _ => Or.inr (hnone.mp hpermitted), fun _ => rfl⟩
    | some secondary =>
        constructor
        · intro hrefused
          cases hrefused
        · rintro (hunready | honly)
          · exact absurd hready hunready
          · rw [hnone.mpr honly] at hpermitted
            cases hpermitted
  · exact ⟨fun _ => Or.inl hready, fun _ => fit_of_not_ready hready⟩

theorem failure_of_fit {chain : Chain} {clock : UInt32} {raw : UInt64} {failure : Failure}
    (hchosen : chain.Ready clock raw -> chain.primaryFor raw ≠ 0)
    (hfit : chain.fit clock raw = .error failure) :
    failure = .refused .rateUnachievable := by
  by_cases hready : chain.Ready clock raw
  · rw [fit_of_ready hready (hchosen hready)] at hfit
    cases hpermitted : chain.permitted (chain.picked raw).1 (chain.picked raw).2 with
    | none =>
        rw [hpermitted] at hfit
        cases hfit
        rfl
    | some secondary =>
        rw [hpermitted] at hfit
        cases hfit
  · rw [fit_of_not_ready hready] at hfit
    cases hfit
    rfl

/-!
# Legal or turned down

The last statement collects the outcomes.  It leaves out the chains whose chosen
primary ratio is zero, by which nothing can be divided.
-/

theorem fit_legal_or_refused {chain : Chain} {clock : UInt32} {raw : UInt64}
    (hchosen : chain.Ready clock raw -> chain.primaryFor raw ≠ 0) :
    (forall divisor, chain.fit clock raw = .ok divisor ->
      chain.Legal divisor.primary divisor.secondary ∧ divisor.raw = raw ∧
        divisor.clock = clock ∧
        divisor.frequency = dividedClock divisor.primary divisor.secondary clock) ∧
    (chain.fit clock raw = refuse .rateUnachievable ↔
      clock = 0 ∨ raw = 0 ∨ chain.primary.Barren ∨ chain.secondary.Barren ∨
        chain.forbidden = some (chain.picked raw) ∧
          forall ratio, chain.secondary.contains ratio = true ->
            ratio = (chain.picked raw).2) ∧
    (forall failure, chain.fit clock raw = .error failure ->
      failure = .refused .rateUnachievable) := by
  refine ⟨fun divisor => legal_of_fit hchosen, ?_, fun failure => failure_of_fit hchosen⟩
  rw [fit_eq_refuse_iff hchosen]
  have hunready : ¬ chain.Ready clock raw ↔
      clock = 0 ∨ raw = 0 ∨ chain.primary.Barren ∨ chain.secondary.Barren := by
    constructor
    · intro hready
      by_cases hclock : clock = 0
      · exact Or.inl hclock
      by_cases hraw : raw = 0
      · exact Or.inr (Or.inl hraw)
      by_cases hprimary : chain.primary.Barren
      · exact Or.inr (Or.inr (Or.inl hprimary))
      by_cases hsecondary : chain.secondary.Barren
      · exact Or.inr (Or.inr (Or.inr hsecondary))
      exact absurd ⟨hprimary, hsecondary, hclock, hraw⟩ hready
    · rintro (hclock | hraw | hprimary | hsecondary) hready
      · exact hready.clock_ne_zero hclock
      · exact hready.raw_ne_zero hraw
      · exact hready.primary hprimary
      · exact hready.secondary hsecondary
  rw [hunready]
  simp only [or_assoc]

theorem primaryFor_spi_one : Profile.spi.chain.primaryFor 1 = 1 := by
  rw [primaryFor, Stage.search, Stage.walk_of_passes (by decide)]
  rfl

/-- An undivided clock would need the forbidden pair, and gets a legal one. -/
theorem spi_undivided_legal :
    Profile.spi.chain.forbidden = some (Profile.spi.chain.picked 1) ∧
      exists divisor, Profile.spi.chain.fit 16000000 1 = .ok divisor ∧
        Profile.spi.chain.Legal divisor.primary divisor.secondary := by
  have hchosen : Profile.spi.chain.Ready 16000000 1 ->
      Profile.spi.chain.primaryFor 1 ≠ 0 := by
    intro _
    rw [primaryFor_spi_one]
    decide
  have hpicked : Profile.spi.chain.picked 1 = (1, 1) := by
    rw [picked, primaryFor_spi_one]
    decide
  rcases fit_legal_or_refused hchosen with ⟨hlegal, hrefused, hfailure⟩
  constructor
  · rw [hpicked]
    rfl
  · cases hfit : Profile.spi.chain.fit 16000000 1 with
    | ok divisor => exact ⟨divisor, rfl, (hlegal divisor hfit).left⟩
    | error failure =>
        rw [hfailure failure hfit] at hfit
        rcases hrefused.mp hfit with h | h | h | h | ⟨_, honly⟩
        · exact absurd h (by decide)
        · exact absurd h (by decide)
        · exact absurd h (by simp [Stage.Barren, Profile.spi])
        · exact absurd h (by simp [Stage.Barren, Profile.spi])
        · rw [hpicked] at honly
          exact absurd (honly 2 (by decide)) (by decide)

end Chain
end PeripheralBank
