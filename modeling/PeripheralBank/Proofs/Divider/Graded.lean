import Mathlib.Data.List.Chain
import PeripheralBank.Proofs.Divider.Legality
import PeripheralBank.Proofs.Divider.Rounding

/-!
# Graded divider chains

A chain is graded if its primary ratios ascend and every secondary ratio up to a
highest one stands behind each of them.  The chosen primary ratio is then the
smallest that reaches the raw ratio, or the largest of all if none does.
-/

namespace PeripheralBank
namespace Chain

structure Graded (chain : Chain) (ratios : List UInt32) (highest : UInt32) : Prop where
  primary_eq : chain.primary = .table ratios
  secondary_eq : chain.secondary = .range 1 highest
  ne_nil : ratios ≠ []
  ascending : ratios.IsChain (· < ·)
  positive : forall ratio, ratio ∈ ratios -> 0 < ratio

/-- The ratio chosen from a table is the first that reaches the raw ratio, in the order of the
table, and the last where none does. -/
theorem primaryFor_table {chain : Chain} {ratios : List UInt32}
    (htable : chain.primary = .table ratios) (hne : ratios ≠ []) (raw : UInt64) :
    chain.primaryFor raw = (ratios.find? (chain.covers raw)).getD (ratios.getLast hne) := by
  unfold primaryFor
  rw [htable]
  cases ratios with
  | nil => exact absurd rfl hne
  | cons ratio rest =>
      rw [Stage.search_table (covers_of_le chain raw), Stage.last,
        List.getLastD_eq_getLast?, List.getLast?_eq_some_getLast hne]
      rfl

namespace Graded

variable {chain : Chain} {ratios : List UInt32} {highest : UInt32}

/-!
# Where the chosen primary ratio stands
-/

theorem primaryFor_eq (hgraded : chain.Graded ratios highest) (raw : UInt64) :
    chain.primaryFor raw =
      (ratios.find? (chain.covers raw)).getD (ratios.getLast hgraded.ne_nil) :=
  primaryFor_table hgraded.primary_eq hgraded.ne_nil raw

/-- No ratio before the chosen one reaches the raw ratio.  The chosen one does, or
is the last. -/
theorem primaryFor_split (hgraded : chain.Graded ratios highest) (raw : UInt64) :
    exists before after, ratios = before ++ chain.primaryFor raw :: after ∧
      (forall ratio, ratio ∈ before -> chain.covers raw ratio = false) ∧
      (chain.covers raw (chain.primaryFor raw) = true ∨ after = []) := by
  rw [hgraded.primaryFor_eq raw]
  cases hfind : ratios.find? (chain.covers raw) with
  | some found =>
      rcases List.find?_eq_some_iff_append.mp hfind with
        ⟨hcovers, before, after, hsplit, hbefore⟩
      refine ⟨before, after, hsplit, ?_, Or.inl hcovers⟩
      intro ratio hratio
      simpa using hbefore ratio hratio
  | none =>
      have hall := List.find?_eq_none.mp hfind
      refine ⟨ratios.dropLast, [], ?_, ?_, Or.inr rfl⟩
      · exact (List.dropLast_concat_getLast hgraded.ne_nil).symm
      · intro ratio hratio
        simpa using hall ratio ((List.dropLast_sublist ratios).subset hratio)

theorem primaryFor_mem (hgraded : chain.Graded ratios highest) (raw : UInt64) :
    chain.primaryFor raw ∈ ratios := by
  rcases hgraded.primaryFor_split raw with ⟨before, after, hsplit, _, _⟩
  rw [hsplit]
  exact List.mem_append_right before List.mem_cons_self

theorem primaryFor_ne_zero (hgraded : chain.Graded ratios highest) (raw : UInt64) :
    chain.primaryFor raw ≠ 0 := by
  intro hzero
  have hpos := hgraded.positive _ (hgraded.primaryFor_mem raw)
  rw [hzero] at hpos
  exact UInt32.lt_irrefl 0 hpos

/-!
# The order of the primary ratios
-/

theorem pairwise_lt (hgraded : chain.Graded ratios highest) : ratios.Pairwise (· < ·) := by
  have : Trans (fun a b : UInt32 => a < b) (fun a b : UInt32 => a < b)
      (fun a b : UInt32 => a < b) := ⟨UInt32.lt_trans⟩
  exact List.isChain_iff_pairwise.mp hgraded.ascending

theorem lt_of_mem_before (hgraded : chain.Graded ratios highest)
    {before after : List UInt32} {pivot ratio : UInt32}
    (hsplit : ratios = before ++ pivot :: after) (hratio : ratio ∈ before) :
    ratio < pivot := by
  have hpairwise := hgraded.pairwise_lt
  rw [hsplit] at hpairwise
  exact (List.pairwise_append.mp hpairwise).right.right ratio hratio pivot List.mem_cons_self

theorem lt_of_mem_after (hgraded : chain.Graded ratios highest)
    {before after : List UInt32} {pivot ratio : UInt32}
    (hsplit : ratios = before ++ pivot :: after) (hratio : ratio ∈ after) :
    pivot < ratio := by
  have hpairwise := hgraded.pairwise_lt
  rw [hsplit] at hpairwise
  exact (List.pairwise_cons.mp (List.pairwise_append.mp hpairwise).right.left).left ratio hratio

/-- The chosen ratio is the smallest that reaches the raw ratio. -/
theorem primaryFor_le_of_covers (hgraded : chain.Graded ratios highest) {raw : UInt64}
    {ratio : UInt32} (hratio : ratio ∈ ratios) (hcovers : chain.covers raw ratio = true) :
    chain.primaryFor raw ≤ ratio := by
  rcases hgraded.primaryFor_split raw with ⟨before, after, hsplit, hmissed, _⟩
  rw [hsplit, List.mem_append, List.mem_cons] at hratio
  rcases hratio with hbefore | rfl | hafter
  · rw [hmissed ratio hbefore] at hcovers
    cases hcovers
  · exact UInt32.le_refl _
  · exact UInt32.le_of_lt (hgraded.lt_of_mem_after hsplit hafter)

/-- If the chosen ratio does not reach the raw ratio, it is the largest. -/
theorem le_primaryFor_of_not_covers (hgraded : chain.Graded ratios highest) {raw : UInt64}
    {ratio : UInt32} (hratio : ratio ∈ ratios)
    (hmissed : chain.covers raw (chain.primaryFor raw) = false) :
    ratio ≤ chain.primaryFor raw := by
  rcases hgraded.primaryFor_split raw with ⟨before, after, hsplit, _, hcovers | rfl⟩
  · rw [hmissed] at hcovers
    cases hcovers
  · rw [hsplit, List.mem_append, List.mem_singleton] at hratio
    rcases hratio with hbefore | rfl
    · exact UInt32.le_of_lt (hgraded.lt_of_mem_before hsplit hbefore)
    · exact UInt32.le_refl _

/-- Every ratio below the chosen one is at most the one right before it, which does
not reach the raw ratio. -/
theorem exists_predecessor (hgraded : chain.Graded ratios highest) {raw : UInt64}
    {ratio : UInt32} (hratio : ratio ∈ ratios) (hlt : ratio < chain.primaryFor raw) :
    exists front last after, ratios = front ++ last :: chain.primaryFor raw :: after ∧
      ratio ≤ last ∧ chain.covers raw last = false := by
  rcases hgraded.primaryFor_split raw with ⟨before, after, hsplit, hmissed, _⟩
  have hbefore : ratio ∈ before := by
    rw [hsplit, List.mem_append, List.mem_cons] at hratio
    rcases hratio with hbefore | rfl | hafter
    · exact hbefore
    · exact absurd hlt (UInt32.lt_irrefl _)
    · exact absurd hlt (UInt32.lt_asymm (hgraded.lt_of_mem_after hsplit hafter))
  rcases List.eq_nil_or_concat before with rfl | ⟨front, last, hconcat⟩
  · cases hbefore
  rw [List.concat_eq_append] at hconcat
  subst hconcat
  have hsplit' : ratios = front ++ last :: chain.primaryFor raw :: after := by
    rw [hsplit, List.append_assoc]
    rfl
  refine ⟨front, last, after, hsplit', ?_, ?_⟩
  · rcases List.mem_append.mp hbefore with hfront | hlast
    · exact UInt32.le_of_lt (hgraded.lt_of_mem_before hsplit' hfront)
    · rw [List.mem_singleton.mp hlast]
      exact UInt32.le_refl last
  · exact hmissed last (List.mem_append_right front List.mem_cons_self)

/-!
# Pairs of the chain and its fits
-/

theorem mem_iff (hgraded : chain.Graded ratios highest) {primary secondary : UInt32} :
    chain.primary.contains primary = true ∧ chain.secondary.contains secondary = true ↔
      primary ∈ ratios ∧ 1 ≤ secondary ∧ secondary ≤ highest := by
  rw [hgraded.primary_eq, hgraded.secondary_eq, Stage.contains_table, Stage.contains_range]

theorem ready (hgraded : chain.Graded ratios highest) (hhighest : 1 ≤ highest)
    {clock : UInt32} {raw : UInt64} (hclock : 1 ≤ clock) (hraw : 1 ≤ raw) :
    chain.Ready clock raw where
  primary := by
    rw [hgraded.primary_eq]
    exact hgraded.ne_nil
  secondary := by
    rw [hgraded.secondary_eq]
    rintro (hlt | hzero)
    · exact UInt32.not_le.mpr hlt hhighest
    · cases hzero
  clock_ne_zero := by
    rintro rfl
    cases UInt32.le_iff_toNat_le.mp hclock
  raw_ne_zero := by
    rintro rfl
    cases UInt64.le_iff_toNat_le.mp hraw

/-- Where the chosen pair is allowed, it is the outcome. -/
theorem fit_of_allowed (hgraded : chain.Graded ratios highest) (hhighest : 1 ≤ highest)
    {clock : UInt32} {raw : UInt64} (hclock : 1 ≤ clock) (hraw : 1 ≤ raw)
    (hallowed : chain.forbidden ≠ some (chain.picked raw)) :
    exists divisor, chain.fit clock raw = .ok divisor ∧
      divisor.primary = (chain.picked raw).1 ∧ divisor.secondary = (chain.picked raw).2 := by
  have hready := hgraded.ready hhighest hclock hraw
  have hpermitted : chain.permitted (chain.picked raw).1 (chain.picked raw).2 = some _ :=
    permitted_of_ne hallowed
  rw [fit_of_ready hready (hgraded.primaryFor_ne_zero raw), hpermitted]
  exact ⟨_, rfl, rfl, rfl⟩

theorem toNat_picked_snd (hgraded : chain.Graded ratios highest) (hhighest : 1 ≤ highest)
    (raw : UInt64) :
    (chain.picked raw).2.toNat =
      max 1 (min highest.toNat (roundHalfUp raw.toNat (chain.primaryFor raw).toNat)) :=
  toNat_secondaryFor hgraded.secondary_eq hhighest raw (hgraded.primaryFor_ne_zero raw)

end Graded
end Chain
end PeripheralBank
