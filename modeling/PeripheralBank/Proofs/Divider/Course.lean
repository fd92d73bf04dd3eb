import Mathlib.Algebra.Order.Floor.Div
import PeripheralBank.Proofs.Divider.Unbounded

/-!
# The search for a primary ratio in closed form

A walk through a stage is over after finitely many steps, and the search looks at the ratios on its
course one after the other.  In a table that is not ordered the walk skips ratios, but the one that
is found is the same as in a scan of the whole table.  In a range the search finds the quotient of
the raw ratio by the highest secondary ratio, rounded up and held within the range.
-/

namespace PeripheralBank
namespace Stage

/-!
# The course of a walk
-/

/-- Where a walk that starts at a ratio stands after so many steps, unless it is over by then. -/
def visited (stage : Stage) (value : UInt32) : Nat -> Option UInt32
  | 0 => some value
  | step + 1 => (stage.visited value step).bind stage.above?

/-- All ratios on a walk, in the order in which it comes to them. -/
def course (stage : Stage) (value : UInt32) : List UInt32 :=
  match habove : stage.above? value with
  | none => [value]
  | some above =>
      have _hfewer := remaining_of_above? habove
      value :: stage.course above
termination_by UInt32.size - value.toNat

section Course

variable {stage : Stage} {value next : UInt32}

theorem course_of_above?_none (hnone : stage.above? value = none) :
    stage.course value = [value] := by
  rw [course]
  split
  · rfl
  · rename_i other hsome
    rw [hnone] at hsome
    cases hsome

theorem course_of_above?_some (hnext : stage.above? value = some next) :
    stage.course value = value :: stage.course next := by
  rw [course]
  split
  · rename_i hnone
    rw [hnone] at hnext
    cases hnext
  · rename_i other hsome
    rw [hnext] at hsome
    cases hsome
    rfl

theorem visited_of_above?_none (hnone : stage.above? value = none) (step : Nat) :
    stage.visited value (step + 1) = none := by
  induction step with
  | zero => exact hnone
  | succ step ih => rw [visited, ih, Option.bind_none]

theorem visited_of_above?_some (hnext : stage.above? value = some next) (step : Nat) :
    stage.visited value (step + 1) = stage.visited next step := by
  induction step with
  | zero => exact hnext
  | succ step ih => rw [visited, ih, visited]

/-- A walk stands on the ratios of its course, and is over after the last of them. -/
theorem visited_eq_getElem?_course (stage : Stage) (value : UInt32) (step : Nat) :
    stage.visited value step = (stage.course value)[step]? := by
  induction value using course.induct stage generalizing step with
  | case1 value hnone =>
      rw [course_of_above?_none hnone]
      cases step with
      | zero => rfl
      | succ step => exact visited_of_above?_none hnone step
  | case2 value next hnext _ ih =>
      rw [course_of_above?_some hnext]
      cases step with
      | zero => rfl
      | succ step =>
          rw [visited_of_above?_some hnext, ih, List.getElem?_cons_succ]

theorem walk_eq_find?_course (stage : Stage) (passes : UInt32 -> Bool) (value : UInt32) :
    stage.walk passes value = (stage.course value).find? passes := by
  induction value using course.induct stage with
  | case1 value hnone =>
      rw [course_of_above?_none hnone]
      cases hpasses : passes value with
      | true => rw [walk_of_passes hpasses, List.find?_cons_of_pos hpasses]
      | false =>
          rw [walk_of_above?_none hpasses hnone, List.find?_cons_of_neg (by simp [hpasses]),
            List.find?_nil]
  | case2 value next hnext _ ih =>
      rw [course_of_above?_some hnext]
      cases hpasses : passes value with
      | true => rw [walk_of_passes hpasses, List.find?_cons_of_pos hpasses]
      | false =>
          rw [walk_of_above?_some hpasses hnext, ih, List.find?_cons_of_neg (by simp [hpasses])]

end Course
end Stage

namespace Chain

/-!
# Scanning a range
-/

section Scan

variable {low high raw factor : Nat}

/-- The first number of a range whose multiple reaches a raw ratio is a quotient rounded up. -/
theorem find?_range'_of_reached (hfactor : 0 < factor) (hwithin : low ≤ high)
    (hreached : raw ≤ high * factor) :
    (List.range' low (high + 1 - low)).find? (fun ratio => decide (raw ≤ ratio * factor)) =
      some (max low (raw ⌈/⌉ factor)) := by
  have hceil (ratio : Nat) : raw ⌈/⌉ factor ≤ ratio ↔ raw ≤ ratio * factor := by
    rw [ceilDiv_le_iff_le_mul hfactor, Nat.mul_comm]
  have hheld : max low (raw ⌈/⌉ factor) ≤ high :=
    Nat.max_le.mpr ⟨hwithin, (hceil high).mpr hreached⟩
  rw [List.find?_range'_eq_some]
  refine ⟨?_, ?_, ?_⟩
  · exact decide_eq_true ((hceil _).mp (Nat.le_max_right _ _))
  · rw [List.mem_range'_1]
    lia
  · intro ratio hlow hbefore
    have hshort : ¬ raw ⌈/⌉ factor ≤ ratio := by lia
    rw [Bool.not_eq_true', decide_eq_false_iff_not, ← hceil]
    exact hshort

theorem find?_range'_of_missed (hmissed : high * factor < raw) :
    (List.range' low (high + 1 - low)).find? (fun ratio => decide (raw ≤ ratio * factor)) =
      none := by
  rw [List.find?_range'_eq_none]
  intro ratio _ hbelow
  have hmost : ratio * factor ≤ high * factor := Nat.mul_le_mul_right factor (by lia)
  rw [Bool.not_eq_true', decide_eq_false_iff_not, Nat.not_le]
  exact Nat.lt_of_le_of_lt hmost hmissed

end Scan

/-!
# The chosen ratio
-/

section Chosen

variable {chain : Chain} {raw : UInt64}

theorem primaryFor_eq_find?_course (chain : Chain) (raw : UInt64) :
    chain.primaryFor raw =
      ((chain.primary.course chain.primary.first).find? (chain.covers raw)).getD
        chain.primary.last := by
  rw [← Stage.walk_eq_find?_course]
  rfl

theorem covers_eq (chain : Chain) (raw : UInt64) :
    chain.covers raw =
      fun ratio => decide (raw.toNat ≤ ratio.toNat * chain.secondary.last.toNat) := by
  funext ratio
  rw [Bool.eq_iff_iff, covers_iff, decide_eq_true_iff]

/-- In a table the search finds what a scan of all its ratios finds, whatever their order. -/
theorem primaryFor_eq_find?_table {ratios : List UInt32} (htable : chain.primary = .table ratios)
    (hsome : ratios ≠ []) (raw : UInt64) :
    chain.primaryFor raw =
      (ratios.find? fun ratio =>
        decide (raw.toNat ≤ ratio.toNat * chain.secondary.last.toNat)).getD
          (ratios.getLast hsome) := by
  rw [primaryFor_table htable hsome, covers_eq]

theorem toNat_primaryFor_range {low high : UInt32} (hrange : chain.primary = .range low high)
    (hsome : ¬ chain.primary.Barren) (raw : UInt64) :
    (chain.primaryFor raw).toNat =
      ((List.range' low.toNat (high.toNat + 1 - low.toNat)).find? fun ratio =>
        decide (raw.toNat ≤ ratio * chain.secondary.last.toNat)).getD high.toNat := by
  have hlast : chain.naturals.secondary.last = chain.secondary.last.toNat :=
    chain.secondary.last_naturals
  rw [toNat_primaryFor hsome, ← hlast]
  unfold Unbounded.Chain.primaryFor
  show (List.find? _ chain.primary.naturals.ratios).getD chain.primary.naturals.last = _
  rw [hrange]
  rfl

/-- In a range the search finds a quotient rounded up, if the range goes far enough. -/
theorem toNat_primaryFor_eq_ceilDiv {low high : UInt32} (hrange : chain.primary = .range low high)
    (hsome : ¬ chain.primary.Barren) (hraw : 1 ≤ raw) :
    (chain.primaryFor raw).toNat =
      if 0 < chain.secondary.last.toNat ∧
          raw.toNat ≤ high.toNat * chain.secondary.last.toNat then
        max low.toNat (raw.toNat ⌈/⌉ chain.secondary.last.toNat)
      else high.toNat := by
  rw [toNat_primaryFor_range hrange hsome]
  split
  · rename_i hreached
    have hwithin : low.toNat ≤ high.toNat := by
      rw [hrange] at hsome
      exact UInt32.le_iff_toNat_le.mp (UInt32.not_lt.mp fun hlt => hsome (Or.inl hlt))
    rw [find?_range'_of_reached hreached.1 hwithin hreached.2, Option.getD_some]
  · rename_i hmissed
    have hshort : high.toNat * chain.secondary.last.toNat < raw.toNat := by
      rw [not_and_or, Nat.not_lt, Nat.le_zero, Nat.not_le] at hmissed
      rcases hmissed with hzero | hshort
      · rw [hzero, Nat.mul_zero]
        exact UInt64.le_iff_toNat_le.mp hraw
      · exact hshort
    rw [find?_range'_of_missed hshort, Option.getD_none]

/-- The ratio that was searched for is the one that the divisor gets. -/
theorem primary_of_fit {clock : UInt32} {divisor : Divisor}
    (hfit : chain.fit clock raw = .ok divisor) : divisor.primary = chain.primaryFor raw := by
  have hready := Ready.of_fit hfit
  have hchosen : chain.primaryFor raw ≠ 0 := by
    intro hzero
    rw [fit_of_zero hready hzero] at hfit
    cases hfit
  rw [fit_of_ready hready hchosen] at hfit
  split at hfit
  · cases hfit
  · cases hfit
    rfl

end Chosen

/-- For a stage that offers something, the walk visits the ratios of a finite list and is then over,
and the primary ratio of a fit is the first of them that reaches the raw ratio, else the last of the
stage.  For a table it is the first of all its ratios that does, whatever their order, and for a
range a quotient rounded up, if the range goes far enough. -/
theorem primary_search_closed_form {chain : Chain} {raw : UInt64}
    (hprimary : ¬ chain.primary.Barren) (hraw : 1 ≤ raw) :
    let highest := chain.secondary.last.toNat
    (exists walked : List UInt32,
      (forall step, chain.primary.visited chain.primary.first step = walked[step]?) ∧
        chain.primaryFor raw = (walked.find? (chain.covers raw)).getD chain.primary.last) ∧
    (forall ratios, chain.primary = .table ratios -> exists hsome : ratios ≠ [],
      chain.primaryFor raw =
        (ratios.find? fun ratio => decide (raw.toNat ≤ ratio.toNat * highest)).getD
          (ratios.getLast hsome)) ∧
    (forall low high, chain.primary = .range low high ->
      (chain.primaryFor raw).toNat =
        if 0 < highest ∧ raw.toNat ≤ high.toNat * highest then
          max low.toNat (raw.toNat ⌈/⌉ highest)
        else high.toNat) ∧
    (forall clock divisor, chain.fit clock raw = .ok divisor ->
      divisor.primary = chain.primaryFor raw) := by
  intro highest
  refine ⟨?_, ?_, ?_, ?_⟩
  · refine ⟨chain.primary.course chain.primary.first, fun step => ?_, ?_⟩
    · exact Stage.visited_eq_getElem?_course chain.primary chain.primary.first step
    · exact primaryFor_eq_find?_course chain raw
  · intro ratios htable
    have hsome : ratios ≠ [] := by
      rwa [htable] at hprimary
    exact ⟨hsome, primaryFor_eq_find?_table htable hsome raw⟩
  · intro low high hrange
    exact toNat_primaryFor_eq_ceilDiv hrange hprimary hraw
  · intro clock divisor hfit
    exact primary_of_fit hfit

/-- A table out of order and with a ratio twice, and a range.  Both are tried with a raw ratio that
is reached and with one that is not. -/
theorem primary_search_closed_form_of_unordered_table :
    let unordered : Chain := { primary := .table [4, 4, 1, 16, 2], secondary := .range 1 8 }
    let ranged : Chain := { primary := .range 3 20, secondary := .table [8] }
    (1 : UInt64) ≤ 100 ∧ (exists step, unordered.primary.visited 4 step = none) ∧
      unordered.primaryFor 100 = 16 ∧ unordered.primaryFor 1000 = 2 ∧
      (ranged.primaryFor 100).toNat = 13 ∧ (ranged.primaryFor 1000).toNat = 20 := by
  intro unordered ranged
  have hunordered : ¬ unordered.primary.Barren := List.cons_ne_nil _ _
  have hranged : ¬ ranged.primary.Barren := by
    rintro (hturned | hzero)
    · exact absurd hturned (by decide)
    · exact absurd hzero (by decide)
  have hlow : (1 : UInt64) ≤ 100 := by decide
  have hhigh : (1 : UInt64) ≤ 1000 := by decide
  rcases primary_search_closed_form hunordered hlow with ⟨⟨walked, hwalked, _⟩, htable, _⟩
  rcases primary_search_closed_form hunordered hhigh with ⟨_, hlast, _⟩
  rcases primary_search_closed_form hranged hlow with ⟨_, _, hrange, _⟩
  rcases primary_search_closed_form hranged hhigh with ⟨_, _, hbeyond, _⟩
  rcases htable _ rfl with ⟨_, hfound⟩
  rcases hlast _ rfl with ⟨_, hmissed⟩
  refine ⟨hlow, ⟨walked.length, ?_⟩, hfound, hmissed, ?_, ?_⟩
  · exact (hwalked walked.length).trans (List.getElem?_eq_none (Nat.le_refl _))
  · rw [hrange 3 20 rfl]
    dsimp only [ranged]
    decide
  · rw [hbeyond 3 20 rfl]
    dsimp only [ranged]
    decide

end Chain
end PeripheralBank
