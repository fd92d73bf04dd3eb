import PeripheralBank.Divider.Chain

/-!
# Searching a stage

The walk through a stage stays within the ratios of the stage and always goes up.
So a walk that looks for a ratio of a table that is large enough finds the first
one in the order of the table, whatever that order is.
-/

namespace PeripheralBank
namespace Stage

/-!
# The ratios of a stage
-/

/-- The stages that leave nothing to choose: a table without ratios, and a range
that is turned around or starts at zero. -/
def Barren : Stage -> Prop
  | table ratios => ratios = []
  | range low high => high < low ∨ low = 0

theorem isEmpty_iff_barren {stage : Stage} :
    stage.isEmpty = true ↔ stage.Barren := by
  cases stage with
  | table ratios =>
      exact List.isEmpty_iff
  | range low high =>
      simp [isEmpty, Barren]

theorem contains_table {ratios : List UInt32} {ratio : UInt32} :
    (table ratios).contains ratio = true ↔ ratio ∈ ratios :=
  List.contains_iff_mem

theorem contains_range {low high ratio : UInt32} :
    (range low high).contains ratio = true ↔ low ≤ ratio ∧ ratio ≤ high := by
  simp [contains]

theorem contains_first {stage : Stage} (hstage : ¬ stage.Barren) :
    stage.contains stage.first = true := by
  cases stage with
  | table ratios =>
      cases ratios with
      | nil =>
          exact absurd rfl hstage
      | cons ratio rest =>
          exact contains_table.mpr List.mem_cons_self
  | range low high =>
      have hle : low ≤ high := by
        rw [← UInt32.not_lt]
        exact fun hlt => hstage (Or.inl hlt)
      exact contains_range.mpr ⟨UInt32.le_refl low, hle⟩

theorem contains_last {stage : Stage} (hstage : ¬ stage.Barren) :
    stage.contains stage.last = true := by
  cases stage with
  | table ratios =>
      apply contains_table.mpr
      have hne : ratios ≠ [] := hstage
      rw [last, List.getLastD_eq_getLast?, List.getLast?_eq_some_getLast hne]
      exact List.getLast_mem hne
  | range low high =>
      have hle : low ≤ high := by
        rw [← UInt32.not_lt]
        exact fun hlt => hstage (Or.inl hlt)
      exact contains_range.mpr ⟨hle, UInt32.le_refl high⟩

/-!
# Steps up and down
-/

theorem toNat_add_one_of_lt {value bound : UInt32} (hlt : value < bound) :
    (value + 1).toNat = value.toNat + 1 := by
  have hbound := bound.toNat_lt
  have hval := UInt32.lt_iff_toNat_lt.mp hlt
  rw [UInt32.toNat_add, UInt32.toNat_one]
  lia

theorem toNat_sub_one_of_lt {value bound : UInt32} (hlt : bound < value) :
    (value - 1).toNat = value.toNat - 1 := by
  have hval := UInt32.lt_iff_toNat_lt.mp hlt
  rw [UInt32.toNat_sub_of_le, UInt32.toNat_one]
  rw [UInt32.le_iff_toNat_le, UInt32.toNat_one]
  lia

theorem contains_of_above? {stage : Stage} {value next : UInt32}
    (hvalue : stage.contains value = true) (hnext : stage.above? value = some next) :
    stage.contains next = true := by
  cases stage with
  | table ratios =>
      exact contains_table.mpr (List.mem_of_find?_eq_some hnext)
  | range low high =>
      simp only [above?, Option.ite_none_right_eq_some, Option.some.injEq] at hnext
      rcases hnext with ⟨hlt, rfl⟩
      have hlow := (contains_range.mp hvalue).left
      apply contains_range.mpr
      simp only [UInt32.le_iff_toNat_le, UInt32.lt_iff_toNat_lt,
        toNat_add_one_of_lt hlt] at *
      lia

theorem lt_of_below? {stage : Stage} {value next : UInt32}
    (hnext : stage.below? value = some next) : next < value := by
  cases stage with
  | table ratios =>
      simpa using List.find?_some hnext
  | range low high =>
      simp only [below?, Option.ite_none_right_eq_some, Option.some.injEq] at hnext
      rcases hnext with ⟨hlt, rfl⟩
      rw [UInt32.lt_iff_toNat_lt, toNat_sub_one_of_lt hlt]
      have hval := UInt32.lt_iff_toNat_lt.mp hlt
      lia

theorem contains_of_below? {stage : Stage} {value next : UInt32}
    (hvalue : stage.contains value = true) (hnext : stage.below? value = some next) :
    stage.contains next = true := by
  cases stage with
  | table ratios =>
      exact contains_table.mpr
        (List.mem_reverse.mp (List.mem_of_find?_eq_some hnext))
  | range low high =>
      simp only [below?, Option.ite_none_right_eq_some, Option.some.injEq] at hnext
      rcases hnext with ⟨hlt, rfl⟩
      have hhigh := (contains_range.mp hvalue).right
      apply contains_range.mpr
      simp only [UInt32.le_iff_toNat_le, UInt32.lt_iff_toNat_lt,
        toNat_sub_one_of_lt hlt] at *
      lia

theorem above?_eq_none_iff {stage : Stage} {value : UInt32}
    (hvalue : stage.contains value = true) :
    stage.above? value = none ↔
      forall ratio, stage.contains ratio = true -> ratio ≤ value := by
  cases stage with
  | table ratios =>
      simp [above?, contains_table]
  | range low high =>
      have hbounds := contains_range.mp hvalue
      simp only [above?, ite_eq_right_iff, reduceCtorEq, imp_false, UInt32.not_lt,
        contains_range]
      constructor
      · intro htop ratio hratio
        exact UInt32.le_trans hratio.right htop
      · intro hall
        exact hall high ⟨UInt32.le_trans hbounds.left hbounds.right, UInt32.le_refl high⟩

theorem below?_eq_none_iff {stage : Stage} {value : UInt32}
    (hvalue : stage.contains value = true) :
    stage.below? value = none ↔
      forall ratio, stage.contains ratio = true -> value ≤ ratio := by
  cases stage with
  | table ratios =>
      simp [below?, contains_table]
  | range low high =>
      have hbounds := contains_range.mp hvalue
      simp only [below?, ite_eq_right_iff, reduceCtorEq, imp_false, UInt32.not_lt,
        contains_range]
      constructor
      · intro hbottom ratio hratio
        exact UInt32.le_trans hbottom hratio.left
      · intro hall
        exact hall low ⟨UInt32.le_refl low, UInt32.le_trans hbounds.left hbounds.right⟩

/-!
# The walk
-/

theorem walk_of_passes {stage : Stage} {passes : UInt32 -> Bool} {value : UInt32}
    (hpasses : passes value = true) : stage.walk passes value = some value := by
  rw [walk, if_pos hpasses]

theorem walk_of_above?_none {stage : Stage} {passes : UInt32 -> Bool} {value : UInt32}
    (hfails : passes value = false) (hnone : stage.above? value = none) :
    stage.walk passes value = none := by
  rw [walk, if_neg (by simp [hfails])]
  split
  · rfl
  · rename_i next hsome
    rw [hnone] at hsome
    cases hsome

theorem walk_of_above?_some {stage : Stage} {passes : UInt32 -> Bool} {value next : UInt32}
    (hfails : passes value = false) (hnext : stage.above? value = some next) :
    stage.walk passes value = stage.walk passes next := by
  rw [walk, if_neg (by simp [hfails])]
  split
  · rename_i hnone
    rw [hnone] at hnext
    cases hnext
  · rename_i other hsome
    rw [hnext] at hsome
    cases hsome
    rfl

/-- A ratio that the walk finds belongs to the stage and passes the test. -/
theorem contains_of_walk {stage : Stage} {passes : UInt32 -> Bool} {value found : UInt32}
    (hvalue : stage.contains value = true) (hfound : stage.walk passes value = some found) :
    stage.contains found = true ∧ passes found = true := by
  -- the induction follows the steps of the walk
  induction value using walk.induct stage passes with
  | case1 value hpasses =>
      rw [walk_of_passes hpasses] at hfound
      cases hfound
      exact ⟨hvalue, hpasses⟩
  | case2 value hfails hnone =>
      rw [walk_of_above?_none (by simpa using hfails) hnone] at hfound
      cases hfound
  | case3 value hfails next hnext hfewer ih =>
      rw [walk_of_above?_some (by simpa using hfails) hnext] at hfound
      exact ih (contains_of_above? hvalue hnext) hfound

theorem contains_of_search {stage : Stage} {passes : UInt32 -> Bool} {found : UInt32}
    (hstage : ¬ stage.Barren) (hfound : stage.search passes = some found) :
    stage.contains found = true ∧ passes found = true :=
  contains_of_walk (contains_first hstage) hfound

/-!
The walk through a table skips the ratios that do not exceed the one it stands
on.  A test that larger ratios pass more easily fails on all of those, so the
walk and a plain scan stop at the same place.
-/

theorem find?_eq_of_above? {ratios : List UInt32} {passes : UInt32 -> Bool}
    {value next : UInt32}
    (hup : forall a b, a ≤ b -> passes a = true -> passes b = true)
    (hfails : passes value = false)
    (hnext : (table ratios).above? value = some next) (hpasses : passes next = true) :
    ratios.find? passes = some next := by
  rcases List.find?_eq_some_iff_append.mp hnext with ⟨_, before, after, rfl, hbefore⟩
  apply List.find?_eq_some_iff_append.mpr
  refine ⟨hpasses, before, after, rfl, ?_⟩
  intro ratio hratio
  have hle : ratio ≤ value := by simpa using hbefore ratio hratio
  cases hp : passes ratio with
  | false => rfl
  | true =>
      rw [hup ratio value hle hp] at hfails
      cases hfails

theorem find?_eq_none_of_above? {ratios : List UInt32} {passes : UInt32 -> Bool}
    {value : UInt32}
    (hup : forall a b, a ≤ b -> passes a = true -> passes b = true)
    (hfails : passes value = false) (hnone : (table ratios).above? value = none) :
    ratios.find? passes = none := by
  apply List.find?_eq_none.mpr
  intro ratio hratio hp
  have hle : ratio ≤ value := by
    simpa using List.find?_eq_none.mp hnone ratio hratio
  rw [hup ratio value hle hp] at hfails
  cases hfails

theorem walk_table {ratios : List UInt32} {passes : UInt32 -> Bool} {value : UInt32}
    (hup : forall a b, a ≤ b -> passes a = true -> passes b = true)
    (hfails : passes value = false) :
    (table ratios).walk passes value = ratios.find? passes := by
  induction value using walk.induct (table ratios) passes with
  | case1 value hpasses =>
      rw [hfails] at hpasses
      cases hpasses
  | case2 value _ hnone =>
      rw [walk_of_above?_none hfails hnone, find?_eq_none_of_above? hup hfails hnone]
  | case3 value _ next hnext hfewer ih =>
      rw [walk_of_above?_some hfails hnext]
      cases hp : passes next with
      | true =>
          rw [walk_of_passes hp, find?_eq_of_above? hup hfails hnext hp]
      | false => exact ih hp

/-- Searching a table finds the first of its ratios that passes. -/
theorem search_table {ratio : UInt32} {rest : List UInt32} {passes : UInt32 -> Bool}
    (hup : forall a b, a ≤ b -> passes a = true -> passes b = true) :
    (table (ratio :: rest)).search passes = (ratio :: rest).find? passes := by
  cases hp : passes ratio with
  | true =>
      rw [List.find?_cons_of_pos hp]
      exact walk_of_passes hp
  | false => exact walk_table hup hp

end Stage
end PeripheralBank
