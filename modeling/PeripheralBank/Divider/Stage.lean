/-!
# Divider stages

A stage is the set of ratios by which one part of the hardware can divide: a table of ratios or
every ratio of a range.  The table is searched in its own order, which need not be ascending.
-/

namespace PeripheralBank

/-- The ratios that one divider offers. -/
inductive Stage where
  | table (ratios : List UInt32)
  /-- Every ratio from `low` to `high`. -/
  | range (low high : UInt32)
deriving DecidableEq

namespace Stage

/-- The ratio at the front of the stage, zero where the table has none. -/
def first : Stage -> UInt32
  | table ratios => ratios.headD 0
  | range low _ => low

/-- The ratio at the back of the stage, zero where the table has none. -/
def last : Stage -> UInt32
  | table ratios => ratios.getLastD 0
  | range _ high => high

def contains (stage : Stage) (ratio : UInt32) : Bool :=
  match stage with
  | table ratios => ratios.contains ratio
  | range low high => decide (low ≤ ratio) && decide (ratio ≤ high)

/-- Whether the stage offers nothing to choose from; a range may not start at zero. -/
def isEmpty : Stage -> Bool
  | table ratios => ratios.isEmpty
  | range low high => decide (high < low) || low == 0

/-!
# The closest ratio
-/

/-- How far a ratio lies from a target. -/
def distance (target : UInt64) (ratio : UInt32) : UInt64 :=
  if ratio.toUInt64 < target then target - ratio.toUInt64 else ratio.toUInt64 - target

/-- The candidate if it lies strictly closer to the target, else the ratio held so far. -/
def closer (target : UInt64) (held candidate : UInt32) : UInt32 :=
  if distance target candidate < distance target held then candidate else held

/-- The ratio closest to a target; of equally close ones the earlier in the table. -/
def closest (stage : Stage) (target : UInt64) : UInt32 :=
  match stage with
  | table [] => 0
  | table (ratio :: rest) => rest.foldl (closer target) ratio
  | range low high =>
      if target < low.toUInt64 then low
      else if high.toUInt64 < target then high
      else target.toUInt32

/-!
# Stepping through a stage
-/

/-- The first ratio above a value: in the table's order, or one more within the range. -/
def above? (stage : Stage) (value : UInt32) : Option UInt32 :=
  match stage with
  | table ratios => ratios.find? fun ratio => decide (value < ratio)
  | range _ high => if value < high then some (value + 1) else none

/-- The first ratio below a value: from the back of the table, or one less within the range. -/
def below? (stage : Stage) (value : UInt32) : Option UInt32 :=
  match stage with
  | table ratios => ratios.reverse.find? fun ratio => decide (ratio < value)
  | range low _ => if low < value then some (value - 1) else none

theorem lt_of_above? {stage : Stage} {value above : UInt32}
    (habove : stage.above? value = some above) : value < above := by
  cases stage with
  | table ratios => simpa using List.find?_some habove
  | range low high =>
      simp only [above?] at habove
      split at habove
      · rename_i hbelow
        cases habove
        have hbound := high.toNat_lt
        rw [UInt32.lt_iff_toNat_lt] at hbelow ⊢
        rw [UInt32.toNat_add, UInt32.toNat_one, Nat.mod_eq_of_lt (by lia)]
        exact Nat.lt_succ_self value.toNat
      · cases habove

theorem remaining_of_above? {stage : Stage} {value above : UInt32}
    (habove : stage.above? value = some above) :
    UInt32.size - above.toNat < UInt32.size - value.toNat := by
  have hup := UInt32.lt_iff_toNat_lt.mp (lt_of_above? habove)
  exact Nat.sub_lt_sub_left (Nat.lt_trans hup above.toNat_lt_size) hup

/-- The first ratio that passes a test on the walk that starts at a value and always steps to the
next ratio above.  Every step goes up, so the walk ends. -/
def walk (stage : Stage) (passes : UInt32 -> Bool) (value : UInt32) : Option UInt32 :=
  if passes value then
    some value
  else
    match habove : stage.above? value with
    | none => none
    | some above =>
        have _hfewer := remaining_of_above? habove
        stage.walk passes above
termination_by UInt32.size - value.toNat

/-- The first ratio that passes a test on the walk from the front of the stage. -/
def search (stage : Stage) (passes : UInt32 -> Bool) : Option UInt32 :=
  stage.walk passes stage.first

end Stage

end PeripheralBank
