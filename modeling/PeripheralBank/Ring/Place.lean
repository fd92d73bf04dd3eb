/-!
# Places on a ring

The places `0, …, slots - 1` lie on a circle.  `place` steps forward from one of them and `gap`
counts the steps that lead from one to another, so each undoes the other within one round.
-/

namespace PeripheralBank
namespace Ring

variable {slots : Nat}

/-- The place some steps ahead. -/
def place (start : Fin slots) (steps : Nat) : Fin slots :=
  ⟨(start.val + steps) % slots, Nat.mod_lt _ start.pos⟩

/-- The steps that lead from one place ahead to another. -/
def gap (start stop : Fin slots) : Nat :=
  (stop.val + slots - start.val) % slots

theorem gap_lt (start stop : Fin slots) : gap start stop < slots :=
  Nat.mod_lt _ start.pos

@[simp]
theorem gap_self (start : Fin slots) : gap start start = 0 := by
  rw [gap, Nat.add_sub_cancel_left, Nat.mod_self]

@[simp]
theorem place_zero (start : Fin slots) : place start 0 = start := by
  apply Fin.ext
  simp [place, Nat.mod_eq_of_lt start.isLt]

@[simp]
theorem place_slots (start : Fin slots) : place start slots = start := by
  apply Fin.ext
  simp [place, Nat.mod_eq_of_lt start.isLt]

theorem place_place (start : Fin slots) (first second : Nat) :
    place (place start first) second = place start (first + second) := by
  apply Fin.ext
  simp [place, Nat.add_assoc]

/-- A sum below two rounds is reduced by at most one round. -/
theorem mod_eq_ite {sum : Nat} (hsum : sum < 2 * slots) :
    sum % slots = if sum < slots then sum else sum - slots := by
  split
  · rename_i hbelow
    exact Nat.mod_eq_of_lt hbelow
  · rename_i habove
    rw [Nat.mod_eq_sub_mod (by lia), Nat.mod_eq_of_lt (by lia)]

theorem place_gap (start stop : Fin slots) : place start (gap start stop) = stop := by
  apply Fin.ext
  have hstart := start.isLt
  have hstop := stop.isLt
  have hgap := gap_lt start stop
  have hsteps : gap start stop =
      if stop.val + slots - start.val < slots then stop.val + slots - start.val
      else stop.val + slots - start.val - slots :=
    mod_eq_ite (by lia)
  have hlands : (place start (gap start stop)).val =
      if start.val + gap start stop < slots then start.val + gap start stop
      else start.val + gap start stop - slots :=
    mod_eq_ite (by lia)
  rw [hlands]
  lia

theorem gap_place (start : Fin slots) {steps : Nat} (hsteps : steps < slots) :
    gap start (place start steps) = steps := by
  have hstart := start.isLt
  have hplace := (place start steps).isLt
  have hlands : (place start steps).val =
      if start.val + steps < slots then start.val + steps else start.val + steps - slots :=
    mod_eq_ite (by lia)
  have hback : gap start (place start steps) =
      if (place start steps).val + slots - start.val < slots
      then (place start steps).val + slots - start.val
      else (place start steps).val + slots - start.val - slots :=
    mod_eq_ite (by lia)
  rw [hback]
  lia

theorem place_injective (start : Fin slots) {first second : Nat} (hfirst : first < slots)
    (hsecond : second < slots) (hsame : place start first = place start second) :
    first = second := by
  rw [← gap_place start hfirst, hsame, gap_place start hsecond]

theorem gap_eq_zero_iff {start stop : Fin slots} : gap start stop = 0 ↔ start = stop := by
  constructor
  · intro hnone
    rw [← place_gap start stop, hnone, place_zero]
  · rintro rfl
    exact gap_self start

/-- One more step ahead meets the start exactly when the gap is a round less one. -/
theorem place_one_eq_iff {start stop : Fin slots} :
    place stop 1 = start ↔ gap start stop + 1 = slots := by
  have hgap := gap_lt start stop
  have hwhole : place stop 1 = place start (gap start stop + 1) := by
    rw [← place_place, place_gap]
  constructor
  · intro hmeets
    by_cases hshort : gap start stop + 1 < slots
    · have hnone := place_injective start hshort start.pos (by rw [← hwhole, hmeets, place_zero])
      lia
    · lia
  · intro hround
    rw [hwhole, hround, place_slots]

theorem gap_place_one {start stop : Fin slots} (hapart : place stop 1 ≠ start) :
    gap start (place stop 1) = gap start stop + 1 := by
  have hgap := gap_lt start stop
  have hround := mt place_one_eq_iff.mpr hapart
  have hwhole : place stop 1 = place start (gap start stop + 1) := by
    rw [← place_place, place_gap]
  rw [hwhole, gap_place start (by lia)]

theorem gap_of_place_one {start stop : Fin slots} (hapart : start ≠ stop) :
    gap (place start 1) stop + 1 = gap start stop := by
  have hsome : gap start stop ≠ 0 := mt gap_eq_zero_iff.mp hapart
  have hgap := gap_lt start stop
  have hwhole : stop = place (place start 1) (gap start stop - 1) := by
    rw [place_place, show 1 + (gap start stop - 1) = gap start stop by lia, place_gap]
  have hsteps := gap_place (place start 1) (show gap start stop - 1 < slots by lia)
  rw [← hwhole] at hsteps
  lia

end Ring
end PeripheralBank
