import Mathlib.Data.List.Basic
import PeripheralBank.Ring.Basic

/-!
# The queue of a ring

What the operations do to the queue that a ring stands for.  Storing an element appends to it
(`toList_of_enqueue?`) and taking one removes its front (`toList_of_dequeue?`).  Of several, storing
appends the leading items that fit and taking removes the oldest, and only items that were dropped
count as overflows.
-/

namespace PeripheralBank
namespace Ring

variable {α β : Type} {slots : Nat}

/-!
# The queue that a ring stands for
-/

theorem size_lt (ring : Ring α slots) : ring.size < slots :=
  gap_lt ring.head ring.tail

theorem length_toList (ring : Ring α slots) : ring.toList.length = ring.size := by
  have hall : forall step, step ∈ List.range ring.size ->
      (ring.cells[place ring.head step]).isSome := by
    intro step hstep
    exact ring.filled step (List.mem_range.mp hstep)
  have hlength := List.filterMap_length_eq_length.mpr hall
  simpa [toList] using hlength

@[simp]
theorem toList_empty : (empty : Ring α (slots + 1)).toList = [] := by
  simp [toList, size, empty]

theorem place_tail_eq_head_iff {ring : Ring α slots} :
    place ring.tail 1 = ring.head ↔ ring.size = ring.capacity := by
  have hbound := ring.size_lt
  have hmeets : place ring.tail 1 = ring.head ↔ ring.size + 1 = slots := place_one_eq_iff
  rw [hmeets, capacity]
  lia

theorem enqueue?_eq_none_iff {ring : Ring α slots} {item : α} :
    ring.enqueue? item = none ↔ ring.size = ring.capacity := by
  unfold enqueue?
  split
  · rename_i hfull
    simp [place_tail_eq_head_iff.mp hfull]
  · rename_i hroom
    simp [mt place_tail_eq_head_iff.mpr hroom]

theorem dequeue?_eq_none_iff {ring : Ring α slots} :
    ring.dequeue? = none ↔ ring.size = 0 := by
  unfold dequeue?
  split
  · rename_i hempty
    simpa [size] using gap_eq_zero_iff.mpr hempty
  · rename_i hsome
    simpa [size] using mt gap_eq_zero_iff.mp hsome

theorem toList_of_enqueue? {ring next : Ring α slots} {item : α}
    (hstored : ring.enqueue? item = some next) : next.toList = ring.toList ++ [item] := by
  unfold enqueue? at hstored
  split at hstored
  · cases hstored
  · rename_i hroom
    cases hstored
    simp only [toList, size, gap_place_one hroom, List.range_succ, List.filterMap_append]
    congr 1
    · apply List.filterMap_congr
      intro step hmem
      have hheld := List.mem_range.mp hmem
      have hother : ring.tail.val ≠ (place ring.head step).val := by
        intro hsame
        have hmeet : place ring.head (gap ring.head ring.tail) = place ring.head step := by
          rw [place_gap]
          exact Fin.ext hsame
        have hbound := gap_lt ring.head ring.tail
        have hstep := place_injective ring.head hbound (by lia) hmeet
        lia
      simp [hother]
    · simp [place_gap]

theorem toList_of_dequeue? {ring next : Ring α slots} {item : α}
    (htaken : ring.dequeue? = some (item, next)) : ring.toList = item :: next.toList := by
  unfold dequeue? at htaken
  split at htaken
  · cases htaken
  · rename_i hsome
    cases htaken
    simp only [toList, size, ← gap_of_place_one hsome, List.range_succ_eq_map,
      List.filterMap_cons, place_zero]
    have hfront : (ring.cells[ring.head]).isSome := by
      simpa using ring.filled 0 (Nat.pos_of_ne_zero (mt gap_eq_zero_iff.mp hsome))
    rcases Option.isSome_iff_exists.mp hfront with ⟨item, hcell⟩
    simp only [hcell, Option.get_some, List.filterMap_map]
    congr 1
    apply List.filterMap_congr
    intro step _
    simp [place_place, Nat.add_comm]

@[simp]
theorem toList_clear (ring : Ring α slots) : ring.clear.toList = [] := by
  simp [toList, size, clear]

/-!
# Room
-/

theorem size_le_capacity (ring : Ring α slots) : ring.size ≤ ring.capacity :=
  Nat.le_sub_one_of_lt ring.size_lt

theorem size_add_free (ring : Ring α slots) : ring.size + ring.free = ring.capacity :=
  Nat.add_sub_cancel' ring.size_le_capacity

theorem isEmpty_eq_true_iff {ring : Ring α slots} : ring.isEmpty = true ↔ ring.toList = [] := by
  rw [isEmpty, beq_iff_eq, ← gap_eq_zero_iff, ← List.length_eq_zero_iff, length_toList, size]

theorem free_eq_zero_iff {ring : Ring α slots} : ring.free = 0 ↔ ring.size = ring.capacity := by
  have hwhole := ring.size_add_free
  lia

theorem isFull_eq_true_iff {ring : Ring α slots} : ring.isFull = true ↔ ring.free = 0 := by
  rw [isFull, beq_iff_eq, place_tail_eq_head_iff, free_eq_zero_iff]

/-!
# Storing
-/

theorem overflows_of_enqueue? {ring next : Ring α slots} {item : α}
    (hstored : ring.enqueue? item = some next) : next.overflows = ring.overflows := by
  unfold enqueue? at hstored
  split at hstored
  · cases hstored
  · cases hstored
    rfl

theorem size_of_enqueue? {ring next : Ring α slots} {item : α}
    (hstored : ring.enqueue? item = some next) : next.size = ring.size + 1 := by
  have hlengths := congrArg List.length (toList_of_enqueue? hstored)
  simpa [length_toList] using hlengths

theorem exists_enqueue? {ring : Ring α slots} (item : α) (hroom : 0 < ring.free) :
    exists next, ring.enqueue? item = some next := by
  cases hstored : ring.enqueue? item with
  | none =>
      have hfull := free_eq_zero_iff.mpr (enqueue?_eq_none_iff.mp hstored)
      exact absurd hroom (Nat.not_lt.mpr (Nat.le_of_eq hfull))
  | some next => exact ⟨next, rfl⟩

theorem storeAll_of_length_le (items : List α) (ring : Ring α slots)
    (hroom : items.length ≤ ring.free) :
    (storeAll items ring).1 = items.length ∧
      (storeAll items ring).2.toList = ring.toList ++ items ∧
      (storeAll items ring).2.overflows = ring.overflows := by
  induction items generalizing ring with
  | nil => simp [storeAll]
  | cons item rest ih =>
      rw [List.length_cons] at hroom
      rcases exists_enqueue? item (Nat.zero_lt_of_lt hroom) with ⟨next, hstored⟩
      have hgrown := size_of_enqueue? hstored
      have hwhole := ring.size_add_free
      have hleft : next.size + next.free = ring.capacity := next.size_add_free
      rcases ih next (by lia) with ⟨hcount, hqueue, hdropped⟩
      simp only [storeAll, hstored]
      refine ⟨?_, ?_, ?_⟩
      · rw [hcount, List.length_cons]
      · rw [hqueue, toList_of_enqueue? hstored, List.append_assoc, List.singleton_append]
      · rw [hdropped, overflows_of_enqueue? hstored]

theorem length_take_free_le (items : List α) (ring : Ring α slots) :
    (items.take ring.free).length ≤ ring.free := by
  rw [List.length_take]
  exact Nat.min_le_left ring.free items.length

theorem push_fst (items : List α) (ring : Ring α slots) :
    (push items ring).1 = min items.length ring.free := by
  have hfits := length_take_free_le items ring
  rw [push, (storeAll_of_length_le _ ring hfits).1, List.length_take, Nat.min_comm]

theorem toList_push (items : List α) (ring : Ring α slots) :
    (push items ring).2.toList = ring.toList ++ items.take ring.free := by
  have hfits := length_take_free_le items ring
  rw [push, (storeAll_of_length_le _ ring hfits).2.1]

/-- The items that were stored are the leading ones, by their count. -/
theorem toList_push_stored (items : List α) (ring : Ring α slots) :
    (push items ring).2.toList = ring.toList ++ items.take (push items ring).1 := by
  have hleading : items.take (min items.length ring.free) = items.take ring.free := by
    rw [← List.take_take]
    exact List.take_of_length_le (List.length_take_le' ring.free items)
  rw [toList_push, push_fst, hleading]

/-- Pushing drops nothing, so it counts no overflow. -/
theorem overflows_push (items : List α) (ring : Ring α slots) :
    (push items ring).2.overflows = ring.overflows := by
  have hfits := length_take_free_le items ring
  rw [push, (storeAll_of_length_le _ ring hfits).2.2]

theorem pushOrDrop_fst (item : α) (ring : Ring α slots) :
    (pushOrDrop item ring).1 = decide (0 < ring.free) := by
  unfold pushOrDrop
  split
  · rename_i next hstored
    have hgrown := size_of_enqueue? hstored
    have hbound : next.size ≤ ring.capacity := next.size_le_capacity
    exact (decide_eq_true (Nat.sub_pos_of_lt (by lia))).symm
  · rename_i hfull
    have hnone := free_eq_zero_iff.mpr (enqueue?_eq_none_iff.mp hfull)
    exact (decide_eq_false (Nat.not_lt.mpr (Nat.le_of_eq hnone))).symm

/-- An item that is offered is appended where there is room. -/
theorem toList_pushOrDrop (item : α) (ring : Ring α slots) :
    (pushOrDrop item ring).2.toList =
      if 0 < ring.free then ring.toList ++ [item] else ring.toList := by
  have hgranted := pushOrDrop_fst item ring
  unfold pushOrDrop at hgranted ⊢
  split at hgranted
  · rename_i hstored
    rw [if_pos (of_decide_eq_true hgranted.symm)]
    exact toList_of_enqueue? hstored
  · rw [if_neg (of_decide_eq_false hgranted.symm)]
    rfl

/-- An item that is offered counts as an overflow where there is no room. -/
theorem overflows_pushOrDrop (item : α) (ring : Ring α slots) :
    (pushOrDrop item ring).2.overflows =
      if 0 < ring.free then ring.overflows else ring.overflows + 1 := by
  have hgranted := pushOrDrop_fst item ring
  unfold pushOrDrop at hgranted ⊢
  split at hgranted
  · rename_i hstored
    rw [if_pos (of_decide_eq_true hgranted.symm)]
    exact overflows_of_enqueue? hstored
  · rw [if_neg (of_decide_eq_false hgranted.symm)]

/-!
# Taking
-/

theorem overflows_of_dequeue? {ring next : Ring α slots} {item : α}
    (htaken : ring.dequeue? = some (item, next)) : next.overflows = ring.overflows := by
  unfold dequeue? at htaken
  split at htaken
  · cases htaken
  · cases htaken
    rfl

/-- Taking moves the oldest elements to the front of the output and leaves the rest of both. -/
theorem popInto_eq (convert : α -> β) (output : List β) (ring : Ring α slots) :
    (popInto convert output ring).1 = min output.length ring.size ∧
      (popInto convert output ring).2.1 =
        (ring.toList.take output.length).map convert ++ output.drop ring.size ∧
      (popInto convert output ring).2.2.toList = ring.toList.drop output.length ∧
      (popInto convert output ring).2.2.overflows = ring.overflows := by
  induction output generalizing ring with
  | nil => simp [popInto]
  | cons place rest ih =>
      cases htaken : ring.dequeue? with
      | none =>
          have hsize := dequeue?_eq_none_iff.mp htaken
          have hempty : ring.toList = [] := by
            rw [← List.length_eq_zero_iff, length_toList, hsize]
          simp [popInto, htaken, hsize, hempty]
      | some taken =>
          rcases taken with ⟨item, next⟩
          have hshorter := size_of_dequeue? htaken
          have hqueue := toList_of_dequeue? htaken
          rcases ih next with ⟨hcount, hfront, hback, hdropped⟩
          simp only [popInto, htaken]
          refine ⟨?_, ?_, ?_, ?_⟩
          · rw [hcount, List.length_cons]
            lia
          · simp [hfront, hqueue, ← hshorter]
          · simp [hback, hqueue]
          · rw [hdropped, overflows_of_dequeue? htaken]

@[simp]
theorem overflows_clear (ring : Ring α slots) : ring.clear.overflows = 0 :=
  rfl

end Ring
end PeripheralBank
