import PeripheralBank.Ring.Place

/-!
# Ring buffers

A ring of some slots is a bounded queue: elements are stored at the tail and taken at the head, both
moving around a circle of cells.  It is full when one more step of the tail would meet the head, so
one slot is never used.  The ring also counts the elements that were dropped for lack of room.
`toList` is the queue that a ring stands for.
-/

namespace PeripheralBank

/-- A bounded queue in a circle of cells.  The cells from the head up to the tail are filled; what
the other cells hold is of no account. -/
structure Ring (α : Type) (slots : Nat) where
  cells : Vector (Option α) slots
  head : Fin slots
  tail : Fin slots
  /-- The elements dropped since the last clearing: the exact number, where a counter of one word
  would come round to zero after a full word of drops. -/
  overflows : Nat
  filled : forall step, step < Ring.gap head tail -> (cells[Ring.place head step]).isSome

namespace Ring

variable {α β : Type} {slots : Nat}

/-- The ring that holds nothing.  A ring needs at least one slot. -/
def empty : Ring α (slots + 1) where
  cells := Vector.replicate (slots + 1) none
  head := ⟨0, Nat.succ_pos slots⟩
  tail := ⟨0, Nat.succ_pos slots⟩
  overflows := 0
  filled := by simp

/-!
# Observations
-/

def size (ring : Ring α slots) : Nat :=
  gap ring.head ring.tail

/-- The number of elements that fit: one slot is never used. -/
def capacity (_ring : Ring α slots) : Nat :=
  slots - 1

def free (ring : Ring α slots) : Nat :=
  ring.capacity - ring.size

def isEmpty (ring : Ring α slots) : Bool :=
  ring.head == ring.tail

def isFull (ring : Ring α slots) : Bool :=
  place ring.tail 1 == ring.head

/-- The elements held, oldest first. -/
def toList (ring : Ring α slots) : List α :=
  (List.range ring.size).filterMap fun step => ring.cells[place ring.head step]

/-!
# One element
-/

def enqueue? (ring : Ring α slots) (item : α) : Option (Ring α slots) :=
  if hfull : place ring.tail 1 = ring.head then
    none
  else
    some
      { ring with
        cells := ring.cells.set ring.tail (some item)
        tail := place ring.tail 1
        filled := by
          intro step hstep
          rw [gap_place_one hfull] at hstep
          by_cases hlast : place ring.head step = ring.tail
          · simp [hlast]
          · have hheld : step < gap ring.head ring.tail := by
              have hearlier : step ≠ gap ring.head ring.tail := by
                rintro rfl
                exact hlast (place_gap ring.head ring.tail)
              lia
            have hother : ring.tail.val ≠ (place ring.head step).val :=
              fun hsame => hlast (Fin.ext hsame.symm)
            simpa [Vector.getElem_set, hother] using ring.filled step hheld }

def dequeue? (ring : Ring α slots) : Option (α × Ring α slots) :=
  if hempty : ring.head = ring.tail then
    none
  else
    let item := (ring.cells[ring.head]).get (by
      have hheld := ring.filled 0 (Nat.pos_of_ne_zero (mt gap_eq_zero_iff.mp hempty))
      simpa using hheld)
    some
      (item,
        { ring with
          head := place ring.head 1
          filled := by
            intro step hstep
            have hshorter := gap_of_place_one hempty
            have hheld := ring.filled (1 + step) (by lia)
            simpa [place_place] using hheld })

/-!
# Several elements
-/

/-- Stores elements one by one until one finds no room, and counts the stored ones. -/
def storeAll : List α -> Ring α slots -> Nat × Ring α slots
  | [], ring => (0, ring)
  | item :: rest, ring =>
      match ring.enqueue? item with
      | none => (0, ring)
      | some ring =>
          let (stored, ring) := storeAll rest ring
          (stored + 1, ring)

/-- Stores as many leading items as there is room for, and counts them.  What does not fit is left
to the caller and is no overflow. -/
def push (items : List α) (ring : Ring α slots) : Nat × Ring α slots :=
  storeAll (items.take ring.free) ring

/-- Stores an item, or drops it and counts an overflow.  Says whether it was stored. -/
def pushOrDrop (item : α) (ring : Ring α slots) : Bool × Ring α slots :=
  match ring.enqueue? item with
  | some ring => (true, ring)
  | none => (false, { ring with overflows := ring.overflows + 1 })

/-- Takes elements into the front of an output until the ring is empty or the output is used up.
The result is the number taken, the output and the ring; `convert` says how an element is
written. -/
def popInto (convert : α -> β) : List β -> Ring α slots -> Nat × List β × Ring α slots
  | [], ring => (0, [], ring)
  | place :: rest, ring =>
      match ring.dequeue? with
      | none => (0, place :: rest, ring)
      | some (item, ring) =>
          let (taken, rest, ring) := popInto convert rest ring
          (taken + 1, convert item :: rest, ring)

def pop (output : List α) (ring : Ring α slots) : Nat × List α × Ring α slots :=
  popInto id output ring

/-- Discards what is held and forgets the overflows. -/
def clear (ring : Ring α slots) : Ring α slots :=
  { ring with
    head := ring.tail
    overflows := 0
    filled := by simp }

/-- Whether nothing is held and nothing was dropped. -/
def IsClear (ring : Ring α slots) : Prop :=
  ring.isEmpty = true ∧ ring.overflows = 0

/-- Taking an element leaves one less, so whoever takes until nothing is left comes to an end. -/
theorem size_of_dequeue? {ring next : Ring α slots} {item : α}
    (htaken : ring.dequeue? = some (item, next)) : next.size + 1 = ring.size := by
  unfold dequeue? at htaken
  split at htaken
  · cases htaken
  · rename_i hsome
    cases htaken
    exact gap_of_place_one hsome

end Ring
end PeripheralBank
