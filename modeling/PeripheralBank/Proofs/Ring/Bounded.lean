import PeripheralBank.Ring.Queue

/-!
# Rings are bounded queues

Any sequence of operations on a ring is answered as a queue with a fixed capacity would answer it
that is kept as a list.  One step of the ring is one step of the list that it stands for, whatever
place its head and tail have reached, and so is a whole run.

It makes no difference whether the ring is asked or one of its two ends: both work on the same
cells, and the end that stores and the end that takes see the same head and tail.
-/

namespace PeripheralBank

variable {α : Type} {slots : Nat}

/-!
# Operations and answers
-/

inductive RingStep (α : Type) where
  | push (items : List α)
  | pushOrDrop (item : α)
  | pop (output : List α)
  | popOne
  | clear

inductive RingAnswer (α : Type) where
  | count (value : Nat)
  | stored (value : Bool)
  /-- How many elements were taken, and the output with them in its front. -/
  | output (taken : Nat) (output : List α)
  | item (item : Option α)
  | done
deriving DecidableEq

namespace RingStep

def run (step : RingStep α) (ring : Ring α slots) : RingAnswer α × Ring α slots :=
  match step with
  | push items => (ring.push items).map .count id
  | pushOrDrop item => (ring.pushOrDrop item).map .stored id
  | pop output =>
      let (taken, output, ring) := ring.pop output
      (.output taken output, ring)
  | popOne =>
      match ring.dequeue? with
      | none => (.item none, ring)
      | some (item, ring) => (.item (some item), ring)
  | clear => (.done, ring.clear)

def runAll : List (RingStep α) -> Ring α slots -> List (RingAnswer α) × Ring α slots
  | [], ring => ([], ring)
  | step :: rest, ring =>
      let (answer, ring) := step.run ring
      let (answers, ring) := runAll rest ring
      (answer :: answers, ring)

/-!
# The bounded queue
-/

/-- The answer of a queue with room for `capacity` items, and the queue that it leaves. -/
def onQueue (capacity : Nat) (queue : List α) : RingStep α -> RingAnswer α × List α
  | push items =>
      (.count (min items.length (capacity - queue.length)),
        queue ++ items.take (capacity - queue.length))
  | pushOrDrop item =>
      if queue.length < capacity then (.stored true, queue ++ [item]) else (.stored false, queue)
  | pop output =>
      (.output (min output.length queue.length)
        (queue.take output.length ++ output.drop queue.length), queue.drop output.length)
  | popOne => (.item queue.head?, queue.tail)
  | clear => (.done, [])

def onQueueAll (capacity : Nat) : List (RingStep α) -> List α -> List (RingAnswer α) × List α
  | [], queue => ([], queue)
  | step :: rest, queue =>
      let (answer, queue) := step.onQueue capacity queue
      let (answers, queue) := onQueueAll capacity rest queue
      (answer :: answers, queue)

/-- The number of items turned away since the last clearing, after one more answer. -/
def countRefusal (refused : Nat) : RingStep α × RingAnswer α -> Nat
  | (clear, _) => 0
  | (pushOrDrop _, .stored false) => refused + 1
  | _ => refused

/-- The number of items turned away since the last clearing. -/
def refusals (answered : List (RingStep α × RingAnswer α)) : Nat :=
  answered.foldl countRefusal 0

/-!
# One step
-/

theorem run_popOne (ring : Ring α slots) :
    (popOne.run ring).1 = .item ring.toList.head? ∧
      (popOne.run ring).2.toList = ring.toList.tail ∧
      (popOne.run ring).2.overflows = ring.overflows := by
  cases hfront : ring.dequeue? with
  | none =>
      have hempty : ring.toList = [] := by
        rw [← List.length_eq_zero_iff, Ring.length_toList, Ring.dequeue?_eq_none_iff.mp hfront]
      simp only [run, hfront, hempty]
      exact ⟨rfl, rfl, trivial⟩
  | some taken =>
      rcases taken with ⟨item, rest⟩
      simp only [run, hfront, Ring.toList_of_dequeue? hfront]
      exact ⟨rfl, rfl, Ring.overflows_of_dequeue? hfront⟩

/-- A step of the ring is a step of the queue that the ring stands for. -/
theorem run_eq_onQueue (step : RingStep α) (ring : Ring α slots) :
    (step.run ring).1 = (step.onQueue ring.capacity ring.toList).1 ∧
      (step.run ring).2.toList = (step.onQueue ring.capacity ring.toList).2 := by
  have hroom : ring.capacity - ring.toList.length = ring.free := by
    rw [Ring.length_toList]
    rfl
  cases step with
  | push items =>
      rw [onQueue, hroom]
      exact ⟨congrArg RingAnswer.count (ring.push_fst items), ring.toList_push items⟩
  | pushOrDrop item =>
      have hfits : ring.toList.length < ring.capacity ↔ 0 < ring.free := by
        rw [← hroom]
        exact Nat.sub_pos_iff_lt.symm
      simp only [run, onQueue, hfits, Prod.map_fst, Prod.map_snd, id, Ring.pushOrDrop_fst,
        Ring.toList_pushOrDrop]
      split
      · rename_i hfree
        exact ⟨congrArg RingAnswer.stored (decide_eq_true hfree), rfl⟩
      · rename_i hfull
        exact ⟨congrArg RingAnswer.stored (decide_eq_false hfull), rfl⟩
  | pop output =>
      rcases ring.popInto_eq id output with ⟨hcount, houtput, hrest, _⟩
      simp only [run, onQueue, Ring.pop, hcount, houtput, hrest, Ring.length_toList, List.map_id,
        and_self]
  | popOne => exact ⟨(run_popOne ring).1, (run_popOne ring).2.1⟩
  | clear => exact ⟨rfl, Ring.toList_clear ring⟩

/-- Only an item that was offered and turned away counts as an overflow. -/
theorem overflows_run (step : RingStep α) (ring : Ring α slots) :
    (step.run ring).2.overflows = countRefusal ring.overflows (step, (step.run ring).1) := by
  cases step with
  | push items => exact ring.overflows_push items
  | pushOrDrop item =>
      simp only [run, Prod.map_fst, Prod.map_snd, id, Ring.pushOrDrop_fst,
        Ring.overflows_pushOrDrop]
      split
      · rename_i hfree
        rw [decide_eq_true hfree]
        rfl
      · rename_i hfull
        rw [decide_eq_false hfull]
        rfl
  | pop output => exact (ring.popInto_eq id output).2.2.2
  | popOne => exact (run_popOne ring).2.2
  | clear => rfl

/-!
# Runs
-/

theorem runAll_eq_onQueueAll (steps : List (RingStep α)) (ring : Ring α slots) :
    (runAll steps ring).1 = (onQueueAll ring.capacity steps ring.toList).1 ∧
      (runAll steps ring).2.toList = (onQueueAll ring.capacity steps ring.toList).2 := by
  induction steps generalizing ring with
  | nil => exact ⟨rfl, rfl⟩
  | cons step rest ih =>
      rcases step.run_eq_onQueue ring with ⟨hanswer, hqueue⟩
      rcases ih (step.run ring).2 with ⟨hanswers, hfinal⟩
      rw [hqueue] at hanswers hfinal
      exact ⟨List.cons_eq_cons.mpr ⟨hanswer, hanswers⟩, hfinal⟩

theorem overflows_runAll (steps : List (RingStep α)) (ring : Ring α slots) :
    (runAll steps ring).2.overflows =
      (steps.zip (runAll steps ring).1).foldl countRefusal ring.overflows := by
  induction steps generalizing ring with
  | nil => rfl
  | cons step rest ih =>
      have hrest := ih (step.run ring).2
      rw [step.overflows_run ring] at hrest
      exact hrest

/-- A new ring with a slot more than `capacity` is a queue with room for `capacity` items.  Whatever
is done to it, in whatever order, it answers as that queue would, holds what the queue would hold,
and counts as overflows the items that it turned away since it was last cleared.  The number is
exact, so it is what a counter of one word shows as long as fewer than a full word of items were
turned away in between. -/
theorem ring_is_bounded_queue (capacity : Nat) (steps : List (RingStep α)) :
    let start : Ring α (capacity + 1) := .empty
    let final := (runAll steps start).2
    let queue := (onQueueAll capacity steps []).2
    (runAll steps start).1 = (onQueueAll capacity steps []).1 ∧
      final.toList = queue ∧ final.size = queue.length ∧
      final.free = capacity - queue.length ∧ final.size + final.free = capacity ∧
      (final.isEmpty = true ↔ queue = []) ∧ (final.isFull = true ↔ queue.length = capacity) ∧
      final.overflows = refusals (steps.zip (runAll steps start).1) := by
  intro start final queue
  rcases runAll_eq_onQueueAll steps start with ⟨hanswers, hheld⟩
  rw [Ring.toList_empty] at hanswers hheld
  have hsize : final.size = queue.length := by
    rw [← Ring.length_toList, hheld]
    rfl
  have hfree : final.free = capacity - queue.length := by
    rw [← hsize]
    rfl
  have hwhole : final.size + final.free = capacity := final.size_add_free
  refine ⟨hanswers, hheld, hsize, hfree, hwhole, ?_, ?_, overflows_runAll steps start⟩
  · rw [Ring.isEmpty_eq_true_iff, hheld]
    rfl
  · rw [Ring.isFull_eq_true_iff]
    lia

/-- A ring of three slots, taken around its end twice: of three items the third finds no room. -/
example :
    (runAll [.push [1, 2, 3], .pushOrDrop 4, .pop [0], .push [5], .pop [0, 0, 0], .popOne]
      (.empty : Ring Nat 3)).1 =
      [.count 2, .stored false, .output 1 [1], .count 1, .output 2 [2, 5, 0], .item none] := by
  decide

end RingStep
end PeripheralBank
