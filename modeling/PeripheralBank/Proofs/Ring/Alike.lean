import PeripheralBank.Proofs.Line.Tapped

/-!
# Rings that cannot be told apart

Two rings are alike if they stand for the same queue and have dropped as many words.  Where
their heads are, and what their unfilled cells hold, then shows in nothing that a ring
answers, and every operation leaves alike rings alike.
-/

namespace PeripheralBank

namespace Ring

variable {α β : Type} {slots : Nat}

structure Alike (first second : Ring α slots) : Prop where
  toList : first.toList = second.toList
  overflows : first.overflows = second.overflows

namespace Alike

theorem refl (ring : Ring α slots) : Alike ring ring where
  toList := rfl
  overflows := rfl

theorem of_isClear {first second : Ring α slots} (hfirst : first.IsClear)
    (hsecond : second.IsClear) : Alike first second where
  toList := by
    rw [isEmpty_eq_true_iff.mp hfirst.1, isEmpty_eq_true_iff.mp hsecond.1]
  overflows := by
    rw [hfirst.2, hsecond.2]

variable {first second : Ring α slots} (halike : Alike first second)
include halike

theorem size : first.size = second.size := by
  rw [← length_toList, halike.toList, length_toList]

theorem free : first.free = second.free := by
  unfold Ring.free
  rw [halike.size]
  rfl

/-!
# Storing
-/

theorem push_fst (items : List α) : (first.push items).1 = (second.push items).1 := by
  rw [Ring.push_fst, Ring.push_fst, halike.free]

theorem push (items : List α) : Alike (first.push items).2 (second.push items).2 where
  toList := by
    rw [toList_push, toList_push, halike.toList, halike.free]
  overflows := by
    rw [overflows_push, overflows_push, halike.overflows]

theorem pushOrDrop (item : α) :
    Alike (first.pushOrDrop item).2 (second.pushOrDrop item).2 where
  toList := by
    rw [toList_pushOrDrop, toList_pushOrDrop, halike.toList, halike.free]
  overflows := by
    rw [overflows_pushOrDrop, overflows_pushOrDrop, halike.overflows, halike.free]

/-!
# Taking
-/

theorem dequeue?_eq_none (hempty : first.dequeue? = none) : second.dequeue? = none := by
  rw [dequeue?_eq_none_iff] at hempty ⊢
  rw [← halike.size, hempty]

theorem exists_dequeue? {item : α} {rest : Ring α slots}
    (hfront : first.dequeue? = some (item, rest)) :
    exists other, second.dequeue? = some (item, other) ∧ Alike rest other := by
  cases htaken : second.dequeue? with
  | none =>
      have hshorter := size_of_dequeue? hfront
      rw [dequeue?_eq_none_iff, ← halike.size] at htaken
      lia
  | some taken =>
      rcases taken with ⟨found, other⟩
      have hqueues : item :: rest.toList = found :: other.toList := by
        rw [← toList_of_dequeue? hfront, ← toList_of_dequeue? htaken, halike.toList]
      have hitem : item = found := List.head_eq_of_cons_eq hqueues
      subst hitem
      refine ⟨other, rfl, List.tail_eq_of_cons_eq hqueues, ?_⟩
      rw [overflows_of_dequeue? hfront, overflows_of_dequeue? htaken, halike.overflows]

theorem popInto_answer (convert : α -> β) (output : List β) :
    (first.popInto convert output).1 = (second.popInto convert output).1 ∧
      (first.popInto convert output).2.1 = (second.popInto convert output).2.1 := by
  rcases popInto_eq convert output first with ⟨hcount, houtput, _, _⟩
  rcases popInto_eq convert output second with ⟨hcount', houtput', _, _⟩
  constructor
  · rw [hcount, hcount', halike.size]
  · rw [houtput, houtput', halike.toList, halike.size]

theorem popInto (convert : α -> β) (output : List β) :
    Alike (first.popInto convert output).2.2 (second.popInto convert output).2.2 := by
  rcases popInto_eq convert output first with ⟨_, _, hqueue, hdropped⟩
  rcases popInto_eq convert output second with ⟨_, _, hqueue', hdropped'⟩
  constructor
  · rw [hqueue, hqueue', halike.toList]
  · rw [hdropped, hdropped', halike.overflows]

end Alike

/-!
# Moving words over a line
-/

section Lines

variable {ω : Type} [Line ω]

/-- Alike rings feed a line the same words. -/
theorem Alike.feed {first second : Ring UInt16 slots} (halike : Alike first second) (line : ω) :
    (first.feed line).1 = (second.feed line).1 ∧
      (first.feed line).2.2 = (second.feed line).2.2 ∧
      Alike (first.feed line).2.1 (second.feed line).2.1 := by
  induction first, line using feed.induct generalizing second with
  | case1 first line _ hempty =>
      rw [feed_of_empty hempty, feed_of_empty (halike.dequeue?_eq_none hempty)]
      exact ⟨rfl, rfl, halike⟩
  | case2 first line hready word rest hfront _ _ _ _ _ ih =>
      rcases halike.exists_dequeue? hfront with ⟨other, hfront', hrest⟩
      rcases ih hrest with ⟨hsent, hline, hleft⟩
      rw [feed_of_front hready hfront, feed_of_front hready hfront']
      exact ⟨congrArg (· + 1) hsent, hline, hleft⟩
  | case3 first line hblocked =>
      rw [feed_of_blocked hblocked, feed_of_blocked hblocked]
      exact ⟨rfl, rfl, halike⟩

theorem Alike.takeReceived {first second : Ring UInt16 slots} (halike : Alike first second)
    (line : ω) :
    (first.takeReceived line).1 = (second.takeReceived line).1 ∧
      (first.takeReceived line).2.2 = (second.takeReceived line).2.2 ∧
      Alike (first.takeReceived line).2.1 (second.takeReceived line).2.1 := by
  unfold Ring.takeReceived
  rcases Line.receive line with ⟨_ | word, after⟩
  · exact ⟨rfl, rfl, halike⟩
  · exact ⟨rfl, rfl, halike.pushOrDrop word⟩

end Lines
end Ring

/-!
# Both buffers of an instance
-/

namespace Buffers

variable {slots : Nat}

structure Alike (first second : Buffers slots) : Prop where
  outbound : Ring.Alike first.outbound second.outbound
  inbound : Ring.Alike first.inbound second.inbound

theorem Alike.refl (buffers : Buffers slots) : Alike buffers buffers where
  outbound := .refl buffers.outbound
  inbound := .refl buffers.inbound

/-- Clearing leaves nothing to tell buffers by, whatever they held. -/
theorem alike_clear {first second : Buffers slots} : Alike first.clear second.clear where
  outbound :=
    { toList := by rw [clear, Ring.toList_clear, clear, Ring.toList_clear], overflows := rfl }
  inbound :=
    { toList := by rw [clear, Ring.toList_clear, clear, Ring.toList_clear], overflows := rfl }

theorem Alike.exchange {ω : Type} [Line ω] {first second : Buffers slots}
    (halike : Alike first second) (line : ω) :
    (first.exchange line).1 = (second.exchange line).1 ∧
      (first.exchange line).2.2 = (second.exchange line).2.2 ∧
      Alike (first.exchange line).2.1 (second.exchange line).2.1 := by
  rcases halike.outbound.feed line with ⟨hsent, hfed, houtbound⟩
  rcases halike.inbound.takeReceived (first.outbound.feed line).2.2 with
    ⟨hreceived, hline, hinbound⟩
  rw [hfed] at hreceived hline hinbound
  simp only [Buffers.exchange, hsent, hfed]
  exact ⟨congrArg _ hreceived, hline, houtbound, hinbound⟩

end Buffers
end PeripheralBank
