import PeripheralBank.Registry.Interrupt
import PeripheralBank.Ring.Queue

/-!
# Lines with a tap

A tapped line notes the words that an interrupt gives to it and takes from it.  Tapping is
invisible: a map that every operation of a line commutes with carries an interrupt over to
the other line, and forgetting the tap is such a map.
-/

namespace PeripheralBank

variable {ω ω' : Type} [Line ω] [Line ω']

/-!
# One turn of the feed
-/

namespace Ring

variable {slots : Nat}

theorem feed_of_blocked {ring : Ring UInt16 slots} {line : ω}
    (hblocked : ¬ Line.transmitReady line = true) : ring.feed line = (0, ring, line) := by
  unfold feed
  rw [if_neg hblocked]

theorem feed_of_empty {ring : Ring UInt16 slots} (hempty : ring.dequeue? = none) (line : ω) :
    ring.feed line = (0, ring, line) := by
  unfold feed
  split
  · split
    · rfl
    · rename_i hsome
      rw [hempty] at hsome
      cases hsome
  · rfl

theorem feed_of_front {ring rest : Ring UInt16 slots} {word : UInt16} {line : ω}
    (hready : Line.transmitReady line = true) (hfront : ring.dequeue? = some (word, rest)) :
    ring.feed line = (rest.feed (Line.transmit word line)).map (· + 1) id := by
  rw [feed, if_pos hready]
  split
  · rename_i hnone
    rw [hfront] at hnone
    cases hnone
  · rename_i hsome
    rw [hfront] at hsome
    cases hsome
    rfl

/-- What each word keeps that goes out while the line has room, the whole feed keeps. -/
theorem feed_preserves {P : Ring UInt16 slots -> ω -> Prop}
    (hstep : forall {ring rest : Ring UInt16 slots} {word : UInt16} {line : ω},
      Line.transmitReady line = true -> ring.dequeue? = some (word, rest) ->
        P ring line -> P rest (Line.transmit word line))
    (ring : Ring UInt16 slots) (line : ω) (hstart : P ring line) :
    P (ring.feed line).2.1 (ring.feed line).2.2 := by
  induction ring, line using feed.induct with
  | case1 ring line _ hempty =>
      rw [feed_of_empty hempty line]
      exact hstart
  | case2 ring line hready word rest hfront _ _ _ _ _ ih =>
      rw [feed_of_front hready hfront]
      exact ih (hstep hready hfront hstart)
  | case3 ring line hblocked =>
      rw [feed_of_blocked hblocked]
      exact hstart

end Ring

/-!
# Maps between lines
-/

structure Line.Hom (f : ω -> ω') : Prop where
  acknowledge (line : ω) : Line.acknowledge (f line) = f (Line.acknowledge line)
  transmitReady (line : ω) : Line.transmitReady (f line) = Line.transmitReady line
  transmit (word : UInt16) (line : ω) :
    Line.transmit word (f line) = f (Line.transmit word line)
  receive (line : ω) : Line.receive (f line) = (Line.receive line).map id f

theorem Line.hom_fst {σ : Type} : Line.Hom (Prod.fst : ω × σ -> ω) where
  acknowledge _ := rfl
  transmitReady _ := rfl
  transmit _ _ := rfl
  receive _ := rfl

theorem Line.Hom.prodMap {f : ω -> ω'} (hf : Line.Hom f) {σ : Type} :
    Line.Hom (Prod.map f id : ω × σ -> ω' × σ) where
  acknowledge state := Prod.ext (hf.acknowledge state.1) rfl
  transmitReady state := hf.transmitReady state.1
  transmit word state := Prod.ext (hf.transmit word state.1) rfl
  receive state := by
    show ((Line.receive (f state.1)).1, (Line.receive (f state.1)).2, state.2) = _
    rw [hf.receive]
    rfl

section Hom

variable {f : ω -> ω'} (hf : Line.Hom f) {slots : Nat}
include hf

theorem Ring.feed_hom (ring : Ring UInt16 slots) (line : ω) :
    ring.feed (f line) = (ring.feed line).map id (·.map id f) := by
  induction ring, line using Ring.feed.induct with
  | case1 ring line _ hempty =>
      rw [feed_of_empty hempty line, feed_of_empty hempty (f line)]
      rfl
  | case2 ring line hready word rest hfront _ _ _ _ _ ih =>
      have hready' : Line.transmitReady (f line) = true := by rw [hf.transmitReady, hready]
      rw [feed_of_front hready hfront, feed_of_front hready' hfront, hf.transmit, ih]
      rfl
  | case3 ring line hblocked =>
      have hblocked' : ¬ Line.transmitReady (f line) = true := by rwa [hf.transmitReady]
      rw [feed_of_blocked hblocked, feed_of_blocked hblocked']
      rfl

theorem Ring.takeReceived_hom (ring : Ring UInt16 slots) (line : ω) :
    ring.takeReceived (f line) = (ring.takeReceived line).map id (·.map id f) := by
  unfold Ring.takeReceived
  rw [hf.receive]
  rcases Line.receive line with ⟨_ | word, line⟩
  · rfl
  · rfl

theorem Buffers.exchange_hom (buffers : Buffers slots) (line : ω) :
    buffers.exchange (f line) = (buffers.exchange line).map id (·.map id f) := by
  simp only [Buffers.exchange, Ring.feed_hom hf, Ring.takeReceived_hom hf, Prod.map, id]

variable {η : Type} [Hardware η] {κ : Type} {n : Nat}
  {invoke : κ -> ω -> Registry η κ n slots -> ω × Registry η κ n slots}
  {invoke' : κ -> ω' -> Registry η κ n slots -> ω' × Registry η κ n slots}

section Interrupts

variable (hinvoke : forall callback line registry,
  invoke' callback (f line) registry = (invoke callback line registry).map f id)
include hinvoke

theorem Registry.serve_hom (registry : Registry η κ n slots) (i : Fin n) (line : ω) :
    registry.serve invoke' i (f line) = (registry.serve invoke i line).map id (·.map f id) := by
  unfold Registry.serve
  cases (registry.slotAt i).callback with
  | some callback =>
      simp only [hinvoke]
      rfl
  | none =>
      cases registry.buffersAt? i with
      | none => rfl
      | some storage =>
          simp only [Buffers.exchange_hom hf]
          rfl

/-- An interrupt is carried over to the other line when its callbacks are. -/
theorem Registry.interrupt_hom (registry : Registry η κ n slots) (index : Nat) (line : ω) :
    registry.interrupt invoke' index (f line) =
      (registry.interrupt invoke index line).map id (·.map f id) := by
  unfold Registry.interrupt
  by_cases hin : index < n
  · rw [dif_pos hin, dif_pos hin]
    by_cases hruns : (registry.slotAt ⟨index, hin⟩).state = .enabled
    · simp only [if_pos hruns, hf.acknowledge, Registry.serve_hom hf hinvoke]
      rfl
    · simp only [if_neg hruns, hf.acknowledge]
      rfl
  · rw [dif_neg hin, dif_neg hin]
    rfl

end Interrupts

end Hom

/-!
# The tap
-/

/-- A line, and the words that it was given and that were taken from it, oldest first. -/
structure Tapped (ω : Type) where
  line : ω
  given : List UInt16 := []
  taken : List UInt16 := []

namespace Tapped

instance : Line (Tapped ω) where
  acknowledge tapped := { tapped with line := Line.acknowledge tapped.line }
  transmitReady tapped := Line.transmitReady tapped.line
  transmit word tapped :=
    { tapped with line := Line.transmit word tapped.line, given := tapped.given ++ [word] }
  receive tapped :=
    let (word, line) := Line.receive tapped.line
    (word, { tapped with line, taken := tapped.taken ++ word.toList })

/-- A line under a new tap, once its flag is acknowledged. -/
def acknowledged (line : ω) : Tapped ω :=
  { line := Line.acknowledge line }

theorem hom_line : Line.Hom (Tapped.line : Tapped ω -> ω) where
  acknowledge _ := rfl
  transmitReady _ := rfl
  transmit _ _ := rfl
  receive _ := rfl

variable {slots : Nat}

/-- The words that leave a ring are the words that the line is given. -/
theorem toList_feed (ring : Ring UInt16 slots) (tapped : Tapped ω) :
    exists words, ring.toList = words ++ (ring.feed tapped).2.1.toList ∧
      (ring.feed tapped).2.2.given = tapped.given ++ words ∧
      (ring.feed tapped).2.2.taken = tapped.taken := by
  refine Ring.feed_preserves
    (P := fun rest (after : Tapped ω) => exists words, ring.toList = words ++ rest.toList ∧
      after.given = tapped.given ++ words ∧ after.taken = tapped.taken) ?_
    ring tapped ⟨[], rfl, (List.append_nil _).symm, rfl⟩
  rintro now rest word after _ hfront ⟨words, hqueue, hgiven, htaken⟩
  refine ⟨words ++ [word], ?_, ?_, htaken⟩
  · rw [hqueue, Ring.toList_of_dequeue? hfront, List.append_assoc, List.singleton_append]
  · show after.given ++ [word] = _
    rw [hgiven, List.append_assoc]

/-- What is received is appended to a ring with room, and else dropped and counted. -/
theorem toList_takeReceived (ring : Ring UInt16 slots) (tapped : Tapped ω) :
    exists received : List UInt16,
      (ring.takeReceived tapped).2.2.taken = tapped.taken ++ received ∧
      (ring.takeReceived tapped).2.2.given = tapped.given ∧
      (ring.takeReceived tapped).2.1.toList =
        ring.toList ++ (if ring.isFull then [] else received) ∧
      (ring.takeReceived tapped).2.1.overflows =
        ring.overflows + (if ring.isFull then received.length else 0) := by
  refine ⟨(Line.receive tapped.line).1.toList, ?_⟩
  cases hreceived : Line.receive tapped.line with
  | mk received line =>
      have htapped : Line.receive tapped =
          (received, { tapped with line, taken := tapped.taken ++ received.toList }) := by
        show ((Line.receive tapped.line).1, ({ tapped with
          line := (Line.receive tapped.line).2
          taken := tapped.taken ++ (Line.receive tapped.line).1.toList } : Tapped ω)) = _
        rw [hreceived]
      unfold Ring.takeReceived
      cases received with
      | none => simp [htapped]
      | some word =>
          simp only [htapped, Ring.toList_pushOrDrop, Ring.overflows_pushOrDrop,
            Ring.isFull_eq_true_iff, Nat.pos_iff_ne_zero]
          by_cases hfull : ring.free = 0
          · simp [hfull]
          · simp [hfull]

/-- What an exchange does to the buffers, by the words that the tap saw. -/
theorem toList_exchange (buffers : Buffers slots) (line : ω) :
    let exchanged := buffers.exchange (acknowledged line)
    buffers.outbound.toList = exchanged.2.2.given ++ exchanged.2.1.outbound.toList ∧
      exchanged.2.1.inbound.toList =
        buffers.inbound.toList ++ (if buffers.inbound.isFull then [] else exchanged.2.2.taken) ∧
      exchanged.2.1.inbound.overflows =
        buffers.inbound.overflows +
          (if buffers.inbound.isFull then exchanged.2.2.taken.length else 0) := by
  rcases toList_feed buffers.outbound (acknowledged line) with ⟨words, hqueue, hfed, hheard⟩
  rcases toList_takeReceived buffers.inbound
    (buffers.outbound.feed (acknowledged line)).2.2 with
    ⟨received, htaken, hgiven, hstored, hcounted⟩
  have hgiven' : (buffers.exchange (acknowledged line)).2.2.given = words :=
    hgiven.trans hfed
  have htaken' : (buffers.exchange (acknowledged line)).2.2.taken = received := by
    rw [hheard] at htaken
    exact htaken
  intro exchanged
  refine ⟨?_, ?_, ?_⟩
  · rw [hgiven']
    exact hqueue
  · rw [htaken']
    exact hstored
  · rw [htaken']
    exact hcounted

/-- Where a line has room, the oldest word that waits is the first that it is given. -/
theorem given_feed_of_front {ring : Ring UInt16 slots} {tapped : Tapped ω} {word : UInt16}
    {words : List UInt16} (hready : Line.transmitReady tapped = true)
    (hqueue : ring.toList = word :: words) :
    tapped.given ++ [word] <+: (ring.feed tapped).2.2.given := by
  cases hfront : ring.dequeue? with
  | none =>
      have hempty := Ring.dequeue?_eq_none_iff.mp hfront
      rw [← Ring.length_toList, hqueue] at hempty
      cases hempty
  | some front =>
      rcases front with ⟨item, rest⟩
      rw [Ring.toList_of_dequeue? hfront] at hqueue
      cases hqueue
      rcases toList_feed rest (Line.transmit word tapped) with ⟨later, _, hgiven, _⟩
      rw [Ring.feed_of_front hready hfront]
      exact ⟨later, hgiven.symm⟩

theorem given_exchange_of_front {buffers : Buffers slots} {line : ω} {word : UInt16}
    {words : List UInt16} (hready : Line.transmitReady (Line.acknowledge line) = true)
    (hqueue : buffers.outbound.toList = word :: words) :
    [word] <+: (buffers.exchange (acknowledged line)).2.2.given := by
  rcases toList_takeReceived buffers.inbound
    (buffers.outbound.feed (acknowledged line)).2.2 with ⟨_, _, hgiven, _⟩
  have hready' : Line.transmitReady (acknowledged line) = true := hready
  have hfed := given_feed_of_front hready' hqueue
  rw [← hgiven] at hfed
  exact hfed

end Tapped
end PeripheralBank
