import PeripheralBank.Proofs.Registry.Handling
import PeripheralBank.Proofs.Simulation.Line

/-!
# What an interrupt moves over a simulated line

A simulated line takes the oldest words of the outbound ring, as many as it has room for, and gives
the oldest word that came in.  What went out can come in again, behind all that came in before.
-/

namespace PeripheralBank
namespace SimulatedLine

/-!
# The queues of a line
-/

/-- A queue takes words until it is full. -/
theorem foldl_accept (words queue : List UInt16) :
    words.foldl accept queue = queue ++ words.take (fifoSize - queue.length) := by
  induction words generalizing queue with
  | nil => rw [List.take_nil, List.append_nil, List.foldl_nil]
  | cons word rest ih =>
      rw [List.foldl_cons, ih, accept]
      by_cases hroom : queue.length < fifoSize
      · have hleft : fifoSize - queue.length = fifoSize - (queue ++ [word]).length + 1 := by
          rw [List.length_append, List.length_singleton]
          lia
        rw [if_pos hroom, hleft, List.take_succ_cons, List.append_assoc, List.singleton_append]
      · have hfull : fifoSize - queue.length = 0 := Nat.sub_eq_zero_of_le (Nat.not_lt.mp hroom)
        rw [if_neg hroom, hfull, List.take_zero, List.take_zero]

theorem transmitAll_eq (words : List UInt16) (line : SimulatedLine) :
    Line.transmitAll words line = { line with outgoing := words.foldl accept line.outgoing } := by
  induction words generalizing line with
  | nil => rfl
  | cons word rest ih => exact ih (line.transmit word)

theorem incoming_arriveAll (words : List UInt16) (line : SimulatedLine) :
    (line.arriveAll words).incoming = words.foldl accept line.incoming := by
  unfold arriveAll
  induction words generalizing line with
  | nil => rfl
  | cons word rest ih => exact ih (line.arrive word)

theorem outgoing_arriveAll (words : List UInt16) (line : SimulatedLine) :
    (line.arriveAll words).outgoing = line.outgoing := by
  unfold arriveAll
  induction words generalizing line with
  | nil => rfl
  | cons word rest ih => exact ih (line.arrive word)

theorem outgoing_loopBack (line : SimulatedLine) : line.loopBack.2.outgoing = [] :=
  outgoing_arriveAll line.outgoing { line with outgoing := [] }

/-- What went out comes in again, as far as there is room behind what came in before. -/
theorem incoming_loopBack (line : SimulatedLine) :
    line.loopBack.2.incoming =
      line.incoming ++ line.outgoing.take (fifoSize - line.incoming.length) := by
  rw [← foldl_accept]
  exact incoming_arriveAll line.outgoing { line with outgoing := [] }

theorem receive_eq (line : SimulatedLine) :
    line.receive = (line.incoming.head?, { line with incoming := line.incoming.tail }) := by
  rcases line with ⟨depth, pending, acknowledged, outgoing, _ | ⟨word, rest⟩⟩
  · rfl
  · rfl

/-!
# Words fed to a line
-/

variable {slots : Nat}

/-- The words that a ring can feed to a line: all that it holds, or what the line has room for. -/
def taken (ring : Ring UInt16 slots) (line : SimulatedLine) : Nat :=
  min ring.size (line.depth - line.outgoing.length)

theorem transmitReady_transmitAll (ring : Ring UInt16 slots) (line : SimulatedLine) (count : Nat) :
    Line.transmitReady (Line.transmitAll (ring.toList.take count) line) =
      decide (line.outgoing.length + min (fifoSize - line.outgoing.length) (min count ring.size) <
        line.depth) := by
  rw [transmitAll_eq, foldl_accept, ← Ring.length_toList, ← List.length_take, ← List.length_take,
    ← List.length_append]
  rfl

section Fed

variable {ring rest : Ring UInt16 slots} {line after : SimulatedLine} {sent : Nat}
  (hfed : ring.Fed line sent rest after) (hdepth : line.depth ≤ fifoSize)
include hfed hdepth

theorem sent_eq_taken : sent = taken ring line := by
  have hwithin := hfed.within
  -- There was room for the last word before it went out.
  have hroom : sent ≤ line.depth - line.outgoing.length := by
    cases sent with
    | zero => exact Nat.zero_le _
    | succ count =>
        have hready := hfed.ready (Nat.lt_succ_self count)
        rw [transmitReady_transmitAll, decide_eq_true_iff] at hready
        lia
  have hstopped : sent = ring.size ∨ line.depth - line.outgoing.length ≤ sent := by
    rcases hfed.stopped with hall | hblocked
    · exact Or.inl hall
    · rw [hfed.line, transmitReady_transmitAll, decide_eq_false_iff_not] at hblocked
      lia
  unfold taken
  lia

/-- No word that was fed to a line was lost. -/
theorem queues_of_fed :
    after.depth = line.depth ∧ after.incoming = line.incoming ∧
      after.outgoing = line.outgoing ++ ring.toList.take (taken ring line) := by
  have hsent := sent_eq_taken hfed hdepth
  have hall : (ring.toList.take sent).take (fifoSize - line.outgoing.length) =
      ring.toList.take sent := by
    unfold taken at hsent
    rw [List.take_take]
    exact congrArg (ring.toList.take ·) (Nat.min_eq_right (by lia))
  rw [hfed.line, transmitAll_eq, foldl_accept, hall, hsent]
  exact ⟨rfl, rfl, rfl⟩

end Fed

/-!
# One interrupt
-/

/-- What an exchange makes of the buffers of an instance and of a simulated line. -/
structure Exchanged (buffers : Buffers slots) (line : SimulatedLine) (moved : Buffers slots)
    (after : SimulatedLine) : Prop where
  outbound : moved.outbound.toList = buffers.outbound.toList.drop (taken buffers.outbound line)
  inbound : buffers.inbound.Took line.incoming.head? moved.inbound
  depth : after.depth = line.depth
  outgoing : after.outgoing =
    line.outgoing ++ buffers.outbound.toList.take (taken buffers.outbound line)
  incoming : after.incoming = line.incoming.tail

end SimulatedLine

/-- A ring with room for what was received drops nothing. -/
theorem Ring.Took.of_room {slots : Nat} {ring after : Ring UInt16 slots}
    {received : Option UInt16} (htook : ring.Took received after)
    (hroom : ring.size + received.toList.length ≤ ring.capacity) :
    after.toList = ring.toList ++ received.toList ∧ after.overflows = ring.overflows := by
  rcases Nat.eq_zero_or_pos ring.free with hfull | hfree
  · have hnothing : received.toList = [] := by
      rw [← List.length_eq_zero_iff]
      have hwhole := ring.size_add_free
      lia
    rcases htook.dropped hfull with ⟨hqueue, hdropped⟩
    rw [hqueue, hdropped, hnothing, List.append_nil]
    exact ⟨rfl, rfl⟩
  · exact htook.stored hfree

/-- An interrupt of a running instance with buffers and without a callback exchanges words with the
line, and leaves nothing else changed. -/
theorem Registry.exchanged_interrupt {η : Type} [Hardware η] {κ : Type} {n slots : Nat}
    {registry : Registry η κ n slots} {i : Fin n} {buffers : Buffers slots} {line : SimulatedLine}
    (invoke : κ -> SimulatedLine -> Registry η κ n slots -> SimulatedLine × Registry η κ n slots)
    (hruns : (registry.slotAt i).state = .enabled)
    (hunbound : (registry.slotAt i).callback = none)
    (hstored : registry.buffersAt? i = some buffers)
    (hdepth : line.depth ≤ SimulatedLine.fifoSize) :
    exists moved after,
      registry.interrupt invoke i line =
        (.ok (.transfer (SimulatedLine.taken buffers.outbound line) line.incoming.head?.isSome),
          after, (registry.setBuffers i moved).setInService i false) ∧
        SimulatedLine.Exchanged buffers line moved after := by
  rcases registry.interrupt_handled invoke i line with
    ⟨service, after, final, deeds, hanswer, _, hhandled, _⟩
  cases hhandled with
  | spurious hrests => exact absurd hruns hrests
  | callback _ hbound _ =>
      rw [hunbound] at hbound
      cases hbound
  | unbuffered _ _ hbare =>
      rw [hstored] at hbare
      cases hbare
  | @exchanged found moved sent fed _ received _ _ hfound hfed hreceived htook =>
      obtain rfl := Option.some.inj (hstored.symm.trans hfound)
      have hsent := SimulatedLine.sent_eq_taken hfed hdepth
      rcases SimulatedLine.queues_of_fed hfed hdepth with ⟨hsame, hincoming, houtgoing⟩
      rcases Prod.mk.inj ((SimulatedLine.receive_eq fed).symm.trans hreceived) with ⟨rfl, rfl⟩
      refine ⟨moved, { fed with incoming := fed.incoming.tail }, ?_, ?_⟩
      · rw [hanswer, hsent, hincoming]
        rfl
      · exact
          { outbound := hsent ▸ hfed.queue
            inbound := (congrArg List.head? hincoming) ▸ htook
            depth := hsame
            outgoing := houtgoing
            incoming := congrArg List.tail hincoming }

end PeripheralBank
