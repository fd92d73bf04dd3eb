import PeripheralBank.Proofs.Line.Tapped
import PeripheralBank.Simulation.LineStep

/-!
# What simulated lines do not drop

A simulated line never claims room that its queue does not have.  So every word that an
interrupt gives to it goes out, and in order.
-/

namespace PeripheralBank
namespace SimulatedLine

/-- A line as it was made, or after more was done to it. -/
inductive Made : SimulatedLine -> Prop where
  | ofDepth (depth : Nat) : Made (.ofDepth depth)
  | used (step : LineStep) {line : SimulatedLine} (hmade : Made line) : Made (step.run line).2

/-!
# The depth of a line
-/

theorem depth_arriveAll (words : List UInt16) (line : SimulatedLine) :
    (line.arriveAll words).depth = line.depth := by
  unfold arriveAll
  induction words generalizing line with
  | nil => rfl
  | cons word rest ih => exact ih (line.arrive word)

theorem depth_transmitAll (words : List UInt16) (line : SimulatedLine) :
    (words.foldl (fun line word => line.transmit word) line).depth = line.depth := by
  induction words generalizing line with
  | nil => rfl
  | cons word rest ih => exact ih (line.transmit word)

theorem depth_receive (line : SimulatedLine) : line.receive.2.depth = line.depth := by
  unfold receive
  split
  · rfl
  · rfl

theorem depth_run (step : LineStep) (line : SimulatedLine) :
    (step.run line).2.depth = line.depth := by
  cases step with
  | raise => rfl
  | arrive words => exact depth_arriveAll words line
  | drain => rfl
  | drainBytes => rfl
  | loopBack => exact depth_arriveAll _ _
  | inspect => rfl
  | acknowledge => rfl
  | transmit words => exact depth_transmitAll words line
  | receive => exact depth_receive line

/-- However a line is used, it claims no more room than its queue has. -/
theorem depth_le_of_made {line : SimulatedLine} (hmade : line.Made) :
    line.depth ≤ fifoSize := by
  induction hmade with
  | ofDepth depth => exact Nat.min_le_right depth fifoSize
  | used step hmade ih =>
      rw [depth_run]
      exact ih

/-!
# Words given to a line
-/

theorem outgoing_transmit {line : SimulatedLine} (hdepth : line.depth ≤ fifoSize)
    (hready : Line.transmitReady line = true) (word : UInt16) :
    (line.transmit word).outgoing = line.outgoing ++ [word] := by
  have hroom : line.outgoing.length < line.depth := of_decide_eq_true hready
  exact if_pos (Nat.lt_of_lt_of_le hroom hdepth)

variable {slots : Nat}

theorem made_feed (ring : Ring UInt16 slots) {line : SimulatedLine} (hmade : line.Made) :
    (ring.feed line).2.2.Made :=
  Ring.feed_preserves (P := fun _ line => line.Made)
    (fun _ _ hbefore => hbefore.used (.transmit [_])) ring line hmade

theorem line_takeReceived (ring : Ring UInt16 slots) (line : SimulatedLine) :
    (ring.takeReceived line).2.2 = line.receive.2 := by
  rcases line with ⟨depth, pending, acknowledged, outgoing, _ | ⟨word, rest⟩⟩
  · rfl
  · rfl

/-- An exchange does to a line only what can be done to it anyway. -/
theorem made_exchange (buffers : Buffers slots) {line : SimulatedLine} (hmade : line.Made) :
    (buffers.exchange (Tapped.acknowledged line)).2.2.line.Made := by
  have hfed := made_feed buffers.outbound (hmade.used .acknowledge)
  have huntapped : (buffers.exchange (Line.acknowledge line)).2.2 =
      (buffers.exchange (Tapped.acknowledged line)).2.2.line :=
    congrArg (·.2.2) (buffers.exchange_hom Tapped.hom_line (.acknowledged line))
  have hline : (buffers.exchange (Line.acknowledge line)).2.2 =
      (buffers.outbound.feed (Line.acknowledge line)).2.2.receive.2 :=
    line_takeReceived buffers.inbound _
  rw [← huntapped, hline]
  exact hfed.used .receive

theorem outgoing_feed (ring : Ring UInt16 slots) (tapped : Tapped SimulatedLine)
    (hdepth : tapped.line.depth ≤ fifoSize) :
    exists words, (ring.feed tapped).2.2.given = tapped.given ++ words ∧
      (ring.feed tapped).2.2.line.outgoing = tapped.line.outgoing ++ words := by
  have hfed := Ring.feed_preserves
    (P := fun _ (after : Tapped SimulatedLine) => after.line.depth ≤ fifoSize ∧
      exists words, after.given = tapped.given ++ words ∧
        after.line.outgoing = tapped.line.outgoing ++ words) ?_ ring tapped
    ⟨hdepth, [], (List.append_nil _).symm, (List.append_nil _).symm⟩
  · exact hfed.2
  · rintro now rest word after hready _ ⟨hroom, words, hgiven, hout⟩
    have hsent := outgoing_transmit hroom hready word
    refine ⟨hroom, words ++ [word], ?_, ?_⟩
    · show after.given ++ [word] = _
      rw [hgiven, List.append_assoc]
    · show (after.line.transmit word).outgoing = _
      rw [hsent, hout, List.append_assoc]

theorem outgoing_takeReceived (ring : Ring UInt16 slots) (tapped : Tapped SimulatedLine) :
    (ring.takeReceived tapped).2.2.line.outgoing = tapped.line.outgoing ∧
      (ring.takeReceived tapped).2.2.given = tapped.given := by
  rcases tapped with ⟨⟨depth, pending, acknowledged, outgoing, _ | ⟨word, rest⟩⟩, given, taken⟩
  · exact ⟨rfl, rfl⟩
  · exact ⟨rfl, rfl⟩

/-- No word that an exchange gives to a line is dropped by it. -/
theorem outgoing_exchange (buffers : Buffers slots) {line : SimulatedLine}
    (hdepth : line.depth ≤ fifoSize) :
    (buffers.exchange (Tapped.acknowledged line)).2.2.line.outgoing =
      line.outgoing ++ (buffers.exchange (Tapped.acknowledged line)).2.2.given := by
  rcases outgoing_feed buffers.outbound (Tapped.acknowledged line) hdepth with
    ⟨words, hgiven, hout⟩
  rcases outgoing_takeReceived buffers.inbound
    (buffers.outbound.feed (Tapped.acknowledged line)).2.2 with ⟨hline, htap⟩
  have hgiven' : (buffers.exchange (Tapped.acknowledged line)).2.2.given = words :=
    htap.trans hgiven
  rw [hgiven']
  exact hline.trans hout

end SimulatedLine
end PeripheralBank
