import PeripheralBank.Proofs.Registry.View
import PeripheralBank.Registry.Transfer
import PeripheralBank.Ring.Queue
import PeripheralBank.Simulation.Hardware

/-!
# What transfers do

The width that a device reports, or eight bits where it reports none, decides which transfers are
turned down, and these change nothing.  What is not turned down moves as much as there is room for,
or as much as there is, from the front.  The number moved says what became of the buffer and of the
caller's words.
-/

namespace PeripheralBank

/-!
# Moving words in and out of a ring
-/

namespace Ring

variable {α β : Type} {slots : Nat}

/-- The leading items went into a ring, as many as there was room for. -/
structure Pushed (ring : Ring α slots) (items : List α) (count : Nat) (after : Ring α slots) :
    Prop where
  number : count = min items.length ring.free
  queue : after.toList = ring.toList ++ items.take count
  overflows : after.overflows = ring.overflows

theorem pushed_push (items : List α) (ring : Ring α slots) :
    ring.Pushed items (ring.push items).1 (ring.push items).2 where
  number := push_fst items ring
  queue := toList_push_stored items ring
  overflows := overflows_push items ring

/-- The oldest elements of a ring went to the first places of an output, as many as there were and
as it had places for. -/
structure Popped (convert : α -> β) (ring : Ring α slots) (output : List β) (count : Nat)
    (filled : List β) (after : Ring α slots) : Prop where
  number : count = min output.length ring.size
  places : filled = (ring.toList.take count).map convert ++ output.drop count
  queue : after.toList = ring.toList.drop count
  overflows : after.overflows = ring.overflows

theorem popped_popInto (convert : α -> β) (output : List β) (ring : Ring α slots) :
    let (count, filled, after) := ring.popInto convert output
    ring.Popped convert output count filled after := by
  rcases popInto_eq convert output ring with ⟨hcount, hfilled, hqueue, hdropped⟩
  have hfront : ring.toList.take output.length =
      ring.toList.take (min output.length ring.size) := by
    rw [← length_toList]
    exact List.take_eq_take_min
  have hback : ring.toList.drop output.length =
      ring.toList.drop (min output.length ring.size) := by
    rw [← length_toList]
    exact List.drop_eq_drop_min
  have hkept : output.drop ring.size = output.drop (min output.length ring.size) := by
    rw [Nat.min_comm]
    exact List.drop_eq_drop_min
  refine ⟨hcount, ?_, ?_, hdropped⟩
  · rw [hfilled, hcount, hfront, hkept]
  · rw [hqueue, hcount, hback]

end Ring

namespace Registry

variable {η : Type} [Hardware η] {κ : Type} {n slots : Nat}

/-!
# The reported width
-/

/-- The width that transfers go by, from what is reported of it. -/
inductive TransfersAt : Except Failure UInt8 -> UInt8 -> Prop where
  | reported (width : UInt8) : TransfersAt (.ok width) width
  | unsupported : TransfersAt (refuse .unsupported) 8

theorem transfersAt_wordWidth {registry : Registry η κ n slots} {i : Fin n}
    (hheld : (registry.slotAt i).state ≠ .unused) :
    TransfersAt (registry.wordWidth (registry.handle i)) (registry.transferWidth i) := by
  rw [wordWidth_handle hheld, transferWidth]
  cases registry.widthInForce? i with
  | none => exact .unsupported
  | some width => exact .reported width

theorem any_tooWide_eq_true_iff {width : UInt8} {words : List UInt16} :
    words.any (tooWide width) = true ↔
      exists word, word ∈ words ∧ Nat.pow 2 width.toNat ≤ word.toNat := by
  simp [tooWide]

/-!
# The three ways a transfer ends
-/

/-- Words were queued: with the number that went in, the registry after it.  One kick follows if
there were any. -/
inductive Queued (registry : Registry η κ n slots) (i : Fin n) (buffers : Buffers slots)
    (words : List UInt16) : Except Failure Nat × Registry η κ n slots -> Prop where
  | kicked {count : Nat} {outbound : Ring UInt16 slots}
      (hpushed : buffers.outbound.Pushed words count outbound) (hsome : 0 < count) :
      Queued registry i buffers words
        (.ok count, (registry.setBuffers i { buffers with outbound }).call i .kickTransmit)
  | unkicked {outbound : Ring UInt16 slots} (hpushed : buffers.outbound.Pushed words 0 outbound) :
      Queued registry i buffers words (.ok 0, registry.setBuffers i { buffers with outbound })

theorem queued_queue (registry : Registry η κ n slots) (i : Fin n) (buffers : Buffers slots)
    (words : List UInt16) :
    let (stored, after) := registry.queue i buffers words
    Queued registry i buffers words (.ok stored, after) := by
  have hpushed := buffers.outbound.pushed_push words
  simp only [queue]
  cases hcount : (buffers.outbound.push words).1 with
  | zero =>
      rw [hcount] at hpushed
      exact .unkicked hpushed
  | succ count =>
      rw [hcount] at hpushed
      exact .kicked hpushed (Nat.succ_pos count)

/-- Words were fetched: the number taken, the output and the registry after it. -/
inductive Fetched {β : Type} (convert : UInt16 -> β) (registry : Registry η κ n slots) (i : Fin n)
    (buffers : Buffers slots) (output : List β) :
    Except Failure Nat × List β × Registry η κ n slots -> Prop where
  | fetched {count : Nat} {filled : List β} {inbound : Ring UInt16 slots}
      (hpopped : buffers.inbound.Popped convert output count filled inbound) :
      Fetched convert registry i buffers output
        (.ok count, filled, registry.setBuffers i { buffers with inbound })

/-- What the transfers of an instance do at a width. -/
structure GoesBy (registry : Registry η κ n slots) (i : Fin n) (buffers : Buffers slots)
    (width : UInt8) : Prop where
  write_refused (hwide : 8 < width) (bytes : List UInt8) :
    registry.write (registry.handle i) bytes = (refuse .invalidState, registry)
  write (hnarrow : width ≤ 8) (bytes : List UInt8) :
    Queued registry i buffers (bytes.map UInt8.toUInt16)
      (registry.write (registry.handle i) bytes)
  writeWords_refused (words : List UInt16)
    (hwide : exists word, word ∈ words ∧ Nat.pow 2 width.toNat ≤ word.toNat) :
    registry.writeWords (registry.handle i) words = (refuse .invalidArgument, registry)
  writeWords (words : List UInt16)
    (hfits : forall word, word ∈ words -> word.toNat < Nat.pow 2 width.toNat) :
    Queued registry i buffers words (registry.writeWords (registry.handle i) words)
  read_refused (hwide : 8 < width) (output : List UInt8) :
    registry.read (registry.handle i) output = (refuse .invalidState, output, registry)
  read (hnarrow : width ≤ 8) (output : List UInt8) :
    Fetched UInt16.toUInt8 registry i buffers output (registry.read (registry.handle i) output)
  readWords (output : List UInt16) :
    Fetched id registry i buffers output (registry.readWords (registry.handle i) output)

theorem goesBy_transferWidth {registry : Registry η κ n slots} {i : Fin n}
    {buffers : Buffers slots} (hheld : (registry.slotAt i).state ≠ .unused)
    (hstored : registry.buffersAt? i = some buffers) :
    registry.GoesBy i buffers (registry.transferWidth i) := by
  have hlocated := locateBuffers_handle hheld hstored
  constructor
  · intro hwide bytes
    simp only [Registry.write, hlocated]
    exact if_pos hwide
  · intro hnarrow bytes
    simp only [Registry.write, hlocated, if_neg (UInt8.not_lt.mpr hnarrow)]
    exact queued_queue registry i buffers _
  · intro words hwide
    simp only [Registry.writeWords, hlocated]
    exact if_pos (any_tooWide_eq_true_iff.mpr hwide)
  · intro words hfits
    have hnone : ¬ words.any (tooWide (registry.transferWidth i)) = true := by
      intro hany
      rcases any_tooWide_eq_true_iff.mp hany with ⟨word, hmem, hwide⟩
      exact Nat.not_lt.mpr hwide (hfits word hmem)
    simp only [Registry.writeWords, hlocated, if_neg hnone]
    exact queued_queue registry i buffers words
  · intro hwide output
    simp only [Registry.read, hlocated]
    exact if_pos hwide
  · intro hnarrow output
    simp only [Registry.read, hlocated, if_neg (UInt8.not_lt.mpr hnarrow)]
    exact .fetched (buffers.inbound.popped_popInto _ output)
  · intro output
    simp only [Registry.readWords, hlocated]
    exact .fetched (buffers.inbound.popped_popInto id output)

/-- The transfers of a held instance follow the width that is reported of it, or eight bits where it
reports none.  They are turned down for that width alone, and else move what the fill levels that
are reported leave room for. -/
theorem transfers_follow_width (registry : Registry η κ n slots) (i : Fin n)
    (hheld : (registry.slotAt i).state ≠ .unused) (hbuffered : registry.isBuffered = true) :
    exists buffers width, registry.buffersAt? i = some buffers ∧
      TransfersAt (registry.wordWidth (registry.handle i)) width ∧
      registry.writable (registry.handle i) = .ok buffers.outbound.free ∧
      registry.readable (registry.handle i) = .ok buffers.inbound.size ∧
      registry.GoesBy i buffers width := by
  have hsome : (registry.buffersAt? i).isSome := by
    rw [isSome_buffersAt?, hbuffered]
  rcases Option.isSome_iff_exists.mp hsome with ⟨buffers, hstored⟩
  have hlocated := locateBuffers_handle hheld hstored
  refine ⟨buffers, registry.transferWidth i, hstored, transfersAt_wordWidth hheld, ?_, ?_,
    goesBy_transferWidth hheld hstored⟩
  · simp only [writable, hlocated]
    rfl
  · simp only [readable, hlocated]
    rfl

/-- An SPI with words of sixteen bits transfers by words alone. -/
theorem transfers_follow_width_of_wide_spi :
    let start : Registry (SimulatedHardware 1) Nat 1 4 :=
      .buffered { profile := .spi, clock := 16000000 } (Vector.replicate 1 .empty)
    let device := start.handle 0
    let wide := (start.allocate.2.setWordWidth device 16).2
    (wide.slotAt 0).state ≠ .unused ∧ wide.isBuffered = true ∧
      wide.writable device = .ok 3 ∧ wide.readable device = .ok 0 ∧
      (forall bytes, wide.write device bytes = (refuse .invalidState, wide)) ∧
      exists buffers, wide.GoesBy 0 buffers 16 := by
  intro start device wide
  have hheld : (wide.slotAt 0).state ≠ .unused := by decide +kernel
  have hbuffered : wide.isBuffered = true := by decide +kernel
  have hsame : wide.handle (0 : Fin 1) = device := by decide +kernel
  have hreported : wide.wordWidth device = .ok 16 := by decide +kernel
  have hroom : wide.writable device = .ok 3 := by decide +kernel
  have hwaiting : wide.readable device = .ok 0 := by decide +kernel
  rcases transfers_follow_width wide 0 hheld hbuffered with
    ⟨buffers, width, _, hwidth, _, _, hgoes⟩
  rw [← hsame] at hreported hroom hwaiting ⊢
  rw [hreported] at hwidth
  cases hwidth
  exact ⟨hheld, hbuffered, hroom, hwaiting, hgoes.write_refused (by decide), buffers, hgoes⟩

end Registry
end PeripheralBank
