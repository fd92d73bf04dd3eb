import Mathlib.Data.List.Forall2
import PeripheralBank.Proofs.Bench.Clean

/-!
# Traffic of an instance

The words that passed between the application and the lines of one instance since it was last
opened, read off what happened.  They balance with the buffers: what was accepted is what lines
were given and what still waits, and what found room on arrival is what was read and what is
still readable.
-/

namespace PeripheralBank

/-- What the application is shown of a word that it takes out of the inbound buffer. -/
inductive Delivery where
  | byte (value : UInt8)
  | word (value : UInt16)

def Delivery.Shows : Delivery -> UInt16 -> Prop
  | byte value, taken => value = taken.toUInt8
  | word value, taken => value = taken

structure Traffic where
  /-- The words that writes accepted. -/
  accepted : List UInt16 := []
  /-- The words that interrupts gave to lines. -/
  given : List UInt16 := []
  /-- The words that interrupts took from lines, each with whether the inbound buffer was full. -/
  arrived : List (UInt16 × Bool) := []
  /-- What reads showed. -/
  delivered : List Delivery := []

namespace Traffic

/-- The words that found room when they arrived. -/
def kept (traffic : Traffic) : List UInt16 :=
  (traffic.arrived.filter (!·.2)).map Prod.fst

/-- The words that found the inbound buffer full. -/
def missed (traffic : Traffic) : List UInt16 :=
  (traffic.arrived.filter (·.2)).map Prod.fst

def accept (words : List UInt16) (traffic : Traffic) : Traffic :=
  { traffic with accepted := traffic.accepted ++ words }

def deliver (deliveries : List Delivery) (traffic : Traffic) : Traffic :=
  { traffic with delivered := traffic.delivered ++ deliveries }

def pass (given taken : List UInt16) (full : Bool) (traffic : Traffic) : Traffic :=
  { traffic with
    given := traffic.given ++ given
    arrived := traffic.arrived ++ taken.map (·, full) }

/-- The traffic of the instance of an index after one more happening.  Opening it starts anew. -/
def note {ω : Type} (index : Nat) (traffic : Traffic) : Happening ω -> Traffic
  | .answered .allocate (.ok (.handle handle)) => if handle.index = index then {} else traffic
  | .answered (.acquire handle) (.ok _) => if handle.index = index then {} else traffic
  | .answered (.write handle bytes) (.ok (.count stored)) =>
      if handle.index = index then
        traffic.accept ((bytes.map UInt8.toUInt16).take stored)
      else traffic
  | .answered (.writeWords handle words) (.ok (.count stored)) =>
      if handle.index = index then traffic.accept (words.take stored) else traffic
  | .answered (.read handle _) (.ok (.bytes taken output)) =>
      if handle.index = index then traffic.deliver ((output.take taken).map .byte) else traffic
  | .answered (.readWords handle _) (.ok (.words taken output)) =>
      if handle.index = index then traffic.deliver ((output.take taken).map .word) else traffic
  | .interrupted place _ after full =>
      if place = index then traffic.pass after.given after.taken full else traffic
  | _ => traffic

def noteAll {ω : Type} (index : Nat) (happenings : List (Happening ω)) : Traffic :=
  happenings.foldl (note index) {}

/-!
# The balance with the buffers
-/

variable {slots : Nat}

structure Balances (traffic : Traffic) (buffers : Buffers slots) : Prop where
  outbound : traffic.accepted = traffic.given ++ buffers.outbound.toList
  inbound : exists words, List.Forall₂ Delivery.Shows traffic.delivered words ∧
    traffic.kept = words ++ buffers.inbound.toList
  overflows : buffers.inbound.overflows = traffic.missed.length

variable {traffic : Traffic} {buffers : Buffers slots}

theorem balances_of_isClear (hclear : buffers.IsClear) : ({} : Traffic).Balances buffers where
  outbound := by
    rw [(Ring.isClear_iff.mp hclear.1).1]
    rfl
  inbound := by
    rw [(Ring.isClear_iff.mp hclear.2).1]
    exact ⟨[], List.Forall₂.nil, rfl⟩
  overflows := (Ring.isClear_iff.mp hclear.2).2

/-- A write accepts the words that the outbound buffer takes. -/
theorem Balances.accept (hbalances : traffic.Balances buffers) (words : List UInt16) :
    (traffic.accept (words.take (buffers.outbound.push words).1)).Balances
      { buffers with outbound := (buffers.outbound.push words).2 } where
  outbound := by
    show traffic.accepted ++ words.take (buffers.outbound.push words).1 = _
    rw [Ring.toList_push_stored, hbalances.outbound, List.append_assoc]
    rfl
  inbound := hbalances.inbound
  overflows := hbalances.overflows

theorem take_popInto {β : Type} (convert : UInt16 -> β) (output : List β)
    (ring : Ring UInt16 slots) :
    (ring.popInto convert output).2.1.take (ring.popInto convert output).1 =
      (ring.toList.take output.length).map convert := by
  rcases ring.popInto_eq convert output with ⟨hcount, hfront, _, _⟩
  rw [hcount, hfront]
  apply List.take_left'
  rw [List.length_map, List.length_take, Ring.length_toList]

/-- A read shows the oldest words of the inbound buffer and takes them out. -/
theorem Balances.deliver {β : Type} (convert : UInt16 -> β) (delivery : β -> Delivery)
    (hshows : forall word, (delivery (convert word)).Shows word)
    (hbalances : traffic.Balances buffers) (output : List β) :
    (traffic.deliver (((buffers.inbound.popInto convert output).2.1.take
      (buffers.inbound.popInto convert output).1).map delivery)).Balances
      { buffers with inbound := (buffers.inbound.popInto convert output).2.2 } where
  outbound := hbalances.outbound
  inbound := by
    rcases hbalances.inbound with ⟨words, hshown, hkept⟩
    rcases buffers.inbound.popInto_eq convert output with ⟨_, _, hrest, _⟩
    refine ⟨words ++ buffers.inbound.toList.take output.length, ?_, ?_⟩
    · apply List.rel_append hshown
      rw [take_popInto, List.map_map, List.forall₂_map_left_iff, List.forall₂_same]
      intro word _
      exact hshows word
    · show traffic.kept = _
      rw [hkept, List.append_assoc, hrest, List.take_append_drop]
  overflows := (buffers.inbound.popInto_eq convert output).2.2.2.trans hbalances.overflows

theorem kept_pass (given taken : List UInt16) (full : Bool) :
    (traffic.pass given taken full).kept = traffic.kept ++ (if full then [] else taken) := by
  cases full with
  | true => simp [kept, pass, List.filter_map, Function.comp_def]
  | false => simp [kept, pass, List.filter_map, Function.comp_def]

theorem missed_pass (given taken : List UInt16) (full : Bool) :
    (traffic.pass given taken full).missed = traffic.missed ++ (if full then taken else []) := by
  cases full with
  | true => simp [missed, pass, List.filter_map, Function.comp_def]
  | false => simp [missed, pass, List.filter_map, Function.comp_def]

/-- An interrupt gives the line the oldest words of the outbound buffer, and what it takes from the
line is kept or missed. -/
theorem Balances.pass {ω : Type} [Line ω] (hbalances : traffic.Balances buffers)
    (before : ω) :
    (traffic.pass (buffers.exchange (Tapped.acknowledged before)).2.2.given
      (buffers.exchange (Tapped.acknowledged before)).2.2.taken
      buffers.inbound.isFull).Balances
      (buffers.exchange (Tapped.acknowledged before)).2.1 := by
  rcases Tapped.toList_exchange buffers before with ⟨hgiven, hstored, hcounted⟩
  constructor
  · show traffic.accepted = traffic.given ++ _ ++ _
    rw [hbalances.outbound, hgiven, List.append_assoc]
  · rcases hbalances.inbound with ⟨shown, hshown, hkept⟩
    refine ⟨shown, hshown, ?_⟩
    rw [kept_pass, hkept, hstored, List.append_assoc]
  · rw [missed_pass, hcounted, hbalances.overflows, List.length_append]
    split
    · rfl
    · rfl

end Traffic
end PeripheralBank
