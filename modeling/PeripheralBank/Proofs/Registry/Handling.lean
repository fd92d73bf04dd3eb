import PeripheralBank.Proofs.Line.Tapped
import PeripheralBank.Proofs.Registry.Service

/-!
# What one interrupt does

An interrupt acknowledges the flag, and then either does nothing, or runs the bound callback, or
exchanges words with the line, each of these once.  The line may be any machine that answers the
four questions of a line.  What was done to it is observed in order; observing changes nothing.

A look at the room is no deed of its own.  Something is done to the line between any two looks, so a
line whose room comes and goes on its own is a machine like any other.
-/

namespace PeripheralBank

/-!
# Deeds
-/

/-- Something that an interrupt does, to the line or by a callback. -/
inductive Deed (κ : Type) where
  | acknowledged
  | called (callback : κ)
  | transmitted (word : UInt16)
  | received (word : Option UInt16)
deriving DecidableEq

/-- A line with what was done to it, oldest first. -/
structure Observed (ω κ : Type) where
  line : ω
  deeds : List (Deed κ) := []

namespace Observed

variable {ω κ : Type} [Line ω]

def note (deed : Deed κ) (line : ω) (observed : Observed ω κ) : Observed ω κ :=
  { line, deeds := observed.deeds ++ [deed] }

instance : Line (Observed ω κ) where
  acknowledge observed := observed.note .acknowledged (Line.acknowledge observed.line)
  transmitReady observed := Line.transmitReady observed.line
  transmit word observed := observed.note (.transmitted word) (Line.transmit word observed.line)
  receive observed :=
    let (word, line) := Line.receive observed.line
    (word, observed.note (.received word) line)

theorem hom_line : Line.Hom (Observed.line : Observed ω κ -> ω) where
  acknowledge _ := rfl
  transmitReady _ := rfl
  transmit _ _ := rfl
  receive _ := rfl

/-- A callback that is observed when it is called. -/
def invoke {σ : Type} (invoke : κ -> ω -> σ -> ω × σ) (callback : κ) (observed : Observed ω κ)
    (state : σ) : Observed ω κ × σ :=
  (invoke callback observed.line state).map (observed.note (.called callback)) id

end Observed

/-!
# Words that are given to a line
-/

section Exchange

variable {ω : Type} [Line ω] {slots : Nat}

def Line.transmitAll (words : List UInt16) (line : ω) : ω :=
  words.foldl (fun line word => Line.transmit word line) line

theorem Observed.transmitAll {κ : Type} (words : List UInt16) (observed : Observed ω κ) :
    Line.transmitAll words observed =
      { line := Line.transmitAll words observed.line
        deeds := observed.deeds ++ words.map .transmitted } := by
  induction words generalizing observed with
  | nil =>
      rw [List.map_nil, List.append_nil]
      rfl
  | cons word rest ih =>
      refine (ih (Line.transmit word observed)).trans ?_
      rw [List.map_cons, List.append_cons]
      rfl

namespace Ring

/-- A line was fed words from the front of a ring, one after the other, as many as it had room
for. -/
structure Fed (ring : Ring UInt16 slots) (line : ω) (sent : Nat) (rest : Ring UInt16 slots)
    (after : ω) : Prop where
  within : sent ≤ ring.size
  ready {count : Nat} (hbefore : count < sent) :
    Line.transmitReady (Line.transmitAll (ring.toList.take count) line) = true
  stopped : sent = ring.size ∨ Line.transmitReady after = false
  line : after = Line.transmitAll (ring.toList.take sent) line
  queue : rest.toList = ring.toList.drop sent
  overflows : rest.overflows = ring.overflows

theorem fed_feed (ring : Ring UInt16 slots) (line : ω) :
    ring.Fed line (ring.feed line).1 (ring.feed line).2.1 (ring.feed line).2.2 := by
  induction ring, line using feed.induct with
  | case1 ring line _ hempty =>
      rw [feed_of_empty hempty line]
      exact
        { within := Nat.zero_le _
          ready := fun hbefore => absurd hbefore (Nat.not_lt_zero _)
          stopped := Or.inl (dequeue?_eq_none_iff.mp hempty).symm
          line := rfl
          queue := rfl
          overflows := rfl }
  | case2 ring line hready word rest hfront _ _ _ _ _ ih =>
      have hqueue := toList_of_dequeue? hfront
      have hsize := size_of_dequeue? hfront
      rw [feed_of_front hready hfront]
      constructor
      · exact hsize ▸ Nat.succ_le_succ ih.within
      · intro count hbefore
        rw [hqueue]
        cases count with
        | zero => exact hready
        | succ count => exact ih.ready (Nat.lt_of_succ_lt_succ hbefore)
      · rw [← hsize]
        exact ih.stopped.imp (congrArg (· + 1)) id
      · rw [hqueue]
        exact ih.line
      · rw [hqueue]
        exact ih.queue
      · exact ih.overflows.trans (overflows_of_dequeue? hfront)
  | case3 ring line hblocked =>
      rw [feed_of_blocked hblocked]
      exact
        { within := Nat.zero_le _
          ready := fun hbefore => absurd hbefore (Nat.not_lt_zero _)
          stopped := Or.inr (Bool.eq_false_iff.mpr hblocked)
          line := rfl
          queue := rfl
          overflows := rfl }

/-- A ring took in what was received: it was appended where there was room, and else counted. -/
structure Took (ring : Ring UInt16 slots) (received : Option UInt16) (after : Ring UInt16 slots) :
    Prop where
  stored (hroom : 0 < ring.free) :
    after.toList = ring.toList ++ received.toList ∧ after.overflows = ring.overflows
  dropped (hfull : ring.free = 0) :
    after.toList = ring.toList ∧
      after.overflows = ring.overflows + received.toList.length

theorem took_takeReceived (ring : Ring UInt16 slots) (line : ω) :
    ring.Took (Line.receive line).1 (ring.takeReceived line).2.1 := by
  unfold takeReceived
  rcases Line.receive line with ⟨_ | word, after⟩
  · exact
      { stored := fun _ => ⟨(List.append_nil _).symm, rfl⟩
        dropped := fun _ => ⟨rfl, rfl⟩ }
  · constructor
    · intro hroom
      exact ⟨(toList_pushOrDrop word ring).trans (if_pos hroom),
        (overflows_pushOrDrop word ring).trans (if_pos hroom)⟩
    · intro hfull
      have hnone : ¬ 0 < ring.free := Nat.not_lt.mpr (Nat.le_zero.mpr hfull)
      exact ⟨(toList_pushOrDrop word ring).trans (if_neg hnone),
        (overflows_pushOrDrop word ring).trans (if_neg hnone)⟩

theorem takeReceived_answer (ring : Ring UInt16 slots) (line : ω) :
    (ring.takeReceived line).1 = (Line.receive line).1.isSome ∧
      (ring.takeReceived line).2.2 = (Line.receive line).2 := by
  unfold takeReceived
  rcases Line.receive line with ⟨_ | word, after⟩
  · exact ⟨rfl, rfl⟩
  · exact ⟨rfl, rfl⟩

end Ring

/-- What an exchange does to a line: the words that go out, and one attempt to receive. -/
def Buffers.deedsOfExchange (κ : Type) (buffers : Buffers slots) (line : ω) : List (Deed κ) :=
  let (sent, _, fed) := buffers.outbound.feed line
  (buffers.outbound.toList.take sent).map .transmitted ++ [.received (Line.receive fed).1]

theorem Observed.deeds_exchange {κ : Type} (buffers : Buffers slots) (observed : Observed ω κ) :
    (buffers.exchange observed).2.2.deeds =
      observed.deeds ++ buffers.deedsOfExchange κ observed.line := by
  have hsame := buffers.outbound.feed_hom (hom_line (κ := κ)) observed
  have hsent := congrArg Prod.fst hsame
  have hline := congrArg (·.2.2) hsame
  have hdeeds : (buffers.outbound.feed observed).2.2.deeds =
      observed.deeds ++
        (buffers.outbound.toList.take (buffers.outbound.feed observed).1).map .transmitted := by
    rw [(buffers.outbound.fed_feed observed).line, transmitAll]
  show (buffers.inbound.takeReceived (buffers.outbound.feed observed).2.2).2.2.deeds = _
  rw [(Ring.takeReceived_answer _ _).2, Buffers.deedsOfExchange]
  simp only [hsent, hline, ← List.append_assoc]
  exact congrArg
    (· ++ [.received (Line.receive (buffers.outbound.feed observed).2.2.line).1]) hdeeds

theorem Observed.exchange_eq {κ : Type} (buffers : Buffers slots) (observed : Observed ω κ) :
    buffers.exchange observed =
      (buffers.exchange observed.line).map id (·.map id fun line =>
        { line, deeds := observed.deeds ++ buffers.deedsOfExchange κ observed.line }) := by
  have hsame := buffers.exchange_hom (hom_line (κ := κ)) observed
  have hline : (buffers.exchange observed.line).2.2 = (buffers.exchange observed).2.2.line :=
    congrArg (·.2.2) hsame
  refine Prod.ext (congrArg Prod.fst hsame).symm (Prod.ext (congrArg (·.2.1) hsame).symm ?_)
  show (buffers.exchange observed).2.2 = Observed.mk (buffers.exchange observed.line).2.2 _
  rw [← deeds_exchange, hline]

end Exchange

/-!
# What was done about an interrupt
-/

namespace Registry

variable {η : Type} [Hardware η] {κ : Type} {ω : Type} [Line ω] {n slots : Nat}

/-- The four ways to handle an interrupt of an instance: what it is found to be, what is done, and
the line and the registry after it. -/
inductive Handled (invoke : κ -> ω -> Registry η κ n slots -> ω × Registry η κ n slots)
    (registry : Registry η κ n slots) (i : Fin n) (line : ω) :
    Service -> List (Deed κ) -> ω -> Registry η κ n slots -> Prop where
  | spurious (hrests : (registry.slotAt i).state ≠ .enabled) :
      Handled invoke registry i line .spurious [.acknowledged] (Line.acknowledge line) registry
  | callback {callback : κ} {called : ω × Registry η κ n slots}
      (hruns : (registry.slotAt i).state = .enabled)
      (hbound : (registry.slotAt i).callback = some callback)
      (hcalled : called =
        invoke callback (Line.acknowledge line) (registry.setInService i true)) :
      Handled invoke registry i line .callback [.acknowledged, .called callback] called.1
        (called.2.setInService i false)
  | unbuffered (hruns : (registry.slotAt i).state = .enabled)
      (hunbound : (registry.slotAt i).callback = none) (hbare : registry.buffersAt? i = none) :
      Handled invoke registry i line (.transfer 0 false) [.acknowledged] (Line.acknowledge line)
        (registry.setInService i false)
  | exchanged {buffers moved : Buffers slots} {sent : Nat} {fed after : ω}
      {received : Option UInt16} (hruns : (registry.slotAt i).state = .enabled)
      (hunbound : (registry.slotAt i).callback = none)
      (hstored : registry.buffersAt? i = some buffers)
      (hfed : buffers.outbound.Fed (Line.acknowledge line) sent moved.outbound fed)
      (hreceived : Line.receive fed = (received, after))
      (htook : buffers.inbound.Took received moved.inbound) :
      Handled invoke registry i line (.transfer sent received.isSome)
        (.acknowledged :: ((buffers.outbound.toList.take sent).map .transmitted ++
          [.received received]))
        after ((registry.setBuffers i moved).setInService i false)

theorem setInService_setInService (registry : Registry η κ n slots) (i : Fin n)
    (before after : Bool) :
    (registry.setInService i before).setInService i after = registry.setInService i after := by
  simp [setInService]

theorem handled_exchange {registry : Registry η κ n slots} {i : Fin n} {buffers : Buffers slots}
    (invoke : κ -> ω -> Registry η κ n slots -> ω × Registry η κ n slots) (line : ω)
    (hruns : (registry.slotAt i).state = .enabled)
    (hunbound : (registry.slotAt i).callback = none)
    (hstored : registry.buffersAt? i = some buffers) :
    let exchanged := buffers.exchange (Line.acknowledge line)
    Handled invoke registry i line exchanged.1
      (.acknowledged :: buffers.deedsOfExchange κ (Line.acknowledge line)) exchanged.2.2
      (((registry.setInService i true).setBuffers i exchanged.2.1).setInService i false) := by
  intro exchanged
  let fed := buffers.outbound.feed (Line.acknowledge line)
  rcases buffers.inbound.takeReceived_answer fed.2.2 with ⟨hanswer, hafter⟩
  have hservice : exchanged.1 = .transfer fed.1 (Line.receive fed.2.2).1.isSome :=
    congrArg (Service.transfer fed.1) hanswer
  have hline : exchanged.2.2 = (Line.receive fed.2.2).2 := hafter
  have hfinal : ((registry.setInService i true).setBuffers i exchanged.2.1).setInService i false =
      (registry.setBuffers i exchanged.2.1).setInService i false :=
    setInService_setInService (registry.setBuffers i exchanged.2.1) i true false
  rw [hservice, hline, hfinal]
  exact .exchanged hruns hunbound hstored (buffers.outbound.fed_feed _) rfl
    (buffers.inbound.took_takeReceived _)

/-- Every interrupt of an instance gets an answer, on whatever line and in whatever state of the
registry.  It is handled in one of the four ways, of which exactly one applies, and all that is done
to the line is what that way lists. -/
theorem interrupt_handled (registry : Registry η κ n slots)
    (invoke : κ -> ω -> Registry η κ n slots -> ω × Registry η κ n slots) (i : Fin n) (line : ω) :
    exists service after final deeds,
      registry.interrupt invoke i line = (.ok service, after, final) ∧
        registry.interrupt (Observed.invoke invoke) i ({ line } : Observed ω κ) =
          (.ok service, { line := after, deeds }, final) ∧
        Handled invoke registry i line service deeds after final ∧
        (service = .spurious ↔ (registry.slotAt i).state ≠ .enabled) := by
  by_cases hruns : (registry.slotAt i).state = .enabled
  · cases hbound : (registry.slotAt i).callback with
    | some callback =>
        refine ⟨_, _, _, _, interrupt_callback invoke line hruns hbound,
          interrupt_callback _ _ hruns hbound, .callback hruns hbound rfl, ?_⟩
        simp [hruns]
    | none =>
        cases hstored : registry.buffersAt? i with
        | none =>
            refine ⟨_, _, _, _, ?_, ?_, .unbuffered hruns hbound hstored, ?_⟩
            · rw [interrupt_unbuffered invoke line hruns hbound hstored,
                setInService_setInService]
            · rw [interrupt_unbuffered _ _ hruns hbound hstored, setInService_setInService]
              rfl
            · simp [hruns]
        | some buffers =>
            refine ⟨_, _, _, .acknowledged :: buffers.deedsOfExchange κ (Line.acknowledge line),
              interrupt_exchange invoke line hruns hbound hstored, ?_,
              handled_exchange invoke line hruns hbound hstored, ?_⟩
            · rw [interrupt_exchange _ _ hruns hbound hstored, Observed.exchange_eq]
              rfl
            · simp [hruns, Buffers.exchange]
  · refine ⟨_, _, _, _, interrupt_resting invoke line hruns, interrupt_resting _ _ hruns,
      .spurious hruns, ?_⟩
    simp [hruns]

end Registry
end PeripheralBank
