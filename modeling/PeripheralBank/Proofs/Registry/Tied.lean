import PeripheralBank.Bench.Command
import PeripheralBank.Proofs.Registry.Service
import PeripheralBank.Proofs.Ring.Alike

/-!
# Registries that answer alike

Two registries, perhaps over different hardware, are tied if they agree on all instances that are
looked at and their hardware is in a relation that calls to these instances keep.  Requests to
these instances are then answered alike, and leave the registries tied.  What the two keep of the
other instances may differ, and the hardware may differ wherever the relation leaves it open.
-/

namespace PeripheralBank

/-!
# Ties
-/

/-- A relation between buffers that every operation keeps and that shows in no answer. -/
structure Buffers.Tie (slots : Nat) where
  Rel : Buffers slots -> Buffers slots -> Prop
  outboundSize {first second : Buffers slots} (hrel : Rel first second) :
    first.outbound.size = second.outbound.size
  inboundSize {first second : Buffers slots} (hrel : Rel first second) :
    first.inbound.size = second.inbound.size
  overflows {first second : Buffers slots} (hrel : Rel first second) :
    first.inbound.overflows = second.inbound.overflows
  push {first second : Buffers slots} (hrel : Rel first second) (words : List UInt16) :
    (first.outbound.push words).1 = (second.outbound.push words).1 ∧
      Rel { first with outbound := (first.outbound.push words).2 }
        { second with outbound := (second.outbound.push words).2 }
  popInto {first second : Buffers slots} (hrel : Rel first second) {β : Type}
    (convert : UInt16 -> β) (output : List β) :
    (first.inbound.popInto convert output).1 = (second.inbound.popInto convert output).1 ∧
      (first.inbound.popInto convert output).2.1 = (second.inbound.popInto convert output).2.1 ∧
      Rel { first with inbound := (first.inbound.popInto convert output).2.2 }
        { second with inbound := (second.inbound.popInto convert output).2.2 }
  clear {first second : Buffers slots} (hrel : Rel first second) : Rel first.clear second.clear
  exchange {first second : Buffers slots} (hrel : Rel first second) {ω : Type} [Line ω]
    (line : ω) :
    (first.exchange line).1 = (second.exchange line).1 ∧
      (first.exchange line).2.2 = (second.exchange line).2.2 ∧
      Rel (first.exchange line).2.1 (second.exchange line).2.1

namespace Buffers.Tie

variable {slots : Nat}

def equal : Buffers.Tie slots where
  Rel first second := first = second
  outboundSize hrel := by rw [hrel]
  inboundSize hrel := by rw [hrel]
  overflows hrel := by rw [hrel]
  push hrel words := by
    subst hrel
    exact ⟨rfl, rfl⟩
  popInto hrel _ convert output := by
    subst hrel
    exact ⟨rfl, rfl, rfl⟩
  clear hrel := by rw [hrel]
  exchange hrel _ _ line := by
    subst hrel
    exact ⟨rfl, rfl, rfl⟩

def alike : Buffers.Tie slots where
  Rel := Buffers.Alike
  outboundSize hrel := hrel.outbound.size
  inboundSize hrel := hrel.inbound.size
  overflows hrel := hrel.inbound.overflows
  push hrel words :=
    ⟨hrel.outbound.push_fst words, { hrel with outbound := hrel.outbound.push words }⟩
  popInto hrel _ convert output :=
    ⟨(hrel.inbound.popInto_answer convert output).1, (hrel.inbound.popInto_answer convert output).2,
      { hrel with inbound := hrel.inbound.popInto convert output }⟩
  clear _ := Buffers.alike_clear
  exchange hrel _ _ line := hrel.exchange line

end Buffers.Tie

/-- A relation between hardware that calls to some instances keep.  What a registry asks the
hardware is answered alike, but perhaps for the values of counters and the strategy for rates. -/
structure Hardware.Tie (η η' : Type) [Hardware η] [Hardware η'] where
  /-- The instances that are looked at. -/
  On : Nat -> Prop
  Rel : η -> η' -> Prop
  chain {first : η} {second : η'} (hrel : Rel first second) :
    Hardware.chain first = Hardware.chain second
  clock {first : η} {second : η'} (hrel : Rel first second) :
    Hardware.clock first = Hardware.clock second
  wordWidths {first : η} {second : η'} (hrel : Rel first second) :
    Hardware.wordWidths first = Hardware.wordWidths second
  perform {first : η} {second : η'} (hrel : Rel first second) {index : Nat} (hon : On index)
    (call : Call) : Rel (Hardware.perform first index call) (Hardware.perform second index call)
  readCounter {first : η} {second : η'} (hrel : Rel first second) {index : Nat}
    (hon : On index) :
    Rel (Hardware.readCounter first index).2 (Hardware.readCounter second index).2
  writeCounter {first : η} {second : η'} (hrel : Rel first second) {index : Nat}
    (hon : On index) (value : UInt32) :
    (Hardware.writeCounter first index value).1 = (Hardware.writeCounter second index value).1 ∧
      Rel (Hardware.writeCounter first index value).2 (Hardware.writeCounter second index value).2

/-- The handle that a request names its instance by.  Only allocation names none. -/
def Request.device? {κ : Type} : Request κ -> Option Handle
  | allocate => none
  | acquire handle | close handle | enable handle | disable handle | state handle => some handle
  | setRate handle _ | currentRate handle | requestedRate handle | rateConfig handle => some handle
  | bind handle _ | hasCallback handle | setWordWidth handle _ | wordWidth handle => some handle
  | counter handle | setCounter handle _ | write handle _ | writeWords handle _ => some handle
  | read handle _ | readWords handle _ | readable handle | writable handle => some handle
  | pending handle | flush handle | overflows handle => some handle

/-- Whether a request looks at no other instances.  Allocation looks at all. -/
def Request.Within {κ : Type} (on : Nat -> Prop) (request : Request κ) : Prop :=
  match request.device? with
  | some handle => on handle.index
  | none => forall index, on index

theorem Request.within_of_all {κ : Type} {on : Nat -> Prop} (request : Request κ)
    (hall : forall index, on index) : request.Within on := by
  unfold Within
  split
  · exact hall _
  · exact hall

namespace Registry

variable {η η' : Type} [Hardware η] [Hardware η'] {κ : Type} {n slots : Nat}

structure Tied (tie : Hardware.Tie η η') (held : Buffers.Tie slots)
    (first : Registry η κ n slots) (second : Registry η' κ n slots) : Prop where
  family : first.family = second.family
  isBuffered : first.isBuffered = second.isBuffered
  slots (j : Fin n) (hon : tie.On j) : first.slotAt j = second.slotAt j
  buffers (j : Fin n) (hon : tie.On j) :
    Option.Rel held.Rel (first.buffersAt? j) (second.buffersAt? j)
  served (j : Fin n) (hon : tie.On j) : first.isServed j = second.isServed j
  interruptsClaimed : first.interruptsClaimed = second.interruptsClaimed
  hardware : tie.Rel first.hardware second.hardware

/-- Two results with the same answer, which leave registries that are tied. -/
structure ResultsTied {α : Type} (tie : Hardware.Tie η η') (held : Buffers.Tie slots)
    (first : α × Registry η κ n slots) (second : α × Registry η' κ n slots) : Prop where
  answer : first.1 = second.1
  after : Tied tie held first.2 second.2

theorem ResultsTied.map {α β : Type} {tie : Hardware.Tie η η'} {held : Buffers.Tie slots}
    {first : α × Registry η κ n slots} {second : α × Registry η' κ n slots}
    (hresults : ResultsTied tie held first second) (f : α -> β) :
    ResultsTied tie held (first.map f id) (second.map f id) where
  answer := congrArg f hresults.answer
  after := hresults.after

namespace Tied

variable {tie : Hardware.Tie η η'} {held : Buffers.Tie slots} {first : Registry η κ n slots}
  {second : Registry η' κ n slots} (htied : Tied tie held first second)
include htied

/-!
# What requests look at
-/

theorem locate (handle : Handle) : first.locate handle = second.locate handle := by
  unfold Registry.locate
  rw [htied.family]

section Located

variable {handle : Handle} (hon : tie.On handle.index)
include hon

omit htied in
theorem on_of_locate {j : Fin n} (hlocated : second.locate handle = .ok j) : tie.On j :=
  index_of_locate hlocated ▸ hon

omit htied in
theorem on_of_locateOpen {j : Fin n} (hheld : second.locateOpen handle = .ok j) : tie.On j :=
  index_of_locate (locate_of_locateOpen hheld).1 ▸ hon

theorem locateOpen : first.locateOpen handle = second.locateOpen handle := by
  unfold Registry.locateOpen
  rw [htied.locate]
  cases hlocated : second.locate handle with
  | error failure => rfl
  | ok j => simp only [htied.slots j (on_of_locate hon hlocated)]

omit hon in
/-- An instance has buffers in both registries or in neither. -/
theorem stored (j : Fin n) (hon : tie.On j) :
    (first.buffersAt? j = none ∧ second.buffersAt? j = none) ∨
    exists buffers others, first.buffersAt? j = some buffers ∧
      second.buffersAt? j = some others ∧ held.Rel buffers others := by
  have hrelated := htied.buffers j hon
  generalize first.buffersAt? j = former at hrelated
  generalize second.buffersAt? j = other at hrelated
  cases hrelated with
  | none => exact Or.inl ⟨rfl, rfl⟩
  | some hbuffers => exact Or.inr ⟨_, _, rfl, rfl, hbuffers⟩

theorem locateBuffers :
    (exists failure, first.locateBuffers handle = .error failure ∧
      second.locateBuffers handle = .error failure) ∨
    exists j buffers others, tie.On (j : Fin n) ∧ first.locateBuffers handle = .ok (j, buffers) ∧
      second.locateBuffers handle = .ok (j, others) ∧ held.Rel buffers others := by
  unfold Registry.locateBuffers
  rw [htied.locate]
  cases hlocated : second.locate handle with
  | error failure => exact Or.inl ⟨failure, rfl, rfl⟩
  | ok j =>
      have hon' := on_of_locate hon hlocated
      simp only [htied.slots j hon']
      rcases htied.stored j hon' with
        ⟨hfirst, hsecond⟩ | ⟨buffers, others, hfirst, hsecond, hbuffers⟩
      · rw [hfirst, hsecond]
        exact Or.inl ⟨_, rfl, rfl⟩
      · rw [hfirst, hsecond]
        by_cases hfree : (second.slotAt j).state = .unused
        · simp only [if_pos hfree]
          exact Or.inl ⟨_, rfl, rfl⟩
        · simp only [if_neg hfree]
          exact Or.inr ⟨j, buffers, others, hon', rfl, rfl, hbuffers⟩

end Located

theorem firstUnused? (hall : forall index, tie.On index) :
    first.firstUnused? = second.firstUnused? := by
  simp only [Registry.firstUnused?, htied.slots _ (hall _)]

section Instances

variable {j : Fin n} (hon : tie.On j)
include hon

theorem handlesInterrupt : first.handlesInterrupt j = second.handlesInterrupt j := by
  simp only [Registry.handlesInterrupt, htied.slots j hon, htied.isBuffered]

theorem widthInForce? : first.widthInForce? j = second.widthInForce? j := by
  simp only [Registry.widthInForce?, htied.slots j hon, tie.wordWidths htied.hardware]

theorem transferWidth : first.transferWidth j = second.transferWidth j := by
  simp only [Registry.transferWidth, htied.widthInForce? hon]

/-!
# Single changes
-/

omit hon in
theorem setSlot (j : Fin n) (slot : Slot κ) :
    Tied tie held (first.setSlot j slot) (second.setSlot j slot) :=
  { htied with
    slots := fun k hon => by
      rw [slotAt_setSlot, slotAt_setSlot, htied.slots k hon] }

omit hon in
theorem setBuffers (j : Fin n) {buffers others : Buffers slots}
    (hbuffers : held.Rel buffers others) :
    Tied tie held (first.setBuffers j buffers) (second.setBuffers j others) := by
  refine { htied with isBuffered := ?_, buffers := ?_ }
  · rw [isBuffered_setBuffers, isBuffered_setBuffers, htied.isBuffered]
  · intro k hon
    rw [buffersAt?_setBuffers, buffersAt?_setBuffers]
    split
    · rcases htied.stored k hon with ⟨hfirst, hsecond⟩ | ⟨_, _, hfirst, hsecond, _⟩
      · rw [hfirst, hsecond]
        exact Option.Rel.none
      · rw [hfirst, hsecond]
        exact Option.Rel.some hbuffers
    · exact htied.buffers k hon

omit hon in
theorem setInService (j : Fin n) (running : Bool) :
    Tied tie held (first.setInService j running) (second.setInService j running) :=
  { htied with
    served := fun k hon => by
      rw [isServed_setInService, isServed_setInService, htied.served k hon] }

omit hon in
theorem setHardware {hardware : η} {other : η'} (hhardware : tie.Rel hardware other) :
    Tied tie held (first.setHardware hardware) (second.setHardware other) :=
  { htied with hardware := hhardware }

theorem call (call : Call) : Tied tie held (first.call j call) (second.call j call) :=
  htied.setHardware (tie.perform htied.hardware hon call)

/-!
# Changes that requests make
-/

theorem switchOff : Tied tie held (first.switchOff j) (second.switchOff j) := by
  unfold Registry.switchOff
  rw [htied.slots j hon]
  split
  · exact ((htied.call hon _).call hon _).setSlot j _
  · exact htied

theorem wipe : Tied tie held (first.wipe j) (second.wipe j) := by
  unfold Registry.wipe
  rcases htied.stored j hon with ⟨hfirst, hsecond⟩ | ⟨_, _, hfirst, hsecond, hbuffers⟩
  · rw [hfirst, hsecond]
    exact htied.setSlot j {}
  · rw [hfirst, hsecond]
    exact (htied.setSlot j {}).setBuffers j (held.clear hbuffers)

theorem program
    (hstrategy : Hardware.rateStrategy first.hardware = Hardware.rateStrategy second.hardware)
    (divisor : Divisor) :
    Tied tie held (first.program j divisor) (second.program j divisor) := by
  unfold Registry.program
  rw [htied.slots j hon, hstrategy]
  split
  · exact ((htied.call hon _).call hon _).call hon _
  · exact htied.call hon _

theorem queue {buffers others : Buffers slots} (hbuffers : held.Rel buffers others)
    (words : List UInt16) :
    ResultsTied tie held (first.queue j buffers words) (second.queue j others words) := by
  rcases held.push hbuffers words with ⟨hstored, hpushed⟩
  have hqueued := htied.setBuffers j hpushed
  constructor
  · exact hstored
  · simp only [Registry.queue, hstored]
    split
    · exact hqueued.call hon .kickTransmit
    · exact hqueued

end Instances

/-!
# Operations
-/

theorem allocate (hall : forall index, tie.On index) :
    ResultsTied tie held first.allocate second.allocate := by
  unfold Registry.allocate
  rw [htied.firstUnused? hall]
  cases second.firstUnused? with
  | none => exact ⟨rfl, htied⟩
  | some j =>
      have hhandle : first.handle j = second.handle j := by
        rw [Registry.handle, Registry.handle, htied.family]
      exact ⟨congrArg Except.ok hhandle, htied.setSlot j _⟩

section Requests

variable {handle : Handle} (hon : tie.On handle.index)
include hon

theorem acquire : ResultsTied tie held (first.acquire handle) (second.acquire handle) := by
  unfold Registry.acquire
  rw [htied.locate]
  cases hlocated : second.locate handle with
  | error failure => exact ⟨rfl, htied⟩
  | ok j =>
      simp only [htied.slots j (on_of_locate hon hlocated)]
      split
      · exact ⟨rfl, htied.setSlot j _⟩
      · exact ⟨rfl, htied⟩

theorem close : ResultsTied tie held (first.close handle) (second.close handle) := by
  unfold Registry.close
  rw [htied.locateOpen hon]
  cases hheld : second.locateOpen handle with
  | error failure => exact ⟨rfl, htied⟩
  | ok j =>
      have hon' := on_of_locateOpen hon hheld
      simp only [htied.served j hon']
      split
      · exact ⟨rfl, htied.switchOff hon'⟩
      · exact ⟨rfl, (htied.switchOff hon').wipe hon'⟩

theorem enable : ResultsTied tie held (first.enable handle) (second.enable handle) := by
  unfold Registry.enable
  rw [htied.locateOpen hon]
  cases hheld : second.locateOpen handle with
  | error failure => exact ⟨rfl, htied⟩
  | ok j =>
      have hon' := on_of_locateOpen hon hheld
      simp only [htied.slots j hon', htied.handlesInterrupt hon']
      split
      · exact ⟨rfl, htied⟩
      · exact ⟨rfl, ((htied.call hon' _).call hon' _).setSlot j _⟩

theorem disable : ResultsTied tie held (first.disable handle) (second.disable handle) := by
  unfold Registry.disable
  rw [htied.locateOpen hon]
  cases hheld : second.locateOpen handle with
  | error failure => exact ⟨rfl, htied⟩
  | ok j => exact ⟨rfl, htied.switchOff (on_of_locateOpen hon hheld)⟩

/-- A rate is set alike if its divisor is programmed alike. -/
theorem setRate_of {rate : Rate}
    (hadopted : forall {i : Fin n}, second.locateOpen handle = .ok i -> forall divisor : Divisor,
      Tied tie held (first.adoptRate i rate divisor) (second.adoptRate i rate divisor)) :
    ResultsTied tie held (first.setRate handle rate) (second.setRate handle rate) := by
  unfold Registry.setRate
  rw [htied.locateOpen hon, tie.chain htied.hardware, tie.clock htied.hardware]
  cases hheld : second.locateOpen handle with
  | error failure => exact ⟨rfl, htied⟩
  | ok j =>
      cases hsolved : (Hardware.chain second.hardware).solve
          (Hardware.clock second.hardware) rate with
      | error failure => exact ⟨rfl, htied⟩
      | ok divisor => exact ⟨rfl, hadopted hheld divisor⟩

theorem setRate
    (hstrategy : Hardware.rateStrategy first.hardware = Hardware.rateStrategy second.hardware)
    (rate : Rate) :
    ResultsTied tie held (first.setRate handle rate) (second.setRate handle rate) := by
  refine htied.setRate_of hon ?_
  intro j hheld divisor
  have hon' := on_of_locateOpen hon hheld
  unfold Registry.adoptRate
  rw [htied.slots j hon']
  exact (htied.setSlot j _).program hon' hstrategy divisor

theorem bind (callback : Option κ) :
    ResultsTied tie held (first.bind handle callback) (second.bind handle callback) := by
  unfold Registry.bind
  rw [htied.locateOpen hon]
  cases hheld : second.locateOpen handle with
  | error failure => exact ⟨rfl, htied⟩
  | ok j =>
      have hon' := on_of_locateOpen hon hheld
      simp only [htied.slots j hon', htied.isBuffered]
      split
      · exact ⟨rfl, (htied.setSlot j _).call hon' _⟩
      · exact ⟨rfl, htied.setSlot j _⟩

theorem setWordWidth (bits : UInt8) :
    ResultsTied tie held (first.setWordWidth handle bits) (second.setWordWidth handle bits) := by
  unfold Registry.setWordWidth
  rw [htied.locateOpen hon, tie.wordWidths htied.hardware]
  cases hheld : second.locateOpen handle with
  | error failure => exact ⟨rfl, htied⟩
  | ok j =>
      have hon' := on_of_locateOpen hon hheld
      simp only [htied.slots j hon']
      split
      · exact ⟨rfl, (htied.setSlot j _).call hon' _⟩
      · exact ⟨rfl, htied⟩

theorem counter : Tied tie held (first.counter handle).2 (second.counter handle).2 := by
  unfold Registry.counter
  rw [htied.locateOpen hon]
  cases hheld : second.locateOpen handle with
  | error failure => exact htied
  | ok j => exact htied.setHardware (tie.readCounter htied.hardware (on_of_locateOpen hon hheld))

/-- A counter shows the same of what the hardware shows the same of. -/
theorem counter_shown {α : Type} (shown : Except Failure UInt32 -> α)
    (hread : forall i : Fin n, handle.index = i ->
      shown (Hardware.readCounter first.hardware i).1 =
        shown (Hardware.readCounter second.hardware i).1) :
    shown (first.counter handle).1 = shown (second.counter handle).1 := by
  unfold Registry.counter
  rw [htied.locateOpen hon]
  cases hheld : second.locateOpen handle with
  | error failure => rfl
  | ok i => exact hread i (index_of_locate (locate_of_locateOpen hheld).1)

theorem setCounter (value : UInt32) :
    ResultsTied tie held (first.setCounter handle value) (second.setCounter handle value) := by
  unfold Registry.setCounter
  rw [htied.locateOpen hon]
  cases hheld : second.locateOpen handle with
  | error failure => exact ⟨rfl, htied⟩
  | ok j =>
      rcases tie.writeCounter htied.hardware (on_of_locateOpen hon hheld) value with
        ⟨hdone, hhardware⟩
      exact ⟨hdone, htied.setHardware hhardware⟩

theorem write (bytes : List UInt8) :
    ResultsTied tie held (first.write handle bytes) (second.write handle bytes) := by
  unfold Registry.write
  rcases htied.locateBuffers hon with
    ⟨failure, hfirst, hsecond⟩ | ⟨j, buffers, others, hon', hfirst, hsecond, hbuffers⟩
  · rw [hfirst, hsecond]
    exact ⟨rfl, htied⟩
  · rw [hfirst, hsecond]
    simp only [htied.transferWidth hon']
    split
    · exact ⟨rfl, htied⟩
    · have hqueued := htied.queue hon' hbuffers (bytes.map UInt8.toUInt16)
      exact ⟨congrArg Except.ok hqueued.answer, hqueued.after⟩

theorem writeWords (words : List UInt16) :
    ResultsTied tie held (first.writeWords handle words) (second.writeWords handle words) := by
  unfold Registry.writeWords
  rcases htied.locateBuffers hon with
    ⟨failure, hfirst, hsecond⟩ | ⟨j, buffers, others, hon', hfirst, hsecond, hbuffers⟩
  · rw [hfirst, hsecond]
    exact ⟨rfl, htied⟩
  · rw [hfirst, hsecond]
    simp only [htied.transferWidth hon']
    split
    · exact ⟨rfl, htied⟩
    · have hqueued := htied.queue hon' hbuffers words
      exact ⟨congrArg Except.ok hqueued.answer, hqueued.after⟩

theorem flush : ResultsTied tie held (first.flush handle) (second.flush handle) := by
  unfold Registry.flush
  rcases htied.locateBuffers hon with
    ⟨failure, hfirst, hsecond⟩ | ⟨j, buffers, others, hon', hfirst, hsecond, hbuffers⟩
  · rw [hfirst, hsecond]
    exact ⟨rfl, htied⟩
  · rw [hfirst, hsecond]
    simp only [held.outboundSize hbuffers]
    split
    · exact ⟨rfl, htied⟩
    · exact ⟨rfl, htied.call hon' .kickTransmit⟩

theorem read (output : List UInt8) :
    (first.read handle output).1 = (second.read handle output).1 ∧
      (first.read handle output).2.1 = (second.read handle output).2.1 ∧
      Tied tie held (first.read handle output).2.2 (second.read handle output).2.2 := by
  unfold Registry.read
  rcases htied.locateBuffers hon with
    ⟨failure, hfirst, hsecond⟩ | ⟨j, buffers, others, hon', hfirst, hsecond, hbuffers⟩
  · rw [hfirst, hsecond]
    exact ⟨rfl, rfl, htied⟩
  · rw [hfirst, hsecond]
    simp only [htied.transferWidth hon']
    split
    · exact ⟨rfl, rfl, htied⟩
    · rcases held.popInto hbuffers UInt16.toUInt8 output with ⟨htaken, houtput, hpopped⟩
      exact ⟨congrArg Except.ok htaken, houtput, htied.setBuffers j hpopped⟩

theorem readWords (output : List UInt16) :
    (first.readWords handle output).1 = (second.readWords handle output).1 ∧
      (first.readWords handle output).2.1 = (second.readWords handle output).2.1 ∧
      Tied tie held (first.readWords handle output).2.2 (second.readWords handle output).2.2 := by
  unfold Registry.readWords
  rcases htied.locateBuffers hon with
    ⟨failure, hfirst, hsecond⟩ | ⟨j, buffers, others, hon', hfirst, hsecond, hbuffers⟩
  · rw [hfirst, hsecond]
    exact ⟨rfl, rfl, htied⟩
  · rw [hfirst, hsecond]
    rcases held.popInto hbuffers id output with ⟨htaken, houtput, hpopped⟩
    exact ⟨congrArg Except.ok htaken, houtput, htied.setBuffers j hpopped⟩

/-!
# Questions
-/

/-- What is told of a slot is the same. -/
theorem told {α : Type} (tell : Slot κ -> Except Failure α) :
    (first.locate handle).bind (tell ∘ first.slotAt) =
      (second.locate handle).bind (tell ∘ second.slotAt) := by
  rw [htied.locate]
  cases hlocated : second.locate handle with
  | error failure => rfl
  | ok j => exact congrArg tell (htied.slots j (on_of_locate hon hlocated))

theorem state : first.state handle = second.state handle :=
  htied.told hon fun slot => .ok slot.state

theorem currentRate : first.currentRate handle = second.currentRate handle := by
  unfold Registry.currentRate
  rw [htied.locateOpen hon]
  cases hheld : second.locateOpen handle with
  | error failure => rfl
  | ok j =>
      have hslot := htied.slots j (on_of_locateOpen hon hheld)
      simp only [Bind.bind, Except.bind, hslot]

theorem requestedRate : first.requestedRate handle = second.requestedRate handle := by
  unfold Registry.requestedRate
  rw [htied.locateOpen hon]
  cases hheld : second.locateOpen handle with
  | error failure => rfl
  | ok j =>
      have hslot := htied.slots j (on_of_locateOpen hon hheld)
      simp only [Bind.bind, Except.bind, hslot]

theorem rateConfig : first.rateConfig handle = second.rateConfig handle :=
  htied.told hon fun slot => .ok slot.rate

theorem hasCallback : first.hasCallback handle = second.hasCallback handle :=
  htied.told hon fun slot => .ok slot.callback.isSome

theorem wordWidth : first.wordWidth handle = second.wordWidth handle := by
  unfold Registry.wordWidth
  rw [htied.locateOpen hon]
  cases hheld : second.locateOpen handle with
  | error failure => rfl
  | ok j =>
      simp only [Bind.bind, Except.bind, htied.widthInForce? (on_of_locateOpen hon hheld)]

/-- What is measured on buffers that are tied is the same. -/
theorem level {measure : Buffers slots -> Nat}
    (hmeasure : forall {buffers others : Buffers slots},
      held.Rel buffers others -> measure buffers = measure others) :
    (first.locateBuffers handle).map (measure ·.2) =
      (second.locateBuffers handle).map (measure ·.2) := by
  rcases htied.locateBuffers hon with
    ⟨failure, hfirst, hsecond⟩ | ⟨j, buffers, others, _, hfirst, hsecond, hbuffers⟩
  · rw [hfirst, hsecond]
  · rw [hfirst, hsecond]
    exact congrArg Except.ok (hmeasure hbuffers)

theorem readable : first.readable handle = second.readable handle :=
  htied.level hon held.inboundSize

theorem writable : first.writable handle = second.writable handle :=
  htied.level hon fun hbuffers => congrArg (slots - 1 - ·) (held.outboundSize hbuffers)

theorem pending : first.pending handle = second.pending handle :=
  htied.level hon held.outboundSize

theorem overflows : first.overflows handle = second.overflows handle :=
  htied.level hon held.overflows

end Requests

/-!
# Requests
-/

theorem request {request : Request κ} (hwithin : request.Within tie.On)
    (hrate : forall handle rate, request = .setRate handle rate ->
      ResultsTied tie held (first.setRate handle rate) (second.setRate handle rate))
    (hcounter : forall handle, request = .counter handle ->
      (first.counter handle).1 = (second.counter handle).1) :
    ResultsTied tie held (request.run first) (request.run second) := by
  cases request with
  | allocate => exact (htied.allocate hwithin).map _
  | acquire handle => exact (htied.acquire hwithin).map _
  | close handle => exact (htied.close hwithin).map _
  | enable handle => exact (htied.enable hwithin).map _
  | disable handle => exact (htied.disable hwithin).map _
  | setRate handle rate => exact (hrate handle rate rfl).map _
  | bind handle callback => exact (htied.bind hwithin callback).map _
  | setWordWidth handle bits => exact (htied.setWordWidth hwithin bits).map _
  | counter handle =>
      refine ⟨?_, htied.counter hwithin⟩
      exact congrArg (Except.map Reply.counter) (hcounter handle rfl)
  | setCounter handle value => exact (htied.setCounter hwithin value).map _
  | write handle bytes => exact (htied.write hwithin bytes).map _
  | writeWords handle words => exact (htied.writeWords hwithin words).map _
  | flush handle => exact (htied.flush hwithin).map _
  | read handle output =>
      rcases htied.read hwithin output with ⟨htaken, houtput, hafter⟩
      refine ⟨?_, hafter⟩
      simp only [Request.run, htaken, houtput]
  | readWords handle output =>
      rcases htied.readWords hwithin output with ⟨htaken, houtput, hafter⟩
      refine ⟨?_, hafter⟩
      simp only [Request.run, htaken, houtput]
  | state handle => exact ⟨congrArg (Except.map _) (htied.state hwithin), htied⟩
  | currentRate handle => exact ⟨congrArg (Except.map _) (htied.currentRate hwithin), htied⟩
  | requestedRate handle => exact ⟨congrArg (Except.map _) (htied.requestedRate hwithin), htied⟩
  | rateConfig handle => exact ⟨congrArg (Except.map _) (htied.rateConfig hwithin), htied⟩
  | hasCallback handle => exact ⟨congrArg (Except.map _) (htied.hasCallback hwithin), htied⟩
  | wordWidth handle => exact ⟨congrArg (Except.map _) (htied.wordWidth hwithin), htied⟩
  | readable handle => exact ⟨congrArg (Except.map _) (htied.readable hwithin), htied⟩
  | writable handle => exact ⟨congrArg (Except.map _) (htied.writable hwithin), htied⟩
  | pending handle => exact ⟨congrArg (Except.map _) (htied.pending hwithin), htied⟩
  | overflows handle => exact ⟨congrArg (Except.map _) (htied.overflows hwithin), htied⟩

/-!
# Interrupts
-/

/-- An interrupt turns out alike and leaves tied registries, if the callback that it may call does.
What stands beside the line may come out in any relation that the callback sees to. -/
theorem interrupt {ω : Type} [Line ω] (Beside : ω -> ω -> Prop)
    (hrefl : forall line, Beside line line)
    (invoke : κ -> ω -> Registry η κ n slots -> ω × Registry η κ n slots)
    (invoke' : κ -> ω -> Registry η' κ n slots -> ω × Registry η' κ n slots) {index : Nat}
    (hon : tie.On index)
    (hinvoke : forall {i : Fin n}, i.val = index -> forall {callback : κ},
      (second.slotAt i).callback = some callback -> forall line : ω,
        Beside (invoke callback line (first.setInService i true)).1
          (invoke' callback line (second.setInService i true)).1 ∧
        Tied tie held (invoke callback line (first.setInService i true)).2
          (invoke' callback line (second.setInService i true)).2)
    (line : ω) :
    (first.interrupt invoke index line).1 = (second.interrupt invoke' index line).1 ∧
      Beside (first.interrupt invoke index line).2.1 (second.interrupt invoke' index line).2.1 ∧
      Tied tie held (first.interrupt invoke index line).2.2
        (second.interrupt invoke' index line).2.2 := by
  by_cases hin : index < n
  · obtain ⟨i, rfl⟩ : exists i : Fin n, i.val = index := ⟨⟨index, hin⟩, rfl⟩
    have hslot := htied.slots i hon
    by_cases hruns : (second.slotAt i).state = .enabled
    · have hserving := htied.setInService i true
      cases hbound : (second.slotAt i).callback with
      | some callback =>
          rcases hinvoke rfl hbound (Line.acknowledge line) with ⟨hbeside, hafter⟩
          rw [interrupt_callback _ _ hruns hbound,
            interrupt_callback _ _ (by rwa [hslot]) (by rwa [hslot])]
          exact ⟨rfl, hbeside, hafter.setInService i false⟩
      | none =>
          rcases htied.stored i hon with
            ⟨hfirst, hsecond⟩ | ⟨buffers, others, hfirst, hsecond, hbuffers⟩
          · rw [interrupt_unbuffered _ _ hruns hbound hsecond,
              interrupt_unbuffered _ _ (by rwa [hslot]) (by rwa [hslot]) hfirst]
            exact ⟨rfl, hrefl _, hserving.setInService i false⟩
          · rcases held.exchange hbuffers (Line.acknowledge line) with ⟨hservice, hline, hmoved⟩
            rw [interrupt_exchange _ _ hruns hbound hsecond,
              interrupt_exchange _ _ (by rwa [hslot]) (by rwa [hslot]) hfirst]
            refine ⟨congrArg Except.ok hservice, ?_,
              (hserving.setBuffers i hmoved).setInService i false⟩
            rw [hline]
            exact hrefl _
    · rw [interrupt_resting _ _ hruns, interrupt_resting _ _ (by rwa [hslot])]
      exact ⟨rfl, hrefl _, htied⟩
  · rw [interrupt_outside _ _ hin, interrupt_outside _ _ hin]
    exact ⟨rfl, hrefl _, htied⟩

end Tied

/-!
# Snapshots
-/

section Snapshots

variable {η η' : Type} [Inspectable η] [Inspectable η'] {κ : Type} {n slots : Nat}
  {tie : Hardware.Tie η η'} {held : Buffers.Tie slots} {first : Registry η κ n slots}
  {second : Registry η' κ n slots} (htied : Tied tie held first second) {handle : Handle}
  (hon : tie.On handle.index)
include htied hon

/-- Snapshots tell the same, but perhaps for the counter. -/
theorem Tied.snapshot_but_counter (counter : Except Failure UInt32) :
    { (first.snapshot handle).1 with counter } = { (second.snapshot handle).1 with counter } := by
  have hafter := htied.counter hon
  simp only [Registry.snapshot, htied.state hon, htied.rateConfig hon, htied.hasCallback hon,
    htied.currentRate hon, htied.requestedRate hon, htied.wordWidth hon, hafter.readable hon,
    hafter.writable hon, hafter.pending hon, hafter.overflows hon]

theorem Tied.snapshot (hcounter : (first.counter handle).1 = (second.counter handle).1) :
    ResultsTied tie held (first.snapshot handle) (second.snapshot handle) where
  answer := by
    have hsame := htied.snapshot_but_counter hon (first.counter handle).1
    exact hsame.trans (congrArg
      (fun counter => { (second.snapshot handle).1 with counter }) hcounter)
  after := htied.counter hon

end Snapshots

end Registry
end PeripheralBank
