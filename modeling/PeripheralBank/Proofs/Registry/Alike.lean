import PeripheralBank.Proofs.Registry.Tied
import PeripheralBank.Proofs.Simulation.Alike

/-!
# Registries that differ behind one instance

Two registries over simulated hardware are alike off an instance if they keep the same of
every instance, hold the same words, and their hardware differs at most in the registers of
that instance.  They answer every request alike and stay alike, except that the counter of
the instance may have another value.
-/

namespace PeripheralBank
namespace Registry

variable {κ : Type} {m n slots : Nat}

structure AlikeOff (i : Fin n) (first second : Registry (SimulatedHardware m) κ n slots) :
    Prop where
  family : first.family = second.family
  slots (j : Fin n) : first.slotAt j = second.slotAt j
  buffers (j : Fin n) : Option.Rel Buffers.Alike (first.buffersAt? j) (second.buffersAt? j)
  inService : first.inService = second.inService
  interruptsClaimed : first.interruptsClaimed = second.interruptsClaimed
  hardware : SimulatedHardware.AlikeOff i first.hardware second.hardware

/-- Two results with the same answer, which leave registries that are alike. -/
structure ResultsAlike {α : Type} (i : Fin n)
    (first second : α × Registry (SimulatedHardware m) κ n slots) : Prop where
  answer : first.1 = second.1
  after : AlikeOff i first.2 second.2

theorem ResultsAlike.map {α β : Type} {i : Fin n}
    {first second : α × Registry (SimulatedHardware m) κ n slots}
    (hresults : ResultsAlike i first second) (f : α -> β) :
    ResultsAlike i (first.map f id) (second.map f id) where
  answer := congrArg f hresults.answer
  after := hresults.after

/-!
# The tie between them
-/

/-- Alike registries are tied at every instance. -/
def alikeTie (place : Nat) : Hardware.Tie (SimulatedHardware m) (SimulatedHardware m) where
  On _ := True
  Rel := SimulatedHardware.AlikeOff place
  chain halike := congrArg Profile.chain halike.profile
  clock halike := halike.clock
  wordWidths halike := congrArg Profile.wordWidths halike.profile
  perform halike _ _ call := halike.perform _ call
  readCounter halike _ _ := halike
  writeCounter halike _ _ value := halike.writeCounter _ value

theorem on_alikeTie (place index : Nat) :
    (alikeTie place : Hardware.Tie (SimulatedHardware m) _).On index := trivial

variable {i : Fin n} {first second : Registry (SimulatedHardware m) κ n slots}

theorem alikeOff_of_tied (htied : Tied (alikeTie i) .alike first second) :
    AlikeOff i first second where
  family := htied.family
  slots j := htied.slots j trivial
  buffers j := htied.buffers j trivial
  inService := Vector.ext fun j hj => htied.served ⟨j, hj⟩ trivial
  interruptsClaimed := htied.interruptsClaimed
  hardware := htied.hardware

theorem ResultsAlike.of_tied {α : Type}
    {first second : α × Registry (SimulatedHardware m) κ n slots}
    (hresults : ResultsTied (alikeTie i) .alike first second) : ResultsAlike i first second where
  answer := hresults.answer
  after := alikeOff_of_tied hresults.after

namespace AlikeOff

variable (halike : AlikeOff i first second)
include halike

theorem tied : Tied (alikeTie i) .alike first second where
  family := halike.family
  isBuffered := by
    have hstored := halike.buffers i
    rw [← isSome_buffersAt? first i, ← isSome_buffersAt? second i]
    generalize first.buffersAt? i = former at hstored
    generalize second.buffersAt? i = other at hstored
    cases hstored with
    | none => rfl
    | some _ => rfl
  slots j _ := halike.slots j
  buffers j _ := halike.buffers j
  served j _ := congrArg (·[j]) halike.inService
  interruptsClaimed := halike.interruptsClaimed
  hardware := halike.hardware

theorem setHardware {hardware other : SimulatedHardware m}
    (hhardware : SimulatedHardware.AlikeOff i hardware other) :
    AlikeOff i (first.setHardware hardware) (second.setHardware other) :=
  { halike with hardware := hhardware }

/-!
# Counters
-/

theorem counter (handle : Handle) :
    AlikeOff i (first.counter handle).2 (second.counter handle).2 :=
  alikeOff_of_tied (halike.tied.counter (on_alikeTie i handle.index))

/-- The counters of all other instances are the same. -/
theorem counter_fst {handle : Handle} (hoff : handle.index ≠ i) :
    (first.counter handle).1 = (second.counter handle).1 :=
  halike.tied.counter_shown (on_alikeTie i handle.index) id fun _ hindex =>
    halike.hardware.readCounter (hindex ▸ hoff)

/-- A counter is there to be read in both registries or in neither. -/
theorem counter_map {α : Type} (handle : Handle) (answer : α) :
    (first.counter handle).1.map (fun _ => answer) =
      (second.counter handle).1.map (fun _ => answer) :=
  halike.tied.counter_shown (on_alikeTie i handle.index) (Except.map fun _ => answer) fun j _ =>
    halike.hardware.readCounter_map j answer

/-!
# Requests
-/

/-- Every request is answered alike, unless it asks for the counter behind which the registries
differ. -/
theorem request {request : Request κ}
    (hquiet : forall handle, request = .counter handle -> handle.index ≠ i) :
    ResultsAlike i (request.run first) (request.run second) :=
  .of_tied (halike.tied.request (request.within_of_all (on_alikeTie i))
    (fun handle rate _ =>
      halike.tied.setRate (on_alikeTie i handle.index) halike.hardware.strategy rate)
    fun handle hasked => halike.counter_fst (hquiet handle hasked))

end AlikeOff

end Registry
end PeripheralBank
