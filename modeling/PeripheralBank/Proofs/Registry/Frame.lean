import PeripheralBank.Proofs.Registry.Tied

/-!
# What a request leaves alone

A request that names an instance changes nothing that a registry keeps of the others, and nothing
of the registry as a whole.  What the hardware does is left open here.
-/

namespace PeripheralBank
namespace Registry

variable {η : Type} [Hardware η] {κ : Type} {n slots : Nat}

/-- All that a registry keeps of an instance. -/
def partAt (registry : Registry η κ n slots) (j : Fin n) : Slot κ × Option (Buffers slots) × Bool :=
  (registry.slotAt j, registry.buffersAt? j, registry.isServed j)

/-- A registry is given by what it keeps of each instance, and what it keeps of the whole. -/
theorem eq_of_parts {first second : Registry η κ n slots} (hfamily : first.family = second.family)
    (hhardware : first.hardware = second.hardware)
    (hbuffered : first.isBuffered = second.isBuffered)
    (hparts : forall j, first.partAt j = second.partAt j)
    (hclaimed : first.interruptsClaimed = second.interruptsClaimed) : first = second := by
  rcases first with ⟨family, hardware, table, stored, inService, claimed, hbelow, hdriven⟩
  rcases second with ⟨family', hardware', table', stored', inService', claimed', _, _⟩
  cases hfamily
  cases hhardware
  cases hclaimed
  have htable : table = table' :=
    Vector.ext fun j hj => congrArg Prod.fst (hparts ⟨j, hj⟩)
  have hservice : inService = inService' :=
    Vector.ext fun j hj => congrArg (·.2.2) (hparts ⟨j, hj⟩)
  have hstorage : stored = stored' := by
    cases stored with
    | none =>
        cases stored' with
        | none => rfl
        | some _ => cases hbuffered
    | some storage =>
        cases stored' with
        | none => cases hbuffered
        | some storage' =>
            exact congrArg some (Vector.ext fun j hj =>
              Option.some.inj (congrArg (·.2.1) (hparts ⟨j, hj⟩)))
  rw [htable, hservice, hstorage]

/-- Registries that are tied by equal buffers keep the same of each instance that is looked at. -/
theorem Tied.partAt {η' : Type} [Hardware η'] {tie : Hardware.Tie η η'}
    {first : Registry η κ n slots} {second : Registry η' κ n slots}
    (htied : Tied tie .equal first second) (j : Fin n) (hon : tie.On j) :
    first.partAt j = second.partAt j := by
  have hbuffers : first.buffersAt? j = second.buffersAt? j := by
    rcases htied.stored j hon with ⟨hfirst, hsecond⟩ | ⟨_, _, hfirst, hsecond, hequal⟩
    · rw [hfirst, hsecond]
    · rw [hfirst, hsecond]
      exact congrArg some hequal
  rw [Registry.partAt, htied.slots j hon, hbuffers, htied.served j hon, Registry.partAt]

structure SameOff (place : Nat) (before after : Registry η κ n slots) : Prop where
  family : after.family = before.family
  isBuffered : after.isBuffered = before.isBuffered
  interruptsClaimed : after.interruptsClaimed = before.interruptsClaimed
  slots (j : Fin n) (hoff : place ≠ j) : after.slotAt j = before.slotAt j
  buffers (j : Fin n) (hoff : place ≠ j) : after.buffersAt? j = before.buffersAt? j
  served (j : Fin n) (hoff : place ≠ j) : after.isServed j = before.isServed j

namespace SameOff

variable {place : Nat} {before middle after : Registry η κ n slots}

theorem refl (place : Nat) (registry : Registry η κ n slots) :
    SameOff place registry registry where
  family := rfl
  isBuffered := rfl
  interruptsClaimed := rfl
  slots _ _ := rfl
  buffers _ _ := rfl
  served _ _ := rfl

theorem trans (hfirst : SameOff place before middle) (hsecond : SameOff place middle after) :
    SameOff place before after where
  family := hsecond.family.trans hfirst.family
  isBuffered := hsecond.isBuffered.trans hfirst.isBuffered
  interruptsClaimed := hsecond.interruptsClaimed.trans hfirst.interruptsClaimed
  slots j hoff := (hsecond.slots j hoff).trans (hfirst.slots j hoff)
  buffers j hoff := (hsecond.buffers j hoff).trans (hfirst.buffers j hoff)
  served j hoff := (hsecond.served j hoff).trans (hfirst.served j hoff)

theorem partAt (hsame : SameOff place before after) (j : Fin n) (hoff : place ≠ j) :
    after.partAt j = before.partAt j := by
  rw [Registry.partAt, hsame.slots j hoff, hsame.buffers j hoff, hsame.served j hoff,
    Registry.partAt]

/-!
# Single changes
-/

section Changes

variable (registry : Registry η κ n slots) (i : Fin n)

theorem setHardware (place : Nat) (hardware : η) :
    SameOff place registry (registry.setHardware hardware) :=
  { refl place registry with }

theorem call (call : Call) : SameOff i registry (registry.call i call) :=
  setHardware registry i _

theorem setSlot (slot : Slot κ) : SameOff i registry (registry.setSlot i slot) :=
  { refl i registry with
    slots := fun j hoff => by
      rw [slotAt_setSlot, if_neg (mt (congrArg Fin.val) hoff)] }

theorem setBuffers (buffers : Buffers slots) :
    SameOff i registry (registry.setBuffers i buffers) :=
  { refl i registry with
    isBuffered := isBuffered_setBuffers registry i buffers
    buffers := fun j hoff => by
      rw [buffersAt?_setBuffers, if_neg (mt (congrArg Fin.val) hoff)] }

theorem setInService (running : Bool) : SameOff i registry (registry.setInService i running) :=
  { refl i registry with
    served := fun j hoff => by
      rw [isServed_setInService, if_neg (mt (congrArg Fin.val) hoff)] }

/-!
# Changes that requests make
-/

theorem switchOff : SameOff i registry (registry.switchOff i) := by
  unfold Registry.switchOff
  split
  · exact ((call registry i _).trans (call _ i _)).trans (setSlot _ i _)
  · exact refl i registry

theorem switchOn : SameOff i registry (registry.switchOn i) :=
  ((call registry i _).trans (call _ i _)).trans (setSlot _ i _)

theorem wipe : SameOff i registry (registry.wipe i) := by
  unfold Registry.wipe
  split
  · exact setSlot registry i {}
  · exact (setSlot registry i {}).trans (setBuffers _ i _)

theorem adoptRate (rate : Rate) (divisor : Divisor) :
    SameOff i registry (registry.adoptRate i rate divisor) := by
  have hkept := setSlot registry i
    { registry.slotAt i with rate := { requested := some rate, divisor } }
  unfold Registry.adoptRate program
  split
  · exact hkept.trans (((call _ i _).trans (call _ i _)).trans (call _ i _))
  · exact hkept.trans (call _ i _)

theorem adoptWidth (bits : UInt8) : SameOff i registry (registry.adoptWidth i bits) :=
  (setSlot registry i _).trans (call _ i _)

theorem rebind (callback : Option κ) : SameOff i registry (registry.rebind i callback) := by
  unfold Registry.rebind
  split
  · exact (setSlot registry i _).trans (call _ i _)
  · exact setSlot registry i _

theorem queue (buffers : Buffers slots) (words : List UInt16) :
    SameOff i registry (registry.queue i buffers words).2 := by
  simp only [Registry.queue]
  split
  · exact (setBuffers registry i _).trans (call _ i _)
  · exact setBuffers registry i _

end Changes

/-!
# Requests
-/

theorem of_effect {request : Request κ} {answer : Except Failure Reply}
    (heffect : request.Effect before answer after) (hwithin : request.Within (· = place)) :
    SameOff place before after := by
  have hlocate {handle : Handle} {i : Fin n} (hlocated : before.locate handle = .ok i)
      (hat : handle.index = place) : place = i :=
    hat.symm.trans (index_of_locate hlocated)
  have hopen {handle : Handle} {i : Fin n} (hheld : before.locateOpen handle = .ok i) :=
    hlocate (locate_of_locateOpen hheld).1
  have hstore {handle : Handle} {i : Fin n} {buffers : Buffers slots}
      (hlocated : before.locateBuffers handle = .ok (i, buffers)) :=
    hlocate (locate_of_locateBuffers hlocated).1
  cases heffect with
  | failed _ _ | told _ _ | stayedOn _ _ | drained _ _ => exact refl place before
  | allocated _ => exact absurd (hwithin (place + 1)) (Nat.succ_ne_self place)
  | acquired hlocated _ => exact hlocate hlocated hwithin ▸ setSlot before _ _
  | waited hheld _ => exact hopen hheld hwithin ▸ switchOff before _
  | closed hheld _ => exact hopen hheld hwithin ▸ (switchOff before _).trans (wipe _ _)
  | turnedOn hheld _ => exact hopen hheld hwithin ▸ switchOn before _
  | turnedOff hheld => exact hopen hheld hwithin ▸ switchOff before _
  | rated hheld _ => exact hopen hheld hwithin ▸ adoptRate before _ _ _
  | bound hheld callback => exact hopen hheld hwithin ▸ rebind before _ callback
  | widened hheld _ => exact hopen hheld hwithin ▸ adoptWidth before _ _
  | counted _ => exact setHardware before place _
  | recounted _ _ => exact setHardware before place _
  | wroteBytes hlocated _ _ => exact hstore hlocated hwithin ▸ queue before _ _ _
  | wroteWords hlocated _ => exact hstore hlocated hwithin ▸ queue before _ _ _
  | readBytes hlocated _ _ => exact hstore hlocated hwithin ▸ setBuffers before _ _
  | readWords hlocated _ => exact hstore hlocated hwithin ▸ setBuffers before _ _
  | kicked hlocated _ => exact hstore hlocated hwithin ▸ call before _ _

/-!
# Interrupts
-/

theorem interrupt {ω : Type} [Line ω]
    (invoke : κ -> ω -> Registry η κ n slots -> ω × Registry η κ n slots)
    (hinvoke : forall {i : Fin n}, i.val = place -> forall {callback : κ},
      (before.slotAt i).callback = some callback -> forall line : ω,
        SameOff place (before.setInService i true)
          (invoke callback line (before.setInService i true)).2)
    (line : ω) : SameOff place before (before.interrupt invoke place line).2.2 := by
  by_cases hin : place < n
  · obtain ⟨i, rfl⟩ : exists i : Fin n, i.val = place := ⟨⟨place, hin⟩, rfl⟩
    have hmarked := setInService before i true
    by_cases hruns : (before.slotAt i).state = .enabled
    · cases hbound : (before.slotAt i).callback with
      | some callback =>
          rw [interrupt_callback _ _ hruns hbound]
          have hcalled := hinvoke rfl hbound (Line.acknowledge line)
          exact (hmarked.trans hcalled).trans (setInService _ i false)
      | none =>
          cases hstored : before.buffersAt? i with
          | none =>
              rw [interrupt_unbuffered _ _ hruns hbound hstored]
              exact hmarked.trans (setInService _ i false)
          | some buffers =>
              rw [interrupt_exchange _ _ hruns hbound hstored]
              exact (hmarked.trans (setBuffers _ i _)).trans (setInService _ i false)
    · rw [interrupt_resting _ _ hruns]
      exact refl i before
  · rw [interrupt_outside _ _ hin]
    exact refl place before

end SameOff
end Registry
end PeripheralBank
