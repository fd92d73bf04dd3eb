import PeripheralBank.Proofs.Registry.Effect

/-!
# What a registry keeps of one instance

The changes of a registry are described by what they leave of each instance: its slot and
its buffers.  A change that is made to one instance leaves every other as it was, so each
equation here has the shape `if i = j then … else …`.
-/

namespace PeripheralBank

/-- The slot of an instance that was turned off. -/
def Slot.halted {κ : Type} (slot : Slot κ) : Slot κ :=
  if slot.state = .enabled then { slot with state := .opened } else slot

@[simp]
theorem Slot.wordWidth_halted {κ : Type} (slot : Slot κ) :
    slot.halted.wordWidth = slot.wordWidth := by
  unfold halted
  split
  · rfl
  · rfl

theorem Slot.halted_ne_enabled {κ : Type} (slot : Slot κ) : slot.halted.state ≠ .enabled := by
  unfold halted
  split
  · exact State.noConfusion
  · assumption

theorem Slot.halted_ne_unused {κ : Type} {slot : Slot κ} (hheld : slot.state ≠ .unused) :
    slot.halted.state ≠ .unused := by
  unfold halted
  split
  · exact State.noConfusion
  · exact hheld

namespace Registry

variable {η : Type} [Hardware η] {κ : Type} {n slots : Nat}

/-!
# Located handles
-/

theorem index_of_locate {registry : Registry η κ n slots} {handle : Handle} {i : Fin n}
    (hlocated : registry.locate handle = .ok i) : handle.index = i := by
  unfold locate at hlocated
  split at hlocated
  · cases hlocated
  · split at hlocated
    · cases hlocated
      rfl
    · cases hlocated

theorem index_handle (registry : Registry η κ n slots) (i : Fin n) :
    (registry.handle i).index = i := by
  rw [Registry.handle, Handle.index_ofIndex]
  exact Nat.mod_eq_of_lt (Nat.lt_trans i.isLt
    (Nat.lt_trans registry.below_nullIndex (by decide)))

/-- The handle of an instance locates it. -/
theorem locate_handle (registry : Registry η κ n slots) (i : Fin n) :
    registry.locate (registry.handle i) = .ok i := by
  have hfamily : (registry.handle i).family? = some registry.family :=
    Handle.family?_ofIndex registry.family i
  have hdevice : (registry.handle i).isNull = false := by
    refine beq_eq_false_iff_ne.mpr fun hnull => ?_
    rw [hnull] at hfamily
    cases hfamily
  have hin : (registry.handle i).index < n := by
    rw [index_handle]
    exact i.isLt
  unfold locate
  rw [hdevice, hfamily, bne_self_eq_false, Bool.or_false, if_neg Bool.false_ne_true, dif_pos hin]
  exact congrArg Except.ok (Fin.ext (index_handle registry i))

theorem rateConfig_handle (registry : Registry η κ n slots) (i : Fin n) :
    registry.rateConfig (registry.handle i) = .ok (registry.slotAt i).rate := by
  unfold rateConfig
  rw [locate_handle]
  rfl

theorem locate_of_locateOpen {registry : Registry η κ n slots} {handle : Handle} {i : Fin n}
    (hheld : registry.locateOpen handle = .ok i) :
    registry.locate handle = .ok i ∧ (registry.slotAt i).state ≠ .unused := by
  unfold locateOpen at hheld
  cases hlocated : registry.locate handle with
  | error failure =>
      rw [hlocated] at hheld
      cases hheld
  | ok j =>
      rw [hlocated] at hheld
      by_cases hfree : (registry.slotAt j).state = .unused
      · simp only [if_pos hfree] at hheld
        cases hheld
      · simp only [if_neg hfree] at hheld
        cases hheld
        exact ⟨rfl, hfree⟩

theorem locate_of_locateBuffers {registry : Registry η κ n slots} {handle : Handle}
    {i : Fin n} {buffers : Buffers slots}
    (hlocated : registry.locateBuffers handle = .ok (i, buffers)) :
    registry.locate handle = .ok i ∧ (registry.slotAt i).state ≠ .unused ∧
      registry.buffersAt? i = some buffers := by
  unfold locateBuffers at hlocated
  cases hplace : registry.locate handle with
  | error failure =>
      rw [hplace] at hlocated
      cases hlocated
  | ok j =>
      rw [hplace] at hlocated
      cases hstored : registry.buffersAt? j with
      | none =>
          simp only [hstored] at hlocated
          cases hlocated
      | some found =>
          simp only [hstored] at hlocated
          by_cases hfree : (registry.slotAt j).state = .unused
          · rw [if_pos hfree] at hlocated
            cases hlocated
          · rw [if_neg hfree] at hlocated
            cases hlocated
            exact ⟨rfl, hfree, hstored⟩

section Held

variable {registry : Registry η κ n slots} {i : Fin n}
  (hheld : (registry.slotAt i).state ≠ .unused)
include hheld

/-- The handle of a held instance gets past the check that it is held. -/
theorem locateOpen_handle : registry.locateOpen (registry.handle i) = .ok i := by
  unfold locateOpen
  rw [locate_handle]
  exact if_neg hheld

/-- With buffers it gets past the check that there are some, too. -/
theorem locateBuffers_handle {buffers : Buffers slots}
    (hstored : registry.buffersAt? i = some buffers) :
    registry.locateBuffers (registry.handle i) = .ok (i, buffers) := by
  unfold locateBuffers
  simp only [locate_handle, hstored]
  exact if_neg hheld

theorem requestedRate_handle :
    registry.requestedRate (registry.handle i) =
      match (registry.slotAt i).rate.requested with
      | none => refuse .invalidState
      | some rate => .ok rate := by
  unfold requestedRate
  rw [locateOpen_handle hheld]
  rfl

theorem currentRate_handle :
    registry.currentRate (registry.handle i) =
      match (registry.slotAt i).rate.achieved? with
      | none => refuse .invalidState
      | some rate => .ok rate := by
  unfold currentRate
  rw [locateOpen_handle hheld]
  rfl

theorem wordWidth_handle :
    registry.wordWidth (registry.handle i) =
      match registry.widthInForce? i with
      | none => refuse .unsupported
      | some width => .ok width := by
  unfold wordWidth
  rw [locateOpen_handle hheld]
  rfl

end Held

theorem unused_of_firstUnused? {registry : Registry η κ n slots} {i : Fin n}
    (hfree : registry.firstUnused? = some i) : (registry.slotAt i).state = .unused := by
  simpa [slotAt] using List.find?_some hfree

/-!
# Single changes
-/

section Changes

variable (registry : Registry η κ n slots) (i j : Fin n)

@[simp]
theorem slotAt_setSlot (slot : Slot κ) :
    (registry.setSlot i slot).slotAt j = if i = j then slot else registry.slotAt j := by
  simp [slotAt, setSlot, Vector.getElem_set, Fin.ext_iff]

theorem slotAt_update (change : Slot κ -> Slot κ) :
    (registry.setSlot i (change (registry.slotAt i))).slotAt j =
      if i = j then change (registry.slotAt j) else registry.slotAt j := by
  rw [slotAt_setSlot]
  by_cases hsame : i = j
  · rw [if_pos hsame, if_pos hsame, hsame]
  · rw [if_neg hsame, if_neg hsame]

@[simp]
theorem slotAt_setBuffers (buffers : Buffers slots) :
    (registry.setBuffers i buffers).slotAt j = registry.slotAt j := rfl

@[simp]
theorem slotAt_setHardware (hardware : η) :
    (registry.setHardware hardware).slotAt j = registry.slotAt j := rfl

@[simp]
theorem slotAt_call (call : Call) : (registry.call i call).slotAt j = registry.slotAt j := rfl

@[simp]
theorem slotAt_setInService (running : Bool) :
    (registry.setInService i running).slotAt j = registry.slotAt j := rfl

@[simp]
theorem buffersAt?_setSlot (slot : Slot κ) :
    (registry.setSlot i slot).buffersAt? j = registry.buffersAt? j := rfl

@[simp]
theorem buffersAt?_setBuffers (buffers : Buffers slots) :
    (registry.setBuffers i buffers).buffersAt? j =
      if i = j then (registry.buffersAt? j).map fun _ => buffers
      else registry.buffersAt? j := by
  cases hstored : registry.buffers with
  | none => simp [buffersAt?, setBuffers, hstored]
  | some storage =>
      by_cases hsame : i = j
      · simp [buffersAt?, setBuffers, hstored, hsame]
      · have hapart : i.val ≠ j.val := fun heq => hsame (Fin.ext heq)
        simp [buffersAt?, setBuffers, hstored, hsame, hapart]

@[simp]
theorem buffersAt?_setHardware (hardware : η) :
    (registry.setHardware hardware).buffersAt? j = registry.buffersAt? j := rfl

@[simp]
theorem buffersAt?_call (call : Call) :
    (registry.call i call).buffersAt? j = registry.buffersAt? j := rfl

@[simp]
theorem buffersAt?_setInService (running : Bool) :
    (registry.setInService i running).buffersAt? j = registry.buffersAt? j := rfl

@[simp]
theorem isServed_setInService (running : Bool) :
    (registry.setInService i running).isServed j =
      if i = j then running else registry.isServed j := by
  simp [isServed, setInService, Vector.getElem_set, Fin.ext_iff]

theorem isSome_buffersAt? : (registry.buffersAt? j).isSome = registry.isBuffered := by
  rw [buffersAt?, Option.isSome_map, isBuffered]

/-!
# Changes that requests make
-/

@[simp]
theorem slotAt_hold :
    (registry.hold i).slotAt j = if i = j then { state := .opened } else registry.slotAt j :=
  slotAt_setSlot registry i j _

@[simp]
theorem buffersAt?_hold : (registry.hold i).buffersAt? j = registry.buffersAt? j := rfl

@[simp]
theorem slotAt_switchOff :
    (registry.switchOff i).slotAt j =
      if i = j then (registry.slotAt j).halted else registry.slotAt j := by
  unfold switchOff
  by_cases hruns : (registry.slotAt i).state = .enabled
  · rw [if_pos hruns, slotAt_setSlot]
    by_cases hsame : i = j
    · subst j
      rw [if_pos rfl, if_pos rfl, Slot.halted, if_pos hruns]
    · rw [if_neg hsame, if_neg hsame]
      rfl
  · rw [if_neg hruns]
    by_cases hsame : i = j
    · subst j
      rw [if_pos rfl, Slot.halted, if_neg hruns]
    · rw [if_neg hsame]

@[simp]
theorem buffersAt?_switchOff : (registry.switchOff i).buffersAt? j = registry.buffersAt? j := by
  unfold switchOff
  split
  · rfl
  · rfl

@[simp]
theorem slotAt_switchOn :
    (registry.switchOn i).slotAt j =
      if i = j then { registry.slotAt j with state := .enabled } else registry.slotAt j :=
  slotAt_update registry i j ({ · with state := .enabled })

@[simp]
theorem buffersAt?_switchOn : (registry.switchOn i).buffersAt? j = registry.buffersAt? j := rfl

@[simp]
theorem slotAt_wipe :
    (registry.wipe i).slotAt j = if i = j then {} else registry.slotAt j := by
  rw [← slotAt_setSlot registry i j {}]
  unfold wipe
  split
  · rfl
  · rfl

@[simp]
theorem buffersAt?_wipe :
    (registry.wipe i).buffersAt? j =
      if i = j then (registry.buffersAt? j).map Buffers.clear else registry.buffersAt? j := by
  unfold wipe
  cases hstored : registry.buffersAt? i with
  | none =>
      by_cases hsame : i = j
      · rw [if_pos hsame, ← hsame, hstored]
        exact hstored
      · rw [if_neg hsame]
        rfl
  | some buffers =>
      show (((registry.setSlot i {}).setBuffers i buffers.clear).buffersAt? j) = _
      rw [buffersAt?_setBuffers, buffersAt?_setSlot]
      by_cases hsame : i = j
      · rw [if_pos hsame, if_pos hsame, ← hsame, hstored]
        rfl
      · rw [if_neg hsame, if_neg hsame]

theorem hardware_wipe : (registry.wipe i).hardware = registry.hardware := by
  unfold wipe
  split
  · rfl
  · rfl

@[simp]
theorem slotAt_program (divisor : Divisor) :
    (registry.program i divisor).slotAt j = registry.slotAt j := by
  unfold program
  split
  · rfl
  · rfl

@[simp]
theorem buffersAt?_program (divisor : Divisor) :
    (registry.program i divisor).buffersAt? j = registry.buffersAt? j := by
  unfold program
  split
  · rfl
  · rfl

@[simp]
theorem slotAt_adoptRate (rate : Rate) (divisor : Divisor) :
    (registry.adoptRate i rate divisor).slotAt j =
      if i = j then { registry.slotAt j with rate := { requested := some rate, divisor } }
      else registry.slotAt j := by
  unfold adoptRate
  rw [slotAt_program]
  exact slotAt_update registry i j ({ · with rate := { requested := some rate, divisor } })

@[simp]
theorem buffersAt?_adoptRate (rate : Rate) (divisor : Divisor) :
    (registry.adoptRate i rate divisor).buffersAt? j = registry.buffersAt? j := by
  unfold adoptRate
  rw [buffersAt?_program, buffersAt?_setSlot]

@[simp]
theorem slotAt_rebind (callback : Option κ) :
    (registry.rebind i callback).slotAt j =
      if i = j then { registry.slotAt j with callback } else registry.slotAt j := by
  unfold rebind
  split
  · exact slotAt_update registry i j ({ · with callback })
  · exact slotAt_update registry i j ({ · with callback })

@[simp]
theorem buffersAt?_rebind (callback : Option κ) :
    (registry.rebind i callback).buffersAt? j = registry.buffersAt? j := by
  unfold rebind
  split
  · rfl
  · rfl

@[simp]
theorem slotAt_adoptWidth (bits : UInt8) :
    (registry.adoptWidth i bits).slotAt j =
      if i = j then { registry.slotAt j with wordWidth := some bits }
      else registry.slotAt j :=
  slotAt_update registry i j ({ · with wordWidth := some bits })

@[simp]
theorem buffersAt?_adoptWidth (bits : UInt8) :
    (registry.adoptWidth i bits).buffersAt? j = registry.buffersAt? j := rfl

theorem queue_fst (buffers : Buffers slots) (words : List UInt16) :
    (registry.queue i buffers words).1 = (buffers.outbound.push words).1 := rfl

@[simp]
theorem slotAt_queue (buffers : Buffers slots) (words : List UInt16) :
    (registry.queue i buffers words).2.slotAt j = registry.slotAt j := by
  simp only [queue]
  split
  · rfl
  · rfl

@[simp]
theorem buffersAt?_queue (buffers : Buffers slots) (words : List UInt16) :
    (registry.queue i buffers words).2.buffersAt? j =
      if i = j then
        (registry.buffersAt? j).map fun _ =>
          { buffers with outbound := (buffers.outbound.push words).2 }
      else registry.buffersAt? j := by
  rw [← buffersAt?_setBuffers]
  simp only [queue]
  split
  · rfl
  · rfl

/-!
# Whether there are buffers
-/

@[simp]
theorem isBuffered_setBuffers (buffers : Buffers slots) :
    (registry.setBuffers i buffers).isBuffered = registry.isBuffered :=
  Option.isSome_map

@[simp]
theorem isBuffered_wipe : (registry.wipe i).isBuffered = registry.isBuffered := by
  unfold wipe
  split
  · rfl
  · exact Option.isSome_map

@[simp]
theorem isBuffered_hold : (registry.hold i).isBuffered = registry.isBuffered := rfl

@[simp]
theorem isBuffered_setHardware (hardware : η) :
    (registry.setHardware hardware).isBuffered = registry.isBuffered := rfl

@[simp]
theorem isBuffered_call (call : Call) :
    (registry.call i call).isBuffered = registry.isBuffered := rfl

@[simp]
theorem isBuffered_switchOn : (registry.switchOn i).isBuffered = registry.isBuffered := rfl

@[simp]
theorem isBuffered_switchOff : (registry.switchOff i).isBuffered = registry.isBuffered := by
  unfold switchOff
  split
  · rfl
  · rfl

@[simp]
theorem isBuffered_adoptRate (rate : Rate) (divisor : Divisor) :
    (registry.adoptRate i rate divisor).isBuffered = registry.isBuffered := by
  unfold adoptRate program
  split
  · rfl
  · rfl

@[simp]
theorem isBuffered_rebind (callback : Option κ) :
    (registry.rebind i callback).isBuffered = registry.isBuffered := by
  unfold rebind
  split
  · rfl
  · rfl

@[simp]
theorem isBuffered_adoptWidth (bits : UInt8) :
    (registry.adoptWidth i bits).isBuffered = registry.isBuffered := rfl

@[simp]
theorem isBuffered_queue (buffers : Buffers slots) (words : List UInt16) :
    (registry.queue i buffers words).2.isBuffered = registry.isBuffered := by
  simp only [queue]
  split
  · exact isBuffered_setBuffers registry i _
  · exact isBuffered_setBuffers registry i _

/-!
# Whether an interrupt is being handled
-/

@[simp]
theorem isServed_switchOn : (registry.switchOn i).isServed j = registry.isServed j := rfl

@[simp]
theorem isServed_adoptRate (rate : Rate) (divisor : Divisor) :
    (registry.adoptRate i rate divisor).isServed j = registry.isServed j := by
  unfold adoptRate program
  split
  · rfl
  · rfl

@[simp]
theorem isServed_rebind (callback : Option κ) :
    (registry.rebind i callback).isServed j = registry.isServed j := by
  unfold rebind
  split
  · rfl
  · rfl

end Changes

theorem isBuffered_of_effect {registry after : Registry η κ n slots} {request : Request κ}
    {answer : Except Failure Reply} (heffect : request.Effect registry answer after) :
    after.isBuffered = registry.isBuffered := by
  cases heffect with
  | _ => simp

end Registry
end PeripheralBank
