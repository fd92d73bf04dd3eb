import PeripheralBank.Proofs.Registry.View
import PeripheralBank.Simulation.Hardware

/-!
# Registers of simulated hardware

What the changes of a registry and the hands on its hardware leave in the registers of each
instance, when the hardware is simulated.
-/

namespace PeripheralBank

def Registers.after (call : Call) (registers : Registers) : Registers :=
  match call with
  | .enable on => { registers with enabled := on }
  | .rate divisor => { registers with divisor := some divisor }
  | .arm on => { registers with armed := on }
  | .wordWidth bits => { registers with wordWidth := some bits }
  | .kickTransmit => { registers with transmitRequests := registers.transmitRequests + 1 }

/-- The registers after some ticks, which only count while the instance is on. -/
def Registers.ticked (ticks : UInt32) (registers : Registers) : Registers :=
  if registers.enabled then { registers with counter := registers.counter + ticks }
  else registers

namespace SimulatedHardware

variable {m : Nat} (hardware : SimulatedHardware m) (j : Fin m)

/-!
# Calls
-/

@[simp]
theorem registers_record (event : Event) :
    (hardware.record event).registers = hardware.registers := by
  unfold record
  split
  · rfl
  · rfl

@[simp]
theorem registers_judge (divisor : Divisor) :
    (hardware.judge divisor).registers = hardware.registers := by
  unfold judge
  split
  · rfl
  · rfl

theorem get_modify (index : Nat) (change : Registers -> Registers) :
    (hardware.modify index change).registers.get j =
      if index = j then change (hardware.registers.get j) else hardware.registers.get j := by
  unfold modify
  by_cases hin : index < m
  · rw [dif_pos hin]
    refine (Vector.getElem_set hin j.isLt).trans ?_
    by_cases hsame : index = j
    · subst hsame
      rw [if_pos rfl, if_pos rfl]
      rfl
    · rw [if_neg hsame, if_neg hsame]
      rfl
  · rw [dif_neg hin]
    have hapart : index ≠ j := fun hsame => hin (hsame ▸ j.isLt)
    rw [if_neg hapart]

theorem get_modifyRecorded (index : Nat) (call : Call) (change : Registers -> Registers) :
    (hardware.modifyRecorded index call change).registers.get j =
      if index = j then change (hardware.registers.get j) else hardware.registers.get j := by
  unfold modifyRecorded
  by_cases hin : index < m
  · rw [if_pos hin, registers_record, get_modify]
  · have hapart : index ≠ j := fun hsame => hin (hsame ▸ j.isLt)
    rw [if_neg hin, if_neg hapart]

theorem get_perform (index : Nat) (call : Call) :
    (hardware.perform index call).registers.get j =
      if index = j then (hardware.registers.get j).after call
      else hardware.registers.get j := by
  cases call with
  | enable on => exact get_modifyRecorded hardware j index _ _
  | rate divisor =>
      have hjudged := get_modifyRecorded (hardware.judge divisor) j index (.rate divisor)
        ({ · with divisor := some divisor })
      rw [registers_judge] at hjudged
      exact hjudged
  | arm on => exact get_modifyRecorded hardware j index _ _
  | wordWidth bits => exact get_modifyRecorded hardware j index _ _
  | kickTransmit => exact get_modify hardware j index _

theorem get_advance (index : Nat) (ticks : UInt32) :
    (hardware.advance index ticks).2.registers.get j =
      if index = j then (hardware.registers.get j).ticked ticks
      else hardware.registers.get j := by
  unfold advance
  by_cases hin : index < m
  · rw [if_pos hin]
    exact get_modify hardware j index _
  · have hapart : index ≠ j := fun hsame => hin (hsame ▸ j.isLt)
    rw [if_neg hin, if_neg hapart]

theorem get_writeCounter (index : Nat) (value : UInt32) :
    (hardware.writeCounter index value).2.registers.get j =
      if index = j ∧ hardware.profile.hasCounter = true then
        { hardware.registers.get j with counter := value }
      else hardware.registers.get j := by
  unfold writeCounter
  by_cases hcounts : hardware.profile.hasCounter = true
  · rw [if_pos hcounts]
    by_cases hin : index < m
    · rw [if_pos hin, get_modify]
      simp only [hcounts, and_true]
    · have hapart : index ≠ j := fun hsame => hin (hsame ▸ j.isLt)
      rw [if_neg hin, if_neg (fun hboth => hapart hboth.1)]
  · rw [if_neg hcounts, if_neg (fun hboth => hcounts hboth.2)]

end SimulatedHardware

namespace Registry

variable {κ : Type} {m n slots : Nat}

/-- The place of an instance among those that the hardware drives. -/
def place (registry : Registry (SimulatedHardware m) κ n slots) (j : Fin n) : Fin m :=
  Fin.castLE registry.driven j

def registersAt (registry : Registry (SimulatedHardware m) κ n slots) (j : Fin n) : Registers :=
  registry.hardware.registers.get (registry.place j)

theorem registersAt_of_reset {registry : Registry (SimulatedHardware m) κ n slots}
    (hreset : registry.hardware.registers = Vector.replicate m {}) (j : Fin n) :
    registry.registersAt j = {} := by
  rw [registersAt, hreset]
  exact Vector.getElem_replicate (registry.place j).isLt

section Changes

variable (registry : Registry (SimulatedHardware m) κ n slots) (i j : Fin n)

/-!
# Single changes
-/

@[simp]
theorem registersAt_setSlot (slot : Slot κ) :
    (registry.setSlot i slot).registersAt j = registry.registersAt j := rfl

@[simp]
theorem registersAt_setBuffers (buffers : Buffers slots) :
    (registry.setBuffers i buffers).registersAt j = registry.registersAt j := rfl

@[simp]
theorem registersAt_setInService (running : Bool) :
    (registry.setInService i running).registersAt j = registry.registersAt j := rfl

@[simp]
theorem registersAt_call (call : Call) :
    (registry.call i call).registersAt j =
      if i = j then (registry.registersAt j).after call else registry.registersAt j := by
  have hperformed := registry.hardware.get_perform (registry.place j) i call
  simp only [place, Fin.val_castLE, ← Fin.ext_iff] at hperformed
  exact hperformed

/-!
# Changes that requests make
-/

@[simp]
theorem registersAt_hold : (registry.hold i).registersAt j = registry.registersAt j := rfl

@[simp]
theorem registersAt_wipe : (registry.wipe i).registersAt j = registry.registersAt j := by
  unfold wipe
  split
  · rfl
  · rfl

@[simp]
theorem registersAt_switchOff :
    (registry.switchOff i).registersAt j =
      if i = j ∧ (registry.slotAt i).state = .enabled then
        { registry.registersAt j with enabled := false, armed := false }
      else registry.registersAt j := by
  unfold switchOff
  by_cases hruns : (registry.slotAt i).state = .enabled
  · rw [if_pos hruns, registersAt_setSlot, registersAt_call, registersAt_call]
    by_cases hsame : i = j
    · rw [if_pos hsame, if_pos hsame, if_pos ⟨hsame, hruns⟩]
      rfl
    · rw [if_neg hsame, if_neg hsame, if_neg (fun hboth => hsame hboth.1)]
  · rw [if_neg hruns, if_neg (fun hboth => hruns hboth.2)]

@[simp]
theorem registersAt_switchOn :
    (registry.switchOn i).registersAt j =
      if i = j then
        { registry.registersAt j with enabled := true, armed := registry.handlesInterrupt i }
      else registry.registersAt j := by
  unfold switchOn
  rw [registersAt_setSlot, registersAt_call, registersAt_call]
  by_cases hsame : i = j
  · rw [if_pos hsame, if_pos hsame, if_pos hsame]
    rfl
  · rw [if_neg hsame, if_neg hsame, if_neg hsame]

/-- Whether an instance is turned off around the write of its divider cannot be seen
afterwards, as long as the registers agree with the slot. -/
theorem registersAt_program (divisor : Divisor)
    (hagrees : (registry.slotAt i).state = .enabled -> (registry.registersAt i).enabled = true) :
    (registry.program i divisor).registersAt j =
      if i = j then { registry.registersAt j with divisor := some divisor }
      else registry.registersAt j := by
  unfold program
  split
  · rename_i hrestarts
    simp only [registersAt_call]
    by_cases hsame : i = j
    · subst j
      have hon := hagrees hrestarts.1
      simp only [if_true, Registers.after, ← hon]
    · simp only [if_neg hsame]
  · rw [registersAt_call]
    rfl

theorem registersAt_adoptRate (rate : Rate) (divisor : Divisor)
    (hagrees : (registry.slotAt i).state = .enabled -> (registry.registersAt i).enabled = true) :
    (registry.adoptRate i rate divisor).registersAt j =
      if i = j then { registry.registersAt j with divisor := some divisor }
      else registry.registersAt j := by
  unfold adoptRate
  rw [registersAt_program]
  · rfl
  · rw [slotAt_setSlot, if_pos rfl]
    exact hagrees

@[simp]
theorem registersAt_rebind (callback : Option κ) :
    (registry.rebind i callback).registersAt j =
      if i = j ∧ (registry.slotAt i).state = .enabled then
        { registry.registersAt j with armed := callback.isSome || registry.isBuffered }
      else registry.registersAt j := by
  unfold rebind
  by_cases hruns : (registry.slotAt i).state = .enabled
  · rw [if_pos hruns, registersAt_call, registersAt_setSlot]
    by_cases hsame : i = j
    · rw [if_pos hsame, if_pos ⟨hsame, hruns⟩]
      rfl
    · rw [if_neg hsame, if_neg (fun hboth => hsame hboth.1)]
  · rw [if_neg hruns, if_neg (fun hboth => hruns hboth.2), registersAt_setSlot]

@[simp]
theorem registersAt_adoptWidth (bits : UInt8) :
    (registry.adoptWidth i bits).registersAt j =
      if i = j then { registry.registersAt j with wordWidth := some bits }
      else registry.registersAt j := by
  unfold adoptWidth
  rw [registersAt_call]
  rfl

@[simp]
theorem registersAt_queue (buffers : Buffers slots) (words : List UInt16) :
    (registry.queue i buffers words).2.registersAt j =
      if i = j ∧ 0 < (buffers.outbound.push words).1 then
        (registry.registersAt j).after .kickTransmit
      else registry.registersAt j := by
  simp only [queue]
  by_cases hstored : 0 < (buffers.outbound.push words).1
  · rw [if_pos hstored, registersAt_call]
    simp [hstored]
  · rw [if_neg hstored, if_neg (fun hboth => hstored hboth.2), registersAt_setBuffers]

/-!
# Counters and hands on the hardware
-/

@[simp]
theorem registersAt_readCounter :
    (registry.setHardware (Hardware.readCounter registry.hardware i).2).registersAt j =
      registry.registersAt j := rfl

@[simp]
theorem registersAt_writeCounter (value : UInt32) :
    (registry.setHardware (Hardware.writeCounter registry.hardware i value).2).registersAt j =
      if i = j ∧ registry.hardware.profile.hasCounter = true then
        { registry.registersAt j with counter := value }
      else registry.registersAt j := by
  have hwritten := registry.hardware.get_writeCounter (registry.place j) i value
  simp only [place, Fin.val_castLE, ← Fin.ext_iff] at hwritten
  exact hwritten

@[simp]
theorem registersAt_advance (index : Nat) (ticks : UInt32) :
    (registry.setHardware (Inspectable.advance index ticks registry.hardware).2).registersAt j =
      if index = j then (registry.registersAt j).ticked ticks
      else registry.registersAt j :=
  registry.hardware.get_advance (registry.place j) index ticks

@[simp]
theorem registersAt_setClock (hz : UInt32) :
    (registry.setHardware (Inspectable.setClock hz registry.hardware)).registersAt j =
      registry.registersAt j := rfl

@[simp]
theorem registersAt_clearEvents :
    (registry.setHardware (Inspectable.clearEvents registry.hardware)).registersAt j =
      registry.registersAt j := rfl

end Changes

end Registry
end PeripheralBank
