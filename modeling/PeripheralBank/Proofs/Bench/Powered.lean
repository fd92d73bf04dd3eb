import PeripheralBank.Proofs.Bench.Path
import PeripheralBank.Proofs.Simulation.Registers

/-!
# Instances that run are on

Over simulated hardware every instance that runs is on, in whatever state the hardware was when
the registry was built over it: only turning it on makes an instance run, and a new rate that
turns it off turns it on again.
-/

namespace PeripheralBank
namespace Registry

variable {κ : Type} {m n slots : Nat}

def PoweredAt (registry : Registry (SimulatedHardware m) κ n slots) (j : Fin n) : Prop :=
  (registry.slotAt j).state = .enabled -> (registry.registersAt j).enabled = true

section Changes

variable {registry after : Registry (SimulatedHardware m) κ n slots} {i j : Fin n}

theorem poweredAt_of_kept (hpowered : registry.PoweredAt j)
    (henabled : (after.registersAt j).enabled = (registry.registersAt j).enabled)
    (hstate : (after.slotAt j).state = (registry.slotAt j).state) : after.PoweredAt j := by
  intro hruns
  rw [hstate] at hruns
  exact henabled.trans (hpowered hruns)

theorem poweredAt_of_rests (hrests : (registry.slotAt j).state ≠ .enabled) :
    registry.PoweredAt j :=
  fun hruns => absurd hruns hrests

theorem poweredAt_setSlot (hpowered : registry.PoweredAt j) (slot : Slot κ)
    (hstate : slot.state = (registry.slotAt i).state) : (registry.setSlot i slot).PoweredAt j := by
  refine poweredAt_of_kept hpowered rfl ?_
  by_cases hsame : i = j
  · rw [slotAt_setSlot, if_pos hsame, hstate, hsame]
  · rw [slotAt_setSlot, if_neg hsame]

theorem poweredAt_hold (hpowered : registry.PoweredAt j) : (registry.hold i).PoweredAt j := by
  by_cases hsame : i = j
  · exact poweredAt_of_rests (by simp [hsame])
  · exact poweredAt_of_kept hpowered rfl (by simp [hsame])

theorem poweredAt_switchOff (hpowered : registry.PoweredAt j) :
    (registry.switchOff i).PoweredAt j := by
  by_cases hsame : i = j
  · apply poweredAt_of_rests
    rw [slotAt_switchOff, if_pos hsame]
    exact Slot.halted_ne_enabled _
  · exact poweredAt_of_kept hpowered (by simp [hsame]) (by simp [hsame])

theorem poweredAt_wipe (hpowered : registry.PoweredAt j) : (registry.wipe i).PoweredAt j := by
  by_cases hsame : i = j
  · exact poweredAt_of_rests (by simp [hsame])
  · exact poweredAt_of_kept hpowered (by simp) (by simp [hsame])

theorem poweredAt_switchOn (hpowered : registry.PoweredAt j) :
    (registry.switchOn i).PoweredAt j := by
  by_cases hsame : i = j
  · intro _
    rw [registersAt_switchOn, if_pos hsame]
  · exact poweredAt_of_kept hpowered (by simp [hsame]) (by simp [hsame])

theorem poweredAt_adoptRate (hpowered : forall j, registry.PoweredAt j) (rate : Rate)
    (divisor : Divisor) : (registry.adoptRate i rate divisor).PoweredAt j := by
  apply poweredAt_of_kept (hpowered j)
  · rw [registersAt_adoptRate registry i j rate divisor (hpowered i)]
    split
    · rfl
    · rfl
  · rw [slotAt_adoptRate]
    split
    · rfl
    · rfl

/-- A call that does not turn an instance off leaves it on. -/
theorem poweredAt_call (hpowered : registry.PoweredAt j) {call : Call}
    (hcall : call ≠ .enable false) : (registry.call i call).PoweredAt j := by
  intro hruns
  have hon := hpowered hruns
  rw [registersAt_call]
  split
  · cases call with
    | enable on =>
        cases on with
        | false => exact absurd rfl hcall
        | true => rfl
    | _ => exact hon
  · exact hon

theorem poweredAt_rebind (hpowered : registry.PoweredAt j) (callback : Option κ) :
    (registry.rebind i callback).PoweredAt j := by
  have hbound := poweredAt_setSlot (i := i) hpowered { registry.slotAt i with callback } rfl
  unfold rebind
  split
  · exact poweredAt_call hbound (by simp)
  · exact hbound

theorem poweredAt_adoptWidth (hpowered : registry.PoweredAt j) (bits : UInt8) :
    (registry.adoptWidth i bits).PoweredAt j :=
  poweredAt_call (poweredAt_setSlot hpowered { registry.slotAt i with wordWidth := some bits } rfl)
    (by simp)

theorem poweredAt_queue (hpowered : registry.PoweredAt j) (buffers : Buffers slots)
    (words : List UInt16) : (registry.queue i buffers words).2.PoweredAt j := by
  simp only [queue]
  split
  · exact poweredAt_call hpowered (by simp)
  · exact hpowered

theorem poweredAt_writeCounter (hpowered : registry.PoweredAt j) (value : UInt32) :
    (registry.setHardware (Hardware.writeCounter registry.hardware i value).2).PoweredAt j := by
  refine poweredAt_of_kept hpowered ?_ rfl
  rw [registersAt_writeCounter]
  split
  · rfl
  · rfl

theorem poweredAt_advance (hpowered : registry.PoweredAt j) (index : Nat) (ticks : UInt32) :
    (registry.setHardware
      (Inspectable.advance index ticks registry.hardware).2).PoweredAt j := by
  refine poweredAt_of_kept hpowered ?_ rfl
  rw [registersAt_advance]
  split
  · unfold Registers.ticked
    split
    · rfl
    · rfl
  · rfl

/-!
# Steps keep instances on
-/

theorem poweredAt_of_effect {request : Request κ} {answer : Except Failure Reply}
    (heffect : request.Effect registry answer after)
    (hpowered : forall j, registry.PoweredAt j) (j : Fin n) : after.PoweredAt j := by
  cases heffect with
  | failed _ _ | told _ _ | stayedOn _ _ | drained _ _ => exact hpowered j
  | counted _ | readBytes _ _ _ | readWords _ _ => exact hpowered j
  | allocated _ | acquired _ _ => exact poweredAt_hold (hpowered j)
  | waited _ _ | turnedOff _ => exact poweredAt_switchOff (hpowered j)
  | closed _ _ => exact poweredAt_wipe (poweredAt_switchOff (hpowered j))
  | turnedOn _ _ => exact poweredAt_switchOn (hpowered j)
  | rated _ _ => exact poweredAt_adoptRate hpowered _ _
  | bound _ callback => exact poweredAt_rebind (hpowered j) callback
  | widened _ _ => exact poweredAt_adoptWidth (hpowered j) _
  | recounted _ value => exact poweredAt_writeCounter (hpowered j) value
  | wroteBytes _ _ _ | wroteWords _ _ => exact poweredAt_queue (hpowered j) _ _
  | kicked _ _ => exact poweredAt_call (hpowered j) (by simp)

end Changes
end Registry

section Runs

variable {ω : Type} [Line ω] {m n slots : Nat}
  {registry after : Registry (SimulatedHardware m) Nat n slots} {now : List (Happening ω)}

theorem poweredAt_of_step (hstep : Step registry now after)
    (hpowered : forall j, registry.PoweredAt j) (j : Fin n) : after.PoweredAt j := by
  cases hstep with
  | claimed _ | marked _ _ | clocked _ | forgot | passed _ _ _ _ => exact hpowered j
  | moved _ _ _ _ => exact hpowered j
  | asked heffect => exact Registry.poweredAt_of_effect heffect hpowered j
  | advanced index ticks => exact Registry.poweredAt_advance (hpowered j) index ticks

theorem poweredAt_of_path (hpath : Path registry now after)
    (hpowered : forall j, registry.PoweredAt j) (j : Fin n) : after.PoweredAt j :=
  path_preserves (P := fun registry => forall j, registry.PoweredAt j) poweredAt_of_step hpath
    hpowered j

/-- In a registry that was just built no instance runs. -/
theorem Registry.poweredAt_build (hardware : SimulatedHardware m)
    (buffers : Option (Vector (Buffers slots) n)) (hbelow : n < Handle.nullIndex)
    (hdriven : n ≤ Hardware.instances (SimulatedHardware m)) (j : Fin n) :
    (build hardware buffers hbelow hdriven : Registry _ Nat n slots).PoweredAt j := by
  apply poweredAt_of_rests
  simp [slotAt, build]

end Runs
end PeripheralBank
