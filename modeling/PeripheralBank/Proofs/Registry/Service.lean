import PeripheralBank.Proofs.Registry.View
import PeripheralBank.Registry.Interrupt

/-!
# Outcomes of an interrupt

An interrupt has five outcomes, and which one it is can be read off the slot and the buffers
of the instance before it.
-/

namespace PeripheralBank
namespace Registry

variable {η : Type} [Hardware η] {κ : Type} {ω : Type} [Line ω] {n slots : Nat}
  {registry : Registry η κ n slots}
  (invoke : κ -> ω -> Registry η κ n slots -> ω × Registry η κ n slots) (line : ω)

theorem interrupt_outside {index : Nat} (hout : ¬ index < n) :
    registry.interrupt invoke index line = (refuse .invalidHandle, line, registry) := by
  rw [interrupt, dif_neg hout]

variable {i : Fin n}

theorem interrupt_resting (hrests : (registry.slotAt i).state ≠ .enabled) :
    registry.interrupt invoke i line = (.ok .spurious, Line.acknowledge line, registry) := by
  rw [interrupt, dif_pos i.isLt]
  exact if_neg hrests

theorem interrupt_running (hruns : (registry.slotAt i).state = .enabled) :
    registry.interrupt invoke i line =
      ((registry.setInService i true).serve invoke i (Line.acknowledge line)).map .ok
        (·.map id (·.setInService i false)) := by
  rw [interrupt, dif_pos i.isLt]
  exact if_pos hruns

theorem interrupt_callback {callback : κ} (hruns : (registry.slotAt i).state = .enabled)
    (hbound : (registry.slotAt i).callback = some callback) :
    registry.interrupt invoke i line =
      (.ok .callback,
        (invoke callback (Line.acknowledge line) (registry.setInService i true)).map id
          (·.setInService i false)) := by
  rw [interrupt_running invoke line hruns, serve, slotAt_setInService, hbound]
  rfl

theorem interrupt_unbuffered (hruns : (registry.slotAt i).state = .enabled)
    (hunbound : (registry.slotAt i).callback = none) (hbare : registry.buffersAt? i = none) :
    registry.interrupt invoke i line =
      (.ok (.transfer 0 false), Line.acknowledge line,
        (registry.setInService i true).setInService i false) := by
  rw [interrupt_running invoke line hruns, serve, slotAt_setInService, hunbound,
    buffersAt?_setInService, hbare]
  rfl

theorem interrupt_exchange {buffers : Buffers slots}
    (hruns : (registry.slotAt i).state = .enabled)
    (hunbound : (registry.slotAt i).callback = none)
    (hstored : registry.buffersAt? i = some buffers) :
    registry.interrupt invoke i line =
      (.ok (buffers.exchange (Line.acknowledge line)).1,
        (buffers.exchange (Line.acknowledge line)).2.2,
        ((registry.setInService i true).setBuffers i
          (buffers.exchange (Line.acknowledge line)).2.1).setInService i false) := by
  rw [interrupt_running invoke line hruns, serve, slotAt_setInService, hunbound,
    buffersAt?_setInService, hstored]
  rfl

/-- Without a callback, an interrupt changes no slot. -/
theorem slotAt_interrupt (hunbound : (registry.slotAt i).callback = none) (j : Fin n) :
    (registry.interrupt invoke i line).2.2.slotAt j = registry.slotAt j := by
  by_cases hruns : (registry.slotAt i).state = .enabled
  · cases hstored : registry.buffersAt? i with
    | none =>
        rw [interrupt_unbuffered invoke line hruns hunbound hstored]
        rfl
    | some buffers =>
        rw [interrupt_exchange invoke line hruns hunbound hstored]
        rfl
  · rw [interrupt_resting invoke line hruns]

end Registry
end PeripheralBank
