import PeripheralBank.Proofs.Simulation.Registers

/-!
# Hardware that differs in one place

Two simulated hardwares are alike off a place if they differ in nothing but the registers of
that place and what they recorded.  A call, to whichever instance, keeps them so, and the
registers of the place show in no answer but the value of their counter.
-/

namespace PeripheralBank
namespace SimulatedHardware

variable {m : Nat}

structure AlikeOff (place : Nat) (first second : SimulatedHardware m) : Prop where
  profile : first.profile = second.profile
  clock : first.clock = second.clock
  strategy : first.strategy = second.strategy
  faults : first.faults = second.faults
  registers (j : Fin m) (hoff : j.val ≠ place) :
    first.registers.get j = second.registers.get j

namespace AlikeOff

variable {place : Nat} {first second third : SimulatedHardware m}

theorem refl (place : Nat) (hardware : SimulatedHardware m) : AlikeOff place hardware hardware where
  profile := rfl
  clock := rfl
  strategy := rfl
  faults := rfl
  registers _ _ := rfl

theorem symm (halike : AlikeOff place first second) : AlikeOff place second first where
  profile := halike.profile.symm
  clock := halike.clock.symm
  strategy := halike.strategy.symm
  faults := halike.faults.symm
  registers j hoff := (halike.registers j hoff).symm

theorem trans (halike : AlikeOff place first second) (hnext : AlikeOff place second third) :
    AlikeOff place first third where
  profile := halike.profile.trans hnext.profile
  clock := halike.clock.trans hnext.clock
  strategy := halike.strategy.trans hnext.strategy
  faults := halike.faults.trans hnext.faults
  registers j hoff := (halike.registers j hoff).trans (hnext.registers j hoff)

end AlikeOff

/-- Whether an instance has registers shows, also where they are not looked at. -/
theorem registers?_map {α : Type} (first second : SimulatedHardware m) (index : Nat) (answer : α) :
    (first.registers? index).map (fun _ => answer) =
      (second.registers? index).map (fun _ => answer) := by
  unfold registers?
  split
  · rfl
  · rfl

/-!
# Changes that do not show
-/

theorem alikeOff_record (place : Nat) (event : Event) (hardware : SimulatedHardware m) :
    AlikeOff place hardware (hardware.record event) := by
  unfold record
  split
  · exact { AlikeOff.refl place hardware with }
  · exact AlikeOff.refl place hardware

theorem alikeOff_modify (place : Nat) (change : Registers -> Registers)
    (hardware : SimulatedHardware m) :
    AlikeOff place hardware (hardware.modify place change) := by
  have hregisters := fun j => hardware.get_modify j place change
  unfold modify at hregisters ⊢
  split
  · rename_i hin
    simp only [dif_pos hin] at hregisters
    refine { AlikeOff.refl place hardware with registers := ?_ }
    intro j hoff
    rw [hregisters j, if_neg (Ne.symm hoff)]
  · exact AlikeOff.refl place hardware

theorem alikeOff_modifyRecorded (place : Nat) (call : Call) (change : Registers -> Registers)
    (hardware : SimulatedHardware m) :
    AlikeOff place hardware (hardware.modifyRecorded place call change) := by
  unfold modifyRecorded
  split
  · exact (alikeOff_modify place change hardware).trans (alikeOff_record place _ _)
  · exact AlikeOff.refl place hardware

/-!
# The same change on both
-/

namespace AlikeOff

variable {place : Nat} {first second : SimulatedHardware m}
  (halike : AlikeOff place first second)
include halike

theorem record (event : Event) : AlikeOff place (first.record event) (second.record event) :=
  (alikeOff_record place event first).symm.trans
    (halike.trans (alikeOff_record place event second))

theorem modify (index : Nat) (change : Registers -> Registers) :
    AlikeOff place (first.modify index change) (second.modify index change) := by
  have hfirst := fun j => first.get_modify j index change
  have hsecond := fun j => second.get_modify j index change
  unfold SimulatedHardware.modify at hfirst hsecond ⊢
  split
  · rename_i hin
    simp only [dif_pos hin] at hfirst hsecond
    refine { halike with registers := ?_ }
    intro j hoff
    rw [hfirst j, hsecond j, halike.registers j hoff]
  · exact halike

theorem modifyRecorded (index : Nat) (call : Call) (change : Registers -> Registers) :
    AlikeOff place (first.modifyRecorded index call change)
      (second.modifyRecorded index call change) := by
  unfold SimulatedHardware.modifyRecorded
  split
  · exact (halike.modify index change).record ⟨index, call⟩
  · exact halike

theorem judge (divisor : Divisor) :
    AlikeOff place (first.judge divisor) (second.judge divisor) := by
  have haccepts : accepts first.profile divisor = accepts second.profile divisor := by
    rw [halike.profile]
  unfold SimulatedHardware.judge
  rw [haccepts]
  split
  · exact halike
  · exact { halike with faults := congrArg (· + 1) halike.faults }

theorem perform (index : Nat) (call : Call) :
    AlikeOff place (first.perform index call) (second.perform index call) := by
  cases call with
  | enable on => exact halike.modifyRecorded index _ _
  | rate divisor => exact (halike.judge divisor).modifyRecorded index _ _
  | arm on => exact halike.modifyRecorded index _ _
  | wordWidth bits => exact halike.modifyRecorded index _ _
  | kickTransmit => exact halike.modify index (Registers.after .kickTransmit)

/-!
# Counters and registers
-/

theorem writeCounter (index : Nat) (value : UInt32) :
    (first.writeCounter index value).1 = (second.writeCounter index value).1 ∧
      AlikeOff place (first.writeCounter index value).2 (second.writeCounter index value).2 := by
  unfold SimulatedHardware.writeCounter
  rw [halike.profile]
  split
  · split
    · exact ⟨rfl, halike.modify index ({ · with counter := value })⟩
    · exact ⟨rfl, halike⟩
  · exact ⟨rfl, halike⟩

theorem advance (index : Nat) (ticks : UInt32) :
    (first.advance index ticks).1 = (second.advance index ticks).1 ∧
      AlikeOff place (first.advance index ticks).2 (second.advance index ticks).2 := by
  unfold SimulatedHardware.advance
  split
  · exact ⟨rfl, halike.modify index (Registers.ticked ticks)⟩
  · exact ⟨rfl, halike⟩

theorem readCounter {index : Nat} (hoff : index ≠ place) :
    first.readCounter index = second.readCounter index := by
  unfold SimulatedHardware.readCounter
  rw [halike.profile]
  split
  · split
    · rename_i hin
      have hsame := congrArg Registers.counter (halike.registers ⟨index, hin⟩ hoff)
      exact congrArg Except.ok hsame
    · rfl
  · rfl

/-- Whether there is a counter to read shows, also where its value is not looked at. -/
theorem readCounter_map {α : Type} (index : Nat) (answer : α) :
    (first.readCounter index).map (fun _ => answer) =
      (second.readCounter index).map (fun _ => answer) := by
  unfold SimulatedHardware.readCounter
  rw [halike.profile]
  split
  · split
    · rfl
    · rfl
  · rfl

theorem registers? {index : Nat} (hoff : index ≠ place) :
    first.registers? index = second.registers? index := by
  unfold SimulatedHardware.registers?
  split
  · rename_i hin
    exact congrArg (Except.ok ∘ some) (halike.registers ⟨index, hin⟩ hoff)
  · rfl

end AlikeOff
end SimulatedHardware
end PeripheralBank
