import PeripheralBank.Proofs.Bench.Run
import PeripheralBank.Proofs.Registry.Service

/-!
# Scripts of interrupts

An interrupt runs the script of the callback that it calls, if it calls one.  Whatever else it does
moves words between buffers and the line, so hardware and slots show the script alone.
-/

namespace PeripheralBank
namespace Registry

variable {η : Type} [Inspectable η] {n slots : Nat}

/-- The commands of the callback that an interrupt calls, if it calls one. -/
def script (registry : Registry η Nat n slots) (scripts : List (List Command)) (index : Nat) :
    List Command :=
  if hin : index < n then
    let slot := registry.slotAt ⟨index, hin⟩
    if slot.state = .enabled then (slot.callback.map (scripts.getD · [])).getD [] else []
  else
    []

/-- The registry in which a callback of the instance runs. -/
def entered (registry : Registry η Nat n slots) (index : Nat) : Registry η Nat n slots :=
  if hin : index < n then registry.setInService ⟨index, hin⟩ true else registry

/-!
# The three ways through an interrupt
-/

variable {registry : Registry η Nat n slots} {i : Fin n} (scripts : List (List Command))

theorem script_callback {callback : Nat} (hruns : (registry.slotAt i).state = .enabled)
    (hbound : (registry.slotAt i).callback = some callback) :
    registry.script scripts i = scripts.getD callback [] := by
  rw [script, dif_pos i.isLt]
  simp only [Fin.eta, hbound, if_pos hruns]
  rfl

theorem script_unbound (hunbound : (registry.slotAt i).callback = none) :
    registry.script scripts i = [] := by
  rw [script, dif_pos i.isLt]
  simp only [Fin.eta, hunbound, Option.map_none, Option.getD_none, ite_self]

theorem script_resting (hrests : (registry.slotAt i).state ≠ .enabled) :
    registry.script scripts i = [] := by
  rw [script, dif_pos i.isLt]
  exact if_neg hrests

theorem entered_of_instance (i : Fin n) (registry : Registry η Nat n slots) :
    registry.entered i = registry.setInService i true :=
  dif_pos i.isLt

theorem exists_script_of_mem {index : Nat} {command : Command}
    (hmem : command ∈ registry.script scripts index) :
    exists script, script ∈ scripts ∧ command ∈ script := by
  unfold script at hmem
  split at hmem
  · rename_i hin
    dsimp only at hmem
    split at hmem
    · cases hbound : (registry.slotAt ⟨index, hin⟩).callback with
      | none =>
          rw [hbound] at hmem
          cases hmem
      | some callback =>
          rw [hbound, Option.map_some, Option.getD_some, List.getD_eq_getElem?_getD] at hmem
          cases hfound : scripts[callback]? with
          | none =>
              rw [hfound] at hmem
              cases hmem
          | some script =>
              rw [hfound] at hmem
              exact ⟨script, List.mem_of_getElem? hfound, hmem⟩
    · cases hmem
  · cases hmem

/-- What a callback does is what happens in its script. -/
theorem calledBack_eq_script {ω : Type} (registry : Registry η Nat n slots) (index : Nat) :
    (registry.calledBack scripts index : List (Happening ω)) =
      Command.happeningsOf (registry.script scripts index) (registry.entered index) := by
  by_cases hin : index < n
  · obtain ⟨i, rfl⟩ : exists i : Fin n, i.val = index := ⟨⟨index, hin⟩, rfl⟩
    rw [entered_of_instance]
    by_cases hruns : (registry.slotAt i).state = .enabled
    · cases hbound : (registry.slotAt i).callback with
      | some callback =>
          rw [calledBack_callback scripts hruns hbound, script_callback scripts hruns hbound]
      | none =>
          rw [calledBack_unbound scripts hbound, script_unbound scripts hbound]
          rfl
    · rw [calledBack_resting scripts hruns, script_resting scripts hruns]
      rfl
  · have hempty : registry.script scripts index = [] := dif_neg hin
    rw [hempty]
    exact dif_neg hin

/-- Of an interrupt, hardware and slots show only what its callback did. -/
theorem interrupt_as_script {ω : Type} [Line ω] (index : Nat) (line : ω)
    (registry : Registry η Nat n slots) :
    let answered := (Command.runAll (registry.script scripts index) (registry.entered index)).2
    let served := (registry.interrupt (Bench.invoke scripts) index (line, [])).2.2
    served.hardware = answered.hardware ∧ forall j, served.slotAt j = answered.slotAt j := by
  by_cases hin : index < n
  · obtain ⟨i, rfl⟩ : exists i : Fin n, i.val = index := ⟨⟨index, hin⟩, rfl⟩
    rw [entered_of_instance]
    by_cases hruns : (registry.slotAt i).state = .enabled
    · cases hbound : (registry.slotAt i).callback with
      | some callback =>
          rw [script_callback scripts hruns hbound, interrupt_callback _ _ hruns hbound]
          exact ⟨rfl, fun _ => rfl⟩
      | none =>
          rw [script_unbound scripts hbound]
          cases hstored : registry.buffersAt? i with
          | none =>
              rw [interrupt_unbuffered _ _ hruns hbound hstored]
              exact ⟨rfl, fun _ => rfl⟩
          | some buffers =>
              rw [interrupt_exchange _ _ hruns hbound hstored]
              exact ⟨rfl, fun _ => rfl⟩
    · rw [script_resting scripts hruns, interrupt_resting _ _ hruns]
      exact ⟨rfl, fun _ => rfl⟩
  · have hempty : registry.script scripts index = [] := dif_neg hin
    have hentered : registry.entered index = registry := dif_neg hin
    simp only [hempty, hentered, interrupt_outside _ _ hin]
    exact ⟨rfl, fun _ => rfl⟩

end Registry
end PeripheralBank
