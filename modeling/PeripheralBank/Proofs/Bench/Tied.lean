import PeripheralBank.Proofs.Bench.Run
import PeripheralBank.Proofs.Registry.Tied

/-!
# Tied benches

Two registries on a bench stay tied through commands and through interrupts that answer with
commands, as long as each command keeps them tied and is answered the same, or looks the same to
whoever sees the answers.  Which commands do depends on the tie.
-/

namespace PeripheralBank
namespace Registry.Tied

variable {η η' : Type} [Inspectable η] [Inspectable η'] {n slots : Nat} {tie : Hardware.Tie η η'}
  {held : Buffers.Tie slots} {first : Registry η Nat n slots} {second : Registry η' Nat n slots}

/-- An interrupt on equal lines turns out the same, leaves equal lines, and its callback looks the
same if its commands do. -/
theorem interrupt_seen (htied : Tied tie held first second) {ω : Type} [Line ω] {index : Nat}
    (hon : tie.On index) (see : CallbackRun -> CallbackRun) (scripts : List (List Command))
    (hcalled : forall i : Fin n, i.val = index -> forall callback : Nat,
      (second.slotAt i).callback = some callback ->
        let ran := Command.runAll (scripts.getD callback []) (first.setInService i true)
        let other := Command.runAll (scripts.getD callback []) (second.setInService i true)
        see { callback, answers := ran.1 } = see { callback, answers := other.1 } ∧
          Tied tie held ran.2 other.2)
    (line : ω) :
    let served := first.interrupt (Bench.invoke scripts) index (line, [])
    let others := second.interrupt (Bench.invoke scripts) index (line, [])
    served.1 = others.1 ∧ served.2.1.1 = others.2.1.1 ∧
      served.2.1.2.map see = others.2.1.2.map see ∧ Tied tie held served.2.2 others.2.2 := by
  intro served others
  let beside := fun state other : ω × List CallbackRun =>
    state.1 = other.1 ∧ state.2.map see = other.2.map see
  have hserved := htied.interrupt beside (fun _ => ⟨rfl, rfl⟩) (Bench.invoke scripts)
    (Bench.invoke scripts) hon ?_ (line, [])
  · rcases hserved with ⟨hservice, ⟨hline, hruns⟩, hafter⟩
    exact ⟨hservice, hline, hruns, hafter⟩
  · intro i hat callback hbound state
    rcases hcalled i hat callback hbound with ⟨hsame, hafter⟩
    refine ⟨⟨rfl, ?_⟩, hafter⟩
    simp only [Bench.invoke, List.map_append, List.map_cons, List.map_nil, hsame]

variable {P : Command -> Prop}
  (hcommand : forall {first : Registry η Nat n slots} {second : Registry η' Nat n slots},
    Tied tie held first second -> forall command : Command, P command ->
      ResultsTied tie held (command.run first) (command.run second))
  (htied : Tied tie held first second)
include hcommand htied

theorem commands_of {commands : List Command}
    (hkept : forall command, command ∈ commands -> P command) :
    ResultsTied tie held (Command.runAll commands first) (Command.runAll commands second) := by
  induction commands generalizing first second with
  | nil => exact ⟨rfl, htied⟩
  | cons issued rest ih =>
      have hissued := hcommand htied issued (hkept issued List.mem_cons_self)
      have hrest := ih hissued.after fun later hmem =>
        hkept later (List.mem_cons_of_mem issued hmem)
      exact ⟨List.cons_eq_cons.mpr ⟨hissued.answer, hrest.answer⟩, hrest.after⟩

/-- An interrupt on equal lines turns out the same and leaves equal lines. -/
theorem interrupt_of {ω : Type} [Line ω] {index : Nat} (hon : tie.On index)
    (scripts : List (List Command))
    (hkept : forall i : Fin n, i.val = index -> forall callback : Nat,
      (second.slotAt i).callback = some callback ->
        forall command, command ∈ scripts.getD callback [] -> P command) (line : ω) :
    let served := first.interrupt (Bench.invoke scripts) index (line, [])
    let others := second.interrupt (Bench.invoke scripts) index (line, [])
    served.1 = others.1 ∧ served.2.1 = others.2.1 ∧ Tied tie held served.2.2 others.2.2 := by
  have hserved := htied.interrupt_seen hon id scripts ?_ line
  · rcases hserved with ⟨hservice, hline, hruns, hafter⟩
    rw [List.map_id, List.map_id] at hruns
    exact ⟨hservice, Prod.ext hline hruns, hafter⟩
  · intro i hat callback hbound
    have hran := commands_of hcommand (htied.setInService i true) (hkept i hat callback hbound)
    refine ⟨?_, hran.after⟩
    rw [hran.answer]

end Registry.Tied
end PeripheralBank
