import PeripheralBank.Bench.Basic
import PeripheralBank.Proofs.Line.Tapped

/-!
# Runs

A run makes moves on a registry: commands, a hand on the interrupt side, and interrupts.
Each interrupt brings its own line and its own scripts, so a run may use any lines, and a
callback may do something else each time.  What happens on the way is listed in order, with
what a callback does before the end of the interrupt that it answers.  The words that an
interrupt gives to its line and takes from it are seen by a tap.
-/

namespace PeripheralBank

inductive Move (ω : Type) where
  | command (command : Command)
  | claimInterrupts
  | releaseInterrupts
  | interrupt (index : Nat) (line : ω) (scripts : List (List Command))

/-- Something that happened to a registry, as it can be seen from outside. -/
inductive Happening (ω : Type) where
  | answered (request : Request Nat) (answer : Except Failure Reply)
  | advanced (index : Nat) (ticks : UInt32)
  | clocked (hz : UInt32)
  | forgot
  /-- An interrupt on a line, with the line and the tap after it and whether the inbound buffer
  was full. -/
  | interrupted (index : Nat) (before : ω) (after : Tapped ω) (full : Bool)

variable {η : Type} [Inspectable η] {ω : Type} {n slots : Nat}

/-!
# Commands
-/

namespace Command

/-- A snapshot happens as the question for the counter: the rest of it leaves no trace. -/
def happenings (command : Command) (registry : Registry η Nat n slots) : List (Happening ω) :=
  match command with
  | request asked => [.answered asked (asked.run registry).1]
  | snapshot device =>
      [.answered (.counter device) ((Request.counter device).run registry).1]
  | clearEvents => [.forgot]
  | advance index ticks => [.advanced index ticks]
  | setClock hz => [.clocked hz]
  | handle _ | registers _ | faults | events => []

def happeningsOf : List Command -> Registry η Nat n slots -> List (Happening ω)
  | [], _ => []
  | command :: rest, registry =>
      command.happenings registry ++ happeningsOf rest (command.run registry).2

theorem not_mem_happeningsOf (commands : List Command) (registry : Registry η Nat n slots)
    {index : Nat} {before : ω} {after : Tapped ω} {full : Bool} :
    .interrupted index before after full ∉ happeningsOf commands registry := by
  induction commands generalizing registry with
  | nil => exact List.not_mem_nil
  | cons command rest ih =>
      intro hmem
      rcases List.mem_append.mp hmem with hnow | hlater
      · cases command with
        | _ => simp [happenings] at hnow
      · exact ih _ hlater

end Command

/-!
# Moves
-/

namespace Registry

def inboundFull (registry : Registry η Nat n slots) (index : Nat) : Bool :=
  (registry.buffers.bind (·[index]?)).any (·.inbound.isFull)

/-- What the callback does that an interrupt calls, if it calls one. -/
def calledBack (registry : Registry η Nat n slots) (scripts : List (List Command))
    (index : Nat) : List (Happening ω) :=
  if hin : index < n then
    let i : Fin n := ⟨index, hin⟩
    match (registry.slotAt i).callback with
    | some callback =>
        if (registry.slotAt i).state = .enabled then
          Command.happeningsOf (scripts.getD callback []) (registry.setInService i true)
        else
          []
    | none => []
  else
    []

theorem not_mem_calledBack (registry : Registry η Nat n slots) (scripts : List (List Command))
    (place : Nat) {index : Nat} {before : ω} {after : Tapped ω} {full : Bool} :
    .interrupted index before after full ∉ registry.calledBack scripts place := by
  intro hmem
  unfold calledBack at hmem
  split at hmem
  · rename_i hin
    cases hbound : (registry.slotAt ⟨place, hin⟩).callback with
    | none =>
        simp only [hbound] at hmem
        cases hmem
    | some callback =>
        simp only [hbound] at hmem
        split at hmem
        · exact Command.not_mem_happeningsOf _ _ hmem
        · cases hmem
  · cases hmem

section CalledBack

variable {registry : Registry η Nat n slots} {i : Fin n} (scripts : List (List Command))

theorem calledBack_callback {callback : Nat} (hruns : (registry.slotAt i).state = .enabled)
    (hbound : (registry.slotAt i).callback = some callback) :
    (registry.calledBack scripts i : List (Happening ω)) =
      Command.happeningsOf (scripts.getD callback []) (registry.setInService i true) := by
  rw [calledBack, dif_pos i.isLt]
  simp only [Fin.eta, hbound, if_pos hruns]

theorem calledBack_resting (hrests : (registry.slotAt i).state ≠ .enabled) :
    (registry.calledBack scripts i : List (Happening ω)) = [] := by
  rw [calledBack, dif_pos i.isLt]
  simp only [Fin.eta, if_neg hrests]
  split
  · rfl
  · rfl

theorem calledBack_unbound (hunbound : (registry.slotAt i).callback = none) :
    (registry.calledBack scripts i : List (Happening ω)) = [] := by
  rw [calledBack, dif_pos i.isLt]
  simp only [Fin.eta, hunbound]

end CalledBack

end Registry

namespace Move

variable [Line ω]

def run (move : Move ω) (registry : Registry η Nat n slots) : Registry η Nat n slots :=
  match move with
  | command issued => (issued.run registry).2
  | claimInterrupts => registry.claimInterrupts.2
  | releaseInterrupts => registry.releaseInterrupts
  | interrupt index line scripts =>
      (registry.interrupt (Bench.invoke scripts) index (line, [])).2.2

def runAll : List (Move ω) -> Registry η Nat n slots -> Registry η Nat n slots
  | [], registry => registry
  | move :: rest, registry => runAll rest (move.run registry)

def happenings (move : Move ω) (registry : Registry η Nat n slots) : List (Happening ω) :=
  match move with
  | command issued => issued.happenings registry
  | claimInterrupts | releaseInterrupts => []
  | interrupt index line scripts =>
      registry.calledBack scripts index ++
        [.interrupted index line
          (registry.interrupt (Bench.invoke scripts) index (({ line } : Tapped ω), [])).2.1.1
          (registry.inboundFull index)]

def happeningsOf : List (Move ω) -> Registry η Nat n slots -> List (Happening ω)
  | [], _ => []
  | move :: rest, registry => move.happenings registry ++ happeningsOf rest (move.run registry)

theorem runAll_append (first second : List (Move ω)) (registry : Registry η Nat n slots) :
    runAll (first ++ second) registry = runAll second (runAll first registry) := by
  induction first generalizing registry with
  | nil => rfl
  | cons move rest ih => exact ih (move.run registry)

/-- Interrupts happen only where a run makes one. -/
theorem mem_of_interrupted {moves : List (Move ω)} {registry : Registry η Nat n slots}
    {index : Nat} {before : ω} {after : Tapped ω} {full : Bool}
    (hhappened : .interrupted index before after full ∈ happeningsOf moves registry) :
    exists scripts, .interrupt index before scripts ∈ moves := by
  induction moves generalizing registry with
  | nil => cases hhappened
  | cons move rest ih =>
      rcases List.mem_append.mp hhappened with hnow | hlater
      · cases move with
        | command issued =>
            have hissued := List.mem_append_left [] hnow
            exact absurd hissued (Command.not_mem_happeningsOf [issued] registry)
        | claimInterrupts => cases hnow
        | releaseInterrupts => cases hnow
        | interrupt place line scripts =>
            rcases List.mem_append.mp hnow with hcalled | hended
            · exact absurd hcalled (registry.not_mem_calledBack scripts place)
            · cases List.mem_singleton.mp hended
              exact ⟨scripts, List.mem_cons_self⟩
      · rcases ih hlater with ⟨scripts, hmem⟩
        exact ⟨scripts, List.mem_cons_of_mem move hmem⟩

/-- The tap sees the line as it is after the interrupt. -/
theorem line_after_interrupt (registry : Registry η Nat n slots) (index : Nat) (line : ω)
    (scripts : List (List Command)) :
    (registry.interrupt (Bench.invoke scripts) index (({ line } : Tapped ω), [])).2.1.1.line =
      (registry.interrupt (Bench.invoke scripts) index (line, [])).2.1.1 := by
  let untap : Tapped ω × List CallbackRun -> ω × List CallbackRun := Prod.map Tapped.line id
  have huntap : Line.Hom untap := Tapped.hom_line.prodMap
  have hinvoke : forall callback state (registry : Registry η Nat n slots),
      Bench.invoke scripts callback (untap state) registry =
        (Bench.invoke scripts callback state registry).map untap id := by
    intro callback state registry
    rfl
  have hsame := Registry.interrupt_hom huntap hinvoke registry index ({ line }, [])
  exact (congrArg (·.2.1.1) hsame).symm

/-- Every interrupt that a run makes happens, with the line that it leaves under the tap. -/
theorem exists_interrupted (earlier later : List (Move ω)) (index : Nat) (before : ω)
    (scripts : List (List Command)) (registry : Registry η Nat n slots) :
    exists after full,
      .interrupted index before after full ∈
        happeningsOf (earlier ++ .interrupt index before scripts :: later) registry ∧
      after.line =
        ((runAll earlier registry).interrupt (Bench.invoke scripts) index (before, [])).2.1.1 := by
  induction earlier generalizing registry with
  | nil =>
      let tapped : Tapped ω := { line := before }
      refine ⟨(registry.interrupt (Bench.invoke scripts) index (tapped, [])).2.1.1,
        registry.inboundFull index, ?_, line_after_interrupt registry index before scripts⟩
      exact List.mem_append_left _ (List.mem_append_right _ (List.mem_singleton_self _))
  | cons move rest ih =>
      rcases ih (move.run registry) with ⟨after, full, hmem, hline⟩
      exact ⟨after, full, List.mem_append_right _ hmem, hline⟩

end Move
end PeripheralBank
