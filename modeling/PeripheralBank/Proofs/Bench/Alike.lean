import PeripheralBank.Proofs.Bench.Tied
import PeripheralBank.Proofs.Registry.Alike
import PeripheralBank.Proofs.Registry.Service

/-!
# What a run shows

An observer of a run sees every answer, every line after its interrupt and every callback
with its answers.  What the hardware keeps of one instance can be hidden from the observer:
the value of its counter, its registers and the record of calls.  Registries that are alike
off an instance then show the same in every run.
-/

namespace PeripheralBank

/-!
# What is hidden
-/

def Snapshot.blurred (snapshot : Snapshot) : Snapshot :=
  { snapshot with counter := snapshot.counter.map fun _ => 0 }

def CommandAnswer.blurred : CommandAnswer -> CommandAnswer
  | .reply (.counter _) => .reply (.counter 0)
  | .snapshot told => .snapshot told.blurred
  | .registers _ => .registers none
  | .events _ => .events []
  | answer => answer

/-- Whether a command looks at what the hardware keeps of an instance. -/
def Command.looksBehind (index : Nat) : Command -> Bool
  | .request (.counter device) | .snapshot device => device.index == index
  | .registers place => place == index
  | .events => true
  | _ => false

/-- An answer as it is seen where the hardware of an instance is hidden.  A failure is never
hidden. -/
def Command.seen (index : Nat) (command : Command) (answer : Except Failure CommandAnswer) :
    Except Failure CommandAnswer :=
  if command.looksBehind index then answer.map .blurred else answer

def CallbackRun.seen (index : Nat) (scripts : List (List Command)) (run : CallbackRun) :
    CallbackRun :=
  { run with
    answers := List.zipWith (Command.seen index) (scripts.getD run.callback []) run.answers }

section Hidden

variable {index : Nat} {device : Handle} (hindex : device.index = index)
include hindex

theorem Command.seen_counter (value : Except Failure UInt32) :
    Command.seen index (.request (.counter device)) ((value.map .counter).map .reply) =
      value.map fun _ => .reply (.counter 0) := by
  rw [Command.seen, Command.looksBehind, if_pos (beq_iff_eq.mpr hindex)]
  cases value with
  | error failure => rfl
  | ok count => rfl

theorem Command.seen_snapshot (told : Snapshot) :
    Command.seen index (.snapshot device) (.ok (.snapshot told)) =
      .ok (.snapshot told.blurred) :=
  if_pos (beq_iff_eq.mpr hindex)

end Hidden

theorem Command.seen_registers (index : Nat) (value : Except Failure (Option Registers)) :
    Command.seen index (.registers index) (value.map .registers) =
      value.map fun _ => .registers none := by
  rw [Command.seen, Command.looksBehind, if_pos (beq_iff_eq.mpr rfl)]
  cases value with
  | error failure => rfl
  | ok registers => rfl

/-!
# What is seen
-/

inductive Sight (ω : Type) where
  | answered (answer : Except Failure CommandAnswer)
  | claimed (granted : Bool)
  | released
  | served (service : Except Failure Service) (line : ω) (runs : List CallbackRun)

namespace Move

variable {η : Type} [Inspectable η] {ω : Type} [Line ω] {n slots : Nat}

def seen (index : Nat) (move : Move ω) (registry : Registry η Nat n slots) : Sight ω :=
  match move with
  | command issued => .answered (issued.seen index (issued.run registry).1)
  | claimInterrupts => .claimed registry.claimInterrupts.1
  | releaseInterrupts => .released
  | interrupt place line scripts =>
      let served := registry.interrupt (Bench.invoke scripts) place (line, [])
      .served served.1 served.2.1.1 (served.2.1.2.map (.seen index scripts))

def seenOf (index : Nat) : List (Move ω) -> Registry η Nat n slots -> List (Sight ω)
  | [], _ => []
  | move :: rest, registry => move.seen index registry :: seenOf index rest (move.run registry)

end Move

/-!
# Commands
-/

namespace Registry.AlikeOff

variable {m n slots : Nat} {i : Fin n}
  {first second : Registry (SimulatedHardware m) Nat n slots} (halike : AlikeOff i first second)
include halike

theorem snapshot (handle : Handle) :
    (first.snapshot handle).1.blurred = (second.snapshot handle).1.blurred := by
  have hsame := halike.tied.snapshot_but_counter (on_alikeTie i handle.index)
  show { (first.snapshot handle).1 with counter := (first.counter handle).1.map fun _ => 0 } = _
  rw [halike.counter_map, hsame]
  rfl

theorem snapshot_of_off {handle : Handle} (hoff : handle.index ≠ i) :
    (first.snapshot handle).1 = (second.snapshot handle).1 :=
  (halike.tied.snapshot trivial (halike.counter_fst hoff)).answer

theorem command (command : Command) :
    ResultsAlike i ((command.run first).map (command.seen i) id)
      ((command.run second).map (command.seen i) id) := by
  cases command with
  | request asked =>
      by_cases hhidden : exists handle, asked = .counter handle ∧ handle.index = i
      · rcases hhidden with ⟨handle, rfl, hindex⟩
        refine ⟨?_, halike.counter handle⟩
        have hcounted := halike.counter_map handle (CommandAnswer.reply (.counter 0))
        rw [← Command.seen_counter hindex, ← Command.seen_counter hindex] at hcounted
        exact hcounted
      · have hquiet : forall handle, asked = .counter handle -> handle.index ≠ i := by
          intro handle hasked hindex
          exact hhidden ⟨handle, hasked, hindex⟩
        exact ((halike.request hquiet).map _).map _
  | snapshot device =>
      refine ⟨?_, halike.counter device⟩
      by_cases hindex : device.index = i
      · have hfirst := Command.seen_snapshot hindex (first.snapshot device).1
        have hsecond := Command.seen_snapshot hindex (second.snapshot device).1
        rw [halike.snapshot device, ← hsecond] at hfirst
        exact hfirst
      · exact congrArg (Command.seen i (.snapshot device) ∘ Except.ok ∘ CommandAnswer.snapshot)
          (halike.snapshot_of_off hindex)
  | handle index =>
      refine ⟨?_, halike⟩
      simp only [Command.run, Registry.handle, halike.family, Prod.map_fst]
  | registers index =>
      refine ⟨?_, halike⟩
      by_cases hindex : index = i
      · subst hindex
        have hregisters := SimulatedHardware.registers?_map first.hardware second.hardware i
          (CommandAnswer.registers none)
        rw [← Command.seen_registers, ← Command.seen_registers] at hregisters
        exact hregisters
      · exact congrArg (Command.seen i (.registers index) ∘ Except.map .registers)
          (halike.hardware.registers? hindex)
  | faults =>
      have hfaults : Inspectable.faults first.hardware = Inspectable.faults second.hardware :=
        halike.hardware.faults
      refine ⟨?_, halike⟩
      simp only [Command.run, Prod.map_fst, hfaults]
  | events => exact ⟨by rfl, halike⟩
  | clearEvents => exact ⟨rfl, halike.setHardware { halike.hardware with }⟩
  | advance index ticks =>
      rcases halike.hardware.advance index ticks with ⟨hmoved, hhardware⟩
      refine ⟨?_, halike.setHardware hhardware⟩
      exact congrArg (Command.seen i (.advance index ticks) ∘ Except.map _) hmoved
  | setClock hz => exact ⟨rfl, halike.setHardware { halike.hardware with clock := rfl }⟩

theorem commands (commands : List Command) :
    List.zipWith (Command.seen i) commands (Command.runAll commands first).1 =
        List.zipWith (Command.seen i) commands (Command.runAll commands second).1 ∧
      AlikeOff i (Command.runAll commands first).2 (Command.runAll commands second).2 := by
  induction commands generalizing first second with
  | nil => exact ⟨rfl, halike⟩
  | cons issued rest ih =>
      have hissued := halike.command issued
      rcases ih hissued.after with ⟨hanswers, hafter⟩
      exact ⟨List.cons_eq_cons.mpr ⟨hissued.answer, hanswers⟩, hafter⟩

/-!
# Interrupts
-/

variable {ω : Type} [Line ω]

/-- An interrupt on equal lines turns out alike, leaves equal lines, and its callback is answered
alike. -/
theorem interrupt (scripts : List (List Command)) (index : Nat) (line : ω) :
    let served := fun registry : Registry (SimulatedHardware m) Nat n slots =>
      registry.interrupt (Bench.invoke scripts) index (line, [])
    (served first).1 = (served second).1 ∧
      (served first).2.1.1 = (served second).2.1.1 ∧
      (served first).2.1.2.map (CallbackRun.seen i scripts) =
        (served second).2.1.2.map (CallbackRun.seen i scripts) ∧
      AlikeOff i (served first).2.2 (served second).2.2 := by
  intro served
  have hserved := halike.tied.interrupt_seen (on_alikeTie i index) (CallbackRun.seen i scripts)
    scripts ?_ line
  · rcases hserved with ⟨hservice, hline, hruns, hafter⟩
    exact ⟨hservice, hline, hruns, alikeOff_of_tied hafter⟩
  · intro j _ callback _
    have hserving := alikeOff_of_tied (halike.tied.setInService j true)
    rcases hserving.commands (scripts.getD callback []) with ⟨hanswers, hafter⟩
    exact ⟨congrArg (CallbackRun.mk callback) hanswers, hafter.tied⟩

/-!
# Runs
-/

theorem move (move : Move ω) :
    move.seen i first = move.seen i second ∧ AlikeOff i (move.run first) (move.run second) := by
  cases move with
  | command issued =>
      have hissued := halike.command issued
      exact ⟨congrArg Sight.answered hissued.answer, hissued.after⟩
  | claimInterrupts =>
      refine ⟨?_, { halike with interruptsClaimed := rfl }⟩
      simp only [Move.seen, claimInterrupts, halike.interruptsClaimed]
  | releaseInterrupts => exact ⟨rfl, { halike with interruptsClaimed := rfl }⟩
  | interrupt index line scripts =>
      rcases halike.interrupt scripts index line with ⟨hservice, hline, hruns, hafter⟩
      refine ⟨?_, hafter⟩
      simp only [Move.seen, hservice, hline, hruns]

/-- Registries that are alike show the same in every run. -/
theorem run (moves : List (Move ω)) :
    Move.seenOf i moves first = Move.seenOf i moves second := by
  induction moves generalizing first second with
  | nil => rfl
  | cons move rest ih =>
      rcases halike.move move with ⟨hseen, hafter⟩
      exact List.cons_eq_cons.mpr ⟨hseen, ih hafter⟩

end Registry.AlikeOff
end PeripheralBank
