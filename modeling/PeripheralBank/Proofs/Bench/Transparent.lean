import PeripheralBank.Proofs.Bench.Path
import PeripheralBank.Proofs.Bench.Tied
import PeripheralBank.Proofs.Registry.Frame

/-!
# Transparent ties

A tie is transparent if nothing that a bench can look at or do tells the two kinds of hardware
apart.  Then runs over them cannot be told apart either.  The same things happen in both, and they
leave tied registries.
-/

namespace PeripheralBank

structure Hardware.Tie.Transparent {η η' : Type} [Inspectable η] [Inspectable η']
    (tie : Hardware.Tie η η') : Prop where
  on (index : Nat) : tie.On index
  rateStrategy {first : η} {second : η'} (hrel : tie.Rel first second) :
    Hardware.rateStrategy first = Hardware.rateStrategy second
  shownCounter {first : η} {second : η'} (hrel : tie.Rel first second) (index : Nat) :
    (Hardware.readCounter first index).1 = (Hardware.readCounter second index).1
  setClock {first : η} {second : η'} (hrel : tie.Rel first second) (hz : UInt32) :
    tie.Rel (Inspectable.setClock hz first) (Inspectable.setClock hz second)
  advance {first : η} {second : η'} (hrel : tie.Rel first second) (index : Nat)
    (ticks : UInt32) :
    (Inspectable.advance index ticks first).1 = (Inspectable.advance index ticks second).1 ∧
      tie.Rel (Inspectable.advance index ticks first).2 (Inspectable.advance index ticks second).2
  events {first : η} {second : η'} (hrel : tie.Rel first second) :
    Inspectable.events first = Inspectable.events second
  clearEvents {first : η} {second : η'} (hrel : tie.Rel first second) :
    tie.Rel (Inspectable.clearEvents first) (Inspectable.clearEvents second)
  faults {first : η} {second : η'} (hrel : tie.Rel first second) :
    Inspectable.faults first = Inspectable.faults second
  registers? {first : η} {second : η'} (hrel : tie.Rel first second) (index : Nat) :
    Inspectable.registers? first index = Inspectable.registers? second index

theorem Registry.inboundFull_eq {η : Type} [Inspectable η] {n slots : Nat}
    (registry : Registry η Nat n slots) (index : Nat) :
    registry.inboundFull index =
      if hin : index < n then (registry.buffersAt? ⟨index, hin⟩).any (·.inbound.isFull)
      else false := by
  unfold inboundFull buffersAt?
  cases registry.buffers with
  | none => simp
  | some storage =>
      by_cases hin : index < n
      · simp [hin]
      · simp [hin]

namespace Hardware.Tie.Transparent

open Registry

variable {η η' : Type} [Inspectable η] [Inspectable η'] {n slots : Nat} {tie : Hardware.Tie η η'}
  {first : Registry η Nat n slots} {second : Registry η' Nat n slots}
  (htransparent : tie.Transparent) (htied : Tied tie .equal first second)
include htransparent htied

/-!
# Commands
-/

theorem counter_fst (handle : Handle) : (first.counter handle).1 = (second.counter handle).1 :=
  htied.counter_shown (htransparent.on handle.index) id fun i _ =>
    htransparent.shownCounter htied.hardware i

theorem request (asked : Request Nat) :
    ResultsTied tie .equal (asked.run first) (asked.run second) := by
  have hwithin := asked.within_of_all htransparent.on
  have hstrategy := htransparent.rateStrategy htied.hardware
  exact htied.request hwithin
    (fun handle rate _ => htied.setRate (htransparent.on handle.index) hstrategy rate)
    fun handle _ => htransparent.counter_fst htied handle

theorem command (command : Command) :
    ResultsTied tie .equal (command.run first) (command.run second) := by
  have hhardware := htied.hardware
  cases command with
  | request asked => exact (htransparent.request htied asked).map _
  | snapshot device =>
      have hcounter := htransparent.counter_fst htied device
      exact (htied.snapshot (htransparent.on device.index) hcounter).map _
  | handle index =>
      refine ⟨?_, htied⟩
      simp only [Command.run, Registry.handle, htied.family]
  | registers index =>
      exact ⟨congrArg (·.map CommandAnswer.registers) (htransparent.registers? hhardware index),
        htied⟩
  | faults =>
      refine ⟨?_, htied⟩
      simp only [Command.run, htransparent.faults hhardware]
  | events =>
      refine ⟨?_, htied⟩
      simp only [Command.run, htransparent.events hhardware]
  | clearEvents => exact ⟨rfl, htied.setHardware (htransparent.clearEvents hhardware)⟩
  | advance index ticks =>
      rcases htransparent.advance hhardware index ticks with ⟨hmoved, hafter⟩
      exact ⟨congrArg (·.map fun _ => CommandAnswer.reply .done) hmoved, htied.setHardware hafter⟩
  | setClock hz => exact ⟨rfl, htied.setHardware (htransparent.setClock hhardware hz)⟩

variable {ω : Type}

theorem happenings_of_command (command : Command) :
    (command.happenings first : List (Happening ω)) = command.happenings second := by
  cases command with
  | request asked =>
      have hanswer := (htransparent.request htied asked).answer
      simp only [Command.happenings, hanswer]
  | snapshot device =>
      have hanswer := (htransparent.request htied (.counter device)).answer
      simp only [Command.happenings, hanswer]
  | _ => rfl

theorem happeningsOf_commands (commands : List Command) :
    (Command.happeningsOf commands first : List (Happening ω)) =
      Command.happeningsOf commands second := by
  induction commands generalizing first second with
  | nil => rfl
  | cons command rest ih =>
      have hafter := (htransparent.command htied command).after
      simp only [Command.happeningsOf]
      rw [htransparent.happenings_of_command htied command, ih hafter]

/-!
# Interrupts
-/

theorem calledBack (scripts : List (List Command)) (index : Nat) :
    (first.calledBack scripts index : List (Happening ω)) = second.calledBack scripts index := by
  unfold Registry.calledBack
  by_cases hin : index < n
  · rw [dif_pos hin, dif_pos hin]
    have hslot := htied.slots ⟨index, hin⟩ (htransparent.on index)
    have hserving := htied.setInService ⟨index, hin⟩ true
    simp only [hslot, htransparent.happeningsOf_commands hserving]
  · rw [dif_neg hin, dif_neg hin]

theorem inboundFull (index : Nat) : first.inboundFull index = second.inboundFull index := by
  rw [inboundFull_eq, inboundFull_eq]
  by_cases hin : index < n
  · rw [dif_pos hin, dif_pos hin]
    have hpart := htied.partAt ⟨index, hin⟩ (htransparent.on index)
    exact congrArg (fun part => part.2.1.any (·.inbound.isFull)) hpart
  · rw [dif_neg hin, dif_neg hin]

variable [Line ω]

theorem interrupt (index : Nat) (line : ω) (scripts : List (List Command)) :
    let served := first.interrupt (Bench.invoke scripts) index (line, [])
    let others := second.interrupt (Bench.invoke scripts) index (line, [])
    served.1 = others.1 ∧ served.2.1 = others.2.1 ∧
      Tied tie .equal served.2.2 others.2.2 := by
  refine Tied.interrupt_of (P := fun _ => True) ?_ htied (htransparent.on index) scripts ?_ line
  · intro first second htied command _
    exact htransparent.command htied command
  · intro _ _ _ _ _ _
    trivial

/-!
# Runs
-/

theorem move (move : Move ω) : Tied tie .equal (move.run first) (move.run second) := by
  cases move with
  | command issued => exact (htransparent.command htied issued).after
  | claimInterrupts => exact { htied with interruptsClaimed := rfl }
  | releaseInterrupts => exact { htied with interruptsClaimed := rfl }
  | interrupt index line scripts =>
      exact (htransparent.interrupt htied index line scripts).2.2

theorem run (moves : List (Move ω)) :
    Tied tie .equal (Move.runAll moves first) (Move.runAll moves second) := by
  induction moves generalizing first second with
  | nil => exact htied
  | cons move rest ih => exact ih (htransparent.move htied move)

theorem happenings_of_move (move : Move ω) : move.happenings first = move.happenings second := by
  cases move with
  | command issued => exact htransparent.happenings_of_command htied issued
  | claimInterrupts | releaseInterrupts => rfl
  | interrupt index line scripts =>
      have htapped := htransparent.interrupt htied index ({ line } : Tapped ω) scripts
      simp only [Move.happenings]
      rw [htransparent.calledBack htied scripts index, htransparent.inboundFull htied index,
        htapped.2.1]

theorem happeningsOf_run (moves : List (Move ω)) :
    Move.happeningsOf moves first = Move.happeningsOf moves second := by
  induction moves generalizing first second with
  | nil => rfl
  | cons move rest ih =>
      simp only [Move.happeningsOf]
      rw [htransparent.happenings_of_move htied move, ih (htransparent.move htied move)]

end Hardware.Tie.Transparent

/-!
# The same registry over other hardware
-/

namespace Registry

variable {η η' : Type} [Hardware η] [Hardware η'] {κ : Type} {n slots : Nat}
  {tie : Hardware.Tie η η'}

/-- A registry with its hardware exchanged. -/
def withHardware (registry : Registry η' κ n slots) (hardware : η)
    (hdriven : n ≤ Hardware.instances η) :
    Registry η κ n slots where
  family := registry.family
  hardware := hardware
  table := registry.table
  buffers := registry.buffers
  inService := registry.inService
  interruptsClaimed := registry.interruptsClaimed
  below_nullIndex := registry.below_nullIndex
  driven := hdriven

theorem tied_withHardware (registry : Registry η' κ n slots) {hardware : η}
    (hrel : tie.Rel hardware registry.hardware) (hdriven : n ≤ Hardware.instances η) :
    Tied tie .equal (registry.withHardware hardware hdriven) registry where
  family := rfl
  isBuffered := rfl
  slots _ _ := rfl
  buffers j _ := by
    show Option.Rel Eq (registry.buffersAt? j) (registry.buffersAt? j)
    cases registry.buffersAt? j with
    | none => exact Option.Rel.none
    | some buffers => exact Option.Rel.some rfl
  served _ _ := rfl
  interruptsClaimed := rfl
  hardware := hrel

/-- Registries that are tied by equal buffers differ in their hardware alone. -/
theorem withHardware_of_tied {first : Registry η κ n slots} {second : Registry η' κ n slots}
    (htied : Tied tie .equal first second) (hall : forall index, tie.On index) {hardware : η'}
    (hdriven : n ≤ Hardware.instances η') (hhardware : hardware = second.hardware) :
    first.withHardware hardware hdriven = second :=
  eq_of_parts htied.family hhardware htied.isBuffered (fun j => htied.partAt j (hall j))
    htied.interruptsClaimed

end Registry
end PeripheralBank
