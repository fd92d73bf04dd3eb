import PeripheralBank.Proofs.Bench.Apart
import PeripheralBank.Proofs.Bench.Powered
import PeripheralBank.Proofs.Bench.Transparent

/-!
# The strategy for rates

Hardware that is turned off while its divider is written is on again before anybody can look, and
its registers are what they would be if it had run on.  So whichever strategy the hardware of a
registry has for rates, every run shows the same and leaves the same behind, but for the record of
calls.
-/

namespace PeripheralBank

/-!
# Hardware without its strategy
-/

namespace SimulatedHardware

variable {m : Nat} {first second : SimulatedHardware m}

/-- All that is kept but the strategy for rates and the record. -/
def plain (hardware : SimulatedHardware m) : SimulatedHardware m :=
  { hardware with strategy := .hot, events := [] }

theorem plain_eq_of_parts (hprofile : first.profile = second.profile)
    (hclock : first.clock = second.clock)
    (hregisters : forall j, first.registers.get j = second.registers.get j)
    (hfaults : first.faults = second.faults) : first.plain = second.plain := by
  have hall : first.registers = second.registers :=
    Vector.ext fun j hj => hregisters ⟨j, hj⟩
  simp only [plain, hprofile, hclock, hall, hfaults]

section Same

variable (hplain : first.plain = second.plain)
include hplain

theorem profile_of_plain : first.profile = second.profile :=
  congrArg (·.profile) hplain

theorem clock_of_plain : first.clock = second.clock :=
  congrArg (·.clock) hplain

theorem faults_of_plain : first.faults = second.faults :=
  congrArg (·.faults) hplain

theorem get_of_plain (j : Fin m) : first.registers.get j = second.registers.get j :=
  congrArg (fun hardware => hardware.registers.get j) hplain

theorem plain_runAll (place : Nat) (touches : List Touch) :
    (Touch.runAll place touches first).plain = (Touch.runAll place touches second).plain := by
  have hprofile := profile_of_plain hplain
  apply plain_eq_of_parts
  · rw [Touch.profile_runAll, Touch.profile_runAll, hprofile]
  · rw [Touch.clock_runAll, Touch.clock_runAll, clock_of_plain hplain]
  · intro j
    rw [Touch.get_runAll, Touch.get_runAll, hprofile, get_of_plain hplain]
  · rw [Touch.faults_runAll, Touch.faults_runAll, hprofile, faults_of_plain hplain]

theorem plain_run (place : Nat) (touch : Touch) :
    (touch.run place first).plain = (touch.run place second).plain :=
  plain_runAll hplain place [touch]

theorem readCounter_of_plain (index : Nat) : first.readCounter index = second.readCounter index :=
  congrArg (·.readCounter index) hplain

theorem registers?_of_plain (index : Nat) : first.registers? index = second.registers? index :=
  congrArg (·.registers? index) hplain

end Same

/-- An instance that is on may as well be turned off around the write of its divider. -/
theorem plain_restart {hardware : SimulatedHardware m} {place : Nat}
    (hon : forall j : Fin m, place = j -> (hardware.registers.get j).enabled = true)
    (divisor : Divisor) :
    (((hardware.perform place (.enable false)).perform place (.rate divisor)).perform place
      (.enable true)).plain = (hardware.perform place (.rate divisor)).plain := by
  let restarting : List Touch :=
    [.call (.enable false), .call (.rate divisor), .call (.enable true)]
  let running : List Touch := [.call (.rate divisor)]
  show (Touch.runAll place restarting hardware).plain = (Touch.runAll place running hardware).plain
  apply plain_eq_of_parts
  · rw [Touch.profile_runAll, Touch.profile_runAll]
  · rw [Touch.clock_runAll, Touch.clock_runAll]
  · intro j
    rw [Touch.get_runAll, Touch.get_runAll]
    by_cases hat : place = j
    · rw [if_pos hat, if_pos hat]
      have hback : { hardware.registers.get j with enabled := true } =
          hardware.registers.get j := by
        rw [← hon j hat]
      exact congrArg (Registers.after (.rate divisor)) hback
    · rw [if_neg hat, if_neg hat]
  · rw [Touch.faults_runAll, Touch.faults_runAll]
    simp [restarting, running, Touch.faultsOf, Touch.faults]

/-- Hardware is tied to hardware with another strategy and another record. -/
def plainTie : Hardware.Tie (SimulatedHardware m) (SimulatedHardware m) where
  On _ := True
  Rel first second := first.plain = second.plain
  chain hplain := congrArg Profile.chain (profile_of_plain hplain)
  clock hplain := clock_of_plain hplain
  wordWidths hplain := congrArg Profile.wordWidths (profile_of_plain hplain)
  perform hplain _ _ call := plain_run hplain _ (.call call)
  readCounter hplain _ _ := hplain
  writeCounter hplain _ _ value :=
    ⟨Touch.writeCounter_fst _ _ _ (profile_of_plain hplain) value,
      plain_run hplain _ (.counter value)⟩

theorem on_plainTie (index : Nat) : (plainTie : Hardware.Tie (SimulatedHardware m) _).On index :=
  trivial

end SimulatedHardware

open SimulatedHardware

/-!
# Rates on either strategy
-/

namespace Registry

section Rates

variable {κ : Type} {m n slots : Nat} {registry : Registry (SimulatedHardware m) κ n slots}

theorem plain_program {i : Fin n} (hpowered : registry.PoweredAt i) (divisor : Divisor) :
    (registry.program i divisor).hardware.plain =
      (registry.hardware.perform i (.rate divisor)).plain := by
  unfold program
  split
  · rename_i hrestarts
    refine plain_restart ?_ divisor
    intro j hat
    obtain rfl : registry.place i = j := Fin.ext hat
    exact hpowered hrestarts.1
  · rfl

/-- Programming a divisor does nothing but to the hardware. -/
theorem setHardware_program {η : Type} [Hardware η] (registry : Registry η κ n slots) (i : Fin n)
    (divisor : Divisor) :
    registry.setHardware (registry.program i divisor).hardware = registry.program i divisor := by
  unfold program
  split
  · rfl
  · rfl

variable {first second : Registry (SimulatedHardware m) κ n slots}
  (htied : Tied plainTie .equal first second)
include htied

theorem Tied.poweredAt {j : Fin n} (hpowered : second.PoweredAt j) : first.PoweredAt j := by
  intro hruns
  rw [htied.slots j trivial] at hruns
  exact (congrArg Registers.enabled (get_of_plain htied.hardware _)).trans (hpowered hruns)

theorem Tied.adoptRate {i : Fin n} (hpowered : second.PoweredAt i) (rate : Rate)
    (divisor : Divisor) :
    Tied plainTie .equal (first.adoptRate i rate divisor) (second.adoptRate i rate divisor) := by
  have hslot := htied.slots i trivial
  have hfirst := poweredAt_setSlot (i := i) (htied.poweredAt hpowered)
    { first.slotAt i with rate := { requested := some rate, divisor } } rfl
  have hsecond := poweredAt_setSlot (i := i) hpowered
    { second.slotAt i with rate := { requested := some rate, divisor } } rfl
  have hrated := plain_run htied.hardware i (.call (.rate divisor))
  unfold Registry.adoptRate
  rw [hslot] at hfirst ⊢
  rw [← setHardware_program, ← setHardware_program (second.setSlot i _)]
  refine (htied.setSlot i _).setHardware ?_
  exact (plain_program hfirst divisor).trans (hrated.trans (plain_program hsecond divisor).symm)

end Rates
end Registry

/-!
# What is shown apart from the record
-/

def CommandAnswer.unlogged : CommandAnswer -> CommandAnswer
  | .events _ => .events []
  | answer => answer

def CallbackRun.unlogged (run : CallbackRun) : CallbackRun :=
  { run with answers := run.answers.map (·.map .unlogged) }

/-- What a move shows to somebody who does not look at the record of calls, neither directly nor
in a callback. -/
def Sight.unlogged {ω : Type} : Sight ω -> Sight ω
  | .answered answer => .answered (answer.map .unlogged)
  | .served service line runs => .served service line (runs.map .unlogged)
  | sight => sight

namespace Move

variable {η : Type} [Inspectable η] {ω : Type} [Line ω] {n slots : Nat}

/-- What the moves of a run show, one after the other. -/
def outcomesOf : List (Move ω) -> Registry η Nat n slots -> List (Sight ω)
  | [], _ => []
  | move :: rest, registry => move.outcome registry :: outcomesOf rest (move.run registry)

end Move

namespace Registry

variable {m n slots : Nat}

/-- Registries that differ at most in the strategy of their hardware and in its record. -/
structure SamePlain (first second : Registry (SimulatedHardware m) Nat n slots) : Prop where
  tied : Tied plainTie .equal first second
  powered (j : Fin n) : second.PoweredAt j

namespace SamePlain

variable {first second : Registry (SimulatedHardware m) Nat n slots}
  (hsame : SamePlain first second)
include hsame

/-!
# Commands
-/

theorem counter_fst (handle : Handle) : (first.counter handle).1 = (second.counter handle).1 :=
  hsame.tied.counter_shown trivial id fun _ _ => readCounter_of_plain hsame.tied.hardware _

theorem request (asked : Request Nat) :
    ResultsTied plainTie .equal (asked.run first) (asked.run second) := by
  refine hsame.tied.request (asked.within_of_all fun _ => trivial) ?_ ?_
  · rintro handle rate rfl
    exact hsame.tied.setRate_of trivial fun _ divisor =>
      hsame.tied.adoptRate (hsame.powered _) rate divisor
  · intro handle _
    exact hsame.counter_fst handle

theorem tied_command (command : Command) :
    ResultsTied plainTie .equal ((command.run first).map (Except.map CommandAnswer.unlogged) id)
      ((command.run second).map (Except.map CommandAnswer.unlogged) id) := by
  have hhardware := hsame.tied.hardware
  cases command with
  | request asked => exact ((hsame.request asked).map _).map _
  | snapshot device =>
      exact ((hsame.tied.snapshot trivial (hsame.counter_fst device)).map _).map _
  | handle index =>
      refine ⟨?_, hsame.tied⟩
      simp only [Command.run, Registry.handle, hsame.tied.family, Prod.map_fst]
  | registers index =>
      refine ⟨?_, hsame.tied⟩
      exact congrArg (fun found => (found.map CommandAnswer.registers).map CommandAnswer.unlogged)
        (registers?_of_plain hhardware index)
  | faults =>
      have hfaults : Inspectable.faults first.hardware = Inspectable.faults second.hardware :=
        faults_of_plain hhardware
      refine ⟨?_, hsame.tied⟩
      simp only [Command.run, hfaults, Prod.map_fst]
  | events => exact ⟨rfl, hsame.tied⟩
  | clearEvents => exact ⟨rfl, hsame.tied.setHardware hhardware⟩
  | advance index ticks =>
      refine ⟨?_, hsame.tied.setHardware (plain_run hhardware index (.ticks ticks))⟩
      exact congrArg (fun moved : Except Failure Unit =>
        (moved.map fun _ => CommandAnswer.reply .done).map CommandAnswer.unlogged)
        (Touch.advance_fst first.hardware second.hardware index ticks)
  | setClock hz =>
      refine ⟨rfl, hsame.tied.setHardware ?_⟩
      exact congrArg (Inspectable.setClock hz) hhardware

theorem command (command : Command) :
    (command.run first).1.map CommandAnswer.unlogged =
        (command.run second).1.map CommandAnswer.unlogged ∧
      SamePlain (command.run first).2 (command.run second).2 := by
  have hran := hsame.tied_command command
  have hpath : Path second (command.happenings second : List (Happening BareLine)) _ :=
    path_of_command command second
  exact ⟨hran.answer, hran.after, poweredAt_of_path hpath hsame.powered⟩

theorem commands (commands : List Command) :
    (Command.runAll commands first).1.map (Except.map CommandAnswer.unlogged) =
        (Command.runAll commands second).1.map (Except.map CommandAnswer.unlogged) ∧
      SamePlain (Command.runAll commands first).2 (Command.runAll commands second).2 := by
  induction commands generalizing first second with
  | nil => exact ⟨rfl, hsame⟩
  | cons issued rest ih =>
      rcases hsame.command issued with ⟨hanswer, hafter⟩
      rcases ih hafter with ⟨hanswers, hfinal⟩
      exact ⟨List.cons_eq_cons.mpr ⟨hanswer, hanswers⟩, hfinal⟩

/-!
# Runs
-/

variable {ω : Type} [Line ω]

theorem interrupt (index : Nat) (line : ω) (scripts : List (List Command)) :
    let served := first.interrupt (Bench.invoke scripts) index (line, [])
    let others := second.interrupt (Bench.invoke scripts) index (line, [])
    served.1 = others.1 ∧ served.2.1.1 = others.2.1.1 ∧
      served.2.1.2.map CallbackRun.unlogged = others.2.1.2.map CallbackRun.unlogged ∧
      Tied plainTie .equal served.2.2 others.2.2 := by
  intro served others
  refine hsame.tied.interrupt_seen (on_plainTie index) CallbackRun.unlogged scripts ?_ line
  intro i _ callback _
  have hserving : SamePlain (first.setInService i true) (second.setInService i true) :=
    ⟨hsame.tied.setInService i true, hsame.powered⟩
  rcases hserving.commands (scripts.getD callback []) with ⟨hanswers, hafter⟩
  exact ⟨congrArg (CallbackRun.mk callback) hanswers, hafter.tied⟩

theorem move (move : Move ω) :
    (move.outcome first).unlogged = (move.outcome second).unlogged ∧
      SamePlain (move.run first) (move.run second) := by
  have hpowered := poweredAt_of_path (path_of_move move second) hsame.powered
  cases move with
  | command issued =>
      rcases hsame.command issued with ⟨hanswer, hafter⟩
      exact ⟨congrArg Sight.answered hanswer, hafter⟩
  | claimInterrupts =>
      refine ⟨?_, { hsame.tied with interruptsClaimed := rfl }, hpowered⟩
      simp only [Move.outcome, claimInterrupts, hsame.tied.interruptsClaimed]
  | releaseInterrupts => exact ⟨rfl, { hsame.tied with interruptsClaimed := rfl }, hpowered⟩
  | interrupt index line scripts =>
      rcases hsame.interrupt index line scripts with ⟨hservice, hline, hruns, hafter⟩
      refine ⟨?_, hafter, hpowered⟩
      simp only [Move.outcome, Sight.unlogged, hservice, hline, hruns]

theorem run (moves : List (Move ω)) :
    (Move.outcomesOf moves first).map Sight.unlogged =
        (Move.outcomesOf moves second).map Sight.unlogged ∧
      SamePlain (Move.runAll moves first) (Move.runAll moves second) := by
  induction moves generalizing first second with
  | nil => exact ⟨rfl, hsame⟩
  | cons move rest ih =>
      rcases hsame.move move with ⟨houtcome, hafter⟩
      rcases ih hafter with ⟨houtcomes, hfinal⟩
      exact ⟨List.cons_eq_cons.mpr ⟨houtcome, houtcomes⟩, hfinal⟩

end SamePlain

/-- All that is kept but the strategy for rates and the record. -/
def plain (registry : Registry (SimulatedHardware m) Nat n slots) :
    Registry (SimulatedHardware m) Nat n slots :=
  registry.setHardware registry.hardware.plain

def withStrategy (registry : Registry (SimulatedHardware m) Nat n slots)
    (strategy : RateStrategy) : Registry (SimulatedHardware m) Nat n slots :=
  registry.setHardware { registry.hardware with strategy }

theorem plain_of_tied {first second : Registry (SimulatedHardware m) Nat n slots}
    (htied : Tied plainTie .equal first second) : first.plain = second.plain :=
  eq_of_parts htied.family htied.hardware htied.isBuffered (fun j => htied.partAt j trivial)
    htied.interruptsClaimed

end Registry

section Runs

variable {ω : Type} [Line ω] {m n slots : Nat}

/-- From registries that differ in nothing but the strategy of their hardware for rates, the same
run shows the same and leaves registries that differ in nothing but the strategy and the record. -/
theorem strategy_hidden (hardware : SimulatedHardware m)
    (buffers : Option (Vector (Buffers slots) n)) (hbelow : n < Handle.nullIndex)
    (hdriven : n ≤ Hardware.instances (SimulatedHardware m)) (past later : List (Move ω)) :
    let registry := Move.runAll past (Registry.build hardware buffers hbelow hdriven)
    let running := registry.withStrategy .hot
    let restarting := registry.withStrategy .restart
    (Move.outcomesOf later running).map Sight.unlogged =
        (Move.outcomesOf later restarting).map Sight.unlogged ∧
      (Move.runAll later running).plain = (Move.runAll later restarting).plain := by
  intro registry running restarting
  have hpowered : forall j, registry.PoweredAt j :=
    poweredAt_of_path (path_of_run past _)
      (Registry.poweredAt_build hardware buffers hbelow hdriven)
  have hplain : plainTie.Rel running.hardware restarting.hardware := rfl
  have htied : Registry.Tied plainTie .equal running restarting :=
    restarting.tied_withHardware hplain restarting.driven
  have hsame : running.SamePlain restarting := ⟨htied, hpowered⟩
  rcases hsame.run later with ⟨houtcomes, hfinal⟩
  exact ⟨houtcomes, Registry.plain_of_tied hfinal.tied⟩

/-- A timer that runs gets two rates, one from its callback.  Only the records tell whether it was
turned off for them. -/
theorem strategy_hidden_of_running_timer :
    let start : Registry (SimulatedHardware 1) Nat 1 4 :=
      .build { profile := .timer, clock := 8000000 } none (by decide) SimulatedHardware.one_driven
    let device := start.handle 0
    let past : List (Move BareLine) :=
      [.command (.request .allocate), .command (.request (.bind device (some 0))),
        .command (.request (.enable device))]
    let later : List (Move BareLine) :=
      [.command (.request (.setRate device (.hertz 1000))), .command (.advance 0 5),
        .interrupt 0 {} [[.request (.setRate device (.hertz 4000)), .events]],
        .command (.request (.counter device)), .command .events]
    let registry := Move.runAll past start
    let running := registry.withStrategy .hot
    let restarting := registry.withStrategy .restart
    ((registry.slotAt 0).state = .enabled ∧
        (Move.runAll later running).hardware.events ≠
          (Move.runAll later restarting).hardware.events) ∧
      (Move.outcomesOf later running).map Sight.unlogged =
        (Move.outcomesOf later restarting).map Sight.unlogged ∧
      (Move.runAll later running).plain = (Move.runAll later restarting).plain := by
  intro start device past later registry running restarting
  have hruns : (registry.slotAt 0).state = .enabled := by decide
  have hrecords : (Move.runAll later running).hardware.events ≠
      (Move.runAll later restarting).hardware.events := by decide +kernel
  exact ⟨⟨hruns, hrecords⟩, strategy_hidden { profile := .timer, clock := 8000000 } none (by decide)
    SimulatedHardware.one_driven past later⟩

end Runs
end PeripheralBank
