import PeripheralBank.Bench.Command
import PeripheralBank.Registry.Interrupt
import PeripheralBank.Simulation.LineStep

/-!
# Benches

A registry on a bench: simulated lines to raise interrupts on, a bare line besides, and scripts that
its callbacks follow.  A step is a command, a move of the interrupt side, or something done to a
line; its report says what it was answered, which calls the hardware recorded, and which callbacks
ran.
-/

namespace PeripheralBank

/-- A callback that ran, and how its commands were answered. -/
structure CallbackRun where
  callback : Nat
  answers : List (Except Failure CommandAnswer)

structure Bench (η : Type) [Inspectable η] (n slots : Nat) where
  registry : Registry η Nat n slots
  lines : List SimulatedLine
  bareLine : BareLine := {}
  /-- Whether the interrupt side is held by the bench. -/
  holdsInterrupts : Bool := false
  /-- The commands of each callback, by its number. -/
  scripts : List (List Command)

inductive BenchStep where
  | command (command : Command)
  | claimInterrupts
  | releaseInterrupts
  | interrupt (index : Nat) (line : Option Nat)
  | bareAcknowledged
  | line (number : Nat) (step : LineStep)

inductive BenchAnswer where
  | command (answer : CommandAnswer)
  | flag (value : Bool)
  | service (service : Service)
  /-- Nobody holds the interrupt side, so the interrupt went unheard. -/
  | notClaimed
  | count (value : Nat)
  | line (answer : LineAnswer)
  | noLine

structure StepReport where
  answer : Except Failure BenchAnswer
  /-- The calls recorded beyond those that had been recorded before. -/
  events : List Event
  runs : List CallbackRun

namespace Bench

variable {η : Type} [Inspectable η] {n slots : Nat}

/-!
# Interrupts
-/

/-- Runs the script of a callback and notes it beside the line.  A number without a script does
nothing. -/
def invoke {ω : Type} (scripts : List (List Command)) (callback : Nat)
    (state : ω × List CallbackRun) (registry : Registry η Nat n slots) :
    (ω × List CallbackRun) × Registry η Nat n slots :=
  let (answers, registry) := Command.runAll (scripts.getD callback []) registry
  ((state.1, state.2 ++ [{ callback, answers }]), registry)

/-- Handles an interrupt on a line, and gives the callbacks that ran. -/
def interruptOn {ω : Type} [Line ω] (bench : Bench η n slots) (index : Nat) (line : ω) :
    Except Failure Service × List CallbackRun × ω × Registry η Nat n slots :=
  let (service, (line, runs), registry) :=
    bench.registry.interrupt (invoke bench.scripts) index (line, [])
  (service, runs, line, registry)

/-- Handles an interrupt on a line of the bench; where there is no such line, on the bare one. -/
def interrupt (bench : Bench η n slots) (index : Nat) (number : Option Nat) :
    Except Failure BenchAnswer × List CallbackRun × Bench η n slots :=
  if bench.holdsInterrupts then
    match number.bind fun number => bench.lines[number]?.map (number, ·) with
    | some (number, line) =>
        let (service, runs, line, registry) := bench.interruptOn index line
        (service.map .service, runs, { bench with registry, lines := bench.lines.set number line })
    | none =>
        let (service, runs, bareLine, registry) := bench.interruptOn index bench.bareLine
        (service.map .service, runs, { bench with registry, bareLine })
  else
    (.ok .notClaimed, [], bench)

/-!
# Steps
-/

def answer (step : BenchStep) (bench : Bench η n slots) :
    Except Failure BenchAnswer × List CallbackRun × Bench η n slots :=
  match step with
  | .command command =>
      let (answer, registry) := command.run bench.registry
      (answer.map .command, [], { bench with registry })
  | .claimInterrupts =>
      let (granted, registry) := bench.registry.claimInterrupts
      (.ok (.flag granted), [],
        { bench with registry, holdsInterrupts := bench.holdsInterrupts || granted })
  | .releaseInterrupts =>
      if bench.holdsInterrupts then
        (.ok (.flag true), [],
          { bench with registry := bench.registry.releaseInterrupts, holdsInterrupts := false })
      else
        (.ok (.flag false), [], bench)
  | .interrupt index line => bench.interrupt index line
  | .bareAcknowledged => (.ok (.count bench.bareLine.acknowledged), [], bench)
  | .line number step =>
      match bench.lines[number]? with
      | none => (.ok .noLine, [], bench)
      | some line =>
          let (answer, line) := step.run line
          (.ok (.line answer), [], { bench with lines := bench.lines.set number line })

def events (bench : Bench η n slots) : List Event :=
  Inspectable.events bench.registry.hardware

def step (step : BenchStep) (bench : Bench η n slots) : StepReport × Bench η n slots :=
  let (answer, runs, after) := bench.answer step
  ({ answer, events := after.events.drop bench.events.length, runs }, after)

def run : List BenchStep -> Bench η n slots -> List StepReport × Bench η n slots
  | [], bench => ([], bench)
  | step :: rest, bench =>
      let (report, bench) := bench.step step
      let (reports, bench) := run rest bench
      (report :: reports, bench)

/-!
# The state at the end
-/

/-- What an instance tells about itself and what its registers hold. -/
def inspect (bench : Bench η n slots) (index : Nat) :
    Snapshot × Except Failure (Option Registers) :=
  let (snapshot, registry) := bench.registry.snapshot (bench.registry.handle index)
  (snapshot, Inspectable.registers? registry.hardware index)

end Bench

end PeripheralBank
