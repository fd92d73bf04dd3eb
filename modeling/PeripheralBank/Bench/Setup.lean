import PeripheralBank.Bench.Basic
import PeripheralBank.Simulation.Hardware
import PeripheralBank.Simulation.Recorder

/-!
# Setting up a bench

A setup says which hardware a bench gets, how many instances its registry has, and whether these
have buffers.  Running steps on it yields a report on the steps and on what is left in the end.
-/

namespace PeripheralBank

inductive BenchHardware where
  /-- Simulated hardware whose divider chain runs from a clock, or from half of one. -/
  | simulated (clock : UInt32) (halved : Bool) (strategy : RateStrategy)
  /-- Hardware that does no more than it must. -/
  | recording (clock : UInt32)

structure Setup where
  profile : Profile
  hardware : BenchHardware
  instances : Nat
  /-- The slots of each ring, if there are to be buffers. -/
  slots : Option Nat
  depths : List Nat
  scripts : List (List Command)

structure Report where
  family : Family
  size : Nat
  isEmpty : Bool
  isBuffered : Bool
  steps : List StepReport
  final : List (Snapshot × Except Failure (Option Registers))
  faults : Nat
  lines : List SimulatedLine

namespace Setup

/-- The number of instances that the end of a report shows at most. -/
def maxShown : Nat :=
  4

def runOn {η : Type} [Inspectable η] {n slots : Nat} (setup : Setup) (steps : List BenchStep)
    (registry : Registry η Nat n slots) : Report :=
  let bench : Bench η n slots :=
    { registry, lines := setup.depths.map .ofDepth, scripts := setup.scripts }
  let (reports, after) := bench.run steps
  { family := registry.family
    size := registry.size
    isEmpty := registry.isEmpty
    isBuffered := registry.isBuffered
    steps := reports
    final := (List.range (min n maxShown)).map after.inspect
    faults := Inspectable.faults after.registry.hardware
    lines := after.lines }

/-- Runs steps on a registry with or without buffers.  A ring needs at least one slot. -/
def runWith {η : Type} [Inspectable η] {n : Nat} (setup : Setup) (steps : List BenchStep)
    (hardware : η) (hbelow : n < Handle.nullIndex)
    (hdriven : n ≤ Hardware.instances η) : Option Report :=
  match setup.slots with
  | none =>
      some (setup.runOn steps
        (Registry.unbuffered hardware hbelow hdriven : Registry η Nat n 1))
  | some 0 => none
  | some (slots + 1) =>
      some (setup.runOn steps
        (Registry.buffered hardware (Vector.replicate n Buffers.empty) hbelow hdriven :
          Registry η Nat n (slots + 1)))

/-- The number of instances that simulated hardware has at least. -/
def leastSimulated : Nat :=
  16

/-- Runs steps on a bench that is set up anew, if such a bench can be. -/
def run (setup : Setup) (steps : List BenchStep) : Option Report :=
  if hbelow : setup.instances < Handle.nullIndex then
    match setup.hardware with
    | .simulated clock halved strategy =>
        let made : SimulatedHardware (max leastSimulated setup.instances) :=
          if halved then .ofOscillator setup.profile clock strategy
          else { profile := setup.profile, clock, strategy }
        setup.runWith steps made hbelow (Nat.le_max_right _ _)
    | .recording clock =>
        let made : Recorder := { profile := setup.profile, clock }
        setup.runWith steps made hbelow (Nat.le_of_lt_succ hbelow)
  else
    none

end Setup

end PeripheralBank
