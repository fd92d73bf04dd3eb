import PeripheralBank.Registry.Interrupt
import PeripheralBank.Registry.Lifecycle
import PeripheralBank.Registry.Settings
import PeripheralBank.Simulation.Hardware
import PeripheralBank.Simulation.Line

/-!
# Ticks of a timer

A simulated timer runs for a number of periods with a callback that counts them.  Each period moves
the counter on and raises one interrupt, which the callback must handle.
-/

namespace PeripheralBank

/-- The registry of the timer: one instance without buffers and one callback. -/
abbrev TimerRegistry :=
  Registry (SimulatedHardware 1) Unit 1 1

/-- A timer that runs.  The count stands beside the line, where the callback reaches it. -/
structure Ticking where
  registry : TimerRegistry
  line : SimulatedLine
  count : Nat

namespace Ticking

/-- Claims the interrupts of a new timer, opens it at a period, binds the counting callback and
turns it on. -/
def start (clock period : UInt32) : Except Failure (Handle × Divisor × TimerRegistry) := do
  let hardware : SimulatedHardware 1 := { profile := .timer, clock }
  let registry : TimerRegistry :=
    .unbuffered hardware Handle.one_lt_nullIndex SimulatedHardware.one_driven
  let (granted, registry) := registry.claimInterrupts
  if granted then
    let (device, registry) ← answered registry.allocate
    let (divisor, registry) ← answered (registry.setRate device (.microseconds period))
    let (_, registry) ← answered (registry.bind device (some ()))
    let (_, registry) ← answered (registry.enable device)
    return (device, divisor, registry)
  else
    refuse .invalidState

/-- The callback adds one to the count. -/
def invoke (_callback : Unit) (state : SimulatedLine × Nat) (registry : TimerRegistry) :
    (SimulatedLine × Nat) × TimerRegistry :=
  ((state.1, state.2 + 1), registry)

/-- One period: the counter moves on by the period, and the interrupt is raised and handled. -/
def turn (device : Handle) (divisor : Divisor) (timer : Ticking) :
    Except Failure (Service × Ticking) := do
  let (_, hardware) ←
    answered (Inspectable.advance device.index divisor.secondary timer.registry.hardware)
  let registry := timer.registry.setHardware hardware
  let (service, (line, count), registry) :=
    registry.interrupt invoke device.index (timer.line.raise, timer.count)
  return (← service, { registry, line, count })

/-- Lets so many periods pass, as long as the callback handles their interrupts. -/
def run (device : Handle) (divisor : Divisor) : Nat -> Ticking -> Except Failure Ticking
  | 0, timer => .ok timer
  | left + 1, timer =>
      match timer.turn device divisor with
      | .error failure => .error failure
      | .ok (service, turned) =>
          if service = .callback then
            run device divisor left turned
          else
            refuse .invalidState

end Ticking

/-- Runs a timer for some ticks, reads its counter for the log and closes it.  The result is how
often the callback ran, and the achieved period in microseconds. -/
def countTicks (clock period : UInt32) (ticks : Nat) : Except Failure (Nat × UInt32) := do
  let (device, divisor, registry) ← Ticking.start clock period
  let line := SimulatedLine.ofDepth 0
  let timer ← Ticking.run device divisor ticks { registry, line, count := 0 }
  let achieved ← timer.registry.currentRate device
  let (_, registry) ← answered (timer.registry.counter device)
  let _ ← answered (registry.close device)
  match achieved with
  | .microseconds period => return (timer.count, period)
  | _ => return (timer.count, divisor.periodMicroseconds)

end PeripheralBank
