import PeripheralBank.Registry.Interrupt
import PeripheralBank.Registry.Lifecycle
import PeripheralBank.Registry.Transfer
import PeripheralBank.Simulation.Hardware
import PeripheralBank.Simulation.Line

/-!
# Echo over a UART

A text is sent through a simulated UART whose line is looped back, and the echo is read into an
output.  The text goes out in chunks: as much as the outbound buffer takes is written, interrupts
are handled until one moves nothing, and what came in is read.  The whole may take so many
interrupts and no more.
-/

namespace PeripheralBank

/-- The registry of the echo: one UART with buffers of sixteen slots and no callbacks. -/
abbrev EchoRegistry :=
  Registry (SimulatedHardware 1) Empty 1 16

structure Echo where
  registry : EchoRegistry
  line : SimulatedLine
  written : Nat
  echoed : Nat
  output : List UInt8

namespace Echo

/-- The number of interrupts after which an echo is given up. -/
def maxInterrupts : Nat :=
  10000

/-- The number of words that the transmitter of the line takes at once. -/
def lineDepth : Nat :=
  4

/-- Claims the interrupts of a new UART, opens it at a baud rate and turns it on. -/
def start (clock baud : UInt32) : Except Failure (Handle × EchoRegistry) := do
  let hardware : SimulatedHardware 1 := { profile := .uart, clock }
  let registry : EchoRegistry :=
    .buffered hardware (Vector.replicate 1 .empty) Handle.one_lt_nullIndex
      SimulatedHardware.one_driven
  let (granted, registry) := registry.claimInterrupts
  if granted then
    let (device, registry) ← answered registry.allocate
    let (_, registry) ← answered (registry.setRate device (.hertz baud))
    let (_, registry) ← answered (registry.enable device)
    return (device, registry)
  else
    refuse .invalidState

/-- Writes what is left of the text, as far as the buffer takes it. -/
def send (device : Handle) (text : List UInt8) (echo : Echo) : Except Failure Echo := do
  let (stored, registry) ← answered (echo.registry.write device (text.drop echo.written))
  return { echo with registry, written := echo.written + stored }

/-- Handles one interrupt, and lets what was sent come in again. -/
def turn (device : Handle) (echo : Echo) : Except Failure (Service × Echo) := do
  let (service, line, registry) :=
    echo.registry.interrupt (fun callback _ _ => nomatch callback) device.index echo.line
  return (← service, { echo with registry, line := line.loopBack.2 })

/-- Reads what came in into the output, up to a limit. -/
def collect (device : Handle) (limit : Nat) (echo : Echo) : Except Failure Echo := do
  let room := (echo.output.take limit).drop echo.echoed
  let (taken, filled, registry) := echo.registry.read device room
  let output := echo.output.take echo.echoed ++ filled ++ echo.output.drop limit
  return { echo with registry, output, echoed := echo.echoed + (← taken) }

/-- Handles interrupts, so many at most, until the whole text was echoed.  After an interrupt that
moved nothing, what came in is read and the next chunk is written.  The result is the output as it
was left, and why the echo ended before its time if it did. -/
def run (device : Handle) (text : List UInt8) : Nat -> Echo -> Except Failure Unit × Echo
  | 0, echo => (refuse .invalidState, echo)
  | allowed + 1, echo =>
      match echo.turn device with
      | .error failure => (.error failure, echo)
      | .ok (service, turned) =>
          if service = .transfer 0 false then
            match turned.collect device text.length with
            | .error failure => (.error failure, turned)
            | .ok collected =>
                if collected.echoed < text.length then
                  match collected.send device text with
                  | .error failure => (.error failure, collected)
                  | .ok sent => run device text allowed sent
                else
                  (.ok (), collected)
          else
            run device text allowed turned

/-- Echoes a text that is not longer than the output. -/
def transfer (device : Handle) (text : List UInt8) (echo : Echo) : Except Failure Unit × Echo :=
  if text.length = 0 then
    (.ok (), echo)
  else
    match echo.send device text with
    | .error failure => (.error failure, echo)
    | .ok sent => sent.run device text maxInterrupts

end Echo

/-- Echoes as much of a text as an output has room for, asks for the log whether words were dropped,
and closes the UART.  The result is the number of bytes echoed, beside the output as it was left. -/
def echoText (clock baud : UInt32) (text output : List UInt8) : Except Failure Nat × List UInt8 :=
  match Echo.start clock baud with
  | .error failure => (.error failure, output)
  | .ok (device, registry) =>
      let line := SimulatedLine.ofDepth Echo.lineDepth
      let echo : Echo := { registry, line, written := 0, echoed := 0, output }
      match echo.transfer device (text.take output.length) with
      | (.error failure, left) => (.error failure, left.output)
      | (.ok (), done) =>
          match done.registry.overflows device with
          | .error failure => (.error failure, done.output)
          | .ok _ => ((done.registry.close device).1.map fun _ => done.echoed, done.output)

end PeripheralBank
