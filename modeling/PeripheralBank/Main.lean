import PeripheralBank.CommandLine.Outcome

/-!
# The program

Solves rates, echoes text over a simulated UART and runs a simulated timer.
-/

namespace PeripheralBank

/-- Prints how a run ends. -/
def report (outcome : CommandLine.Outcome) : IO UInt32 := do
  IO.print outcome.output
  match outcome.error with
  | some error => IO.eprintln ("Error: " ++ error)
  | none =>
      if outcome.status ≠ 0 then
        IO.eprintln "error: the arguments were not understood"
  return UInt32.ofNat outcome.status

end PeripheralBank

def main (arguments : List String) : IO UInt32 :=
  PeripheralBank.report (PeripheralBank.CommandLine.run arguments)
