import PeripheralBank.CommandLine.Arguments
import PeripheralBank.RegisterFields
import PeripheralBank.Simulation.Echo
import PeripheralBank.Simulation.Ticking

/-!
# Outcomes of the command line

What an invocation prints, or the error that ends it, and the status with which the program ends:
zero where all went well, one after an error, two where the arguments were not understood.
-/

namespace PeripheralBank
namespace CommandLine

/-- Why an invocation that was understood ends without a result. -/
inductive InvocationError where
  | missingRate
  | failed (failure : Failure)

namespace InvocationError

def describe : InvocationError -> String
  | missingRate => "MissingRate"
  | failed (.refused error) => "Periph(" ++ error.name ++ ")"
  | failed .zeroRatio => "ZeroRatio"
  | failed .noSuchInstance => "NoSuchInstance"
  | failed .selfWait => "SelfWait"

end InvocationError

/-!
# Texts
-/

/-- The line about a divisor, and a line about its register fields if the family has any. -/
def describeDivisor (family : Family) (divisor : Divisor) : String :=
  let line :=
    toString divisor.primary.toNat ++ "x" ++ toString divisor.secondary.toNat ++ " -> "
      ++ toString divisor.frequency.toNat ++ " Hz (" ++ toString divisor.periodMicroseconds.toNat
      ++ " us)\n"
  match RegisterFields.encode? family divisor with
  | none => line
  | some fields => line ++ fields.describe ++ "\n"

/-- Bytes as text, or nothing where they are no text. -/
def decoded (bytes : List UInt8) : String :=
  (String.fromUTF8? ⟨bytes.toArray⟩).getD ""

/-!
# Running
-/

namespace Invocation

def run : Invocation -> Except InvocationError String
  | .solve _ _ none => .error .missingRate
  | .solve clock family (some rate) =>
      match family.solve clock rate with
      | .error failure => .error (.failed failure)
      | .ok divisor => .ok (describeDivisor family divisor)
  | .echo clock text baud =>
      let bytes := text.toUTF8.toList
      match echoText clock baud bytes (bytes.map fun _ => 0) with
      | (.error failure, _) => .error (.failed failure)
      | (.ok echoed, output) => .ok (decoded (output.take echoed) ++ "\n")
  | .timer clock period ticks =>
      match countTicks clock period ticks with
      | .error failure => .error (.failed failure)
      | .ok (count, achieved) =>
          .ok ("callback ran " ++ toString count ++ " times, period " ++ toString achieved.toNat
            ++ " us\n")

end Invocation

structure Outcome where
  status : Nat
  output : String
  error : Option String

def run (arguments : List String) : Outcome :=
  match Invocation.ofArguments arguments with
  | none => { status := 2, output := "", error := none }
  | some invocation =>
      match invocation.run with
      | .error error => { status := 1, output := "", error := some error.describe }
      | .ok output => { status := 0, output, error := none }

end CommandLine
end PeripheralBank
