import PeripheralBank.Hardware
import PeripheralBank.Profile

/-!
# Recording hardware

Hardware with no registers.  It gives only what hardware must give, and keeps a record without limit
of the calls that turn instances on and off, program rates and arm interrupts.
-/

namespace PeripheralBank

structure Recorder where
  profile : Profile
  clock : UInt32
  events : List Event := []

namespace Recorder

def perform (recorder : Recorder) (index : Nat) (call : Call) : Recorder :=
  match call with
  | .enable _ | .rate _ | .arm _ =>
      { recorder with events := recorder.events ++ [⟨index, call⟩] }
  | .wordWidth _ | .kickTransmit => recorder

instance : Inspectable Recorder where
  instances := 254
  family recorder := recorder.profile.family
  clock := clock
  chain recorder := recorder.profile.chain
  perform := perform
  setClock hz recorder := { recorder with clock := hz }
  advance _ _ recorder := (.ok (), recorder)
  events := events
  clearEvents recorder := { recorder with events := [] }
  faults _ := 0
  registers? _ _ := .ok none

end Recorder

end PeripheralBank
