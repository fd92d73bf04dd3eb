import PeripheralBank.Proofs.Bench.Lasting
import PeripheralBank.Simulation.Hardware

/-!
# The make of simulated hardware

Calls, counters and hands from outside change the registers of simulated hardware, its clock, its
record and its faults, but never its profile nor its rate strategy.  What it is made of lasts, and
so does all that follows from it.
-/

namespace PeripheralBank

namespace SimulatedHardware

variable {m : Nat} (hardware : SimulatedHardware m)

def make (hardware : SimulatedHardware m) : Profile × RateStrategy :=
  (hardware.profile, hardware.strategy)

theorem make_record (event : Event) : (hardware.record event).make = hardware.make := by
  unfold record
  split
  · rfl
  · rfl

theorem make_modify (index : Nat) (change : Registers -> Registers) :
    (hardware.modify index change).make = hardware.make := by
  unfold modify
  split
  · rfl
  · rfl

theorem make_modifyRecorded (index : Nat) (call : Call) (change : Registers -> Registers) :
    (hardware.modifyRecorded index call change).make = hardware.make := by
  unfold modifyRecorded
  split
  · exact (make_record _ _).trans (hardware.make_modify index change)
  · rfl

theorem make_judge (divisor : Divisor) : (hardware.judge divisor).make = hardware.make := by
  unfold judge
  split
  · rfl
  · rfl

theorem make_perform (index : Nat) (call : Call) :
    (hardware.perform index call).make = hardware.make := by
  cases call with
  | enable on => exact hardware.make_modifyRecorded index _ _
  | rate divisor =>
      exact ((hardware.judge divisor).make_modifyRecorded index _ _).trans
        (hardware.make_judge divisor)
  | arm on => exact hardware.make_modifyRecorded index _ _
  | wordWidth bits => exact hardware.make_modifyRecorded index _ _
  | kickTransmit => exact hardware.make_modify index _

theorem make_writeCounter (index : Nat) (value : UInt32) :
    (hardware.writeCounter index value).2.make = hardware.make := by
  unfold writeCounter
  split
  · split
    · exact hardware.make_modify index _
    · rfl
  · rfl

theorem make_advance (index : Nat) (ticks : UInt32) :
    (hardware.advance index ticks).2.make = hardware.make := by
  unfold advance
  split
  · exact hardware.make_modify index _
  · rfl

theorem lasting_make : Lasting (make : SimulatedHardware m -> Profile × RateStrategy) where
  perform hardware index call := hardware.make_perform index call
  readCounter _ _ := rfl
  writeCounter hardware index value := hardware.make_writeCounter index value
  setClock _ _ := rfl
  advance hardware index ticks := hardware.make_advance index ticks
  clearEvents _ := rfl

theorem lasting_profile : Lasting (profile : SimulatedHardware m -> Profile) :=
  lasting_make.map Prod.fst

theorem lasting_wordWidths :
    Lasting (Hardware.wordWidths : SimulatedHardware m -> List UInt8) :=
  lasting_profile.map Profile.wordWidths

theorem lasting_rateStrategy :
    Lasting (Hardware.rateStrategy : SimulatedHardware m -> RateStrategy) :=
  lasting_make.map Prod.snd

end SimulatedHardware

def Registry.profile {κ : Type} {m n slots : Nat}
    (registry : Registry (SimulatedHardware m) κ n slots) : Profile :=
  registry.hardware.profile

end PeripheralBank
