import PeripheralBank.Proofs.Bench.Path
import PeripheralBank.Proofs.Registry.Upheld

/-!
# Lasting traits of hardware

A trait of the hardware lasts if nothing that can be done to the hardware changes it: no call, no
counter, and no hand on it from outside.  A registry does nothing else to its hardware, so in every
run a lasting trait is what it was at the start.
-/

namespace PeripheralBank

structure Lasting {η : Type} [Inspectable η] {α : Type} (trait : η -> α) : Prop where
  perform (hardware : η) (index : Nat) (call : Call) :
    trait (Hardware.perform hardware index call) = trait hardware
  readCounter (hardware : η) (index : Nat) :
    trait (Hardware.readCounter hardware index).2 = trait hardware
  writeCounter (hardware : η) (index : Nat) (value : UInt32) :
    trait (Hardware.writeCounter hardware index value).2 = trait hardware
  setClock (hardware : η) (hz : UInt32) : trait (Inspectable.setClock hz hardware) = trait hardware
  advance (hardware : η) (index : Nat) (ticks : UInt32) :
    trait (Inspectable.advance index ticks hardware).2 = trait hardware
  clearEvents (hardware : η) : trait (Inspectable.clearEvents hardware) = trait hardware

namespace Lasting

variable {η : Type} [Inspectable η] {α : Type} {trait : η -> α} (hlasting : Lasting trait)
include hlasting

/-- What can be told from a lasting trait lasts. -/
theorem map {β : Type} (f : α -> β) : Lasting fun hardware => f (trait hardware) where
  perform hardware index call := congrArg f (hlasting.perform hardware index call)
  readCounter hardware index := congrArg f (hlasting.readCounter hardware index)
  writeCounter hardware index value := congrArg f (hlasting.writeCounter hardware index value)
  setClock hardware hz := congrArg f (hlasting.setClock hardware hz)
  advance hardware index ticks := congrArg f (hlasting.advance hardware index ticks)
  clearEvents hardware := congrArg f (hlasting.clearEvents hardware)

/-!
# Requests
-/

theorem upheld (value : α) :
    Hardware.Upheld (fun _ => True) (fun _ => True) fun hardware => trait hardware = value where
  sound_of_solve _ _ _ _ := trivial
  perform hholds _ _ call _ := (hlasting.perform _ _ call).trans hholds
  readCounter hholds _ _ := (hlasting.readCounter _ _).trans hholds
  writeCounter hholds _ _ value := (hlasting.writeCounter _ _ value).trans hholds

section Changes

variable {κ : Type} {n slots : Nat} {registry after : Registry η κ n slots}

theorem switchOff (registry : Registry η κ n slots) (i : Fin n) :
    trait (registry.switchOff i).hardware = trait registry.hardware :=
  (hlasting.upheld (trait registry.hardware)).switchOff trivial rfl

theorem of_effect {request : Request κ} {answer : Except Failure Reply}
    (heffect : request.Effect registry answer after) :
    trait after.hardware = trait registry.hardware :=
  (hlasting.upheld (trait registry.hardware)).of_effect heffect (fun _ _ => trivial) rfl

end Changes

/-!
# Runs
-/

variable {ω : Type} [Line ω] {n slots : Nat}

theorem of_step {registry after : Registry η Nat n slots} {now : List (Happening ω)}
    (hstep : Step registry now after) : trait after.hardware = trait registry.hardware := by
  cases hstep with
  | claimed _ | marked _ _ | passed _ _ _ _ | moved _ _ _ _ => rfl
  | asked heffect => exact hlasting.of_effect heffect
  | advanced index ticks => exact hlasting.advance registry.hardware index ticks
  | clocked hz => exact hlasting.setClock registry.hardware hz
  | forgot => exact hlasting.clearEvents registry.hardware

theorem of_path {start final : Registry η Nat n slots} {now : List (Happening ω)}
    (hpath : Path start now final) : trait final.hardware = trait start.hardware :=
  path_preserves (P := fun registry => trait registry.hardware = trait start.hardware)
    (fun hstep hkept => (hlasting.of_step hstep).trans hkept) hpath rfl

theorem of_run (moves : List (Move ω)) (start : Registry η Nat n slots) :
    trait (Move.runAll moves start).hardware = trait start.hardware :=
  hlasting.of_path (path_of_run moves start)

end Lasting
end PeripheralBank
