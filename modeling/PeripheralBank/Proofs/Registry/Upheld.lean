import PeripheralBank.Proofs.Registry.Tied

/-!
# Conditions on hardware

A registry does nothing to its hardware but to make calls and to read and write counters, all for
the instance that a request names.  It writes no divisor that was not found for a rate.  So what
these keep of the hardware, every request keeps.
-/

namespace PeripheralBank

/-- Whether a call writes no divisor but a sound one. -/
def Call.Sound (sound : Divisor -> Prop) : Call -> Prop
  | .rate divisor => sound divisor
  | _ => True

/-- A condition that all things done to some instances keep, where the divisors that are written
are sound.  Divisors that the hardware itself gives rise to have to be. -/
structure Hardware.Upheld {η : Type} [Hardware η] (on : Nat -> Prop) (sound : Divisor -> Prop)
    (P : η -> Prop) : Prop where
  sound_of_solve {hardware : η} (hholds : P hardware) {rate : Rate} {divisor : Divisor}
    (hsolved : (Hardware.chain hardware).solve (Hardware.clock hardware) rate = .ok divisor) :
    sound divisor
  perform {hardware : η} (hholds : P hardware) {index : Nat} (hon : on index) (call : Call)
    (hsound : call.Sound sound) :
    P (Hardware.perform hardware index call)
  readCounter {hardware : η} (hholds : P hardware) {index : Nat} (hon : on index) :
    P (Hardware.readCounter hardware index).2
  writeCounter {hardware : η} (hholds : P hardware) {index : Nat} (hon : on index)
    (value : UInt32) : P (Hardware.writeCounter hardware index value).2

namespace Hardware.Upheld

variable {η : Type} [Hardware η] {κ : Type} {n slots : Nat} {on : Nat -> Prop}
  {sound : Divisor -> Prop} {P : η -> Prop} (hupheld : Upheld on sound P)
include hupheld

/-!
# Changes of one instance
-/

section Changes

variable {registry : Registry η κ n slots} {i : Fin n} (hon : on i)
  (hholds : P registry.hardware)
include hon hholds

theorem switchOff : P (registry.switchOff i).hardware := by
  unfold Registry.switchOff
  split
  · have hoff := hupheld.perform hholds hon (.enable false) trivial
    exact hupheld.perform hoff hon (.arm false) trivial
  · exact hholds

theorem switchOn : P (registry.switchOn i).hardware := by
  have hrunning := hupheld.perform hholds hon (.enable true) trivial
  exact hupheld.perform hrunning hon (.arm _) trivial

theorem adoptRate (rate : Rate) {divisor : Divisor} (hsound : sound divisor) :
    P (registry.adoptRate i rate divisor).hardware := by
  unfold Registry.adoptRate Registry.program
  split
  · have hoff := hupheld.perform hholds hon (.enable false) trivial
    have hrated := hupheld.perform hoff hon (.rate divisor) hsound
    exact hupheld.perform hrated hon (.enable true) trivial
  · exact hupheld.perform hholds hon (.rate divisor) hsound

theorem rebind (callback : Option κ) : P (registry.rebind i callback).hardware := by
  unfold Registry.rebind
  split
  · exact hupheld.perform hholds hon (.arm _) trivial
  · exact hholds

theorem queue (buffers : Buffers slots) (words : List UInt16) :
    P (registry.queue i buffers words).2.hardware := by
  simp only [Registry.queue]
  split
  · exact hupheld.perform hholds hon .kickTransmit trivial
  · exact hholds

end Changes

/-!
# Requests
-/

theorem of_effect {registry after : Registry η κ n slots} {request : Request κ}
    {answer : Except Failure Reply} (heffect : request.Effect registry answer after)
    (hon : forall {handle : Handle} {i : Fin n}, request.device? = some handle ->
      registry.locate handle = .ok i -> on i)
    (hholds : P registry.hardware) : P after.hardware := by
  have hopen {handle : Handle} {i : Fin n} (hdevice : request.device? = some handle)
      (hheld : registry.locateOpen handle = .ok i) : on i :=
    hon hdevice (Registry.locate_of_locateOpen hheld).1
  have hstore {handle : Handle} {i : Fin n} {buffers : Buffers slots}
      (hdevice : request.device? = some handle)
      (hlocated : registry.locateBuffers handle = .ok (i, buffers)) : on i :=
    hon hdevice (Registry.locate_of_locateBuffers hlocated).1
  cases heffect with
  | failed _ _ | told _ _ | allocated _ | acquired _ _ | stayedOn _ _ | drained _ _ => exact hholds
  | readBytes _ _ _ | readWords _ _ => exact hholds
  | waited hheld _ => exact hupheld.switchOff (hopen rfl hheld) hholds
  | closed hheld _ =>
      rw [Registry.hardware_wipe]
      exact hupheld.switchOff (hopen rfl hheld) hholds
  | turnedOn hheld _ => exact hupheld.switchOn (hopen rfl hheld) hholds
  | turnedOff hheld => exact hupheld.switchOff (hopen rfl hheld) hholds
  | rated hheld hsolved =>
      have hsound := hupheld.sound_of_solve hholds hsolved
      exact hupheld.adoptRate (hopen rfl hheld) hholds _ hsound
  | bound hheld callback => exact hupheld.rebind (hopen rfl hheld) hholds callback
  | widened hheld _ => exact hupheld.perform hholds (hopen rfl hheld) (.wordWidth _) trivial
  | counted hheld => exact hupheld.readCounter hholds (hopen rfl hheld)
  | recounted hheld value => exact hupheld.writeCounter hholds (hopen rfl hheld) value
  | wroteBytes hlocated _ _ => exact hupheld.queue (hstore rfl hlocated) hholds _ _
  | wroteWords hlocated _ => exact hupheld.queue (hstore rfl hlocated) hholds _ _
  | kicked hlocated _ => exact hupheld.perform hholds (hstore rfl hlocated) .kickTransmit trivial

end Hardware.Upheld
end PeripheralBank
