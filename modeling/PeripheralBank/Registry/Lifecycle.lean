import PeripheralBank.Registry.Basic

/-!
# The life of an instance

Holding and giving back instances, turning them on and off, and binding callbacks.  The hardware is
turned on exactly while the slot is enabled, and its interrupt is let through while the slot is
enabled and somebody would handle it: a bound callback, or the buffers.
-/

namespace PeripheralBank
namespace Registry

variable {η : Type} [Hardware η] {κ : Type} {n slots : Nat}

/-!
# Holding
-/

/-- The lowest slot that is not held. -/
def firstUnused? (registry : Registry η κ n slots) : Option (Fin n) :=
  (List.finRange n).find? fun i => (registry.slotAt i).state == .unused

/-- A slot that was just opened has nothing of its former holders. -/
def hold (registry : Registry η κ n slots) (i : Fin n) : Registry η κ n slots :=
  registry.setSlot i { state := .opened }

/-- Opens the lowest instance that is not held. -/
def allocate (registry : Registry η κ n slots) :
    Except Failure Handle × Registry η κ n slots :=
  match registry.firstUnused? with
  | none => (refuse .resourceExhausted, registry)
  | some i => (.ok (registry.handle i), registry.hold i)

def acquire (registry : Registry η κ n slots) (handle : Handle) :
    Except Failure Unit × Registry η κ n slots :=
  match registry.locate handle with
  | .error failure => (.error failure, registry)
  | .ok i =>
      if (registry.slotAt i).state = .unused then
        (.ok (), registry.hold i)
      else
        (refuse .alreadyInUse, registry)

/-!
# Running
-/

/-- Whether an interrupt of the instance would be handled. -/
def handlesInterrupt (registry : Registry η κ n slots) (i : Fin n) : Bool :=
  (registry.slotAt i).callback.isSome || registry.isBuffered

/-- Turns an instance off and holds its interrupt back, if it runs. -/
def switchOff (registry : Registry η κ n slots) (i : Fin n) : Registry η κ n slots :=
  if (registry.slotAt i).state = .enabled then
    ((registry.call i (.enable false)).call i (.arm false)).setSlot i
      { registry.slotAt i with state := .opened }
  else
    registry

/-- Turns an instance on, and lets its interrupt through if it would be handled.  An instance that
runs is left alone. -/
def enable (registry : Registry η κ n slots) (handle : Handle) :
    Except Failure Unit × Registry η κ n slots :=
  match registry.locateOpen handle with
  | .error failure => (.error failure, registry)
  | .ok i =>
      if (registry.slotAt i).state = .enabled then
        (.ok (), registry)
      else
        (.ok (),
          ((registry.call i (.enable true)).call i (.arm (registry.handlesInterrupt i))).setSlot i
            { registry.slotAt i with state := .enabled })

def disable (registry : Registry η κ n slots) (handle : Handle) :
    Except Failure Unit × Registry η κ n slots :=
  match registry.locateOpen handle with
  | .error failure => (.error failure, registry)
  | .ok i => (.ok (), registry.switchOff i)

/-- Clears the slot and the buffers of an instance. -/
def wipe (registry : Registry η κ n slots) (i : Fin n) : Registry η κ n slots :=
  match registry.buffersAt? i with
  | none => registry.setSlot i {}
  | some buffers => (registry.setSlot i {}).setBuffers i buffers.clear

/-- Turns an instance off and gives it back.  It must not be given back from within its own
interrupt, whose end has to be awaited first.  A run takes an operation as one step, so nothing is
interleaved between turning the instance off and clearing it, where the end of an interrupt that
runs beside it would be awaited; of that wait only the one for oneself is left, which never ends. -/
def close (registry : Registry η κ n slots) (handle : Handle) :
    Except Failure Unit × Registry η κ n slots :=
  match registry.locateOpen handle with
  | .error failure => (.error failure, registry)
  | .ok i =>
      if registry.isServed i then
        (.error .selfWait, registry.switchOff i)
      else
        (.ok (), (registry.switchOff i).wipe i)

def state (registry : Registry η κ n slots) (handle : Handle) : Except Failure State := do
  let i ← registry.locate handle
  return (registry.slotAt i).state

/-!
# Callbacks
-/

/-- Binds a callback or removes the bound one.  Where the instance runs, its interrupt is let
through or held back at once. -/
def bind (registry : Registry η κ n slots) (handle : Handle) (callback : Option κ) :
    Except Failure Unit × Registry η κ n slots :=
  match registry.locateOpen handle with
  | .error failure => (.error failure, registry)
  | .ok i =>
      let bound := registry.setSlot i { registry.slotAt i with callback }
      if (registry.slotAt i).state = .enabled then
        (.ok (), bound.call i (.arm (callback.isSome || registry.isBuffered)))
      else
        (.ok (), bound)

def hasCallback (registry : Registry η κ n slots) (handle : Handle) : Except Failure Bool := do
  let i ← registry.locate handle
  return (registry.slotAt i).callback.isSome

end Registry
end PeripheralBank
