import PeripheralBank.Handle
import PeripheralBank.Hardware
import PeripheralBank.Registry.Slot

/-!
# Registries

A registry holds the instances of one family: a slot for each, the hardware behind them, and, if it
was built with buffers, two rings for each.  Every operation that takes a handle first locates the
slot, and the order of its checks is the order in which errors win: the handle, then the buffers,
then the state.

An operation that can fail and change something gives its result beside the registry that it leaves.
-/

namespace PeripheralBank

/-- The instances of one family.  Their indices stay below the null index and within what the
hardware drives. -/
structure Registry (η : Type) [Hardware η] (κ : Type) (n slots : Nat) where
  family : Family
  hardware : η
  table : Vector (Slot κ) n
  buffers : Option (Vector (Buffers slots) n)
  /-- The instances whose interrupt is being handled. -/
  inService : Vector Bool n
  interruptsClaimed : Bool
  below_nullIndex : n < Handle.nullIndex
  driven : n ≤ Hardware.instances η

namespace Registry

variable {η : Type} [Hardware η] {κ : Type} {n slots : Nat}

/-!
# Building
-/

def build (hardware : η) (buffers : Option (Vector (Buffers slots) n))
    (hbelow : n < Handle.nullIndex) (hdriven : n ≤ Hardware.instances η) :
    Registry η κ n slots where
  family := Hardware.family hardware
  hardware := hardware
  table := Vector.replicate n {}
  buffers := buffers
  inService := Vector.replicate n false
  interruptsClaimed := false
  below_nullIndex := hbelow
  driven := hdriven

/-- A registry of instances without buffers. -/
def unbuffered (hardware : η) (hbelow : n < Handle.nullIndex := by decide)
    (hdriven : n ≤ Hardware.instances η := by decide) : Registry η κ n slots :=
  build hardware none hbelow hdriven

/-- A registry whose instances have the given buffers, which are taken as they are. -/
def buffered (hardware : η) (storage : Vector (Buffers slots) n)
    (hbelow : n < Handle.nullIndex := by decide)
    (hdriven : n ≤ Hardware.instances η := by decide) : Registry η κ n slots :=
  build hardware (some storage) hbelow hdriven

/-!
# About the whole
-/

def size (_registry : Registry η κ n slots) : Nat :=
  n

def isEmpty (_registry : Registry η κ n slots) : Bool :=
  n == 0

def isBuffered (registry : Registry η κ n slots) : Bool :=
  registry.buffers.isSome

/-- The handle of an instance of the family, whether there is such an instance or not. -/
def handle (registry : Registry η κ n slots) (index : Nat) : Handle :=
  .ofIndex registry.family index

/-- Claims the interrupt side, which only one can hold.  Says whether the claim was granted. -/
def claimInterrupts (registry : Registry η κ n slots) : Bool × Registry η κ n slots :=
  (!registry.interruptsClaimed, { registry with interruptsClaimed := true })

def releaseInterrupts (registry : Registry η κ n slots) : Registry η κ n slots :=
  { registry with interruptsClaimed := false }

/-!
# About one instance
-/

/-- What is kept of an instance. -/
def slotAt (registry : Registry η κ n slots) (i : Fin n) : Slot κ :=
  registry.table[i]

def buffersAt? (registry : Registry η κ n slots) (i : Fin n) : Option (Buffers slots) :=
  registry.buffers.map (·[i])

def isServed (registry : Registry η κ n slots) (i : Fin n) : Bool :=
  registry.inService[i]

/-!
# Locating
-/

/-- The slot of a handle: the handle must be of this family and its index within the table. -/
def locate (registry : Registry η κ n slots) (handle : Handle) : Except Failure (Fin n) :=
  if handle.isNull || handle.family? != some registry.family then
    refuse .invalidHandle
  else if hin : handle.index < n then
    .ok ⟨handle.index, hin⟩
  else
    refuse .invalidHandle

/-- The slot of a handle whose instance is held. -/
def locateOpen (registry : Registry η κ n slots) (handle : Handle) : Except Failure (Fin n) :=
  match registry.locate handle with
  | .error failure => .error failure
  | .ok i => if (registry.slotAt i).state = .unused then refuse .invalidState else .ok i

def locateBuffers (registry : Registry η κ n slots) (handle : Handle) :
    Except Failure (Fin n × Buffers slots) :=
  match registry.locate handle with
  | .error failure => .error failure
  | .ok i =>
      match registry.buffersAt? i with
      | none => refuse .noBuffer
      | some buffers =>
          if (registry.slotAt i).state = .unused then refuse .invalidState else .ok (i, buffers)

/-!
# Changing one part
-/

def setSlot (registry : Registry η κ n slots) (i : Fin n) (slot : Slot κ) :
    Registry η κ n slots :=
  { registry with table := registry.table.set i slot }

def setBuffers (registry : Registry η κ n slots) (i : Fin n) (buffers : Buffers slots) :
    Registry η κ n slots :=
  { registry with buffers := registry.buffers.map (·.set i buffers) }

def setInService (registry : Registry η κ n slots) (i : Fin n) (running : Bool) :
    Registry η κ n slots :=
  { registry with inService := registry.inService.set i running }

def setHardware (registry : Registry η κ n slots) (hardware : η) : Registry η κ n slots :=
  { registry with hardware }

def call (registry : Registry η κ n slots) (i : Fin n) (call : Call) : Registry η κ n slots :=
  registry.setHardware (Hardware.perform registry.hardware i call)

end Registry

end PeripheralBank
