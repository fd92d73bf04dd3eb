import PeripheralBank.Family

/-!
# Device handles

A handle is sixteen bits: the family's tag in the upper byte and the instance index in the lower.
Making a handle checks nothing; the registry of the family checks it on every use.
-/

namespace PeripheralBank

/-- The packed name of a device. -/
structure Handle where
  raw : UInt16
deriving DecidableEq

namespace Handle

/-- The index that no instance has. -/
def nullIndex : Nat :=
  255

theorem one_lt_nullIndex : 1 < nullIndex := by
  decide

/-- The handle of no device: no family, and the index that no instance has. -/
def null : Handle :=
  ⟨UInt16.ofNat nullIndex⟩

instance : Inhabited Handle :=
  ⟨null⟩

/-- The handle of an instance; only the low byte of the index is kept. -/
def ofIndex (family : Family) (index : Nat) : Handle :=
  ⟨UInt16.ofNat (family.tag * 256 + index % 256)⟩

/-- The family that the upper byte names, if it names one. -/
def family? (handle : Handle) : Option Family :=
  Family.ofTag? (handle.raw.toNat / 256)

def index (handle : Handle) : Nat :=
  handle.raw.toNat % 256

def isNull (handle : Handle) : Bool :=
  handle == null

/-!
# What a made handle says
-/

theorem toNat_raw_ofIndex (family : Family) (index : Nat) :
    (ofIndex family index).raw.toNat = family.tag * 256 + index % 256 := by
  have htag := family.tag_le
  rw [ofIndex, UInt16.toNat_ofNat']
  lia

theorem index_ofIndex (family : Family) (index : Nat) :
    (ofIndex family index).index = index % 256 := by
  rw [Handle.index, toNat_raw_ofIndex]
  lia

theorem family?_ofIndex (family : Family) (index : Nat) :
    (ofIndex family index).family? = some family := by
  rw [family?, Family.ofTag?_eq_some_iff, toNat_raw_ofIndex]
  lia

end Handle

end PeripheralBank
