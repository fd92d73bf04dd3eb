/-!
# Peripheral families

The six kinds of peripheral, each with the number that tags it inside a handle.
-/

namespace PeripheralBank

/-- A kind of peripheral. -/
inductive Family where
  /-- Capture, compare and pulse width modulation. -/
  | ccp
  | spi
  | uart
  /-- Quadrature encoder interface. -/
  | qei
  | timer
  /-- Output compare. -/
  | oc
deriving DecidableEq

namespace Family

def all : List Family :=
  [ccp, spi, uart, qei, timer, oc]

/-- The tag of a family: one to six, so that no family has the tag of the null handle. -/
def tag : Family -> Nat
  | ccp => 1
  | spi => 2
  | uart => 3
  | qei => 4
  | timer => 5
  | oc => 6

def ofTag? (tag : Nat) : Option Family :=
  all.find? fun family => family.tag == tag

/-- The lower case name of a family. -/
def name : Family -> String
  | ccp => "ccp"
  | spi => "spi"
  | uart => "uart"
  | qei => "qei"
  | timer => "timer"
  | oc => "oc"

def ofName? (name : String) : Option Family :=
  all.find? fun family => family.name == name

theorem tag_le (family : Family) : family.tag ≤ 6 := by
  cases family <;> decide

theorem ofTag?_tag (family : Family) : ofTag? family.tag = some family := by
  cases family <;> decide

theorem ofTag?_eq_some_iff {tag : Nat} {family : Family} :
    ofTag? tag = some family ↔ tag = family.tag := by
  constructor
  · intro hfamily
    have hfound := List.find?_some hfamily
    exact (beq_iff_eq.mp hfound).symm
  · rintro rfl
    exact ofTag?_tag family

end Family

end PeripheralBank
