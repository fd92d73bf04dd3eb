import PeripheralBank.Divider.Chain
import PeripheralBank.Family

/-!
# Family profiles

What the hardware of a family offers: its divider chain, the word widths it can transfer, and
whether it has a counter.  The first word width is the one in force after a reset.
-/

namespace PeripheralBank

structure Profile where
  family : Family
  chain : Chain
  wordWidths : List UInt8
  hasCounter : Bool
deriving DecidableEq

namespace Profile

/-- Primary and secondary prescaler; both at one together would pass the clock through undivided,
which the hardware forbids. -/
def spi : Profile where
  family := .spi
  chain :=
    { primary := .table [1, 4, 16, 64]
      secondary := .range 1 8
      forbidden := some (1, 1) }
  wordWidths := [8, 16]
  hasCounter := false

/-- Oversampling by four or sixteen in front of a baud generator of sixteen bits. -/
def uart : Profile where
  family := .uart
  chain :=
    { primary := .table [4, 16]
      secondary := .range 1 65536 }
  wordWidths := [8, 9]
  hasCounter := false

/-- A prescaler in front of a period register of sixteen bits. -/
def timer : Profile where
  family := .timer
  chain :=
    { primary := .table [1, 8, 64, 256]
      secondary := .range 1 65536 }
  wordWidths := []
  hasCounter := true

/-- A prescaler in front of a period register of thirty-two bits. -/
def ccp : Profile where
  family := .ccp
  chain :=
    { primary := .table [1, 4, 16, 64]
      secondary := .range 1 4294967295 }
  wordWidths := [16, 32]
  hasCounter := true

/-- Output compare runs from a timer. -/
def oc : Profile :=
  { timer with family := .oc }

/-- A filter divider by powers of two; what it counts is a position. -/
def qei : Profile where
  family := .qei
  chain :=
    { primary := .table [1, 2, 4, 8, 16, 32, 64, 128]
      secondary := .range 1 1 }
  wordWidths := []
  hasCounter := true

end Profile

namespace Family

def profile : Family -> Profile
  | ccp => .ccp
  | spi => .spi
  | uart => .uart
  | qei => .qei
  | timer => .timer
  | oc => .oc

/-- The divisor that a family finds for a rate. -/
def solve (family : Family) (clock : UInt32) (rate : Rate) : Except Failure Divisor :=
  family.profile.chain.solve clock rate

end Family

end PeripheralBank
