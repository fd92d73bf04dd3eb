import PeripheralBank.Divider.Divisor
import PeripheralBank.Family

/-!
# Register fields

The bits by which each family's registers hold a pair of ratios.  A family's `encode?` finds the
fields of a pair, if it has any, and `decode?` reads the pair back.
-/

namespace PeripheralBank

/-- The position of a ratio in a table of four, as the two bits that select it. -/
def selector? (ratios : List UInt32) (ratio : UInt32) : Option UInt8 :=
  (ratios.idxOf? ratio).map UInt8.ofNat

/-!
# SPI
-/

structure SpiFields where
  ppre : UInt8
  spre : UInt8
deriving DecidableEq

namespace SpiFields

/-- The primary ratios in the order of their field values. -/
def primaries : List UInt32 :=
  [64, 16, 4, 1]

/-- The secondary field holds the complement of the ratio less one in three bits. -/
def encode? (divisor : Divisor) : Option SpiFields := do
  let ppre ← selector? primaries divisor.primary
  if 1 ≤ divisor.secondary ∧ divisor.secondary ≤ 8 then
    some { ppre, spre := ~~~(divisor.secondary - 1).toUInt8 &&& 7 }
  else
    none

def decode? (fields : SpiFields) : Option (UInt32 × UInt32) :=
  primaries[fields.ppre.toNat]?.map fun primary =>
    (primary, (~~~fields.spre &&& 7).toUInt32 + 1)

end SpiFields

/-!
# UART
-/

structure UartFields where
  brgh : Bool
  brg : UInt16
deriving DecidableEq

/-- One less than a ratio in sixteen bits, where it fits. -/
def period16? (ratio : UInt32) : Option UInt16 :=
  if 1 ≤ ratio ∧ ratio ≤ 65536 then some (ratio - 1).toUInt16 else none

namespace UartFields

/-- The speed bit stands for oversampling by four in place of sixteen. -/
def encode? (divisor : Divisor) : Option UartFields := do
  let brgh ←
    if divisor.primary = 4 then some true else if divisor.primary = 16 then some false else none
  let brg ← period16? divisor.secondary
  some { brgh, brg }

def decode (fields : UartFields) : UInt32 × UInt32 :=
  (if fields.brgh then 4 else 16, fields.brg.toUInt32 + 1)

end UartFields

/-!
# Timer and output compare
-/

structure TimerFields where
  tckps : UInt8
  pr : UInt16
deriving DecidableEq

namespace TimerFields

def primaries : List UInt32 :=
  [1, 8, 64, 256]

def encode? (divisor : Divisor) : Option TimerFields := do
  let tckps ← selector? primaries divisor.primary
  let pr ← period16? divisor.secondary
  some { tckps, pr }

def decode? (fields : TimerFields) : Option (UInt32 × UInt32) :=
  primaries[fields.tckps.toNat]?.map fun primary => (primary, fields.pr.toUInt32 + 1)

end TimerFields

/-!
# Capture and compare
-/

structure CcpFields where
  tmrps : UInt8
  pr : UInt32
deriving DecidableEq

namespace CcpFields

def primaries : List UInt32 :=
  [1, 4, 16, 64]

def encode? (divisor : Divisor) : Option CcpFields := do
  let tmrps ← selector? primaries divisor.primary
  if divisor.secondary = 0 then none else some { tmrps, pr := divisor.secondary - 1 }

/-- The largest period has no ratio of thirty-two bits. -/
def decode? (fields : CcpFields) : Option (UInt32 × UInt32) :=
  if fields.pr = 4294967295 then
    none
  else
    primaries[fields.tmrps.toNat]?.map fun primary => (primary, fields.pr + 1)

end CcpFields

/-!
# Any family
-/

/-- The register fields that a divisor is written as. -/
inductive RegisterFields where
  | spi (fields : SpiFields)
  | uart (fields : UartFields)
  | timer (fields : TimerFields)
  | ccp (fields : CcpFields)
deriving DecidableEq

namespace RegisterFields

/-- The fields of a divisor in a family.  The quadrature encoder has no divider fields. -/
def encode? (family : Family) (divisor : Divisor) : Option RegisterFields :=
  match family with
  | .spi => (SpiFields.encode? divisor).map spi
  | .uart => (UartFields.encode? divisor).map uart
  | .timer => (TimerFields.encode? divisor).map timer
  | .oc => (TimerFields.encode? divisor).map timer
  | .ccp => (CcpFields.encode? divisor).map ccp
  | .qei => none

def decode? : RegisterFields -> Option (UInt32 × UInt32)
  | spi fields => fields.decode?
  | uart fields => some fields.decode
  | timer fields => fields.decode?
  | ccp fields => fields.decode?

/-- A number in lower case hexadecimal, with its mark. -/
def hexadecimal (value : Nat) : String :=
  "0x" ++ String.ofList (Nat.toDigits 16 value)

/-- The fields by the names that the data sheets give them. -/
def describe : RegisterFields -> String
  | spi fields =>
      "PPRE=" ++ hexadecimal fields.ppre.toNat ++ " SPRE=" ++ hexadecimal fields.spre.toNat
  | uart fields =>
      "BRGH=" ++ (if fields.brgh then "1" else "0") ++ " BRG=" ++ toString fields.brg.toNat
  | timer fields =>
      "TCKPS=" ++ toString fields.tckps.toNat ++ " PR=" ++ toString fields.pr.toNat
  | ccp fields =>
      "TMRPS=" ++ toString fields.tmrps.toNat ++ " PR=" ++ toString fields.pr.toNat

end RegisterFields

end PeripheralBank
