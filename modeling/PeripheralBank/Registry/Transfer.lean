import PeripheralBank.Registry.Settings

/-!
# Transfers

Writing to the outbound buffer and reading from the inbound one, by bytes and by words.  Bytes need
a word width of at most eight bits.  Words to write must all fit the width, or none is taken; of
what fits the width, as much is taken as there is room for.
-/

namespace PeripheralBank
namespace Registry

variable {η : Type} [Hardware η] {κ : Type} {n slots : Nat}

/-!
# Writing
-/

/-- Stores words for transmission, and kicks the transmit interrupt if any was stored. -/
def queue (registry : Registry η κ n slots) (i : Fin n) (buffers : Buffers slots)
    (words : List UInt16) : Nat × Registry η κ n slots :=
  let (stored, outbound) := buffers.outbound.push words
  let queued := registry.setBuffers i { buffers with outbound }
  (stored, if 0 < stored then queued.call i .kickTransmit else queued)

/-- Whether a word has bits beyond a width. -/
def tooWide (width : UInt8) (word : UInt16) : Bool :=
  decide (Nat.pow 2 width.toNat ≤ word.toNat)

/-- Stores as many leading bytes as there is room for, and counts them. -/
def write (registry : Registry η κ n slots) (handle : Handle) (bytes : List UInt8) :
    Except Failure Nat × Registry η κ n slots :=
  match registry.locateBuffers handle with
  | .error failure => (.error failure, registry)
  | .ok (i, buffers) =>
      if 8 < registry.transferWidth i then
        (refuse .invalidState, registry)
      else
        let (stored, queued) := registry.queue i buffers (bytes.map UInt8.toUInt16)
        (.ok stored, queued)

def writeWords (registry : Registry η κ n slots) (handle : Handle) (words : List UInt16) :
    Except Failure Nat × Registry η κ n slots :=
  match registry.locateBuffers handle with
  | .error failure => (.error failure, registry)
  | .ok (i, buffers) =>
      if words.any (tooWide (registry.transferWidth i)) then
        (refuse .invalidArgument, registry)
      else
        let (stored, queued) := registry.queue i buffers words
        (.ok stored, queued)

/-!
# Reading
-/

/-- Takes received words into the front of an output, each cut to its low eight bits. -/
def read (registry : Registry η κ n slots) (handle : Handle) (output : List UInt8) :
    Except Failure Nat × List UInt8 × Registry η κ n slots :=
  match registry.locateBuffers handle with
  | .error failure => (.error failure, output, registry)
  | .ok (i, buffers) =>
      if 8 < registry.transferWidth i then
        (refuse .invalidState, output, registry)
      else
        let (taken, output, inbound) := buffers.inbound.popInto UInt16.toUInt8 output
        (.ok taken, output, registry.setBuffers i { buffers with inbound })

def readWords (registry : Registry η κ n slots) (handle : Handle) (output : List UInt16) :
    Except Failure Nat × List UInt16 × Registry η κ n slots :=
  match registry.locateBuffers handle with
  | .error failure => (.error failure, output, registry)
  | .ok (i, buffers) =>
      let (taken, output, inbound) := buffers.inbound.pop output
      (.ok taken, output, registry.setBuffers i { buffers with inbound })

/-!
# Fill levels
-/

def readable (registry : Registry η κ n slots) (handle : Handle) : Except Failure Nat := do
  let (_, buffers) ← registry.locateBuffers handle
  return buffers.inbound.size

/-- The room that is left for words to transmit. -/
def writable (registry : Registry η κ n slots) (handle : Handle) : Except Failure Nat := do
  let (_, buffers) ← registry.locateBuffers handle
  return buffers.outbound.free

def pending (registry : Registry η κ n slots) (handle : Handle) : Except Failure Nat := do
  let (_, buffers) ← registry.locateBuffers handle
  return buffers.outbound.size

/-- The received words that found no room. -/
def overflows (registry : Registry η κ n slots) (handle : Handle) : Except Failure Nat := do
  let (_, buffers) ← registry.locateBuffers handle
  return buffers.inbound.overflows

/-- Whether all that was written has left the buffer.  If not, the transmit interrupt is kicked. -/
def flush (registry : Registry η κ n slots) (handle : Handle) :
    Except Failure Bool × Registry η κ n slots :=
  match registry.locateBuffers handle with
  | .error failure => (.error failure, registry)
  | .ok (i, buffers) =>
      if buffers.outbound.size = 0 then
        (.ok true, registry)
      else
        (.ok false, registry.call i .kickTransmit)

end Registry
end PeripheralBank
