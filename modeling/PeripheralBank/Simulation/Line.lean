import PeripheralBank.Line

/-!
# Simulated lines

The interrupt flag and the transmit and receive queues of one instance in memory.  Either queue
holds at most `fifoSize` words; what arrives beyond that is lost.
-/

namespace PeripheralBank

structure SimulatedLine where
  /-- The room that the line claims to have for transmission. -/
  depth : Nat := 0
  pending : Bool := false
  /-- How often the flag was acknowledged: the exact number, where a counter of one word would come
  round to zero in the end. -/
  acknowledged : Nat := 0
  outgoing : List UInt16 := []
  incoming : List UInt16 := []
deriving DecidableEq

namespace SimulatedLine

def fifoSize : Nat :=
  64

/-- A line with room for some words to transmit, but never for more than its queue holds. -/
def ofDepth (depth : Nat) : SimulatedLine :=
  { depth := min depth fifoSize }

/-- Adds a word to a queue unless the queue is full. -/
def accept (queue : List UInt16) (word : UInt16) : List UInt16 :=
  if queue.length < fifoSize then queue ++ [word] else queue

/-!
# The outside of the line
-/

def raise (line : SimulatedLine) : SimulatedLine :=
  { line with pending := true }

/-- A word comes in, which sets the flag even if the word is lost. -/
def arrive (line : SimulatedLine) (word : UInt16) : SimulatedLine :=
  { line with incoming := accept line.incoming word, pending := true }

def arriveAll (line : SimulatedLine) (words : List UInt16) : SimulatedLine :=
  words.foldl arrive line

def drain (line : SimulatedLine) : List UInt16 × SimulatedLine :=
  (line.outgoing, { line with outgoing := [] })

/-- Takes all words on their way out, each cut to its low eight bits. -/
def drainBytes (line : SimulatedLine) : List UInt8 × SimulatedLine :=
  (line.outgoing.map UInt16.toUInt8, { line with outgoing := [] })

/-- Lets all words on their way out come in again, and counts them. -/
def loopBack (line : SimulatedLine) : Nat × SimulatedLine :=
  let (sent, line) := line.drain
  (sent.length, line.arriveAll sent)

/-!
# The inside of the line
-/

def acknowledge (line : SimulatedLine) : SimulatedLine :=
  { line with pending := false, acknowledged := line.acknowledged + 1 }

def transmitReady (line : SimulatedLine) : Bool :=
  decide (line.outgoing.length < line.depth)

def transmit (word : UInt16) (line : SimulatedLine) : SimulatedLine :=
  { line with outgoing := accept line.outgoing word }

def receive (line : SimulatedLine) : Option UInt16 × SimulatedLine :=
  match line.incoming with
  | [] => (none, line)
  | word :: rest => (some word, { line with incoming := rest })

instance : Line SimulatedLine where
  acknowledge := acknowledge
  transmitReady := transmitReady
  transmit := transmit
  receive := receive

end SimulatedLine

end PeripheralBank
