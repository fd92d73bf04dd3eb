import PeripheralBank.Simulation.Line

/-!
# Steps on a simulated line

What can be done to a simulated line from either side, as data.
-/

namespace PeripheralBank

inductive LineStep where
  | raise
  | arrive (words : List UInt16)
  | drain
  | drainBytes
  | loopBack
  | inspect
  | acknowledge
  | transmit (words : List UInt16)
  | receive

inductive LineAnswer where
  | done
  | words (words : List UInt16)
  | bytes (bytes : List UInt8)
  | count (value : Nat)
  | word (word : Option UInt16)
  | line (line : SimulatedLine)
deriving DecidableEq

namespace LineStep

def run (step : LineStep) (line : SimulatedLine) : LineAnswer × SimulatedLine :=
  match step with
  | raise => (.done, line.raise)
  | arrive words => (.done, line.arriveAll words)
  | drain => line.drain.map .words id
  | drainBytes => line.drainBytes.map .bytes id
  | loopBack => line.loopBack.map .count id
  | inspect => (.line line, line)
  | acknowledge => (.done, line.acknowledge)
  | transmit words => (.done, words.foldl (fun line word => line.transmit word) line)
  | receive => line.receive.map .word id

end LineStep

end PeripheralBank
