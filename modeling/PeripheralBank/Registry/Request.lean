import PeripheralBank.Registry.Lifecycle
import PeripheralBank.Registry.Transfer

/-!
# Requests

The operations of a registry as data, so that a run is a list of requests and a callback can be
described by the requests it makes.  Each request has one reply or a failure.
-/

namespace PeripheralBank

/-- An operation of a registry with its arguments. -/
inductive Request (κ : Type) where
  | allocate
  | acquire (handle : Handle)
  | close (handle : Handle)
  | enable (handle : Handle)
  | disable (handle : Handle)
  | state (handle : Handle)
  | setRate (handle : Handle) (rate : Rate)
  | currentRate (handle : Handle)
  | requestedRate (handle : Handle)
  | rateConfig (handle : Handle)
  | bind (handle : Handle) (callback : Option κ)
  | hasCallback (handle : Handle)
  | setWordWidth (handle : Handle) (bits : UInt8)
  | wordWidth (handle : Handle)
  | counter (handle : Handle)
  | setCounter (handle : Handle) (value : UInt32)
  | write (handle : Handle) (bytes : List UInt8)
  | writeWords (handle : Handle) (words : List UInt16)
  | read (handle : Handle) (output : List UInt8)
  | readWords (handle : Handle) (output : List UInt16)
  | readable (handle : Handle)
  | writable (handle : Handle)
  | pending (handle : Handle)
  | flush (handle : Handle)
  | overflows (handle : Handle)

/-- What a request is answered with. -/
inductive Reply where
  | done
  | handle (handle : Handle)
  | state (state : State)
  | divisor (divisor : Divisor)
  | rate (rate : Rate)
  | config (config : RateConfig)
  | flag (value : Bool)
  | width (bits : UInt8)
  | counter (value : UInt32)
  | count (value : Nat)
  | bytes (taken : Nat) (output : List UInt8)
  | words (taken : Nat) (output : List UInt16)
deriving DecidableEq

namespace Request

variable {η : Type} [Hardware η] {κ : Type} {n slots : Nat}

/-- The answer to a request, and the registry that it leaves. -/
def run (request : Request κ) (registry : Registry η κ n slots) :
    Except Failure Reply × Registry η κ n slots :=
  match request with
  | allocate => registry.allocate.map (·.map .handle) id
  | acquire handle => (registry.acquire handle).map (·.map fun _ => .done) id
  | close handle => (registry.close handle).map (·.map fun _ => .done) id
  | enable handle => (registry.enable handle).map (·.map fun _ => .done) id
  | disable handle => (registry.disable handle).map (·.map fun _ => .done) id
  | state handle => ((registry.state handle).map .state, registry)
  | setRate handle rate => (registry.setRate handle rate).map (·.map .divisor) id
  | currentRate handle => ((registry.currentRate handle).map .rate, registry)
  | requestedRate handle => ((registry.requestedRate handle).map .rate, registry)
  | rateConfig handle => ((registry.rateConfig handle).map .config, registry)
  | bind handle callback => (registry.bind handle callback).map (·.map fun _ => .done) id
  | hasCallback handle => ((registry.hasCallback handle).map .flag, registry)
  | setWordWidth handle bits => (registry.setWordWidth handle bits).map (·.map fun _ => .done) id
  | wordWidth handle => ((registry.wordWidth handle).map .width, registry)
  | counter handle => (registry.counter handle).map (·.map .counter) id
  | setCounter handle value => (registry.setCounter handle value).map (·.map fun _ => .done) id
  | write handle bytes => (registry.write handle bytes).map (·.map .count) id
  | writeWords handle words => (registry.writeWords handle words).map (·.map .count) id
  | read handle output =>
      let (taken, output, registry) := registry.read handle output
      (taken.map (.bytes · output), registry)
  | readWords handle output =>
      let (taken, output, registry) := registry.readWords handle output
      (taken.map (.words · output), registry)
  | readable handle => ((registry.readable handle).map .count, registry)
  | writable handle => ((registry.writable handle).map .count, registry)
  | pending handle => ((registry.pending handle).map .count, registry)
  | flush handle => (registry.flush handle).map (·.map .flag) id
  | overflows handle => ((registry.overflows handle).map .count, registry)

end Request

end PeripheralBank
