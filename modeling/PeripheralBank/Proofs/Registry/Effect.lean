import PeripheralBank.Registry.Request

/-!
# Effects of requests

A request does one of a few things to the instance it names, or nothing.  The relation
lists them with the conditions under which they happen, so that later proofs go through
its cases and not through the operations.  Closing from within an interrupt is the one
failure that changes something: the instance is turned off before the wait.
-/

namespace PeripheralBank

variable {η : Type} [Hardware η] {κ : Type} {n slots : Nat}

namespace Registry

/-!
# Changes of one instance
-/

def switchOn (registry : Registry η κ n slots) (i : Fin n) : Registry η κ n slots :=
  ((registry.call i (.enable true)).call i (.arm (registry.handlesInterrupt i))).setSlot i
    { registry.slotAt i with state := .enabled }

/-- Keeps a rate with its divisor and programs the divisor. -/
def adoptRate (registry : Registry η κ n slots) (i : Fin n) (rate : Rate)
    (divisor : Divisor) : Registry η κ n slots :=
  (registry.setSlot i
    { registry.slotAt i with rate := { requested := some rate, divisor } }).program i divisor

/-- Binds or removes a callback, and passes the change on to a running instance. -/
def rebind (registry : Registry η κ n slots) (i : Fin n) (callback : Option κ) :
    Registry η κ n slots :=
  if (registry.slotAt i).state = .enabled then
    (registry.setSlot i { registry.slotAt i with callback }).call i
      (.arm (callback.isSome || registry.isBuffered))
  else
    registry.setSlot i { registry.slotAt i with callback }

/-- Keeps a word width and passes it on. -/
def adoptWidth (registry : Registry η κ n slots) (i : Fin n) (bits : UInt8) :
    Registry η κ n slots :=
  (registry.setSlot i { registry.slotAt i with wordWidth := some bits }).call i
    (.wordWidth bits)

section Held

variable {registry : Registry η κ n slots} {handle : Handle} {i : Fin n} {rate : Rate}
  (hheld : registry.locateOpen handle = .ok i)
include hheld

theorem setRate_of_solve_ok {divisor : Divisor}
    (hsolved : (Hardware.chain registry.hardware).solve (Hardware.clock registry.hardware) rate =
      .ok divisor) :
    registry.setRate handle rate = (.ok divisor, registry.adoptRate i rate divisor) := by
  simp only [setRate, hheld, hsolved]
  rfl

theorem setRate_of_solve_error {failure : Failure}
    (hunsolved : (Hardware.chain registry.hardware).solve (Hardware.clock registry.hardware) rate =
      .error failure) :
    registry.setRate handle rate = (.error failure, registry) := by
  simp only [setRate, hheld, hunsolved]

theorem bind_of_held (callback : Option κ) :
    registry.bind handle callback = (.ok (), registry.rebind i callback) := by
  simp only [bind, hheld, rebind]
  split
  · rfl
  · rfl

theorem enable_of_resting (hrests : (registry.slotAt i).state ≠ .enabled) :
    registry.enable handle = (.ok (), registry.switchOn i) := by
  simp only [enable, hheld, if_neg hrests]
  rfl

theorem close_of_idle (hidle : registry.isServed i = false) :
    registry.close handle = (.ok (), (registry.switchOff i).wipe i) := by
  unfold close
  rw [hheld]
  simp only [hidle, Bool.false_eq_true, if_false]

end Held

end Registry

namespace Request

/-- The requests that only ask. -/
def asks : Request κ -> Bool
  | state _ | currentRate _ | requestedRate _ | rateConfig _ | hasCallback _ | wordWidth _ => true
  | readable _ | writable _ | pending _ | overflows _ => true
  | _ => false

/-!
# The relation
-/

inductive Effect (registry : Registry η κ n slots) :
    Request κ -> Except Failure Reply -> Registry η κ n slots -> Prop where
  | failed (request : Request κ) (failure : Failure) :
      Effect registry request (.error failure) registry
  | told {request : Request κ} (reply : Reply) (hasks : request.asks = true) :
      Effect registry request (.ok reply) registry
  | allocated {i : Fin n} (hfree : registry.firstUnused? = some i) :
      Effect registry .allocate (.ok (.handle (registry.handle i))) (registry.hold i)
  | acquired {handle : Handle} {i : Fin n} (hlocated : registry.locate handle = .ok i)
      (hfree : (registry.slotAt i).state = .unused) :
      Effect registry (.acquire handle) (.ok .done) (registry.hold i)
  | waited {handle : Handle} {i : Fin n} (hheld : registry.locateOpen handle = .ok i)
      (hserved : registry.isServed i = true) :
      Effect registry (.close handle) (.error .selfWait) (registry.switchOff i)
  | closed {handle : Handle} {i : Fin n} (hheld : registry.locateOpen handle = .ok i)
      (hidle : registry.isServed i = false) :
      Effect registry (.close handle) (.ok .done) ((registry.switchOff i).wipe i)
  | stayedOn {handle : Handle} {i : Fin n} (hheld : registry.locateOpen handle = .ok i)
      (hruns : (registry.slotAt i).state = .enabled) :
      Effect registry (.enable handle) (.ok .done) registry
  | turnedOn {handle : Handle} {i : Fin n} (hheld : registry.locateOpen handle = .ok i)
      (hrests : (registry.slotAt i).state ≠ .enabled) :
      Effect registry (.enable handle) (.ok .done) (registry.switchOn i)
  | turnedOff {handle : Handle} {i : Fin n} (hheld : registry.locateOpen handle = .ok i) :
      Effect registry (.disable handle) (.ok .done) (registry.switchOff i)
  | rated {handle : Handle} {i : Fin n} {rate : Rate} {divisor : Divisor}
      (hheld : registry.locateOpen handle = .ok i)
      (hsolved : (Hardware.chain registry.hardware).solve (Hardware.clock registry.hardware) rate =
        .ok divisor) :
      Effect registry (.setRate handle rate) (.ok (.divisor divisor))
        (registry.adoptRate i rate divisor)
  | bound {handle : Handle} {i : Fin n} (hheld : registry.locateOpen handle = .ok i)
      (callback : Option κ) :
      Effect registry (.bind handle callback) (.ok .done) (registry.rebind i callback)
  | widened {handle : Handle} {i : Fin n} {bits : UInt8}
      (hheld : registry.locateOpen handle = .ok i)
      (hknown : bits ∈ Hardware.wordWidths registry.hardware) :
      Effect registry (.setWordWidth handle bits) (.ok .done) (registry.adoptWidth i bits)
  | counted {handle : Handle} {i : Fin n} (hheld : registry.locateOpen handle = .ok i) :
      Effect registry (.counter handle)
        ((Hardware.readCounter registry.hardware i).1.map .counter)
        (registry.setHardware (Hardware.readCounter registry.hardware i).2)
  | recounted {handle : Handle} {i : Fin n} (hheld : registry.locateOpen handle = .ok i)
      (value : UInt32) :
      Effect registry (.setCounter handle value)
        ((Hardware.writeCounter registry.hardware i value).1.map fun _ => .done)
        (registry.setHardware (Hardware.writeCounter registry.hardware i value).2)
  | wroteBytes {handle : Handle} {i : Fin n} {buffers : Buffers slots}
      (hlocated : registry.locateBuffers handle = .ok (i, buffers))
      (hnarrow : registry.transferWidth i ≤ 8) (bytes : List UInt8) :
      Effect registry (.write handle bytes)
        (.ok (.count (registry.queue i buffers (bytes.map UInt8.toUInt16)).1))
        (registry.queue i buffers (bytes.map UInt8.toUInt16)).2
  | wroteWords {handle : Handle} {i : Fin n} {buffers : Buffers slots} {words : List UInt16}
      (hlocated : registry.locateBuffers handle = .ok (i, buffers))
      (hfit : words.any (Registry.tooWide (registry.transferWidth i)) = false) :
      Effect registry (.writeWords handle words)
        (.ok (.count (registry.queue i buffers words).1)) (registry.queue i buffers words).2
  | readBytes {handle : Handle} {i : Fin n} {buffers : Buffers slots}
      (hlocated : registry.locateBuffers handle = .ok (i, buffers))
      (hnarrow : registry.transferWidth i ≤ 8) (output : List UInt8) :
      Effect registry (.read handle output)
        (.ok (.bytes (buffers.inbound.popInto UInt16.toUInt8 output).1
          (buffers.inbound.popInto UInt16.toUInt8 output).2.1))
        (registry.setBuffers i
          { buffers with inbound := (buffers.inbound.popInto UInt16.toUInt8 output).2.2 })
  | readWords {handle : Handle} {i : Fin n} {buffers : Buffers slots}
      (hlocated : registry.locateBuffers handle = .ok (i, buffers)) (output : List UInt16) :
      Effect registry (.readWords handle output)
        (.ok (.words (buffers.inbound.pop output).1 (buffers.inbound.pop output).2.1))
        (registry.setBuffers i { buffers with inbound := (buffers.inbound.pop output).2.2 })
  | drained {handle : Handle} {i : Fin n} {buffers : Buffers slots}
      (hlocated : registry.locateBuffers handle = .ok (i, buffers))
      (hempty : buffers.outbound.size = 0) :
      Effect registry (.flush handle) (.ok (.flag true)) registry
  | kicked {handle : Handle} {i : Fin n} {buffers : Buffers slots}
      (hlocated : registry.locateBuffers handle = .ok (i, buffers))
      (hwaiting : buffers.outbound.size ≠ 0) :
      Effect registry (.flush handle) (.ok (.flag false)) (registry.call i .kickTransmit)

/-!
# Every request has an effect of the list
-/

theorem effect_of_asking {registry : Registry η κ n slots} {request : Request κ} {α : Type}
    (hasks : request.asks = true) (result : Except Failure α) (reply : α -> Reply) :
    Effect registry request (result.map reply) registry := by
  cases result with
  | error failure => exact Effect.failed request failure
  | ok value => exact Effect.told (reply value) hasks

theorem effect_allocate (registry : Registry η κ n slots) :
    Effect registry .allocate (registry.allocate.1.map .handle) registry.allocate.2 := by
  unfold Registry.allocate
  cases hfree : registry.firstUnused? with
  | none => exact Effect.failed _ _
  | some i => exact Effect.allocated hfree

theorem effect_acquire (registry : Registry η κ n slots) (handle : Handle) :
    Effect registry (.acquire handle) ((registry.acquire handle).1.map fun _ => .done)
      (registry.acquire handle).2 := by
  unfold Registry.acquire
  cases hlocated : registry.locate handle with
  | error failure => exact Effect.failed _ _
  | ok i =>
      by_cases hfree : (registry.slotAt i).state = .unused
      · simp only [if_pos hfree]
        exact Effect.acquired hlocated hfree
      · simp only [if_neg hfree]
        exact Effect.failed _ _

theorem effect_close (registry : Registry η κ n slots) (handle : Handle) :
    Effect registry (.close handle) ((registry.close handle).1.map fun _ => .done)
      (registry.close handle).2 := by
  unfold Registry.close
  cases hheld : registry.locateOpen handle with
  | error failure => exact Effect.failed _ _
  | ok i =>
      cases hserved : registry.isServed i with
      | true =>
          simp only [hserved, if_true]
          exact Effect.waited hheld hserved
      | false =>
          simp only [hserved, Bool.false_eq_true, if_false]
          exact Effect.closed hheld hserved

theorem effect_enable (registry : Registry η κ n slots) (handle : Handle) :
    Effect registry (.enable handle) ((registry.enable handle).1.map fun _ => .done)
      (registry.enable handle).2 := by
  unfold Registry.enable
  cases hheld : registry.locateOpen handle with
  | error failure => exact Effect.failed _ _
  | ok i =>
      by_cases hruns : (registry.slotAt i).state = .enabled
      · simp only [if_pos hruns]
        exact Effect.stayedOn hheld hruns
      · simp only [if_neg hruns]
        exact Effect.turnedOn hheld hruns

theorem effect_disable (registry : Registry η κ n slots) (handle : Handle) :
    Effect registry (.disable handle) ((registry.disable handle).1.map fun _ => .done)
      (registry.disable handle).2 := by
  unfold Registry.disable
  cases hheld : registry.locateOpen handle with
  | error failure => exact Effect.failed _ _
  | ok i => exact Effect.turnedOff hheld

theorem effect_setRate (registry : Registry η κ n slots) (handle : Handle) (rate : Rate) :
    Effect registry (.setRate handle rate) ((registry.setRate handle rate).1.map .divisor)
      (registry.setRate handle rate).2 := by
  unfold Registry.setRate
  cases hheld : registry.locateOpen handle with
  | error failure => exact Effect.failed _ _
  | ok i =>
      cases hsolved : (Hardware.chain registry.hardware).solve
          (Hardware.clock registry.hardware) rate with
      | error failure => exact Effect.failed _ _
      | ok divisor => exact Effect.rated hheld hsolved

theorem effect_bind (registry : Registry η κ n slots) (handle : Handle) (callback : Option κ) :
    Effect registry (.bind handle callback)
      ((registry.bind handle callback).1.map fun _ => .done)
      (registry.bind handle callback).2 := by
  unfold Registry.bind
  cases hheld : registry.locateOpen handle with
  | error failure => exact Effect.failed _ _
  | ok i =>
      have heffect := Effect.bound hheld callback
      unfold Registry.rebind at heffect
      by_cases hruns : (registry.slotAt i).state = .enabled
      · simp only [if_pos hruns] at heffect ⊢
        exact heffect
      · simp only [if_neg hruns] at heffect ⊢
        exact heffect

theorem effect_setWordWidth (registry : Registry η κ n slots) (handle : Handle)
    (bits : UInt8) :
    Effect registry (.setWordWidth handle bits)
      ((registry.setWordWidth handle bits).1.map fun _ => .done)
      (registry.setWordWidth handle bits).2 := by
  unfold Registry.setWordWidth
  cases hheld : registry.locateOpen handle with
  | error failure => exact Effect.failed _ _
  | ok i =>
      by_cases hknown : bits ∈ Hardware.wordWidths registry.hardware
      · simp only [if_pos hknown]
        exact Effect.widened hheld hknown
      · simp only [if_neg hknown]
        exact Effect.failed _ _

theorem effect_counter (registry : Registry η κ n slots) (handle : Handle) :
    Effect registry (.counter handle) ((registry.counter handle).1.map .counter)
      (registry.counter handle).2 := by
  unfold Registry.counter
  cases hheld : registry.locateOpen handle with
  | error failure => exact Effect.failed _ _
  | ok i => exact Effect.counted hheld

theorem effect_setCounter (registry : Registry η κ n slots) (handle : Handle)
    (value : UInt32) :
    Effect registry (.setCounter handle value)
      ((registry.setCounter handle value).1.map fun _ => .done)
      (registry.setCounter handle value).2 := by
  unfold Registry.setCounter
  cases hheld : registry.locateOpen handle with
  | error failure => exact Effect.failed _ _
  | ok i => exact Effect.recounted hheld value

theorem effect_write (registry : Registry η κ n slots) (handle : Handle)
    (bytes : List UInt8) :
    Effect registry (.write handle bytes) ((registry.write handle bytes).1.map .count)
      (registry.write handle bytes).2 := by
  unfold Registry.write
  cases hlocated : registry.locateBuffers handle with
  | error failure => exact Effect.failed _ _
  | ok located =>
      rcases located with ⟨i, buffers⟩
      by_cases hwide : 8 < registry.transferWidth i
      · simp only [if_pos hwide]
        exact Effect.failed _ _
      · simp only [if_neg hwide]
        exact Effect.wroteBytes hlocated (UInt8.not_lt.mp hwide) bytes

theorem effect_writeWords (registry : Registry η κ n slots) (handle : Handle)
    (words : List UInt16) :
    Effect registry (.writeWords handle words) ((registry.writeWords handle words).1.map .count)
      (registry.writeWords handle words).2 := by
  unfold Registry.writeWords
  cases hlocated : registry.locateBuffers handle with
  | error failure => exact Effect.failed _ _
  | ok located =>
      rcases located with ⟨i, buffers⟩
      cases hwide : words.any (Registry.tooWide (registry.transferWidth i)) with
      | true =>
          simp only [hwide, if_true]
          exact Effect.failed _ _
      | false =>
          simp only [hwide, Bool.false_eq_true, if_false]
          exact Effect.wroteWords hlocated hwide

theorem effect_read (registry : Registry η κ n slots) (handle : Handle)
    (output : List UInt8) :
    Effect registry (.read handle output)
      ((registry.read handle output).1.map (.bytes · (registry.read handle output).2.1))
      (registry.read handle output).2.2 := by
  unfold Registry.read
  cases hlocated : registry.locateBuffers handle with
  | error failure => exact Effect.failed _ _
  | ok located =>
      rcases located with ⟨i, buffers⟩
      by_cases hwide : 8 < registry.transferWidth i
      · simp only [if_pos hwide]
        exact Effect.failed _ _
      · simp only [if_neg hwide]
        exact Effect.readBytes hlocated (UInt8.not_lt.mp hwide) output

theorem effect_readWords (registry : Registry η κ n slots) (handle : Handle)
    (output : List UInt16) :
    Effect registry (.readWords handle output)
      ((registry.readWords handle output).1.map (.words · (registry.readWords handle output).2.1))
      (registry.readWords handle output).2.2 := by
  unfold Registry.readWords
  cases hlocated : registry.locateBuffers handle with
  | error failure => exact Effect.failed _ _
  | ok located => exact Effect.readWords hlocated output

theorem effect_flush (registry : Registry η κ n slots) (handle : Handle) :
    Effect registry (.flush handle) ((registry.flush handle).1.map .flag)
      (registry.flush handle).2 := by
  unfold Registry.flush
  cases hlocated : registry.locateBuffers handle with
  | error failure => exact Effect.failed _ _
  | ok located =>
      rcases located with ⟨i, buffers⟩
      by_cases hempty : buffers.outbound.size = 0
      · simp only [if_pos hempty]
        exact Effect.drained hlocated hempty
      · simp only [if_neg hempty]
        exact Effect.kicked hlocated hempty

/-- What a request does is one of the listed effects. -/
theorem effect_run (request : Request κ) (registry : Registry η κ n slots) :
    Effect registry request (request.run registry).1 (request.run registry).2 := by
  cases request with
  | allocate => exact effect_allocate registry
  | acquire handle => exact effect_acquire registry handle
  | close handle => exact effect_close registry handle
  | enable handle => exact effect_enable registry handle
  | disable handle => exact effect_disable registry handle
  | setRate handle rate => exact effect_setRate registry handle rate
  | bind handle callback => exact effect_bind registry handle callback
  | setWordWidth handle bits => exact effect_setWordWidth registry handle bits
  | counter handle => exact effect_counter registry handle
  | setCounter handle value => exact effect_setCounter registry handle value
  | write handle bytes => exact effect_write registry handle bytes
  | writeWords handle words => exact effect_writeWords registry handle words
  | read handle output => exact effect_read registry handle output
  | readWords handle output => exact effect_readWords registry handle output
  | flush handle => exact effect_flush registry handle
  | state handle => exact effect_of_asking rfl (registry.state handle) .state
  | currentRate handle => exact effect_of_asking rfl (registry.currentRate handle) .rate
  | requestedRate handle => exact effect_of_asking rfl (registry.requestedRate handle) .rate
  | rateConfig handle => exact effect_of_asking rfl (registry.rateConfig handle) .config
  | hasCallback handle => exact effect_of_asking rfl (registry.hasCallback handle) .flag
  | wordWidth handle => exact effect_of_asking rfl (registry.wordWidth handle) .width
  | readable handle => exact effect_of_asking rfl (registry.readable handle) .count
  | writable handle => exact effect_of_asking rfl (registry.writable handle) .count
  | pending handle => exact effect_of_asking rfl (registry.pending handle) .count
  | overflows handle => exact effect_of_asking rfl (registry.overflows handle) .count

end Request
end PeripheralBank
