/-!
# Errors and failures

An `Error` is the cause for which an operation turns a request down.  A `Failure` is anything that
keeps an operation from answering: a refusal with its cause, or a fault of the caller that no error
describes (dividing by a ratio of zero, touching registers that do not exist, waiting for oneself).
-/

namespace PeripheralBank

/-- The causes for which a request is turned down. -/
inductive Error where
  /-- The null handle, a handle of another family, or an index out of range. -/
  | invalidHandle
  | alreadyInUse
  | resourceExhausted
  /-- A rate of zero, an unsupported word width, a word that is too wide. -/
  | invalidArgument
  /-- No legal pair of ratios approximates the rate. -/
  | rateUnachievable
  /-- The instance is not in a state that allows the operation. -/
  | invalidState
  | noBuffer
  | unsupported
deriving DecidableEq

namespace Error

def name : Error -> String
  | invalidHandle => "InvalidHandle"
  | alreadyInUse => "AlreadyInUse"
  | resourceExhausted => "ResourceExhausted"
  | invalidArgument => "InvalidArgument"
  | rateUnachievable => "RateUnachievable"
  | invalidState => "InvalidState"
  | noBuffer => "NoBuffer"
  | unsupported => "Unsupported"

def message : Error -> String
  | invalidHandle => "Invalid device handle"
  | alreadyInUse => "Device already in use"
  | resourceExhausted => "No free device"
  | invalidArgument => "Invalid argument"
  | rateUnachievable => "Rate cannot be achieved"
  | invalidState => "Invalid state"
  | noBuffer => "Device has no buffer"
  | unsupported => "Not supported by the device"

end Error

/-- The ways in which an operation can end without an answer. -/
inductive Failure where
  | refused (error : Error)
  /-- A quotient by a ratio of zero was needed. -/
  | zeroRatio
  /-- Registers outside the instance table were addressed. -/
  | noSuchInstance
  /-- A callback waited for the interrupt that it runs in. -/
  | selfWait
deriving DecidableEq

/-- Results can be compared where answers and failures can. -/
instance decidableEqExcept {ε α : Type} [DecidableEq ε] [DecidableEq α] : DecidableEq (Except ε α)
  | .ok a, .ok b => decidable_of_iff (a = b) (by simp)
  | .error a, .error b => decidable_of_iff (a = b) (by simp)
  | .ok _, .error _ => .isFalse (by simp)
  | .error _, .ok _ => .isFalse (by simp)

/-- Turns a request down with a cause. -/
def refuse {α : Type} (error : Error) : Except Failure α :=
  .error (.refused error)

/-- An answer together with the state that it leaves, where there is an answer. -/
def answered {α σ : Type} : Except Failure α × σ -> Except Failure (α × σ)
  | (.ok answer, state) => .ok (answer, state)
  | (.error failure, _) => .error failure

end PeripheralBank
