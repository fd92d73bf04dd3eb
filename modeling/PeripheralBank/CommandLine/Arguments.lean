import PeripheralBank.Divider.Rate
import PeripheralBank.Family

/-!
# Arguments of the command line

The arguments are read in two levels: what stands before the name of a mode, and what follows it.  A
level knows some options.  An option that takes a value has it attached (`-c5`, `-c=5`, `--clock=5`)
or in the next argument, which may then not start with a dash unless it is a dash alone.  Options
without a value may share one dash (`-dd`, `-dc5`).  An option with a value is given at most once in
a level.  Nothing else is understood.
-/

namespace PeripheralBank
namespace CommandLine

/-!
# Options
-/

inductive OptionName where
  | debug
  | clock
  | family
  | rate
  | periodMicroseconds
  | periodMilliseconds
  | text
  | baud
  | ticks
deriving DecidableEq

structure OptionForm where
  name : OptionName
  short : Option Char
  long : String
  takesValue : Bool

inductive Mode where
  | solve
  | echo
  | timer
deriving DecidableEq

def Mode.ofName? : String -> Option Mode
  | "solve" => some .solve
  | "uart-echo" => some .echo
  | "timer" => some .timer
  | _ => none

/-- The clock can be given in either level. -/
def clockForm : OptionForm :=
  ⟨.clock, some 'c', "clock", true⟩

/-- The options of a level: before a mode, or in one. -/
def forms : Option Mode -> List OptionForm
  | none =>
      [⟨.debug, some 'd', "debug", false⟩, clockForm]
  | some .solve =>
      [⟨.family, some 'f', "family", true⟩,
        ⟨.rate, some 'r', "rate", true⟩,
        ⟨.periodMicroseconds, none, "period-us", true⟩,
        ⟨.periodMilliseconds, none, "period-ms", true⟩,
        clockForm]
  | some .echo =>
      [⟨.text, some 't', "text", true⟩, ⟨.baud, some 'b', "baud", true⟩, clockForm]
  | some .timer =>
      [⟨.periodMicroseconds, none, "period-us", true⟩, ⟨.ticks, some 'k', "ticks", true⟩, clockForm]

/-- An option that was given, with its value if it takes one. -/
structure Setting where
  name : OptionName
  value : String := ""

/-!
# One argument
-/

inductive Argument where
  | mode (mode : Mode)
  /-- Two dashes, which end the options. -/
  | endOfOptions
  | settings (settings : List Setting)
  /-- Options of which the last has its value in the next argument. -/
  | awaiting (settings : List Setting) (name : OptionName)
  | unknown

namespace Argument

/-- Reads what follows a single dash.  A value may follow its option directly or after an equals
sign. -/
def ofShort (known : List OptionForm) : List Char -> Argument
  | [] => settings []
  | letter :: rest =>
      match known.find? fun form => form.short == some letter with
      | none => unknown
      | some form =>
          if form.takesValue then
            match rest with
            | [] => awaiting [] form.name
            | '=' :: value => settings [⟨form.name, String.ofList value⟩]
            | value => settings [⟨form.name, String.ofList value⟩]
          else
            match ofShort known rest with
            | settings others => settings (⟨form.name, ""⟩ :: others)
            | awaiting others name => awaiting (⟨form.name, ""⟩ :: others) name
            | other => other

/-- Reads what follows two dashes: a name, or a name and a value around the first equals sign. -/
def ofLong (known : List OptionForm) (characters : List Char) : Argument :=
  let name := String.ofList (characters.takeWhile (· != '='))
  match known.find? fun form => form.long == name, characters.dropWhile (· != '=') with
  | none, _ => unknown
  | some form, [] => if form.takesValue then awaiting [] form.name else settings [⟨form.name, ""⟩]
  | some form, _ :: value =>
      if form.takesValue then settings [⟨form.name, String.ofList value⟩] else unknown

/-- Reads one argument of a level.  Modes are known before a mode only. -/
def ofString (level : Option Mode) (argument : String) : Argument :=
  match if level.isNone then Mode.ofName? argument else none with
  | some chosen => mode chosen
  | none =>
      match argument.toList with
      | ['-', '-'] => endOfOptions
      | '-' :: '-' :: characters => ofLong (forms level) characters
      | '-' :: letter :: letters => ofShort (forms level) (letter :: letters)
      | _ => unknown

end Argument

/-!
# One level
-/

/-- What a level was given, and the mode that ended it with the arguments after it. -/
structure Given where
  settings : List Setting := []
  mode : Option (Mode × List String) := none

namespace Given

def prepend (settings : List Setting) (given : Given) : Given :=
  { given with settings := settings ++ given.settings }

/-- Whether an argument may be the value of the option before it. -/
def isValue (argument : String) : Bool :=
  match argument.toList with
  | ['-'] => true
  | '-' :: _ => false
  | _ => true

def ofArguments (level : Option Mode) : List String -> Option Given
  | [] => some {}
  | argument :: rest =>
      match Argument.ofString level argument with
      | .mode mode => some { mode := some (mode, rest) }
      | .endOfOptions => if rest.isEmpty then some {} else none
      | .settings settings => (ofArguments level rest).map (prepend settings)
      | .awaiting settings name =>
          match rest with
          | [] => none
          | value :: rest =>
              if isValue value then
                (ofArguments level rest).map (prepend (settings ++ [⟨name, value⟩]))
              else
                none
      | .unknown => none

def values (given : Given) (name : OptionName) : List String :=
  (given.settings.filter fun setting => setting.name == name).map (·.value)

def has (given : Given) (name : OptionName) : Bool :=
  !(given.values name).isEmpty

/-- Reads the value of an option that is given at most once: none where it was not given, and a
failure where it was given twice or its value cannot be read. -/
def value? {α : Type} (given : Given) (name : OptionName) (readValue : String -> Option α) :
    Option (Option α) :=
  match given.values name with
  | [] => some none
  | [value] => (readValue value).map some
  | _ => none

end Given

/-!
# Values
-/

/-- A number in decimal digits, at least one. -/
def natural? (digits : List Char) : Option Nat :=
  if digits.isEmpty || !digits.all Char.isDigit then
    none
  else
    some (digits.foldl (fun number digit => 10 * number + (digit.toNat - '0'.toNat)) 0)

/-- A number that some bits can hold.  A plus sign may stand in front. -/
def unsigned? (bits : Nat) (text : String) : Option Nat := do
  let digits :=
    match text.toList with
    | '+' :: digits => digits
    | digits => digits
  let number ← natural? digits
  if number < Nat.pow 2 bits then some number else none

/-- A number that thirty-two bits can hold.  Either sign may stand in front of it. -/
def word? (text : String) : Option UInt32 :=
  match text.toList with
  | '-' :: digits => (natural? digits).bind fun number => if number = 0 then some 0 else none
  | _ => (unsigned? 32 text).map UInt32.ofNat

/-!
# The whole
-/

inductive Invocation where
  | solve (clock : UInt32) (family : Family) (rate : Option Rate)
  | echo (clock : UInt32) (text : String) (baud : UInt32)
  | timer (clock : UInt32) (period : UInt32) (ticks : Nat)

namespace Invocation

def defaultClock : UInt32 :=
  16000000

/-- The rate of the solving mode, of which at most one unit may be given. -/
def rate? (given : Given) : Option (Option Rate) := do
  let hertz ← given.value? .rate word?
  let microseconds ← given.value? .periodMicroseconds word?
  let milliseconds ← given.value? .periodMilliseconds word?
  match hertz, microseconds, milliseconds with
  | none, none, none => some none
  | some value, none, none => some (some (.hertz value))
  | none, some value, none => some (some (.microseconds value))
  | none, none, some value => some (some (.milliseconds value))
  | _, _, _ => none

/-- What a mode is asked to do, from the options after its name. -/
def ofGiven (clock : UInt32) (given : Given) : Mode -> Option Invocation
  | .solve => do
      let family ← given.value? .family Family.ofName?
      let rate ← rate? given
      return .solve clock (← family) rate
  | .echo => do
      let text ← given.value? .text some
      let baud ← given.value? .baud word?
      return .echo clock (text.getD "hello") (baud.getD 115200)
  | .timer => do
      let period ← given.value? .periodMicroseconds word?
      let ticks ← given.value? .ticks (unsigned? 64)
      return .timer clock (period.getD 1000) (ticks.getD 10)

/-- Reads the arguments.  A clock after the mode's name wins over one before it. -/
def ofArguments (arguments : List String) : Option Invocation := do
  let outer ← Given.ofArguments none arguments
  let outerClock ← outer.value? .clock word?
  let (mode, rest) ← outer.mode
  let inner ← Given.ofArguments (some mode) rest
  let innerClock ← inner.value? .clock word?
  ofGiven ((innerClock.or outerClock).getD defaultClock) inner mode

end Invocation

end CommandLine
end PeripheralBank
