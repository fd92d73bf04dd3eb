import PeripheralBank.Proofs.Bench.Script
import PeripheralBank.Proofs.Bench.Watched

/-!
# Turns of a run

A turn is a command of a run with the calls that it makes to one instance.  The commands of
callbacks take turns like all others, and an interrupt makes no call of its own, so the turns of a
run hold all calls that it makes to the instance.

Which calls a turn makes is decided by its command and by whether the instance runs.  There are
only a few courses that it can take.
-/

namespace PeripheralBank

/-!
# Courses
-/

namespace Command

/-- The commands that turn an instance off. -/
def stops : Command -> Bool
  | request (.disable _) | request (.close _) => true
  | _ => false

def setsRate : Command -> Bool
  | request (.setRate _ _) => true
  | _ => false

end Command

/-- The calls that have nothing to do with whether an instance runs. -/
def Call.passes : Call -> Bool
  | wordWidth _ | kickTransmit => true
  | _ => false

/-- The calls that a command can make to an instance, between whether it is on before them and
whether it is on after them. -/
inductive Course (strategy : RateStrategy) : Bool -> Command -> List Call -> Bool -> Prop where
  | silent (on : Bool) (command : Command) : Course strategy on command [] on
  | started (handle : Handle) (armed : Bool) :
      Course strategy false (.request (.enable handle)) [.enable true, .arm armed] true
  | stopped {command : Command} (hstops : command.stops = true) :
      Course strategy true command [.enable false, .arm false] false
  | rated {on : Bool} (handle : Handle) (rate : Rate) (divisor : Divisor)
      (hoff : strategy = .restart -> on = false) :
      Course strategy on (.request (.setRate handle rate)) [.rate divisor] on
  | restarted (handle : Handle) (rate : Rate) (divisor : Divisor)
      (hrestarts : strategy = .restart) :
      Course strategy true (.request (.setRate handle rate))
        [.enable false, .rate divisor, .enable true] true
  | rearmed (handle : Handle) (callback : Option Nat) (armed : Bool) :
      Course strategy true (.request (.bind handle callback)) [.arm armed] true
  | passed {command : Command} {call : Call} (on : Bool) (hstops : command.stops = false)
      (hpasses : call.passes = true) : Course strategy on command [call] on

structure Turn where
  command : Command
  calls : List Call

/-- The calls of several turns, in order. -/
def Turn.callsOf (turns : List Turn) : List Call :=
  turns.flatMap Turn.calls

/-- Turns of which each takes a course from where the last one ended. -/
inductive Courses (strategy : RateStrategy) : Bool -> List Turn -> Bool -> Prop where
  | nil (on : Bool) : Courses strategy on [] on
  | cons {before middle after : Bool} {turn : Turn} {turns : List Turn} :
      Course strategy before turn.command turn.calls middle ->
      Courses strategy middle turns after -> Courses strategy before (turn :: turns) after

namespace Courses

variable {strategy : RateStrategy} {before middle after : Bool} {first second : List Turn}

theorem append (hfirst : Courses strategy before first middle)
    (hsecond : Courses strategy middle second after) :
    Courses strategy before (first ++ second) after := by
  induction hfirst with
  | nil _ => exact hsecond
  | cons hcourse _ ih => exact .cons hcourse (ih hsecond)

theorem split (hcourses : Courses strategy before (first ++ second) after) :
    exists middle, Courses strategy before first middle ∧ Courses strategy middle second after := by
  induction first generalizing before with
  | nil => exact ⟨before, .nil before, hcourses⟩
  | cons turn rest ih =>
      cases hcourses with
      | cons hcourse hrest =>
          rcases ih hrest with ⟨middle, hnow, hlater⟩
          exact ⟨middle, .cons hcourse hnow, hlater⟩

end Courses

/-!
# Turns
-/

variable {η : Type} [Inspectable η] {n slots : Nat}

/-- The calls to one instance, oldest first. -/
def Watched.callsOn (watched : Watched η) (index : Nat) : List Call :=
  (watched.calls.filter (·.index == index)).map Event.call

namespace Command

def turn (i : Fin n) (command : Command) (registry : Registry (Watched η) Nat n slots) : Turn where
  command := command
  calls := ((command.run registry).2.hardware.callsOn i).drop (registry.hardware.callsOn i).length

def turnsOf (i : Fin n) : List Command -> Registry (Watched η) Nat n slots -> List Turn
  | [], _ => []
  | command :: rest, registry =>
      command.turn i registry :: turnsOf i rest (command.run registry).2

end Command

namespace Registry

def runs {κ : Type} (registry : Registry η κ n slots) (i : Fin n) : Bool :=
  decide ((registry.slotAt i).state = .enabled)

end Registry

namespace Move

variable {ω : Type}

def turns (i : Fin n) (move : Move ω) (registry : Registry (Watched η) Nat n slots) : List Turn :=
  match move with
  | command issued => [issued.turn i registry]
  | claimInterrupts | releaseInterrupts => []
  | interrupt index _ scripts =>
      Command.turnsOf i (registry.script scripts index) (registry.entered index)

def turnsOf [Line ω] (i : Fin n) :
    List (Move ω) -> Registry (Watched η) Nat n slots -> List Turn
  | [], _ => []
  | move :: rest, registry => move.turns i registry ++ turnsOf i rest (move.run registry)

end Move

/-!
# The course of a command
-/

namespace Registry

/-- From one registry to the other, an instance was made the calls of the turns, along courses that
begin and end with what the slot says. -/
structure Traced (strategy : RateStrategy) (i : Fin n)
    (registry : Registry (Watched η) Nat n slots) (turns : List Turn)
    (after : Registry (Watched η) Nat n slots) : Prop where
  calls : after.hardware.callsOn i = registry.hardware.callsOn i ++ Turn.callsOf turns
  courses : Courses strategy (registry.runs i) turns (after.runs i)

/-- A command from one registry to the other makes its calls along one course. -/
def Takes (strategy : RateStrategy) (i : Fin n) (registry : Registry (Watched η) Nat n slots)
    (command : Command) (after : Registry (Watched η) Nat n slots) : Prop :=
  exists made, Traced strategy i registry [⟨command, made⟩] after

variable {strategy : RateStrategy} {i k : Fin n}
  {registry middle after : Registry (Watched η) Nat n slots}

theorem Traced.nil (i : Fin n) (registry : Registry (Watched η) Nat n slots) :
    Traced strategy i registry [] registry where
  calls := (List.append_nil _).symm
  courses := .nil _

theorem Traced.append {first second : List Turn} (hfirst : Traced strategy i registry first middle)
    (hsecond : Traced strategy i middle second after) :
    Traced strategy i registry (first ++ second) after where
  calls := by
    rw [hsecond.calls, hfirst.calls, List.append_assoc, Turn.callsOf, Turn.callsOf, Turn.callsOf,
      List.flatMap_append]
  courses := hfirst.courses.append hsecond.courses

/-- Some calls were made to the instance by a course, or to another one. -/
theorem Takes.of_made {command : Command} {calls : List Call}
    (hcalls : after.hardware.calls = registry.hardware.calls ++ calls.map (Event.mk k))
    (hcourse : k = i -> Course strategy (registry.runs i) command calls (after.runs i))
    (hapart : k ≠ i -> after.runs i = registry.runs i) :
    Takes strategy i registry command after := by
  have hmade : after.hardware.callsOn i =
      registry.hardware.callsOn i ++ if k = i then calls else [] := by
    unfold Watched.callsOn
    rw [hcalls, List.filter_append, List.map_append]
    congr 1
    by_cases hsame : k = i
    · simp [hsame, List.filter_map, Function.comp_def]
    · have hindex : k.val ≠ i.val := fun heq => hsame (Fin.ext heq)
      simp [hsame, hindex, List.filter_map, Function.comp_def]
  -- To the instance that is watched, calls to another one are silence.
  refine ⟨if k = i then calls else [], ?_, ?_⟩
  · rw [hmade]
    simp [Turn.callsOf]
  · refine .cons ?_ (.nil _)
    by_cases hsame : k = i
    · simpa only [if_pos hsame] using hcourse hsame
    · simp only [if_neg hsame, hapart hsame]
      exact .silent _ command

theorem Takes.of_silence (command : Command)
    (hcalls : after.hardware.calls = registry.hardware.calls)
    (hruns : after.runs i = registry.runs i) :
    Takes strategy i registry command after := by
  have hnone : after.hardware.calls =
      registry.hardware.calls ++ ([] : List Call).map (Event.mk i) := by
    rw [hcalls]
    exact (List.append_nil _).symm
  refine Takes.of_made hnone ?_ ?_
  · intro _
    rw [hruns]
    exact .silent _ command
  · exact fun _ => hruns

theorem runs_of_slot (hslot : after.slotAt i = registry.slotAt i) :
    after.runs i = registry.runs i := by
  unfold runs
  rw [hslot]

/-- A change of a slot that keeps its state. -/
theorem runs_of_change {slot : Slot Nat}
    (hslot : after.slotAt i = if k = i then slot else registry.slotAt i)
    (hstate : slot.state = (registry.slotAt i).state) : after.runs i = registry.runs i := by
  unfold runs
  rw [hslot]
  split
  · rw [hstate]
  · rfl

section Effects

variable (i k) (registry)

theorem takes_switchOff {command : Command} (hstops : command.stops = true) :
    Takes strategy i registry command (registry.switchOff k) := by
  by_cases hruns : (registry.slotAt k).state = .enabled
  · have hcalls : (registry.switchOff k).hardware.calls =
        registry.hardware.calls ++ [Call.enable false, .arm false].map (Event.mk k) := by
      unfold switchOff
      rw [if_pos hruns]
      exact List.append_assoc _ _ _
    refine Takes.of_made hcalls ?_ ?_
    · rintro rfl
      have hbefore : registry.runs k = true := decide_eq_true hruns
      have hafter : (registry.switchOff k).runs k = false := by
        unfold runs
        rw [slotAt_switchOff, if_pos rfl]
        exact decide_eq_false (Slot.halted_ne_enabled _)
      rw [hbefore, hafter]
      exact .stopped hstops
    · intro hapart
      exact runs_of_slot (by simp [hapart])
  · have hkept : registry.switchOff k = registry := if_neg hruns
    rw [hkept]
    exact Takes.of_silence command rfl rfl

theorem takes_wipe {command : Command} (hstops : command.stops = true) :
    Takes strategy i registry command ((registry.switchOff k).wipe k) := by
  have hoff : Takes strategy i registry command (registry.switchOff k) :=
    takes_switchOff i k registry hstops
  rcases hoff with ⟨made, htraced⟩
  have hruns : ((registry.switchOff k).wipe k).runs i = (registry.switchOff k).runs i := by
    unfold runs
    rw [slotAt_wipe]
    by_cases hsame : k = i
    · have hoff := Slot.halted_ne_enabled (registry.slotAt i)
      simp [hsame, hoff]
    · rw [if_neg hsame]
  refine ⟨made, ?_, ?_⟩
  · rw [hardware_wipe]
    exact htraced.calls
  · rw [hruns]
    exact htraced.courses

theorem takes_switchOn (handle : Handle) (hrests : (registry.slotAt k).state ≠ .enabled) :
    Takes strategy i registry (.request (.enable handle)) (registry.switchOn k) := by
  have hcalls : (registry.switchOn k).hardware.calls = registry.hardware.calls ++
      [Call.enable true, .arm (registry.handlesInterrupt k)].map (Event.mk k) :=
    List.append_assoc _ _ _
  refine Takes.of_made hcalls ?_ ?_
  · rintro rfl
    have hbefore : registry.runs k = false := decide_eq_false hrests
    have hafter : (registry.switchOn k).runs k = true := by simp [runs]
    rw [hbefore, hafter]
    exact .started handle _
  · intro hapart
    exact runs_of_slot (by simp [hapart])

theorem runs_hold (hfree : (registry.slotAt k).state = .unused) :
    (registry.hold k).runs i = registry.runs i := by
  unfold runs
  rw [slotAt_hold]
  by_cases hsame : k = i
  · rw [if_pos hsame, ← hsame, hfree]
    rfl
  · rw [if_neg hsame]

theorem takes_adoptRate (handle : Handle) (rate : Rate) (divisor : Divisor)
    (hstrategy : Hardware.rateStrategy registry.hardware = strategy) :
    Takes strategy i registry (.request (.setRate handle rate))
      (registry.adoptRate k rate divisor) := by
  let kept := registry.setSlot k
    { registry.slotAt k with rate := { requested := some rate, divisor } }
  have hkept : (kept.slotAt k).state = (registry.slotAt k).state := by simp [kept]
  have hruns : (registry.adoptRate k rate divisor).runs i = registry.runs i :=
    runs_of_change (slotAt_adoptRate registry k i rate divisor) rfl
  by_cases hrestarts : (registry.slotAt k).state = .enabled ∧ strategy = .restart
  · have hcalls : (registry.adoptRate k rate divisor).hardware.calls = registry.hardware.calls ++
        [Call.enable false, .rate divisor, .enable true].map (Event.mk k) := by
      have hprogrammed : registry.adoptRate k rate divisor =
          ((kept.call k (.enable false)).call k (.rate divisor)).call k (.enable true) := by
        refine if_pos ⟨hkept.trans hrestarts.1, ?_⟩
        exact hstrategy.trans hrestarts.2
      rw [hprogrammed]
      exact (List.append_assoc _ _ _).trans (List.append_assoc _ _ _)
    refine Takes.of_made hcalls ?_ fun _ => hruns
    rintro rfl
    have hbefore : registry.runs k = true := decide_eq_true hrestarts.1
    rw [hruns, hbefore]
    exact .restarted handle rate divisor hrestarts.2
  · have hcalls : (registry.adoptRate k rate divisor).hardware.calls =
        registry.hardware.calls ++ [Call.rate divisor].map (Event.mk k) := by
      have hprogrammed : registry.adoptRate k rate divisor = kept.call k (.rate divisor) := by
        refine if_neg ?_
        rintro ⟨hstate, hneeds⟩
        exact hrestarts ⟨hkept.symm.trans hstate, hstrategy.symm.trans hneeds⟩
      rw [hprogrammed]
      rfl
    refine Takes.of_made hcalls ?_ fun _ => hruns
    rintro rfl
    rw [hruns]
    refine .rated handle rate divisor fun hneeds => decide_eq_false fun hstate => ?_
    exact hrestarts ⟨hstate, hneeds⟩

theorem takes_rebind (handle : Handle) (callback : Option Nat) :
    Takes strategy i registry (.request (.bind handle callback)) (registry.rebind k callback) := by
  have hruns : (registry.rebind k callback).runs i = registry.runs i :=
    runs_of_change (slotAt_rebind registry k i callback) rfl
  by_cases hon : (registry.slotAt k).state = .enabled
  · have hcalls : (registry.rebind k callback).hardware.calls = registry.hardware.calls ++
        [Call.arm (callback.isSome || registry.isBuffered)].map (Event.mk k) := by
      unfold rebind
      rw [if_pos hon]
      rfl
    refine Takes.of_made hcalls ?_ fun _ => hruns
    rintro rfl
    have hbefore : registry.runs k = true := decide_eq_true hon
    rw [hruns, hbefore]
    exact .rearmed handle callback _
  · refine Takes.of_silence _ ?_ hruns
    unfold rebind
    rw [if_neg hon]
    rfl

/-- A single call that has nothing to do with running, made to some instance or not at all. -/
theorem Takes.of_passing {command : Command} (call : Call) (hstops : command.stops = false)
    (hpasses : call.passes = true)
    (hcalls : after.hardware.calls = registry.hardware.calls ++ [⟨k, call⟩])
    (hruns : after.runs i = registry.runs i) :
    Takes strategy i registry command after := by
  have hsingle : after.hardware.calls = registry.hardware.calls ++ [call].map (Event.mk k) :=
    hcalls
  refine Takes.of_made hsingle ?_ fun _ => hruns
  intro _
  rw [hruns]
  exact .passed _ hstops hpasses

theorem takes_queue {command : Command} (hstops : command.stops = false)
    (buffers : Buffers slots) (words : List UInt16) :
    Takes strategy i registry command (registry.queue k buffers words).2 := by
  have hruns : (registry.queue k buffers words).2.runs i = registry.runs i :=
    runs_of_slot (by simp)
  by_cases hstored : 0 < (buffers.outbound.push words).1
  · refine Takes.of_passing i k registry .kickTransmit hstops rfl ?_ hruns
    simp only [queue, if_pos hstored]
    rfl
  · refine Takes.of_silence command ?_ hruns
    simp only [queue, if_neg hstored]
    rfl

end Effects

theorem Takes.of_effect {request : Request Nat} {answer : Except Failure Reply}
    (hstrategy : Hardware.rateStrategy registry.hardware = strategy)
    (heffect : request.Effect registry answer after) (i : Fin n) :
    Takes strategy i registry (.request request) after := by
  cases heffect with
  | failed _ _ | told _ _ | stayedOn _ _ | drained _ _ => exact Takes.of_silence _ rfl rfl
  | counted _ | recounted _ _ | readBytes _ _ _ | readWords _ _ =>
      exact Takes.of_silence _ rfl rfl
  | allocated hfree =>
      exact Takes.of_silence _ rfl (runs_hold i _ registry (unused_of_firstUnused? hfree))
  | acquired _ hfree => exact Takes.of_silence _ rfl (runs_hold i _ registry hfree)
  | @waited _ k _ _ => exact takes_switchOff i k registry rfl
  | @closed _ k _ _ => exact takes_wipe i k registry rfl
  | @turnedOn handle k _ hrests => exact takes_switchOn i k registry handle hrests
  | @turnedOff _ k _ => exact takes_switchOff i k registry rfl
  | @rated handle k rate divisor _ _ =>
      exact takes_adoptRate i k registry handle rate divisor hstrategy
  | @bound handle k _ callback => exact takes_rebind i k registry handle callback
  | @widened _ k bits _ _ =>
      exact Takes.of_passing i k registry (.wordWidth bits) rfl rfl rfl
        (runs_of_change (slotAt_adoptWidth registry k i bits) rfl)
  | @wroteBytes _ k buffers _ _ bytes => exact takes_queue i k registry rfl buffers _
  | @wroteWords _ k buffers words _ _ => exact takes_queue i k registry rfl buffers words
  | @kicked _ k _ _ _ =>
      exact Takes.of_passing i k registry .kickTransmit rfl rfl rfl rfl

/-!
# Turns are traced
-/

theorem traced_of_turn {command : Command}
    (htakes : Takes strategy i registry command (command.run registry).2) :
    Traced strategy i registry [command.turn i registry] (command.run registry).2 := by
  rcases htakes with ⟨made, htraced⟩
  have hmade : (command.turn i registry).calls = made := by
    show ((command.run registry).2.hardware.callsOn i).drop _ = made
    rw [htraced.calls, List.drop_left]
    exact List.append_nil made
  have hturn : command.turn i registry = ⟨command, made⟩ := by
    rw [← hmade]
    rfl
  rwa [hturn]

theorem traced_of_command (command : Command)
    (hstrategy : Hardware.rateStrategy registry.hardware = strategy) (i : Fin n) :
    Traced strategy i registry [command.turn i registry] (command.run registry).2 := by
  refine traced_of_turn ?_
  cases command with
  | request asked => exact Takes.of_effect hstrategy (Request.effect_run asked registry) i
  | snapshot device =>
      have hafter : ((Command.snapshot device).run registry).2 = (registry.counter device).2 := rfl
      rw [hafter]
      unfold Registry.counter
      split
      · exact Takes.of_silence _ rfl rfl
      · exact Takes.of_silence _ rfl rfl
  | handle _ | registers _ | faults | events => exact Takes.of_silence _ rfl rfl
  | clearEvents | advance _ _ | setClock _ => exact Takes.of_silence _ rfl rfl

section Runs

variable (hlasting : Lasting (Hardware.rateStrategy : Watched η -> RateStrategy))
include hlasting

theorem traced_of_commands (commands : List Command)
    (hstrategy : Hardware.rateStrategy registry.hardware = strategy) (i : Fin n) :
    Traced strategy i registry (Command.turnsOf i commands registry)
      (Command.runAll commands registry).2 := by
  induction commands generalizing registry with
  | nil => exact .nil i registry
  | cons command rest ih =>
      have hkept : Hardware.rateStrategy (command.run registry).2.hardware = strategy :=
        (hlasting.of_path (path_of_command (ω := BareLine) command registry)).trans hstrategy
      exact (traced_of_command command hstrategy i).append (ih hkept)

variable {ω : Type} [Line ω]

theorem traced_of_move (move : Move ω)
    (hstrategy : Hardware.rateStrategy registry.hardware = strategy) (i : Fin n) :
    Traced strategy i registry (move.turns i registry) (move.run registry) := by
  cases move with
  | command issued => exact traced_of_command issued hstrategy i
  | claimInterrupts | releaseInterrupts => exact ⟨(List.append_nil _).symm, .nil _⟩
  | interrupt index line scripts =>
      rcases interrupt_as_script scripts index line registry with ⟨hhardware, hslots⟩
      have hentered : (registry.entered index).hardware = registry.hardware ∧
          forall j, (registry.entered index).slotAt j = registry.slotAt j := by
        unfold entered
        split
        · exact ⟨rfl, fun _ => rfl⟩
        · exact ⟨rfl, fun _ => rfl⟩
      have hbegun : Hardware.rateStrategy (registry.entered index).hardware = strategy := by
        rw [hentered.1]
        exact hstrategy
      have htraced := traced_of_commands hlasting (registry.script scripts index) hbegun i
      constructor
      · show (registry.interrupt _ index (line, [])).2.2.hardware.callsOn i = _
        rw [hhardware, ← hentered.1]
        exact htraced.calls
      · show Courses strategy _ _ ((registry.interrupt _ index (line, [])).2.2.runs i)
        rw [runs_of_slot (hslots i), ← runs_of_slot (hentered.2 i)]
        exact htraced.courses

theorem traced_of_run (moves : List (Move ω))
    (hstrategy : Hardware.rateStrategy registry.hardware = strategy) (i : Fin n) :
    Traced strategy i registry (Move.turnsOf i moves registry) (Move.runAll moves registry) := by
  induction moves generalizing registry with
  | nil => exact .nil i registry
  | cons move rest ih =>
      have hkept : Hardware.rateStrategy (move.run registry).hardware = strategy :=
        (hlasting.of_path (path_of_move move registry)).trans hstrategy
      exact (traced_of_move hlasting move hstrategy i).append (ih hkept)

end Runs
end Registry
end PeripheralBank
