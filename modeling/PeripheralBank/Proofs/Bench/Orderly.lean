import PeripheralBank.Proofs.Bench.Turns
import PeripheralBank.Proofs.Simulation.Profile

/-!
# Orderly calls

The calls that a run makes to an instance are in good order, whatever the hardware does with them.
The instance is switched on and off by turns, its interrupt is let through only while it is on, and
a new divisor arrives in the way that the hardware asks for.

Each of these can be told from the switch at the place of a call, which is what the last switch
before it said.
-/

namespace PeripheralBank

/-!
# The switch
-/

def Call.switched (on : Bool) : Call -> Bool
  | enable next => next
  | _ => on

/-- Whether an instance is on after calls, of which the last switch decides. -/
def switchAfter (on : Bool) (calls : List Call) : Bool :=
  calls.foldl Call.switched on

theorem switchAfter_append (on : Bool) (first second : List Call) :
    switchAfter on (first ++ second) = switchAfter (switchAfter on first) second :=
  List.foldl_append

/-- The calls of turns are in good order on an instance that is off at first. -/
structure Orderly (strategy : RateStrategy) (turns : List Turn) : Prop where
  /-- The first switch turns the instance on, and each later one turns it over. -/
  alternates {past future : List Call} {on : Bool}
    (hcalls : Turn.callsOf turns = past ++ .enable on :: future) :
    on = !switchAfter false past
  armed_while_on {past future : List Call}
    (hcalls : Turn.callsOf turns = past ++ .arm true :: future) :
    switchAfter false past = true
  /-- What is disabled or closed is disarmed at once, and left so until it is on again. -/
  stop_disarms {past future : List Turn} {turn : Turn} {before after : List Call}
    (hturns : turns = past ++ turn :: future) (hstops : turn.command.stops = true)
    (hcalls : turn.calls = before ++ .enable false :: after) :
    after = [.arm false] ∧
      forall (held later : List Call) (armed : Bool),
        Turn.callsOf future = held ++ .arm armed :: later -> .enable true ∈ held
  restart_rates_off (hrestarts : strategy = .restart) {past future : List Call} {divisor : Divisor}
    (hcalls : Turn.callsOf turns = past ++ .rate divisor :: future) :
    switchAfter false past = false
  rate_keeps_switch {past future : List Turn} {turn : Turn}
    (hturns : turns = past ++ turn :: future) (hrates : turn.command.setsRate = true) :
    switchAfter false (Turn.callsOf (past ++ [turn])) = switchAfter false (Turn.callsOf past)
  hot_rates_running (hhot : strategy = .hot) {turn : Turn} (hturn : turn ∈ turns)
    (hrates : turn.command.setsRate = true) (on : Bool) : .enable on ∉ turn.calls

/-!
# Guarded calls
-/

/-- What is asked of a call while an instance is on or off. -/
def Call.Allowed (strategy : RateStrategy) (on : Bool) : Call -> Prop
  | enable next => next = !on
  | arm armed => armed = true -> on = true
  | rate _ => strategy = .restart -> on = false
  | wordWidth _ | kickTransmit => True

def Guarded (strategy : RateStrategy) : Bool -> List Call -> Prop
  | _, [] => True
  | on, call :: rest => call.Allowed strategy on ∧ Guarded strategy (call.switched on) rest

theorem guarded_append {strategy : RateStrategy} {on : Bool} {first second : List Call} :
    Guarded strategy on (first ++ second) ↔
      Guarded strategy on first ∧ Guarded strategy (switchAfter on first) second := by
  induction first generalizing on with
  | nil => exact ⟨fun hguarded => ⟨trivial, hguarded⟩, And.right⟩
  | cons call rest ih =>
      show call.Allowed strategy on ∧ Guarded strategy (call.switched on) (rest ++ second) ↔ _
      rw [ih]
      exact and_assoc.symm

theorem allowed_of_guarded {strategy : RateStrategy} {on : Bool} {past future : List Call}
    {call : Call} (hguarded : Guarded strategy on (past ++ call :: future)) :
    call.Allowed strategy (switchAfter on past) :=
  (guarded_append.mp hguarded).2.1

theorem Command.stops_of_setsRate {command : Command} (hrates : command.setsRate = true) :
    command.stops = false :=
  match command, hrates with
  | .request (.setRate _ _), _ => rfl

namespace Course

variable {strategy : RateStrategy} {before after : Bool} {command : Command} {calls : List Call}

theorem switchAfter_eq (hcourse : Course strategy before command calls after) :
    switchAfter before calls = after := by
  cases hcourse with
  | @passed _ call _ _ hpasses =>
      cases call with
      | wordWidth _ | kickTransmit => rfl
      | enable _ | rate _ | arm _ => cases hpasses
  | _ => rfl

theorem guarded (hcourse : Course strategy before command calls after) :
    Guarded strategy before calls := by
  cases hcourse with
  | silent _ _ => trivial
  | started _ _ => exact ⟨rfl, fun _ => rfl, trivial⟩
  | stopped _ => exact ⟨rfl, fun harmed => Bool.noConfusion harmed, trivial⟩
  | rated _ _ _ hoff => exact ⟨hoff, trivial⟩
  | restarted _ _ _ _ => exact ⟨rfl, fun _ => rfl, rfl, trivial⟩
  | rearmed _ _ _ => exact ⟨fun _ => rfl, trivial⟩
  | @passed _ call _ _ hpasses =>
      cases call with
      | wordWidth _ | kickTransmit => exact ⟨trivial, trivial⟩
      | enable _ | rate _ | arm _ => cases hpasses

/-- A turn that begins while the instance is off turns it on first, or neither turns it on nor
arms it. -/
theorem of_off (hcourse : Course strategy false command calls after) :
    (exists rest, calls = .enable true :: rest) ∨
      (after = false ∧ forall armed, .arm armed ∉ calls) := by
  cases hcourse with
  | started _ armed => exact .inl ⟨[.arm armed], rfl⟩
  | silent _ _ => exact .inr ⟨rfl, fun _ => List.not_mem_nil⟩
  | rated _ _ _ _ => exact .inr ⟨rfl, by simp⟩
  | @passed _ call _ _ hpasses =>
      refine .inr ⟨rfl, fun armed harmed => ?_⟩
      rw [← List.mem_singleton.mp harmed] at hpasses
      cases hpasses

theorem calls_of_stop (hcourse : Course strategy before command calls after)
    (hstops : command.stops = true) :
    calls = [] ∨ calls = [.enable false, .arm false] ∧ after = false := by
  cases hcourse with
  | silent _ _ => exact .inl rfl
  | stopped _ => exact .inr ⟨rfl, rfl⟩
  | passed _ hother _ =>
      rw [hstops] at hother
      cases hother
  | started _ _ | rated _ _ _ _ | restarted _ _ _ _ | rearmed _ _ _ => cases hstops

theorem switchAfter_of_rate (hcourse : Course strategy before command calls after)
    (hrates : command.setsRate = true) : after = before := by
  cases hcourse with
  | silent _ _ | rated _ _ _ _ | restarted _ _ _ _ | passed _ _ _ => rfl
  | started _ _ | rearmed _ _ _ => cases hrates
  | stopped hstops =>
      rw [Command.stops_of_setsRate hrates] at hstops
      cases hstops

theorem not_mem_of_hot_rate (hcourse : Course .hot before command calls after)
    (hrates : command.setsRate = true) (on : Bool) : .enable on ∉ calls := by
  cases hcourse with
  | silent _ _ => exact List.not_mem_nil
  | rated _ _ _ _ => simp
  | restarted _ _ _ hrestarts => cases hrestarts
  | started _ _ | rearmed _ _ _ => cases hrates
  | stopped hstops =>
      rw [Command.stops_of_setsRate hrates] at hstops
      cases hstops
  | passed _ _ hpasses =>
      intro hmem
      rw [← List.mem_singleton.mp hmem] at hpasses
      cases hpasses

end Course

/-!
# Turns along courses
-/

/-- Of the calls that turn an instance off, the switch comes first. -/
theorem after_switch {before after : List Call}
    (hcalls : [.enable false, .arm false] = before ++ .enable false :: after) :
    after = [.arm false] := by
  rcases before with _ | ⟨_, _ | ⟨_, before⟩⟩
  · exact (List.cons.inj hcalls).2.symm
  · cases hcalls
  · simp at hcalls

namespace Courses

variable {strategy : RateStrategy} {before after : Bool} {turns : List Turn}

theorem switchAfter_eq (hcourses : Courses strategy before turns after) :
    switchAfter before (Turn.callsOf turns) = after := by
  induction hcourses with
  | nil _ => rfl
  | cons hcourse _ ih =>
      show switchAfter _ (_ ++ Turn.callsOf _) = _
      rw [switchAfter_append, hcourse.switchAfter_eq, ih]

theorem guarded (hcourses : Courses strategy before turns after) :
    Guarded strategy before (Turn.callsOf turns) := by
  induction hcourses with
  | nil _ => trivial
  | cons hcourse _ ih =>
      refine guarded_append.mpr ⟨hcourse.guarded, ?_⟩
      rw [hcourse.switchAfter_eq]
      exact ih

/-- An instance that is off is turned on before anything is done to its interrupt. -/
theorem on_before_arm (hcourses : Courses strategy false turns after) {held later : List Call}
    {armed : Bool} (hcalls : Turn.callsOf turns = held ++ .arm armed :: later) :
    .enable true ∈ held := by
  induction turns generalizing held with
  | nil => cases (List.append_eq_nil_iff.mp hcalls.symm).2
  | cons turn turns ih =>
      cases hcourses with
      | cons hcourse hrest =>
          have hsplit : turn.calls ++ Turn.callsOf turns = held ++ .arm armed :: later := hcalls
          rcases hcourse.of_off with ⟨rest, hon⟩ | ⟨rfl, hunarmed⟩
          · rw [hon] at hsplit
            cases held with
            | nil => cases hsplit
            | cons call held =>
                rw [(List.cons.inj hsplit).1]
                exact List.mem_cons_self
          · -- The first turn leaves the instance off and arms nothing, so the place lies behind it.
            rcases List.append_eq_append_iff.mp hsplit with
              ⟨held, rfl, hlater⟩ | ⟨extra, hextra, hlater⟩
            · exact List.mem_append_right _ (ih hrest hlater)
            · cases extra with
              | nil =>
                  have hnow : Turn.callsOf turns = [] ++ .arm armed :: later := hlater.symm
                  exact absurd (ih hrest hnow) List.not_mem_nil
              | cons call extra =>
                  cases hlater
                  refine absurd ?_ (hunarmed armed)
                  rw [hextra]
                  exact List.mem_append_right _ List.mem_cons_self

/-- The turn at some place of a list, with the courses before and after it. -/
theorem at_turn {past future : List Turn} {turn : Turn}
    (hcourses : Courses strategy before (past ++ turn :: future) after) :
    exists middle next, Courses strategy before past middle ∧
      Course strategy middle turn.command turn.calls next ∧ Courses strategy next future after := by
  rcases hcourses.split with ⟨middle, hpast, hlater⟩
  cases hlater with
  | cons hcourse hfuture => exact ⟨middle, _, hpast, hcourse, hfuture⟩

theorem orderly (hcourses : Courses strategy false turns after) : Orderly strategy turns where
  alternates hcalls := by
    have hguarded := hcourses.guarded
    rw [hcalls] at hguarded
    exact allowed_of_guarded hguarded
  armed_while_on hcalls := by
    have hguarded := hcourses.guarded
    rw [hcalls] at hguarded
    exact allowed_of_guarded hguarded rfl
  stop_disarms hturns hstops hcalls := by
    rw [hturns] at hcourses
    rcases hcourses.at_turn with ⟨middle, next, _, hcourse, hfuture⟩
    rcases hcourse.calls_of_stop hstops with hnone | ⟨hboth, rfl⟩
    · rw [hnone] at hcalls
      cases (List.append_eq_nil_iff.mp hcalls.symm).2
    · refine ⟨?_, fun held later armed hlater => hfuture.on_before_arm hlater⟩
      rw [hboth] at hcalls
      exact after_switch hcalls
  restart_rates_off hrestarts _ _ _ hcalls := by
    have hguarded := hcourses.guarded
    rw [hcalls] at hguarded
    exact allowed_of_guarded hguarded hrestarts
  rate_keeps_switch hturns hrates := by
    rw [hturns] at hcourses
    rcases hcourses.at_turn with ⟨middle, next, hpast, hcourse, _⟩
    have hkept := hcourse.switchAfter_of_rate hrates
    rw [(hpast.append (.cons hcourse (.nil next))).switchAfter_eq, hpast.switchAfter_eq, hkept]
  hot_rates_running hhot _ hturn hrates on := by
    rcases List.append_of_mem hturn with ⟨past, future, rfl⟩
    rcases hcourses.at_turn with ⟨_, _, _, hcourse, _⟩
    rw [hhot] at hcourse
    exact hcourse.not_mem_of_hot_rate hrates on

end Courses

/-!
# Runs are orderly
-/

section Runs

variable {η : Type} [Inspectable η] {ω : Type} [Line ω] {n slots : Nat}

/-- In every run over hardware that always asks for rates in the same way, the calls to an instance
that is off at first are orderly, as all are in a registry just built.  Watching the calls does not
change the run, and its turns hold all of them. -/
theorem run_calls_orderly {start : Registry η Nat n slots} {i : Fin n}
    (hoff : (start.slotAt i).state ≠ .enabled)
    (hlasting : Lasting (Hardware.rateStrategy : η -> RateStrategy)) (moves : List (Move ω)) :
    let final := Move.runAll moves start.watched
    let turns := Move.turnsOf i moves start.watched
    final.unwatched = Move.runAll moves start ∧
      final.hardware.callsOn i = Turn.callsOf turns ∧
      Orderly (Hardware.rateStrategy start.hardware) turns := by
  intro final turns
  have hstrategy : Hardware.rateStrategy start.watched.hardware =
      Hardware.rateStrategy start.hardware := rfl
  have htraced := Registry.traced_of_run (Watched.lasting hlasting) moves hstrategy i
  have hcourses := htraced.courses
  have hrests : start.watched.runs i = false := decide_eq_false hoff
  rw [hrests] at hcourses
  exact ⟨Registry.unwatched_runAll moves start, htraced.calls, hcourses.orderly⟩

/-- A timer that restarts for a new rate, is turned off by its own callback and then on again. -/
theorem run_calls_orderly_of_restarted_timer :
    let start : Registry (SimulatedHardware 1) Nat 1 0 :=
      .unbuffered { profile := .timer, clock := 16000000, strategy := .restart }
    let device := start.handle 0
    let moves : List (Move BareLine) :=
      [.command (.request .allocate), .command (.request (.bind device (some 0))),
        .command (.request (.enable device)), .command (.request (.setRate device (.hertz 1000))),
        .interrupt 0 {} [[.request (.disable device)]], .command (.request (.enable device))]
    let divisor : Divisor :=
      { primary := 1, secondary := 16000, raw := 16000, clock := 16000000, frequency := 1000 }
    let turns := Move.turnsOf 0 moves start.watched
    Turn.callsOf turns =
      [.enable true, .arm true, .enable false, .rate divisor, .enable true,
        .enable false, .arm false, .enable true, .arm true] ∧
      Orderly .restart turns := by
  intro start device moves divisor turns
  have hlasting : Lasting (Hardware.rateStrategy : SimulatedHardware 1 -> RateStrategy) :=
    SimulatedHardware.lasting_rateStrategy
  have hoff : (start.slotAt 0).state ≠ .enabled := by decide
  rcases run_calls_orderly hoff hlasting moves with ⟨_, hcalls, horderly⟩
  refine ⟨?_, horderly⟩
  rw [← hcalls]
  decide +kernel

end Runs
end PeripheralBank
