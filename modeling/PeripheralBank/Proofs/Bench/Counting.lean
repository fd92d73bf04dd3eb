import PeripheralBank.Proofs.Bench.Agreement
import PeripheralBank.Proofs.Bench.Script
import PeripheralBank.Proofs.Simulation.Profile

/-!
# Counters count the time that an instance runs

The counter of simulated hardware stands at the value that was last set and the ticks that passed
since then while the instance was enabled, around at thirty-two bits.  Ticks of the time that it was
not enabled do not count, and neither does what else is done to it: it may be given a new rate, be
turned off and on, or be given back and opened again.
-/

namespace PeripheralBank

/-!
# Commands of a run
-/

section Issued

variable {η : Type} [Inspectable η] {ω : Type} {n slots : Nat}

/-- Commands, each with the registry that it is run on. -/
def Command.issuedOf :
    List Command -> Registry η Nat n slots -> List (Command × Registry η Nat n slots)
  | [], _ => []
  | command :: rest, registry => (command, registry) :: issuedOf rest (command.run registry).2

/-- Commands of a move, those of a callback included. -/
def Move.issued (move : Move ω) (registry : Registry η Nat n slots) :
    List (Command × Registry η Nat n slots) :=
  match move with
  | command issued => [(issued, registry)]
  | claimInterrupts | releaseInterrupts => []
  | interrupt index _ scripts =>
      Command.issuedOf (registry.script scripts index) (registry.entered index)

def Move.issuedOf [Line ω] :
    List (Move ω) -> Registry η Nat n slots -> List (Command × Registry η Nat n slots)
  | [], _ => []
  | move :: rest, registry => move.issued registry ++ issuedOf rest (move.run registry)

end Issued

/-!
# Ticks that count
-/

/-- The value that a counter was last set to, zero if it never was, and the ticks since then that
count. -/
structure Tally where
  base : UInt32 := 0
  ticks : List UInt32 := []

namespace Tally

def tick (tally : Tally) (ticks : UInt32) : Tally :=
  { tally with ticks := tally.ticks ++ [ticks] }

/-- The value and all ticks together, which need not fit into a word. -/
def sum (tally : Tally) : Nat :=
  tally.ticks.foldl (fun sum ticks => sum + ticks.toNat) tally.base.toNat

def Shows (tally : Tally) (counter : UInt32) : Prop :=
  counter.toNat = tally.sum % UInt32.size

/-- Setting the counter anew starts a new tally, if it was granted. -/
def answered (index : Nat) (tally : Tally) : Request Nat -> Except Failure Reply -> Tally
  | .setCounter handle value, .ok _ => if handle.index = index then { base := value } else tally
  | _, _ => tally

/-- The tally of an instance after one more command.  Ticks count if they are made while the
instance is enabled. -/
def note {η : Type} [Inspectable η] {n slots : Nat} (i : Fin n) (tally : Tally)
    (issued : Command × Registry η Nat n slots) : Tally :=
  match issued.1 with
  | .request asked => tally.answered i asked (asked.run issued.2).1
  | .advance index ticks =>
      if index = i ∧ (issued.2.slotAt i).state = .enabled then tally.tick ticks else tally
  | _ => tally

def noteAll {η : Type} [Inspectable η] {n slots : Nat} (i : Fin n)
    (issued : List (Command × Registry η Nat n slots)) (tally : Tally) : Tally :=
  issued.foldl (note i) tally

theorem noteAll_append {η : Type} [Inspectable η] {n slots : Nat} (i : Fin n)
    (first second : List (Command × Registry η Nat n slots)) (tally : Tally) :
    tally.noteAll i (first ++ second) = (tally.noteAll i first).noteAll i second :=
  List.foldl_append

theorem shows_base (value : UInt32) : Shows { base := value } value :=
  (Nat.mod_eq_of_lt value.toNat_lt).symm

theorem Shows.tick {tally : Tally} {counter : UInt32} (hshows : tally.Shows counter)
    (ticks : UInt32) : (tally.tick ticks).Shows (counter + ticks) := by
  have hsum : (tally.tick ticks).sum = tally.sum + ticks.toNat := by
    simp only [sum, Tally.tick, List.foldl_append, List.foldl_cons, List.foldl_nil]
  unfold Shows at hshows ⊢
  rw [hsum, UInt32.toNat_add, hshows]
  exact Nat.mod_add_mod _ _ _

variable (index : Nat) (tally : Tally)

theorem answered_failed (request : Request Nat) (failure : Failure) :
    tally.answered index request (.error failure) = tally := by
  cases request with
  | _ => rfl

theorem answered_told {request : Request Nat} (hasks : request.asks = true) (reply : Reply) :
    tally.answered index request (.ok reply) = tally := by
  cases request with
  | setCounter _ _ => cases hasks
  | _ => rfl

end Tally

/-!
# Changes that leave counters alone
-/

namespace Registry

section Counters

variable {κ : Type} {m n slots : Nat} (registry : Registry (SimulatedHardware m) κ n slots)
  (i j : Fin n)

theorem counter_call (call : Call) :
    ((registry.call i call).registersAt j).counter = (registry.registersAt j).counter := by
  rw [registersAt_call]
  split
  · cases call with
    | _ => rfl
  · rfl

theorem counter_switchOff :
    ((registry.switchOff i).registersAt j).counter = (registry.registersAt j).counter := by
  rw [registersAt_switchOff]
  split
  · rfl
  · rfl

theorem counter_switchOn :
    ((registry.switchOn i).registersAt j).counter = (registry.registersAt j).counter := by
  rw [registersAt_switchOn]
  split
  · rfl
  · rfl

/-- No tick is lost or won while an instance is turned off for the write of its divider. -/
theorem counter_adoptRate (rate : Rate) (divisor : Divisor) :
    ((registry.adoptRate i rate divisor).registersAt j).counter =
      (registry.registersAt j).counter := by
  unfold adoptRate program
  split
  · rw [counter_call, counter_call, counter_call]
    rfl
  · rw [counter_call]
    rfl

theorem counter_rebind (callback : Option κ) :
    ((registry.rebind i callback).registersAt j).counter = (registry.registersAt j).counter := by
  rw [registersAt_rebind]
  split
  · rfl
  · rfl

theorem counter_adoptWidth (bits : UInt8) :
    ((registry.adoptWidth i bits).registersAt j).counter = (registry.registersAt j).counter := by
  rw [registersAt_adoptWidth]
  split
  · rfl
  · rfl

theorem counter_queue (buffers : Buffers slots) (words : List UInt16) :
    ((registry.queue i buffers words).2.registersAt j).counter =
      (registry.registersAt j).counter := by
  rw [registersAt_queue]
  split
  · rfl
  · rfl

/-!
# Reading and setting counters
-/

theorem readCounter_eq :
    Hardware.readCounter registry.hardware i =
      (if registry.profile.hasCounter then .ok (registry.registersAt i).counter
        else refuse .unsupported, registry.hardware) := by
  have hin : i.val < m := (registry.place i).isLt
  show (SimulatedHardware.readCounter _ _, _) = _
  unfold SimulatedHardware.readCounter
  rw [dif_pos hin]
  rfl

theorem writeCounter_fst (value : UInt32) :
    (Hardware.writeCounter registry.hardware i value).1 =
      if registry.profile.hasCounter then .ok () else refuse .unsupported := by
  have hin : i.val < m := (registry.place i).isLt
  show (SimulatedHardware.writeCounter _ _ _).1 = _
  unfold SimulatedHardware.writeCounter
  rw [if_pos hin]
  split
  · rename_i hcounts
    exact (if_pos hcounts).symm
  · rename_i hcounts
    exact (if_neg hcounts).symm

end Counters

/-!
# Requests
-/

section Requests

variable {m n slots : Nat} {registry after : Registry (SimulatedHardware m) Nat n slots}
  {i j : Fin n} {tally : Tally}

theorem shows_writeCounter (handle : Handle) (hindex : handle.index = i) (value : UInt32)
    (hshows : tally.Shows (registry.registersAt j).counter) :
    (tally.answered j (.setCounter handle value)
        ((Hardware.writeCounter registry.hardware i value).1.map fun _ => .done)).Shows
      ((registry.setHardware
        (Hardware.writeCounter registry.hardware i value).2).registersAt j).counter := by
  rw [writeCounter_fst, registersAt_writeCounter]
  cases hcounts : registry.profile.hasCounter with
  | false =>
      have hkept : ¬ (i = j ∧ registry.hardware.profile.hasCounter = true) := by
        rintro ⟨_, hcounts'⟩
        exact Bool.false_ne_true (hcounts.symm.trans hcounts')
      rw [if_neg hkept]
      exact hshows
  | true =>
      have hcounts' : registry.hardware.profile.hasCounter = true := hcounts
      simp only [Tally.answered, Except.map, hindex, Fin.val_inj, hcounts', and_true, if_true]
      by_cases hsame : i = j
      · rw [if_pos hsame, if_pos hsame]
        exact Tally.shows_base value
      · rw [if_neg hsame, if_neg hsame]
        exact hshows

theorem shows_of_effect {request : Request Nat} {answer : Except Failure Reply}
    (heffect : request.Effect registry answer after)
    (hshows : tally.Shows (registry.registersAt j).counter) :
    (tally.answered j request answer).Shows (after.registersAt j).counter := by
  cases heffect with
  | failed request failure =>
      rw [Tally.answered_failed]
      exact hshows
  | told reply hasks =>
      rw [Tally.answered_told j tally hasks]
      exact hshows
  | allocated _ | acquired _ _ | stayedOn _ _ | drained _ _ | counted _ => exact hshows
  | waited _ _ | turnedOff _ =>
      rw [counter_switchOff]
      exact hshows
  | closed _ _ =>
      rw [registersAt_wipe, counter_switchOff]
      exact hshows
  | turnedOn _ _ =>
      rw [counter_switchOn]
      exact hshows
  | rated _ _ =>
      rw [counter_adoptRate]
      exact hshows
  | bound _ callback =>
      rw [counter_rebind]
      exact hshows
  | widened _ _ =>
      rw [counter_adoptWidth]
      exact hshows
  | @recounted handle k hheld value =>
      exact shows_writeCounter handle (index_of_locate (locate_of_locateOpen hheld).1) value hshows
  | wroteBytes _ _ _ | wroteWords _ _ =>
      rw [counter_queue]
      exact hshows
  | readBytes _ _ _ | readWords _ _ => exact hshows
  | kicked _ _ =>
      rw [counter_call]
      exact hshows

end Requests

/-!
# Commands and interrupts
-/

section Runs

variable {ω : Type} [Line ω] {m n slots : Nat}
  {registry : Registry (SimulatedHardware m) Nat n slots} {i j : Fin n} {profile : Profile}
  {tally : Tally}

/-- The counter of an instance shows a tally.  Lifecycle and hardware agree, so that it goes on to
do so. -/
structure CountsAt (registry : Registry (SimulatedHardware m) Nat n slots) (j : Fin n)
    (profile : Profile) (tally : Tally) : Prop where
  made : registry.profile = profile
  agrees (k : Fin n) : registry.AgreesAt k
  shows : tally.Shows (registry.registersAt j).counter

theorem CountsAt.setInService (hcounts : registry.CountsAt j profile tally) (running : Bool) :
    (registry.setInService i running).CountsAt j profile tally where
  made := hcounts.made
  agrees k := agreesAt_of_kept (hcounts.agrees k) rfl rfl rfl rfl rfl
  shows := hcounts.shows

theorem CountsAt.entered (hcounts : registry.CountsAt j profile tally) (index : Nat) :
    (registry.entered index).CountsAt j profile tally := by
  unfold Registry.entered
  split
  · exact hcounts.setInService true
  · exact hcounts

/-- Ticks reach the counter of an instance exactly while it is enabled. -/
theorem CountsAt.shows_advance (hcounts : registry.CountsAt j profile tally) (index : Nat)
    (ticks : UInt32) :
    (if index = j ∧ (registry.slotAt j).state = .enabled then tally.tick ticks else tally).Shows
      ((registry.setHardware
        (Inspectable.advance index ticks registry.hardware).2).registersAt j).counter := by
  have hagrees := (hcounts.agrees j).enabled_iff
  have hshows := hcounts.shows
  rw [registersAt_advance]
  by_cases hsame : index = j
  · unfold Registers.ticked
    by_cases hruns : (registry.slotAt j).state = .enabled
    · rw [if_pos ⟨hsame, hruns⟩, if_pos hsame, if_pos (hagrees.mpr hruns)]
      exact hshows.tick ticks
    · rw [if_neg fun hboth => hruns hboth.2, if_pos hsame,
        if_neg fun hon => hruns (hagrees.mp hon)]
      exact hshows
  · rw [if_neg hsame, if_neg fun hboth => hsame hboth.1]
    exact hshows

theorem CountsAt.command (hcounts : registry.CountsAt j profile tally) (command : Command) :
    (command.run registry).2.CountsAt j profile (tally.note j (command, registry)) where
  made := (SimulatedHardware.lasting_profile.of_path
    (path_of_command (ω := BareLine) command registry)).trans hcounts.made
  agrees := path_preserves (P := fun registry => forall k, registry.AgreesAt k) agreesAt_of_step
    (path_of_command (ω := BareLine) command registry) hcounts.agrees
  shows := by
    cases command with
    | request asked => exact shows_of_effect (asked.effect_run registry) hcounts.shows
    | snapshot device =>
        exact shows_of_effect ((Request.counter device).effect_run registry) hcounts.shows
    | advance index ticks => exact hcounts.shows_advance index ticks
    | handle _ | registers _ | faults | events | clearEvents | setClock _ => exact hcounts.shows

theorem CountsAt.commands (commands : List Command) (hcounts : registry.CountsAt j profile tally) :
    (Command.runAll commands registry).2.CountsAt j profile
      (tally.noteAll j (Command.issuedOf commands registry)) := by
  induction commands generalizing registry tally with
  | nil => exact hcounts
  | cons command rest ih => exact ih (hcounts.command command)

theorem CountsAt.move (hcounts : registry.CountsAt j profile tally) (move : Move ω) :
    (move.run registry).CountsAt j profile (tally.noteAll j (move.issued registry)) where
  made :=
    (SimulatedHardware.lasting_profile.of_path (path_of_move move registry)).trans hcounts.made
  agrees := path_preserves (P := fun registry => forall k, registry.AgreesAt k) agreesAt_of_step
    (path_of_move move registry) hcounts.agrees
  shows := by
    cases move with
    | command issued => exact (hcounts.command issued).shows
    | claimInterrupts | releaseInterrupts => exact hcounts.shows
    | interrupt index line scripts =>
        have hcommands := (hcounts.entered index).commands (registry.script scripts index)
        have hhardware := (interrupt_as_script scripts index line registry).left
        have hregisters :
            (registry.interrupt (Bench.invoke scripts) index (line, [])).2.2.registersAt j =
              (Command.runAll (registry.script scripts index)
                (registry.entered index)).2.registersAt j :=
          congrArg (fun hardware => hardware.registers.get (registry.place j)) hhardware
        have hshows := hcommands.shows
        rw [← hregisters] at hshows
        exact hshows

/-!
# Runs
-/

theorem CountsAt.run (moves : List (Move ω)) (hcounts : registry.CountsAt j profile tally) :
    (Move.runAll moves registry).CountsAt j profile
      (tally.noteAll j (Move.issuedOf moves registry)) := by
  induction moves generalizing registry tally with
  | nil => exact hcounts
  | cons move rest ih =>
      rw [Move.issuedOf, Tally.noteAll_append]
      exact ih (hcounts.move move)

/-- Each command of a list finds a registry whose counter shows the tally of those before. -/
def Follows (j : Fin n) (profile : Profile) :
    Tally -> List (Command × Registry (SimulatedHardware m) Nat n slots) -> Prop
  | _, [] => True
  | tally, issued :: rest =>
      issued.2.CountsAt j profile tally ∧ Follows j profile (tally.note j issued) rest

theorem follows_append_iff
    {first second : List (Command × Registry (SimulatedHardware m) Nat n slots)} :
    Follows j profile tally (first ++ second) ↔
      Follows j profile tally first ∧ Follows j profile (tally.noteAll j first) second := by
  induction first generalizing tally with
  | nil => exact ⟨fun hsecond => ⟨trivial, hsecond⟩, fun hboth => hboth.right⟩
  | cons issued rest ih =>
      constructor
      · rintro ⟨hnow, hlater⟩
        exact ⟨⟨hnow, (ih.mp hlater).left⟩, (ih.mp hlater).right⟩
      · rintro ⟨⟨hnow, hlater⟩, hsecond⟩
        exact ⟨hnow, ih.mpr ⟨hlater, hsecond⟩⟩

theorem CountsAt.follows_commands (commands : List Command)
    (hcounts : registry.CountsAt j profile tally) :
    Follows j profile tally (Command.issuedOf commands registry) := by
  induction commands generalizing registry tally with
  | nil => trivial
  | cons command rest ih => exact ⟨hcounts, ih (hcounts.command command)⟩

theorem CountsAt.follows (moves : List (Move ω)) (hcounts : registry.CountsAt j profile tally) :
    Follows j profile tally (Move.issuedOf moves registry) := by
  induction moves generalizing registry tally with
  | nil => trivial
  | cons move rest ih =>
      refine follows_append_iff.mpr ⟨?_, ih (hcounts.move move)⟩
      cases move with
      | command issued => exact ⟨hcounts, trivial⟩
      | claimInterrupts | releaseInterrupts => trivial
      | interrupt index _ scripts => exact (hcounts.entered index).follows_commands _

theorem countsAt_of_reset (hreset : registry.hardware.registers = Vector.replicate m {})
    (hunused : forall k, (registry.slotAt k).state = .unused) :
    registry.CountsAt j registry.profile {} where
  made := rfl
  agrees k := by
    have hregisters := registersAt_of_reset hreset k
    exact agreesAt_of_off (by rw [hregisters]) (by rw [hregisters]) (by simp [hunused k])
  shows := by
    rw [registersAt_of_reset hreset j]
    exact Tally.shows_base 0

/-!
# What is told of the counter
-/

/-- A counter reads as its tally.  Where the family has no counter, there is none to read or set. -/
structure ShowsCounter (registry : Registry (SimulatedHardware m) Nat n slots) (handle : Handle)
    (hasCounter : Bool) (tally : Tally) : Prop where
  counts (hcounter : hasCounter = true) :
    exists value, (registry.counter handle).1 = .ok value ∧
      value.toNat = tally.sum % UInt32.size
  unsupported (hnone : hasCounter = false) :
    (registry.counter handle).1 = refuse .unsupported ∧
      forall value, (registry.setCounter handle value).1 = refuse .unsupported

theorem CountsAt.showsCounter {handle : Handle} (hcounts : registry.CountsAt j profile tally)
    (hheld : registry.locateOpen handle = .ok j) :
    registry.ShowsCounter handle profile.hasCounter tally where
  counts hcounter := by
    rw [← hcounts.made] at hcounter
    refine ⟨(registry.registersAt j).counter, ?_, hcounts.shows⟩
    simp only [Registry.counter, hheld, readCounter_eq, hcounter, if_true]
  unsupported hnone := by
    rw [← hcounts.made] at hnone
    constructor
    · simp only [Registry.counter, hheld, readCounter_eq, hnone, Bool.false_eq_true, if_false]
    · intro value
      simp only [setCounter, hheld, writeCounter_fst, hnone, Bool.false_eq_true, if_false]

end Runs

end Registry

/-- In every run from hardware that was reset, the counter of a held instance reads as the value
that was last set, with the ticks since then that were made while the instance was enabled, around
at thirty-two bits.  It does so after the run and at every command in it, those of callbacks
included. -/
theorem counter_counts_enabled_ticks {ω : Type} [Line ω] {m n slots : Nat}
    {hardware : SimulatedHardware m} (hreset : hardware.registers = Vector.replicate m {})
    (buffers : Option (Vector (Buffers slots) n)) (hbelow : n < Handle.nullIndex)
    (hdriven : n ≤ Hardware.instances (SimulatedHardware m)) (moves : List (Move ω))
    (handle : Handle) (i : Fin n) :
    let start : Registry (SimulatedHardware m) Nat n slots := .build hardware buffers hbelow hdriven
    let final := Move.runAll moves start
    let issued := Move.issuedOf moves start
    (final.locateOpen handle = .ok i ->
      final.ShowsCounter handle hardware.profile.hasCounter (Tally.noteAll i issued {})) ∧
    forall before now after, issued = before ++ now :: after ->
      now.2.locateOpen handle = .ok i ->
        now.2.ShowsCounter handle hardware.profile.hasCounter (Tally.noteAll i before {}) := by
  intro start final issued
  have hunused (k : Fin n) : (start.slotAt k).state = .unused := by
    simp [start, Registry.slotAt, Registry.build]
  have hstart : start.CountsAt i hardware.profile {} := Registry.countsAt_of_reset hreset hunused
  constructor
  · exact (hstart.run moves).showsCounter
  · intro before now after hissued
    have hfollows : Registry.Follows i hardware.profile {} issued := hstart.follows moves
    rw [hissued] at hfollows
    exact (Registry.follows_append_iff.mp hfollows).right.left.showsCounter

/-- Five ticks come before the timer runs, and a hundred after it was given back.  Those in between
count, in a callback and after a change of the rate too, and take the counter around. -/
theorem counter_counts_enabled_ticks_of_reopened_timer :
    let hardware : SimulatedHardware 1 :=
      { profile := .timer, clock := 8000000, strategy := .restart }
    let buffers : Option (Vector (Buffers 1) 1) := none
    let start : Registry (SimulatedHardware 1) Nat 1 1 :=
      .build hardware buffers (by decide) SimulatedHardware.one_driven
    let device := start.handle 0
    let moves : List (Move BareLine) :=
      [.command (.request .allocate), .command (.advance 0 5),
        .command (.request (.setCounter device 4294967294)),
        .command (.request (.enable device)), .command (.advance 0 3),
        .command (.request (.setRate device (.hertz 1000))), .command (.advance 0 4),
        .command (.request (.bind device (some 0))), .interrupt 0 {} [[.advance 0 7]],
        .command (.request (.close device)), .command (.advance 0 100),
        .command (.request .allocate)]
    exists value, ((Move.runAll moves start).counter device).1 = .ok value ∧ value.toNat = 12 := by
  intro hardware buffers start device moves
  have hheld : (Move.runAll moves start).locateOpen device = .ok 0 := by decide +kernel
  have htally :
      (Tally.noteAll (0 : Fin 1) (Move.issuedOf moves start) {}).sum % UInt32.size = 12 := by
    decide +kernel
  have hreset : hardware.registers = Vector.replicate 1 {} := rfl
  rcases counter_counts_enabled_ticks hreset buffers (by decide) SimulatedHardware.one_driven moves
    device 0 with ⟨hend, _⟩
  rcases (hend hheld).counts rfl with ⟨value, hread, hvalue⟩
  exact ⟨value, hread, hvalue.trans htally⟩

end PeripheralBank
