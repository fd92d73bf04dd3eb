import PeripheralBank.Proofs.Simulation.Profile
import PeripheralBank.Proofs.Simulation.Registers

/-!
# Touches of one instance

Whatever a registry or a hand from outside does to one instance of simulated hardware is a list of
touches: calls, counts that are written, and ticks.  A touch changes the registers of its instance
and nothing else, but that it may count a fault and record a call.  So touches of two instances
commute, up to the order of the record.
-/

namespace PeripheralBank

inductive Touch where
  | call (made : Call)
  | counter (value : UInt32)
  | ticks (count : UInt32)

namespace Touch

open SimulatedHardware

variable {m : Nat}

def run (place : Nat) (touch : Touch) (hardware : SimulatedHardware m) : SimulatedHardware m :=
  match touch with
  | call made => hardware.perform place made
  | counter value => (hardware.writeCounter place value).2
  | ticks count => (hardware.advance place count).2

def runAll (place : Nat) : List Touch -> SimulatedHardware m -> SimulatedHardware m
  | [], hardware => hardware
  | touch :: rest, hardware => runAll place rest (touch.run place hardware)

/-- What a touch makes of the registers of its instance. -/
def change (profile : Profile) (registers : Registers) : Touch -> Registers
  | call made => registers.after made
  | counter value =>
      if profile.hasCounter = true then { registers with counter := value } else registers
  | ticks count => registers.ticked count

/-- The faults that a touch counts. -/
def faults (profile : Profile) : Touch -> Nat
  | call (.rate divisor) => if accepts profile divisor then 0 else 1
  | _ => 0

def faultsOf (profile : Profile) : List Touch -> Nat
  | [] => 0
  | touch :: rest => touch.faults profile + faultsOf profile rest

/-- The calls that a touch records where there is room. -/
def events (instances place : Nat) : Touch -> List Event
  | call .kickTransmit | counter _ | ticks _ => []
  | call made => if place < instances then [⟨place, made⟩] else []

/-- A record after some more calls, of which it takes as many as it has room for. -/
def extend (record calls : List Event) : List Event :=
  record ++ calls.take (maxEvents - record.length)

theorem extend_nil (record : List Event) : extend record [] = record := by
  rw [extend, List.take_nil, List.append_nil]

theorem extend_append (record first second : List Event) :
    extend record (first ++ second) = extend (extend record first) second := by
  unfold extend
  rw [List.append_assoc, List.take_append, List.length_append, List.length_take]
  congr 3
  lia

theorem length_extend (record calls : List Event) :
    (extend record calls).length =
      record.length + min (maxEvents - record.length) calls.length := by
  rw [extend, List.length_append, List.length_take]

/-- A record that is not full has taken all calls. -/
theorem extend_of_room {record calls : List Event}
    (hroom : record.length + calls.length ≤ maxEvents) :
    extend record calls = record ++ calls := by
  rw [extend, List.take_of_length_le (by lia)]

/-!
# What stands beside the registers
-/

/-- The clock, the faults and the record. -/
def ledger (hardware : SimulatedHardware m) : UInt32 × Nat × List Event :=
  (hardware.clock, hardware.faults, hardware.events)

section Ledger

variable (hardware : SimulatedHardware m) (place : Nat)

theorem ledger_modify (update : Registers -> Registers) :
    ledger (hardware.modify place update) = ledger hardware := by
  unfold SimulatedHardware.modify
  split
  · rfl
  · rfl

theorem ledger_record (event : Event) :
    ledger (hardware.record event) =
      (hardware.clock, hardware.faults, extend hardware.events [event]) := by
  unfold SimulatedHardware.record extend
  by_cases hroom : hardware.events.length < maxEvents
  · rw [if_pos hroom, List.take_of_length_le (Nat.sub_pos_of_lt hroom)]
    rfl
  · rw [if_neg hroom, Nat.sub_eq_zero_of_le (Nat.not_lt.mp hroom), List.take_zero,
      List.append_nil]
    rfl

theorem ledger_modifyRecorded (made : Call) (update : Registers -> Registers) :
    ledger (hardware.modifyRecorded place made update) =
      (hardware.clock, hardware.faults,
        extend hardware.events (if place < m then [⟨place, made⟩] else [])) := by
  have hmodified := ledger_modify hardware place update
  unfold SimulatedHardware.modifyRecorded
  split
  · rw [ledger_record]
    exact congrArg (fun kept => (kept.1, kept.2.1, extend kept.2.2 [⟨place, made⟩])) hmodified
  · rw [extend_nil]
    rfl

theorem ledger_judge (divisor : Divisor) :
    ledger (hardware.judge divisor) =
      (hardware.clock, hardware.faults + faults hardware.profile (.call (.rate divisor)),
        hardware.events) := by
  unfold SimulatedHardware.judge
  by_cases haccepts : accepts hardware.profile divisor = true
  · simp only [if_pos haccepts, faults]
    rfl
  · simp only [if_neg haccepts, faults]
    rfl

end Ledger

/-!
# What a touch answers
-/

section Answers

variable (first second : SimulatedHardware m) (place : Nat)

/-- Whether a counter is there to be written depends on the profile alone. -/
theorem writeCounter_fst (hprofile : first.profile = second.profile) (value : UInt32) :
    (first.writeCounter place value).1 = (second.writeCounter place value).1 := by
  unfold writeCounter
  rw [hprofile]
  split
  · split
    · rfl
    · rfl
  · rfl

theorem advance_fst (ticks : UInt32) :
    (first.advance place ticks).1 = (second.advance place ticks).1 := by
  unfold advance
  split
  · rfl
  · rfl

end Answers

/-!
# One touch
-/

section One

variable (place : Nat) (touch : Touch) (hardware : SimulatedHardware m)

theorem make_run : (touch.run place hardware).make = hardware.make := by
  cases touch with
  | call made => exact hardware.make_perform place made
  | counter value => exact hardware.make_writeCounter place value
  | ticks count => exact hardware.make_advance place count

theorem get_run (j : Fin m) :
    (touch.run place hardware).registers.get j =
      if place = j then touch.change hardware.profile (hardware.registers.get j)
      else hardware.registers.get j := by
  cases touch with
  | call made => exact hardware.get_perform j place made
  | counter value =>
      refine (hardware.get_writeCounter j place value).trans ?_
      by_cases hsame : place = j
      · simp [hsame, change]
      · simp [hsame]
  | ticks count => exact hardware.get_advance j place count

theorem ledger_run :
    ledger (touch.run place hardware) =
      (hardware.clock, hardware.faults + touch.faults hardware.profile,
        extend hardware.events (touch.events m place)) := by
  cases touch with
  | call made =>
      cases made with
      | enable on => exact ledger_modifyRecorded hardware place _ _
      | arm on => exact ledger_modifyRecorded hardware place _ _
      | wordWidth bits => exact ledger_modifyRecorded hardware place _ _
      | kickTransmit =>
          refine (ledger_modify hardware place _).trans ?_
          rw [events, extend_nil]
          rfl
      | rate divisor =>
          refine (ledger_modifyRecorded (hardware.judge divisor) place _ _).trans ?_
          exact congrArg (fun kept =>
            (kept.1, kept.2.1, extend kept.2.2 (events m place (.call (.rate divisor)))))
            (ledger_judge hardware divisor)
  | counter value =>
      rw [events, extend_nil]
      simp only [run, writeCounter]
      split
      · split
        · exact ledger_modify hardware place _
        · rfl
      · rfl
  | ticks count =>
      rw [events, extend_nil]
      simp only [run, advance]
      split
      · exact ledger_modify hardware place _
      · rfl

end One

/-!
# Many touches
-/

section Many

variable (place : Nat) (touches : List Touch) (hardware : SimulatedHardware m)

theorem runAll_append (first second : List Touch) :
    runAll place (first ++ second) hardware =
      runAll place second (runAll place first hardware) := by
  induction first generalizing hardware with
  | nil => rfl
  | cons touch rest ih => exact ih (touch.run place hardware)

theorem make_runAll : (runAll place touches hardware).make = hardware.make := by
  induction touches generalizing hardware with
  | nil => rfl
  | cons touch rest ih => exact (ih _).trans (make_run place touch hardware)

theorem profile_runAll : (runAll place touches hardware).profile = hardware.profile :=
  congrArg Prod.fst (make_runAll place touches hardware)

theorem get_runAll (j : Fin m) :
    (runAll place touches hardware).registers.get j =
      if place = j then touches.foldl (change hardware.profile) (hardware.registers.get j)
      else hardware.registers.get j := by
  induction touches generalizing hardware with
  | nil => exact (ite_self _).symm
  | cons touch rest ih =>
      have hprofile : (touch.run place hardware).profile = hardware.profile :=
        congrArg Prod.fst (make_run place touch hardware)
      refine (ih _).trans ?_
      rw [hprofile, get_run]
      split
      · rfl
      · rfl

theorem ledger_runAll :
    ledger (runAll place touches hardware) =
      (hardware.clock, hardware.faults + faultsOf hardware.profile touches,
        extend hardware.events (touches.flatMap (events m place))) := by
  induction touches generalizing hardware with
  | nil =>
      rw [List.flatMap_nil, extend_nil]
      rfl
  | cons touch rest ih =>
      have hprofile : (touch.run place hardware).profile = hardware.profile :=
        congrArg Prod.fst (make_run place touch hardware)
      have htouched := ledger_run place touch hardware
      refine (ih _).trans ?_
      rw [hprofile]
      rw [faultsOf, List.flatMap_cons, extend_append, ← Nat.add_assoc]
      exact congrArg
        (fun kept => (kept.1, kept.2.1 + faultsOf hardware.profile rest,
          extend kept.2.2 (rest.flatMap (events m place)))) htouched

theorem clock_runAll : (runAll place touches hardware).clock = hardware.clock :=
  congrArg Prod.fst (ledger_runAll place touches hardware)

theorem faults_runAll :
    (runAll place touches hardware).faults =
      hardware.faults + faultsOf hardware.profile touches :=
  congrArg (·.2.1) (ledger_runAll place touches hardware)

theorem events_runAll :
    (runAll place touches hardware).events =
      extend hardware.events (touches.flatMap (events m place)) :=
  congrArg (·.2.2) (ledger_runAll place touches hardware)

end Many

/-!
# Touches of two instances
-/

section Two

variable {place other : Nat} (first second : List Touch) (hardware : SimulatedHardware m)

/-- Touches of two instances commute, but for the record. -/
theorem runAll_comm (hapart : place ≠ other) :
    { runAll other second (runAll place first hardware) with events := [] } =
      { runAll place first (runAll other second hardware) with events := [] } := by
  have hmake : (runAll other second (runAll place first hardware)).make =
      (runAll place first (runAll other second hardware)).make := by
    rw [make_runAll, make_runAll, make_runAll, make_runAll]
  have hclock : (runAll other second (runAll place first hardware)).clock =
      (runAll place first (runAll other second hardware)).clock := by
    rw [clock_runAll, clock_runAll, clock_runAll, clock_runAll]
  have hregisters : (runAll other second (runAll place first hardware)).registers =
      (runAll place first (runAll other second hardware)).registers := by
    refine Vector.ext fun j hj => ?_
    show Vector.get _ ⟨j, hj⟩ = Vector.get _ ⟨j, hj⟩
    rw [get_runAll, get_runAll, get_runAll, get_runAll, profile_runAll, profile_runAll]
    by_cases hat : place = j
    · rw [if_pos hat, if_neg (hat ▸ hapart.symm), if_pos hat, if_neg (hat ▸ hapart.symm)]
    · rw [if_neg hat, if_neg hat]
  have hfaults : (runAll other second (runAll place first hardware)).faults =
      (runAll place first (runAll other second hardware)).faults := by
    rw [faults_runAll, faults_runAll, faults_runAll, faults_runAll, profile_runAll,
      profile_runAll, Nat.add_right_comm]
  simp only [SimulatedHardware.mk.injEq, true_and]
  exact ⟨congrArg Prod.fst hmake, hclock, congrArg Prod.snd hmake, hregisters, hfaults⟩

/-- Where the record has room for all calls, the two orders record the same calls. -/
theorem perm_events
    (hroom : (runAll other second (runAll place first hardware)).events.length < maxEvents) :
    (runAll other second (runAll place first hardware)).events.Perm
      (runAll place first (runAll other second hardware)).events := by
  simp only [events_runAll, ← extend_append] at hroom ⊢
  rw [length_extend, List.length_append] at hroom
  have hlengths := Nat.add_comm (first.flatMap (events m place)).length
    (second.flatMap (events m other)).length
  rw [extend_of_room (by rw [List.length_append]; lia),
    extend_of_room (by rw [List.length_append]; lia)]
  exact List.perm_append_comm.append_left hardware.events

end Two
end Touch
end PeripheralBank
