import PeripheralBank.Proofs.Bench.Addressed
import PeripheralBank.Proofs.Divider.Encoding
import PeripheralBank.Proofs.Registry.Service
import PeripheralBank.Proofs.Simulation.Profile
import PeripheralBank.Simulation.Ticking

/-!
# Every tick is called back

A timer that was started stays enabled, with its callback bound, through any number of periods.  So
each interrupt is handled by the callback, which adds one to the count, and only the rate can keep
the timer from running at all.
-/

namespace PeripheralBank
namespace Ticking

/-!
# The only timer
-/

/-- The handle of the only timer. -/
def device : Handle :=
  .ofIndex .timer 0

/-- Of the only instance this is kept, it is not in service, and its hardware is that of a timer. -/
structure Keeps (registry : TimerRegistry) (slot : Slot Unit) : Prop where
  profile : registry.hardware.profile = .timer
  family : registry.family = .timer
  slot : registry.slotAt 0 = slot
  idle : registry.isServed 0 = false

namespace Keeps

variable {registry : TimerRegistry} {slot : Slot Unit} (hkeeps : Keeps registry slot)
include hkeeps

theorem handle : registry.handle (0 : Fin 1) = device :=
  congrArg (Handle.ofIndex · 0) hkeeps.family

/-- Hardware that moved its counter on is still that of a timer. -/
theorem advance (ticks : UInt32) :
    Keeps (registry.setHardware (Inspectable.advance 0 ticks registry.hardware).2) slot where
  profile := (SimulatedHardware.lasting_profile.advance registry.hardware 0 ticks).trans
    hkeeps.profile
  family := hkeeps.family
  slot := hkeeps.slot
  idle := hkeeps.idle

/-- An interrupt that is over has left the instance out of service. -/
theorem served : Keeps ((registry.setInService 0 true).setInService 0 false) slot where
  profile := hkeeps.profile
  family := hkeeps.family
  slot := hkeeps.slot
  idle := by rw [Registry.isServed_setInService, if_pos rfl]

theorem of_effect {after : TimerRegistry} {request : Request Unit} {answer : Except Failure Reply}
    (heffect : request.Effect registry answer after)
    (hidle : after.isServed 0 = registry.isServed 0) : Keeps after (after.slotAt 0) where
  profile := (SimulatedHardware.lasting_profile.of_effect heffect).trans hkeeps.profile
  family := (Registry.family_of_effect heffect).trans hkeeps.family
  slot := rfl
  idle := hidle.trans hkeeps.idle

section Held

variable (hheld : slot.state ≠ .unused)
include hheld

theorem locateOpen : registry.locateOpen device = .ok 0 := by
  rw [← hkeeps.handle]
  refine Registry.locateOpen_handle ?_
  rwa [hkeeps.slot]

theorem setRate {rate : Rate} {divisor : Divisor}
    (hsolved : (Hardware.chain registry.hardware).solve (Hardware.clock registry.hardware) rate =
      .ok divisor) :
    exists after, registry.setRate device rate = (.ok divisor, after) ∧
      Keeps after { slot with rate := { requested := some rate, divisor } } := by
  have hopen := hkeeps.locateOpen hheld
  have hafter := hkeeps.of_effect (.rated hopen hsolved) (registry.isServed_adoptRate 0 0 _ _)
  rw [Registry.slotAt_adoptRate, if_pos rfl, hkeeps.slot] at hafter
  exact ⟨_, Registry.setRate_of_solve_ok hopen hsolved, hafter⟩

theorem bind (callback : Option Unit) :
    exists after, registry.bind device callback = (.ok (), after) ∧
      Keeps after { slot with callback } := by
  have hopen := hkeeps.locateOpen hheld
  have hafter := hkeeps.of_effect (.bound hopen callback) (registry.isServed_rebind 0 0 _)
  rw [Registry.slotAt_rebind, if_pos rfl, hkeeps.slot] at hafter
  exact ⟨_, Registry.bind_of_held hopen callback, hafter⟩

theorem enable (hrests : slot.state ≠ .enabled) :
    exists after, registry.enable device = (.ok (), after) ∧
      Keeps after { slot with state := .enabled } := by
  have hopen := hkeeps.locateOpen hheld
  rw [← hkeeps.slot] at hrests
  have hafter := hkeeps.of_effect (.turnedOn hopen hrests) (registry.isServed_switchOn 0 0)
  rw [Registry.slotAt_switchOn, if_pos rfl, hkeeps.slot] at hafter
  exact ⟨_, Registry.enable_of_resting hopen hrests, hafter⟩

theorem currentRate {rate : Rate} (hachieved : slot.rate.achieved? = some rate) :
    registry.currentRate device = .ok rate := by
  rw [← hkeeps.slot] at hheld hachieved
  rw [← hkeeps.handle, Registry.currentRate_handle hheld, hachieved]

/-- A timer has a counter, and reading it leaves all as it was. -/
theorem counter : exists value, registry.counter device = (.ok value, registry) := by
  have hcounts : registry.hardware.profile.hasCounter = true := by
    rw [hkeeps.profile]
    rfl
  refine ⟨registry.hardware.registers[0].counter, ?_⟩
  rw [Registry.counter, hkeeps.locateOpen hheld]
  show (registry.hardware.readCounter 0, registry) = _
  rw [SimulatedHardware.readCounter, if_pos hcounts]
  rfl

theorem close : exists after, registry.close device = (.ok (), after) :=
  ⟨_, Registry.close_of_idle (hkeeps.locateOpen hheld) hkeeps.idle⟩

end Held
end Keeps

/-!
# Periods
-/

/-- The timer runs at a period, with the counting callback bound. -/
def Runs (registry : TimerRegistry) (period : UInt32) (divisor : Divisor) : Prop :=
  Keeps registry
    { state := .enabled
      rate := { requested := some (.microseconds period), divisor }
      callback := some () }

section Periods

variable {timer : Ticking} {period : UInt32} {divisor : Divisor}

/-- In every period the callback handles the interrupt and counts it, and the timer runs on. -/
theorem Runs.turn (hruns : Runs timer.registry period divisor) :
    exists turned, timer.turn device divisor = .ok (.callback, turned) ∧
      turned.count = timer.count + 1 ∧ Runs turned.registry period divisor := by
  have hmoved := hruns.advance divisor.secondary
  have henabled : (Registry.slotAt _ 0).state = .enabled := congrArg Slot.state hmoved.slot
  have hbound : (Registry.slotAt _ 0).callback = some () := congrArg Slot.callback hmoved.slot
  have hcalled := Registry.interrupt_callback Ticking.invoke (timer.line.raise, timer.count)
    henabled hbound
  -- Hardware with one instance moves its counter, so the turn is what the interrupt comes to.
  have hturn := congrArg (fun served => served.1.map fun service => (service,
    { registry := served.2.2, line := served.2.1.1, count := served.2.1.2 : Ticking })) hcalled
  exact ⟨_, hturn, rfl, hmoved.served⟩

theorem run_of_runs (hruns : Runs timer.registry period divisor) (ticks : Nat) :
    exists after, run device divisor ticks timer = .ok after ∧
      after.count = timer.count + ticks ∧ Runs after.registry period divisor := by
  induction ticks generalizing timer with
  | zero => exact ⟨timer, rfl, rfl, hruns⟩
  | succ ticks ih =>
      rcases hruns.turn with ⟨turned, hturn, hcount, hkept⟩
      rcases ih hkept with ⟨after, hrun, htotal, hleft⟩
      refine ⟨after, ?_, ?_, hleft⟩
      · simp only [run, hturn, if_true, hrun]
      · rw [htotal, hcount, Nat.add_assoc, Nat.add_comm 1]

end Periods

/-!
# From the start to the end
-/

/-- The registry of a timer before anything but its interrupts was asked for. -/
def claimed (clock : UInt32) : TimerRegistry :=
  (Registry.unbuffered { profile := .timer, clock } Handle.one_lt_nullIndex
    SimulatedHardware.one_driven : TimerRegistry).claimInterrupts.2

theorem allocate_claimed (clock : UInt32) :
    (claimed clock).allocate = (.ok device, (claimed clock).hold 0) := by
  have hfirst : (claimed clock).firstUnused? = some 0 := rfl
  rw [Registry.allocate, hfirst]
  rfl

/-- Claiming the interrupts and opening the only timer succeed, so a start is a rate, a callback and
a switch. -/
theorem start_eq (clock period : UInt32) :
    start clock period =
      (answered (((claimed clock).hold 0).setRate device (.microseconds period))).bind
        fun rated => (answered (Registry.bind rated.2 device (some ()))).bind
          fun bound => (answered (Registry.enable bound.2 device)).bind
            fun on => .ok (device, rated.1, on.2) := by
  show ((answered (claimed clock).allocate).bind fun opened =>
    (answered (Registry.setRate opened.2 opened.1 (.microseconds period))).bind
      fun rated => (answered (Registry.bind rated.2 opened.1 (some ()))).bind
        fun bound => (answered (Registry.enable bound.2 opened.1)).bind
          fun on => .ok (opened.1, rated.1, on.2)) = _
  rw [allocate_claimed]
  rfl

theorem keeps_hold (clock : UInt32) : Keeps ((claimed clock).hold 0) { state := .opened } where
  profile := rfl
  family := rfl
  slot := rfl
  idle := rfl

/-- A timer before its first period. -/
def begun (registry : TimerRegistry) : Ticking :=
  { registry, line := .ofDepth 0, count := 0 }

section Whole

variable {clock period : UInt32}

theorem start_of_unsolved {failure : Failure}
    (hunsolved : Family.timer.solve clock (.microseconds period) = .error failure) :
    start clock period = .error failure := by
  have hopen := (keeps_hold clock).locateOpen State.noConfusion
  have hrate := Registry.setRate_of_solve_error hopen hunsolved
  rw [start_eq, hrate]
  rfl

theorem start_of_solved {divisor : Divisor}
    (hsolved : Family.timer.solve clock (.microseconds period) = .ok divisor) :
    exists registry, start clock period = .ok (device, divisor, registry) ∧
      Runs (begun registry).registry period divisor := by
  rcases (keeps_hold clock).setRate State.noConfusion hsolved with ⟨rated, hrate, hrated⟩
  rcases hrated.bind State.noConfusion (some ()) with ⟨bound, hbind, hbound⟩
  rcases hbound.enable State.noConfusion State.noConfusion with ⟨registry, henable, hruns⟩
  refine ⟨registry, ?_, hruns⟩
  rw [start_eq, hrate]
  simp only [answered, Except.bind, hbind, henable]

theorem countTicks_of_unsolved {failure : Failure}
    (hunsolved : Family.timer.solve clock (.microseconds period) = .error failure) (ticks : Nat) :
    countTicks clock period ticks = .error failure := by
  unfold countTicks
  rw [start_of_unsolved hunsolved]
  rfl

/-- A timer that ran reads its period and its counter back and is closed. -/
theorem countTicks_of_run {registry : TimerRegistry} {divisor : Divisor} {ticks : Nat}
    {after : Ticking} (hstart : start clock period = .ok (device, divisor, registry))
    (hrun : run device divisor ticks (begun registry) = .ok after)
    (hruns : Runs after.registry period divisor) :
    countTicks clock period ticks = .ok (after.count, divisor.periodMicroseconds) := by
  have hachieved := hruns.currentRate State.noConfusion rfl
  rcases hruns.counter State.noConfusion with ⟨value, hcounter⟩
  rcases hruns.close State.noConfusion with ⟨closed, hclosed⟩
  unfold begun at hrun
  unfold countTicks
  simp only [hstart, hrun, hachieved, hcounter, hclosed, answered, bind, Except.bind]
  rfl

theorem countTicks_of_solved {divisor : Divisor}
    (hsolved : Family.timer.solve clock (.microseconds period) = .ok divisor) (ticks : Nat) :
    countTicks clock period ticks = .ok (ticks, divisor.periodMicroseconds) := by
  rcases start_of_solved hsolved with ⟨registry, hstart, hruns⟩
  rcases run_of_runs hruns ticks with ⟨after, hrun, hcount, hkept⟩
  have hcounted := countTicks_of_run hstart hrun hkept
  rwa [hcount, begun, Nat.zero_add] at hcounted

end Whole
end Ticking

/-- A timer whose rate cannot be had fails as the rate does.  Any other runs its callback once for
every tick and tells its period, since each interrupt on the way is handled by the callback.  So it
is never given up for an interrupt that was not. -/
theorem ticks_all_called_back (clock period : UInt32) (ticks : Nat) :
    (forall failure, Family.timer.solve clock (.microseconds period) = .error failure ->
      countTicks clock period ticks = .error failure) ∧
    (forall divisor, Family.timer.solve clock (.microseconds period) = .ok divisor ->
      countTicks clock period ticks = .ok (ticks, divisor.periodMicroseconds) ∧
      exists registry,
        Ticking.start clock period = .ok (Ticking.device, divisor, registry) ∧
        forall past, exists timer turned,
          Ticking.run Ticking.device divisor past (Ticking.begun registry) = .ok timer ∧
          timer.count = past ∧
          Ticking.turn Ticking.device divisor timer = .ok (.callback, turned) ∧
          turned.count = past + 1) ∧
    countTicks clock period ticks ≠ refuse .invalidState := by
  refine ⟨fun failure hunsolved => Ticking.countTicks_of_unsolved hunsolved ticks, ?_, ?_⟩
  · intro divisor hsolved
    rcases Ticking.start_of_solved hsolved with ⟨registry, hstart, hruns⟩
    refine ⟨Ticking.countTicks_of_solved hsolved ticks, registry, hstart, fun past => ?_⟩
    rcases Ticking.run_of_runs hruns past with ⟨timer, hrun, hcount, hkept⟩
    rcases hkept.turn with ⟨turned, hturn, hnext, _⟩
    rw [Ticking.begun, Nat.zero_add] at hcount
    exact ⟨timer, turned, hrun, hcount, hturn, hnext.trans (congrArg (· + 1) hcount)⟩
  · intro hgiven
    cases hsolve : Family.timer.solve clock (.microseconds period) with
    | error failure =>
        rw [Ticking.countTicks_of_unsolved hsolve] at hgiven
        rcases Family.failure_of_solve hsolve with rfl | rfl
        · cases hgiven
        · cases hgiven
    | ok divisor =>
        rw [Ticking.countTicks_of_solved hsolve] at hgiven
        cases hgiven

/-- Five periods of ten milliseconds, and no period of zero. -/
theorem ticks_all_called_back_of_five :
    countTicks 8000000 10000 5 = .ok (5, 10000) ∧
      countTicks 8000000 0 5 = refuse .invalidArgument := by
  have hsolved : Family.timer.solve 8000000 (.microseconds 10000) =
      .ok
        { primary := 8, secondary := 10000, raw := 80000, clock := 8000000, frequency := 100 } := by
    decide +kernel
  have hrefused : Family.timer.solve 8000000 (.microseconds 0) = refuse .invalidArgument := by
    decide +kernel
  rcases ticks_all_called_back 8000000 10000 5 with ⟨_, hcounted, _⟩
  rcases ticks_all_called_back 8000000 0 5 with ⟨hzero, _⟩
  exact ⟨(hcounted _ hsolved).1, hzero _ hrefused⟩

end PeripheralBank
