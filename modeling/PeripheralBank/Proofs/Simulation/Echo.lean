import PeripheralBank.Proofs.Simulation.Underway

/-!
# How far an echo gets

A chunk of some words takes two interrupts more than it has words: one before the first of them
comes in again, and one that moves nothing.  So the interrupts that an echo takes are known from the
length of its text, and with that whether it stays within the limit.
-/

namespace PeripheralBank
namespace Echo

/-!
# Counting interrupts
-/

/-- The interrupts that it takes until one moves nothing.  Each brings in one word, but for the
last, and for the first if the line had none yet. -/
def turnsLeft (outbound coming : List UInt16) : Nat :=
  coming.length + outbound.length + if coming = [] ∧ outbound ≠ [] then 2 else 1

/-- The interrupts that so many bytes take which are not written yet. -/
def chunkTurns (bytes : Nat) : Nat :=
  bytes + 2 * ((bytes + 14) / 15)

/-- The interrupts that it takes to echo the rest of a text. -/
def turnsTo (text : List UInt8) (echo : Echo) (outbound coming : List UInt16) : Nat :=
  turnsLeft outbound coming + chunkTurns (text.length - echo.written)

theorem turnsLeft_pos (outbound coming : List UInt16) : 0 < turnsLeft outbound coming := by
  unfold turnsLeft
  split
  · exact Nat.succ_pos _
  · exact Nat.succ_pos _

/-- An interrupt that moves something brings the end one interrupt nearer. -/
theorem turnsLeft_turn {outbound coming : List UInt16} (hsome : ¬ (outbound = [] ∧ coming = [])) :
    turnsLeft outbound coming =
      turnsLeft (outbound.drop lineDepth) (coming.tail ++ outbound.take lineDepth) + 1 := by
  have hdepth : lineDepth = 4 := rfl
  simp only [turnsLeft, ← List.length_eq_zero_iff, ne_eq, List.length_append, List.length_drop,
    List.length_take, List.length_tail] at hsome ⊢
  lia

/-- A chunk of some words takes two interrupts more than it has words. -/
theorem turnsLeft_chunk {outbound : List UInt16} (hsome : 0 < outbound.length) :
    turnsLeft outbound [] = outbound.length + 2 := by
  rw [turnsLeft, if_pos ⟨rfl, List.length_pos_iff.mp hsome⟩, List.length_nil, Nat.zero_add]

theorem chunkTurns_chunk {bytes : Nat} (hsome : 0 < bytes) :
    chunkTurns bytes = min bytes 15 + 2 + chunkTurns (bytes - min bytes 15) := by
  unfold chunkTurns
  lia

section Needed

variable {text output : List UInt8} {echo next : Echo} {outbound coming : List UInt16}

theorem turnsTo_turn (hsome : ¬ (outbound = [] ∧ coming = []))
    (hwritten : next.written = echo.written) :
    echo.turnsTo text outbound coming =
      next.turnsTo text (outbound.drop lineDepth) (coming.tail ++ outbound.take lineDepth) + 1 := by
  rw [turnsTo, turnsTo, turnsLeft_turn hsome, hwritten, Nat.add_right_comm]

theorem turnsTo_send (hmore : echo.echoed < text.length)
    (hread : Working text output echo [] [] [])
    (hsent : Working text output next (next.underWay text) [] [])
    (hwritten : next.written = echo.written + min (text.length - echo.written) 15)
    (hechoed : next.echoed = echo.echoed) :
    echo.turnsTo text [] [] = next.turnsTo text (next.underWay text) [] + 1 := by
  have hbefore : 0 = echo.written - echo.echoed := hread.length
  have horder := hread.echoed
  have hlength : 0 + (next.underWay text).length = next.written - next.echoed := hsent.length
  have hleft : 0 < text.length - echo.written := by lia
  have hidle : turnsLeft [] [] = 1 := rfl
  have hturns := turnsLeft_chunk (show 0 < (next.underWay text).length by lia)
  rw [turnsTo, turnsTo, hidle, hturns, chunkTurns_chunk hleft, hwritten, Nat.sub_add_eq]
  lia

theorem turnsTo_done (hwritten : echo.written = text.length) : echo.turnsTo text [] [] = 1 := by
  rw [turnsTo, hwritten, Nat.sub_self]
  rfl

end Needed

theorem transfer_eq_idle_iff {outbound coming : List UInt16} :
    Service.transfer (min lineDepth outbound.length) coming.head?.isSome = .transfer 0 false ↔
      outbound = [] ∧ coming = [] := by
  have hdepth : lineDepth ≠ 0 := by decide
  rw [Service.transfer.injEq, ← List.length_eq_zero_iff, Option.isSome_eq_false_iff,
    Option.isNone_iff_eq_none, List.head?_eq_none_iff]
  refine and_congr_left fun _ => ?_
  lia

/-!
# Runs
-/

/-- An echo gets through if it is allowed as many interrupts as it needs, and else is given up. -/
structure Ends (text output : List UInt8) (needed allowed : Nat)
    (result : Except Failure Unit × Echo) : Prop where
  through (henough : needed ≤ allowed) : result.1 = .ok () ∧
    Working text output result.2 [] [] [] ∧ result.2.echoed = text.length
  stalled (hfew : allowed < needed) : result.1 = refuse .invalidState

theorem Ends.succ {text output : List UInt8} {needed allowed : Nat}
    {result : Except Failure Unit × Echo} (hends : Ends text output needed allowed result) :
    Ends text output (needed + 1) (allowed + 1) result where
  through henough := hends.through (Nat.le_of_succ_le_succ henough)
  stalled hfew := hends.stalled (Nat.lt_of_succ_lt_succ hfew)

section Runs

variable {text output : List UInt8} {echo turned : Echo} {outbound coming inbound : List UInt16}

theorem run_turn {service : Service} (hturn : echo.turn device = .ok (service, turned))
    (hbusy : service ≠ .transfer 0 false) (allowed : Nat) :
    echo.run device text (allowed + 1) = turned.run device text allowed := by
  simp only [run, hturn, if_neg hbusy]

theorem run_idle {collected : Echo} (hturn : echo.turn device = .ok (.transfer 0 false, turned))
    (hcollect : turned.collect device text.length = .ok collected) (allowed : Nat) :
    (collected.echoed < text.length -> forall sent, collected.send device text = .ok sent ->
      echo.run device text (allowed + 1) = sent.run device text allowed) ∧
    (¬ collected.echoed < text.length ->
      echo.run device text (allowed + 1) = (.ok (), collected)) := by
  constructor
  · intro hmore sent hsend
    simp only [run, hturn, if_true, hcollect, if_pos hmore, hsend]
  · intro hall
    simp only [run, hturn, if_true, hcollect, if_neg hall]

/-- However far an echo has got, the number of interrupts that it still needs is known. -/
theorem ends_run (hroom : text.length ≤ output.length)
    (hworking : Working text output echo outbound coming inbound) (allowed : Nat) :
    Ends text output (turnsTo text echo outbound coming) allowed
      (echo.run device text allowed) := by
  -- Each interrupt that is allowed either brings the end of the chunk nearer or finds it.
  induction allowed generalizing echo outbound coming inbound with
  | zero =>
      have hsome : 0 < turnsTo text echo outbound coming :=
        Nat.add_pos_left (turnsLeft_pos outbound coming) _
      exact
        { through := fun henough => absurd henough (Nat.not_le.mpr hsome)
          stalled := fun _ => rfl }
  | succ allowed ih =>
      rcases hworking.turn with ⟨turned, hturn, hmoved, hwritten, _⟩
      by_cases hidle : outbound = [] ∧ coming = []
      · rcases hidle with ⟨rfl, rfl⟩
        rcases hmoved.collect hroom with ⟨collected, hcollect, hread, hwritten', hechoed⟩
        rcases run_idle hturn hcollect allowed with ⟨hmore, hall⟩
        have hsame : turnsTo text echo [] [] = turnsTo text collected [] [] := by
          rw [turnsTo, turnsTo, hwritten', hwritten]
        rw [hsame]
        by_cases hrest : collected.echoed < text.length
        · rcases hread.send with ⟨sent, hsend, hsent, hnext, hechoed'⟩
          rw [hmore hrest sent hsend, turnsTo_send hrest hread hsent hnext hechoed']
          exact (ih hsent).succ
        · have horder := hread.echoed
          have hend := hread.written
          rw [hall hrest, turnsTo_done (by lia)]
          exact
            { through := fun _ => ⟨rfl, hread, by lia⟩
              stalled := fun hfew => absurd hfew (by lia) }
      · rw [run_turn hturn (mt transfer_eq_idle_iff.mp hidle), turnsTo_turn hidle hwritten]
        exact (ih hmoved).succ

end Runs
/-!
# The whole echo
-/

/-- An echo that still has everything to do needs the interrupts of all chunks. -/
theorem ends_run_of_send {text output : List UInt8} (hroom : text.length ≤ output.length)
    (hsome : 0 < text.length) {registry : EchoRegistry} (hruns : Runs registry [] []) :
    exists first, (begun registry output).send device text = .ok first ∧
      forall allowed, Ends text output (chunkTurns text.length) allowed
        (first.run device text allowed) := by
  have hworking := working_begun text output hruns
  rcases hworking.send with ⟨first, hsend, hfirst, hwritten, hechoed⟩
  have hneeded := turnsTo_send hsome hworking hfirst hwritten hechoed
  have hstart : turnsTo text (begun registry output) [] [] = chunkTurns text.length + 1 :=
    Nat.add_comm 1 (chunkTurns text.length)
  refine ⟨first, hsend, fun allowed => ?_⟩
  have hends := ends_run hroom hfirst allowed
  rwa [Nat.succ.inj (hstart.symm.trans hneeded)]

theorem ends_transfer {text output : List UInt8} (hroom : text.length ≤ output.length)
    {registry : EchoRegistry} (hruns : Runs registry [] []) :
    Ends text output (chunkTurns text.length) maxInterrupts
      ((begun registry output).transfer device text) := by
  unfold transfer
  by_cases hempty : text.length = 0
  · rw [if_pos hempty, hempty]
    exact
      { through := fun _ => ⟨rfl, working_begun text output hruns, hempty.symm⟩
        stalled := fun hfew => absurd hfew (Nat.not_lt_zero _) }
  · rw [if_neg hempty]
    rcases ends_run_of_send hroom (Nat.pos_of_ne_zero hempty) hruns with ⟨first, hsend, hends⟩
    simp only [hsend]
    exact hends maxInterrupts

/-- Up to so many bytes the interrupts of all chunks are allowed. -/
theorem chunkTurns_le_iff {bytes : Nat} : chunkTurns bytes ≤ maxInterrupts ↔ bytes ≤ 8822 := by
  unfold chunkTurns maxInterrupts
  lia

section Whole

variable {clock baud : UInt32} {text output : List UInt8}

/-- An echo that ends with no received word dropped. -/
def Lossless (clock baud : UInt32) (text output : List UInt8) : Prop :=
  exists device registry done, start clock baud = .ok (device, registry) ∧
    (begun registry output).transfer device text = (.ok (), done) ∧
    done.registry.overflows device = .ok 0

/-- An echo that gets through if it is allowed so many interrupts, and with fewer is given up. -/
def Needs (clock baud : UInt32) (text output : List UInt8) (needed : Nat) : Prop :=
  exists device registry first, start clock baud = .ok (device, registry) ∧
    (begun registry output).send device text = .ok first ∧
    forall allowed, (first.run device text allowed).1 =
      if needed ≤ allowed then .ok () else refuse .invalidState

theorem echoText_of_unsolved {failure : Failure}
    (hunsolved : Family.uart.solve clock (.hertz baud) = .error failure) :
    echoText clock baud text output = (.error failure, output) := by
  have hstart := start_of_unsolved hunsolved
  unfold echoText
  rw [hstart]

theorem echoText_of_failed {registry : EchoRegistry} {failure : Failure} {left : Echo}
    (hstart : start clock baud = .ok (device, registry))
    (hleft : (begun registry output).transfer device (text.take output.length) =
      (.error failure, left)) :
    echoText clock baud text output = (.error failure, left.output) := by
  unfold begun at hleft
  unfold echoText
  simp only [hstart, hleft]

theorem echoText_of_done {registry : EchoRegistry} {done : Echo}
    (hstart : start clock baud = .ok (device, registry))
    (hdone : (begun registry output).transfer device (text.take output.length) = (.ok (), done))
    (hruns : Runs done.registry [] []) :
    echoText clock baud text output = (.ok done.echoed, done.output) := by
  unfold begun at hdone
  unfold echoText
  simp only [hstart, hdone, hruns.overflows, hruns.close]
  rfl

section Solved

variable {divisor : Divisor} (hsolved : Family.uart.solve clock (.hertz baud) = .ok divisor)
include hsolved

theorem needs_chunkTurns (hroom : text.length ≤ output.length) (hsome : 0 < text.length) :
    Needs clock baud text output (chunkTurns text.length) := by
  rcases start_of_solved hsolved with ⟨registry, hstart, hruns⟩
  rcases ends_run_of_send hroom hsome hruns with ⟨first, hsend, hends⟩
  refine ⟨device, registry, first, hstart, hsend, fun allowed => ?_⟩
  by_cases henough : chunkTurns text.length ≤ allowed
  · rw [if_pos henough]
    exact ((hends allowed).through henough).1
  · rw [if_neg henough]
    exact (hends allowed).stalled (Nat.not_le.mp henough)

/-- Of an echo that gets through, all that is wanted is in the output, and the rest of the output is
as it was. -/
theorem echoText_of_enough (henough : chunkTurns (text.take output.length).length ≤ maxInterrupts) :
    echoText clock baud text output =
        (.ok (text.take output.length).length,
          text.take output.length ++ output.drop (text.take output.length).length) ∧
      Lossless clock baud (text.take output.length) output := by
  rcases start_of_solved hsolved with ⟨registry, hstart, hruns⟩
  have hends := ends_transfer (List.length_take_le output.length text) hruns
  cases hleft : (begun registry output).transfer device (text.take output.length) with
  | mk answer done =>
      rw [hleft] at hends
      rcases hends.through henough with ⟨rfl, hworking, hechoed⟩
      refine ⟨?_, device, registry, done, hstart, hleft, hworking.runs.overflows⟩
      have houtput := hworking.output
      rw [hechoed, filled, List.take_length] at houtput
      rw [echoText_of_done hstart hleft hworking.runs, houtput, hechoed]

theorem echoText_of_few (hfew : maxInterrupts < chunkTurns (text.take output.length).length) :
    (echoText clock baud text output).1 = refuse .invalidState := by
  rcases start_of_solved hsolved with ⟨registry, hstart, hruns⟩
  have hends := ends_transfer (List.length_take_le output.length text) hruns
  cases hleft : (begun registry output).transfer device (text.take output.length) with
  | mk answer left =>
      rw [hleft] at hends
      obtain rfl : answer = refuse .invalidState := hends.stalled hfew
      rw [echoText_of_failed hstart hleft]
      rfl

end Solved
end Whole
end Echo

/-- An echo fails as the rate of its UART does, and then leaves its output alone.  Else up to 8822
bytes come back, and all of them, with none dropped on the way.  For more the interrupts that are
allowed are too few, but nothing else is in the way. -/
theorem echo_within_interrupt_limit (clock baud : UInt32) (text output : List UInt8) :
    (forall failure, Family.uart.solve clock (.hertz baud) = .error failure ->
      echoText clock baud text output = (.error failure, output)) ∧
    (forall divisor, Family.uart.solve clock (.hertz baud) = .ok divisor ->
      let wanted := min text.length output.length
      (wanted ≤ 8822 ->
        echoText clock baud text output = (.ok wanted, text.take wanted ++ output.drop wanted) ∧
          Echo.Lossless clock baud (text.take output.length) output) ∧
      (8822 < wanted ->
        (echoText clock baud text output).1 = refuse .invalidState ∧
          Echo.maxInterrupts < Echo.chunkTurns wanted ∧
          Echo.Needs clock baud (text.take output.length) output (Echo.chunkTurns wanted))) := by
  refine ⟨fun failure => Echo.echoText_of_unsolved, ?_⟩
  intro divisor hsolved wanted
  have hlength : (text.take output.length).length = wanted := by
    rw [List.length_take, Nat.min_comm]
  have hfront : text.take output.length = text.take wanted := by
    rw [List.take_eq_take_min, Nat.min_comm]
  constructor
  · intro hmost
    have henough := Echo.chunkTurns_le_iff.mpr hmost
    rw [← hlength] at henough
    have hechoed := Echo.echoText_of_enough hsolved henough
    rw [hlength] at hechoed
    rwa [← hfront]
  · intro hmore
    have hfew := Nat.not_le.mp (mt Echo.chunkTurns_le_iff.mp (Nat.not_le.mpr hmore))
    have hneeds := Echo.needs_chunkTurns hsolved (List.length_take_le output.length text)
      (by rw [hlength]; exact Nat.zero_lt_of_lt hmore)
    rw [hlength] at hneeds
    exact ⟨Echo.echoText_of_few hsolved (by rwa [hlength]), hfew, hneeds⟩

/-- No baud rate of zero, seventeen bytes in two chunks, and one byte more than the limit allows. -/
theorem echo_within_interrupt_limit_of_two_chunks :
    let text : List UInt8 := [5, 1, 4, 1, 4, 2, 1, 3, 5, 6, 2, 3, 7, 3, 0, 9, 5]
    echoText 8000000 0 text (.replicate 20 0) = (refuse .invalidArgument, .replicate 20 0) ∧
      echoText 8000000 115200 text (.replicate 20 0) = (.ok 17, text ++ [0, 0, 0]) ∧
      Echo.Lossless 8000000 115200 text (.replicate 20 0) ∧
      (echoText 8000000 115200 (.replicate 8823 1) (.replicate 9000 0)).1 =
        refuse .invalidState := by
  intro text
  have hrefused : Family.uart.solve 8000000 (.hertz 0) = refuse .invalidArgument := by
    decide +kernel
  have hsolved : Family.uart.solve 8000000 (.hertz 115200) =
      .ok { primary := 4, secondary := 17, raw := 69, clock := 8000000, frequency := 117647 } := by
    decide +kernel
  have hlong : 8822 < min (List.replicate 8823 (1 : UInt8)).length
      (List.replicate 9000 (0 : UInt8)).length := by
    rw [List.length_replicate, List.length_replicate]
    decide
  rcases echo_within_interrupt_limit 8000000 0 text (.replicate 20 0) with ⟨hzero, _⟩
  rcases echo_within_interrupt_limit 8000000 115200 text (.replicate 20 0) with ⟨_, hshort⟩
  rcases echo_within_interrupt_limit 8000000 115200 (.replicate 8823 1) (.replicate 9000 0) with
    ⟨_, hmore⟩
  rcases (hshort _ hsolved).1 (by decide) with ⟨hechoed, hkept⟩
  exact ⟨hzero _ hrefused, hechoed, hkept, ((hmore _ hsolved).2 hlong).1⟩

end PeripheralBank
