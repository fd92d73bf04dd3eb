import PeripheralBank.Proofs.Bench.Fitting
import PeripheralBank.Proofs.Registry.Transfers
import PeripheralBank.Proofs.Simulation.Exchange
import PeripheralBank.Simulation.Echo

/-!
# The words of an echo under way

A word of an echo that was written and not yet read is in one of three places: in the outbound
buffer, on the line, or in the inbound buffer.  The words under way stand there in order, and are
never more than one buffer holds, so nothing is dropped.  Each operation of an echo keeps that.
-/

namespace PeripheralBank
namespace Echo

/-!
# The UART of an echo
-/

/-- The handle of the only UART. -/
def device : Handle :=
  .ofIndex .uart 0

/-- The UART runs and transfers bytes, its buffers hold these words, and none was dropped. -/
structure Runs (registry : EchoRegistry) (outbound inbound : List UInt16) : Prop where
  family : registry.family = .uart
  state : (registry.slotAt 0).state = .enabled
  width : registry.transferWidth 0 = 8
  idle : registry.isServed 0 = false
  stored : exists buffers, registry.buffersAt? 0 = some buffers ∧
    buffers.outbound.toList = outbound ∧ buffers.inbound.toList = inbound ∧
    buffers.inbound.overflows = 0

namespace Runs

variable {registry : EchoRegistry} {outbound inbound : List UInt16}
  (hruns : Runs registry outbound inbound)
include hruns

theorem handle : registry.handle (0 : Fin 1) = device :=
  congrArg (Handle.ofIndex · 0) hruns.family

theorem held : (registry.slotAt 0).state ≠ .unused := by
  rw [hruns.state]
  exact State.noConfusion

theorem setBuffers {buffers : Buffers 16} (hkept : buffers.inbound.overflows = 0) :
    Runs (registry.setBuffers 0 buffers) buffers.outbound.toList buffers.inbound.toList := by
  rcases hruns.stored with ⟨_, hstored, _⟩
  refine
    { family := hruns.family
      state := hruns.state
      width := hruns.width
      idle := hruns.idle
      stored := ⟨buffers, ?_, rfl, rfl, hkept⟩ }
  rw [Registry.buffersAt?_setBuffers, if_pos rfl, hstored]
  rfl

theorem call (call : Call) : Runs (registry.call 0 call) outbound inbound := by
  have hwidths := SimulatedHardware.lasting_wordWidths.perform registry.hardware 0 call
  have hwidth : (registry.call 0 call).transferWidth 0 = registry.transferWidth 0 :=
    Registry.transferWidth_of_kept hwidths rfl
  exact
    { family := hruns.family
      state := hruns.state
      width := hwidth.trans hruns.width
      idle := hruns.idle
      stored := hruns.stored }

theorem answered : Runs (registry.setInService 0 false) outbound inbound where
  family := hruns.family
  state := hruns.state
  width := hruns.width
  idle := by rw [Registry.isServed_setInService, if_pos rfl]
  stored := hruns.stored

theorem goesBy {buffers : Buffers 16} (hstored : registry.buffersAt? 0 = some buffers) :
    registry.GoesBy 0 buffers 8 := by
  have hgoes := Registry.goesBy_transferWidth hruns.held hstored
  rwa [hruns.width] at hgoes

/-!
# Operations on it
-/

theorem write (bytes : List UInt8) :
    exists after,
      registry.write device bytes = (.ok (min bytes.length (15 - outbound.length)), after) ∧
        Runs after
          (outbound ++ (bytes.map UInt8.toUInt16).take (min bytes.length (15 - outbound.length)))
          inbound := by
  rcases hruns.stored with ⟨buffers, hstored, rfl, rfl, hkept⟩
  have hqueued := (hruns.goesBy hstored).write (UInt8.le_refl 8) bytes
  rw [hruns.handle] at hqueued
  have hnumber {count : Nat} {after : Ring UInt16 16}
      (hpushed : buffers.outbound.Pushed (bytes.map UInt8.toUInt16) count after) :
      min bytes.length (15 - buffers.outbound.toList.length) = count := by
    rw [hpushed.number, List.length_map, Ring.length_toList]
    rfl
  have hwrote (outbound : Ring UInt16 16) :
      Runs (registry.setBuffers 0 { buffers with outbound }) outbound.toList
        buffers.inbound.toList :=
    hruns.setBuffers hkept
  generalize registry.write device bytes = result at hqueued
  cases hqueued with
  | kicked hpushed _ =>
      rw [hnumber hpushed, ← hpushed.queue]
      exact ⟨_, rfl, (hwrote _).call .kickTransmit⟩
  | unkicked hpushed =>
      rw [hnumber hpushed, ← hpushed.queue]
      exact ⟨_, rfl, hwrote _⟩

theorem read (output : List UInt8) :
    let count := min output.length inbound.length
    exists after,
      registry.read device output =
        (.ok count, (inbound.take count).map UInt16.toUInt8 ++ output.drop count, after) ∧
      Runs after outbound (inbound.drop count) := by
  rcases hruns.stored with ⟨buffers, hstored, rfl, rfl, hkept⟩
  have hfetched := (hruns.goesBy hstored).read (UInt8.le_refl 8) output
  rw [hruns.handle] at hfetched
  generalize registry.read device output = result at hfetched
  cases hfetched with
  | @fetched count filled inbound hpopped =>
      intro count
      have hread : Runs (registry.setBuffers 0 { buffers with inbound })
          buffers.outbound.toList inbound.toList :=
        hruns.setBuffers (hpopped.overflows.trans hkept)
      have hnumber : count = _ := Ring.length_toList buffers.inbound ▸ hpopped.number.symm
      rw [hnumber, ← hpopped.queue, ← hpopped.places]
      exact ⟨_, rfl, hread⟩

theorem interrupt
    (invoke : Empty -> SimulatedLine -> EchoRegistry -> SimulatedLine × EchoRegistry)
    {line : SimulatedLine} (hdepth : line.depth = lineDepth)
    (hempty : line.outgoing = [])
    (hroom : inbound.length + line.incoming.head?.toList.length ≤ 15) :
    exists after final,
      registry.interrupt invoke device.index line =
        (.ok (.transfer (min lineDepth outbound.length) line.incoming.head?.isSome), after,
          final) ∧
        after.depth = lineDepth ∧ after.outgoing = outbound.take lineDepth ∧
        after.incoming = line.incoming.tail ∧
        Runs final (outbound.drop lineDepth) (inbound ++ line.incoming.head?.toList) := by
  rcases hruns.stored with ⟨buffers, hstored, rfl, rfl, hkept⟩
  have hunbound : (registry.slotAt 0).callback = none :=
    Option.eq_none_iff_forall_ne_some.mpr fun callback _ => nomatch callback
  have hshallow : line.depth ≤ SimulatedLine.fifoSize := by
    rw [hdepth]
    decide
  have htaken : SimulatedLine.taken buffers.outbound line =
      min lineDepth buffers.outbound.toList.length := by
    rw [SimulatedLine.taken, hdepth, hempty, Ring.length_toList, Nat.min_comm]
    rfl
  rcases Registry.exchanged_interrupt invoke hruns.state hunbound hstored hshallow with
    ⟨moved, after, hanswer, hexchanged⟩
  rcases hexchanged.inbound.of_room (by rwa [Ring.length_toList] at hroom) with
    ⟨hqueue, hdropped⟩
  have houtbound := hexchanged.outbound
  have houtgoing := hexchanged.outgoing
  have hfinal := (hruns.setBuffers (hdropped.trans hkept)).answered
  rw [htaken, ← List.drop_eq_drop_min] at houtbound
  rw [hempty, htaken, ← List.take_eq_take_min] at houtgoing
  rw [houtbound, hqueue] at hfinal
  rw [htaken] at hanswer
  exact ⟨after, _, hanswer, hexchanged.depth.trans hdepth, houtgoing, hexchanged.incoming, hfinal⟩

theorem overflows : registry.overflows device = .ok 0 := by
  rcases hruns.stored with ⟨buffers, hstored, _, _, hkept⟩
  rw [← hruns.handle, Registry.overflows, Registry.locateBuffers_handle hruns.held hstored]
  exact congrArg Except.ok hkept

theorem close : (registry.close device).1 = .ok () := by
  rw [← hruns.handle, Registry.close_of_idle (Registry.locateOpen_handle hruns.held) hruns.idle]

end Runs

/-!
# Words under way
-/

/-- An output with so many bytes of a text in its front. -/
def filled (text output : List UInt8) (count : Nat) : List UInt8 :=
  text.take count ++ output.drop count

/-- The words that were written and did not yet get to the output. -/
def underWay (text : List UInt8) (echo : Echo) : List UInt16 :=
  ((text.take echo.written).drop echo.echoed).map UInt8.toUInt16

/-- The words under way stand in order in the inbound buffer, on the line and in the outbound
buffer, and either buffer could hold them all. -/
structure Working (text output : List UInt8) (echo : Echo) (outbound coming inbound : List UInt16) :
    Prop where
  runs : Runs echo.registry outbound inbound
  depth : echo.line.depth = lineDepth
  outgoing : echo.line.outgoing = []
  incoming : echo.line.incoming = coming
  order : inbound ++ coming ++ outbound = echo.underWay text
  echoed : echo.echoed ≤ echo.written
  written : echo.written ≤ text.length
  chunk : echo.written ≤ echo.echoed + 15
  output : echo.output = filled text output echo.echoed

theorem map_toUInt8_toUInt16 (bytes : List UInt8) :
    (bytes.map UInt8.toUInt16).map UInt16.toUInt8 = bytes := by
  rw [List.map_map]
  exact List.map_id'' (fun byte => UInt8.toUInt8_toUInt16 byte) bytes

section Filling

variable {text output : List UInt8} {count : Nat}

theorem length_filled (hcount : count ≤ text.length) (hroom : text.length ≤ output.length) :
    (filled text output count).length = output.length := by
  rw [filled, List.length_append, List.length_take, List.length_drop]
  lia

theorem take_filled (hcount : count ≤ text.length) :
    (filled text output count).take count = text.take count := by
  rw [filled, List.take_left' (List.length_take_of_le hcount)]

theorem drop_filled (hcount : count ≤ text.length) {more : Nat} (hmore : count ≤ more) :
    (filled text output count).drop more = output.drop more := by
  have hlength : (text.take count).length = count := List.length_take_of_le hcount
  rw [filled, List.drop_append, hlength, List.drop_of_length_le (by rwa [hlength]), List.nil_append,
    List.drop_drop]
  congr 1
  lia

/-- Bytes that are written behind those of a text continue it. -/
theorem filled_continue {more : Nat} (hmore : count ≤ more) (hend : more ≤ text.length) :
    (filled text output count).take count ++
        ((text.take more).drop count ++
          (((filled text output count).take text.length).drop count).drop (more - count)) ++
        (filled text output count).drop text.length =
      filled text output more := by
  have hcount := Nat.le_trans hmore hend
  have hfront : text.take count = (text.take more).take count := by
    rw [List.take_take, Nat.min_eq_left hmore]
  have hback : (((filled text output count).take text.length).drop count).drop (more - count) =
      (output.drop more).take (text.length - more) := by
    rw [List.drop_drop, Nat.add_sub_cancel' hmore, List.drop_take, drop_filled hcount hmore]
  have hrest : output.drop text.length = (output.drop more).drop (text.length - more) := by
    rw [List.drop_drop, Nat.add_sub_cancel' hend]
  rw [take_filled hcount, drop_filled hcount hcount, hfront, hback, hrest, ← List.append_assoc,
    List.take_append_drop, List.append_assoc, List.take_append_drop, filled]

end Filling

namespace Working

variable {text output : List UInt8} {echo : Echo} {outbound coming inbound : List UInt16}
  (hworking : Working text output echo outbound coming inbound)
include hworking

theorem length :
    inbound.length + coming.length + outbound.length = echo.written - echo.echoed := by
  have hlengths := congrArg List.length hworking.order
  have hwritten := hworking.written
  simp only [underWay, List.length_append, List.length_map, List.length_drop,
    List.length_take] at hlengths
  lia

/-- One interrupt moves every queue on by what the line takes at once, and one word in. -/
theorem turn :
    exists turned,
      echo.turn device =
        .ok (.transfer (min lineDepth outbound.length) coming.head?.isSome, turned) ∧
        Working text output turned (outbound.drop lineDepth)
          (coming.tail ++ outbound.take lineDepth) (inbound ++ coming.head?.toList) ∧
        turned.written = echo.written ∧ turned.echoed = echo.echoed := by
  have hlength := hworking.length
  have hchunk := hworking.chunk
  have hincoming := hworking.incoming
  subst hincoming
  have hfront : echo.line.incoming.head?.toList ++ echo.line.incoming.tail =
      echo.line.incoming := by
    cases echo.line.incoming with
    | nil => rfl
    | cons word rest => rfl
  have hhead := congrArg List.length hfront
  rw [List.length_append] at hhead
  rcases hworking.runs.interrupt _ hworking.depth hworking.outgoing (by lia) with
    ⟨after, final, hanswer, hdepth, houtgoing, hincoming, hruns⟩
  refine ⟨{ echo with registry := final, line := after.loopBack.2 }, ?_, ?_, rfl, rfl⟩
  · unfold Echo.turn
    rw [hanswer]
    rfl
  · have hall : after.outgoing.length ≤ SimulatedLine.fifoSize - after.incoming.length := by
      have hsent := List.length_take_le lineDepth outbound
      rw [houtgoing, hincoming]
      simp only [lineDepth, SimulatedLine.fifoSize] at hsent ⊢
      lia
    exact
      { runs := hruns
        depth := (SimulatedLine.depth_arriveAll _ _).trans hdepth
        outgoing := after.outgoing_loopBack
        incoming := by
          rw [after.incoming_loopBack, List.take_of_length_le hall, hincoming, houtgoing]
        order := by
          calc
            inbound ++ echo.line.incoming.head?.toList ++
                  (echo.line.incoming.tail ++ outbound.take lineDepth) ++ outbound.drop lineDepth =
                inbound ++ (echo.line.incoming.head?.toList ++ echo.line.incoming.tail) ++
                  (outbound.take lineDepth ++ outbound.drop lineDepth) := by
              simp only [List.append_assoc]
            _ = inbound ++ echo.line.incoming ++ outbound := by
              rw [hfront, List.take_append_drop]
            _ = echo.underWay text := hworking.order
        echoed := hworking.echoed
        written := hworking.written
        chunk := hchunk
        output := hworking.output }

end Working

namespace Working

variable {text output : List UInt8} {echo : Echo} {inbound : List UInt16}

/-- What came in is read into the output, behind what was echoed before. -/
theorem collect (hworking : Working text output echo [] [] inbound)
    (hroom : text.length ≤ output.length) :
    exists collected, echo.collect device text.length = .ok collected ∧
      Working text output collected [] [] [] ∧ collected.written = echo.written ∧
      collected.echoed = echo.written := by
  have hechoed := hworking.echoed
  have hwritten := hworking.written
  have hshort := Nat.le_trans hechoed hwritten
  have hlength : inbound.length = echo.written - echo.echoed := hworking.length
  have horder := hworking.order
  rw [List.append_nil, List.append_nil, underWay] at horder
  have hcount : min ((echo.output.take text.length).drop echo.echoed).length inbound.length =
      echo.written - echo.echoed := by
    rw [List.length_drop, List.length_take, hworking.output, length_filled hshort hroom]
    lia
  rcases hworking.runs.read ((echo.output.take text.length).drop echo.echoed) with
    ⟨final, hanswer, hruns⟩
  rw [hcount, List.take_of_length_le (Nat.le_of_eq hlength), horder, map_toUInt8_toUInt16]
    at hanswer
  rw [hcount, ← hlength, List.drop_length] at hruns
  have houtput := @filled_continue text output _ _ hechoed hwritten
  rw [← hworking.output, ← List.append_assoc] at houtput
  have hechoed' : echo.echoed + (echo.written - echo.echoed) = echo.written :=
    Nat.add_sub_cancel' hechoed
  refine
    ⟨{ echo with
        registry := final, echoed := echo.written, output := filled text output echo.written },
      ?_, ?_, rfl, rfl⟩
  · simp only [Echo.collect, hanswer, ← List.append_assoc, houtput]
    exact congrArg (Except.ok { echo with
      registry := final, echoed := ·, output := filled text output echo.written }) hechoed'
  · exact
      { runs := hruns
        depth := hworking.depth
        outgoing := hworking.outgoing
        incoming := hworking.incoming
        order := by
          rw [underWay, List.drop_take, Nat.sub_self, List.take_zero]
          rfl
        echoed := Nat.le_refl echo.written
        written := hwritten
        chunk := Nat.le_add_right echo.written 15
        output := rfl }

/-- With nothing under way, as much of the text is written as the outbound buffer takes. -/
theorem send (hworking : Working text output echo [] [] []) :
    exists sent, echo.send device text = .ok sent ∧
      Working text output sent (sent.underWay text) [] [] ∧
      sent.written = echo.written + min (text.length - echo.written) 15 ∧
      sent.echoed = echo.echoed := by
  have hechoed := hworking.echoed
  have hlength : 0 = echo.written - echo.echoed := hworking.length
  have hsame : echo.echoed = echo.written := by lia
  rcases hworking.runs.write (text.drop echo.written) with ⟨final, hanswer, hruns⟩
  rw [List.length_drop, List.length_nil, Nat.sub_zero] at hanswer hruns
  have hwords : ([] : List UInt16) ++ ((text.drop echo.written).map UInt8.toUInt16).take
        (min (text.length - echo.written) 15) =
      (({ echo with written := echo.written + min (text.length - echo.written) 15 } :
        Echo).underWay text) := by
    rw [underWay, List.nil_append, hsame, List.drop_take, Nat.add_sub_cancel_left, List.map_take]
  refine
    ⟨{ echo with
        registry := final, written := echo.written + min (text.length - echo.written) 15 },
      ?_, ?_, rfl, rfl⟩
  · unfold Echo.send
    rw [hanswer]
    rfl
  · exact
      { runs := hwords ▸ hruns
        depth := hworking.depth
        outgoing := hworking.outgoing
        incoming := hworking.incoming
        order := rfl
        echoed := by
          show echo.echoed ≤ echo.written + _
          lia
        written := by
          show echo.written + _ ≤ _
          have := hworking.written
          lia
        chunk := by
          show echo.written + _ ≤ echo.echoed + 15
          lia
        output := hworking.output }

end Working

/-!
# The start
-/

/-- A UART that was opened and is not yet turned on. -/
structure Ready (registry : EchoRegistry) : Prop where
  family : registry.family = .uart
  state : (registry.slotAt 0).state = .opened
  unset : (registry.slotAt 0).wordWidth = none
  widths : Hardware.wordWidths registry.hardware = Profile.uart.wordWidths
  idle : registry.isServed 0 = false
  stored : registry.buffersAt? 0 = some .empty

namespace Ready

variable {registry : EchoRegistry} (hready : Ready registry)
include hready

theorem handle : registry.handle (0 : Fin 1) = device :=
  congrArg (Handle.ofIndex · 0) hready.family

theorem locateOpen : registry.locateOpen device = .ok 0 := by
  rw [← hready.handle]
  refine Registry.locateOpen_handle ?_
  rw [hready.state]
  exact State.noConfusion

theorem adoptRate (rate : Rate) (divisor : Divisor) :
    Ready (registry.adoptRate 0 rate divisor) := by
  have hslot := Registry.slotAt_adoptRate registry 0 0 rate divisor
  have hlasting := @SimulatedHardware.lasting_wordWidths 1
  have hfamily : (registry.adoptRate 0 rate divisor).family = registry.family := by
    unfold Registry.adoptRate Registry.program
    split
    · rfl
    · rfl
  rw [if_pos rfl] at hslot
  exact
    { family := hfamily.trans hready.family
      state := hslot ▸ hready.state
      unset := hslot ▸ hready.unset
      widths := (hlasting.upheld _).adoptRate trivial hready.widths rate trivial
      idle := (registry.isServed_adoptRate 0 0 rate divisor).trans hready.idle
      stored := (Registry.buffersAt?_adoptRate registry 0 0 rate divisor).trans hready.stored }

theorem enable : registry.enable device = (.ok (), registry.switchOn 0) := by
  refine Registry.enable_of_resting hready.locateOpen ?_
  rw [hready.state]
  exact State.noConfusion

theorem runs : Runs (registry.switchOn 0) [] [] := by
  have hslot := Registry.slotAt_switchOn registry 0 0
  have hlasting := @SimulatedHardware.lasting_wordWidths 1
  have hwidths : Hardware.wordWidths (registry.switchOn 0).hardware = Profile.uart.wordWidths :=
    (hlasting.upheld _).switchOn trivial hready.widths
  rw [if_pos rfl] at hslot
  exact
    { family := hready.family
      state := by rw [hslot]
      width := by
        rw [Registry.transferWidth_of_unset (hslot ▸ hready.unset), Registry.resetWidth, hwidths]
        rfl
      idle := hready.idle
      stored := ⟨.empty, hready.stored, Ring.toList_empty, Ring.toList_empty, rfl⟩ }

end Ready

/-- The registry of an echo before anything but its interrupts was asked for. -/
def claimed (clock : UInt32) : EchoRegistry :=
  (Registry.buffered { profile := .uart, clock } (Vector.replicate 1 .empty)
    Handle.one_lt_nullIndex SimulatedHardware.one_driven : EchoRegistry).claimInterrupts.2

theorem ready_hold (clock : UInt32) : Ready ((claimed clock).hold 0) where
  family := rfl
  state := rfl
  unset := rfl
  widths := rfl
  idle := rfl
  stored := rfl

theorem allocate_claimed (clock : UInt32) :
    (claimed clock).allocate = (.ok device, (claimed clock).hold 0) := by
  have hfirst : (claimed clock).firstUnused? = some 0 := rfl
  rw [Registry.allocate, hfirst]
  rfl

/-- Claiming the interrupts and opening the only UART succeed, so a start is a rate and a switch. -/
theorem start_eq (clock baud : UInt32) :
    start clock baud =
      (answered (((claimed clock).hold 0).setRate device (.hertz baud))).bind fun rated =>
        (answered (Registry.enable rated.2 device)).bind fun on => .ok (device, on.2) := by
  show ((answered (claimed clock).allocate).bind fun opened =>
    (answered (Registry.setRate opened.2 opened.1 (.hertz baud))).bind fun rated =>
      (answered (Registry.enable rated.2 opened.1)).bind fun on => .ok (opened.1, on.2)) = _
  rw [allocate_claimed]
  rfl

section Start

variable {clock baud : UInt32}

theorem start_of_unsolved {failure : Failure}
    (hunsolved : Family.uart.solve clock (.hertz baud) = .error failure) :
    start clock baud = .error failure := by
  have hrate := Registry.setRate_of_solve_error (ready_hold clock).locateOpen hunsolved
  rw [start_eq, hrate]
  rfl

theorem start_of_solved {divisor : Divisor}
    (hsolved : Family.uart.solve clock (.hertz baud) = .ok divisor) :
    exists registry, start clock baud = .ok (device, registry) ∧ Runs registry [] [] := by
  have hready := (ready_hold clock).adoptRate (.hertz baud) divisor
  have hrate := Registry.setRate_of_solve_ok (ready_hold clock).locateOpen hsolved
  refine ⟨_, ?_, hready.runs⟩
  rw [start_eq, hrate]
  simp only [answered, Except.bind, hready.enable]

end Start

/-- An echo before its first word was written. -/
def begun (registry : EchoRegistry) (output : List UInt8) : Echo :=
  { registry, line := .ofDepth lineDepth, written := 0, echoed := 0, output }

theorem working_begun (text output : List UInt8) {registry : EchoRegistry}
    (hruns : Runs registry [] []) : Working text output (begun registry output) [] [] [] where
  runs := hruns
  depth := rfl
  outgoing := rfl
  incoming := rfl
  order := rfl
  echoed := Nat.le_refl 0
  written := Nat.zero_le _
  chunk := Nat.zero_le _
  output := rfl

end Echo
end PeripheralBank
