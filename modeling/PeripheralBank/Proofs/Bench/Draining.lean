import PeripheralBank.Proofs.Bench.Path
import PeripheralBank.Proofs.Bench.Script
import PeripheralBank.Proofs.Registry.Frame
import PeripheralBank.Proofs.Simulation.Exchange
import PeripheralBank.Simulation.Hardware

/-!
# Draining the outbound buffer

Interrupts of an instance that runs without a callback send what waits in its outbound buffer, each
as much as the line has room for.  Whatever is done to other instances in between, and whatever
comes in on the line, the words go out in order and at the depth of the line.  So whoever handles
interrupts until all is flushed is done after as many as the words fill lines.
-/

namespace PeripheralBank

/-!
# Operations on other instances
-/

/-- Whether a request names another instance than that of an index, or none. -/
def Request.Spares {κ : Type} (index : Nat) (request : Request κ) : Prop :=
  forall handle, request.device? = some handle -> handle.index ≠ index

def Command.Spares (index : Nat) : Command -> Prop
  | .request asked => asked.Spares index
  | .snapshot device => device.index ≠ index
  | _ => True

/-- An interrupt of another instance may run any callback that spares the instance as well. -/
def Move.Spares {ω : Type} (index : Nat) : Move ω -> Prop
  | .command issued => issued.Spares index
  | .claimInterrupts | .releaseInterrupts => True
  | .interrupt place _ scripts => place ≠ index ∧
      forall script, script ∈ scripts -> forall command, command ∈ script -> command.Spares index

def Happening.Spares {ω : Type} (index : Nat) : Happening ω -> Prop
  | .answered request _ => request.Spares index
  | .interrupted place _ _ _ => place ≠ index
  | _ => True

section Spared

variable {η : Type} [Inspectable η] {ω : Type} {n slots : Nat} {index : Nat}
  {happening : Happening ω}

theorem Command.spares_happenings {command : Command} {registry : Registry η Nat n slots}
    (hspares : command.Spares index) (hmem : happening ∈ command.happenings registry) :
    happening.Spares index := by
  cases command with
  | request asked =>
      cases List.mem_singleton.mp hmem
      exact hspares
  | snapshot device =>
      cases List.mem_singleton.mp hmem
      intro handle hnamed
      cases hnamed
      exact hspares
  | clearEvents | advance _ _ | setClock _ =>
      cases List.mem_singleton.mp hmem
      trivial
  | handle _ | registers _ | faults | events => cases hmem

theorem Command.spares_happeningsOf {commands : List Command}
    {registry : Registry η Nat n slots}
    (hspares : forall command, command ∈ commands -> command.Spares index)
    (hmem : happening ∈ happeningsOf commands registry) : happening.Spares index := by
  induction commands generalizing registry with
  | nil => cases hmem
  | cons command rest ih =>
      rcases List.mem_append.mp hmem with hnow | hlater
      · exact spares_happenings (hspares command List.mem_cons_self) hnow
      · exact ih (fun later hrest => hspares later (List.mem_cons_of_mem command hrest)) hlater

theorem Move.spares_happeningsOf [Line ω] {moves : List (Move ω)}
    {registry : Registry η Nat n slots}
    (hspares : forall move, move ∈ moves -> move.Spares index)
    (hmem : happening ∈ happeningsOf moves registry) : happening.Spares index := by
  induction moves generalizing registry with
  | nil => cases hmem
  | cons move rest ih =>
      have hmove := hspares move List.mem_cons_self
      rcases List.mem_append.mp hmem with hnow | hlater
      · cases move with
        | command issued => exact Command.spares_happenings hmove hnow
        | claimInterrupts | releaseInterrupts => cases hnow
        | interrupt place line scripts =>
            rcases List.mem_append.mp hnow with hcalled | hended
            · rw [Registry.calledBack_eq_script] at hcalled
              refine Command.spares_happeningsOf (fun command hcommand => ?_) hcalled
              rcases Registry.exists_script_of_mem scripts hcommand with ⟨script, hscript, hin⟩
              exact hmove.right script hscript command hin
            · cases List.mem_singleton.mp hended
              exact hmove.left
      · exact ih (fun later hrest => hspares later (List.mem_cons_of_mem move hrest)) hlater

end Spared

/-!
# Words that wait
-/

theorem Request.eq_allocate_of_device? {κ : Type} {request : Request κ}
    (hnone : request.device? = none) : request = .allocate := by
  cases request with
  | allocate => rfl
  | _ => cases hnone

namespace Registry

variable {η : Type} {n slots : Nat} {handle : Handle} {i : Fin n} {words : List UInt16}

/-- An instance runs without a callback, and these words wait in its outbound buffer. -/
structure Waits [Hardware η] {κ : Type} (registry : Registry η κ n slots) (handle : Handle)
    (i : Fin n) (words : List UInt16) : Prop where
  located : registry.locate handle = .ok i
  runs : (registry.slotAt i).state = .enabled
  unbound : (registry.slotAt i).callback = none
  stored : exists buffers, registry.buffersAt? i = some buffers ∧ buffers.outbound.toList = words

section Kept

variable [Hardware η] {κ : Type} {registry after : Registry η κ n slots}

theorem locate_of_family (hfamily : after.family = registry.family) (handle : Handle) :
    after.locate handle = registry.locate handle := by
  unfold locate
  rw [hfamily]

theorem Waits.of_kept (hwaits : registry.Waits handle i words)
    (hfamily : after.family = registry.family) (hslot : after.slotAt i = registry.slotAt i)
    (hbuffers : after.buffersAt? i = registry.buffersAt? i) : after.Waits handle i words where
  located := (locate_of_family hfamily handle).trans hwaits.located
  runs := hslot ▸ hwaits.runs
  unbound := hslot ▸ hwaits.unbound
  stored := hbuffers ▸ hwaits.stored

theorem Waits.hold (hwaits : registry.Waits handle i words) {k : Fin n}
    (hfree : (registry.slotAt k).state = .unused) : (registry.hold k).Waits handle i words := by
  have hother : k ≠ i := by
    rintro rfl
    rw [hwaits.runs] at hfree
    cases hfree
  refine hwaits.of_kept rfl ?_ rfl
  rw [slotAt_hold, if_neg hother]

theorem waits_of_effect {request : Request κ} {answer : Except Failure Reply}
    (heffect : request.Effect registry answer after) (hspares : request.Spares i)
    (hwaits : registry.Waits handle i words) : after.Waits handle i words := by
  cases hnamed : request.device? with
  | some device =>
      have hoff : device.index ≠ i := hspares device hnamed
      have hwithin : request.Within (· = device.index) := by
        unfold Request.Within
        rw [hnamed]
      have hsame := SameOff.of_effect heffect hwithin
      exact hwaits.of_kept hsame.family (hsame.slots i hoff) (hsame.buffers i hoff)
  | none =>
      cases Request.eq_allocate_of_device? hnamed
      cases heffect with
      | failed _ _ => exact hwaits
      | told _ hasks => cases hasks
      | allocated hfree => exact hwaits.hold (unused_of_firstUnused? hfree)

/-- Where no words wait all is flushed; else the transmit interrupt is kicked. -/
theorem Waits.flush_eq (hwaits : registry.Waits handle i words) :
    registry.flush handle =
      if words = [] then (.ok true, registry) else (.ok false, registry.call i .kickTransmit) := by
  rcases hwaits.stored with ⟨buffers, hstored, rfl⟩
  have hlocated : registry.locateBuffers handle = .ok (i, buffers) := by
    simp only [locateBuffers, hwaits.located, hstored, hwaits.runs, reduceCtorEq, if_false]
  have hempty : buffers.outbound.toList = [] ↔ buffers.outbound.size = 0 := by
    rw [← List.length_eq_zero_iff, Ring.length_toList]
  unfold flush
  rw [hlocated]
  simp only [hempty]

/-- An interrupt on a line with nothing to transmit puts as many words on it as it has room for. -/
theorem Waits.interrupt (hwaits : registry.Waits handle i words)
    (invoke : κ -> SimulatedLine -> Registry η κ n slots -> SimulatedLine × Registry η κ n slots)
    {line : SimulatedLine} (hempty : line.outgoing = [])
    (hfifo : line.depth ≤ SimulatedLine.fifoSize) :
    exists service served final, registry.interrupt invoke i line = (.ok service, served, final) ∧
      served.depth = line.depth ∧ served.outgoing = words.take line.depth ∧
      final.Waits handle i (words.drop line.depth) := by
  rcases hwaits.stored with ⟨buffers, hstored, rfl⟩
  rcases exchanged_interrupt invoke hwaits.runs hwaits.unbound hstored hfifo with
    ⟨moved, served, hinterrupt, hexchanged⟩
  have htaken : SimulatedLine.taken buffers.outbound line =
      min line.depth buffers.outbound.toList.length := by
    rw [SimulatedLine.taken, hempty, Ring.length_toList, Nat.min_comm]
    rfl
  refine ⟨_, served, _, hinterrupt, hexchanged.depth, ?_, ?_⟩
  · rw [hexchanged.outgoing, hempty, htaken, ← List.take_eq_take_min, List.nil_append]
  · refine { located := hwaits.located, runs := hwaits.runs, unbound := hwaits.unbound,
             stored := ⟨moved, ?_, ?_⟩ }
    · show (registry.setBuffers i moved).buffersAt? i = some moved
      rw [buffersAt?_setBuffers, if_pos rfl, hstored]
      rfl
    · rw [hexchanged.outbound, htaken, ← List.drop_eq_drop_min]

end Kept

section Runs

variable [Inspectable η] {ω : Type} [Line ω] {registry after : Registry η Nat n slots}

theorem waits_of_step {now : List (Happening ω)} (hstep : Step registry now after)
    (hspares : forall happening, happening ∈ now -> happening.Spares i)
    (hwaits : registry.Waits handle i words) : after.Waits handle i words := by
  cases hstep with
  | claimed _ | marked _ _ | advanced _ _ | clocked _ | forgot => exact hwaits.of_kept rfl rfl rfl
  | asked heffect => exact waits_of_effect heffect (hspares _ List.mem_cons_self) hwaits
  | passed _ _ _ _ => exact hwaits
  | @moved k buffers before _ _ _ =>
      have hother : k ≠ i := fun hsame =>
        hspares _ List.mem_cons_self (congrArg Fin.val hsame)
      refine hwaits.of_kept rfl rfl ?_
      rw [buffersAt?_setBuffers, if_neg hother]

/-- Words that wait go on waiting while all that happens spares their instance. -/
theorem waits_of_run {moves : List (Move ω)}
    (hspares : forall move, move ∈ moves -> move.Spares i)
    (hwaits : registry.Waits handle i words) :
    (Move.runAll moves registry).Waits handle i words := by
  have hrun := path_records
    (P := fun past after => (forall happening, happening ∈ past -> happening.Spares i) ->
      after.Waits handle i words)
    (fun hstep hbefore hall => waits_of_step hstep
      (fun happening hnow => hall happening (List.mem_append_right _ hnow))
      (hbefore fun happening hpast => hall happening (List.mem_append_left _ hpast)))
    [] (path_of_run moves registry) (fun _ => hwaits)
  exact hrun fun happening hmem => Move.spares_happeningsOf hspares hmem

end Runs
end Registry

/-!
# Lines that were emptied
-/

namespace LineStep

def runAll (steps : List LineStep) (line : SimulatedLine) : SimulatedLine :=
  steps.foldl (fun line step => (step.run line).2) line

/-- The steps that take all words out of the transmit queue. -/
def empties : LineStep -> Bool
  | drain | drainBytes | loopBack => true
  | _ => false

/-- The steps that put words into the transmit queue. -/
def fills : LineStep -> Bool
  | transmit _ => true
  | _ => false

/-- Steps of which one empties the transmit queue and none after that fills it. -/
inductive Emptying : List LineStep -> Prop where
  | now {step : LineStep} {rest : List LineStep} (hempties : step.empties = true)
      (hrest : forall later, later ∈ rest -> later.fills = false) : Emptying (step :: rest)
  | later (step : LineStep) {rest : List LineStep} (hrest : Emptying rest) :
      Emptying (step :: rest)

variable {line : SimulatedLine}

theorem outgoing_run_of_empties {step : LineStep} (hempties : step.empties = true) :
    (step.run line).2.outgoing = [] := by
  cases step with
  | drain | drainBytes => rfl
  | loopBack => exact line.outgoing_loopBack
  | raise | arrive _ | inspect | acknowledge | transmit _ | receive => cases hempties

theorem outgoing_run_of_empty {step : LineStep} (hfills : step.fills = false)
    (hempty : line.outgoing = []) : (step.run line).2.outgoing = [] := by
  cases step with
  | drain | drainBytes => rfl
  | loopBack => exact line.outgoing_loopBack
  | raise | inspect | acknowledge => exact hempty
  | arrive words => exact (line.outgoing_arriveAll words).trans hempty
  | transmit _ => cases hfills
  | receive =>
      show line.receive.2.outgoing = []
      rw [line.receive_eq]
      exact hempty

theorem outgoing_runAll_of_empty {steps : List LineStep}
    (hsteps : forall step, step ∈ steps -> step.fills = false) (hempty : line.outgoing = []) :
    (runAll steps line).outgoing = [] := by
  induction steps generalizing line with
  | nil => exact hempty
  | cons step rest ih =>
      have hnow := outgoing_run_of_empty (hsteps step List.mem_cons_self) hempty
      exact ih (fun later hmem => hsteps later (List.mem_cons_of_mem step hmem)) hnow

theorem Emptying.outgoing_runAll {steps : List LineStep} (hemptying : Emptying steps)
    (line : SimulatedLine) : (runAll steps line).outgoing = [] := by
  induction hemptying generalizing line with
  | @now step rest hempties hrest =>
      have hnow : (step.run line).2.outgoing = [] := outgoing_run_of_empties hempties
      have hlater := outgoing_runAll_of_empty hrest hnow
      exact hlater
  | later step _ ih => exact ih (step.run line).2

theorem depth_runAll (steps : List LineStep) (line : SimulatedLine) :
    (runAll steps line).depth = line.depth := by
  induction steps generalizing line with
  | nil => rfl
  | cons step rest ih => exact (ih (step.run line).2).trans (line.depth_run step)

end LineStep

/-!
# Rounds
-/

/-- What happens before an interrupt, on the registry and on the line.  In the end the line has
nothing left to transmit. -/
structure Pause where
  moves : List (Move SimulatedLine)
  steps : List LineStep
  emptying : LineStep.Emptying steps

def Pause.Spares (index : Nat) (pause : Pause) : Prop :=
  forall move, move ∈ pause.moves -> move.Spares index

/-- A registry and a line, with the words that interrupts have put on the line so far. -/
structure Sending (η : Type) [Inspectable η] (n slots : Nat) where
  sent : List UInt16 := []
  line : SimulatedLine
  registry : Registry η Nat n slots

namespace Sending

variable {η : Type} [Inspectable η] {n slots : Nat}
  (invoke : Nat -> SimulatedLine -> Registry η Nat n slots ->
    SimulatedLine × Registry η Nat n slots)

/-- A pause and the interrupt that ends it. -/
def round (index : Nat) (sending : Sending η n slots) (pause : Pause) : Sending η n slots :=
  let registry := Move.runAll pause.moves sending.registry
  let served := registry.interrupt invoke index (LineStep.runAll pause.steps sending.line)
  { sent := sending.sent ++ served.2.1.outgoing, line := served.2.1, registry := served.2.2 }

def rounds (index : Nat) (pauses : List Pause) (sending : Sending η n slots) :
    Sending η n slots :=
  pauses.foldl (round invoke index) sending

/-- Handles one interrupt after the other until all is flushed, and counts them.  Gives up when
there are no more pauses to wait for. -/
def untilFlushed (handle : Handle) (index : Nat) :
    List Pause -> Sending η n slots -> Option (Nat × Sending η n slots)
  | pauses, sending =>
      match sending.registry.flush handle with
      | (.error _, _) => none
      | (.ok true, registry) => some (0, { sending with registry })
      | (.ok false, registry) =>
          match pauses with
          | [] => none
          | pause :: rest =>
              (untilFlushed handle index rest
                (round invoke index { sending with registry } pause)).map fun (count, last) =>
                  (count + 1, last)

/-- The words that wait while a line of some depth sends them. -/
structure Holds (sending : Sending η n slots) (handle : Handle) (i : Fin n) (depth : Nat)
    (words : List UInt16) : Prop where
  depth : sending.line.depth = depth
  waits : sending.registry.Waits handle i words

variable {handle : Handle} {i : Fin n} {depth : Nat} {words : List UInt16}
  {sending : Sending η n slots}

theorem Holds.round {pause : Pause} (hholds : sending.Holds handle i depth words)
    (hfifo : depth ≤ SimulatedLine.fifoSize) (hspares : pause.Spares i) :
    (sending.round invoke i pause).sent = sending.sent ++ words.take depth ∧
      (sending.round invoke i pause).Holds handle i depth (words.drop depth) := by
  have hdepth := (LineStep.depth_runAll pause.steps sending.line).trans hholds.depth
  rcases (Registry.waits_of_run hspares hholds.waits).interrupt invoke
    (pause.emptying.outgoing_runAll sending.line) (hdepth.symm ▸ hfifo) with
    ⟨service, served, final, hinterrupt, hkept, hsent, hwaits⟩
  rw [hdepth] at hkept hsent hwaits
  simp only [Sending.round, hinterrupt]
  exact ⟨congrArg (sending.sent ++ ·) hsent, hkept, hwaits⟩

/-- Each round sends as many words as the line has room for, until none are left. -/
theorem Holds.rounds {pauses : List Pause} (hholds : sending.Holds handle i depth words)
    (hfifo : depth ≤ SimulatedLine.fifoSize)
    (hspares : forall pause, pause ∈ pauses -> pause.Spares i) :
    (sending.rounds invoke i pauses).sent =
        sending.sent ++ words.take (pauses.length * depth) ∧
      (sending.rounds invoke i pauses).Holds handle i depth
        (words.drop (pauses.length * depth)) := by
  induction pauses generalizing sending words with
  | nil =>
      rw [List.length_nil, Nat.zero_mul, List.take_zero, List.drop_zero, List.append_nil]
      exact ⟨rfl, hholds⟩
  | cons pause rest ih =>
      rcases hholds.round invoke hfifo (hspares pause List.mem_cons_self) with
        ⟨hsent, hnext⟩
      have hcount : (pause :: rest).length * depth = depth + rest.length * depth := by
        rw [List.length_cons, Nat.add_mul, Nat.one_mul, Nat.add_comm]
      rw [hcount, List.take_add, ← List.drop_drop, ← List.append_assoc, ← hsent]
      exact ih hnext fun later hmem => hspares later (List.mem_cons_of_mem pause hmem)

/-!
# As many interrupts as it takes
-/

theorem ceil_div_zero {depth : Nat} (hdepth : 0 < depth) : (0 + depth - 1) / depth = 0 :=
  Nat.div_eq_of_lt (by lia)

/-- What is left after one line takes one line less. -/
theorem ceil_div_succ {count depth : Nat} (hcount : 0 < count) (hdepth : 0 < depth) :
    (count + depth - 1) / depth = (count - depth + depth - 1) / depth + 1 := by
  rcases Nat.le_total depth count with hle | hge
  · have hsum : count + depth - 1 = count - depth + depth - 1 + depth := by lia
    rw [hsum, Nat.add_div_right _ hdepth]
  · rw [Nat.sub_eq_zero_of_le hge, ceil_div_zero hdepth]
    exact Nat.div_eq_of_lt_le (by lia) (by lia)

/-- A run of the loop that took as many interrupts as the words fill lines, and sent them all. -/
def Flushes (sending : Sending η n slots) (handle : Handle) (i : Fin n) (depth : Nat)
    (words : List UInt16) (outcome : Option (Nat × Sending η n slots)) : Prop :=
  exists last, outcome = some ((words.length + depth - 1) / depth, last) ∧
    last.sent = sending.sent ++ words ∧ last.Holds handle i depth []

theorem Holds.flushes_nil (pauses : List Pause) (hholds : sending.Holds handle i depth [])
    (hdepth : 0 < depth) :
    sending.Flushes handle i depth [] (sending.untilFlushed invoke handle i pauses) := by
  refine ⟨sending, ?_, (List.append_nil _).symm, hholds⟩
  unfold Sending.untilFlushed
  rw [hholds.waits.flush_eq, if_pos rfl, List.length_nil, ceil_div_zero hdepth]

theorem Holds.untilFlushed_cons {pause : Pause} {rest : List Pause}
    (hholds : sending.Holds handle i depth words) (hwords : words ≠ []) :
    sending.untilFlushed invoke handle i (pause :: rest) =
      ((({ sending with registry := sending.registry.call i .kickTransmit } :
        Sending η n slots).round invoke i pause).untilFlushed invoke handle i rest).map
          fun (count, last) => (count + 1, last) := by
  rw [Sending.untilFlushed, hholds.waits.flush_eq, if_neg hwords]

theorem Holds.call (hholds : sending.Holds handle i depth words) (call : Call) :
    ({ sending with registry := sending.registry.call i call } : Sending η n slots).Holds handle i
      depth words where
  depth := hholds.depth
  waits := hholds.waits.of_kept rfl rfl rfl

/-- The loop ends as soon as the last word was sent. -/
theorem Holds.flushes {pauses : List Pause} (hholds : sending.Holds handle i depth words)
    (hdepth : 0 < depth) (hfifo : depth ≤ SimulatedLine.fifoSize)
    (hspares : forall pause, pause ∈ pauses -> pause.Spares i)
    (henough : (words.length + depth - 1) / depth ≤ pauses.length) :
    sending.Flushes handle i depth words (sending.untilFlushed invoke handle i pauses) := by
  induction pauses generalizing sending words with
  | nil =>
      cases words with
      | nil => exact hholds.flushes_nil invoke [] hdepth
      | cons word others =>
          have hpositive : 0 < (word :: others).length := Nat.succ_pos _
          rw [ceil_div_succ hpositive hdepth] at henough
          cases henough
  | cons pause rest ih =>
      cases words with
      | nil => exact hholds.flushes_nil invoke (pause :: rest) hdepth
      | cons word others =>
          have hpositive : 0 < (word :: others).length := Nat.succ_pos _
          have hcount := ceil_div_succ hpositive hdepth
          rw [hcount, ← List.length_drop] at henough
          rcases (hholds.call .kickTransmit).round invoke hfifo
            (hspares pause List.mem_cons_self) with ⟨hsent, hnext⟩
          rcases ih hnext (fun later hmem => hspares later (List.mem_cons_of_mem pause hmem))
            (Nat.le_of_succ_le_succ henough) with ⟨last, hrun, hlast, hdone⟩
          refine ⟨last, ?_, ?_, hdone⟩
          · rw [hholds.untilFlushed_cons invoke (List.cons_ne_nil word others), hrun, hcount,
              List.length_drop]
            rfl
          · rw [hlast, hsent, List.append_assoc, List.take_append_drop]

end Sending

/-!
# The buffer of an instance
-/

/-- The outbound buffer drains at the depth of the line.  After so many interrupts, each on a line
that was emptied before, the oldest words went out in order, as many as these lines had room for.
Asking whether all is flushed says so exactly once they had room for all words, and kicks the
transmit interrupt until then.  So asking and handling interrupts in turn ends with all words sent,
after as many interrupts as the words fill lines. -/
theorem outbound_drains {η : Type} [Inspectable η] {n slots : Nat}
    {registry : Registry η Nat n slots} {handle : Handle} {i : Fin n} {buffers : Buffers slots}
    (hlocated : registry.locate handle = .ok i) (hruns : (registry.slotAt i).state = .enabled)
    (hunbound : (registry.slotAt i).callback = none)
    (hstored : registry.buffersAt? i = some buffers)
    {line : SimulatedLine} (hdepth : 1 ≤ line.depth) (hfifo : line.depth ≤ SimulatedLine.fifoSize)
    (invoke : Nat -> SimulatedLine -> Registry η Nat n slots ->
      SimulatedLine × Registry η Nat n slots)
    {pauses : List Pause} (hspares : forall pause, pause ∈ pauses -> pause.Spares i) :
    let waiting := buffers.outbound.toList
    let start : Sending η n slots := { line, registry }
    let room := pauses.length * line.depth
    let final := start.rounds invoke i pauses
    final.sent = waiting.take (min waiting.length room) ∧
      (exists left, final.registry.buffersAt? i = some left ∧
        left.outbound.toList = waiting.drop room) ∧
      final.registry.flush handle =
        (if waiting.length ≤ room then (.ok true, final.registry)
          else (.ok false, final.registry.call i .kickTransmit)) ∧
      ((waiting.length + line.depth - 1) / line.depth ≤ pauses.length ->
        exists last, start.untilFlushed invoke handle i pauses =
            some ((waiting.length + line.depth - 1) / line.depth, last) ∧
          last.sent = waiting) := by
  intro waiting start room final
  have hholds : start.Holds handle i line.depth waiting :=
    { depth := rfl
      waits := ⟨hlocated, hruns, hunbound, buffers, hstored, rfl⟩ }
  rcases hholds.rounds invoke hfifo hspares with ⟨hsent, hfinal⟩
  refine ⟨?_, hfinal.waits.stored, ?_, ?_⟩
  · rw [hsent, Nat.min_comm, ← List.take_eq_take_min]
    rfl
  · rw [hfinal.waits.flush_eq]
    simp only [List.drop_eq_nil_iff]
    rfl
  · intro henough
    rcases hholds.flushes invoke hdepth hfifo hspares henough with ⟨last, hrun, hlast, _⟩
    exact ⟨last, hrun, hlast⟩

/-- Five words of nine bits fill three lines of two words, while another UART is used and what was
sent comes in again. -/
theorem outbound_drains_of_nine_bit_words :
    let fresh : Registry (SimulatedHardware 2) Nat 2 8 :=
      .buffered { profile := .uart, clock := 8000000 } (Vector.replicate 2 .empty)
    let device := fresh.handle 0
    let frame : List UInt16 := [416, 17, 34, 417, 51]
    let opened : List (Move SimulatedLine) :=
      [.command (.request (.acquire device)), .command (.request (.setWordWidth device 9)),
        .command (.request (.enable device)), .command (.request (.writeWords device frame))]
    let registry := Move.runAll opened fresh
    let pause : Pause :=
      { moves := [.command (.request .allocate)]
        steps := [.loopBack, .raise]
        emptying := .now rfl (by simp [LineStep.fills]) }
    let start : Sending (SimulatedHardware 2) 2 8 := { line := .ofDepth 2, registry }
    exists last,
      start.untilFlushed (fun _ line registry => (line, registry)) device 0 [pause, pause, pause] =
        some (3, last) ∧ last.sent = frame := by
  intro fresh device frame opened registry pause start
  have hlocated : registry.locate device = .ok 0 := by decide
  have hruns : (registry.slotAt 0).state = .enabled := by decide
  have hunbound : (registry.slotAt 0).callback = none := by decide
  have hwaiting : (registry.buffersAt? 0).map (·.outbound.toList) = some frame := by decide
  rcases Option.map_eq_some_iff.mp hwaiting with ⟨buffers, hstored, hframe⟩
  have hspares : forall pause', pause' ∈ [pause, pause, pause] -> pause'.Spares 0 := by
    intro pause' hmem move hmove
    simp only [List.mem_cons, List.not_mem_nil, or_false, or_self] at hmem
    subst hmem
    cases List.mem_singleton.mp hmove
    exact nofun
  have hdepth : 1 ≤ (SimulatedLine.ofDepth 2).depth := by decide
  have hfifo : (SimulatedLine.ofDepth 2).depth ≤ SimulatedLine.fifoSize := by decide
  rcases outbound_drains hlocated hruns hunbound hstored hdepth hfifo
    (fun _ line registry => (line, registry)) hspares with ⟨_, _, _, hloop⟩
  have hcount : (frame.length + (SimulatedLine.ofDepth 2).depth - 1) /
      (SimulatedLine.ofDepth 2).depth = 3 := by decide
  rw [hframe, hcount] at hloop
  exact hloop (Nat.le_refl 3)

end PeripheralBank
