import PeripheralBank.Proofs.Bench.Run
import PeripheralBank.Proofs.Line.Tapped
import PeripheralBank.Proofs.Registry.Service

/-!
# Paths

Every run is a path of small steps.  A step is the effect of one request, one change of the
hardware from outside, or one transfer between buffers and a line; marks of the interrupt side
are steps at which nothing happens.  What each step preserves, every run preserves.
-/

namespace PeripheralBank

variable {η : Type} [Inspectable η] {ω : Type} [Line ω] {n slots : Nat}

/-!
# Steps
-/

inductive Step (registry : Registry η Nat n slots) :
    List (Happening ω) -> Registry η Nat n slots -> Prop where
  | claimed (held : Bool) : Step registry [] { registry with interruptsClaimed := held }
  | marked (i : Fin n) (running : Bool) : Step registry [] (registry.setInService i running)
  | asked {request : Request Nat} {answer : Except Failure Reply}
      {after : Registry η Nat n slots} (heffect : request.Effect registry answer after) :
      Step registry [.answered request answer] after
  | advanced (index : Nat) (ticks : UInt32) :
      Step registry [.advanced index ticks]
        (registry.setHardware (Inspectable.advance index ticks registry.hardware).2)
  | clocked (hz : UInt32) :
      Step registry [.clocked hz]
        (registry.setHardware (Inspectable.setClock hz registry.hardware))
  | forgot :
      Step registry [.forgot]
        (registry.setHardware (Inspectable.clearEvents registry.hardware))
  | passed (index : Nat) (before : ω) {line : ω} (full : Bool)
      (hline : line = before ∨ line = Line.acknowledge before) :
      Step registry [.interrupted index before { line } full] registry
  | moved {i : Fin n} {buffers : Buffers slots} (before : ω)
      (hruns : (registry.slotAt i).state = .enabled)
      (hunbound : (registry.slotAt i).callback = none)
      (hstored : registry.buffersAt? i = some buffers) :
      Step registry
        [.interrupted i before (buffers.exchange (Tapped.acknowledged before)).2.2
          buffers.inbound.isFull]
        (registry.setBuffers i (buffers.exchange (Tapped.acknowledged before)).2.1)

/-!
# Paths and composition
-/

inductive Path : Registry η Nat n slots -> List (Happening ω) -> Registry η Nat n slots ->
    Prop where
  | nil (registry : Registry η Nat n slots) : Path registry [] registry
  | step {start middle final : Registry η Nat n slots} {now later : List (Happening ω)} :
      Step start now middle -> Path middle later final -> Path start (now ++ later) final

variable {start middle final : Registry η Nat n slots} {now later : List (Happening ω)}

theorem path_of_step (hstep : Step start now final) : Path start now final := by
  have hpath := Path.step hstep (Path.nil final)
  rwa [List.append_nil] at hpath

theorem path_append (hnow : Path start now middle) (hlater : Path middle later final) :
    Path start (now ++ later) final := by
  induction hnow with
  | nil _ => exact hlater
  | step hstep _ ih =>
      rw [List.append_assoc]
      exact Path.step hstep (ih hlater)

theorem path_of_silent (hstep : Step start ([] : List (Happening ω)) middle)
    (hlater : Path middle later final) : Path start later final :=
  Path.step hstep hlater

/-- What every step preserves, every path preserves, also where it speaks of all that happened
before. -/
theorem path_records {P : List (Happening ω) -> Registry η Nat n slots -> Prop}
    (hstep : forall {past now : List (Happening ω)} {start final : Registry η Nat n slots},
      Step start now final -> P past start -> P (past ++ now) final)
    (past : List (Happening ω)) (hpath : Path start now final) (hstart : P past start) :
    P (past ++ now) final := by
  induction hpath generalizing past with
  | nil _ =>
      rw [List.append_nil]
      exact hstart
  | step hfirst _ ih =>
      rw [← List.append_assoc]
      exact ih _ (hstep hfirst hstart)

theorem path_preserves {P : Registry η Nat n slots -> Prop}
    (hstep : forall {now : List (Happening ω)} {start final : Registry η Nat n slots},
      Step start now final -> P start -> P final)
    (hpath : Path start now final) (hstart : P start) : P final :=
  path_records (P := fun _ registry => P registry) hstep [] hpath hstart

/-!
# Runs are paths
-/

theorem path_of_request (request : Request Nat) (registry : Registry η Nat n slots) :
    Path registry ([.answered request (request.run registry).1] : List (Happening ω))
      (request.run registry).2 :=
  path_of_step (Step.asked (Request.effect_run request registry))

theorem path_of_command (command : Command) (registry : Registry η Nat n slots) :
    Path registry (command.happenings registry : List (Happening ω))
      (command.run registry).2 := by
  cases command with
  | request asked => exact path_of_request asked registry
  | snapshot device => exact path_of_request (.counter device) registry
  | handle index => exact Path.nil registry
  | registers index => exact Path.nil registry
  | faults => exact Path.nil registry
  | events => exact Path.nil registry
  | clearEvents => exact path_of_step Step.forgot
  | advance index ticks => exact path_of_step (Step.advanced index ticks)
  | setClock hz => exact path_of_step (Step.clocked hz)

theorem path_of_commands (commands : List Command) (registry : Registry η Nat n slots) :
    Path registry (Command.happeningsOf commands registry : List (Happening ω))
      (Command.runAll commands registry).2 := by
  induction commands generalizing registry with
  | nil => exact Path.nil registry
  | cons command rest ih =>
      exact path_append (path_of_command command registry) (ih (command.run registry).2)

theorem inboundFull_of_buffersAt? {registry : Registry η Nat n slots} {i : Fin n}
    {buffers : Buffers slots} (hstored : registry.buffersAt? i = some buffers) :
    registry.inboundFull i = buffers.inbound.isFull := by
  unfold Registry.buffersAt? at hstored
  unfold Registry.inboundFull
  cases hbuffers : registry.buffers with
  | none =>
      rw [hbuffers] at hstored
      cases hstored
  | some storage =>
      rw [hbuffers] at hstored
      cases hstored
      simp

theorem path_of_callback (registry : Registry η Nat n slots) (i : Fin n) (before : ω)
    (commands : List Command) (full : Bool) :
    Path registry
      (Command.happeningsOf commands (registry.setInService i true) ++
        [.interrupted i before (.acknowledged before) full])
      ((Command.runAll commands (registry.setInService i true)).2.setInService i false) := by
  apply path_of_silent (Step.marked i true)
  apply path_append (path_of_commands commands (registry.setInService i true))
  apply path_of_silent (Step.marked i false)
  exact path_of_step (Step.passed i before full (Or.inr rfl))

theorem path_of_exchange {registry : Registry η Nat n slots} {i : Fin n}
    {buffers : Buffers slots} (before : ω) (hruns : (registry.slotAt i).state = .enabled)
    (hunbound : (registry.slotAt i).callback = none)
    (hstored : registry.buffersAt? i = some buffers) :
    Path registry
      [.interrupted i before (buffers.exchange (.acknowledged before)).2.2
        buffers.inbound.isFull]
      (((registry.setInService i true).setBuffers i
        (buffers.exchange (Tapped.acknowledged before)).2.1).setInService i false) := by
  apply path_of_silent (Step.marked i true)
  have hmoved : Step (registry.setInService i true)
      [.interrupted i before (buffers.exchange (.acknowledged before)).2.2
        buffers.inbound.isFull] _ :=
    Step.moved before hruns hunbound hstored
  exact path_append (path_of_step hmoved) (path_of_step (Step.marked i false))

/-- The runs of callbacks beside a line and the tap on it are out of the way of a transfer. -/
theorem exchange_acknowledged (buffers : Buffers slots) (before : ω) :
    (buffers.exchange (Line.acknowledge (before, ([] : List CallbackRun)))).2.1 =
      (buffers.exchange (Tapped.acknowledged before)).2.1 := by
  have hbeside := buffers.exchange_hom Line.hom_fst
    (Line.acknowledge (before, ([] : List CallbackRun)))
  have huntapped := buffers.exchange_hom Tapped.hom_line (.acknowledged before)
  exact (congrArg (·.2.1) hbeside).symm.trans (congrArg (·.2.1) huntapped)

theorem exchange_tapped (buffers : Buffers slots) (before : ω) :
    (buffers.exchange (Line.acknowledge
      (({ line := before } : Tapped ω), ([] : List CallbackRun)))).2.2.1 =
      (buffers.exchange (Tapped.acknowledged before)).2.2 := by
  have hbeside := buffers.exchange_hom Line.hom_fst
    (Line.acknowledge (({ line := before } : Tapped ω), ([] : List CallbackRun)))
  exact (congrArg (·.2.2) hbeside).symm

theorem path_of_interrupt (registry : Registry η Nat n slots) (index : Nat) (before : ω)
    (scripts : List (List Command)) :
    Path registry ((Move.interrupt index before scripts).happenings registry)
      ((Move.interrupt index before scripts).run registry) := by
  unfold Move.happenings Move.run
  by_cases hin : index < n
  · obtain ⟨i, rfl⟩ : exists i : Fin n, i.val = index := ⟨⟨index, hin⟩, rfl⟩
    by_cases hruns : (registry.slotAt i).state = .enabled
    · cases hbound : (registry.slotAt i).callback with
      | some callback =>
          simp only [Registry.calledBack_callback scripts hruns hbound,
            Registry.interrupt_callback _ _ hruns hbound]
          exact path_of_callback registry i before (scripts.getD callback []) _
      | none =>
          cases hstored : registry.buffersAt? i with
          | none =>
              simp only [Registry.calledBack_unbound scripts hbound,
                Registry.interrupt_unbuffered _ _ hruns hbound hstored]
              apply path_of_silent (Step.marked i true)
              apply path_of_silent (Step.marked i false)
              exact path_of_step (Step.passed _ before _ (Or.inr rfl))
          | some buffers =>
              simp only [Registry.calledBack_unbound scripts hbound,
                Registry.interrupt_exchange _ _ hruns hbound hstored,
                inboundFull_of_buffersAt? hstored, exchange_acknowledged, exchange_tapped]
              exact path_of_exchange before hruns hbound hstored
    · simp only [Registry.calledBack_resting scripts hruns,
        Registry.interrupt_resting _ _ hruns]
      exact path_of_step (Step.passed _ before _ (Or.inr rfl))
  · have hempty : (registry.calledBack scripts index : List (Happening ω)) = [] := dif_neg hin
    simp only [hempty, Registry.interrupt_outside _ _ hin]
    exact path_of_step (Step.passed _ before _ (Or.inl rfl))

theorem path_of_move (move : Move ω) (registry : Registry η Nat n slots) :
    Path registry (move.happenings registry) (move.run registry) := by
  cases move with
  | command issued => exact path_of_command issued registry
  | claimInterrupts => exact path_of_step (Step.claimed true)
  | releaseInterrupts => exact path_of_step (Step.claimed false)
  | interrupt index before scripts => exact path_of_interrupt registry index before scripts

/-- Every run is a path along what happens in it. -/
theorem path_of_run (moves : List (Move ω)) (registry : Registry η Nat n slots) :
    Path registry (Move.happeningsOf moves registry) (Move.runAll moves registry) := by
  induction moves generalizing registry with
  | nil => exact Path.nil registry
  | cons move rest ih => exact path_append (path_of_move move registry) (ih (move.run registry))

end PeripheralBank
