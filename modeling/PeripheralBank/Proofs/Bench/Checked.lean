import PeripheralBank.Proofs.Bench.Addressed

/-!
# Checked handles in runs

Every answer of a run is one that a registry gives to a request in some state, so what is known of
requests in all states holds of runs.  With the handles checked, no index beyond the table comes to
the hardware, and simulated hardware never has to look for registers that are not there.
-/

namespace PeripheralBank

section Runs

variable {η : Type} [Inspectable η] {ω : Type} {n slots : Nat}

/-!
# Answers of a run
-/

theorem Command.exists_run_of_answered {request : Request Nat} {answer : Except Failure Reply}
    {commands : List Command} {registry : Registry η Nat n slots}
    (hmem : (.answered request answer : Happening ω) ∈ Command.happeningsOf commands registry) :
    exists before : Registry η Nat n slots, answer = (request.run before).1 := by
  induction commands generalizing registry with
  | nil => cases hmem
  | cons command rest ih =>
      rcases List.mem_append.mp hmem with hnow | hlater
      · cases command with
        | request asked =>
            cases List.mem_singleton.mp hnow
            exact ⟨registry, rfl⟩
        | snapshot device =>
            cases List.mem_singleton.mp hnow
            exact ⟨registry, rfl⟩
        | clearEvents | advance _ _ | setClock _ => cases List.mem_singleton.mp hnow
        | _ => cases hnow
      · exact ih hlater

/-- What a callback does is what some commands do to some registry. -/
theorem Registry.exists_commands_of_calledBack (registry : Registry η Nat n slots)
    (scripts : List (List Command)) (index : Nat) :
    exists commands, exists before : Registry η Nat n slots,
      (registry.calledBack scripts index : List (Happening ω)) =
        Command.happeningsOf commands before := by
  by_cases hin : index < n
  · obtain ⟨i, rfl⟩ : exists i : Fin n, i.val = index := ⟨⟨index, hin⟩, rfl⟩
    cases hbound : (registry.slotAt i).callback with
    | none => exact ⟨[], registry, calledBack_unbound scripts hbound⟩
    | some callback =>
        by_cases hruns : (registry.slotAt i).state = .enabled
        · exact ⟨_, _, calledBack_callback scripts hruns hbound⟩
        · exact ⟨[], registry, calledBack_resting scripts hruns⟩
  · exact ⟨[], registry, dif_neg hin⟩

/-- What was answered in a run, a registry answered in some state. -/
theorem Move.exists_run_of_answered {request : Request Nat} {answer : Except Failure Reply}
    [Line ω] {moves : List (Move ω)} {registry : Registry η Nat n slots}
    (hmem : .answered request answer ∈ Move.happeningsOf moves registry) :
    exists before : Registry η Nat n slots, answer = (request.run before).1 := by
  induction moves generalizing registry with
  | nil => cases hmem
  | cons move rest ih =>
      rcases List.mem_append.mp hmem with hnow | hlater
      · cases move with
        | command issued =>
            have hissued : .answered request answer ∈ Command.happeningsOf [issued] registry :=
              List.mem_append_left [] hnow
            exact Command.exists_run_of_answered hissued
        | claimInterrupts | releaseInterrupts => cases hnow
        | interrupt index line scripts =>
            rcases List.mem_append.mp hnow with hcalled | hended
            · rcases registry.exists_commands_of_calledBack (ω := ω) scripts index with
                ⟨commands, before, hcommands⟩
              rw [hcommands] at hcalled
              exact Command.exists_run_of_answered hcalled
            · cases List.mem_singleton.mp hended
      · exact ih hlater

end Runs

/-!
# Simulated hardware
-/

namespace SimulatedHardware

variable {m : Nat} {hardware : SimulatedHardware m} {index : Nat} (hin : index < m)
  {failure : Failure}
include hin

/-- The counters of instances that are there fail only where there are none in the family. -/
theorem failure_of_readCounter (hfailed : hardware.readCounter index = .error failure) :
    failure = .refused .unsupported := by
  unfold readCounter at hfailed
  split at hfailed
  · cases hfailed
  · cases hfailed
    rfl

theorem failure_of_writeCounter {value : UInt32}
    (hfailed : (hardware.writeCounter index value).1 = .error failure) :
    failure = .refused .unsupported := by
  unfold writeCounter at hfailed
  split at hfailed
  · cases hfailed
  · cases hfailed
    rfl

end SimulatedHardware

namespace Registry

variable {m n slots : Nat} {κ : Type}

/-- No counter of an instance makes simulated hardware fail for a place. -/
theorem counters_ne (registry : Registry (SimulatedHardware m) κ n slots) {barred : Failure}
    (hplace : barred.OfPlace) :
    (forall (hardware : SimulatedHardware m) (i : Fin n),
      (Hardware.readCounter hardware i).1 ≠ .error barred) ∧
    (forall (hardware : SimulatedHardware m) (i : Fin n) (value : UInt32),
      (Hardware.writeCounter hardware i value).1 ≠ .error barred) := by
  have hin (i : Fin n) : (i : Nat) < m := Nat.lt_of_lt_of_le i.isLt registry.driven
  constructor
  · intro hardware i hfailed
    rw [SimulatedHardware.failure_of_readCounter (hin i) hfailed] at hplace
    exact absurd hplace (by decide)
  · intro hardware i value hfailed
    rw [SimulatedHardware.failure_of_writeCounter (hin i) hfailed] at hplace
    exact absurd hplace (by decide)

/-- No request makes simulated hardware look for registers that are not there. -/
theorem run_ne_noSuchInstance (registry : Registry (SimulatedHardware m) κ n slots)
    (request : Request κ) : (request.run registry).1 ≠ .error .noSuchInstance := by
  have hplace : Failure.OfPlace .noSuchInstance := Or.inr rfl
  rcases registry.counters_ne hplace with ⟨hread, hwrite⟩
  cases hdevice : request.device? with
  | some handle =>
      have hscreened := registry.screened_run hplace hdevice hread hwrite
      cases hlocated : registry.locate handle with
      | ok i => exact hscreened.of_good hlocated
      | error failure =>
          have hbad : registry.locate handle = refuse .invalidHandle := by
            rw [hlocated, failure_of_locate hlocated]
            rfl
          rw [hscreened.of_bad hbad]
          intro hsame
          cases hsame
  | none =>
      cases request with
      | allocate =>
          intro hfailed
          simp only [Request.run, allocate] at hfailed
          split at hfailed
          · cases hfailed
          · cases hfailed
      | _ => cases hdevice

end Registry

/-!
# Handles
-/

/-- In every state, a registry turns down exactly the handles that are of none of its instances,
before it looks at anything else.  In every run, it addresses its hardware for the requests alone,
each time at the instance that the accepted handle names.  So no run over simulated hardware that
drives all instances gets to registers that are not there. -/
theorem handles_checked_before_use {η : Type} [Inspectable η] {n slots : Nat}
    (hread : forall (hardware : η) (i : Fin n),
      (Hardware.readCounter hardware i).1 ≠ refuse .invalidHandle)
    (hwrite : forall (hardware : η) (i : Fin n) (value : UInt32),
      (Hardware.writeCounter hardware i value).1 ≠ refuse .invalidHandle) :
    (forall (κ : Type) (registry : Registry η κ n slots), registry.ChecksHandles) ∧
    (forall (ω : Type) [Line ω] (start : Registry η Nat n slots) (moves : List (Move ω)),
      let listed := Move.runAll moves start.addressed
      listed.unaddressed = Move.runAll moves start ∧
        Attributed start.family n (Move.happeningsOf moves start) listed.hardware.addresses ∧
        forall index, index ∈ listed.hardware.addresses -> index < n) ∧
    (forall (m : Nat) (ω : Type) [Line ω] (start : Registry (SimulatedHardware m) Nat n slots)
      (moves : List (Move ω)),
      (forall (hardware : SimulatedHardware m) (index : Nat) (call : Call),
        index ∈ (Move.runAll moves start.addressed).hardware.addresses ->
          (hardware.perform? index call).1 = .ok ()) ∧
        forall request answer, .answered request answer ∈ Move.happeningsOf moves start ->
          answer ≠ .error .noSuchInstance) := by
  refine ⟨?_, ?_, ?_⟩
  · intro κ registry
    exact registry.checksHandles hread hwrite
  · intro ω _ start moves listed
    have hattributed := attributed_of_run start moves
    refine ⟨Registry.unaddressed_runAll moves start, hattributed, ?_⟩
    intro index hmem
    exact hattributed.lt hmem
  · intro m ω _ start moves
    constructor
    · intro hardware index call hmem
      have hin := (attributed_of_run start moves).lt hmem
      exact if_pos (Nat.lt_of_lt_of_le hin start.driven)
    · intro request answer hmem
      rcases Move.exists_run_of_answered hmem with ⟨before, rfl⟩
      exact before.run_ne_noSuchInstance request

/-- A registry of one timer over hardware of two.  The handle of the second timer is bad, and that
comes before the missing buffers, although there are registers for it. -/
theorem handles_checked_before_use_of_timer :
    let start : Registry (SimulatedHardware 2) Nat 1 4 :=
      .unbuffered { profile := .timer, clock := 8000000 }
    let device : Handle := ⟨1280⟩
    let beyond : Handle := ⟨1281⟩
    let moves : List (Move BareLine) :=
      [.command (.request .allocate), .command (.request (.setCounter device 7)),
        .command (.request (.setCounter beyond 9)), .command (.request (.counter device))]
    let listed := Move.runAll moves start.addressed
    (Request.run (.flush beyond) start).1 = refuse .invalidHandle ∧
      (Request.run (.flush device) start).1 = refuse .noBuffer ∧
      listed.hardware.addresses = [0, 0] ∧
      (forall index, index ∈ listed.hardware.addresses -> index < 1) ∧
      forall request answer, .answered request answer ∈ Move.happeningsOf moves start ->
        answer ≠ .error .noSuchInstance := by
  intro start device beyond moves listed
  have hplace : Failure.OfPlace (.refused .invalidHandle) := Or.inl rfl
  rcases start.counters_ne hplace with ⟨hread, hwrite⟩
  rcases handles_checked_before_use hread hwrite with ⟨hchecks, hcarries, hsimulated⟩
  have hbad : ¬ exists index, index < 1 ∧ beyond.raw.toNat = 256 * start.family.tag + index := by
    rintro ⟨index, hin, hraw⟩
    have htag : start.family.tag = 5 := rfl
    have hbeyond : beyond.raw.toNat = 1281 := rfl
    rw [htag, hbeyond] at hraw
    lia
  refine ⟨?_, by decide, by decide, ?_, ?_⟩
  · exact ((hchecks Nat start).refused_iff rfl).mpr hbad
  · exact (hcarries BareLine start moves).2.2
  · exact (hsimulated 2 BareLine start moves).2

end PeripheralBank
