import PeripheralBank.Proofs.Divider.Legality
import PeripheralBank.Proofs.Registry.Service
import PeripheralBank.Simulation.Hardware

/-!
# What failures leave behind

On simulated hardware an operation that fails changes nothing: every check comes before
the first change, and a counter that is not there is neither read nor written.  The only
failure that is no answer is left out.  Closing from within the interrupt of the same
instance turns it off and then waits for an end that does not come.
-/

namespace PeripheralBank

theorem SimulatedHardware.writeCounter_of_error {m : Nat} {hardware : SimulatedHardware m}
    {index : Nat} {value : UInt32} {failure : Failure}
    (hfailed : (hardware.writeCounter index value).1 = .error failure) :
    (hardware.writeCounter index value).2 = hardware := by
  unfold writeCounter at hfailed ⊢
  split
  · rename_i hcounts
    rw [if_pos hcounts] at hfailed
    split
    · rename_i hin
      rw [if_pos hin] at hfailed
      cases hfailed
    · rfl
  · rfl

namespace Registry

variable {κ : Type} {m n slots : Nat}

theorem eq_of_failed_effect {registry after : Registry (SimulatedHardware m) κ n slots}
    {request : Request κ} {answer : Except Failure Reply} {failure : Failure}
    (heffect : request.Effect registry answer after) (hfailed : answer = .error failure)
    (hreturns : failure ≠ .selfWait) : after = registry := by
  cases heffect with
  | failed _ _ => rfl
  | waited _ _ =>
      cases hfailed
      exact absurd rfl hreturns
  | counted _ => rfl
  | @recounted _ i _ value =>
      cases hwritten : (Hardware.writeCounter registry.hardware i value).1 with
      | ok done =>
          rw [hwritten] at hfailed
          cases hfailed
      | error cause =>
          have hsame : (Hardware.writeCounter registry.hardware i value).2 = registry.hardware :=
            SimulatedHardware.writeCounter_of_error hwritten
          rw [hsame]
          rfl
  | _ => cases hfailed

section Hardware

variable {η : Type} [Hardware η] {registry : Registry η κ n slots} {handle : Handle}
  {failure : Failure}

theorem read_of_error {output : List UInt8}
    (hfailed : (registry.read handle output).1 = .error failure) :
    (registry.read handle output).2 = (output, registry) := by
  unfold read at hfailed ⊢
  cases hlocated : registry.locateBuffers handle with
  | error cause => rfl
  | ok located =>
      rcases located with ⟨i, buffers⟩
      simp only [hlocated] at hfailed ⊢
      split
      · rfl
      · rename_i hnarrow
        rw [if_neg hnarrow] at hfailed
        cases hfailed

theorem readWords_of_error {output : List UInt16}
    (hfailed : (registry.readWords handle output).1 = .error failure) :
    (registry.readWords handle output).2 = (output, registry) := by
  unfold readWords at hfailed ⊢
  cases hlocated : registry.locateBuffers handle with
  | error cause => rfl
  | ok located =>
      rw [hlocated] at hfailed
      cases hfailed

/-- A rate fails for the reason for which no divisor is found. -/
theorem setRate_of_unsolved {i : Fin n} {rate : Rate}
    (hheld : registry.locateOpen handle = .ok i)
    (hunsolved : (Hardware.chain registry.hardware).solve (Hardware.clock registry.hardware) rate =
      .error failure) :
    (Request.run (.setRate handle rate) registry).1 = .error failure := by
  show (registry.setRate handle rate).1.map Reply.divisor = _
  rw [setRate_of_solve_error hheld hunsolved]
  rfl

/-- An interrupt fails only outside the table, before its line is touched. -/
theorem interrupt_of_error {ω : Type} [Line ω]
    {invoke : κ -> ω -> Registry η κ n slots -> ω × Registry η κ n slots} {index : Nat}
    {line : ω}
    (hfailed : (registry.interrupt invoke index line).1 = .error failure) :
    (registry.interrupt invoke index line).2 = (line, registry) := by
  by_cases hin : index < n
  · obtain ⟨i, rfl⟩ : exists i : Fin n, i.val = index := ⟨⟨index, hin⟩, rfl⟩
    by_cases hruns : (registry.slotAt i).state = .enabled
    · rw [interrupt_running invoke line hruns] at hfailed
      cases hfailed
    · rw [interrupt_resting invoke line hruns] at hfailed
      cases hfailed
  · rw [interrupt_outside invoke line hin]

end Hardware

/-- Whatever state a registry over simulated hardware is in, an operation that fails leaves all
of it as it was, and so are the output that the caller lent for a read and the line of an
interrupt. -/
theorem failure_changes_nothing (registry : Registry (SimulatedHardware m) κ n slots) :
    (forall (request : Request κ) (failure : Failure),
      (request.run registry).1 = .error failure -> failure ≠ .selfWait ->
        (request.run registry).2 = registry) ∧
    (forall (handle : Handle) (output : List UInt8) (failure : Failure),
      (registry.read handle output).1 = .error failure ->
        (registry.read handle output).2 = (output, registry)) ∧
    (forall (handle : Handle) (output : List UInt16) (failure : Failure),
      (registry.readWords handle output).1 = .error failure ->
        (registry.readWords handle output).2 = (output, registry)) ∧
    (forall (ω : Type) [Line ω]
      (invoke : κ -> ω -> Registry (SimulatedHardware m) κ n slots ->
        ω × Registry (SimulatedHardware m) κ n slots)
      (index : Nat) (line : ω) (failure : Failure),
      (registry.interrupt invoke index line).1 = .error failure ->
        (registry.interrupt invoke index line).2 = (line, registry)) := by
  refine ⟨?_, ?_, ?_, ?_⟩
  · intro request failure hfailed hreturns
    exact eq_of_failed_effect (Request.effect_run request registry) hfailed hreturns
  · intro handle output failure hfailed
    exact read_of_error hfailed
  · intro handle output failure hfailed
    exact readWords_of_error hfailed
  · intro ω _ invoke index line failure hfailed
    exact interrupt_of_error hfailed

/-- A rate that would be divided by a ratio of zero, a read of bytes that are too wide for it and
an interrupt beyond the table, on an instance that runs with words to send. -/
theorem failure_changes_nothing_of_zero_ratio :
    let chain : Chain := { primary := .table [0], secondary := .range 1 8 }
    let hardware : SimulatedHardware 1 :=
      { profile := { Profile.uart with chain, wordWidths := [9] }, clock := 8000000 }
    let start : Registry (SimulatedHardware 1) Nat 1 4 :=
      .buffered hardware (Vector.replicate 1 .empty)
    let opened := start.allocate.2
    let registry := ((opened.enable (opened.handle 0)).2.writeWords (opened.handle 0) [7, 511]).2
    let rated := Request.run (.setRate (opened.handle 0) (.hertz 9600)) registry
    let read := registry.read (opened.handle 0) [1, 2, 3]
    let words := registry.readWords .null [4]
    let served := registry.interrupt (fun _ line registry => (line, registry)) 1 ({} : BareLine)
    (rated.1 = .error .zeroRatio ∧ rated.2 = registry) ∧
      (read.1 = refuse .invalidState ∧ read.2 = ([1, 2, 3], registry)) ∧
      (words.1 = refuse .invalidHandle ∧ words.2 = ([4], registry)) ∧
      served.1 = refuse .invalidHandle ∧ served.2 = ({}, registry) := by
  intro chain hardware start opened registry rated read words served
  have hunsolved : chain.solve 8000000 (.hertz 9600) = .error .zeroRatio := by
    have hready : chain.Ready 8000000 833 :=
      { primary := by simp [chain, Stage.Barren]
        secondary := by simp [chain, Stage.Barren]
        clock_ne_zero := by decide
        raw_ne_zero := by decide }
    have hzero : chain.primaryFor 833 = 0 :=
      List.mem_singleton.mp (Stage.contains_table.mp (Chain.contains_primaryFor hready.primary 833))
    exact Chain.fit_of_zero hready hzero
  have hheld : registry.locateOpen (opened.handle 0) = .ok 0 := by decide
  have hchain : Hardware.chain registry.hardware = chain := by decide
  have hclock : Hardware.clock registry.hardware = 8000000 := by decide
  have hrated : rated.1 = .error .zeroRatio := by
    apply setRate_of_unsolved hheld
    rw [hchain, hclock]
    exact hunsolved
  have hreturns : Failure.zeroRatio ≠ .selfWait := by decide
  have hread : read.1 = refuse .invalidState := by decide
  have hwords : words.1 = refuse .invalidHandle := rfl
  have hserved : served.1 = refuse .invalidHandle := rfl
  rcases failure_changes_nothing registry with ⟨hrequests, hreads, hreadsWords, hinterrupts⟩
  exact ⟨⟨hrated, hrequests _ _ hrated hreturns⟩, ⟨hread, hreads _ _ _ hread⟩,
    ⟨hwords, hreadsWords _ _ _ hwords⟩, hserved, hinterrupts _ _ _ _ _ hserved⟩

end Registry
end PeripheralBank
