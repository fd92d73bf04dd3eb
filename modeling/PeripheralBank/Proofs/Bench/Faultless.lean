import PeripheralBank.Proofs.Divider.Encoding
import PeripheralBank.Proofs.Simulation.Touch

/-!
# Runs without faults

A registry writes no divisor but those that its hardware's chain gives for a rate.  On the table of
a family these are legal, whatever the clock is at the time.  So simulated hardware of a family
never counts a fault, and what its registers hold is legal.
-/

namespace PeripheralBank

/-- Hardware of a family that has not been given an illegal divisor. -/
structure SimulatedHardware.Faultless {m : Nat} (family : Family)
    (hardware : SimulatedHardware m) : Prop where
  profile : hardware.profile = family.profile
  faults : hardware.faults = 0
  legal {j : Fin m} {divisor : Divisor}
    (hstored : (hardware.registers.get j).divisor = some divisor) :
    family.profile.chain.Legal divisor.primary divisor.secondary

namespace Touch

/-- A divisor in the registers was there before, or was just written. -/
theorem divisor_of_change {profile : Profile} {registers : Registers} {touch : Touch}
    {divisor : Divisor} (hstored : (touch.change profile registers).divisor = some divisor) :
    registers.divisor = some divisor ∨ touch = .call (.rate divisor) := by
  cases touch with
  | call made =>
      cases made with
      | rate written =>
          cases hstored
          exact Or.inr rfl
      | _ => exact Or.inl hstored
  | counter value =>
      simp only [change] at hstored
      split at hstored
      · exact Or.inl hstored
      · exact Or.inl hstored
  | ticks count =>
      simp only [change, Registers.ticked] at hstored
      split at hstored
      · exact Or.inl hstored
      · exact Or.inl hstored

end Touch

namespace SimulatedHardware

variable {m : Nat} {family : Family} {hardware : SimulatedHardware m}

theorem faultless_of_new (family : Family) (clock : UInt32) (strategy : RateStrategy) :
    Faultless family
      ({ profile := family.profile, clock, strategy } : SimulatedHardware m) where
  profile := rfl
  faults := rfl
  legal := by
    intro j divisor hstored
    have hreset : (Vector.replicate m ({} : Registers)).get j = {} :=
      Vector.getElem_replicate j.isLt
    rw [hreset] at hstored
    cases hstored

theorem legal_of_faults {divisor : Divisor}
    (hsound : Touch.faults family.profile (.call (.rate divisor)) = 0) :
    family.profile.chain.Legal divisor.primary divisor.secondary := by
  by_cases haccepts : accepts family.profile divisor = true
  · exact accepts_iff_legal.mp haccepts
  · rw [Touch.faults, if_neg haccepts] at hsound
    cases hsound

theorem faultless_touch (hfaultless : hardware.Faultless family) (place : Nat) {touch : Touch}
    (hsound : touch.faults family.profile = 0) : (touch.run place hardware).Faultless family where
  profile := (congrArg Prod.fst (Touch.make_run place touch hardware)).trans hfaultless.profile
  faults := by
    have hcounted : (touch.run place hardware).faults =
        hardware.faults + touch.faults hardware.profile :=
      congrArg (·.2.1) (Touch.ledger_run place touch hardware)
    rw [hcounted, hfaultless.faults, hfaultless.profile, hsound]
  legal := by
    intro j divisor hstored
    rw [Touch.get_run] at hstored
    split at hstored
    · rcases Touch.divisor_of_change hstored with hbefore | rfl
      · exact hfaultless.legal hbefore
      · exact legal_of_faults hsound
    · exact hfaultless.legal hstored

/-- A call that writes no illegal divisor counts no fault. -/
theorem faultless_perform (hfaultless : hardware.Faultless family) (index : Nat) {call : Call}
    (hsound : call.Sound fun divisor =>
      family.profile.chain.Legal divisor.primary divisor.secondary) :
    (hardware.perform index call).Faultless family := by
  have hsilent : Touch.faults family.profile (.call call) = 0 := by
    cases call with
    | rate divisor => exact if_pos (accepts_iff_legal.mpr hsound)
    | _ => rfl
  exact faultless_touch hfaultless index hsilent

/-- A registry gives no illegal divisor to hardware of a family. -/
theorem upheld_faultless (family : Family) :
    Hardware.Upheld (fun _ => True)
      (fun divisor => family.profile.chain.Legal divisor.primary divisor.secondary)
      (Faultless family : SimulatedHardware m -> Prop) where
  sound_of_solve := by
    intro hardware hfaultless rate divisor hsolved
    have hchain : Hardware.chain hardware = family.profile.chain :=
      congrArg Profile.chain hfaultless.profile
    rw [hchain] at hsolved
    exact Family.legal_of_solve hsolved
  perform hfaultless index _ call hsound := faultless_perform hfaultless index hsound
  readCounter hfaultless _ _ := hfaultless
  writeCounter := by
    intro hardware hfaultless index _ value
    have hwritten : Touch.faults family.profile (.counter value) = 0 := rfl
    exact faultless_touch hfaultless index hwritten

end SimulatedHardware

/-!
# Runs
-/

variable {m n slots : Nat} {ω : Type} [Line ω]

theorem faultless_of_step {family : Family}
    {registry after : Registry (SimulatedHardware m) Nat n slots} {now : List (Happening ω)}
    (hstep : Step registry now after) (hfaultless : registry.hardware.Faultless family) :
    after.hardware.Faultless family := by
  cases hstep with
  | claimed _ | marked _ _ | passed _ _ _ _ | moved _ _ _ _ => exact hfaultless
  | asked heffect =>
      have hupheld := SimulatedHardware.upheld_faultless (m := m) family
      exact hupheld.of_effect heffect (fun _ _ => trivial) hfaultless
  | advanced index ticks =>
      have hticked : Touch.faults family.profile (.ticks ticks) = 0 := rfl
      exact SimulatedHardware.faultless_touch hfaultless index hticked
  | clocked hz => exact { hfaultless with }
  | forgot => exact { hfaultless with }

/-- On the table of a family, a rate is solved exactly if it has a raw ratio for the clock.  What
it is solved to has register fields, but for the quadrature encoder, which has none at all, and the
fields read back as the ratios.  So hardware of the family that a registry drives counts no fault
in any run, however the clock changes, and its registers hold legal divisors alone. -/
theorem families_run_without_faults (family : Family) :
    (forall (clock : UInt32) (rate : Rate),
      ((exists divisor, family.solve clock rate = .ok divisor) ↔
        exists raw, rate.rawRatio clock = .ok raw) ∧
      forall divisor, family.solve clock rate = .ok divisor ->
        ((RegisterFields.encode? family divisor).isSome = true ↔ family ≠ .qei) ∧
        forall fields, RegisterFields.encode? family divisor = some fields ->
          fields.decode? = some (divisor.primary, divisor.secondary)) ∧
    (forall (m n slots : Nat) (ω : Type) [Line ω]
      (start : Registry (SimulatedHardware m) Nat n slots) (clock : UInt32)
      (strategy : RateStrategy),
      start.hardware = { profile := family.profile, clock, strategy } ->
      forall moves : List (Move ω),
        let hardware := (Move.runAll moves start).hardware
        hardware.faults = 0 ∧
          forall (j : Fin m) (divisor : Divisor),
            (hardware.registers.get j).divisor = some divisor ->
              family.profile.chain.Legal divisor.primary divisor.secondary) := by
  constructor
  · intro clock rate
    constructor
    · exact Family.exists_solved_iff
    · intro divisor hsolved
      constructor
      · exact Family.isSome_encode?_of_solve hsolved
      · intro fields hencoded
        exact RegisterFields.decode?_of_encode? hencoded
  · intro m n slots ω _ start clock strategy hnew moves hardware
    have hstart : start.hardware.Faultless family := by
      rw [hnew]
      exact SimulatedHardware.faultless_of_new family clock strategy
    have hfaultless : hardware.Faultless family :=
      path_preserves (P := fun registry => registry.hardware.Faultless family)
        faultless_of_step (path_of_run moves start) hstart
    constructor
    · exact hfaultless.faults
    · intro j divisor hstored
      exact hfaultless.legal hstored

/-- An SPI that is asked for an undivided clock, first of sixteen megahertz and then of eight
hertz, would need the forbidden pair. -/
theorem families_run_without_faults_of_undivided_spi :
    let start : Registry (SimulatedHardware 1) Nat 1 4 :=
      .buffered { profile := .spi, clock := 16000000, strategy := .restart }
        (Vector.replicate 1 .empty)
    let device := start.handle 0
    let moves : List (Move BareLine) :=
      [.command (.request .allocate), .command (.request (.setRate device (.hertz 16000000))),
        .command (.request (.enable device)), .command (.setClock 8),
        .command (.request (.setRate device (.hertz 8)))]
    let hardware := (Move.runAll moves start).hardware
    (exists divisor fields, Family.spi.solve 16000000 (.hertz 16000000) = .ok divisor ∧
        RegisterFields.encode? .spi divisor = some fields ∧
        fields.decode? = some (divisor.primary, divisor.secondary)) ∧
      hardware.faults = 0 ∧
      forall divisor, (hardware.registers.get 0).divisor = some divisor ->
        (divisor.primary, divisor.secondary) ≠ (1, 1) := by
  intro start device moves hardware
  rcases families_run_without_faults Family.spi with ⟨hsolving, hrunning⟩
  rcases hsolving 16000000 (.hertz 16000000) with ⟨hsolved_iff, hfields⟩
  rcases hrunning 1 1 4 BareLine start 16000000 .restart rfl moves with ⟨hfaults, hlegal⟩
  have hraw : (Rate.hertz 16000000).rawRatio 16000000 = .ok 1 := by decide
  obtain ⟨divisor, hsolved⟩ := hsolved_iff.mpr ⟨1, hraw⟩
  rcases hfields divisor hsolved with ⟨hencodes_iff, hdecodes⟩
  obtain ⟨fields, hencoded⟩ := Option.isSome_iff_exists.mp (hencodes_iff.mpr (by decide))
  refine ⟨⟨divisor, fields, hsolved, hencoded, hdecodes fields hencoded⟩, hfaults, ?_⟩
  intro stored hstored hforbidden
  have hallowed := (hlegal 0 stored hstored).allowed
  exact hallowed (congrArg some hforbidden.symm)

end PeripheralBank
