import PeripheralBank.Proofs.Bench.Transparent
import PeripheralBank.Proofs.Registry.Screens
import PeripheralBank.Proofs.Registry.Upheld
import PeripheralBank.Simulation.Hardware

/-!
# Addressed instances

Beside any hardware can stand a list of the instances that a registry addresses, with an entry for
each call and for each counter that is read or written.  The list shows in nothing that the hardware
does, so it lists what is addressed in the run over the hardware itself.

Interrupts and hands from outside address nothing through the registry.  A request addresses the
instance whose handle it was given, and no other.
-/

namespace PeripheralBank

structure Addressed (η : Type) where
  hardware : η
  /-- The instances addressed so far, first to last. -/
  addresses : List Nat := []

namespace Addressed

/-!
# What is added to the list
-/

/-- Hardware of which only some instances were addressed since the list was as it was. -/
def Since {η : Type} (past : List Nat) (on : Nat -> Prop) (addressed : Addressed η) : Prop :=
  exists more, addressed.addresses = past ++ more ∧ forall index, index ∈ more -> on index

section Added

variable {η : Type} {past : List Nat} {on : Nat -> Prop} {addressed after : Addressed η}

theorem since_self (addressed : Addressed η) : addressed.Since addressed.addresses on := by
  refine ⟨[], (List.append_nil _).symm, ?_⟩
  intro index hmem
  cases hmem

theorem Since.add {index : Nat} (hsince : addressed.Since past on) (hon : on index)
    (hafter : after.addresses = addressed.addresses ++ [index]) : after.Since past on := by
  rcases hsince with ⟨more, hmore, hall⟩
  refine ⟨more ++ [index], ?_, ?_⟩
  · rw [hafter, hmore, List.append_assoc]
  · intro other hmem
    rcases List.mem_append.mp hmem with hbefore | hnow
    · exact hall other hbefore
    · rw [List.mem_singleton.mp hnow]
      exact hon

end Added

/-!
# The hardware with the list
-/

variable {η : Type} [Inspectable η]

instance : Inspectable (Addressed η) where
  instances := Hardware.instances η
  family addressed := Hardware.family addressed.hardware
  clock addressed := Hardware.clock addressed.hardware
  chain addressed := Hardware.chain addressed.hardware
  perform addressed index call :=
    { hardware := Hardware.perform addressed.hardware index call
      addresses := addressed.addresses ++ [index] }
  rateStrategy addressed := Hardware.rateStrategy addressed.hardware
  wordWidths addressed := Hardware.wordWidths addressed.hardware
  readCounter addressed index :=
    let (value, hardware) := Hardware.readCounter addressed.hardware index
    (value, { hardware, addresses := addressed.addresses ++ [index] })
  writeCounter addressed index value :=
    let (done, hardware) := Hardware.writeCounter addressed.hardware index value
    (done, { hardware, addresses := addressed.addresses ++ [index] })
  setClock hz addressed := { addressed with hardware := Inspectable.setClock hz addressed.hardware }
  advance index ticks addressed :=
    let (moved, hardware) := Inspectable.advance index ticks addressed.hardware
    (moved, { addressed with hardware })
  events addressed := Inspectable.events addressed.hardware
  clearEvents addressed :=
    { addressed with hardware := Inspectable.clearEvents addressed.hardware }
  faults addressed := Inspectable.faults addressed.hardware
  registers? addressed := Inspectable.registers? addressed.hardware

/-- Hardware with a list beside it, and the hardware itself. -/
def tie : Hardware.Tie (Addressed η) η where
  On _ := True
  Rel addressed hardware := addressed.hardware = hardware
  chain hsame := congrArg Hardware.chain hsame
  clock hsame := congrArg Hardware.clock hsame
  wordWidths hsame := congrArg Hardware.wordWidths hsame
  perform hsame index _ call := congrArg (Hardware.perform · index call) hsame
  readCounter hsame index _ :=
    congrArg (fun hardware => (Hardware.readCounter hardware index).2) hsame
  writeCounter hsame index _ value := by
    subst hsame
    exact ⟨rfl, rfl⟩

theorem transparent : (tie : Hardware.Tie (Addressed η) η).Transparent where
  on _ := trivial
  rateStrategy hsame := congrArg Hardware.rateStrategy hsame
  shownCounter hsame index :=
    congrArg (fun hardware => (Hardware.readCounter hardware index).1) hsame
  setClock hsame hz := congrArg (Inspectable.setClock hz) hsame
  advance hsame index ticks := by
    subst hsame
    exact ⟨rfl, rfl⟩
  events hsame := congrArg Inspectable.events hsame
  clearEvents hsame := congrArg Inspectable.clearEvents hsame
  faults hsame := congrArg Inspectable.faults hsame
  registers? hsame index := congrArg (Inspectable.registers? · index) hsame

/-- What a registry does to some instances adds no others to the list. -/
theorem upheld_since (past : List Nat) (on : Nat -> Prop) :
    Hardware.Upheld on (fun _ => True) (Since past on : Addressed η -> Prop) where
  sound_of_solve _ _ _ _ := trivial
  perform hsince _ hon _ _ := hsince.add hon rfl
  readCounter hsince _ hon := hsince.add hon rfl
  writeCounter hsince _ hon _ := hsince.add hon rfl

end Addressed

/-!
# Registries over addressed hardware
-/

namespace Registry

variable {η : Type} [Inspectable η] {κ : Type} {n slots : Nat}

/-- The registry over the same hardware, with a list of what is addressed from now on. -/
def addressed (registry : Registry η κ n slots) : Registry (Addressed η) κ n slots :=
  registry.withHardware { hardware := registry.hardware } registry.driven

def unaddressed (registry : Registry (Addressed η) κ n slots) : Registry η κ n slots :=
  registry.withHardware registry.hardware.hardware registry.driven

theorem tied_addressed (registry : Registry η κ n slots) :
    Tied Addressed.tie .equal registry.addressed registry := by
  have hsame : Addressed.tie.Rel ({ hardware := registry.hardware } : Addressed η)
      registry.hardware := rfl
  exact registry.tied_withHardware hsame registry.driven

/-- The list does not change a run. -/
theorem unaddressed_runAll {ω : Type} [Line ω] (moves : List (Move ω))
    (start : Registry η Nat n slots) :
    (Move.runAll moves start.addressed).unaddressed = Move.runAll moves start := by
  have htied := Addressed.transparent.run start.tied_addressed moves
  exact withHardware_of_tied htied Addressed.transparent.on _ htied.hardware

theorem family_of_effect {κ : Type} {registry after : Registry η κ n slots} {request : Request κ}
    {answer : Except Failure Reply} (heffect : request.Effect registry answer after) :
    after.family = registry.family := by
  cases hdevice : request.device? with
  | some handle =>
      have hwithin : request.Within (· = handle.index) := by
        unfold Request.Within
        rw [hdevice]
      exact (SameOff.of_effect heffect hwithin).family
  | none =>
      cases request with
      | allocate =>
          cases heffect with
          | failed _ _ | allocated _ => rfl
          | told _ hasks => cases hasks
      | _ => cases hdevice

end Registry

theorem family_of_step {η : Type} [Inspectable η] {ω : Type} [Line ω] {n slots : Nat}
    {registry after : Registry η Nat n slots} {now : List (Happening ω)}
    (hstep : Step registry now after) : after.family = registry.family := by
  cases hstep with
  | asked heffect => exact Registry.family_of_effect heffect
  | _ => rfl

/-!
# Addresses of a run
-/

/-- Whether something that happened may address an instance of a family of so many: a request may
address the instance that its handle names. -/
def Happening.Names {ω : Type} (family : Family) (n : Nat) (index : Nat) : Happening ω -> Prop
  | .answered request _ =>
      exists handle, request.device? = some handle ∧ index < n ∧
        handle.raw.toNat = 256 * family.tag + index
  | _ => False

/-- Addresses along what happened, each by something that names it. -/
inductive Attributed {ω : Type} (family : Family) (n : Nat) :
    List (Happening ω) -> List Nat -> Prop where
  | nil : Attributed family n [] []
  | cons {happening : Happening ω} {later : List (Happening ω)} {now addresses : List Nat}
      (hnames : forall index, index ∈ now -> happening.Names family n index)
      (hlater : Attributed family n later addresses) :
      Attributed family n (happening :: later) (now ++ addresses)

namespace Attributed

variable {ω : Type} {family : Family} {n : Nat} {first second : List (Happening ω)}
  {addresses others : List Nat}

theorem one {happening : Happening ω}
    (hnames : forall index, index ∈ addresses -> happening.Names family n index) :
    Attributed family n [happening] addresses := by
  have hone := Attributed.cons hnames .nil
  rwa [List.append_nil] at hone

/-- What addresses nothing can be left out. -/
theorem silent (happening : Happening ω) : Attributed family n [happening] [] := by
  apply one
  intro index hmem
  cases hmem

theorem append (hfirst : Attributed family n first addresses)
    (hsecond : Attributed family n second others) :
    Attributed family n (first ++ second) (addresses ++ others) := by
  induction hfirst with
  | nil => exact hsecond
  | cons hnames _ ih =>
      rw [List.append_assoc]
      exact .cons hnames ih

theorem lt (hattributed : Attributed family n first addresses) {index : Nat}
    (hmem : index ∈ addresses) : index < n := by
  induction hattributed with
  | nil => cases hmem
  | @cons happening _ _ _ hnames _ ih =>
      rcases List.mem_append.mp hmem with hnow | hlater
      · cases happening with
        | answered request answer =>
            rcases hnames index hnow with ⟨_, _, hin, _⟩
            exact hin
        | _ => exact absurd (hnames index hnow) id
      · exact ih hlater

end Attributed

section Runs

variable {η : Type} [Inspectable η] {ω : Type} [Line ω] {n slots : Nat}

theorem attributed_of_step {registry after : Registry (Addressed η) Nat n slots}
    {now : List (Happening ω)} (hstep : Step registry now after) :
    exists more, after.hardware.addresses = registry.hardware.addresses ++ more ∧
      Attributed registry.family n now more := by
  cases hstep with
  | claimed _ | marked _ _ => exact ⟨[], (List.append_nil _).symm, .nil⟩
  | advanced _ _ | clocked _ | forgot | passed _ _ _ _ | moved _ _ _ _ =>
      exact ⟨[], (List.append_nil _).symm, .silent _⟩
  | @asked request answer _ heffect =>
      let names index :=
        (Happening.answered request answer : Happening ω).Names registry.family n index
      have hlocated : forall {handle : Handle} {i : Fin n}, request.device? = some handle ->
          registry.locate handle = .ok i -> names i := by
        intro handle i hdevice hlocated
        exact ⟨handle, hdevice, i.isLt, Registry.locate_eq_ok_iff.mp hlocated⟩
      have hsince : after.hardware.Since registry.hardware.addresses names :=
        (Addressed.upheld_since _ names).of_effect heffect hlocated
          (Addressed.since_self registry.hardware)
      rcases hsince with ⟨more, hmore, hnames⟩
      exact ⟨more, hmore, .one hnames⟩

/-- A step adds the addresses of what happens in it. -/
theorem attributed_after_step {family : Family} {past now : List (Happening ω)}
    {registry after : Registry (Addressed η) Nat n slots} (hstep : Step registry now after)
    (hbefore : registry.family = family ∧ Attributed family n past registry.hardware.addresses) :
    after.family = family ∧ Attributed family n (past ++ now) after.hardware.addresses := by
  rcases hbefore with ⟨hfamily, hattributed⟩
  rcases attributed_of_step hstep with ⟨more, hmore, hnow⟩
  constructor
  · exact (family_of_step hstep).trans hfamily
  · rw [hmore]
    rw [hfamily] at hnow
    exact hattributed.append hnow

/-- The addresses of a run are those that its requests name, one request after the other. -/
theorem attributed_of_run (start : Registry η Nat n slots) (moves : List (Move ω)) :
    Attributed start.family n (Move.happeningsOf moves start)
      (Move.runAll moves start.addressed).hardware.addresses := by
  have hsame := Addressed.transparent.happeningsOf_run start.tied_addressed moves
  have hrun := path_records
    (P := fun past registry => registry.family = start.family ∧
      Attributed start.family n past registry.hardware.addresses)
    attributed_after_step [] (path_of_run moves start.addressed) ⟨rfl, .nil⟩
  rw [← hsame]
  exact hrun.2

end Runs
end PeripheralBank
