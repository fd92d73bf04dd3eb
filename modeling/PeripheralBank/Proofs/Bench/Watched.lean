import PeripheralBank.Proofs.Bench.Lasting
import PeripheralBank.Proofs.Bench.Transparent

/-!
# Watched hardware

Any hardware can be watched: beside it stands a log of all calls that a registry makes to it, in
order and without limit.  The log shows in nothing that the hardware does, so a run over watched
hardware is the run over the hardware itself, and the log holds the calls that this run makes.
-/

namespace PeripheralBank

structure Watched (η : Type) where
  hardware : η
  /-- The calls so far, oldest first. -/
  calls : List Event := []

namespace Watched

variable {η : Type} [Inspectable η]

instance : Inspectable (Watched η) where
  instances := Hardware.instances η
  family watched := Hardware.family watched.hardware
  clock watched := Hardware.clock watched.hardware
  chain watched := Hardware.chain watched.hardware
  perform watched index call :=
    { hardware := Hardware.perform watched.hardware index call
      calls := watched.calls ++ [⟨index, call⟩] }
  rateStrategy watched := Hardware.rateStrategy watched.hardware
  wordWidths watched := Hardware.wordWidths watched.hardware
  readCounter watched index :=
    let (value, hardware) := Hardware.readCounter watched.hardware index
    (value, { watched with hardware })
  writeCounter watched index value :=
    let (done, hardware) := Hardware.writeCounter watched.hardware index value
    (done, { watched with hardware })
  setClock hz watched := { watched with hardware := Inspectable.setClock hz watched.hardware }
  advance index ticks watched :=
    let (moved, hardware) := Inspectable.advance index ticks watched.hardware
    (moved, { watched with hardware })
  events watched := Inspectable.events watched.hardware
  clearEvents watched := { watched with hardware := Inspectable.clearEvents watched.hardware }
  faults watched := Inspectable.faults watched.hardware
  registers? watched := Inspectable.registers? watched.hardware

/-- What lasts of hardware lasts while it is watched. -/
theorem lasting {α : Type} {trait : η -> α} (hlasting : Lasting trait) :
    Lasting fun watched : Watched η => trait watched.hardware where
  perform watched := hlasting.perform watched.hardware
  readCounter watched := hlasting.readCounter watched.hardware
  writeCounter watched := hlasting.writeCounter watched.hardware
  setClock watched := hlasting.setClock watched.hardware
  advance watched := hlasting.advance watched.hardware
  clearEvents watched := hlasting.clearEvents watched.hardware

/-- Watched hardware and the hardware itself. -/
def tie : Hardware.Tie (Watched η) η where
  On _ := True
  Rel watched hardware := watched.hardware = hardware
  chain hsame := congrArg Hardware.chain hsame
  clock hsame := congrArg Hardware.clock hsame
  wordWidths hsame := congrArg Hardware.wordWidths hsame
  perform hsame index _ call := congrArg (Hardware.perform · index call) hsame
  readCounter hsame index _ :=
    congrArg (fun hardware => (Hardware.readCounter hardware index).2) hsame
  writeCounter hsame index _ value := by
    subst hsame
    exact ⟨rfl, rfl⟩

/-- Watching shows in nothing. -/
theorem transparent : (tie : Hardware.Tie (Watched η) η).Transparent where
  on _ := trivial
  rateStrategy hsame := congrArg Hardware.rateStrategy hsame
  shownCounter hsame index :=
    congrArg (fun hardware => (Hardware.readCounter hardware index).1) hsame
  setClock hsame hz := congrArg (Inspectable.setClock hz) hsame
  advance hsame index ticks := by
    subst hsame
    exact ⟨rfl, rfl⟩
  events hsame := congrArg Inspectable.events hsame
  clearEvents hsame := congrArg Inspectable.clearEvents hsame
  faults hsame := congrArg Inspectable.faults hsame
  registers? hsame index := congrArg (Inspectable.registers? · index) hsame

end Watched

/-!
# Registries over watched hardware
-/

namespace Registry

variable {η : Type} [Inspectable η] {n slots : Nat}

/-- The registry over the same hardware, watched from now on. -/
def watched {κ : Type} (registry : Registry η κ n slots) : Registry (Watched η) κ n slots where
  family := registry.family
  hardware := { hardware := registry.hardware }
  table := registry.table
  buffers := registry.buffers
  inService := registry.inService
  interruptsClaimed := registry.interruptsClaimed
  below_nullIndex := registry.below_nullIndex
  driven := registry.driven

def unwatched {κ : Type} (registry : Registry (Watched η) κ n slots) :
    Registry η κ n slots where
  family := registry.family
  hardware := registry.hardware.hardware
  table := registry.table
  buffers := registry.buffers
  inService := registry.inService
  interruptsClaimed := registry.interruptsClaimed
  below_nullIndex := registry.below_nullIndex
  driven := registry.driven

theorem tied_watched {κ : Type} (registry : Registry η κ n slots) :
    Tied Watched.tie .equal registry.watched registry := by
  have hsame : Watched.tie.Rel ({ hardware := registry.hardware } : Watched η) registry.hardware :=
    rfl
  exact registry.tied_withHardware hsame registry.driven

theorem unwatched_of_tied {κ : Type} {watched : Registry (Watched η) κ n slots}
    {registry : Registry η κ n slots} (htied : Tied Watched.tie .equal watched registry) :
    watched.unwatched = registry :=
  withHardware_of_tied htied Watched.transparent.on watched.driven htied.hardware

/-- Watching a run does not change it. -/
theorem unwatched_runAll {ω : Type} [Line ω] (moves : List (Move ω))
    (start : Registry η Nat n slots) :
    (Move.runAll moves start.watched).unwatched = Move.runAll moves start :=
  unwatched_of_tied (Watched.transparent.run start.tied_watched moves)

end Registry
end PeripheralBank
