import PeripheralBank.Proofs.Bench.Alike
import PeripheralBank.Proofs.Bench.Tied
import PeripheralBank.Proofs.Registry.Frame
import PeripheralBank.Proofs.Simulation.Touch

/-!
# Moves on different instances

A move is local to an instance if it only names that one, also in what its callback does.  Over
simulated hardware it depends on nothing that is kept of the other instances and changes nothing of
them, and what it does to the hardware is a list of touches.  So moves that are local to different
instances have the same outcomes in either order, and leave the same registry but for the record.
-/

namespace PeripheralBank

/-!
# Local moves
-/

/-- Whether a command looks at and changes no other instances. -/
def Command.Within (on : Nat -> Prop) : Command -> Prop
  | .request asked => asked.Within on
  | .snapshot device => on device.index
  | .registers index | .advance index _ => on index
  | .handle _ => True
  | .faults | .events | .clearEvents | .setClock _ => False

namespace Move

variable {η : Type} [Inspectable η] {ω : Type} {n slots : Nat}

/-- Whether a move names only the instance of an index.  An interrupt also answers for the callback
that is bound. -/
def Local (place : Nat) (registry : Registry η Nat n slots) : Move ω -> Prop
  | command issued => issued.Within (· = place)
  | claimInterrupts | releaseInterrupts => False
  | interrupt index _ scripts =>
      index = place ∧ forall i : Fin n, i.val = place -> forall callback : Nat,
        (registry.slotAt i).callback = some callback ->
          forall command, command ∈ scripts.getD callback [] -> command.Within (· = place)

/-- Who the moves are local to does not depend on the other instances. -/
theorem local_of_sameOff {place other : Nat} (hapart : place ≠ other)
    {before after : Registry η Nat n slots} (hsame : before.SameOff other after) {move : Move ω}
    (hlocal : move.Local place before) : move.Local place after := by
  cases move with
  | command issued => exact hlocal
  | claimInterrupts => exact hlocal
  | releaseInterrupts => exact hlocal
  | interrupt index line scripts =>
      refine ⟨hlocal.1, ?_⟩
      intro i hat callback hbound
      rw [hsame.slots i fun hother => hapart (hat.symm.trans hother.symm)] at hbound
      exact hlocal.2 i hat callback hbound

variable [Line ω]

/-- What a move shows to whoever makes it. -/
def outcome (move : Move ω) (registry : Registry η Nat n slots) : Sight ω :=
  match move with
  | command issued => .answered (issued.run registry).1
  | claimInterrupts => .claimed registry.claimInterrupts.1
  | releaseInterrupts => .released
  | interrupt index line scripts =>
      let served := registry.interrupt (Bench.invoke scripts) index (line, [])
      .served served.1 served.2.1.1 served.2.1.2

end Move

/-!
# Local moves leave the other instances alone
-/

namespace Registry.SameOff

variable {η : Type} [Inspectable η] {ω : Type} {n slots : Nat} {place : Nat}

theorem command {command : Command} (hwithin : command.Within (· = place))
    (registry : Registry η Nat n slots) : SameOff place registry (command.run registry).2 := by
  cases command with
  | request asked => exact of_effect (asked.effect_run registry) hwithin
  | snapshot device => exact of_effect ((Request.counter device).effect_run registry) hwithin
  | advance index ticks => exact setHardware registry place _
  | handle index => exact refl place registry
  | registers index => exact refl place registry
  | faults => exact absurd hwithin id
  | events => exact absurd hwithin id
  | clearEvents => exact absurd hwithin id
  | setClock hz => exact absurd hwithin id

theorem commands {commands : List Command}
    (hwithin : forall command, command ∈ commands -> command.Within (· = place))
    (registry : Registry η Nat n slots) :
    SameOff place registry (Command.runAll commands registry).2 := by
  induction commands generalizing registry with
  | nil => exact refl place registry
  | cons issued rest ih =>
      have hissued := command (hwithin issued List.mem_cons_self) registry
      have hrest := fun later hmem => hwithin later (List.mem_cons_of_mem issued hmem)
      exact hissued.trans (ih hrest _)

theorem move [Line ω] {move : Move ω} {registry : Registry η Nat n slots}
    (hlocal : move.Local place registry) : SameOff place registry (move.run registry) := by
  cases move with
  | command issued => exact command hlocal registry
  | claimInterrupts => exact absurd hlocal id
  | releaseInterrupts => exact absurd hlocal id
  | interrupt index line scripts =>
      rcases hlocal with ⟨rfl, hcalled⟩
      refine interrupt (Bench.invoke scripts) ?_ (line, [])
      intro i hat callback hbound _
      exact commands (hcalled i hat callback hbound) _

end Registry.SameOff

/-!
# Local moves depend on their instance
-/

namespace SimulatedHardware

variable {m : Nat} {place : Nat} {first second : SimulatedHardware m}

/-- Whether two hardwares cannot be told apart at the instance of an index. -/
structure AgreeAt (place : Nat) (first second : SimulatedHardware m) : Prop where
  make : first.make = second.make
  clock : first.clock = second.clock
  registers (j : Fin m) (hat : place = j) : first.registers.get j = second.registers.get j

namespace AgreeAt

theorem refl (place : Nat) (hardware : SimulatedHardware m) : AgreeAt place hardware hardware where
  make := rfl
  clock := rfl
  registers _ _ := rfl

theorem touch (hagree : AgreeAt place first second) (touch : Touch) :
    AgreeAt place (touch.run place first) (touch.run place second) where
  make := by rw [Touch.make_run, Touch.make_run, hagree.make]
  clock := by
    have hfirst := congrArg Prod.fst (Touch.ledger_run place touch first)
    have hsecond := congrArg Prod.fst (Touch.ledger_run place touch second)
    exact hfirst.trans (hagree.clock.trans hsecond.symm)
  registers j hat := by
    have hprofile : first.profile = second.profile := congrArg Prod.fst hagree.make
    rw [Touch.get_run, Touch.get_run, hagree.registers j hat, hprofile]

theorem touched {other : Nat} (hapart : place ≠ other) (touches : List Touch)
    (hardware : SimulatedHardware m) :
    AgreeAt place (Touch.runAll other touches hardware) hardware where
  make := Touch.make_runAll other touches hardware
  clock := Touch.clock_runAll other touches hardware
  registers j hat := by
    rw [Touch.get_runAll, if_neg fun hother => hapart (hat.trans hother.symm)]

variable (hagree : AgreeAt place first second)
include hagree

theorem profile : first.profile = second.profile :=
  congrArg Prod.fst hagree.make

theorem readCounter : first.readCounter place = second.readCounter place := by
  unfold SimulatedHardware.readCounter
  rw [hagree.profile]
  split
  · split
    · rename_i hin
      exact congrArg (Except.ok ∘ Registers.counter) (hagree.registers ⟨place, hin⟩ rfl)
    · rfl
  · rfl

theorem registers? : first.registers? place = second.registers? place := by
  unfold SimulatedHardware.registers?
  split
  · rename_i hin
    exact congrArg (Except.ok ∘ some) (hagree.registers ⟨place, hin⟩ rfl)
  · rfl

end AgreeAt

/-- Two hardwares after the same touches of one instance, at which they cannot be told apart. -/
structure Touched (place : Nat) (start other first second : SimulatedHardware m) : Prop where
  agree : AgreeAt place first second
  touches : exists touches,
    first = Touch.runAll place touches start ∧ second = Touch.runAll place touches other

namespace Touched

variable {start other : SimulatedHardware m}

theorem refl (hagree : AgreeAt place start other) : Touched place start other start other where
  agree := hagree
  touches := ⟨[], rfl, rfl⟩

theorem touch (htouched : Touched place start other first second) (touch : Touch) :
    Touched place start other (touch.run place first) (touch.run place second) where
  agree := htouched.agree.touch touch
  touches := by
    rcases htouched.touches with ⟨touches, hfirst, hsecond⟩
    refine ⟨touches ++ [touch], ?_, ?_⟩
    · rw [Touch.runAll_append, ← hfirst]
      rfl
    · rw [Touch.runAll_append, ← hsecond]
      rfl

end Touched

def touchedTie (place : Nat) (start other : SimulatedHardware m) :
    Hardware.Tie (SimulatedHardware m) (SimulatedHardware m) where
  On index := index = place
  Rel := Touched place start other
  chain htouched := congrArg Profile.chain htouched.agree.profile
  clock htouched := htouched.agree.clock
  wordWidths htouched := congrArg Profile.wordWidths htouched.agree.profile
  perform htouched _ hon call := hon ▸ htouched.touch (.call call)
  readCounter htouched _ _ := htouched
  writeCounter htouched _ hon value := by
    cases hon
    exact ⟨Touch.writeCounter_fst _ _ _ htouched.agree.profile value,
      htouched.touch (.counter value)⟩

end SimulatedHardware

namespace Registry.Tied

variable {ω : Type} {m n slots : Nat} {place : Nat} {start other : SimulatedHardware m}
  {first second : Registry (SimulatedHardware m) Nat n slots}
  (htied : Tied (SimulatedHardware.touchedTie place start other) .equal first second)
include htied

theorem counter_of_touched {handle : Handle} (hat : handle.index = place) :
    (first.counter handle).1 = (second.counter handle).1 := by
  refine htied.counter_shown hat id fun i hindex => ?_
  rw [← hindex, hat]
  exact htied.hardware.agree.readCounter

theorem command {command : Command} (hwithin : command.Within (· = place)) :
    ResultsTied (SimulatedHardware.touchedTie place start other) .equal (command.run first)
      (command.run second) := by
  cases command with
  | request asked =>
      refine (htied.request hwithin ?_ ?_).map _
      · rintro handle rate rfl
        exact htied.setRate hwithin (congrArg Prod.snd htied.hardware.agree.make) rate
      · rintro handle rfl
        exact htied.counter_of_touched hwithin
  | snapshot device =>
      exact (htied.snapshot hwithin (htied.counter_of_touched hwithin)).map _
  | handle index =>
      refine ⟨?_, htied⟩
      simp only [Command.run, Registry.handle, htied.family]
  | registers index =>
      cases hwithin
      refine ⟨?_, htied⟩
      exact congrArg (Except.map CommandAnswer.registers) htied.hardware.agree.registers?
  | advance index ticks =>
      cases hwithin
      refine ⟨?_, htied.setHardware (htied.hardware.touch (.ticks ticks))⟩
      exact congrArg (Except.map fun _ => CommandAnswer.reply Reply.done)
        (Touch.advance_fst first.hardware second.hardware place ticks)
  | faults => exact absurd hwithin id
  | events => exact absurd hwithin id
  | clearEvents => exact absurd hwithin id
  | setClock hz => exact absurd hwithin id

theorem move [Line ω] {move : Move ω} (hlocal : move.Local place second) :
    move.outcome first = move.outcome second ∧
      Tied (SimulatedHardware.touchedTie place start other) .equal (move.run first)
        (move.run second) := by
  cases move with
  | command issued =>
      have hissued := htied.command hlocal
      exact ⟨congrArg Sight.answered hissued.answer, hissued.after⟩
  | claimInterrupts => exact absurd hlocal id
  | releaseInterrupts => exact absurd hlocal id
  | interrupt index line scripts =>
      rcases hlocal with ⟨rfl, hcalled⟩
      rcases interrupt_of (fun htied _ hwithin => htied.command hwithin) htied rfl scripts hcalled
        line with ⟨hservice, hstate, hafter⟩
      refine ⟨?_, hafter⟩
      simp only [Move.outcome, hservice, hstate]

end Registry.Tied

/-!
# Two local moves
-/

section Two

variable {ω ω' : Type} [Line ω] [Line ω'] {m n slots : Nat} {place other : Nat}
  {registry : Registry (SimulatedHardware m) Nat n slots}

/-- A local move on a registry and on one that differs from it behind another instance. -/
theorem tied_of_local (hapart : place ≠ other) {move : Move ω}
    {changed : Registry (SimulatedHardware m) Nat n slots}
    (hlocal : move.Local place registry) (hsame : registry.SameOff other changed)
    (hagree : SimulatedHardware.AgreeAt place changed.hardware registry.hardware) :
    move.outcome changed = move.outcome registry ∧
      Registry.Tied (SimulatedHardware.touchedTie place changed.hardware registry.hardware) .equal
        (move.run changed) (move.run registry) := by
  have hoff {j : Fin n} (hat : j.val = place) : other ≠ j := by
    rw [hat]
    exact hapart.symm
  have htied : Registry.Tied
      (SimulatedHardware.touchedTie place changed.hardware registry.hardware) .equal
      changed registry :=
    { family := hsame.family
      isBuffered := hsame.isBuffered
      slots := fun j hat => hsame.slots j (hoff hat)
      buffers := fun j hat => by
        rw [hsame.buffers j (hoff hat)]
        cases registry.buffersAt? j with
        | none => exact Option.Rel.none
        | some buffers => exact Option.Rel.some rfl
      served := fun j hat => hsame.served j (hoff hat)
      interruptsClaimed := hsame.interruptsClaimed
      hardware := .refl hagree }
  exact htied.move hlocal

/-- All that a local move does to the hardware is to touch its instance. -/
theorem touches_of_local {move : Move ω} (hlocal : move.Local place registry) :
    exists touches,
      (move.run registry).hardware = Touch.runAll place touches registry.hardware := by
  have hapart : place ≠ place + 1 := (Nat.succ_ne_self place).symm
  have hmoved := tied_of_local hapart hlocal (.refl _ registry) (.refl place registry.hardware)
  rcases hmoved.2.hardware.touches with ⟨touches, htouched, _⟩
  exact ⟨touches, htouched⟩

/-- Moves that are local to different instances show the same in either order and leave the same
registry, but for the order of the record: as long as it is not full, it holds the same calls. -/
theorem local_moves_commute (hapart : place ≠ other) {first : Move ω} {second : Move ω'}
    (hfirst : first.Local place registry) (hsecond : second.Local other registry) :
    let both := second.run (first.run registry)
    let swapped := first.run (second.run registry)
    first.outcome (second.run registry) = first.outcome registry ∧
      second.outcome (first.run registry) = second.outcome registry ∧
      both.setHardware (Inspectable.clearEvents both.hardware) =
        swapped.setHardware (Inspectable.clearEvents swapped.hardware) ∧
      (both.hardware.events.length < SimulatedHardware.maxEvents ->
        both.hardware.events.Perm swapped.hardware.events) := by
  intro both swapped
  have hsameFirst : registry.SameOff place (first.run registry) := .move hfirst
  have hsameSecond : registry.SameOff other (second.run registry) := .move hsecond
  have hlater : (first.run registry).SameOff other both :=
    .move (Move.local_of_sameOff hapart.symm hsameFirst hsecond)
  have hlater' : (second.run registry).SameOff place swapped :=
    .move (Move.local_of_sameOff hapart hsameSecond hfirst)
  rcases touches_of_local hfirst with ⟨_, htouchedFirst⟩
  rcases touches_of_local hsecond with ⟨_, htouchedSecond⟩
  rcases tied_of_local hapart hfirst hsameSecond
    (htouchedSecond ▸ SimulatedHardware.AgreeAt.touched hapart _ _) with ⟨houtcome, htied⟩
  rcases tied_of_local hapart.symm hsecond hsameFirst
    (htouchedFirst ▸ SimulatedHardware.AgreeAt.touched hapart.symm _ _) with ⟨houtcome', htied'⟩
  rcases htied.hardware.touches with ⟨touches, hswapped, hbefore⟩
  rcases htied'.hardware.touches with ⟨touches', hboth, hbefore'⟩
  rw [hbefore'] at hswapped
  rw [hbefore] at hboth
  refine ⟨houtcome, houtcome', ?_, ?_⟩
  · apply Registry.eq_of_parts
    · exact (hlater.family.trans hsameFirst.family).trans
        (hlater'.family.trans hsameSecond.family).symm
    · show ({ both.hardware with events := [] } : SimulatedHardware m) =
        { swapped.hardware with events := [] }
      rw [hboth, hswapped]
      exact Touch.runAll_comm touches touches' registry.hardware hapart
    · exact (hlater.isBuffered.trans hsameFirst.isBuffered).trans
        (hlater'.isBuffered.trans hsameSecond.isBuffered).symm
    · intro j
      show both.partAt j = swapped.partAt j
      by_cases hat : place = j
      · have hoff : other ≠ j := hat ▸ hapart.symm
        exact (hlater.partAt j hoff).trans (htied.partAt j hat.symm).symm
      · refine Eq.trans ?_ (hlater'.partAt j hat).symm
        by_cases hat' : other = j
        · exact htied'.partAt j hat'.symm
        · rw [hlater.partAt j hat', hsameFirst.partAt j hat, hsameSecond.partAt j hat']
    · exact (hlater.interruptsClaimed.trans hsameFirst.interruptsClaimed).trans
        (hlater'.interruptsClaimed.trans hsameSecond.interruptsClaimed).symm
  · intro hroom
    rw [hboth] at hroom
    rw [hboth, hswapped]
    exact Touch.perm_events touches touches' registry.hardware hroom

/-- The interrupt of one SPI runs a callback, that of the other feeds a line. -/
theorem local_moves_commute_of_two_spis :
    let start : Registry (SimulatedHardware 2) Nat 2 4 :=
      .buffered { profile := .spi, clock := 8000000 } (Vector.replicate 2 .empty)
    let former := start.handle 0
    let latter := start.handle 1
    let opened : List (Move BareLine) :=
      [.command (.request .allocate), .command (.request .allocate),
        .command (.request (.bind former (some 0))), .command (.request (.enable former)),
        .command (.request (.write latter [7, 8, 9])), .command (.request (.enable latter))]
    let registry := Move.runAll opened start
    let first : Move BareLine :=
      .interrupt 0 {} [[.request (.setRate former (.hertz 1000000)), .request (.disable former)]]
    let second : Move SimulatedLine := .interrupt 1 (.ofDepth 2) []
    let both := second.run (first.run registry)
    let swapped := first.run (second.run registry)
    ((registry.slotAt 0).callback = some 0 ∧ (registry.slotAt 1).state = .enabled) ∧
      first.outcome (second.run registry) = first.outcome registry ∧
      second.outcome (first.run registry) = second.outcome registry ∧
      both.setHardware (Inspectable.clearEvents both.hardware) =
        swapped.setHardware (Inspectable.clearEvents swapped.hardware) := by
  intro start former latter opened registry first second both swapped
  have hcalled : (registry.slotAt 0).callback = some 0 := by decide
  have hruns : (registry.slotAt 1).state = .enabled := by decide
  have hunbound : (registry.slotAt 1).callback = none := by decide
  have hfirst : first.Local 0 registry := by
    refine ⟨rfl, ?_⟩
    intro i hat callback hbound command hmem
    obtain rfl : i = 0 := Fin.ext hat
    rw [hcalled] at hbound
    cases hbound
    rcases List.mem_cons.mp hmem with rfl | hmem
    · exact Registry.index_handle start 0
    · cases List.mem_singleton.mp hmem
      exact Registry.index_handle start 0
  have hsecond : second.Local 1 registry := by
    refine ⟨rfl, ?_⟩
    intro i hat callback hbound
    obtain rfl : i = 1 := Fin.ext hat
    rw [hunbound] at hbound
    cases hbound
  clear_value registry
  rcases local_moves_commute Nat.zero_ne_one hfirst hsecond with
    ⟨houtcome, houtcome', hregistry, -⟩
  exact ⟨⟨hcalled, hruns⟩, houtcome, houtcome', hregistry⟩

end Two

end PeripheralBank
