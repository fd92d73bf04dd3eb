import PeripheralBank.Proofs.Bench.Alike
import PeripheralBank.Proofs.Bench.Clean

/-!
# Instances given back

What was done to an instance before it was given back does not show afterwards.  The registry
that is left is compared with one that is in the same state but for the instance, of which
everything is as in a registry that was just built: they are alike off the instance, so they
show the same in every run.

That the commands of a run are fixed beforehand loses nothing.  Who chooses the next one by
what was seen so far has seen the same of both registries, and chooses the same for both.
-/

namespace PeripheralBank

theorem Buffers.Alike.of_isClear {slots : Nat} {first second : Buffers slots}
    (hfirst : first.IsClear) (hsecond : second.IsClear) : Buffers.Alike first second where
  outbound := .of_isClear hfirst.1 hsecond.1
  inbound := .of_isClear hfirst.2 hsecond.2

namespace Registry

variable {m n slots : Nat}

/-!
# A new instance in an old registry
-/

/-- The second registry is in the state of the first, but of one instance everything is as in a
registry that was just built.  What either hardware recorded is left open. -/
structure Renewed {κ : Type} (i : Fin n)
    (registry other : Registry (SimulatedHardware m) κ n slots) : Prop where
  family : other.family = registry.family
  inService : other.inService = registry.inService
  interruptsClaimed : other.interruptsClaimed = registry.interruptsClaimed
  isBuffered : other.isBuffered = registry.isBuffered
  hardware : SimulatedHardware.AlikeOff i registry.hardware other.hardware
  slot_of_ne (j : Fin n) (hoff : i ≠ j) : other.slotAt j = registry.slotAt j
  buffers_of_ne (j : Fin n) (hoff : i ≠ j) : other.buffersAt? j = registry.buffersAt? j
  slot : other.slotAt i = {}
  isClear {buffers : Buffers slots} (hstored : other.buffersAt? i = some buffers) :
    buffers.IsClear
  registers : other.registersAt i = {}

/-- Puts a new instance in the place of another. -/
def renew {κ : Type} (registry : Registry (SimulatedHardware m) κ n (slots + 1)) (i : Fin n) :
    Registry (SimulatedHardware m) κ n (slots + 1) :=
  ((registry.setSlot i {}).setBuffers i .empty).setHardware (registry.hardware.modify i fun _ => {})

theorem renewed_renew {κ : Type} (registry : Registry (SimulatedHardware m) κ n (slots + 1))
    (i : Fin n) : Renewed i registry (registry.renew i) where
  family := rfl
  inService := rfl
  interruptsClaimed := rfl
  isBuffered := isBuffered_setBuffers _ i .empty
  hardware := SimulatedHardware.alikeOff_modify i (fun _ => {}) registry.hardware
  slot_of_ne j hoff := by simp [renew, hoff]
  buffers_of_ne j hoff := by simp [renew, hoff]
  slot := by simp [renew]
  isClear hstored := by
    simp only [renew, buffersAt?_setHardware, buffersAt?_setBuffers, if_true] at hstored
    rcases Option.map_eq_some_iff.mp hstored with ⟨_, _, rfl⟩
    exact Buffers.isClear_empty
  registers := (registry.hardware.get_modify (registry.place i) i _).trans (if_pos rfl)

/-!
# What closing leaves
-/

section Close

variable {κ : Type} {registry other : Registry (SimulatedHardware m) κ n slots} {i : Fin n}

theorem frame_switchOff (registry : Registry (SimulatedHardware m) κ n slots) (i : Fin n) :
    (registry.switchOff i).family = registry.family ∧
      (registry.switchOff i).inService = registry.inService ∧
      (registry.switchOff i).interruptsClaimed = registry.interruptsClaimed ∧
      SimulatedHardware.AlikeOff i registry.hardware (registry.switchOff i).hardware := by
  unfold switchOff
  split
  · refine ⟨rfl, rfl, rfl, ?_⟩
    exact (SimulatedHardware.alikeOff_modifyRecorded i _ _ registry.hardware).trans
      (SimulatedHardware.alikeOff_modifyRecorded i _ _ _)
  · exact ⟨rfl, rfl, rfl, .refl i registry.hardware⟩

theorem frame_wipe (registry : Registry (SimulatedHardware m) κ n slots) (i : Fin n) :
    (registry.wipe i).family = registry.family ∧
      (registry.wipe i).inService = registry.inService ∧
      (registry.wipe i).interruptsClaimed = registry.interruptsClaimed ∧
      (registry.wipe i).hardware = registry.hardware := by
  unfold wipe
  split
  · exact ⟨rfl, rfl, rfl, rfl⟩
  · exact ⟨rfl, rfl, rfl, rfl⟩

/-- Wiped and new buffers cannot be told apart, and those of other instances were not touched. -/
theorem alike_buffers_close (hrenewed : Renewed i registry other) (j : Fin n) :
    Option.Rel Buffers.Alike (((registry.switchOff i).wipe i).buffersAt? j)
      (other.buffersAt? j) := by
  rw [buffersAt?_wipe, buffersAt?_switchOff]
  by_cases hsame : i = j
  · subst j
    rw [if_pos rfl]
    have hstored : (registry.buffersAt? i).isSome = (other.buffersAt? i).isSome := by
      rw [isSome_buffersAt?, isSome_buffersAt?, hrenewed.isBuffered]
    cases hformer : registry.buffersAt? i with
    | none =>
        cases hnew : other.buffersAt? i with
        | none => exact .none
        | some buffers =>
            rw [hformer, hnew] at hstored
            cases hstored
    | some former =>
        cases hnew : other.buffersAt? i with
        | none =>
            rw [hformer, hnew] at hstored
            cases hstored
        | some buffers =>
            exact .some (.of_isClear former.isClear_clear (hrenewed.isClear hnew))
  · rw [if_neg hsame, hrenewed.buffers_of_ne j hsame]
    cases registry.buffersAt? j with
    | none => exact .none
    | some buffers => exact .some (.refl buffers)

theorem alikeOff_close (hrenewed : Renewed i registry other) :
    AlikeOff i ((registry.switchOff i).wipe i) other := by
  rcases frame_switchOff registry i with ⟨hfamily, hserved, hclaimed, hhardware⟩
  rcases frame_wipe (registry.switchOff i) i with ⟨hfamily', hserved', hclaimed', hhardware'⟩
  constructor
  · rw [hfamily', hfamily, hrenewed.family]
  · intro j
    rw [slotAt_wipe, slotAt_switchOff]
    by_cases hsame : i = j
    · rw [if_pos hsame, ← hsame, hrenewed.slot]
    · rw [if_neg hsame, if_neg hsame, hrenewed.slot_of_ne j hsame]
  · exact alike_buffers_close hrenewed
  · rw [hserved', hserved, hrenewed.inService]
  · rw [hclaimed', hclaimed, hrenewed.interruptsClaimed]
  · rw [hhardware']
    exact hhardware.symm.trans hrenewed.hardware

end Close

/-!
# Whatever is done later
-/

section Runs

variable {registry other : Registry (SimulatedHardware m) Nat n slots} {i : Fin n}

/-- An instance that was given back is as good as one that was never used: whatever is done later
to the registry that is left, it shows what a registry would show that is in the same state but
has a new instance in its place. -/
theorem closed_as_never_used {ω : Type} [Line ω] {handle : Handle}
    (hheld : registry.locateOpen handle = .ok i) (hidle : registry.isServed i = false)
    (hrenewed : Renewed i registry other) (later : List (Move ω)) :
    let closed := Request.run (.close handle) registry
    closed.1 = .ok .done ∧ Move.seenOf i later closed.2 = Move.seenOf i later other := by
  intro closed
  have hclosed := close_of_idle hheld hidle
  have hdone : closed = (.ok .done, (registry.switchOff i).wipe i) :=
    congrArg (Prod.map (Except.map fun _ => Reply.done) id) hclosed
  rw [hdone]
  exact ⟨rfl, (alikeOff_close hrenewed).run later⟩

/-- An instance of an SPI with a counter: it was given a width, a callback, words to send and a
count, and its interrupt ran.  Opened again it sends and receives as a new one, though its counter
went on from where it was. -/
theorem closed_as_never_used_of_spi :
    let hardware : SimulatedHardware 2 :=
      { profile := { Profile.spi with hasCounter := true }, clock := 8000000 }
    let start : Registry (SimulatedHardware 2) Nat 2 4 :=
      .buffered hardware (Vector.replicate 2 .empty)
    let device := start.handle 0
    let past : List (Move SimulatedLine) :=
      [.command (.request .allocate), .command (.request (.setWordWidth device 16)),
        .command (.request (.setCounter device 77)), .command (.request (.bind device (some 0))),
        .command (.request (.writeWords device [1, 500, 7])), .command (.request (.enable device)),
        .interrupt 0 (.ofDepth 2) [[.advance 0 5, .request (.writeWords device [9])]]]
    let registry := Move.runAll past start
    let closed := Request.run (.close device) registry
    let later : List (Move SimulatedLine) :=
      [.command (.request .allocate), .command (.request (.write device [9, 10, 11, 12])),
        .command (.request (.enable device)), .interrupt 0 { depth := 1, incoming := [44] } [],
        .command (.request (.read device [0, 0])), .command (.snapshot device),
        .command (.request (.counter device)), .command .faults]
    (closed.1 = .ok .done ∧
      Move.seenOf 0 later closed.2 = Move.seenOf 0 later (registry.renew 0)) ∧
      (closed.2.registersAt 0).counter = 82 ∧ ((registry.renew 0).registersAt 0).counter = 0 := by
  intro hardware start device past registry closed later
  have hheld : registry.locateOpen device = .ok 0 := by decide
  have hidle : registry.isServed 0 = false := by decide
  have hrenewed : Renewed 0 registry (registry.renew 0) := renewed_renew registry 0
  refine ⟨closed_as_never_used hheld hidle hrenewed later, ?_, ?_⟩
  · decide
  · decide

end Runs
end Registry
end PeripheralBank
