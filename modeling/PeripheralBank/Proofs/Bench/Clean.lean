import PeripheralBank.Proofs.Bench.Path

/-!
# Instances that nobody holds

A registry that was just built has no held instance and no word in a buffer.  In every run
from there, an instance that nobody holds has a slot with nothing in it and clear buffers:
what its last holder left was wiped when it was given back, and nothing but holding it again
changes it.
-/

namespace PeripheralBank

theorem Ring.isClear_iff {α : Type} {slots : Nat} {ring : Ring α slots} :
    ring.IsClear ↔ ring.toList = [] ∧ ring.overflows = 0 := by
  rw [Ring.IsClear, Ring.isEmpty_eq_true_iff]

namespace Buffers

variable {slots : Nat}

def IsClear (buffers : Buffers slots) : Prop :=
  buffers.outbound.IsClear ∧ buffers.inbound.IsClear

theorem isClear_clear (buffers : Buffers slots) : buffers.clear.IsClear := by
  constructor
  · exact Ring.isClear_iff.mpr ⟨Ring.toList_clear _, Ring.overflows_clear _⟩
  · exact Ring.isClear_iff.mpr ⟨Ring.toList_clear _, Ring.overflows_clear _⟩

theorem isClear_empty : (empty : Buffers (slots + 1)).IsClear := by
  constructor
  · exact Ring.isClear_iff.mpr ⟨Ring.toList_empty, rfl⟩
  · exact Ring.isClear_iff.mpr ⟨Ring.toList_empty, rfl⟩

end Buffers

namespace Registry

/-- A registry that was just built, without buffers or with buffers that hold nothing. -/
inductive Fresh {η : Type} [Hardware η] {κ : Type} {n : Nat} :
    forall {slots : Nat}, Registry η κ n slots -> Prop where
  | unbuffered {slots : Nat} (hardware : η) (hbelow : n < Handle.nullIndex)
      (hdriven : n ≤ Hardware.instances η) :
      Fresh (.unbuffered hardware hbelow hdriven : Registry η κ n slots)
  | buffered {slots : Nat} (hardware : η) (hbelow : n < Handle.nullIndex)
      (hdriven : n ≤ Hardware.instances η) :
      Fresh (.buffered hardware (Vector.replicate n (.empty : Buffers (slots + 1)))
        hbelow hdriven)

section Fresh

variable {η : Type} [Hardware η] {κ : Type} {n slots : Nat} {registry : Registry η κ n slots}

theorem slotAt_of_fresh (hfresh : registry.Fresh) (j : Fin n) : registry.slotAt j = {} := by
  cases hfresh with
  | unbuffered hardware hbelow hdriven => simp [slotAt, unbuffered, build]
  | buffered hardware hbelow hdriven => simp [slotAt, buffered, build]

theorem isClear_of_fresh (hfresh : registry.Fresh) {j : Fin n} {buffers : Buffers slots}
    (hstored : registry.buffersAt? j = some buffers) : buffers.IsClear := by
  cases hfresh with
  | unbuffered hardware hbelow hdriven => cases hstored
  | buffered hardware hbelow hdriven =>
      have hempty : buffers = .empty := by
        simpa [buffersAt?, Registry.buffered, build] using hstored.symm
      rw [hempty]
      exact Buffers.isClear_empty

/-!
# Clean instances
-/

/-- If nobody holds the instance, nothing is kept of it. -/
structure CleanAt (registry : Registry η κ n slots) (j : Fin n) : Prop where
  slot (hfree : (registry.slotAt j).state = .unused) : registry.slotAt j = {}
  buffers (hfree : (registry.slotAt j).state = .unused) {buffers : Buffers slots}
    (hstored : registry.buffersAt? j = some buffers) : buffers.IsClear

theorem cleanAt_of_fresh (hfresh : registry.Fresh) (j : Fin n) : registry.CleanAt j where
  slot _ := slotAt_of_fresh hfresh j
  buffers _ _ hstored := isClear_of_fresh hfresh hstored

theorem cleanAt_of_kept {after : Registry η κ n slots} {j : Fin n} (hclean : registry.CleanAt j)
    (hslot : after.slotAt j = registry.slotAt j)
    (hbuffers : after.buffersAt? j = registry.buffersAt? j) : after.CleanAt j where
  slot hfree := by
    rw [hslot] at hfree ⊢
    exact hclean.slot hfree
  buffers hfree _ hstored := by
    rw [hslot] at hfree
    rw [hbuffers] at hstored
    exact hclean.buffers hfree hstored

theorem cleanAt_wipe (registry : Registry η κ n slots) (i : Fin n) :
    (registry.wipe i).CleanAt i where
  slot _ := by
    rw [slotAt_wipe, if_pos rfl]
  buffers _ buffers hstored := by
    rw [buffersAt?_wipe, if_pos rfl] at hstored
    rcases Option.map_eq_some_iff.mp hstored with ⟨former, _, rfl⟩
    exact former.isClear_clear

end Fresh

/-!
# How an instance comes to be unused
-/

section Changes

variable {η : Type} [Hardware η] {κ : Type} {n slots : Nat}
  {registry after : Registry η κ n slots} {request : Request κ} {answer : Except Failure Reply}
  {j : Fin n}

/-- An instance that is unused after a change was left alone by it, or was held before and wiped. -/
inductive Freed (registry after : Registry η κ n slots) (j : Fin n) : Prop where
  | kept (hslot : after.slotAt j = registry.slotAt j)
      (hbuffers : after.buffersAt? j = registry.buffersAt? j) : Freed registry after j
  | wiped (hheld : (registry.slotAt j).state ≠ .unused) (hclean : after.CleanAt j) :
      Freed registry after j

/-- A change of one instance that leaves it held leaves all unused ones alone. -/
theorem freed_of_change {k : Fin n} (hheld : (after.slotAt k).state ≠ .unused)
    (hframe : k ≠ j ->
      after.slotAt j = registry.slotAt j ∧ after.buffersAt? j = registry.buffersAt? j)
    (hfree : (after.slotAt j).state = .unused) : registry.Freed after j := by
  have hapart : k ≠ j := by
    rintro rfl
    exact hheld hfree
  exact Freed.kept (hframe hapart).1 (hframe hapart).2

theorem freed_of_effect (heffect : request.Effect registry answer after)
    (hfree : (after.slotAt j).state = .unused) : registry.Freed after j := by
  cases heffect with
  | failed _ _ | told _ _ | stayedOn _ _ | drained _ _ => exact Freed.kept rfl rfl
  | counted _ | recounted _ _ | kicked _ _ => exact Freed.kept rfl rfl
  | @allocated k _ | @acquired _ k _ _ | @turnedOn _ k _ _ =>
      exact freed_of_change (k := k) (by simp) (fun hapart => by simp [hapart]) hfree
  | @closed _ k hopen _ =>
      by_cases hsame : k = j
      · subst k
        exact Freed.wiped (locate_of_locateOpen hopen).2 (cleanAt_wipe _ j)
      · exact Freed.kept (by simp [hsame]) (by simp [hsame])
  | @waited _ k hopen _ | @turnedOff _ k hopen =>
      have hstill := Slot.halted_ne_unused (locate_of_locateOpen hopen).2
      exact freed_of_change (k := k) (by simp [hstill]) (fun hapart => by simp [hapart]) hfree
  | @rated _ k _ _ hopen _ | @bound _ k hopen _ | @widened _ k _ hopen _ =>
      have hstill := (locate_of_locateOpen hopen).2
      exact freed_of_change (k := k) (by simp [hstill]) (fun hapart => by simp [hapart]) hfree
  | @wroteBytes _ k _ hlocated _ _ | @wroteWords _ k _ _ hlocated _
  | @readBytes _ k _ hlocated _ _ | @readWords _ k _ hlocated _ =>
      have hstill := (locate_of_locateBuffers hlocated).2.1
      exact freed_of_change (k := k) (by simp [hstill]) (fun hapart => by simp [hapart]) hfree

/-- A change by which an instance comes to be unused like that keeps it clean. -/
theorem cleanAt_of_freed
    (hfreed : (after.slotAt j).state = .unused -> registry.Freed after j)
    (hclean : registry.CleanAt j) : after.CleanAt j := by
  have hnow (hfree : (after.slotAt j).state = .unused) : after.CleanAt j := by
    cases hfreed hfree with
    | kept hslot hbuffers => exact cleanAt_of_kept hclean hslot hbuffers
    | wiped _ hwiped => exact hwiped
  exact
    { slot := fun hfree => (hnow hfree).slot hfree
      buffers := fun hfree => (hnow hfree).buffers hfree }

end Changes
end Registry

section Runs

variable {η : Type} [Inspectable η] {ω : Type} [Line ω] {n slots : Nat}
  {registry after : Registry η Nat n slots} {now : List (Happening ω)} {j : Fin n}

theorem freed_of_step (hstep : Step registry now after)
    (hfree : (after.slotAt j).state = .unused) : registry.Freed after j := by
  cases hstep with
  | asked heffect => exact Registry.freed_of_effect heffect hfree
  | @moved k _ _ hruns _ _ =>
      exact Registry.freed_of_change (k := k) (by simp [hruns])
        (fun hapart => by simp [hapart]) hfree
  | _ => exact Registry.Freed.kept rfl rfl

theorem cleanAt_of_step (hstep : Step registry now after) (hclean : registry.CleanAt j) :
    after.CleanAt j :=
  Registry.cleanAt_of_freed (freed_of_step hstep) hclean

/-- In every run from a fresh registry, an instance that nobody holds is clean. -/
theorem cleanAt_of_run {start : Registry η Nat n slots} (hfresh : start.Fresh)
    (moves : List (Move ω)) (j : Fin n) : (Move.runAll moves start).CleanAt j :=
  path_preserves cleanAt_of_step (path_of_run moves start) (Registry.cleanAt_of_fresh hfresh j)

theorem isBuffered_of_step (hstep : Step registry now after) :
    after.isBuffered = registry.isBuffered := by
  cases hstep with
  | asked heffect => exact Registry.isBuffered_of_effect heffect
  | moved before hruns hunbound hstored => exact Registry.isBuffered_setBuffers _ _ _
  | _ => rfl

theorem isBuffered_of_path {start : Registry η Nat n slots} (hpath : Path start now registry) :
    registry.isBuffered = start.isBuffered :=
  path_preserves (P := fun registry => registry.isBuffered = start.isBuffered)
    (fun hstep hkept => (isBuffered_of_step hstep).trans hkept) hpath rfl

theorem isBuffered_of_run (moves : List (Move ω)) (start : Registry η Nat n slots) :
    (Move.runAll moves start).isBuffered = start.isBuffered :=
  isBuffered_of_path (path_of_run moves start)

end Runs
end PeripheralBank
