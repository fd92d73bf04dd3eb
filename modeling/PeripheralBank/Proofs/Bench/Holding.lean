import PeripheralBank.Proofs.Bench.Path
import PeripheralBank.Proofs.Registry.Frame
import PeripheralBank.Proofs.Registry.Screens
import PeripheralBank.Simulation.Hardware

/-!
# Held handles

A handle is held from the answer that gives it out to the answer that takes it back.  In every run
from a registry whose slots are all unused, the answers so far tell which slots are in use, and with
that what the next request for an instance comes to.
-/

namespace PeripheralBank

section History

variable {ω : Type} {happenings : List (Happening ω)} {happening : Happening ω}
  {held : List Handle} {handle : Handle}

/-- The handle that an answer gives out. -/
def Happening.given? : Happening ω -> Option Handle
  | .answered .allocate (.ok (.handle handle)) => some handle
  | .answered (.acquire handle) (.ok _) => some handle
  | _ => none

/-- The handle that an answer takes back.  A request to close from within the instance's own
interrupt fails, and takes nothing back. -/
def Happening.returned? : Happening ω -> Option Handle
  | .answered (.close handle) (.ok _) => some handle
  | _ => none

def heldWith (held : List Handle) (happening : Happening ω) : List Handle :=
  happening.given?.toList ++ held.filter fun handle => happening.returned? ≠ some handle

/-- The handles that are held after all this, the last given out first.  One that was given out
twice and not taken back in between would be listed twice. -/
def heldAfter (happenings : List (Happening ω)) : List Handle :=
  happenings.foldl heldWith []

/-- Whether a handle was given out in all this and not taken back since. -/
def HeldSince (happenings : List (Happening ω)) (handle : Handle) : Prop :=
  exists past given later, happenings = past ++ given :: later ∧ given.given? = some handle ∧
    forall happening, happening ∈ later -> happening.returned? ≠ some handle

theorem heldSince_cons :
    HeldSince (happening :: happenings) handle ↔
      (happening.given? = some handle ∧
        forall later, later ∈ happenings -> later.returned? ≠ some handle) ∨
      HeldSince happenings handle := by
  constructor
  · rintro ⟨past, given, later, hsplit, hgiven, hkept⟩
    cases past with
    | nil =>
        cases hsplit
        exact Or.inl ⟨hgiven, hkept⟩
    | cons _ past =>
        cases hsplit
        exact Or.inr ⟨past, given, later, rfl, hgiven, hkept⟩
  · intro hheld
    rcases hheld with ⟨hgiven, hkept⟩ | ⟨past, given, later, rfl, hgiven, hkept⟩
    · exact ⟨[], happening, happenings, rfl, hgiven, hkept⟩
    · exact ⟨happening :: past, given, later, rfl, hgiven, hkept⟩

theorem mem_heldWith_iff :
    handle ∈ heldWith held happening ↔
      happening.given? = some handle ∨ handle ∈ held ∧ happening.returned? ≠ some handle := by
  simp [heldWith, Option.mem_toList]

theorem mem_foldl_heldWith_iff :
    handle ∈ happenings.foldl heldWith held ↔
      (handle ∈ held ∧ forall later, later ∈ happenings -> later.returned? ≠ some handle) ∨
      HeldSince happenings handle := by
  induction happenings generalizing held with
  | nil =>
      have hnever : ¬ HeldSince ([] : List (Happening ω)) handle := by
        rintro ⟨past, given, later, hsplit, _⟩
        exact absurd hsplit.symm (List.append_ne_nil_of_right_ne_nil past (List.cons_ne_nil _ _))
      simp [hnever]
  | cons happening rest ih =>
      rw [List.foldl_cons, ih, mem_heldWith_iff, heldSince_cons, List.forall_mem_cons,
        or_and_right, and_assoc, or_assoc]
      exact or_left_comm

theorem mem_heldAfter_iff : handle ∈ heldAfter happenings ↔ HeldSince happenings handle := by
  have hnone : ¬ (handle ∈ ([] : List Handle) ∧
      forall later, later ∈ happenings -> later.returned? ≠ some handle) :=
    fun hheld => List.not_mem_nil hheld.1
  exact mem_foldl_heldWith_iff.trans (or_iff_right hnone)

theorem heldWith_allocated (held : List Handle) (handle : Handle) :
    heldWith held (.answered .allocate (.ok (.handle handle)) : Happening ω) = handle :: held := by
  simp [heldWith, Happening.given?, Happening.returned?]

theorem heldWith_acquired (held : List Handle) (handle : Handle) (reply : Reply) :
    heldWith held (.answered (.acquire handle) (.ok reply) : Happening ω) = handle :: held := by
  simp [heldWith, Happening.given?, Happening.returned?]

theorem heldWith_closed (held : List Handle) (handle : Handle) (reply : Reply) :
    heldWith held (.answered (.close handle) (.ok reply) : Happening ω) =
      held.filter (· ≠ handle) := by
  simp [heldWith, Happening.given?, Happening.returned?, eq_comm]

theorem heldWith_of_other (hgiven : happening.given? = none)
    (hreturned : happening.returned? = none) (held : List Handle) :
    heldWith held happening = held := by
  simp [heldWith, hgiven, hreturned]

theorem heldWith_failed (request : Request Nat) (failure : Failure) (held : List Handle) :
    heldWith held (.answered request (.error failure) : Happening ω) = held := by
  cases request with
  | _ => exact heldWith_of_other rfl rfl held

theorem heldWith_told {request : Request Nat} (hasks : request.asks = true) (reply : Reply)
    (held : List Handle) :
    heldWith held (.answered request (.ok reply) : Happening ω) = held := by
  cases request with
  | allocate | acquire _ | close _ => cases hasks
  | _ => exact heldWith_of_other rfl rfl held

theorem heldAfter_append_one (past : List (Happening ω)) (happening : Happening ω) :
    heldAfter (past ++ [happening]) = heldWith (heldAfter past) happening :=
  List.foldl_append

end History

namespace Registry

/-!
# Held handles and used slots
-/

section Uses

variable {η : Type} [Hardware η] {κ : Type} {n slots : Nat}
  {registry after : Registry η κ n slots} {held : List Handle} {i j : Fin n}

theorem handle_inj : registry.handle i = registry.handle j ↔ i = j := by
  constructor
  · intro hsame
    have hindex := congrArg Handle.index hsame
    rw [index_handle, index_handle] at hindex
    exact Fin.ext hindex
  · intro hsame
    rw [hsame]

/-- The handles of all instances. -/
def handles (registry : Registry η κ n slots) : List Handle :=
  (List.finRange n).map fun i : Fin n => registry.handle i

theorem handle_mem_handles (registry : Registry η κ n slots) (i : Fin n) :
    registry.handle i ∈ registry.handles :=
  List.mem_map_of_mem (List.mem_finRange i)

theorem length_handles (registry : Registry η κ n slots) : registry.handles.length = n := by
  rw [handles, List.length_map, List.length_finRange]

theorem nodup_handles (registry : Registry η κ n slots) : registry.handles.Nodup := by
  apply List.Pairwise.map _ _ (List.nodup_finRange n)
  intro i j hne hsame
  exact hne (handle_inj.mp hsame)

theorem handle_of_family (hfamily : after.family = registry.family) (index : Nat) :
    after.handle index = registry.handle index := by
  rw [handle, hfamily, handle]

/-- The held handles are those of the used slots, each once. -/
structure Holds (registry : Registry η κ n slots) (held : List Handle) : Prop where
  distinct : held.Nodup
  ours {handle : Handle} (hheld : handle ∈ held) : exists i : Fin n, handle = registry.handle i
  used_iff (i : Fin n) : (registry.slotAt i).state ≠ .unused ↔ registry.handle i ∈ held

theorem holds_of_unused (hunused : forall i, (registry.slotAt i).state = .unused) :
    registry.Holds [] where
  distinct := List.nodup_nil
  ours hheld := absurd hheld List.not_mem_nil
  used_iff i := by
    simp [hunused i]

namespace Holds

variable (hholds : registry.Holds held)
include hholds

/-- A change that leaves the same slots unused. -/
theorem of_same_uses (hfamily : after.family = registry.family)
    (huses : forall i, (after.slotAt i).state = .unused ↔ (registry.slotAt i).state = .unused) :
    after.Holds held where
  distinct := hholds.distinct
  ours hheld := by
    rcases hholds.ours hheld with ⟨i, hours⟩
    exact ⟨i, hours.trans (handle_of_family hfamily i).symm⟩
  used_iff i := by
    rw [handle_of_family hfamily]
    exact (not_congr (huses i)).trans (hholds.used_iff i)

/-- A change of one used instance that stays in use. -/
theorem of_change (hused : (registry.slotAt i).state ≠ .unused)
    (hstill : (after.slotAt i).state ≠ .unused) (hsame : SameOff i registry after) :
    after.Holds held := by
  apply hholds.of_same_uses hsame.family
  intro j
  by_cases hplace : i = j
  · subst j
    exact iff_of_false hstill hused
  · rw [hsame.slots j (mt Fin.ext hplace)]

theorem hold (hfree : (registry.slotAt i).state = .unused) :
    (registry.hold i).Holds (registry.handle i :: held) where
  distinct := by
    rw [List.nodup_cons]
    refine ⟨?_, hholds.distinct⟩
    intro hheld
    exact (hholds.used_iff i).mpr hheld hfree
  ours hheld := by
    rcases List.mem_cons.mp hheld with hnow | hbefore
    · exact ⟨i, hnow⟩
    · exact hholds.ours hbefore
  used_iff j := by
    show _ ↔ registry.handle j ∈ _
    rw [slotAt_hold, List.mem_cons, handle_inj, ← hholds.used_iff j]
    by_cases hplace : i = j
    · simp [hplace]
    · simp [hplace, Ne.symm hplace]

theorem giveBack :
    ((registry.switchOff i).wipe i).Holds (held.filter (· ≠ registry.handle i)) := by
  have hfamily := ((SameOff.switchOff registry i).trans (SameOff.wipe _ i)).family
  constructor
  · exact hholds.distinct.sublist List.filter_sublist
  · intro handle hheld
    rcases hholds.ours (List.mem_filter.mp hheld).1 with ⟨j, hours⟩
    exact ⟨j, hours.trans (handle_of_family hfamily j).symm⟩
  · intro j
    rw [handle_of_family hfamily, List.mem_filter, ← hholds.used_iff j, slotAt_wipe,
      slotAt_switchOff]
    by_cases hplace : i = j
    · simp [hplace]
    · simp [hplace, handle_inj, Ne.symm hplace]

end Holds
end Uses

/-!
# Requests
-/

theorem Holds.of_effect {η : Type} [Hardware η] {n slots : Nat}
    {registry after : Registry η Nat n slots} {held : List Handle} {ω : Type}
    {request : Request Nat} {answer : Except Failure Reply}
    (heffect : request.Effect registry answer after) (hholds : registry.Holds held) :
    after.Holds (heldWith held (.answered request answer : Happening ω)) := by
  have hkept {changed : Registry η Nat n slots} (hchanged : changed.Holds held)
      (hgiven : (.answered request answer : Happening ω).given? = none)
      (hreturned : (.answered request answer : Happening ω).returned? = none) :
      changed.Holds (heldWith held (.answered request answer : Happening ω)) := by
    rwa [heldWith_of_other hgiven hreturned]
  cases heffect with
  | failed request failure =>
      rw [heldWith_failed]
      exact hholds
  | told reply hasks =>
      rw [heldWith_told hasks]
      exact hholds
  | allocated hfree =>
      rw [heldWith_allocated]
      exact hholds.hold (unused_of_firstUnused? hfree)
  | acquired hlocated hfree =>
      rw [heldWith_acquired, handle_of_locate hlocated]
      exact hholds.hold hfree
  | closed hopen hidle =>
      rw [heldWith_closed, handle_of_locate (locate_of_locateOpen hopen).1]
      exact hholds.giveBack
  | waited hopen hserved =>
      -- The close that fails turns the instance off, but whoever held it holds it still.
      have hused := (locate_of_locateOpen hopen).2
      have hstill := Slot.halted_ne_unused hused
      exact hkept (hholds.of_change hused (by simp [hstill]) (.switchOff registry _)) rfl rfl
  | stayedOn hopen hruns => exact hkept hholds rfl rfl
  | turnedOn hopen hrests =>
      have hused := (locate_of_locateOpen hopen).2
      exact hkept (hholds.of_change hused (by simp) (.switchOn registry _)) rfl rfl
  | turnedOff hopen =>
      have hused := (locate_of_locateOpen hopen).2
      have hstill := Slot.halted_ne_unused hused
      exact hkept (hholds.of_change hused (by simp [hstill]) (.switchOff registry _)) rfl rfl
  | rated hopen hsolved =>
      have hused := (locate_of_locateOpen hopen).2
      exact hkept (hholds.of_change hused (by simp [hused]) (.adoptRate registry _ _ _)) rfl rfl
  | bound hopen callback =>
      have hused := (locate_of_locateOpen hopen).2
      exact hkept (hholds.of_change hused (by simp [hused]) (.rebind registry _ callback)) rfl rfl
  | widened hopen hknown =>
      have hused := (locate_of_locateOpen hopen).2
      exact hkept (hholds.of_change hused (by simp [hused]) (.adoptWidth registry _ _)) rfl rfl
  | counted _ | recounted _ _ =>
      exact hkept (hholds.of_same_uses rfl fun _ => Iff.rfl) rfl rfl
  | wroteBytes hlocated _ _ | wroteWords hlocated _ =>
      have hused := (locate_of_locateBuffers hlocated).2.1
      exact hkept (hholds.of_change hused (by simp [hused]) (.queue registry _ _ _)) rfl rfl
  | readBytes hlocated _ _ | readWords hlocated _ =>
      have hused := (locate_of_locateBuffers hlocated).2.1
      exact hkept (hholds.of_change hused (by simp [hused]) (.setBuffers registry _ _)) rfl rfl
  | drained hlocated hempty => exact hkept hholds rfl rfl
  | kicked hlocated hwaiting =>
      have hused := (locate_of_locateBuffers hlocated).2.1
      exact hkept (hholds.of_change hused (by simp [hused]) (.call registry _ _)) rfl rfl

/-!
# Giving out instances
-/

section Giving

variable {η : Type} [Hardware η] {κ : Type} {n slots : Nat} {registry : Registry η κ n slots}
  {held : List Handle} {i : Fin n}

theorem firstUnused?_eq_none_iff :
    registry.firstUnused? = none ↔ forall i, (registry.slotAt i).state ≠ .unused := by
  simp [firstUnused?, List.find?_eq_none, List.mem_finRange]

theorem used_of_firstUnused? (hfree : registry.firstUnused? = some i) {j : Fin n}
    (hbefore : j < i) : (registry.slotAt j).state ≠ .unused := by
  rcases List.find?_eq_some_iff_getElem.mp hfree with ⟨_, place, hplace, hat, hothers⟩
  rw [List.getElem_finRange] at hat
  have hlower : j.val < place := by
    rw [← hat] at hbefore
    exact hbefore
  have hused := hothers j hlower
  simpa [List.getElem_finRange] using hused

theorem allocate_fst_eq_ok_iff {handle : Handle} :
    registry.allocate.1 = .ok handle ↔
      exists i, registry.firstUnused? = some i ∧ handle = registry.handle i := by
  unfold allocate
  cases hfirst : registry.firstUnused? with
  | none => simp [refuse]
  | some i => simp [eq_comm]

theorem exists_allocate_fst_iff :
    (exists handle, registry.allocate.1 = .ok handle) ↔ registry.firstUnused? ≠ none := by
  rw [Option.ne_none_iff_exists']
  constructor
  · intro hsome
    rcases hsome with ⟨handle, hgiven⟩
    rcases allocate_fst_eq_ok_iff.mp hgiven with ⟨i, hfirst, _⟩
    exact ⟨i, hfirst⟩
  · intro hsome
    rcases hsome with ⟨i, hfirst⟩
    exact ⟨registry.handle i, allocate_fst_eq_ok_iff.mpr ⟨i, hfirst, rfl⟩⟩

theorem allocate_fst_eq_refuse_iff :
    registry.allocate.1 = refuse .resourceExhausted ↔ registry.firstUnused? = none := by
  unfold allocate
  cases hfirst : registry.firstUnused? with
  | none => simp
  | some i => simp [refuse]

theorem acquire_fst_eq_refuse_iff {handle : Handle} :
    (registry.acquire handle).1 = refuse .alreadyInUse ↔
      exists i, registry.locate handle = .ok i ∧ (registry.slotAt i).state ≠ .unused := by
  unfold acquire
  cases hlocated : registry.locate handle with
  | error failure =>
      rw [failure_of_locate hlocated]
      simp [refuse]
  | ok i =>
      by_cases hfree : (registry.slotAt i).state = .unused
      · simp [hfree, refuse]
      · simp [hfree]

namespace Holds

variable (hholds : registry.Holds held)
include hholds

/-- No more handles are held than there are instances. -/
theorem length_le : held.length ≤ n := by
  have hsubset : held ⊆ registry.handles := by
    intro handle hheld
    rcases hholds.ours hheld with ⟨i, rfl⟩
    exact registry.handle_mem_handles i
  have hlength := List.Nodup.length_le_of_subset hholds.distinct hsubset
  rwa [length_handles] at hlength

/-- As many handles are held as there are instances exactly if no slot is unused: one that is could
be held as well. -/
theorem length_eq_iff : held.length = n ↔ forall i, (registry.slotAt i).state ≠ .unused := by
  constructor
  · intro hall i hfree
    have hmore := (hholds.hold hfree).length_le
    rw [List.length_cons, hall] at hmore
    exact Nat.not_succ_le_self n hmore
  · intro hused
    have hsubset : registry.handles ⊆ held := by
      intro handle hmem
      rcases List.mem_map.mp hmem with ⟨i, _, rfl⟩
      exact (hholds.used_iff i).mp (hused i)
    have hlength := registry.nodup_handles.length_le_of_subset hsubset
    rw [length_handles] at hlength
    exact Nat.le_antisymm hholds.length_le hlength

end Holds

/-!
# Exclusive instances
-/

/-- How a registry gives out its instances while the given handles are held. -/
structure Exclusive (registry : Registry η κ n slots) (held : List Handle) : Prop
    extends registry.Holds held where
  allocates_iff : (exists handle, registry.allocate.1 = .ok handle) ↔ held.length < n
  /-- What is given out is the lowest instance that is not held. -/
  lowest {handle : Handle} (hgiven : registry.allocate.1 = .ok handle) :
    exists i : Fin n, handle = registry.handle i ∧ registry.handle i ∉ held ∧
      forall j : Fin n, j < i -> registry.handle j ∈ held
  exhausted_iff : registry.allocate.1 = refuse .resourceExhausted ↔ held.length = n
  inUse_iff (handle : Handle) :
    (registry.acquire handle).1 = refuse .alreadyInUse ↔ handle ∈ held
  allocate_apart {handle : Handle} (hgiven : registry.allocate.1 = .ok handle) :
    SameOff handle.index registry registry.allocate.2 ∧
      registry.allocate.2.hardware = registry.hardware
  acquire_apart {handle : Handle} (hgiven : (registry.acquire handle).1 = .ok ()) :
    SameOff handle.index registry (registry.acquire handle).2 ∧
      (registry.acquire handle).2.hardware = registry.hardware

theorem sameOff_allocate {handle : Handle} (hgiven : registry.allocate.1 = .ok handle) :
    SameOff handle.index registry registry.allocate.2 ∧
      registry.allocate.2.hardware = registry.hardware := by
  rcases allocate_fst_eq_ok_iff.mp hgiven with ⟨i, hfirst, rfl⟩
  have hafter : registry.allocate.2 = registry.hold i := by
    simp [allocate, hfirst]
  rw [hafter, index_handle]
  exact ⟨.setSlot registry i _, rfl⟩

theorem sameOff_acquire (registry : Registry η κ n slots) (handle : Handle) :
    SameOff handle.index registry (registry.acquire handle).2 ∧
      (registry.acquire handle).2.hardware = registry.hardware := by
  unfold acquire
  cases hlocated : registry.locate handle with
  | error failure => exact ⟨.refl _ registry, rfl⟩
  | ok i =>
      rw [index_of_locate hlocated]
      by_cases hfree : (registry.slotAt i).state = .unused
      · simp only [if_pos hfree]
        exact ⟨.setSlot registry i _, rfl⟩
      · simp only [if_neg hfree]
        exact ⟨.refl _ registry, trivial⟩

theorem Holds.exclusive (hholds : registry.Holds held) : registry.Exclusive held where
  toHolds := hholds
  allocates_iff := by
    have hmany := Nat.lt_iff_le_and_ne.trans (and_iff_right hholds.length_le)
    rw [exists_allocate_fst_iff, hmany]
    exact not_congr (firstUnused?_eq_none_iff.trans hholds.length_eq_iff.symm)
  lowest hgiven := by
    rcases allocate_fst_eq_ok_iff.mp hgiven with ⟨i, hfirst, rfl⟩
    refine ⟨i, rfl, ?_, ?_⟩
    · intro hheld
      exact (hholds.used_iff i).mpr hheld (unused_of_firstUnused? hfirst)
    · intro j hbefore
      exact (hholds.used_iff j).mp (used_of_firstUnused? hfirst hbefore)
  exhausted_iff := by
    rw [allocate_fst_eq_refuse_iff, firstUnused?_eq_none_iff, hholds.length_eq_iff]
  inUse_iff handle := by
    rw [acquire_fst_eq_refuse_iff]
    constructor
    · intro hused
      rcases hused with ⟨i, hlocated, hstate⟩
      rw [handle_of_locate hlocated]
      exact (hholds.used_iff i).mp hstate
    · intro hheld
      rcases hholds.ours hheld with ⟨i, rfl⟩
      exact ⟨i, locate_handle registry i, (hholds.used_iff i).mpr hheld⟩
  allocate_apart hgiven := sameOff_allocate hgiven
  acquire_apart {handle} _ := registry.sameOff_acquire handle

end Giving
end Registry

/-!
# Runs
-/

section Runs

variable {η : Type} [Inspectable η] {ω : Type} [Line ω] {n slots : Nat}

/-- What happens in a step changes the held handles as the step changes the slots. -/
theorem holds_of_step {registry after : Registry η Nat n slots} {past now : List (Happening ω)}
    (hstep : Step registry now after) (hholds : registry.Holds (heldAfter past)) :
    after.Holds (heldAfter (past ++ now)) := by
  cases hstep with
  | claimed _ | marked _ _ =>
      rw [List.append_nil]
      exact hholds.of_same_uses rfl fun _ => Iff.rfl
  | asked heffect =>
      rw [heldAfter_append_one]
      exact hholds.of_effect heffect
  | advanced _ _ | clocked _ | forgot | passed _ _ _ _ | moved _ _ _ _ =>
      rw [heldAfter_append_one, heldWith_of_other rfl rfl]
      exact hholds.of_same_uses rfl fun _ => Iff.rfl

/-- The held handles are those that were given out and not taken back since.  In every run from a
registry whose slots are all unused, and at every point on its path, also within callbacks, they are
those of the used slots, and an instance is given out exactly if it is not held. -/
theorem instances_given_to_one_holder {start : Registry η Nat n slots}
    (hunused : forall i, (start.slotAt i).state = .unused) :
    (forall (past : List (Happening ω)) (handle : Handle),
      handle ∈ heldAfter past ↔ HeldSince past handle) ∧
    (forall (past : List (Happening ω)) (registry : Registry η Nat n slots),
      Path start past registry -> registry.Exclusive (heldAfter past)) ∧
    forall moves : List (Move ω),
      (Move.runAll moves start).Exclusive (heldAfter (Move.happeningsOf moves start)) := by
  have halong {past : List (Happening ω)} {registry : Registry η Nat n slots}
      (hpath : Path start past registry) : registry.Exclusive (heldAfter past) := by
    have hstart : start.Holds (heldAfter ([] : List (Happening ω))) :=
      Registry.holds_of_unused hunused
    have hholds := path_records (P := fun past registry => registry.Holds (heldAfter past))
      holds_of_step [] hpath hstart
    exact hholds.exclusive
  refine ⟨?_, ?_, ?_⟩
  · intro past handle
    exact mem_heldAfter_iff
  · intro past registry hpath
    exact halong hpath
  · intro moves
    exact halong (path_of_run moves start)

/-- Two timers.  The first fails to give itself back from within its interrupt, where it opens the
second; then it is given back from outside. -/
theorem instances_given_to_one_holder_of_two_timers :
    let start : Registry (SimulatedHardware 2) Nat 2 0 :=
      .unbuffered { profile := .timer, clock := 8000000 }
    let first := start.handle 0
    let second := start.handle 1
    let opening : List (Move BareLine) :=
      [.command (.request .allocate), .command (.request (.bind first (some 0))),
        .command (.request (.enable first)),
        .interrupt 0 {} [[.request (.close first), .request (.acquire second)]]]
    let moves := opening ++ [.command (.request (.close first))]
    heldAfter (Move.happeningsOf opening start) = [second, first] ∧
      (Move.runAll opening start).allocate.1 = refuse .resourceExhausted ∧
      heldAfter (Move.happeningsOf moves start) = [second] ∧
      ((Move.runAll moves start).acquire second).1 = refuse .alreadyInUse ∧
      exists handle, (Move.runAll moves start).allocate.1 = .ok handle := by
  intro start first second opening moves
  have hunused : forall i, (start.slotAt i).state = .unused := by decide
  have hopening : heldAfter (Move.happeningsOf opening start) = [second, first] := by
    decide +kernel
  have hmoves : heldAfter (Move.happeningsOf moves start) = [second] := by
    decide +kernel
  have hfull := (instances_given_to_one_holder hunused).2.2 opening
  have hfree := (instances_given_to_one_holder hunused).2.2 moves
  rw [hopening] at hfull
  rw [hmoves] at hfree
  refine ⟨hopening, hfull.exhausted_iff.mpr rfl, hmoves, ?_, ?_⟩
  · exact (hfree.inUse_iff second).mpr List.mem_cons_self
  · exact hfree.allocates_iff.mpr (by decide)

end Runs
end PeripheralBank
