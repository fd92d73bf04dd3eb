import PeripheralBank.Proofs.Bench.Addressed
import PeripheralBank.Proofs.Bench.Clean
import PeripheralBank.Proofs.Bench.Holding

/-!
# Lent buffers

The buffers of a registry are lent to it, and it takes them as they are.  They are wiped when their
instance is given back, and only then.  So the first to hold an instance finds what was left in its
buffers before the registry was built, and everybody after finds them empty.
-/

namespace PeripheralBank

theorem Ring.size_eq_zero_iff {α : Type} {slots : Nat} {ring : Ring α slots} :
    ring.size = 0 ↔ ring.toList = [] := by
  rw [← Ring.length_toList, List.length_eq_zero_iff]

theorem Ring.free_of_size_zero {α : Type} {slots : Nat} {ring : Ring α (slots + 1)}
    (hempty : ring.size = 0) : ring.free = slots := by
  rw [Ring.free, hempty]
  rfl

/-- Whether nothing can be seen in the buffers: no word in either of them, and no count of dropped
ones in the inbound one.  That of the outbound one is never shown. -/
def Buffers.LooksEmpty {slots : Nat} (buffers : Buffers slots) : Prop :=
  buffers.outbound.toList = [] ∧ buffers.inbound.IsClear

theorem Buffers.IsClear.looksEmpty {slots : Nat} {buffers : Buffers slots}
    (hclear : buffers.IsClear) : buffers.LooksEmpty :=
  ⟨(Ring.isClear_iff.mp hclear.1).1, hclear.2⟩

namespace Registry

variable {η : Type} [Hardware η] {κ : Type} {n slots : Nat}

/-!
# Fill levels
-/

/-- The questions about the fill of an instance are answered from these buffers. -/
structure ShowsLevels (registry : Registry η κ n slots) (handle : Handle)
    (buffers : Buffers slots) : Prop where
  pending : registry.pending handle = .ok buffers.outbound.size
  readable : registry.readable handle = .ok buffers.inbound.size
  overflows : registry.overflows handle = .ok buffers.inbound.overflows
  writable : registry.writable handle = .ok buffers.outbound.free

theorem showsLevels_of_held {registry : Registry η κ n slots} {i : Fin n} {buffers : Buffers slots}
    (hheld : (registry.slotAt i).state ≠ .unused) (hstored : registry.buffersAt? i = some buffers) :
    registry.ShowsLevels (registry.handle i) buffers := by
  have hlocated := locateBuffers_handle hheld hstored
  constructor
  · rw [pending, hlocated]
    rfl
  · rw [readable, hlocated]
    rfl
  · rw [overflows, hlocated]
    rfl
  · rw [writable, hlocated]
    rfl

/-- Whoever is given the instance next finds its buffers at these levels. -/
structure OpensWith (registry : Registry η κ n slots) (i : Fin n) (buffers : Buffers slots) :
    Prop where
  allocated (hgiven : registry.allocate.1 = .ok (registry.handle i)) :
    registry.allocate.2.ShowsLevels (registry.handle i) buffers
  acquired (hgiven : (registry.acquire (registry.handle i)).1 = .ok ()) :
    (registry.acquire (registry.handle i)).2.ShowsLevels (registry.handle i) buffers

section Opening

variable {registry : Registry η κ n slots} {i : Fin n} {buffers : Buffers slots}

theorem acquire_of_unused (hfree : (registry.slotAt i).state = .unused) :
    registry.acquire (registry.handle i) = (.ok (), registry.hold i) := by
  unfold acquire
  rw [locate_handle]
  exact if_pos hfree

/-- Opening an instance leaves its buffers alone. -/
theorem showsLevels_hold (hstored : registry.buffersAt? i = some buffers) :
    (registry.hold i).ShowsLevels (registry.handle i) buffers := by
  have hheld : ((registry.hold i).slotAt i).state ≠ .unused := by
    rw [slotAt_hold, if_pos rfl]
    exact State.noConfusion
  exact showsLevels_of_held hheld hstored

theorem opensWith_of_stored
    (hstored : (registry.slotAt i).state = .unused -> registry.buffersAt? i = some buffers) :
    registry.OpensWith i buffers where
  allocated hgiven := by
    rcases allocate_fst_eq_ok_iff.mp hgiven with ⟨k, hfirst, hsame⟩
    obtain rfl := handle_inj.mp hsame
    have hleft : registry.allocate.2 = registry.hold i := by
      rw [allocate, hfirst]
    rw [hleft]
    exact showsLevels_hold (hstored (unused_of_firstUnused? hfirst))
  acquired hgiven := by
    by_cases hfree : (registry.slotAt i).state = .unused
    · rw [acquire_of_unused hfree]
      exact showsLevels_hold (hstored hfree)
    · have hrefused := acquire_fst_eq_refuse_iff.mpr ⟨i, registry.locate_handle i, hfree⟩
      rw [hrefused] at hgiven
      cases hgiven

end Opening

/-!
# Buffers that look empty
-/

section Empty

variable {registry : Registry η κ n (slots + 1)} {handle : Handle} {i : Fin n}
  {buffers : Buffers (slots + 1)}

theorem showsLevels_empty_iff :
    registry.ShowsLevels handle .empty ↔
      registry.pending handle = .ok 0 ∧ registry.readable handle = .ok 0 ∧
        registry.overflows handle = .ok 0 ∧ registry.writable handle = .ok slots := by
  have hsize : (Ring.empty : Ring UInt16 (slots + 1)).size = 0 :=
    Ring.size_eq_zero_iff.mpr Ring.toList_empty
  have hnone := congrArg (Except.ok : Nat -> Except Failure Nat) hsize
  have hall := congrArg (Except.ok : Nat -> Except Failure Nat) (Ring.free_of_size_zero hsize)
  constructor
  · intro hshows
    exact ⟨hshows.pending.trans hnone, hshows.readable.trans hnone, hshows.overflows,
      hshows.writable.trans hall⟩
  · rintro ⟨hpending, hreadable, hoverflows, hwritable⟩
    exact
      { pending := hpending.trans hnone.symm
        readable := hreadable.trans hnone.symm
        overflows := hoverflows
        writable := hwritable.trans hall.symm }

/-- The questions see of these buffers what they see of empty ones. -/
theorem ShowsLevels.of_looksEmpty (hempty : buffers.LooksEmpty)
    (hshows : registry.ShowsLevels handle buffers) : registry.ShowsLevels handle .empty := by
  have hclear := Ring.isClear_iff.mp hempty.2
  have houtbound := Ring.size_eq_zero_iff.mpr hempty.1
  have hinbound := Ring.size_eq_zero_iff.mpr hclear.1
  rw [showsLevels_empty_iff, hshows.pending, hshows.readable, hshows.overflows, hshows.writable,
    houtbound, hinbound, hclear.2, Ring.free_of_size_zero houtbound]
  exact ⟨rfl, rfl, rfl, rfl⟩

theorem OpensWith.of_looksEmpty (hempty : buffers.LooksEmpty)
    (hopens : registry.OpensWith i buffers) : registry.OpensWith i .empty where
  allocated hgiven := (hopens.allocated hgiven).of_looksEmpty hempty
  acquired hgiven := (hopens.acquired hgiven).of_looksEmpty hempty

/-- An unused instance shows at once whether its buffers look empty. -/
theorem looksEmpty_of_opensWith (hfree : (registry.slotAt i).state = .unused)
    (hstored : registry.buffersAt? i = some buffers) (hopens : registry.OpensWith i .empty) :
    buffers.LooksEmpty := by
  have hopened := acquire_of_unused hfree
  have hempty := hopens.acquired (by rw [hopened])
  have hshows := showsLevels_hold hstored
  rw [hopened, showsLevels_empty_iff, hshows.pending, hshows.readable, hshows.overflows] at hempty
  rcases hempty with ⟨hpending, hreadable, hoverflows, _⟩
  have houtbound := Ring.size_eq_zero_iff.mp (Except.ok.inj hpending)
  have hinbound := Ring.size_eq_zero_iff.mp (Except.ok.inj hreadable)
  exact ⟨houtbound, Ring.isClear_iff.mpr ⟨hinbound, Except.ok.inj hoverflows⟩⟩

end Empty

end Registry

/-!
# Runs
-/

section History

variable {ω : Type}

/-- The handles that were given out in all this, each as often as it was. -/
def givenOut (happenings : List (Happening ω)) : List Handle :=
  happenings.filterMap Happening.given?

theorem givenOut_append (past now : List (Happening ω)) :
    givenOut (past ++ now) = givenOut past ++ givenOut now :=
  List.filterMap_append

theorem mem_givenOut_of_held {happenings : List (Happening ω)} {handle : Handle}
    (hheld : handle ∈ heldAfter happenings) : handle ∈ givenOut happenings := by
  rcases mem_heldAfter_iff.mp hheld with ⟨past, given, later, rfl, hgiven, _⟩
  exact List.mem_filterMap.mpr ⟨given, by simp, hgiven⟩

end History

section Runs

variable {η : Type} [Inspectable η] {ω : Type} [Line ω] {n slots : Nat}

/-- What a step gives out is held after it. -/
theorem held_of_given {registry after : Registry η Nat n slots} {past now : List (Happening ω)}
    {handle : Handle} (hstep : Step registry now after) (hgiven : handle ∈ givenOut now) :
    handle ∈ heldAfter (past ++ now) := by
  have hone (happening : Happening ω) (hgiven : handle ∈ givenOut [happening]) :
      handle ∈ heldAfter (past ++ [happening]) := by
    rcases List.mem_filterMap.mp hgiven with ⟨_, hmem, hsome⟩
    rw [List.mem_singleton.mp hmem] at hsome
    exact mem_heldAfter_iff.mpr ⟨past, happening, [], rfl, hsome, fun _ => by simp⟩
  cases hstep with
  | claimed _ | marked _ _ => cases hgiven
  | _ => exact hone _ hgiven

/-- Until an instance is given out, its buffers are as they were at the start.  After that they hold
nothing whenever the instance is unused. -/
structure LentAt (start : Registry η Nat n slots) (past : List (Happening ω))
    (registry : Registry η Nat n slots) (i : Fin n) : Prop where
  family : registry.family = start.family
  holds : registry.Holds (heldAfter past)
  untouched (hnew : start.handle i ∉ givenOut past) :
    registry.buffersAt? i = start.buffersAt? i
  wiped (hfree : (registry.slotAt i).state = .unused) (hgiven : start.handle i ∈ givenOut past)
    {buffers : Buffers slots} (hstored : registry.buffersAt? i = some buffers) : buffers.IsClear

theorem lentAt_of_step {start registry after : Registry η Nat n slots}
    {past now : List (Happening ω)} {i : Fin n} (hstep : Step registry now after)
    (hlent : LentAt start past registry i) : LentAt start (past ++ now) after i := by
  have hfamily := (family_of_step hstep).trans hlent.family
  have hholds := holds_of_step hstep hlent.holds
  have hused : (after.slotAt i).state ≠ .unused ↔ start.handle i ∈ heldAfter (past ++ now) := by
    rw [hholds.used_iff, Registry.handle_of_family hfamily]
  have hbefore : (registry.slotAt i).state ≠ .unused -> start.handle i ∈ givenOut past := by
    rw [hlent.holds.used_iff, Registry.handle_of_family hlent.family]
    exact mem_givenOut_of_held
  refine ⟨hfamily, hholds, ?_, ?_⟩
  · intro hnew
    have hfree : (after.slotAt i).state = .unused :=
      Decidable.not_not.mp fun hheld => hnew (mem_givenOut_of_held (hused.mp hheld))
    rw [givenOut_append, List.mem_append, not_or] at hnew
    cases freed_of_step hstep hfree with
    | kept _ hbuffers => exact hbuffers.trans (hlent.untouched hnew.1)
    | wiped hheld _ => exact absurd (hbefore hheld) hnew.1
  · intro hfree hgiven buffers hstored
    cases freed_of_step hstep hfree with
    | kept hslot hbuffers =>
        -- What was given out now is in use now, so it was given out before.
        rw [givenOut_append, List.mem_append] at hgiven
        have hpast := hgiven.resolve_right fun hnow => hused.mpr (held_of_given hstep hnow) hfree
        rw [hslot] at hfree
        rw [hbuffers] at hstored
        exact hlent.wiped hfree hpast hstored
    | wiped _ hclean => exact hclean.buffers hfree hstored

section Path

variable {start registry : Registry η Nat n slots} {past : List (Happening ω)}
  (hunused : forall j, (start.slotAt j).state = .unused) (hpath : Path start past registry)
include hunused hpath

theorem lentAt_of_path (i : Fin n) : LentAt start past registry i := by
  have hstart : LentAt start ([] : List (Happening ω)) start i :=
    { family := rfl
      holds := Registry.holds_of_unused hunused
      untouched := fun _ => rfl
      wiped := fun _ hgiven => absurd hgiven List.not_mem_nil }
  exact path_records (P := fun past registry => LentAt start past registry i) lentAt_of_step []
    hpath hstart

end Path

/-- From a start at which nothing is in use, the first holder of an instance finds its buffers as
they are at the start, and everybody after finds them empty. -/
theorem opensWith_of_path {start registry : Registry η Nat n (slots + 1)}
    {past : List (Happening ω)} (hunused : forall j, (start.slotAt j).state = .unused)
    (hpath : Path start past registry) {i : Fin n} {lent : Buffers (slots + 1)}
    (hlent : start.buffersAt? i = some lent) :
    registry.OpensWith i (if start.handle i ∈ givenOut past then .empty else lent) := by
  have hlentAt := lentAt_of_path hunused hpath i
  have hbuffered := isBuffered_of_path hpath
  rw [← registry.isSome_buffersAt? i, ← start.isSome_buffersAt? i, hlent, Option.isSome_some,
    Option.isSome_iff_exists] at hbuffered
  rcases hbuffered with ⟨buffers, hstored⟩
  split
  · rename_i hgiven
    by_cases hfree : (registry.slotAt i).state = .unused
    · have hclear := hlentAt.wiped hfree hgiven hstored
      exact (Registry.opensWith_of_stored fun _ => hstored).of_looksEmpty hclear.looksEmpty
    · exact Registry.opensWith_of_stored fun hunused => absurd hunused hfree
  · rename_i hnew
    exact Registry.opensWith_of_stored fun _ => (hlentAt.untouched hnew).trans hlent

/-- The first to be given an instance finds its buffers at the levels that they were lent at, and
everybody after finds them empty, at every point of a run, also within callbacks.  So a registry
starts clean exactly if it is lent buffers that look empty. -/
theorem first_holder_finds_lent_words (hardware : η) (storage : Vector (Buffers (slots + 1)) n)
    (hbelow : n < Handle.nullIndex) (hdriven : n ≤ Hardware.instances η) :
    let start : Registry η Nat n (slots + 1) := .buffered hardware storage hbelow hdriven
    (forall i : Fin n, (start.acquire (start.handle i)).1 = .ok ()) ∧
    (forall (past : List (Happening ω)) registry, Path start past registry -> forall i : Fin n,
      registry.OpensWith i (if start.handle i ∈ givenOut past then .empty else storage[i])) ∧
    (forall (moves : List (Move ω)) (i : Fin n), (Move.runAll moves start).OpensWith i
      (if start.handle i ∈ givenOut (Move.happeningsOf moves start) then .empty else storage[i])) ∧
    forall i : Fin n, storage[i].LooksEmpty ↔
      forall (past : List (Happening ω)) registry, Path start past registry ->
        registry.OpensWith i .empty := by
  intro start
  have hunused (i : Fin n) : (start.slotAt i).state = .unused := by
    simp [start, Registry.slotAt, Registry.buffered, Registry.build]
  refine ⟨?_, ?_, ?_, ?_⟩
  · intro i
    rw [Registry.acquire_of_unused (hunused i)]
  · intro past registry hpath i
    exact opensWith_of_path hunused hpath rfl
  · intro moves i
    exact opensWith_of_path hunused (path_of_run moves start) rfl
  · intro i
    have hlent : start.buffersAt? i = some storage[i] := rfl
    constructor
    · intro hempty past registry hpath
      have hopens := opensWith_of_path hunused hpath hlent
      split at hopens
      · exact hopens
      · exact hopens.of_looksEmpty hempty
    · intro hclean
      exact Registry.looksEmpty_of_opensWith (hunused i) hlent (hclean [] start (Path.nil start))

/-- Buffers with a word to send, and as many received words as fit, of which one more was dropped.
Who is given the instance first finds all that, and who is given it again finds nothing. -/
theorem first_holder_finds_lent_words_of_uart :
    let left : Buffers 4 :=
      { outbound := (Ring.empty.push [7]).2
        inbound := (((Ring.empty.push [1, 2, 3]).2).pushOrDrop 4).2 }
    let start : Registry (SimulatedHardware 1) Nat 1 4 :=
      .buffered { profile := .uart, clock := 8000000 } (Vector.replicate 1 left)
    let device := start.handle (0 : Fin 1)
    let moves : List (Move BareLine) :=
      [.command (.request .allocate), .command (.request (.close device))]
    let final := Move.runAll moves start
    let reopened := final.allocate.2
    (1 < Handle.nullIndex ∧ 1 ≤ Hardware.instances (SimulatedHardware 1)) ∧
      start.allocate.1 = .ok device ∧ start.allocate.2.ShowsLevels device left ∧
      (left.outbound.size = 1 ∧ left.inbound.size = 3 ∧ left.inbound.overflows = 1 ∧
        left.outbound.free = 2) ∧
      final.allocate.1 = .ok device ∧ reopened.pending device = .ok 0 ∧
      reopened.readable device = .ok 0 ∧ reopened.overflows device = .ok 0 ∧
      reopened.writable device = .ok 3 := by
  intro left start device moves final reopened
  have hbelow : 1 < Handle.nullIndex := by decide
  have hdriven : 1 ≤ Hardware.instances (SimulatedHardware 1) := by decide
  have hopened : start.allocate.1 = .ok device := by decide
  have hreopened : final.allocate.1 = .ok device := by decide
  have hsame : final.handle (0 : Fin 1) = device := by decide
  have hlevels : left.outbound.size = 1 ∧ left.inbound.size = 3 ∧ left.inbound.overflows = 1 ∧
      left.outbound.free = 2 := by
    decide
  have hnew : device ∉ givenOut (Move.happeningsOf ([] : List (Move BareLine)) start) :=
    List.not_mem_nil
  have hgiven : device ∈ givenOut (Move.happeningsOf moves start) := by decide
  have hruns (moves : List (Move BareLine)) : (Move.runAll moves start).OpensWith 0
      (if device ∈ givenOut (Move.happeningsOf moves start) then .empty else left) :=
    (first_holder_finds_lent_words { profile := .uart, clock := 8000000 }
      (Vector.replicate 1 left) hbelow hdriven).2.2.1 moves 0
  have hfirst := hruns []
  have hsecond := hruns moves
  rw [if_neg hnew] at hfirst
  rw [if_pos hgiven] at hsecond
  have hagain := hsecond.allocated (hreopened.trans (congrArg Except.ok hsame.symm))
  rw [hsame] at hagain
  exact ⟨⟨hbelow, hdriven⟩, hopened, hfirst.allocated hopened, hlevels, hreopened,
    Registry.showsLevels_empty_iff.mp hagain⟩

/-- A word that was written to one registry waits in the next one that is lent its buffers. -/
theorem reused_buffers_start_unclean :
    let hardware : SimulatedHardware 1 := { profile := .uart, clock := 8000000 }
    let earlier : Registry (SimulatedHardware 1) Nat 1 4 :=
      .buffered hardware (Vector.replicate 1 .empty)
    let device := earlier.handle 0
    let moves : List (Move BareLine) :=
      [.command (.request .allocate), .command (.request (.write device [7]))]
    let storage := (Move.runAll moves earlier).buffers.getD (Vector.replicate 1 .empty)
    let start : Registry (SimulatedHardware 1) Nat 1 4 := .buffered hardware storage
    (Move.runAll moves earlier).buffers = some storage ∧ (start.slotAt 0).state = .unused ∧
      storage[0].outbound.toList ≠ [] ∧ start.allocate.1 = .ok device ∧
      start.allocate.2.pending device = .ok 1 ∧ start.allocate.2.pending device ≠ .ok 0 ∧
      start.allocate.2.writable device = .ok 2 ∧ start.allocate.2.writable device ≠ .ok 3 := by
  intro hardware earlier device moves storage start
  have hbuffered : (Move.runAll moves earlier).isBuffered = true := isBuffered_of_run moves earlier
  have hleft : (Move.runAll moves earlier).buffers = some storage := by
    rcases Option.isSome_iff_exists.mp hbuffered with ⟨kept, hkept⟩
    have hstorage : storage = kept :=
      congrArg (·.getD (Vector.replicate 1 .empty)) hkept
    rw [hstorage]
    exact hkept
  have hpending : start.allocate.2.pending device = .ok 1 := by decide
  have hwritable : start.allocate.2.writable device = .ok 2 := by decide
  refine ⟨hleft, rfl, by decide, by decide, hpending, ?_, hwritable, ?_⟩
  · rw [hpending]
    decide
  · rw [hwritable]
    decide

end Runs
end PeripheralBank
