import PeripheralBank.Proofs.Bench.Clean
import PeripheralBank.Proofs.Simulation.Profile
import PeripheralBank.Proofs.Simulation.Registers

/-!
# The width of the registry and the width of the hardware

The registry goes by the width that was set since an instance was opened, and else by the
hardware's first.  The hardware goes by the last width it was told.  Opening an instance again
makes the registry forget its width but tells the hardware nothing, so the two may part there,
and they meet again as soon as a width is set.
-/

namespace PeripheralBank

/-- The widths that were set for one instance. -/
structure WidthOrders where
  /-- The last that its hardware was told. -/
  told : Option UInt8 := none
  /-- The last since it was opened. -/
  chosen : Option UInt8 := none

namespace WidthOrders

def forget (orders : WidthOrders) : WidthOrders :=
  { orders with chosen := none }

def order (bits : UInt8) : WidthOrders :=
  { told := some bits, chosen := some bits }

/-- The widths set for the instance of an index after one more happening. -/
def note {ω : Type} (index : Nat) (orders : WidthOrders) : Happening ω -> WidthOrders
  | .answered .allocate (.ok (.handle handle)) =>
      if handle.index = index then orders.forget else orders
  | .answered (.acquire handle) (.ok _) => if handle.index = index then orders.forget else orders
  | .answered (.setWordWidth handle bits) (.ok _) =>
      if handle.index = index then order bits else orders
  | _ => orders

def noteAll {ω : Type} (index : Nat) (happenings : List (Happening ω)) : WidthOrders :=
  happenings.foldl (note index) {}

variable {ω : Type} (index : Nat) (orders : WidthOrders) {request : Request Nat}

theorem note_failed (request : Request Nat) (failure : Failure) :
    orders.note index (.answered request (.error failure) : Happening ω) = orders := by
  cases request with
  | _ => rfl

theorem note_told (hasks : request.asks = true) (reply : Reply) :
    orders.note index (.answered request (.ok reply) : Happening ω) = orders := by
  cases request with
  | state _ | currentRate _ | requestedRate _ | rateConfig _ | hasCallback _ | wordWidth _ => rfl
  | readable _ | writable _ | pending _ | overflows _ => rfl
  | _ => cases hasks

end WidthOrders

namespace Registry

theorem wordWidth_of_widthInForce? {η : Type} [Hardware η] {κ : Type} {n slots : Nat}
    {registry : Registry η κ n slots} {i : Fin n} {width : UInt8}
    (hheld : (registry.slotAt i).state ≠ .unused) (hforce : registry.widthInForce? i = some width) :
    registry.wordWidth (registry.handle i) = .ok width := by
  rw [wordWidth_handle hheld, hforce]

/-!
# What one instance keeps of its widths
-/

section Effects

variable {m n slots : Nat} {registry after : Registry (SimulatedHardware m) Nat n slots}
  {j k : Fin n} {orders : WidthOrders}

structure WidthsKept (registry : Registry (SimulatedHardware m) Nat n slots) (j : Fin n)
    (orders : WidthOrders) : Prop where
  told : (registry.registersAt j).wordWidth = orders.told
  chosen (hheld : (registry.slotAt j).state ≠ .unused) :
    (registry.slotAt j).wordWidth = orders.chosen
  told_of_chosen {bits : UInt8} (hchosen : orders.chosen = some bits) : orders.told = some bits

theorem widthsKept_of_kept (hkept : registry.WidthsKept j orders)
    (htold : (after.registersAt j).wordWidth = (registry.registersAt j).wordWidth)
    (hslot : (after.slotAt j).state ≠ .unused ->
      (registry.slotAt j).state ≠ .unused ∧
        (after.slotAt j).wordWidth = (registry.slotAt j).wordWidth) :
    after.WidthsKept j orders where
  told := htold.trans hkept.told
  chosen hheld := (hslot hheld).2.trans (hkept.chosen (hslot hheld).1)
  told_of_chosen := hkept.told_of_chosen

/-- A change of a held instance that leaves the widths alone. -/
theorem widthsKept_of_held (hheld : (registry.slotAt k).state ≠ .unused)
    (htold : (after.registersAt j).wordWidth = (registry.registersAt j).wordWidth)
    (hwidth : (after.slotAt j).wordWidth = (registry.slotAt j).wordWidth)
    (hframe : k ≠ j -> after.slotAt j = registry.slotAt j)
    (hkept : registry.WidthsKept j orders) : after.WidthsKept j orders := by
  apply widthsKept_of_kept hkept htold
  intro hheld'
  refine ⟨?_, hwidth⟩
  by_cases hsame : k = j
  · rwa [← hsame]
  · rwa [← hframe hsame]

/-- Opening an instance makes the registry forget its width, but not the hardware. -/
theorem widthsKept_hold (hkept : registry.WidthsKept j orders) :
    (registry.hold k).WidthsKept j (if k = j then orders.forget else orders) := by
  by_cases hsame : k = j
  · rw [if_pos hsame]
    constructor
    · exact hkept.told
    · intro _
      rw [slotAt_hold, if_pos hsame]
      rfl
    · exact fun hchosen => nomatch hchosen
  · rw [if_neg hsame]
    refine widthsKept_of_kept hkept rfl ?_
    intro hheld
    rw [slotAt_hold, if_neg hsame] at hheld ⊢
    exact ⟨hheld, rfl⟩

theorem widthsKept_adoptWidth (hkept : registry.WidthsKept j orders) (bits : UInt8) :
    (registry.adoptWidth k bits).WidthsKept j (if k = j then .order bits else orders) := by
  by_cases hsame : k = j
  · rw [if_pos hsame]
    constructor
    · rw [registersAt_adoptWidth, if_pos hsame]
      rfl
    · intro _
      rw [slotAt_adoptWidth, if_pos hsame]
      rfl
    · exact id
  · rw [if_neg hsame]
    apply widthsKept_of_kept hkept
    · rw [registersAt_adoptWidth, if_neg hsame]
    · intro hheld
      rw [slotAt_adoptWidth, if_neg hsame] at hheld ⊢
      exact ⟨hheld, rfl⟩

/-!
# Changes that leave the widths alone
-/

theorem told_call (registry : Registry (SimulatedHardware m) Nat n slots) (k j : Fin n)
    {call : Call} (hcall : forall bits, call ≠ .wordWidth bits) :
    ((registry.call k call).registersAt j).wordWidth = (registry.registersAt j).wordWidth := by
  rw [registersAt_call]
  split
  · cases call with
    | wordWidth bits => exact absurd rfl (hcall bits)
    | _ => rfl
  · rfl

theorem told_switchOff (registry : Registry (SimulatedHardware m) Nat n slots) (k j : Fin n) :
    ((registry.switchOff k).registersAt j).wordWidth = (registry.registersAt j).wordWidth := by
  rw [registersAt_switchOff]
  split
  · rfl
  · rfl

theorem told_program (registry : Registry (SimulatedHardware m) Nat n slots) (k j : Fin n)
    (divisor : Divisor) :
    ((registry.program k divisor).registersAt j).wordWidth =
      (registry.registersAt j).wordWidth := by
  unfold program
  split
  · rw [told_call _ k j fun _ => Call.noConfusion, told_call _ k j fun _ => Call.noConfusion,
      told_call _ k j fun _ => Call.noConfusion]
  · rw [told_call _ k j fun _ => Call.noConfusion]

theorem widthsKept_switchOff (hheld : (registry.slotAt k).state ≠ .unused)
    (hkept : registry.WidthsKept j orders) : (registry.switchOff k).WidthsKept j orders := by
  apply widthsKept_of_held hheld (told_switchOff registry k j) _ _ hkept
  · rw [slotAt_switchOff]
    split
    · unfold Slot.halted
      split
      · rfl
      · rfl
    · rfl
  · exact fun hapart => by simp [hapart]

theorem widthsKept_queue (hkept : registry.WidthsKept j orders) (buffers : Buffers slots)
    (words : List UInt16) : (registry.queue k buffers words).2.WidthsKept j orders := by
  apply widthsKept_of_kept hkept
  · rw [registersAt_queue]
    split
    · rfl
    · rfl
  · rw [slotAt_queue]
    exact fun hheld => ⟨hheld, rfl⟩

/-!
# Requests
-/

theorem widthsKept_of_effect {ω : Type} {request : Request Nat} {answer : Except Failure Reply}
    (heffect : request.Effect registry answer after) (hkept : registry.WidthsKept j orders) :
    after.WidthsKept j (orders.note j (.answered request answer : Happening ω)) := by
  cases heffect with
  | failed request failure =>
      rw [WidthOrders.note_failed]
      exact hkept
  | told reply hasks =>
      rw [WidthOrders.note_told j orders hasks]
      exact hkept
  | @allocated k hfree =>
      have hheld := widthsKept_hold (k := k) hkept
      simpa only [WidthOrders.note, index_handle, Fin.val_inj] using hheld
  | @acquired handle k hlocated hfree =>
      have hheld := widthsKept_hold (k := k) hkept
      simpa only [WidthOrders.note, index_of_locate hlocated, Fin.val_inj] using hheld
  | waited hheld _ => exact widthsKept_switchOff (locate_of_locateOpen hheld).2 hkept
  | @closed handle k hheld _ =>
      have htold := (congrArg Registers.wordWidth (registersAt_wipe _ k j)).trans
        (told_switchOff registry k j)
      apply widthsKept_of_kept hkept htold
      intro hheld'
      rw [slotAt_wipe, slotAt_switchOff] at hheld' ⊢
      by_cases hsame : k = j
      · rw [if_pos hsame] at hheld'
        exact absurd rfl hheld'
      · rw [if_neg hsame, if_neg hsame] at hheld' ⊢
        exact ⟨hheld', rfl⟩
  | stayedOn _ _ => exact hkept
  | turnedOn hheld _ =>
      apply widthsKept_of_held (locate_of_locateOpen hheld).2 _ _ _ hkept
      · rw [registersAt_switchOn]
        split
        · rfl
        · rfl
      · rw [slotAt_switchOn]
        split
        · rfl
        · rfl
      · exact fun hapart => by simp [hapart]
  | turnedOff hheld => exact widthsKept_switchOff (locate_of_locateOpen hheld).2 hkept
  | rated hheld _ =>
      apply widthsKept_of_held (locate_of_locateOpen hheld).2 _ _ _ hkept
      · exact told_program _ _ j _
      · rw [slotAt_adoptRate]
        split
        · rfl
        · rfl
      · exact fun hapart => by simp [hapart]
  | bound hheld callback =>
      apply widthsKept_of_held (locate_of_locateOpen hheld).2 _ _ _ hkept
      · rw [registersAt_rebind]
        split
        · rfl
        · rfl
      · rw [slotAt_rebind]
        split
        · rfl
        · rfl
      · exact fun hapart => by simp [hapart]
  | @widened handle k bits hheld _ =>
      have hset := widthsKept_adoptWidth (k := k) hkept bits
      simpa only [WidthOrders.note, index_of_locate (locate_of_locateOpen hheld).1,
        Fin.val_inj] using hset
  | counted _ => exact widthsKept_of_kept hkept rfl fun hheld => ⟨hheld, rfl⟩
  | @recounted _ k _ value =>
      have hwritten := congrArg Registers.wordWidth (registersAt_writeCounter registry k j value)
      refine widthsKept_of_kept hkept (hwritten.trans ?_) fun hheld => ⟨hheld, rfl⟩
      split
      · rfl
      · rfl
  | wroteBytes _ _ _ => exact widthsKept_queue hkept _ _
  | wroteWords _ _ => exact widthsKept_queue hkept _ _
  | readBytes _ _ _ => exact widthsKept_of_kept hkept rfl fun hheld => ⟨hheld, rfl⟩
  | readWords _ _ => exact widthsKept_of_kept hkept rfl fun hheld => ⟨hheld, rfl⟩
  | drained _ _ => exact hkept
  | kicked _ _ =>
      exact widthsKept_of_kept hkept (told_call registry _ j fun _ => Call.noConfusion)
        fun hheld => ⟨hheld, rfl⟩

end Effects
end Registry

/-!
# Runs
-/

section Runs

variable {ω : Type} [Line ω] {m n slots : Nat}
  {registry after start : Registry (SimulatedHardware m) Nat n slots} {now : List (Happening ω)}
  {profile : Profile} {clock : UInt32} {strategy : RateStrategy}

theorem widthsKept_of_step {j : Fin n} {orders : WidthOrders} (hstep : Step registry now after)
    (hkept : registry.WidthsKept j orders) :
    after.WidthsKept j (now.foldl (WidthOrders.note j) orders) := by
  cases hstep with
  | claimed held => exact Registry.widthsKept_of_kept hkept rfl fun hheld => ⟨hheld, rfl⟩
  | marked k running => exact Registry.widthsKept_of_kept hkept rfl fun hheld => ⟨hheld, rfl⟩
  | asked heffect => exact Registry.widthsKept_of_effect heffect hkept
  | advanced index ticks =>
      have hticked := congrArg Registers.wordWidth
        (Registry.registersAt_advance registry j index ticks)
      refine Registry.widthsKept_of_kept hkept (hticked.trans ?_) fun hheld => ⟨hheld, rfl⟩
      split
      · unfold Registers.ticked
        split
        · rfl
        · rfl
      · rfl
  | clocked hz => exact Registry.widthsKept_of_kept hkept rfl fun hheld => ⟨hheld, rfl⟩
  | forgot => exact Registry.widthsKept_of_kept hkept rfl fun hheld => ⟨hheld, rfl⟩
  | passed index before full hline => exact hkept
  | moved before hruns hunbound hstored =>
      exact Registry.widthsKept_of_kept hkept rfl fun hheld => ⟨hheld, rfl⟩

theorem profile_of_run (moves : List (Move ω))
    (start : Registry (SimulatedHardware m) Nat n slots) :
    (Move.runAll moves start).profile = start.profile :=
  SimulatedHardware.lasting_profile.of_run moves start

theorem widthsKept_of_run (hfresh : start.Fresh)
    (hreset : start.hardware.registers = Vector.replicate m {}) (moves : List (Move ω))
    (j : Fin n) :
    (Move.runAll moves start).WidthsKept j
      (WidthOrders.noteAll j (Move.happeningsOf moves start)) := by
  have hregisters : start.registersAt j = {} := Registry.registersAt_of_reset hreset j
  have hstart : start.WidthsKept j (WidthOrders.noteAll j ([] : List (Happening ω))) :=
    { told := by rw [hregisters]; rfl
      chosen := by
        intro _
        rw [Registry.slotAt_of_fresh hfresh j]
        rfl
      told_of_chosen := fun hchosen => nomatch hchosen }
  exact path_records
    (P := fun past registry => registry.WidthsKept j (WidthOrders.noteAll j past))
    (fun hstep hbefore => by
      rw [WidthOrders.noteAll, List.foldl_append]
      exact widthsKept_of_step hstep hbefore)
    [] (path_of_run moves start) hstart

/-- In every run on simulated hardware that has word widths, the registry goes by the width that was
set since the instance was opened, else by the hardware's first.  This is the last width that the
hardware was told, or its first if it was told none, exactly if a width was set since the instance
was opened or the hardware is at its first anyway. -/
theorem width_matches_hardware_iff (hfresh : start.Fresh)
    (hhardware : start.hardware = { profile, clock, strategy }) {first : UInt8}
    {others : List UInt8} (hwidths : profile.wordWidths = first :: others)
    (moves : List (Move ω)) (i : Fin n)
    (hheld : ((Move.runAll moves start).slotAt i).state ≠ .unused) :
    let final := Move.runAll moves start
    let orders := WidthOrders.noteAll i (Move.happeningsOf moves start)
    let width := orders.chosen.getD first
    final.wordWidth (final.handle i) = .ok width ∧ final.transferWidth i = width ∧
      (final.registersAt i).wordWidth = orders.told ∧
      (width = orders.told.getD first ↔
        orders.chosen.isSome = true ∨ orders.told.getD first = first) := by
  intro final orders width
  have hkept : final.WidthsKept i orders := widthsKept_of_run hfresh (by rw [hhardware]) moves i
  have hprofile : final.profile = profile := by
    rw [profile_of_run, Registry.profile, hhardware]
  have hknown : Hardware.wordWidths final.hardware = first :: others := by
    rw [← hwidths, ← hprofile]
    rfl
  have hforce : final.widthInForce? i = some width := by
    rw [Registry.widthInForce?, hkept.chosen hheld, hknown]
    cases hchosen : orders.chosen with
    | none => simp [width, hchosen]
    | some bits => simp [width, hchosen]
  refine ⟨Registry.wordWidth_of_widthInForce? hheld hforce, ?_, hkept.told, ?_⟩
  · rw [Registry.transferWidth, hforce]
    rfl
  · cases hchosen : orders.chosen with
    | none => simp [width, hchosen, eq_comm]
    | some bits => simp [width, hchosen, hkept.told_of_chosen hchosen]

/-- An SPI that was opened again goes by its first width, then by the one that is set anew. -/
theorem width_matches_hardware_iff_of_reopened_spi :
    let start : Registry (SimulatedHardware 1) Nat 1 4 :=
      .buffered { profile := .spi, clock := 16000000 } (Vector.replicate 1 .empty)
    let device := start.handle 0
    let reopened : List (Move BareLine) :=
      [.command (.request .allocate), .command (.request (.setWordWidth device 16)),
        .command (.request (.close device)), .command (.request .allocate)]
    let moves := reopened ++ [.command (.request (.setWordWidth device 16))]
    let final := Move.runAll moves start
    final.wordWidth (final.handle 0) = .ok 16 ∧ final.transferWidth 0 = 16 ∧
      (final.registersAt 0).wordWidth = some 16 := by
  intro start device reopened moves final
  have hfresh : start.Fresh := .buffered _ _ _
  have hheld : (final.slotAt 0).state ≠ .unused := by decide
  have hchosen : (WidthOrders.noteAll 0 (Move.happeningsOf moves start)).chosen = some 16 := by
    decide
  have htold : (WidthOrders.noteAll 0 (Move.happeningsOf moves start)).told = some 16 := by
    decide
  rcases width_matches_hardware_iff hfresh rfl rfl moves 0 hheld with ⟨hwidth, hpassed, hlast, _⟩
  refine ⟨hwidth.trans ?_, hpassed.trans ?_, hlast.trans htold⟩
  · exact congrArg (fun chosen : Option UInt8 => Except.ok (chosen.getD 8)) hchosen
  · exact congrArg (fun chosen : Option UInt8 => chosen.getD 8) hchosen

/-- Opened again, an instance goes by the first width of the family, while its hardware still has
the last one that it was told. -/
theorem reopened_spi_parts_from_hardware :
    let start : Registry (SimulatedHardware 1) Nat 1 4 :=
      .buffered { profile := .spi, clock := 16000000 } (Vector.replicate 1 .empty)
    let device := start.handle 0
    let moves : List (Move BareLine) :=
      [.command (.request .allocate), .command (.request (.setWordWidth device 16)),
        .command (.request (.close device)), .command (.request .allocate)]
    let final := Move.runAll moves start
    let orders := WidthOrders.noteAll 0 (Move.happeningsOf moves start)
    (start.Fresh ∧ (final.slotAt 0).state = .opened ∧ (final.registersAt 0).wordWidth = some 16) ∧
      orders.told = some 16 ∧ final.wordWidth device = .ok 8 ∧ final.transferWidth 0 = 8 ∧
      final.wordWidth device ≠ .ok (orders.told.getD 8) := by
  intro start device moves final orders
  have hfresh : start.Fresh := .buffered _ _ _
  have hopened : (final.slotAt 0).state = .opened := by decide
  have hregister : (final.registersAt 0).wordWidth = some 16 := by decide
  have htold : orders.told = some 16 := by decide
  have hwidth : final.wordWidth device = .ok 8 := by decide
  have hpassed : final.transferWidth 0 = 8 := by decide
  refine ⟨⟨hfresh, hopened, hregister⟩, htold, hwidth, hpassed, ?_⟩
  rw [hwidth, htold]
  decide

end Runs
end PeripheralBank
