import PeripheralBank.Proofs.Bench.Clean
import PeripheralBank.Proofs.Simulation.Registers

/-!
# Slots and hardware agree

On simulated hardware an instance is turned on exactly while its slot is enabled, and its
interrupt is let through exactly while somebody would handle it as well.  Every step keeps
this, whichever way rates are applied.
-/

namespace PeripheralBank
namespace Registry

variable {κ : Type} {m n slots : Nat}

structure AgreesAt (registry : Registry (SimulatedHardware m) κ n slots) (j : Fin n) : Prop where
  enabled_iff : (registry.registersAt j).enabled = true ↔ (registry.slotAt j).state = .enabled
  armed_iff : (registry.registersAt j).armed = true ↔
    (registry.slotAt j).state = .enabled ∧
      ((registry.slotAt j).callback.isSome = true ∨ (registry.buffersAt? j).isSome = true)

section Changes

variable {registry after : Registry (SimulatedHardware m) κ n slots} {i j : Fin n}

theorem agreesAt_of_kept (hagrees : registry.AgreesAt j)
    (henabled : (after.registersAt j).enabled = (registry.registersAt j).enabled)
    (harmed : (after.registersAt j).armed = (registry.registersAt j).armed)
    (hstate : (after.slotAt j).state = (registry.slotAt j).state)
    (hcallback : (after.slotAt j).callback = (registry.slotAt j).callback)
    (hbuffers : (after.buffersAt? j).isSome = (registry.buffersAt? j).isSome) :
    after.AgreesAt j where
  enabled_iff := by
    rw [henabled, hstate]
    exact hagrees.enabled_iff
  armed_iff := by
    rw [harmed, hstate, hcallback, hbuffers]
    exact hagrees.armed_iff

/-- An instance that does not run agrees as soon as the hardware is off and held back. -/
theorem agreesAt_of_off (henabled : (registry.registersAt j).enabled = false)
    (harmed : (registry.registersAt j).armed = false)
    (hrests : (registry.slotAt j).state ≠ .enabled) : registry.AgreesAt j where
  enabled_iff := by simp [henabled, hrests]
  armed_iff := by simp [harmed, hrests]

theorem off_of_agreesAt (hagrees : registry.AgreesAt j)
    (hrests : (registry.slotAt j).state ≠ .enabled) :
    (registry.registersAt j).enabled = false ∧ (registry.registersAt j).armed = false := by
  constructor
  · exact Bool.eq_false_iff.mpr fun hon => hrests (hagrees.enabled_iff.mp hon)
  · exact Bool.eq_false_iff.mpr fun hon => hrests (hagrees.armed_iff.mp hon).1

theorem agreesAt_hold (hagrees : registry.AgreesAt j)
    (hfree : (registry.slotAt i).state = .unused) : (registry.hold i).AgreesAt j := by
  by_cases hsame : i = j
  · subst j
    have hoff := off_of_agreesAt hagrees (by simp [hfree])
    exact agreesAt_of_off hoff.1 hoff.2 (by simp)
  · exact agreesAt_of_kept hagrees rfl rfl (by simp [hsame]) (by simp [hsame]) rfl

theorem agreesAt_switchOff (hagrees : registry.AgreesAt j) : (registry.switchOff i).AgreesAt j := by
  by_cases hsame : i = j
  · subst j
    have hrests : ((registry.switchOff i).slotAt i).state ≠ .enabled := by
      simpa using Slot.halted_ne_enabled (registry.slotAt i)
    by_cases hruns : (registry.slotAt i).state = .enabled
    · exact agreesAt_of_off (by simp [hruns]) (by simp [hruns]) hrests
    · have hoff := off_of_agreesAt hagrees hruns
      exact agreesAt_of_off (by simp [hruns, hoff.1]) (by simp [hruns, hoff.2]) hrests
  · exact agreesAt_of_kept hagrees (by simp [hsame]) (by simp [hsame]) (by simp [hsame])
      (by simp [hsame]) (by simp)

theorem agreesAt_wipe (hagrees : registry.AgreesAt j)
    (hrests : (registry.slotAt i).state ≠ .enabled) : (registry.wipe i).AgreesAt j := by
  by_cases hsame : i = j
  · subst j
    have hoff := off_of_agreesAt hagrees hrests
    exact agreesAt_of_off (by simp [hoff.1]) (by simp [hoff.2]) (by simp)
  · exact agreesAt_of_kept hagrees (by simp) (by simp) (by simp [hsame]) (by simp [hsame])
      (by simp [hsame])

theorem agreesAt_switchOn (hagrees : registry.AgreesAt j) : (registry.switchOn i).AgreesAt j := by
  by_cases hsame : i = j
  · subst j
    have hhandles : registry.handlesInterrupt i =
        ((registry.slotAt i).callback.isSome || (registry.buffersAt? i).isSome) := by
      rw [isSome_buffersAt?]
      rfl
    constructor
    · simp
    · simp [hhandles]
  · exact agreesAt_of_kept hagrees (by simp [hsame]) (by simp [hsame]) (by simp [hsame])
      (by simp [hsame]) rfl

theorem agreesAt_adoptRate (hagrees : forall j, registry.AgreesAt j) (rate : Rate)
    (divisor : Divisor) : (registry.adoptRate i rate divisor).AgreesAt j := by
  have hregisters :=
    registersAt_adoptRate registry i j rate divisor (hagrees i).enabled_iff.mpr
  by_cases hsame : i = j
  · rw [if_pos hsame] at hregisters
    exact agreesAt_of_kept (hagrees j) (by rw [hregisters]) (by rw [hregisters])
      (by simp [hsame]) (by simp [hsame]) (by simp)
  · rw [if_neg hsame] at hregisters
    exact agreesAt_of_kept (hagrees j) (by rw [hregisters]) (by rw [hregisters])
      (by simp [hsame]) (by simp [hsame]) (by simp)

theorem agreesAt_rebind (hagrees : registry.AgreesAt j) (callback : Option κ) :
    (registry.rebind i callback).AgreesAt j := by
  by_cases hsame : i = j
  · subst j
    by_cases hruns : (registry.slotAt i).state = .enabled
    · have hon := hagrees.enabled_iff.mpr hruns
      constructor
      · simp [hruns, hon]
      · simp [hruns, ← isSome_buffersAt? registry i]
    · have hoff := off_of_agreesAt hagrees hruns
      exact agreesAt_of_off (by simp [hruns, hoff.1]) (by simp [hruns, hoff.2]) (by simp [hruns])
  · exact agreesAt_of_kept hagrees (by simp [hsame]) (by simp [hsame]) (by simp [hsame])
      (by simp [hsame]) (by simp)

theorem agreesAt_adoptWidth (hagrees : registry.AgreesAt j) (bits : UInt8) :
    (registry.adoptWidth i bits).AgreesAt j := by
  by_cases hsame : i = j
  · exact agreesAt_of_kept hagrees (by simp [hsame]) (by simp [hsame]) (by simp [hsame])
      (by simp [hsame]) (by simp)
  · exact agreesAt_of_kept hagrees (by simp [hsame]) (by simp [hsame]) (by simp [hsame])
      (by simp [hsame]) (by simp)

theorem agreesAt_kick (hagrees : registry.AgreesAt j) :
    (registry.call i .kickTransmit).AgreesAt j := by
  by_cases hsame : i = j
  · exact agreesAt_of_kept hagrees (by simp [hsame, Registers.after])
      (by simp [hsame, Registers.after]) rfl rfl rfl
  · exact agreesAt_of_kept hagrees (by simp [hsame]) (by simp [hsame]) rfl rfl rfl

theorem agreesAt_setBuffers (hagrees : registry.AgreesAt j) (buffers : Buffers slots) :
    (registry.setBuffers i buffers).AgreesAt j := by
  have hbuffers :
      ((registry.setBuffers i buffers).buffersAt? j).isSome = (registry.buffersAt? j).isSome := by
    rw [isSome_buffersAt?, isSome_buffersAt?, isBuffered_setBuffers]
  exact agreesAt_of_kept hagrees rfl rfl rfl rfl hbuffers

theorem agreesAt_queue (hagrees : registry.AgreesAt j) (buffers : Buffers slots)
    (words : List UInt16) : (registry.queue i buffers words).2.AgreesAt j := by
  have hqueued := agreesAt_setBuffers (i := i) hagrees
    { buffers with outbound := (buffers.outbound.push words).2 }
  simp only [queue]
  split
  · exact agreesAt_kick hqueued
  · exact hqueued

theorem agreesAt_writeCounter (hagrees : registry.AgreesAt j) (value : UInt32) :
    (registry.setHardware (Hardware.writeCounter registry.hardware i value).2).AgreesAt j := by
  have hregisters := registersAt_writeCounter registry i j value
  split at hregisters
  · exact agreesAt_of_kept hagrees (by rw [hregisters]) (by rw [hregisters]) rfl rfl rfl
  · exact agreesAt_of_kept hagrees (by rw [hregisters]) (by rw [hregisters]) rfl rfl rfl

theorem agreesAt_advance (hagrees : registry.AgreesAt j) (index : Nat) (ticks : UInt32) :
    (registry.setHardware
      (Inspectable.advance index ticks registry.hardware).2).AgreesAt j := by
  have hticked : forall registers : Registers,
      (registers.ticked ticks).enabled = registers.enabled ∧
        (registers.ticked ticks).armed = registers.armed := by
    intro registers
    unfold Registers.ticked
    split
    · exact ⟨rfl, rfl⟩
    · exact ⟨rfl, rfl⟩
  have hregisters := registersAt_advance registry j index ticks
  split at hregisters
  · exact agreesAt_of_kept hagrees (by rw [hregisters, (hticked _).1])
      (by rw [hregisters, (hticked _).2]) rfl rfl rfl
  · exact agreesAt_of_kept hagrees (by rw [hregisters]) (by rw [hregisters]) rfl rfl rfl

/-!
# Steps keep the agreement
-/

variable {request : Request κ} {answer : Except Failure Reply}

theorem agreesAt_of_effect (heffect : request.Effect registry answer after)
    (hagrees : forall j, registry.AgreesAt j) (j : Fin n) : after.AgreesAt j := by
  cases heffect with
  | failed _ _ => exact hagrees j
  | told _ _ => exact hagrees j
  | allocated hfree => exact agreesAt_hold (hagrees j) (unused_of_firstUnused? hfree)
  | acquired _ hfree => exact agreesAt_hold (hagrees j) hfree
  | waited _ _ => exact agreesAt_switchOff (hagrees j)
  | closed _ _ =>
      apply agreesAt_wipe (agreesAt_switchOff (hagrees j))
      rw [slotAt_switchOff, if_pos rfl]
      exact Slot.halted_ne_enabled _
  | stayedOn _ _ => exact hagrees j
  | turnedOn _ _ => exact agreesAt_switchOn (hagrees j)
  | turnedOff _ => exact agreesAt_switchOff (hagrees j)
  | rated _ _ => exact agreesAt_adoptRate hagrees _ _
  | bound _ callback => exact agreesAt_rebind (hagrees j) callback
  | widened _ _ => exact agreesAt_adoptWidth (hagrees j) _
  | counted _ => exact agreesAt_of_kept (hagrees j) rfl rfl rfl rfl rfl
  | recounted _ value => exact agreesAt_writeCounter (hagrees j) value
  | wroteBytes _ _ _ => exact agreesAt_queue (hagrees j) _ _
  | wroteWords _ _ => exact agreesAt_queue (hagrees j) _ _
  | readBytes _ _ _ => exact agreesAt_setBuffers (hagrees j) _
  | readWords _ _ => exact agreesAt_setBuffers (hagrees j) _
  | drained _ _ => exact hagrees j
  | kicked _ _ => exact agreesAt_kick (hagrees j)

end Changes
end Registry

section Runs

variable {ω : Type} [Line ω] {m n slots : Nat}
  {registry after start : Registry (SimulatedHardware m) Nat n slots} {now : List (Happening ω)}

theorem agreesAt_of_step (hstep : Step registry now after)
    (hagrees : forall j, registry.AgreesAt j) (j : Fin n) : after.AgreesAt j := by
  cases hstep with
  | claimed held => exact Registry.agreesAt_of_kept (hagrees j) rfl rfl rfl rfl rfl
  | marked i running => exact Registry.agreesAt_of_kept (hagrees j) rfl rfl rfl rfl rfl
  | asked heffect => exact Registry.agreesAt_of_effect heffect hagrees j
  | advanced index ticks => exact Registry.agreesAt_advance (hagrees j) index ticks
  | clocked hz => exact Registry.agreesAt_of_kept (hagrees j) rfl rfl rfl rfl rfl
  | forgot => exact Registry.agreesAt_of_kept (hagrees j) rfl rfl rfl rfl rfl
  | passed full hafter => exact hagrees j
  | moved before hruns hunbound hstored => exact Registry.agreesAt_setBuffers (hagrees j) _

theorem agreesAt_of_fresh (hfresh : start.Fresh)
    (hreset : start.hardware.registers = Vector.replicate m {}) (j : Fin n) :
    start.AgreesAt j := by
  have hregisters : start.registersAt j = {} := Registry.registersAt_of_reset hreset j
  apply Registry.agreesAt_of_off (by rw [hregisters]) (by rw [hregisters])
  rw [Registry.slotAt_of_fresh hfresh j]
  exact State.noConfusion

theorem agreesAt_of_run (hfresh : start.Fresh)
    (hreset : start.hardware.registers = Vector.replicate m {}) (moves : List (Move ω))
    (j : Fin n) : (Move.runAll moves start).AgreesAt j :=
  path_preserves (P := fun registry => forall j, registry.AgreesAt j) agreesAt_of_step
    (path_of_run moves start) (agreesAt_of_fresh hfresh hreset) j

/-- In every run on simulated hardware, lifecycle and hardware agree: the hardware is on exactly
while the slot is enabled, the interrupt is let through exactly while the slot is enabled and has
a callback or buffers, and of an instance that nobody holds nothing is kept. -/
theorem lifecycle_matches_hardware {profile : Profile} {clock : UInt32} {strategy : RateStrategy}
    (hfresh : start.Fresh) (hhardware : start.hardware = { profile, clock, strategy })
    (moves : List (Move ω)) (i : Fin n) :
    let final := Move.runAll moves start
    ((final.registersAt i).enabled = true ↔ (final.slotAt i).state = .enabled) ∧
      ((final.registersAt i).armed = true ↔
        (final.slotAt i).state = .enabled ∧
          ((final.slotAt i).callback.isSome = true ∨ start.isBuffered = true)) ∧
      ((final.slotAt i).state = .unused ->
        (final.slotAt i).rate = {} ∧ (final.slotAt i).wordWidth = none ∧
          (final.slotAt i).callback = none ∧
          (start.isBuffered = true ->
            exists buffers, final.buffersAt? i = some buffers ∧
              buffers.outbound.toList = [] ∧ buffers.inbound.toList = [] ∧
              buffers.inbound.overflows = 0)) := by
  intro final
  have hagrees : final.AgreesAt i :=
    agreesAt_of_run hfresh (by rw [hhardware]) moves i
  have hclean : final.CleanAt i := cleanAt_of_run hfresh moves i
  refine ⟨hagrees.enabled_iff, ?_, ?_⟩
  · rw [← isBuffered_of_run moves start, ← Registry.isSome_buffersAt? final i]
    exact hagrees.armed_iff
  · intro hfree
    have hslot := hclean.slot hfree
    refine ⟨by rw [hslot], by rw [hslot], by rw [hslot], ?_⟩
    intro hbuffered
    rw [← isBuffered_of_run moves start, ← Registry.isSome_buffersAt? final i] at hbuffered
    obtain ⟨buffers, hstored⟩ := Option.isSome_iff_exists.mp hbuffered
    have hclear := hclean.buffers hfree hstored
    exact ⟨buffers, hstored, (Ring.isClear_iff.mp hclear.1).1, Ring.isClear_iff.mp hclear.2⟩

theorem lifecycle_matches_hardware_of_two_uarts :
    let start : Registry (SimulatedHardware 2) Nat 2 4 :=
      .buffered { profile := .uart, clock := 8000000 } (Vector.replicate 2 .empty)
    let moves : List (Move BareLine) :=
      [.command (.request .allocate), .command (.request .allocate),
        .command (.request (.enable (start.handle 0))),
        .command (.request (.enable (start.handle 1))),
        .command (.request (.bind (start.handle 0) (some 0))),
        .interrupt 0 {} [[.request (.close (start.handle 1))]]]
    let final := Move.runAll moves start
    start.Fresh ∧ (final.registersAt 0).enabled = true ∧ (final.registersAt 0).armed = true ∧
      (final.registersAt 1).enabled = false ∧ (final.slotAt 1).callback = none := by
  intro start moves final
  have hfresh : start.Fresh := .buffered _ _ _
  have hserving := lifecycle_matches_hardware hfresh rfl moves 0
  have hclosed := lifecycle_matches_hardware hfresh rfl moves 1
  have hruns : (final.slotAt 0).state = .enabled := by decide
  have hfree : (final.slotAt 1).state = .unused := by decide
  refine ⟨hfresh, hserving.1.mpr hruns, hserving.2.1.mpr ⟨hruns, Or.inr rfl⟩, ?_,
    (hclosed.2.2 hfree).2.2.1⟩
  refine Bool.eq_false_iff.mpr fun hon => ?_
  rw [hclosed.1.mp hon] at hfree
  cases hfree

end Runs
end PeripheralBank
