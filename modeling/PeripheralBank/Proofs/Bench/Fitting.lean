import PeripheralBank.Proofs.Bench.Clean
import PeripheralBank.Proofs.Simulation.Profile
import PeripheralBank.Simulation.Line

/-!
# Words that wait and the width in force

A word is held to the width in force when it is stored, and to none after that.  Setting another
width leaves the words that wait as they are, and bytes are held to eight bits, however narrow the
width is.  Each word that waits is noted here with the width that it was held to.  While these
widths are at most the one in force, every word fits that one, and so does every word that an
interrupt gives to its line; a width that was narrowed below them lets wider words through.
-/

namespace PeripheralBank

def FitsWidth (width : UInt8) (word : UInt16) : Prop :=
  word.toNat < Nat.pow 2 width.toNat

instance (width : UInt8) (word : UInt16) : Decidable (FitsWidth width word) :=
  inferInstanceAs (Decidable (word.toNat < Nat.pow 2 width.toNat))

theorem FitsWidth.mono {width other : UInt8} {word : UInt16} (hfits : FitsWidth width word)
    (hle : width ≤ other) : FitsWidth other word :=
  Nat.lt_of_lt_of_le hfits (Nat.pow_le_pow_right Nat.two_pos (UInt8.le_iff_toNat_le.mp hle))

/-- A word that waits, with the width that it was held to. -/
structure Parcel where
  word : UInt16
  width : UInt8

/-- The width in force for one instance, and its words that wait, oldest first. -/
structure Outbox where
  width : UInt8
  waiting : List Parcel := []

namespace Outbox

def store (width : UInt8) (words : List UInt16) (outbox : Outbox) : Outbox :=
  { outbox with waiting := outbox.waiting ++ words.map (Parcel.mk · width) }

def send (count : Nat) (outbox : Outbox) : Outbox :=
  { outbox with waiting := outbox.waiting.drop count }

/-- The outbox of the instance of an index after one more happening.  Opening and closing it start
anew at the width after a reset. -/
def note {ω : Type} (reset : UInt8) (index : Nat) (outbox : Outbox) : Happening ω -> Outbox
  | .answered .allocate (.ok (.handle handle)) =>
      if handle.index = index then { width := reset } else outbox
  | .answered (.acquire handle) (.ok _) | .answered (.close handle) (.ok _) =>
      if handle.index = index then { width := reset } else outbox
  | .answered (.setWordWidth handle bits) (.ok _) =>
      if handle.index = index then { outbox with width := bits } else outbox
  | .answered (.write handle bytes) (.ok (.count stored)) =>
      if handle.index = index then outbox.store 8 ((bytes.map UInt8.toUInt16).take stored)
      else outbox
  | .answered (.writeWords handle words) (.ok (.count stored)) =>
      if handle.index = index then outbox.store outbox.width (words.take stored) else outbox
  | .interrupted place _ after _ =>
      if place = index then outbox.send after.given.length else outbox
  | _ => outbox

def noteAll {ω : Type} (reset : UInt8) (index : Nat) (happenings : List (Happening ω)) : Outbox :=
  happenings.foldl (note reset index) { width := reset }

variable {ω : Type} (reset : UInt8) (index : Nat) (outbox : Outbox) {request : Request Nat}

theorem note_failed (request : Request Nat) (failure : Failure) :
    outbox.note reset index (.answered request (.error failure) : Happening ω) = outbox := by
  cases request with
  | _ => rfl

theorem note_told (hasks : request.asks = true) (reply : Reply) :
    outbox.note reset index (.answered request (.ok reply) : Happening ω) = outbox := by
  cases request with
  | state _ | currentRate _ | requestedRate _ | rateConfig _ | hasCallback _ | wordWidth _ => rfl
  | readable _ | writable _ | pending _ | overflows _ => rfl
  | _ => cases hasks

end Outbox

namespace Registry

section Widths

variable {η : Type} [Hardware η] {κ : Type} {n slots : Nat}
  {registry after : Registry η κ n slots} {i : Fin n}

/-- The width that transfers go by where none was set. -/
def resetWidth (registry : Registry η κ n slots) : UInt8 :=
  (Hardware.wordWidths registry.hardware).head?.getD 8

theorem transferWidth_of_unset (hunset : (registry.slotAt i).wordWidth = none) :
    registry.transferWidth i = registry.resetWidth := by
  rw [transferWidth, widthInForce?, hunset]
  rfl

theorem transferWidth_of_kept
    (hwidths : Hardware.wordWidths after.hardware = Hardware.wordWidths registry.hardware)
    (hslot : (after.slotAt i).wordWidth = (registry.slotAt i).wordWidth) :
    after.transferWidth i = registry.transferWidth i := by
  rw [transferWidth, transferWidth, widthInForce?, widthInForce?, hwidths, hslot]

theorem fits_of_not_tooWide {words : List UInt16} {width : UInt8}
    (hfit : words.any (tooWide width) = false) {word : UInt16} (hmem : word ∈ words) :
    FitsWidth width word := by
  have hnarrow := List.any_eq_false.mp hfit word hmem
  simpa [tooWide, FitsWidth] using hnarrow

theorem fits_of_byte {bytes : List UInt8} {word : UInt16}
    (hmem : word ∈ bytes.map UInt8.toUInt16) : FitsWidth 8 word := by
  rcases List.mem_map.mp hmem with ⟨byte, _, rfl⟩
  exact byte.toNat_lt

end Widths

/-!
# What one instance keeps of the words that wait
-/

section Effects

variable {η : Type} [Inspectable η] {n slots : Nat} {registry after : Registry η Nat n slots}
  {i k : Fin n} {outbox : Outbox} {reset : UInt8}

structure FitsAt (registry : Registry η Nat n slots) (i : Fin n) (outbox : Outbox) : Prop where
  width : registry.transferWidth i = outbox.width
  waiting {buffers : Buffers slots} (hstored : registry.buffersAt? i = some buffers) :
    buffers.outbound.toList = outbox.waiting.map Parcel.word
  fits {parcel : Parcel} (hmem : parcel ∈ outbox.waiting) : FitsWidth parcel.width parcel.word

theorem fitsAt_of_kept (hfits : registry.FitsAt i outbox)
    (hwidths : Hardware.wordWidths after.hardware = Hardware.wordWidths registry.hardware)
    (hslot : (after.slotAt i).wordWidth = (registry.slotAt i).wordWidth)
    (hbuffers : after.buffersAt? i = registry.buffersAt? i) : after.FitsAt i outbox where
  width := (transferWidth_of_kept hwidths hslot).trans hfits.width
  waiting hstored := hfits.waiting (hbuffers ▸ hstored)
  fits := hfits.fits

/-- An instance that nobody set a width for and that has nothing waiting. -/
theorem fitsAt_of_clear (hunset : (registry.slotAt i).wordWidth = none)
    (hclear : forall {buffers : Buffers slots},
      registry.buffersAt? i = some buffers -> buffers.IsClear)
    (hreset : registry.resetWidth = reset) : registry.FitsAt i { width := reset } where
  width := (transferWidth_of_unset hunset).trans hreset
  waiting hstored := (Ring.isClear_iff.mp (hclear hstored).1).1
  fits hmem := absurd hmem List.not_mem_nil

theorem fitsAt_hold (hclean : registry.CleanAt k) (hfree : (registry.slotAt k).state = .unused)
    (hreset : registry.resetWidth = reset) (hfits : registry.FitsAt i outbox) :
    (registry.hold k).FitsAt i (if k = i then { width := reset } else outbox) := by
  by_cases hsame : k = i
  · subst k
    rw [if_pos rfl]
    exact fitsAt_of_clear (by simp) (hclean.buffers hfree) hreset
  · rw [if_neg hsame]
    exact fitsAt_of_kept hfits rfl (by simp [hsame]) rfl

theorem fitsAt_wipe (hreset : registry.resetWidth = reset) (hfits : registry.FitsAt i outbox) :
    (registry.wipe k).FitsAt i (if k = i then { width := reset } else outbox) := by
  have hhardware := hardware_wipe registry k
  by_cases hsame : k = i
  · subst k
    have hwiped := cleanAt_wipe registry i
    rw [if_pos rfl]
    refine fitsAt_of_clear (by simp) (hwiped.buffers (by simp)) ?_
    rwa [resetWidth, hhardware]
  · rw [if_neg hsame]
    exact fitsAt_of_kept hfits (congrArg _ hhardware) (by simp [hsame]) (by simp [hsame])

theorem fitsAt_adoptWidth {bits : UInt8}
    (hwidths : Hardware.wordWidths (registry.adoptWidth k bits).hardware =
      Hardware.wordWidths registry.hardware)
    (hfits : registry.FitsAt i outbox) :
    (registry.adoptWidth k bits).FitsAt i
      (if k = i then { outbox with width := bits } else outbox) := by
  by_cases hsame : k = i
  · rw [if_pos hsame]
    constructor
    · rw [transferWidth, widthInForce?, slotAt_adoptWidth, if_pos hsame]
      rfl
    · exact hfits.waiting
    · exact hfits.fits
  · rw [if_neg hsame]
    exact fitsAt_of_kept hfits hwidths (by simp [hsame]) rfl

/-- Words that are stored wait behind the others, with the width that they were held to. -/
theorem fitsAt_queue {buffers : Buffers slots} {words : List UInt16} (width : UInt8)
    (hstored : registry.buffersAt? k = some buffers)
    (hwidths : Hardware.wordWidths (registry.queue k buffers words).2.hardware =
      Hardware.wordWidths registry.hardware)
    (hfit : k = i -> forall {word : UInt16}, word ∈ words -> FitsWidth width word)
    (hfits : registry.FitsAt i outbox) :
    (registry.queue k buffers words).2.FitsAt i
      (if k = i then outbox.store width (words.take (registry.queue k buffers words).1)
      else outbox) := by
  by_cases hsame : k = i
  · subst k
    rw [if_pos rfl]
    constructor
    · exact (transferWidth_of_kept hwidths (by simp)).trans hfits.width
    · intro changed hchanged
      rw [buffersAt?_queue, if_pos rfl, hstored] at hchanged
      cases hchanged
      show (buffers.outbound.push words).2.toList = _
      rw [Ring.toList_push_stored, hfits.waiting hstored]
      simp [Outbox.store, queue_fst, Function.comp_def]
    · intro parcel hmem
      rcases List.mem_append.mp hmem with hearlier | hnew
      · exact hfits.fits hearlier
      · rcases List.mem_map.mp hnew with ⟨word, hword, rfl⟩
        exact hfit rfl (List.mem_of_mem_take hword)
  · rw [if_neg hsame]
    exact fitsAt_of_kept hfits hwidths (by simp) (by simp [hsame])

/-- A read takes nothing of the words that wait. -/
theorem fitsAt_read (hfits : registry.FitsAt i outbox) {buffers : Buffers slots}
    (hstored : registry.buffersAt? k = some buffers) (inbound : Ring UInt16 slots) :
    (registry.setBuffers k { buffers with inbound }).FitsAt i outbox where
  width := hfits.width
  waiting hchanged := by
    rw [buffersAt?_setBuffers] at hchanged
    by_cases hsame : k = i
    · subst k
      rw [if_pos rfl, hstored] at hchanged
      cases hchanged
      show buffers.outbound.toList = _
      exact hfits.waiting hstored
    · rw [if_neg hsame] at hchanged
      exact hfits.waiting hchanged
  fits := hfits.fits

/-- An interrupt takes words off the front, as many as it gives to its line. -/
theorem fitsAt_exchange {ω : Type} [Line ω] {buffers : Buffers slots} (before : ω)
    (hstored : registry.buffersAt? k = some buffers) (hfits : registry.FitsAt i outbox) :
    (registry.setBuffers k (buffers.exchange (Tapped.acknowledged before)).2.1).FitsAt i
      (if k = i then
        outbox.send (buffers.exchange (Tapped.acknowledged before)).2.2.given.length
      else outbox) := by
  by_cases hsame : k = i
  · subst k
    rw [if_pos rfl]
    constructor
    · exact hfits.width
    · intro changed hchanged
      rw [buffersAt?_setBuffers, if_pos rfl, hstored] at hchanged
      cases hchanged
      rcases Tapped.toList_exchange buffers before with ⟨hgiven, _, _⟩
      rw [hfits.waiting hstored] at hgiven
      rw [Outbox.send, List.map_drop, hgiven, List.drop_left]
    · exact fun hmem => hfits.fits (List.mem_of_mem_drop hmem)
  · rw [if_neg hsame]
    exact fitsAt_of_kept hfits rfl rfl (by simp [hsame])

theorem fitsAt_of_effect {ω : Type} {request : Request Nat} {answer : Except Failure Reply}
    (heffect : request.Effect registry answer after)
    (hlasting : Lasting (Hardware.wordWidths : η -> List UInt8))
    (hclean : forall j, registry.CleanAt j) (hreset : registry.resetWidth = reset)
    (hfits : registry.FitsAt i outbox) :
    after.FitsAt i (outbox.note reset i (.answered request answer : Happening ω)) := by
  have hwidths := hlasting.of_effect heffect
  cases heffect with
  | failed request failure =>
      rw [Outbox.note_failed]
      exact hfits
  | told reply hasks =>
      rw [Outbox.note_told reset i outbox hasks]
      exact hfits
  | @allocated k hfree =>
      have hheld := fitsAt_hold (hclean k) (unused_of_firstUnused? hfree) hreset hfits
      simpa only [Outbox.note, index_handle, Fin.val_inj] using hheld
  | @acquired handle k hlocated hfree =>
      have hheld := fitsAt_hold (hclean k) hfree hreset hfits
      simpa only [Outbox.note, index_of_locate hlocated, Fin.val_inj] using hheld
  | @closed handle k hheld _ =>
      have hoff := hlasting.switchOff registry k
      have hrested : (registry.switchOff k).FitsAt i outbox :=
        fitsAt_of_kept hfits hoff (by simp [apply_ite]) (by simp)
      have hstill : (registry.switchOff k).resetWidth = reset := by
        rw [← hreset, resetWidth, hoff, resetWidth]
      have hwiped := fitsAt_wipe (k := k) hstill hrested
      simpa only [Outbox.note, index_of_locate (locate_of_locateOpen hheld).1, Fin.val_inj]
        using hwiped
  | waited _ _ => exact fitsAt_of_kept hfits hwidths (by simp [apply_ite]) (by simp)
  | stayedOn _ _ => exact hfits
  | turnedOn _ _ => exact fitsAt_of_kept hfits hwidths (by simp [apply_ite]) (by simp)
  | turnedOff _ => exact fitsAt_of_kept hfits hwidths (by simp [apply_ite]) (by simp)
  | rated _ _ => exact fitsAt_of_kept hfits hwidths (by simp [apply_ite]) (by simp)
  | bound _ callback => exact fitsAt_of_kept hfits hwidths (by simp [apply_ite]) (by simp)
  | @widened handle k bits hheld _ =>
      have hset := fitsAt_adoptWidth hwidths hfits
      simpa only [Outbox.note, index_of_locate (locate_of_locateOpen hheld).1, Fin.val_inj]
        using hset
  | counted _ => exact fitsAt_of_kept hfits hwidths rfl rfl
  | recounted _ value => exact fitsAt_of_kept hfits hwidths rfl rfl
  | @wroteBytes handle k buffers hlocated hnarrow bytes =>
      rcases locate_of_locateBuffers hlocated with ⟨hplace, _, hstored⟩
      have hqueued := fitsAt_queue 8 hstored hwidths (fun _ _ hmem => fits_of_byte hmem) hfits
      simpa only [Outbox.note, index_of_locate hplace, Fin.val_inj] using hqueued
  | @wroteWords handle k buffers words hlocated hfit =>
      rcases locate_of_locateBuffers hlocated with ⟨hplace, _, hstored⟩
      have hqueued := fitsAt_queue outbox.width hstored hwidths
        (fun hsame _ hmem => by
          rw [← hfits.width, ← hsame]
          exact fits_of_not_tooWide hfit hmem) hfits
      simpa only [Outbox.note, index_of_locate hplace, Fin.val_inj] using hqueued
  | readBytes hlocated _ _ => exact fitsAt_read hfits (locate_of_locateBuffers hlocated).2.2 _
  | readWords hlocated _ => exact fitsAt_read hfits (locate_of_locateBuffers hlocated).2.2 _
  | drained _ _ => exact hfits
  | kicked _ _ => exact fitsAt_of_kept hfits hwidths rfl rfl

end Effects

/-!
# What an interrupt gives to its line
-/

section Interrupts

variable {η : Type} [Inspectable η] {ω : Type} [Line ω] {n slots : Nat}
  {registry : Registry η Nat n slots} {i : Fin n} {buffers : Buffers slots}
  (hstored : registry.buffersAt? i = some buffers) (line : ω) (scripts : List (List Command))
include hstored

/-- A line is given words off the front of the buffer. -/
theorem given_of_interrupt :
    (registry.interrupt (Bench.invoke scripts) i (({ line } : Tapped ω), [])).2.1.1.given <+:
      buffers.outbound.toList := by
  by_cases hruns : (registry.slotAt i).state = .enabled
  · cases hbound : (registry.slotAt i).callback with
    | some callback =>
        rw [interrupt_callback _ _ hruns hbound]
        exact List.nil_prefix
    | none =>
        rcases Tapped.toList_exchange buffers line with ⟨hgiven, _, _⟩
        rw [interrupt_exchange _ _ hruns hbound hstored, exchange_tapped, hgiven]
        exact List.prefix_append _ _
  · rw [interrupt_resting _ _ hruns]
    exact List.nil_prefix

/-- A line with room is given at least the oldest word, if no callback stands in between. -/
theorem front_given_of_interrupt {word : UInt16} {words : List UInt16}
    (hqueue : buffers.outbound.toList = word :: words)
    (hruns : (registry.slotAt i).state = .enabled)
    (hunbound : (registry.slotAt i).callback = none)
    (hready : Line.transmitReady (Line.acknowledge line) = true) :
    [word] <+:
      (registry.interrupt (Bench.invoke scripts) i (({ line } : Tapped ω), [])).2.1.1.given := by
  rw [interrupt_exchange _ _ hruns hunbound hstored, exchange_tapped]
  exact Tapped.given_exchange_of_front hready hqueue

end Interrupts

end Registry

/-!
# Runs
-/

section Runs

variable {η : Type} [Inspectable η] {ω : Type} [Line ω] {n slots : Nat}
  {registry after start : Registry η Nat n slots} {now : List (Happening ω)} {reset : UInt8}

theorem fitsAt_of_step (hlasting : Lasting (Hardware.wordWidths : η -> List UInt8)) {i : Fin n}
    {outbox : Outbox} (hstep : Step registry now after) (hclean : forall j, registry.CleanAt j)
    (hreset : registry.resetWidth = reset) (hfits : registry.FitsAt i outbox) :
    after.FitsAt i (now.foldl (Outbox.note reset i) outbox) := by
  have hwidths := hlasting.of_step hstep
  cases hstep with
  | claimed held => exact Registry.fitsAt_of_kept hfits rfl rfl rfl
  | marked k running => exact Registry.fitsAt_of_kept hfits rfl rfl rfl
  | asked heffect => exact Registry.fitsAt_of_effect heffect hlasting hclean hreset hfits
  | advanced index ticks => exact Registry.fitsAt_of_kept hfits hwidths rfl rfl
  | clocked hz => exact Registry.fitsAt_of_kept hfits hwidths rfl rfl
  | forgot => exact Registry.fitsAt_of_kept hfits hwidths rfl rfl
  | passed index before full hline =>
      simpa [Outbox.note, Outbox.send] using hfits
  | @moved k buffers before hruns hunbound hstored =>
      have hmoved := Registry.fitsAt_exchange before hstored hfits
      simpa only [List.foldl_cons, List.foldl_nil, Outbox.note, Fin.val_inj] using hmoved

theorem fitsAt_of_run (hlasting : Lasting (Hardware.wordWidths : η -> List UInt8))
    (hfresh : start.Fresh) (moves : List (Move ω)) (i : Fin n) :
    (Move.runAll moves start).FitsAt i
      (Outbox.noteAll start.resetWidth i (Move.happeningsOf moves start)) := by
  have hreset := hlasting.map fun widths => widths.head?.getD 8
  have hstart : (forall j, start.CleanAt j) ∧ start.resetWidth = start.resetWidth ∧
      start.FitsAt i (Outbox.noteAll start.resetWidth i ([] : List (Happening ω))) := by
    refine ⟨Registry.cleanAt_of_fresh hfresh, rfl, ?_⟩
    refine Registry.fitsAt_of_clear ?_ (Registry.isClear_of_fresh hfresh) rfl
    rw [Registry.slotAt_of_fresh hfresh i]
  have hrun := path_records
    (P := fun past registry => (forall j, registry.CleanAt j) ∧
      registry.resetWidth = start.resetWidth ∧
      registry.FitsAt i (Outbox.noteAll start.resetWidth i past))
    (fun hstep hbefore => ⟨fun j => cleanAt_of_step hstep (hbefore.1 j),
      (hreset.of_step hstep).trans hbefore.2.1, by
      rw [Outbox.noteAll, List.foldl_append]
      exact fitsAt_of_step hlasting hstep hbefore.1 hbefore.2.1 hbefore.2.2⟩)
    [] (path_of_run moves start) hstart
  exact hrun.2.2

/-- In every run from a fresh registry with buffers, over hardware whose word widths last, the words
that wait are those of the outbox, each fits the width that it was held to, and transfers go by the
width of the outbox.  If no word was held to more than the width in force, every word that waits
fits that width, and so does every word that an interrupt gives to its line. -/
theorem waiting_words_fit (hfresh : start.Fresh) (hbuffered : start.isBuffered = true)
    (hlasting : Lasting (Hardware.wordWidths : η -> List UInt8)) (moves : List (Move ω))
    (i : Fin n) :
    let final := Move.runAll moves start
    let outbox := Outbox.noteAll start.resetWidth i (Move.happeningsOf moves start)
    exists buffers, final.buffersAt? i = some buffers ∧
      final.transferWidth i = outbox.width ∧
      buffers.outbound.toList = outbox.waiting.map Parcel.word ∧
      (forall parcel, parcel ∈ outbox.waiting -> FitsWidth parcel.width parcel.word) ∧
      ((forall parcel, parcel ∈ outbox.waiting -> parcel.width ≤ final.transferWidth i) ->
        (forall word, word ∈ buffers.outbound.toList ->
          FitsWidth (final.transferWidth i) word) ∧
        forall (line : ω) (scripts : List (List Command)) (word : UInt16),
          word ∈ (final.interrupt (Bench.invoke scripts) i
            (({ line } : Tapped ω), [])).2.1.1.given ->
          FitsWidth (final.transferWidth i) word) := by
  intro final outbox
  have hfits : final.FitsAt i outbox := fitsAt_of_run hlasting hfresh moves i
  have hstill : (final.buffersAt? i).isSome = true := by
    rw [Registry.isSome_buffersAt?, isBuffered_of_run, hbuffered]
  obtain ⟨buffers, hstored⟩ := Option.isSome_iff_exists.mp hstill
  refine ⟨buffers, hstored, hfits.width, hfits.waiting hstored, fun _ => hfits.fits, ?_⟩
  intro hnarrow
  have hwaiting : forall word, word ∈ buffers.outbound.toList ->
      FitsWidth (final.transferWidth i) word := by
    intro word hword
    rw [hfits.waiting hstored] at hword
    rcases List.mem_map.mp hword with ⟨parcel, hmem, rfl⟩
    exact (hfits.fits hmem).mono (hnarrow parcel hmem)
  refine ⟨hwaiting, ?_⟩
  intro line scripts word hgiven
  exact hwaiting word ((Registry.given_of_interrupt hstored line scripts).subset hgiven)

theorem waiting_words_fit_of_widened_spi :
    let start : Registry (SimulatedHardware 1) Nat 1 4 :=
      .buffered { profile := .spi, clock := 16000000 } (Vector.replicate 1 .empty)
    let device := start.handle 0
    let moves : List (Move BareLine) :=
      [.command (.request .allocate), .command (.request (.write device [7])),
        .command (.request (.setWordWidth device 16)),
        .command (.request (.writeWords device [511]))]
    let final := Move.runAll moves start
    exists buffers, final.buffersAt? 0 = some buffers ∧ final.transferWidth 0 = 16 ∧
      buffers.outbound.toList = [7, 511] ∧
      forall word, word ∈ buffers.outbound.toList -> FitsWidth (final.transferWidth 0) word := by
  intro start device moves final
  have hfresh : start.Fresh := .buffered _ _ _
  rcases waiting_words_fit hfresh rfl SimulatedHardware.lasting_wordWidths moves 0 with
    ⟨buffers, hstored, -, hwaiting, -, hfits⟩
  have hwidth : final.transferWidth 0 = 16 := by decide
  have hwords : (Outbox.noteAll start.resetWidth 0 (Move.happeningsOf moves start)).waiting.map
      Parcel.word = [7, 511] := by decide
  have hnarrow : forall parcel,
      parcel ∈ (Outbox.noteAll start.resetWidth 0 (Move.happeningsOf moves start)).waiting ->
        parcel.width ≤ final.transferWidth 0 := by decide
  exact ⟨buffers, hstored, hwidth, hwaiting.trans hwords, (hfits hnarrow).1⟩

-- Bytes are held to eight bits where the width in force is five, too.
example :
    let start : Registry (SimulatedHardware 1) Nat 1 4 :=
      .buffered { profile := { Profile.uart with wordWidths := [5] }, clock := 16000000 }
        (Vector.replicate 1 .empty)
    let moves : List (Move BareLine) :=
      [.command (.request .allocate), .command (.request (.write (start.handle 0) [255]))]
    let final := Move.runAll moves start
    final.transferWidth 0 = 5 ∧ (final.buffersAt? 0).map (·.outbound.toList) = some [255] ∧
      ¬ FitsWidth 5 255 := by
  decide

/-- A word of nine bits that waits while the width is set to eight goes to the line as it is. -/
theorem narrowed_spi_gives_wide_word :
    let start : Registry (SimulatedHardware 1) Nat 1 4 :=
      .buffered { profile := .spi, clock := 16000000 } (Vector.replicate 1 .empty)
    let device := start.handle 0
    let moves : List (Move SimulatedLine) :=
      [.command (.request .allocate), .command (.request (.setWordWidth device 16)),
        .command (.request (.writeWords device [511])),
        .command (.request (.setWordWidth device 8)), .command (.request (.enable device))]
    let final := Move.runAll moves start
    let line : Tapped SimulatedLine := { line := .ofDepth 4 }
    start.Fresh ∧ final.transferWidth 0 = 8 ∧
      (final.buffersAt? 0).map (·.outbound.toList) = some [511] ∧
      (final.interrupt (Bench.invoke []) 0 (line, [])).2.1.1.given = [511] ∧
      ¬ FitsWidth (final.transferWidth 0) 511 := by
  intro start device moves final line
  have hfresh : start.Fresh := .buffered _ _ _
  have hwidth : final.transferWidth 0 = 8 := by decide
  have hqueue : (final.buffersAt? 0).map (·.outbound.toList) = some [511] := by decide
  have hruns : (final.slotAt 0).state = .enabled := by decide
  have hunbound : (final.slotAt 0).callback = none := by decide
  refine ⟨hfresh, hwidth, hqueue, ?_, ?_⟩
  · rcases Option.map_eq_some_iff.mp hqueue with ⟨buffers, hstored, hwaiting⟩
    generalize final = before at hruns hunbound hstored
    have hfront := Registry.front_given_of_interrupt hstored (SimulatedLine.ofDepth 4) [] hwaiting
      hruns hunbound rfl
    have hgiven := Registry.given_of_interrupt hstored (SimulatedLine.ofDepth 4) []
    rw [hwaiting] at hgiven
    exact (hfront.eq_of_length_le hgiven.length_le).symm
  · rw [hwidth]
    decide

end Runs
end PeripheralBank
