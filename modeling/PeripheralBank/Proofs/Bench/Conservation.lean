import PeripheralBank.Proofs.Bench.Traffic
import PeripheralBank.Proofs.Simulation.Line
import PeripheralBank.Simulation.Hardware

/-!
# No word is lost between the application and the lines

While an instance is held, its traffic balances with its buffers.  Opening it starts from clear
buffers, requests move words at one end of a buffer, interrupts at the other, and nothing else
touches them.
-/

namespace PeripheralBank
namespace Registry

section Effects

variable {η : Type} [Hardware η] {n slots : Nat} {registry after : Registry η Nat n slots}
  {i k : Fin n} {traffic : Traffic}

def BalancedAt (registry : Registry η Nat n slots) (i : Fin n) (traffic : Traffic) : Prop :=
  (registry.slotAt i).state ≠ .unused ->
    forall buffers, registry.buffersAt? i = some buffers -> traffic.Balances buffers

theorem balancedAt_of_kept (hbalanced : registry.BalancedAt i traffic)
    (hheld : (after.slotAt i).state ≠ .unused -> (registry.slotAt i).state ≠ .unused)
    (hbuffers : after.buffersAt? i = registry.buffersAt? i) : after.BalancedAt i traffic := by
  intro hheld' buffers hstored
  rw [hbuffers] at hstored
  exact hbalanced (hheld hheld') buffers hstored

/-- A change of a held instance that leaves all buffers alone. -/
theorem balancedAt_of_held (hheld : (registry.slotAt k).state ≠ .unused)
    (hframe : k ≠ i -> after.slotAt i = registry.slotAt i)
    (hbuffers : after.buffersAt? i = registry.buffersAt? i)
    (hbalanced : registry.BalancedAt i traffic) : after.BalancedAt i traffic := by
  apply balancedAt_of_kept hbalanced _ hbuffers
  intro hheld'
  by_cases hsame : k = i
  · rwa [← hsame]
  · rwa [← hframe hsame]

/-- Opening an instance that nobody held starts with clear buffers and no traffic. -/
theorem balancedAt_hold (hclean : registry.CleanAt k) (hfree : (registry.slotAt k).state = .unused)
    (hbalanced : registry.BalancedAt i traffic) :
    (registry.hold k).BalancedAt i (if k = i then {} else traffic) := by
  by_cases hsame : k = i
  · subst k
    intro _ buffers hstored
    rw [if_pos rfl]
    exact Traffic.balances_of_isClear (hclean.buffers hfree hstored)
  · rw [if_neg hsame]
    exact balancedAt_of_kept hbalanced (by simp [hsame]) rfl

/-- Changed buffers of a held instance balance with the traffic that the change brings. -/
theorem balancedAt_of_change {traffic' : Traffic} {buffers changed : Buffers slots}
    (hheld : (registry.slotAt k).state ≠ .unused) (hstored : registry.buffersAt? k = some buffers)
    (hslots : after.slotAt i = registry.slotAt i)
    (hbuffers : after.buffersAt? i =
      if k = i then (registry.buffersAt? i).map fun _ => changed else registry.buffersAt? i)
    (hchange : traffic.Balances buffers -> traffic'.Balances changed)
    (hbalanced : registry.BalancedAt i traffic) :
    after.BalancedAt i (if k = i then traffic' else traffic) := by
  by_cases hsame : k = i
  · subst k
    intro _ now hnow
    rw [hbuffers, if_pos rfl, hstored] at hnow
    cases hnow
    rw [if_pos rfl]
    exact hchange (hbalanced hheld buffers hstored)
  · rw [if_neg hsame] at hbuffers ⊢
    exact balancedAt_of_kept hbalanced (by simp [hslots]) hbuffers

/-- Only an opening, a read or a write shows in the traffic, and only if it was granted. -/
theorem note_failed {ω : Type} (index : Nat) (traffic : Traffic) (request : Request Nat)
    (failure : Failure) :
    traffic.note index (.answered request (.error failure) : Happening ω) = traffic := by
  cases request with
  | _ => rfl

theorem note_told {ω : Type} (index : Nat) (traffic : Traffic) {request : Request Nat}
    (hasks : request.asks = true) (reply : Reply) :
    traffic.note index (.answered request (.ok reply) : Happening ω) = traffic := by
  cases request with
  | state _ | currentRate _ | requestedRate _ | rateConfig _ | hasCallback _ | wordWidth _ => rfl
  | readable _ | writable _ | pending _ | overflows _ => rfl
  | _ => cases hasks

theorem balancedAt_of_effect {ω : Type} {request : Request Nat} {answer : Except Failure Reply}
    (heffect : request.Effect registry answer after) (hclean : forall j, registry.CleanAt j)
    (hbalanced : registry.BalancedAt i traffic) :
    after.BalancedAt i (traffic.note i (.answered request answer : Happening ω)) := by
  cases heffect with
  | failed request failure =>
      rw [note_failed]
      exact hbalanced
  | told reply hasks =>
      rw [note_told i traffic hasks]
      exact hbalanced
  | @allocated k hfree =>
      have hheld := balancedAt_hold (hclean k) (unused_of_firstUnused? hfree) hbalanced
      simpa only [Traffic.note, index_handle, Fin.val_inj] using hheld
  | @acquired handle k hlocated hfree =>
      have hheld := balancedAt_hold (hclean k) hfree hbalanced
      simpa only [Traffic.note, index_of_locate hlocated, Fin.val_inj] using hheld
  | @closed handle k hheld hrests =>
      show BalancedAt _ i traffic
      by_cases hsame : k = i
      · subst k
        intro hheld'
        simp at hheld'
      · exact balancedAt_of_kept hbalanced (by simp [hsame]) (by simp [hsame])
  | waited hheld _ =>
      exact balancedAt_of_held (locate_of_locateOpen hheld).2 (fun hapart => by simp [hapart])
        (by simp) hbalanced
  | stayedOn _ _ => exact hbalanced
  | turnedOn hheld _ =>
      exact balancedAt_of_held (locate_of_locateOpen hheld).2 (fun hapart => by simp [hapart])
        (by simp) hbalanced
  | turnedOff hheld =>
      exact balancedAt_of_held (locate_of_locateOpen hheld).2 (fun hapart => by simp [hapart])
        (by simp) hbalanced
  | rated hheld _ =>
      exact balancedAt_of_held (locate_of_locateOpen hheld).2 (fun hapart => by simp [hapart])
        (by simp) hbalanced
  | bound hheld callback =>
      exact balancedAt_of_held (locate_of_locateOpen hheld).2 (fun hapart => by simp [hapart])
        (by simp) hbalanced
  | widened hheld _ =>
      exact balancedAt_of_held (locate_of_locateOpen hheld).2 (fun hapart => by simp [hapart])
        (by simp) hbalanced
  | counted _ => exact balancedAt_of_kept hbalanced id rfl
  | recounted _ value => exact balancedAt_of_kept hbalanced id rfl
  | @wroteBytes handle k buffers hlocated hnarrow bytes =>
      rcases locate_of_locateBuffers hlocated with ⟨hplace, hheld, hstored⟩
      have hchanged := balancedAt_of_change hheld hstored
        (slotAt_queue registry k i buffers (bytes.map UInt8.toUInt16))
        (buffersAt?_queue registry k i buffers (bytes.map UInt8.toUInt16))
        (fun hbalances => hbalances.accept (bytes.map UInt8.toUInt16)) hbalanced
      simpa only [Traffic.note, index_of_locate hplace, Fin.val_inj, queue_fst] using hchanged
  | @wroteWords handle k buffers words hlocated hfit =>
      rcases locate_of_locateBuffers hlocated with ⟨hplace, hheld, hstored⟩
      have hchanged := balancedAt_of_change hheld hstored
        (slotAt_queue registry k i buffers words) (buffersAt?_queue registry k i buffers words)
        (fun hbalances => hbalances.accept words) hbalanced
      simpa only [Traffic.note, index_of_locate hplace, Fin.val_inj, queue_fst] using hchanged
  | @readBytes handle k buffers hlocated hnarrow output =>
      rcases locate_of_locateBuffers hlocated with ⟨hplace, hheld, hstored⟩
      have hchanged := balancedAt_of_change hheld hstored
        (slotAt_setBuffers registry k i _) (buffersAt?_setBuffers registry k i _)
        (fun hbalances => hbalances.deliver UInt16.toUInt8 .byte (fun _ => rfl) output) hbalanced
      simpa only [Traffic.note, index_of_locate hplace, Fin.val_inj] using hchanged
  | @readWords handle k buffers hlocated output =>
      rcases locate_of_locateBuffers hlocated with ⟨hplace, hheld, hstored⟩
      have hchanged := balancedAt_of_change hheld hstored
        (slotAt_setBuffers registry k i _) (buffersAt?_setBuffers registry k i _)
        (fun hbalances => hbalances.deliver id .word (fun _ => rfl) output) hbalanced
      simpa only [Traffic.note, index_of_locate hplace, Fin.val_inj, Ring.pop] using hchanged
  | drained _ _ => exact hbalanced
  | kicked _ _ => exact balancedAt_of_kept hbalanced id rfl

end Effects
end Registry

/-!
# Runs
-/

section Runs

variable {η : Type} [Inspectable η] {ω : Type} [Line ω] {n slots : Nat}
  {registry after start : Registry η Nat n slots} {now : List (Happening ω)}

theorem balancedAt_of_step {i : Fin n} {traffic : Traffic} (hstep : Step registry now after)
    (hclean : forall j, registry.CleanAt j) (hbalanced : registry.BalancedAt i traffic) :
    after.BalancedAt i (now.foldl (Traffic.note i) traffic) := by
  cases hstep with
  | claimed held => exact Registry.balancedAt_of_kept hbalanced id rfl
  | marked k running => exact Registry.balancedAt_of_kept hbalanced id rfl
  | asked heffect => exact Registry.balancedAt_of_effect heffect hclean hbalanced
  | advanced index ticks => exact Registry.balancedAt_of_kept hbalanced id rfl
  | clocked hz => exact Registry.balancedAt_of_kept hbalanced id rfl
  | forgot => exact Registry.balancedAt_of_kept hbalanced id rfl
  | passed index before full hline =>
      have hnothing : traffic.pass [] [] full = traffic := by
        simp [Traffic.pass]
      simpa [Traffic.note, hnothing] using hbalanced
  | @moved k buffers before hruns hunbound hstored =>
      have hheld : (registry.slotAt k).state ≠ .unused := by simp [hruns]
      have hchanged := Registry.balancedAt_of_change hheld hstored
        (Registry.slotAt_setBuffers registry k i _) (Registry.buffersAt?_setBuffers registry k i _)
        (fun hbalances => hbalances.pass before) hbalanced
      simpa only [List.foldl_cons, List.foldl_nil, Traffic.note, Fin.val_inj] using hchanged

/-- In every run from a fresh registry the traffic of a held instance balances with its buffers. -/
theorem balancedAt_of_run (hfresh : start.Fresh) (moves : List (Move ω)) (i : Fin n) :
    (Move.runAll moves start).BalancedAt i
      (Traffic.noteAll i (Move.happeningsOf moves start)) := by
  have hstart : (forall j, start.CleanAt j) ∧
      start.BalancedAt i (Traffic.noteAll i ([] : List (Happening ω))) := by
    refine ⟨Registry.cleanAt_of_fresh hfresh, ?_⟩
    intro hheld
    rw [Registry.slotAt_of_fresh hfresh i] at hheld
    exact absurd rfl hheld
  have hrun := path_records
    (P := fun past registry => (forall j, registry.CleanAt j) ∧
      registry.BalancedAt i (Traffic.noteAll i past))
    (fun hstep hbefore => ⟨fun j => cleanAt_of_step hstep (hbefore.1 j), by
      rw [Traffic.noteAll, List.foldl_append]
      exact balancedAt_of_step hstep hbefore.1 hbefore.2⟩)
    [] (path_of_run moves start) hstart
  exact hrun.2

end Runs

section SimulatedLines

variable {η : Type} [Inspectable η] {n slots : Nat} {start : Registry η Nat n slots}

/-- What an interrupt leaves is a line that can be used again, and every word that the line was
given goes out. -/
structure SentAll (before : SimulatedLine) (after : Tapped SimulatedLine) : Prop where
  made : after.line.Made
  outgoing : after.line.outgoing = before.outgoing ++ after.given

theorem sentAll_of_step {registry final : Registry η Nat n slots}
    {now : List (Happening SimulatedLine)} (hstep : Step registry now final) {index : Nat}
    {before : SimulatedLine} {after : Tapped SimulatedLine} {full : Bool}
    (hnow : .interrupted index before after full ∈ now) (hmade : before.Made) :
    SentAll before after := by
  cases hstep with
  | claimed _ => cases hnow
  | marked _ _ => cases hnow
  | asked _ => simp at hnow
  | advanced _ _ => simp at hnow
  | clocked _ => simp at hnow
  | forgot => simp at hnow
  | passed _ _ _ hline =>
      cases List.mem_singleton.mp hnow
      rcases hline with rfl | rfl
      · exact ⟨hmade, (List.append_nil _).symm⟩
      · exact ⟨hmade.used .acknowledge, (List.append_nil _).symm⟩
  | moved _ _ _ _ =>
      cases List.mem_singleton.mp hnow
      exact
        { made := SimulatedLine.made_exchange _ hmade
          outgoing := SimulatedLine.outgoing_exchange _ (SimulatedLine.depth_le_of_made hmade) }

/-- No interrupt of a run gives a line a word that the line drops. -/
theorem sentAll_of_run (moves : List (Move SimulatedLine))
    (hmade : forall index line scripts, .interrupt index line scripts ∈ moves -> line.Made)
    {index : Nat} {before : SimulatedLine} {after : Tapped SimulatedLine} {full : Bool}
    (hhappened : .interrupted index before after full ∈ Move.happeningsOf moves start) :
    SentAll before after := by
  have hrun := path_records
    (P := fun past _ => forall index (before : SimulatedLine) after full,
      .interrupted index before after full ∈ past -> before.Made -> SentAll before after)
    (fun hstep hpast index before after full hmem hbefore => by
      rcases List.mem_append.mp hmem with hearlier | hnow
      · exact hpast index before after full hearlier hbefore
      · exact sentAll_of_step hstep hnow hbefore)
    [] (path_of_run moves start) (fun _ _ _ _ hmem => absurd hmem List.not_mem_nil)
  rcases Move.mem_of_interrupted hhappened with ⟨scripts, hmem⟩
  exact hrun index before after full hhappened (hmade index before scripts hmem)

/-- In every run from a fresh registry with buffers, no word of a held instance is lost, doubled
or moved out of order.  Since the instance was opened, the accepted words are those that interrupts
gave to lines and then those that wait, and no line dropped one; the words that interrupts took from
lines, without those that found the inbound buffer full, are those that reads took and then those
that can still be read, and the others were counted as overflows.  Every interrupt of the run shows
in what happened, and the line seen there is the one that the interrupt leaves, which can be used
again.  The number of overflows is exact, so it is what a counter of one word shows as long as fewer
than a full word of them were missed since the opening. -/
theorem words_conserved (hfresh : start.Fresh) (hbuffered : start.isBuffered = true)
    (moves : List (Move SimulatedLine))
    (hmade : forall index line scripts, .interrupt index line scripts ∈ moves -> line.Made)
    (i : Fin n) (hheld : ((Move.runAll moves start).slotAt i).state ≠ .unused) :
    let happenings := Move.happeningsOf moves start
    let traffic := Traffic.noteAll i happenings
    exists buffers, (Move.runAll moves start).buffersAt? i = some buffers ∧
      traffic.accepted = traffic.given ++ buffers.outbound.toList ∧
      (forall before after full, .interrupted i before after full ∈ happenings ->
        after.line.outgoing = before.outgoing ++ after.given) ∧
      (forall earlier before scripts later,
        moves = earlier ++ .interrupt i before scripts :: later ->
        exists after full, .interrupted i before after full ∈ happenings ∧ after.line.Made ∧
          ((Move.runAll earlier start).interrupt (Bench.invoke scripts) i (before, [])).2.1.1 =
            after.line) ∧
      (exists words, List.Forall₂ Delivery.Shows traffic.delivered words ∧
        traffic.kept = words ++ buffers.inbound.toList) ∧
      buffers.inbound.overflows = traffic.missed.length := by
  intro happenings traffic
  have hstill : ((Move.runAll moves start).buffersAt? i).isSome = true := by
    rw [Registry.isSome_buffersAt?, isBuffered_of_run, hbuffered]
  obtain ⟨buffers, hstored⟩ := Option.isSome_iff_exists.mp hstill
  have hbalances := balancedAt_of_run hfresh moves i hheld buffers hstored
  refine ⟨buffers, hstored, hbalances.outbound, ?_, ?_, hbalances.inbound, hbalances.overflows⟩
  · intro before after full hhappened
    exact (sentAll_of_run moves hmade hhappened).outgoing
  · rintro earlier before scripts later rfl
    rcases Move.exists_interrupted earlier later i before scripts start with
      ⟨after, full, hhappened, hline⟩
    exact ⟨after, full, hhappened, (sentAll_of_run _ hmade hhappened).made, hline.symm⟩

theorem words_conserved_of_one_interrupt :
    let start : Registry (SimulatedHardware 1) Nat 1 4 :=
      .buffered { profile := .spi, clock := 8000000 } (Vector.replicate 1 .empty)
    let commands : List (Move SimulatedLine) :=
      [.command (.request .allocate), .command (.request (.enable (start.handle 0))),
        .command (.request (.write (start.handle 0) [7, 8, 9, 10]))]
    let moves := commands ++ [.interrupt 0 (.ofDepth 2) []]
    let traffic := Traffic.noteAll 0 (Move.happeningsOf moves start)
    exists buffers, (Move.runAll moves start).buffersAt? 0 = some buffers ∧
      [7, 8, 9] = traffic.given ++ buffers.outbound.toList := by
  intro start commands moves traffic
  have hfresh : start.Fresh := .buffered _ _ _
  have hmade : forall index line scripts, .interrupt index line scripts ∈ moves -> line.Made := by
    intro index line scripts hmem
    simp only [moves, commands, List.cons_append, List.nil_append, List.mem_cons, reduceCtorEq,
      false_or, Move.interrupt.injEq, List.not_mem_nil, or_false] at hmem
    rw [hmem.2.1]
    exact .ofDepth 2
  have hheld : ((Move.runAll moves start).slotAt 0).state ≠ .unused := by
    have hunbound : ((Move.runAll commands start).slotAt 0).callback = none := by decide
    have hopened : ((Move.runAll commands start).slotAt 0).state ≠ .unused := by decide
    rw [Move.runAll_append]
    generalize Move.runAll commands start = before at hunbound hopened
    have hkept : (Move.runAll [.interrupt 0 (SimulatedLine.ofDepth 2) []] before).slotAt 0 =
        before.slotAt 0 :=
      Registry.slotAt_interrupt (Bench.invoke []) (SimulatedLine.ofDepth 2, []) hunbound 0
    rw [hkept]
    exact hopened
  rcases words_conserved hfresh rfl moves hmade 0 hheld with ⟨buffers, hstored, hout, -, -, -, -⟩
  have haccepted : [7, 8, 9] = traffic.accepted := by decide
  exact ⟨buffers, hstored, haccepted.trans hout⟩

end SimulatedLines
end PeripheralBank
