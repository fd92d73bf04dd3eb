import PeripheralBank.Profile
import PeripheralBank.Proofs.Divider.Search
import PeripheralBank.RegisterFields

/-!
# Register fields and the ratios they hold

Each stage of a chain has a field of its own in the registers.  Such a field holds exactly the
ratios that the stage offers, although fields and tables are laid out apart from each other: in
another order, by complements, or by one less than the ratio.  Two fields side by side then hold
exactly the pairs of the chain.
-/

namespace PeripheralBank

/-!
# One field
-/

/-- A field holds the ratios of a stage.  What can be written is what the stage offers, it reads
back, and what reads as a ratio is written for that ratio, up to bits that reading ignores. -/
structure Stage.HeldIn {φ : Type} (stage : Stage) (write : UInt32 -> Option φ)
    (read : φ -> Option UInt32) (valid : φ -> Prop) (canonical : φ -> φ) : Prop where
  writes_iff (ratio : UInt32) : (write ratio).isSome = true ↔ stage.contains ratio = true
  read_of_write {ratio : UInt32} {field : φ} (hwritten : write ratio = some field) :
    read field = some ratio
  reads_iff (field : φ) : (read field).isSome = true ↔ valid field
  write_of_read {field : φ} {ratio : UInt32} (hread : read field = some ratio) :
    write ratio = some (canonical field)

section Selectors

variable {ratios offered : List UInt32}

theorem toNat_selector {index : Nat} (hshort : ratios.length ≤ 256)
    (hin : index < ratios.length) : (UInt8.ofNat index).toNat = index :=
  UInt8.toNat_ofNat_of_lt' (Nat.lt_of_lt_of_le hin hshort)

/-- The place of a ratio in a table holds it for any stage with the same ratios, in whatever
order. -/
theorem heldIn_selector (hnodup : ratios.Nodup) (hshort : ratios.length ≤ 256)
    (hsame : forall ratio, ratio ∈ ratios ↔ ratio ∈ offered) :
    (Stage.table offered).HeldIn (selector? ratios) (fun field => ratios[field.toNat]?)
      (fun field => field.toNat < ratios.length) id where
  writes_iff ratio := by
    rw [selector?, Option.isSome_map, List.isSome_idxOf?, hsame, Stage.contains_table]
  read_of_write := by
    intro ratio field hwritten
    rcases Option.map_eq_some_iff.mp hwritten with ⟨index, hindex, rfl⟩
    rcases List.idxOf?_eq_some_iff.mp hindex with ⟨hin, hat, _⟩
    rw [toNat_selector hshort hin, List.getElem?_eq_getElem hin, hat]
  reads_iff field := by simp
  write_of_read := by
    intro field ratio hread
    rcases List.getElem?_eq_some_iff.mp hread with ⟨hin, hat⟩
    have hindex : ratios.idxOf? ratio = some field.toNat := by
      refine List.idxOf?_eq_some_iff.mpr ⟨hin, hat, ?_⟩
      intro earlier hlt hearlier
      have hapart := List.pairwise_iff_getElem.mp hnodup earlier field.toNat
        (Nat.lt_trans hlt hin) hin hlt
      exact hapart (hearlier.trans hat.symm)
    rw [selector?, hindex]
    exact congrArg some UInt8.ofNat_toNat

end Selectors

/-!
# One less than the ratio
-/

theorem one_le_add_one {field bound : UInt32} (hlt : field < bound) :
    1 ≤ field + 1 ∧ field + 1 ≤ bound := by
  have hnext := Stage.toNat_add_one_of_lt hlt
  rw [UInt32.lt_iff_toNat_lt] at hlt
  rw [UInt32.le_iff_toNat_le, UInt32.le_iff_toNat_le, hnext, UInt32.toNat_one]
  lia

theorem toNat_sub_one {ratio : UInt32} (hlow : 1 ≤ ratio) : (ratio - 1).toNat = ratio.toNat - 1 :=
  UInt32.toNat_sub_of_le ratio 1 hlow

theorem heldIn_period16 :
    (Stage.range 1 65536).HeldIn period16? (fun field => some (field.toUInt32 + 1))
      (fun _ => True) id where
  writes_iff ratio := by
    rw [period16?, Option.isSome_ite, Stage.contains_range]
  read_of_write := by
    intro ratio field hwritten
    rcases Option.ite_none_right_eq_some.mp hwritten with ⟨⟨hlow, hhigh⟩, hfield⟩
    cases hfield
    have hsmall : (ratio - 1) % 65536 = ratio - 1 := by
      apply UInt32.toNat_inj.mp
      rw [UInt32.le_iff_toNat_le] at hhigh
      rw [UInt32.toNat_mod, toNat_sub_one hlow]
      exact Nat.mod_eq_of_lt (Nat.sub_one_lt_of_le (UInt32.le_iff_toNat_le.mp hlow) hhigh)
    rw [UInt32.toUInt32_toUInt16, hsmall, UInt32.sub_add_cancel]
  reads_iff _ := by simp
  write_of_read := by
    intro field ratio hread
    cases hread
    have hlt : field.toUInt32 < 65536 := by
      rw [UInt32.lt_iff_toNat_lt, UInt16.toNat_toUInt32]
      exact field.toNat_lt
    rw [period16?, if_pos (one_le_add_one hlt), UInt32.add_sub_cancel, UInt16.toUInt16_toUInt32]
    rfl

/-!
# The speed bit
-/

namespace UartFields

def brgh? (ratio : UInt32) : Option Bool :=
  if ratio = 4 then some true else if ratio = 16 then some false else none

theorem heldIn_brgh :
    (Stage.table [4, 16]).HeldIn brgh? (fun field => some (if field then 4 else 16))
      (fun _ => True) id where
  writes_iff ratio := by
    rw [Stage.contains_table, brgh?]
    by_cases hfour : ratio = 4
    · simp [hfour]
    · simp [hfour]
  read_of_write := by
    intro ratio field hwritten
    unfold brgh? at hwritten
    split at hwritten
    · cases hwritten
      exact congrArg some (Eq.symm ‹ratio = 4›)
    · rcases Option.ite_none_right_eq_some.mp hwritten with ⟨rfl, hfield⟩
      cases hfield
      rfl
  reads_iff _ := by simp
  write_of_read := by
    intro field ratio hread
    cases hread
    cases field with
    | true => rfl
    | false => rfl

end UartFields

namespace CcpFields

def pr? (ratio : UInt32) : Option UInt32 :=
  if ratio = 0 then none else some (ratio - 1)

/-- The largest period stands for no ratio. -/
def ratio? (pr : UInt32) : Option UInt32 :=
  if pr = 4294967295 then none else some (pr + 1)

theorem lt_largest {pr : UInt32} (hother : pr ≠ 4294967295) : pr < 4294967295 := by
  have hapart : pr.toNat ≠ 4294967295 := fun hsame => hother (UInt32.toNat_inj.mp hsame)
  have hbound := pr.toNat_lt
  exact UInt32.lt_iff_toNat_lt.mpr (show pr.toNat < 4294967295 by lia)

theorem heldIn_pr :
    (Stage.range 1 4294967295).HeldIn pr? ratio? (fun field => field ≠ 4294967295) id where
  writes_iff ratio := by
    have hbound := ratio.toNat_lt
    have hzero : ratio = 0 ↔ ratio.toNat = 0 := UInt32.toNat_inj.symm
    rw [Stage.contains_range, UInt32.le_iff_toNat_le, UInt32.le_iff_toNat_le]
    show _ ↔ 1 ≤ ratio.toNat ∧ ratio.toNat ≤ 4294967295
    unfold pr?
    split
    · simp
      lia
    · simp
      lia
  read_of_write := by
    intro ratio field hwritten
    rcases Option.ite_none_left_eq_some.mp hwritten with ⟨hne, hfield⟩
    cases hfield
    have hother : ratio - 1 ≠ 4294967295 := by
      intro hsame
      apply hne
      rw [← UInt32.sub_add_cancel ratio 1, hsame]
      rfl
    rw [ratio?, if_neg hother, UInt32.sub_add_cancel]
  reads_iff field := by
    simp [ratio?]
  write_of_read := by
    intro field ratio hread
    rcases Option.ite_none_left_eq_some.mp hread with ⟨hother, hratio⟩
    cases hratio
    have hne : field + 1 ≠ 0 := by
      intro hzero
      have hlow := (one_le_add_one (lt_largest hother)).1
      rw [hzero] at hlow
      cases UInt32.le_iff_toNat_le.mp hlow
    rw [pr?, if_neg hne, UInt32.add_sub_cancel]
    rfl

end CcpFields

/-!
# The complement in three bits
-/

theorem complement_complement (bits mask : UInt8) :
    ~~~(~~~bits &&& mask) &&& mask = bits &&& mask := by
  apply UInt8.eq_of_toBitVec_eq
  apply BitVec.eq_of_getLsbD_eq
  intro i hi
  simp only [UInt8.toBitVec_and, UInt8.toBitVec_not, BitVec.getLsbD_and, BitVec.getLsbD_not, hi,
    decide_true, Bool.true_and]
  cases bits.toBitVec.getLsbD i with
  | false => simp
  | true => simp

theorem toNat_and_seven (bits : UInt8) : (bits &&& 7).toNat = bits.toNat % 8 := by
  rw [UInt8.toNat_and]
  exact Nat.and_two_pow_sub_one_eq_mod bits.toNat 3

namespace SpiFields

def spre? (ratio : UInt32) : Option UInt8 :=
  if 1 ≤ ratio ∧ ratio ≤ 8 then some (~~~(ratio - 1).toUInt8 &&& 7) else none

def ratio (spre : UInt8) : UInt32 :=
  (~~~spre &&& 7).toUInt32 + 1

theorem heldIn_spre :
    (Stage.range 1 8).HeldIn spre? (fun field => some (ratio field)) (fun _ => True)
      (fun field => field &&& 7) where
  writes_iff ratio := by
    rw [spre?, Option.isSome_ite, Stage.contains_range]
  read_of_write := by
    intro ratio field hwritten
    rcases Option.ite_none_right_eq_some.mp hwritten with ⟨⟨hlow, hhigh⟩, hfield⟩
    cases hfield
    have hless : ((ratio - 1).toUInt8 &&& 7).toUInt32 = ratio - 1 := by
      apply UInt32.toNat_inj.mp
      rw [UInt32.le_iff_toNat_le] at hlow hhigh
      rw [UInt8.toNat_toUInt32, toNat_and_seven, UInt32.toNat_toUInt8, toNat_sub_one hlow]
      have hsmall : ratio.toNat ≤ 8 := hhigh
      lia
    rw [SpiFields.ratio, complement_complement, hless, UInt32.sub_add_cancel]
  reads_iff _ := by simp
  write_of_read := by
    intro field ratio hread
    cases hread
    have hlt : (~~~field &&& 7).toUInt32 < 8 := by
      rw [UInt32.lt_iff_toNat_lt, UInt8.toNat_toUInt32, toNat_and_seven]
      exact Nat.mod_lt _ (by decide)
    rw [spre?, SpiFields.ratio, if_pos (one_le_add_one hlt), UInt32.add_sub_cancel,
      UInt8.toUInt8_toUInt32, complement_complement]

end SpiFields

/-!
# Two fields side by side
-/

/-- Register fields hold the pairs of a chain.  What can be encoded is what the two stages offer, it
decodes to the pair, and what decodes is a pair of the chain that is encoded that way, up to bits
that decoding ignores. -/
structure Chain.HeldIn {φ : Type} (chain : Chain) (encode? : Divisor -> Option φ)
    (decode? : φ -> Option (UInt32 × UInt32)) (valid : φ -> Prop) (canonical : φ -> φ) :
    Prop where
  encodes_iff (divisor : Divisor) :
    (encode? divisor).isSome = true ↔
      chain.primary.contains divisor.primary = true ∧
        chain.secondary.contains divisor.secondary = true
  decode_of_encode {divisor : Divisor} {fields : φ} (hencoded : encode? divisor = some fields) :
    decode? fields = some (divisor.primary, divisor.secondary)
  decodes_iff (fields : φ) : (decode? fields).isSome = true ↔ valid fields
  mem_of_decode {fields : φ} {primary secondary : UInt32}
    (hdecoded : decode? fields = some (primary, secondary)) :
    chain.primary.contains primary = true ∧ chain.secondary.contains secondary = true
  encode_of_decode {fields : φ} {divisor : Divisor}
    (hdecoded : decode? fields = some (divisor.primary, divisor.secondary)) :
    encode? divisor = some (canonical fields)

namespace Chain

section Pairs

variable {φ φ₁ φ₂ : Type} {chain : Chain} {first : φ -> φ₁} {second : φ -> φ₂}
  {write₁ : UInt32 -> Option φ₁} {write₂ : UInt32 -> Option φ₂} {read₁ : φ₁ -> Option UInt32}
  {read₂ : φ₂ -> Option UInt32} {valid₁ : φ₁ -> Prop} {valid₂ : φ₂ -> Prop}
  {canonical₁ : φ₁ -> φ₁} {canonical₂ : φ₂ -> φ₂}
  {encode? : Divisor -> Option φ} {decode? : φ -> Option (UInt32 × UInt32)} {valid : φ -> Prop}

theorem decoded_iff {fields : φ} {primary secondary : UInt32}
    (hdecode : forall fields, decode? fields =
      (read₁ (first fields)).bind fun primary => (read₂ (second fields)).map (primary, ·)) :
    decode? fields = some (primary, secondary) ↔
      read₁ (first fields) = some primary ∧ read₂ (second fields) = some secondary := by
  rw [hdecode]
  cases read₁ (first fields) with
  | none => simp
  | some found =>
      cases read₂ (second fields) with
      | none => simp
      | some other => simp

/-- Where each of two fields holds the ratios of a stage, both together hold the pairs. -/
theorem heldIn_of_stages (pair : φ₁ -> φ₂ -> φ) (first : φ -> φ₁) (second : φ -> φ₂)
    (hprimary : chain.primary.HeldIn write₁ read₁ valid₁ canonical₁)
    (hsecondary : chain.secondary.HeldIn write₂ read₂ valid₂ canonical₂)
    (hfirst : forall a b, first (pair a b) = a) (hsecond : forall a b, second (pair a b) = b)
    (hencode : forall divisor, encode? divisor =
      (write₁ divisor.primary).bind fun a => (write₂ divisor.secondary).map (pair a))
    (hdecode : forall fields, decode? fields =
      (read₁ (first fields)).bind fun primary => (read₂ (second fields)).map (primary, ·))
    (hvalid : forall fields, valid fields ↔ valid₁ (first fields) ∧ valid₂ (second fields)) :
    chain.HeldIn encode? decode? valid
      (fun fields => pair (canonical₁ (first fields)) (canonical₂ (second fields))) where
  encodes_iff divisor := by
    rw [hencode, ← hprimary.writes_iff, ← hsecondary.writes_iff]
    cases write₁ divisor.primary with
    | none => simp
    | some a => simp
  decode_of_encode := by
    intro divisor fields hencoded
    rw [hencode] at hencoded
    rcases Option.bind_eq_some_iff.mp hencoded with ⟨a, ha, hrest⟩
    rcases Option.map_eq_some_iff.mp hrest with ⟨b, hb, rfl⟩
    rw [decoded_iff hdecode, hfirst, hsecond]
    exact ⟨hprimary.read_of_write ha, hsecondary.read_of_write hb⟩
  decodes_iff fields := by
    rw [hdecode, hvalid, ← hprimary.reads_iff, ← hsecondary.reads_iff]
    cases read₁ (first fields) with
    | none => simp
    | some primary => simp
  mem_of_decode := by
    intro fields primary secondary hdecoded
    rcases (decoded_iff hdecode).mp hdecoded with ⟨hfound, hother⟩
    rw [← hprimary.writes_iff, ← hsecondary.writes_iff, hprimary.write_of_read hfound,
      hsecondary.write_of_read hother]
    exact ⟨rfl, rfl⟩
  encode_of_decode := by
    intro fields divisor hdecoded
    rcases (decoded_iff hdecode).mp hdecoded with ⟨hfound, hother⟩
    rw [hencode, hprimary.write_of_read hfound, hsecondary.write_of_read hother]
    rfl

end Pairs

/-!
# The families
-/

theorem heldIn_spi :
    Profile.spi.chain.HeldIn SpiFields.encode? SpiFields.decode?
      (fun fields => fields.ppre.toNat < 4)
      (fun fields => { fields with spre := fields.spre &&& 7 }) := by
  have hreversed : SpiFields.primaries = [1, 4, 16, 64].reverse := rfl
  have hsame : forall ratio, ratio ∈ SpiFields.primaries ↔ ratio ∈ [1, 4, 16, 64] := by
    intro ratio
    rw [hreversed, List.mem_reverse]
  have hprimary : Profile.spi.chain.primary.HeldIn (selector? SpiFields.primaries) _ _ _ :=
    heldIn_selector (by decide) (by decide) hsame
  refine heldIn_of_stages SpiFields.mk SpiFields.ppre SpiFields.spre hprimary
    SpiFields.heldIn_spre (fun _ _ => rfl) (fun _ _ => rfl) ?_ ?_
    fun _ => Iff.symm (iff_of_eq (and_true _))
  · intro divisor
    unfold SpiFields.encode? SpiFields.spre?
    split
    · rfl
    · rfl
  · intro fields
    unfold SpiFields.decode?
    cases SpiFields.primaries[fields.ppre.toNat]? with
    | none => rfl
    | some primary => rfl

theorem heldIn_uart :
    Profile.uart.chain.HeldIn UartFields.encode? (fun fields => some fields.decode)
      (fun _ => True) id := by
  have hprimary : Profile.uart.chain.primary.HeldIn UartFields.brgh? _ _ id :=
    UartFields.heldIn_brgh
  refine heldIn_of_stages UartFields.mk UartFields.brgh UartFields.brg hprimary heldIn_period16
    (fun _ _ => rfl) (fun _ _ => rfl) ?_ ?_ fun _ => Iff.symm (iff_of_eq (and_true _))
  · intro divisor
    have hmap : forall brgh, (period16? divisor.secondary).map (UartFields.mk brgh) =
        (period16? divisor.secondary).bind fun brg => some { brgh, brg } :=
      fun brgh => Option.map_eq_bind
    simp only [hmap]
    unfold UartFields.encode? UartFields.brgh?
    split
    · rfl
    · split
      · rfl
      · rfl
  · intro fields
    rfl

theorem heldIn_timer :
    Profile.timer.chain.HeldIn TimerFields.encode? TimerFields.decode?
      (fun fields => fields.tckps.toNat < 4) id := by
  have hprimary : Profile.timer.chain.primary.HeldIn (selector? TimerFields.primaries) _ _ id :=
    heldIn_selector (by decide) (by decide) fun _ => Iff.rfl
  refine heldIn_of_stages TimerFields.mk TimerFields.tckps TimerFields.pr hprimary heldIn_period16
    (fun _ _ => rfl) (fun _ _ => rfl) ?_ ?_ fun _ => Iff.symm (iff_of_eq (and_true _))
  · intro divisor
    unfold TimerFields.encode?
    cases period16? divisor.secondary with
    | none => rfl
    | some pr => rfl
  · intro fields
    unfold TimerFields.decode?
    cases TimerFields.primaries[fields.tckps.toNat]? with
    | none => rfl
    | some primary => rfl

theorem heldIn_ccp :
    Profile.ccp.chain.HeldIn CcpFields.encode? CcpFields.decode?
      (fun fields => fields.tmrps.toNat < 4 ∧ fields.pr ≠ 4294967295) id := by
  have hprimary : Profile.ccp.chain.primary.HeldIn (selector? CcpFields.primaries) _ _ id :=
    heldIn_selector (by decide) (by decide) fun _ => Iff.rfl
  refine heldIn_of_stages CcpFields.mk CcpFields.tmrps CcpFields.pr hprimary CcpFields.heldIn_pr
    (fun _ _ => rfl) (fun _ _ => rfl) ?_ ?_ fun _ => Iff.rfl
  · intro divisor
    unfold CcpFields.encode? CcpFields.pr?
    split
    · rfl
    · rfl
  · intro fields
    unfold CcpFields.decode? CcpFields.ratio?
    cases CcpFields.primaries[fields.tmrps.toNat]? with
    | none => simp
    | some primary =>
        split
        · rfl
        · rfl

/-- For every family with register fields, encoder, decoder and table describe the same pairs. A
divisor is encoded exactly if its ratios belong to the table, and decodes to them.  Fields decode
exactly if the prescaler field is one of four, which the speed bit of a UART always is, and the
period of capture and compare is not the largest.  What they decode to belongs to the table and is
encoded by the same fields, of which an SPI has three bits for the secondary ratio. -/
theorem fields_match_tables :
    Profile.spi.chain.HeldIn SpiFields.encode? SpiFields.decode?
      (fun fields => fields.ppre.toNat < 4)
      (fun fields => { fields with spre := fields.spre &&& 7 }) ∧
    Profile.uart.chain.HeldIn UartFields.encode? (fun fields => some fields.decode)
      (fun _ => True) id ∧
    Profile.timer.chain.HeldIn TimerFields.encode? TimerFields.decode?
      (fun fields => fields.tckps.toNat < 4) id ∧
    Profile.oc.chain.HeldIn TimerFields.encode? TimerFields.decode?
      (fun fields => fields.tckps.toNat < 4) id ∧
    Profile.ccp.chain.HeldIn CcpFields.encode? CcpFields.decode?
      (fun fields => fields.tmrps.toNat < 4 ∧ fields.pr ≠ 4294967295) id :=
  ⟨heldIn_spi, heldIn_uart, heldIn_timer, heldIn_timer, heldIn_ccp⟩

end Chain
end PeripheralBank
