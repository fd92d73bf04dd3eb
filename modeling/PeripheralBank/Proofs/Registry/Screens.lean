import PeripheralBank.Proofs.Divider.Legality
import PeripheralBank.Proofs.Registry.Tied

/-!
# Handles are looked at first

A handle is good if it is that of an instance of the registry.  Every operation that takes a handle
screens it: a bad one is turned down as such before all else and changes nothing, and a good one is
never turned down as a bad one.  Only the counters are up to the hardware.
-/

namespace PeripheralBank

/-!
# Failures that a registry does not come to
-/

/-- The failures that speak of a place: a bad handle, and registers that are not there.  Once a
handle is found good, only the hardware can come to one. -/
def Failure.OfPlace (failure : Failure) : Prop :=
  failure = .refused .invalidHandle ∨ failure = .noSuchInstance

instance : DecidablePred Failure.OfPlace :=
  fun failure =>
    inferInstanceAs (Decidable (failure = .refused .invalidHandle ∨ failure = .noSuchInstance))

theorem ok_ne_error {α : Type} (value : α) (failure : Failure) :
    (.ok value : Except Failure α) ≠ .error failure := by
  intro hsame
  cases hsame

theorem error_ne_error {α β : Type} {failure barred : Failure}
    (hne : (.error failure : Except Failure α) ≠ .error barred) :
    (.error failure : Except Failure β) ≠ .error barred := by
  intro hsame
  cases hsame
  exact hne rfl

namespace Failure.OfPlace

variable {barred : Failure} (hplace : barred.OfPlace)
include hplace

theorem error_ne {α : Type} {failure : Failure} (hother : ¬ failure.OfPlace) :
    (.error failure : Except Failure α) ≠ .error barred := by
  intro hsame
  cases hsame
  exact hother hplace

/-- No rate fails for a place. -/
theorem solve_ne (chain : Chain) (clock : UInt32) (rate : Rate) :
    chain.solve clock rate ≠ .error barred := by
  unfold Chain.solve Rate.rawRatio
  split
  · rename_i failure hfailed
    split at hfailed
    · cases hfailed
      exact hplace.error_ne (by decide)
    · split at hfailed
      · cases hfailed
        exact hplace.error_ne (by decide)
      · split at hfailed
        · cases hfailed
          exact hplace.error_ne (by decide)
        · cases hfailed
  · rename_i raw hraw
    by_cases hready : chain.Ready clock raw
    · by_cases hzero : chain.primaryFor raw = 0
      · rw [Chain.fit_of_zero hready hzero]
        exact hplace.error_ne (by decide)
      · intro hfailed
        have hrefused := Chain.failure_of_fit (fun _ => hzero) hfailed
        rw [hrefused] at hplace
        exact absurd hplace (by decide)
    · rw [Chain.fit_of_not_ready hready]
      exact hplace.error_ne (by decide)

end Failure.OfPlace

namespace Registry

variable {η : Type} [Hardware η] {κ : Type} {n slots : Nat} {registry : Registry η κ n slots}
  {handle : Handle}

/-!
# Good handles
-/

theorem toNat_raw_handle (registry : Registry η κ n slots) (i : Fin n) :
    (registry.handle i).raw.toNat = 256 * registry.family.tag + i := by
  have hbelow := registry.below_nullIndex
  have hsmall : (i : Nat) < 256 :=
    Nat.lt_trans i.isLt (Nat.lt_trans registry.below_nullIndex (by decide))
  rw [Registry.handle, Handle.toNat_raw_ofIndex, Nat.mod_eq_of_lt hsmall, Nat.mul_comm]

theorem handle_eq_iff {i : Fin n} :
    handle = registry.handle i ↔ handle.raw.toNat = 256 * registry.family.tag + i := by
  rw [← registry.toNat_raw_handle i, UInt16.toNat_inj]
  constructor
  · intro hsame
    rw [hsame]
  · intro hraw
    exact congrArg Handle.mk hraw

/-- A handle is located exactly if it is that of an instance. -/
theorem locate_eq_ok_iff {i : Fin n} :
    registry.locate handle = .ok i ↔ handle.raw.toNat = 256 * registry.family.tag + i := by
  constructor
  · intro hlocated
    have hindex : handle.raw.toNat % 256 = i := index_of_locate hlocated
    unfold locate at hlocated
    split at hlocated
    · cases hlocated
    · rename_i hnamed
      simp only [Bool.or_eq_true, bne_iff_ne, not_or, Decidable.not_not] at hnamed
      have htag := Family.ofTag?_eq_some_iff.mp hnamed.2
      rw [← htag, ← hindex]
      exact (Nat.div_add_mod handle.raw.toNat 256).symm
  · intro hraw
    rw [handle_eq_iff.mpr hraw]
    exact locate_handle registry i

theorem handle_of_locate {i : Fin n} (hlocated : registry.locate handle = .ok i) :
    handle = registry.handle i :=
  handle_eq_iff.mpr (locate_eq_ok_iff.mp hlocated)

theorem failure_of_locate {failure : Failure} (hfailed : registry.locate handle = .error failure) :
    failure = .refused .invalidHandle := by
  unfold locate at hfailed
  split at hfailed
  · cases hfailed
    rfl
  · split at hfailed
    · cases hfailed
    · cases hfailed
      rfl

/-- A handle of no instance is turned down. -/
theorem locate_eq_refuse_iff :
    registry.locate handle = refuse .invalidHandle ↔
      ¬ exists index, index < n ∧ handle.raw.toNat = 256 * registry.family.tag + index := by
  cases hlocated : registry.locate handle with
  | ok i =>
      have hraw := locate_eq_ok_iff.mp hlocated
      constructor
      · intro hsame
        cases hsame
      · intro hnone
        exact absurd ⟨i, i.isLt, hraw⟩ hnone
  | error failure =>
      constructor
      · rintro _ ⟨index, hin, hraw⟩
        have hgood : registry.locate handle = .ok ⟨index, hin⟩ := locate_eq_ok_iff.mpr hraw
        rw [hgood] at hlocated
        cases hlocated
      · intro _
        rw [failure_of_locate hlocated]
        rfl

/-!
# Screening
-/

/-- The answer of an operation that looks at a handle before all else, and does not come to one
failure once it has found the handle good. -/
structure Screened {α : Type} (registry : Registry η κ n slots) (handle : Handle)
    (barred : Failure) (answer : Except Failure α) : Prop where
  of_bad (hbad : registry.locate handle = refuse .invalidHandle) : answer = refuse .invalidHandle
  of_good {i : Fin n} (hgood : registry.locate handle = .ok i) : answer ≠ .error barred

section Gates

variable {α β σ : Type} {before : σ} {barred : Failure}

theorem Screened.map {answer : Except Failure α}
    (hscreened : Screened registry handle barred answer) (f : α -> β) :
    Screened registry handle barred (answer.map f) where
  of_bad hbad := by
    rw [hscreened.of_bad hbad]
    rfl
  of_good hgood := by
    have hpassed := hscreened.of_good hgood
    cases answer with
    | ok value => exact ok_ne_error _ _
    | error failure => exact error_ne_error hpassed

theorem Screened.bind {gate : Except Failure α} (hscreened : Screened registry handle barred gate)
    {next : α -> Except Failure β} (hnext : forall found, next found ≠ .error barred) :
    Screened registry handle barred (gate.bind next) where
  of_bad hbad := by
    rw [hscreened.of_bad hbad]
    rfl
  of_good hgood := by
    have hpassed := hscreened.of_good hgood
    cases gate with
    | ok found => exact hnext found
    | error failure => exact error_ne_error hpassed

variable (registry : Registry η κ n slots) (handle : Handle)

theorem screened_locate : Screened registry handle barred (registry.locate handle) where
  of_bad hbad := hbad
  of_good hgood := by
    rw [hgood]
    exact ok_ne_error _ _

theorem screened_located {next : Fin n -> Except Failure α × σ}
    (hnext : forall i, (next i).1 ≠ .error barred) :
    Screened registry handle barred
      (match registry.locate handle with
      | .error failure => ((.error failure : Except Failure α), before)
      | .ok i => next i).1 where
  of_bad hbad := by
    rw [hbad]
    rfl
  of_good hgood := by
    rw [hgood]
    exact hnext _

variable (hplace : barred.OfPlace)
include hplace

theorem screened_locateOpen : Screened registry handle barred (registry.locateOpen handle) where
  of_bad hbad := by
    rw [locateOpen, hbad]
    rfl
  of_good hgood := by
    simp only [locateOpen, hgood]
    split
    · exact hplace.error_ne (by decide)
    · exact ok_ne_error _ _

theorem screened_locateBuffers :
    Screened registry handle barred (registry.locateBuffers handle) where
  of_bad hbad := by
    rw [locateBuffers, hbad]
    rfl
  of_good hgood := by
    simp only [locateBuffers, hgood]
    split
    · exact hplace.error_ne (by decide)
    · split
      · exact hplace.error_ne (by decide)
      · exact ok_ne_error _ _

theorem screened_held {next : Fin n -> Except Failure α × σ}
    (hnext : forall i, (next i).1 ≠ .error barred) :
    Screened registry handle barred
      (match registry.locateOpen handle with
      | .error failure => ((.error failure : Except Failure α), before)
      | .ok i => next i).1 where
  of_bad hbad := by
    rw [(screened_locateOpen registry handle hplace).of_bad hbad]
    rfl
  of_good hgood := by
    have hpassed := (screened_locateOpen registry handle hplace).of_good hgood
    cases hgate : registry.locateOpen handle with
    | ok i => exact hnext i
    | error failure =>
        rw [hgate] at hpassed
        exact error_ne_error hpassed

theorem screened_stored {next : Fin n -> Buffers slots -> Except Failure α × σ}
    (hnext : forall i buffers, (next i buffers).1 ≠ .error barred) :
    Screened registry handle barred
      (match registry.locateBuffers handle with
      | .error failure => ((.error failure : Except Failure α), before)
      | .ok (i, buffers) => next i buffers).1 where
  of_bad hbad := by
    rw [(screened_locateBuffers registry handle hplace).of_bad hbad]
    rfl
  of_good hgood := by
    have hpassed := (screened_locateBuffers registry handle hplace).of_good hgood
    cases hgate : registry.locateBuffers handle with
    | ok found => exact hnext found.1 found.2
    | error failure =>
        rw [hgate] at hpassed
        exact error_ne_error hpassed

end Gates

/-!
# Requests
-/

/-- Every request that names an instance looks at the handle first.  A failure that speaks of a
place comes from a bad handle, unless the counters come to it. -/
theorem screened_run (registry : Registry η κ n slots) {request : Request κ} {barred : Failure}
    (hplace : barred.OfPlace) (hdevice : request.device? = some handle)
    (hread : forall (hardware : η) (i : Fin n),
      (Hardware.readCounter hardware i).1 ≠ .error barred)
    (hwrite : forall (hardware : η) (i : Fin n) (value : UInt32),
      (Hardware.writeCounter hardware i value).1 ≠ .error barred) :
    Screened registry handle barred (request.run registry).1 := by
  have hlocate : Screened registry handle barred _ := screened_locate registry handle
  have hopen := screened_locateOpen registry handle hplace
  have hstored := screened_locateBuffers registry handle hplace
  cases request with
  | allocate => cases hdevice
  | acquire _ =>
      cases hdevice
      refine (screened_located registry handle ?_).map _
      intro i
      split
      · exact ok_ne_error _ _
      · exact hplace.error_ne (by decide)
  | state _ | rateConfig _ | hasCallback _ =>
      cases hdevice
      refine (hlocate.bind ?_).map _
      intro i
      exact ok_ne_error _ _
  | currentRate _ | requestedRate _ | wordWidth _ =>
      cases hdevice
      refine (hopen.bind ?_).map _
      intro i
      split
      · exact hplace.error_ne (by decide)
      · exact ok_ne_error _ _
  | readable _ | writable _ | pending _ | overflows _ =>
      cases hdevice
      refine (hstored.bind ?_).map _
      intro found
      exact ok_ne_error _ _
  | close _ =>
      cases hdevice
      refine (screened_held registry handle hplace ?_).map _
      intro i
      split
      · exact hplace.error_ne (by decide)
      · exact ok_ne_error _ _
  | disable _ =>
      cases hdevice
      refine (screened_held registry handle hplace ?_).map _
      intro i
      exact ok_ne_error _ _
  | enable _ | bind _ _ =>
      cases hdevice
      refine (screened_held registry handle hplace ?_).map _
      intro i
      split
      · exact ok_ne_error _ _
      · exact ok_ne_error _ _
  | setWordWidth _ bits =>
      cases hdevice
      refine (screened_held registry handle hplace ?_).map _
      intro i
      split
      · exact ok_ne_error _ _
      · exact hplace.error_ne (by decide)
  | setRate _ rate =>
      cases hdevice
      refine (screened_held registry handle hplace ?_).map _
      intro i
      have hsolve := hplace.solve_ne (Hardware.chain registry.hardware)
        (Hardware.clock registry.hardware) rate
      split
      · rename_i failure hfailed
        rw [hfailed] at hsolve
        exact error_ne_error hsolve
      · exact ok_ne_error _ _
  | counter _ =>
      cases hdevice
      refine (screened_held registry handle hplace ?_).map _
      intro i
      exact hread _ _
  | setCounter _ value =>
      cases hdevice
      refine (screened_held registry handle hplace ?_).map _
      intro i
      exact hwrite _ _ _
  | write _ _ | writeWords _ _ | read _ _ =>
      cases hdevice
      refine (screened_stored registry handle hplace ?_).map _
      intro i buffers
      split
      · exact hplace.error_ne (by decide)
      · exact ok_ne_error _ _
  | readWords _ _ =>
      cases hdevice
      refine (screened_stored registry handle hplace ?_).map _
      intro i buffers
      exact ok_ne_error _ _
  | flush _ =>
      cases hdevice
      refine (screened_stored registry handle hplace ?_).map _
      intro i buffers
      split
      · exact ok_ne_error _ _
      · exact ok_ne_error _ _

/-- A request with a bad handle changes nothing. -/
theorem eq_of_bad_effect {registry after : Registry η κ n slots} {request : Request κ}
    {answer : Except Failure Reply} (heffect : request.Effect registry answer after)
    (hdevice : request.device? = some handle)
    (hbad : registry.locate handle = refuse .invalidHandle) : after = registry := by
  have hlocate {i : Fin n} (hlocated : registry.locate handle = .ok i) : after = registry := by
    rw [hbad] at hlocated
    cases hlocated
  have hopen {i : Fin n} (hheld : registry.locateOpen handle = .ok i) : after = registry :=
    hlocate (locate_of_locateOpen hheld).1
  have hstore {i : Fin n} {buffers : Buffers slots}
      (hlocated : registry.locateBuffers handle = .ok (i, buffers)) : after = registry :=
    hlocate (locate_of_locateBuffers hlocated).1
  cases heffect with
  | failed _ _ | told _ _ | stayedOn _ _ | drained _ _ => rfl
  | allocated _ => cases hdevice
  | acquired hlocated _ =>
      cases hdevice
      exact hlocate hlocated
  | waited hheld _ | closed hheld _ | turnedOn hheld _ | turnedOff hheld | rated hheld _ =>
      cases hdevice
      exact hopen hheld
  | bound hheld _ | widened hheld _ | counted hheld | recounted hheld _ =>
      cases hdevice
      exact hopen hheld
  | wroteBytes hlocated _ _ | wroteWords hlocated _ | readBytes hlocated _ _ =>
      cases hdevice
      exact hstore hlocated
  | readWords hlocated _ | kicked hlocated _ =>
      cases hdevice
      exact hstore hlocated

/-!
# All that takes a handle or an index
-/

theorem interrupt_eq_refuse_iff {ω : Type} [Line ω]
    (invoke : κ -> ω -> Registry η κ n slots -> ω × Registry η κ n slots) (index : Nat)
    (line : ω) :
    (registry.interrupt invoke index line).1 = refuse .invalidHandle ↔ ¬ index < n := by
  constructor
  · intro hrefused hin
    obtain ⟨i, rfl⟩ : exists i : Fin n, i.val = index := ⟨⟨index, hin⟩, rfl⟩
    by_cases hruns : (registry.slotAt i).state = .enabled
    · rw [interrupt_running invoke line hruns] at hrefused
      cases hrefused
    · rw [interrupt_resting invoke line hruns] at hrefused
      cases hrefused
  · intro hout
    rw [interrupt_outside invoke line hout]

/-- A registry turns down the handles that are of none of its instances, before all else and
without a trace, and no others, and so with the indices of interrupts. -/
structure ChecksHandles (registry : Registry η κ n slots) : Prop where
  refused_iff {request : Request κ} {handle : Handle} (hdevice : request.device? = some handle) :
    (request.run registry).1 = refuse .invalidHandle ↔
      ¬ exists index, index < n ∧ handle.raw.toNat = 256 * registry.family.tag + index
  kept {request : Request κ} {handle : Handle} (hdevice : request.device? = some handle)
    (hbad : ¬ exists index, index < n ∧ handle.raw.toNat = 256 * registry.family.tag + index) :
    (request.run registry).2 = registry
  interrupt_refused_iff {ω : Type} [Line ω]
    (invoke : κ -> ω -> Registry η κ n slots -> ω × Registry η κ n slots) (index : Nat)
    (line : ω) :
    (registry.interrupt invoke index line).1 = refuse .invalidHandle ↔ ¬ index < n

theorem checksHandles (registry : Registry η κ n slots)
    (hread : forall (hardware : η) (i : Fin n),
      (Hardware.readCounter hardware i).1 ≠ refuse .invalidHandle)
    (hwrite : forall (hardware : η) (i : Fin n) (value : UInt32),
      (Hardware.writeCounter hardware i value).1 ≠ refuse .invalidHandle) :
    registry.ChecksHandles where
  refused_iff := by
    intro request handle hdevice
    have hscreened := registry.screened_run (Or.inl rfl) hdevice hread hwrite
    rw [← locate_eq_refuse_iff]
    constructor
    · intro hrefused
      cases hlocated : registry.locate handle with
      | ok i => exact absurd hrefused (hscreened.of_good hlocated)
      | error failure =>
          rw [failure_of_locate hlocated]
          rfl
    · exact hscreened.of_bad
  kept hdevice hbad :=
    eq_of_bad_effect (Request.effect_run _ registry) hdevice (locate_eq_refuse_iff.mpr hbad)
  interrupt_refused_iff := interrupt_eq_refuse_iff

end Registry
end PeripheralBank
