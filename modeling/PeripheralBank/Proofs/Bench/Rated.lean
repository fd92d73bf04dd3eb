import PeripheralBank.Proofs.Bench.Path
import PeripheralBank.Proofs.Divider.Monotone
import PeripheralBank.Proofs.Simulation.Touch

/-!
# Rates in force

The rate in force at a held instance is the last that was set since it was opened.  What the
registry keeps of it, what it tells of it and the divider of the hardware come from that request and
from the clock as it was then; a clock that changes later changes none of them.
-/

namespace PeripheralBank

/-- The frequency that a solved divisor promises is the one that its ratios make of the clock. -/
theorem Chain.frequency_of_solve {chain : Chain} {clock : UInt32} {rate : Rate} {divisor : Divisor}
    (hsolved : chain.solve clock rate = .ok divisor) :
    divisor.frequency = dividedClock divisor.primary divisor.secondary clock := by
  rcases Chain.solve_eq_ok_iff.mp hsolved with ⟨raw, _, hfit⟩
  unfold Chain.fit at hfit
  split at hfit
  · cases hfit
  · simp only at hfit
    split at hfit
    · cases hfit
    · split at hfit
      · cases hfit
      · cases hfit
        rfl

/-!
# The rates that were set
-/

/-- The clock of the hardware and the rates that were set for one instance. -/
structure RateOrders where
  clock : UInt32
  /-- The last rate since the instance was opened, with the clock it was set at. -/
  last : Option (Rate × UInt32) := none

namespace RateOrders

def forget (orders : RateOrders) : RateOrders :=
  { orders with last := none }

def order (orders : RateOrders) (rate : Rate) : RateOrders :=
  { orders with last := some (rate, orders.clock) }

/-- The rates set for the instance of an index after one more happening. -/
def note {ω : Type} (index : Nat) (orders : RateOrders) : Happening ω -> RateOrders
  | .clocked hz => { orders with clock := hz }
  | .answered .allocate (.ok (.handle handle)) =>
      if handle.index = index then orders.forget else orders
  | .answered (.acquire handle) (.ok _) => if handle.index = index then orders.forget else orders
  | .answered (.setRate handle rate) (.ok _) =>
      if handle.index = index then orders.order rate else orders
  | _ => orders

def noteAll {ω : Type} (index : Nat) (happenings : List (Happening ω)) (orders : RateOrders) :
    RateOrders :=
  happenings.foldl (note index) orders

variable {ω : Type} (index : Nat) (orders : RateOrders) {request : Request Nat}

theorem note_failed (request : Request Nat) (failure : Failure) :
    orders.note index (.answered request (.error failure) : Happening ω) = orders := by
  cases request with
  | _ => rfl

theorem note_told (hasks : request.asks = true) (reply : Reply) :
    orders.note index (.answered request (.ok reply) : Happening ω) = orders := by
  cases request with
  | state _ | currentRate _ | requestedRate _ | rateConfig _ | hasCallback _ | wordWidth _ => rfl
  | readable _ | writable _ | pending _ | overflows _ => rfl
  | _ => cases hasks

end RateOrders

/-- Whether the instance of an index was opened, or a rate was set for it. -/
def Happening.setsRate {ω : Type} (index : Nat) : Happening ω -> Bool
  | .answered .allocate (.ok (.handle handle)) => handle.index == index
  | .answered (.acquire handle) (.ok _) => handle.index == index
  | .answered (.setRate handle _) (.ok _) => handle.index == index
  | _ => false

namespace RateOrders

variable {ω : Type} {index : Nat} {happenings : List (Happening ω)}

theorem last_note {happening : Happening ω} (hother : happening.setsRate index = false)
    (orders : RateOrders) : (orders.note index happening).last = orders.last := by
  unfold Happening.setsRate at hother
  unfold note
  split
  · rfl
  · rw [if_neg (ne_of_beq_false hother)]
  · rw [if_neg (ne_of_beq_false hother)]
  · rw [if_neg (ne_of_beq_false hother)]
  · rfl

/-- Only opening the instance and setting its rate change the rate that was set last. -/
theorem last_noteAll
    (hothers : forall happening, happening ∈ happenings -> happening.setsRate index = false)
    (orders : RateOrders) : (noteAll index happenings orders).last = orders.last := by
  induction happenings generalizing orders with
  | nil => rfl
  | cons happening rest ih =>
      have hrest := ih (fun later hmem => hothers later (List.mem_cons_of_mem happening hmem))
      exact (hrest _).trans (last_note (hothers happening List.mem_cons_self) orders)

end RateOrders

/-!
# The drive of rates
-/

namespace SimulatedHardware

variable {m : Nat} (hardware : SimulatedHardware m)

/-- The chain and the clock that rates are solved with. -/
def drive (hardware : SimulatedHardware m) : Chain × UInt32 :=
  (hardware.profile.chain, hardware.clock)

theorem drive_run (place : Nat) (touch : Touch) :
    (touch.run place hardware).drive = hardware.drive := by
  have hprofile := congrArg Prod.fst (Touch.make_run place touch hardware)
  have hclock := congrArg Prod.fst (Touch.ledger_run place touch hardware)
  exact Prod.ext (congrArg Profile.chain hprofile) hclock

theorem upheld_drive (drive : Chain × UInt32) :
    Hardware.Upheld (fun _ => True) (fun _ => True)
      fun hardware : SimulatedHardware m => hardware.drive = drive where
  sound_of_solve _ _ _ _ := trivial
  perform hholds index _ call _ := (drive_run _ index (.call call)).trans hholds
  readCounter hholds _ _ := hholds
  writeCounter hholds index _ value := (drive_run _ index (.counter value)).trans hholds

end SimulatedHardware

namespace Registry

variable {m n slots : Nat} {registry after : Registry (SimulatedHardware m) Nat n slots}
  {j k : Fin n} {orders : RateOrders}

theorem drive_of_effect {request : Request Nat} {answer : Except Failure Reply}
    (heffect : request.Effect registry answer after) :
    after.hardware.drive = registry.hardware.drive :=
  (SimulatedHardware.upheld_drive registry.hardware.drive).of_effect heffect
    (fun _ _ => trivial) rfl

/-!
# What one instance keeps of its rate
-/

/-- Whether a slot and a divider hold what a chain makes of the rate that was set last. -/
def KeepsRate (chain : Chain) (config : RateConfig) (divider : Option Divisor) :
    Option (Rate × UInt32) -> Prop
  | none => config = {}
  | some (rate, clock) =>
      exists divisor, chain.solve clock rate = .ok divisor ∧
        config = { requested := some rate, divisor } ∧ divider = some divisor

structure RatedAt (registry : Registry (SimulatedHardware m) Nat n slots) (j : Fin n)
    (orders : RateOrders) : Prop where
  clock : registry.hardware.clock = orders.clock
  keeps (hheld : (registry.slotAt j).state ≠ .unused) :
    KeepsRate registry.profile.chain (registry.slotAt j).rate (registry.registersAt j).divisor
      orders.last

theorem ratedAt_of_kept (hrated : registry.RatedAt j orders)
    (hdrive : after.hardware.drive = registry.hardware.drive)
    (hdivisor : (after.registersAt j).divisor = (registry.registersAt j).divisor)
    (hslot : (after.slotAt j).state ≠ .unused ->
      (registry.slotAt j).state ≠ .unused ∧ (after.slotAt j).rate = (registry.slotAt j).rate) :
    after.RatedAt j orders where
  clock := (congrArg Prod.snd hdrive).trans hrated.clock
  keeps := by
    intro hheld
    have hchain : after.profile.chain = registry.profile.chain := congrArg Prod.fst hdrive
    rw [hchain, hdivisor, (hslot hheld).2]
    exact hrated.keeps (hslot hheld).1

/-- An instance that is opened has no rate yet, whatever its divider holds. -/
theorem ratedAt_hold (hrated : registry.RatedAt j orders) :
    (registry.hold k).RatedAt j (if k = j then orders.forget else orders) := by
  by_cases hsame : k = j
  · rw [if_pos hsame]
    refine ⟨hrated.clock, ?_⟩
    intro _
    rw [slotAt_hold, if_pos hsame]
    rfl
  · rw [if_neg hsame]
    refine ratedAt_of_kept hrated rfl rfl ?_
    rw [slotAt_hold, if_neg hsame]
    exact fun hheld => ⟨hheld, rfl⟩

theorem divisor_program (registry : Registry (SimulatedHardware m) Nat n slots) (k j : Fin n)
    (divisor : Divisor) :
    ((registry.program k divisor).registersAt j).divisor =
      if k = j then some divisor else (registry.registersAt j).divisor := by
  unfold program
  by_cases hsame : k = j
  · split
    · simp [hsame, Registers.after]
    · simp [hsame, Registers.after]
  · split
    · simp [hsame]
    · simp [hsame]

theorem ratedAt_adoptRate {rate : Rate} {divisor : Divisor}
    (hsolved : registry.profile.chain.solve registry.hardware.clock rate = .ok divisor)
    (hdrive : (registry.adoptRate k rate divisor).hardware.drive = registry.hardware.drive)
    (hrated : registry.RatedAt j orders) :
    (registry.adoptRate k rate divisor).RatedAt j
      (if k = j then orders.order rate else orders) := by
  have hdivisor := divisor_program
    (registry.setSlot k { registry.slotAt k with rate := { requested := some rate, divisor } })
    k j divisor
  by_cases hsame : k = j
  · rw [if_pos hsame] at hdivisor ⊢
    refine ⟨(congrArg Prod.snd hdrive).trans hrated.clock, ?_⟩
    intro _
    refine ⟨divisor, ?_, ?_, hdivisor⟩
    · have hchain := congrArg Prod.fst hdrive
      rw [hrated.clock] at hsolved
      exact (congrArg (fun chain : Chain => chain.solve orders.clock rate) hchain).trans hsolved
    · rw [slotAt_adoptRate, if_pos hsame]
  · rw [if_neg hsame] at hdivisor ⊢
    refine ratedAt_of_kept hrated hdrive hdivisor ?_
    rw [slotAt_adoptRate, if_neg hsame]
    exact fun hheld => ⟨hheld, rfl⟩

theorem ratedAt_switchOff (hdrive : (registry.switchOff k).hardware.drive = registry.hardware.drive)
    (hrated : registry.RatedAt j orders) : (registry.switchOff k).RatedAt j orders := by
  refine ratedAt_of_kept hrated hdrive ?_ ?_
  · rw [registersAt_switchOff]
    split
    · rfl
    · rfl
  · rw [slotAt_switchOff]
    split
    · unfold Slot.halted
      split
      · rename_i hruns
        exact fun _ => ⟨by simp [hruns], rfl⟩
      · exact fun hheld => ⟨hheld, rfl⟩
    · exact fun hheld => ⟨hheld, rfl⟩

theorem ratedAt_wipe (hrated : registry.RatedAt j orders) : (registry.wipe k).RatedAt j orders := by
  refine ratedAt_of_kept hrated (congrArg SimulatedHardware.drive (hardware_wipe registry k)) ?_ ?_
  · rw [registersAt_wipe]
  · rw [slotAt_wipe]
    split
    · exact fun hheld => absurd rfl hheld
    · exact fun hheld => ⟨hheld, rfl⟩

theorem ratedAt_switchOn (hheld : (registry.slotAt k).state ≠ .unused)
    (hdrive : (registry.switchOn k).hardware.drive = registry.hardware.drive)
    (hrated : registry.RatedAt j orders) : (registry.switchOn k).RatedAt j orders := by
  refine ratedAt_of_kept hrated hdrive ?_ ?_
  · rw [registersAt_switchOn]
    split
    · rfl
    · rfl
  · rw [slotAt_switchOn]
    split
    · rename_i hsame
      exact fun _ => ⟨hsame ▸ hheld, rfl⟩
    · exact fun hheld => ⟨hheld, rfl⟩

theorem ratedAt_rebind (callback : Option Nat)
    (hdrive : (registry.rebind k callback).hardware.drive = registry.hardware.drive)
    (hrated : registry.RatedAt j orders) : (registry.rebind k callback).RatedAt j orders := by
  refine ratedAt_of_kept hrated hdrive ?_ ?_
  · rw [registersAt_rebind]
    split
    · rfl
    · rfl
  · rw [slotAt_rebind]
    split
    · exact fun hheld => ⟨hheld, rfl⟩
    · exact fun hheld => ⟨hheld, rfl⟩

theorem ratedAt_adoptWidth (bits : UInt8)
    (hdrive : (registry.adoptWidth k bits).hardware.drive = registry.hardware.drive)
    (hrated : registry.RatedAt j orders) : (registry.adoptWidth k bits).RatedAt j orders := by
  refine ratedAt_of_kept hrated hdrive ?_ ?_
  · rw [registersAt_adoptWidth]
    split
    · rfl
    · rfl
  · rw [slotAt_adoptWidth]
    split
    · exact fun hheld => ⟨hheld, rfl⟩
    · exact fun hheld => ⟨hheld, rfl⟩

/-- What reaches the hardware alone leaves the rate in force if it leaves the divider. -/
theorem ratedAt_setHardware {hardware : SimulatedHardware m} (hrated : registry.RatedAt j orders)
    (hdrive : hardware.drive = registry.hardware.drive)
    (hdivisor : ((registry.setHardware hardware).registersAt j).divisor =
      (registry.registersAt j).divisor) : (registry.setHardware hardware).RatedAt j orders :=
  ratedAt_of_kept hrated hdrive hdivisor fun hheld => ⟨hheld, rfl⟩

theorem ratedAt_kick (hdrive : (registry.call k .kickTransmit).hardware.drive =
      registry.hardware.drive) (hrated : registry.RatedAt j orders) :
    (registry.call k .kickTransmit).RatedAt j orders := by
  refine ratedAt_setHardware hrated hdrive ?_
  show ((registry.call k .kickTransmit).registersAt j).divisor = _
  rw [registersAt_call]
  split
  · rfl
  · rfl

theorem ratedAt_queue (buffers : Buffers slots) (words : List UInt16)
    (hdrive : (registry.queue k buffers words).2.hardware.drive = registry.hardware.drive)
    (hrated : registry.RatedAt j orders) :
    (registry.queue k buffers words).2.RatedAt j orders := by
  refine ratedAt_of_kept hrated hdrive ?_ ?_
  · rw [registersAt_queue]
    split
    · rfl
    · rfl
  · rw [slotAt_queue]
    exact fun hheld => ⟨hheld, rfl⟩

/-!
# Requests
-/

theorem ratedAt_of_effect {ω : Type} {request : Request Nat} {answer : Except Failure Reply}
    (heffect : request.Effect registry answer after) (hrated : registry.RatedAt j orders) :
    after.RatedAt j (orders.note j (.answered request answer : Happening ω)) := by
  have hdrive := drive_of_effect heffect
  cases heffect with
  | failed request failure =>
      rw [RateOrders.note_failed]
      exact hrated
  | told reply hasks =>
      rw [RateOrders.note_told j orders hasks]
      exact hrated
  | @allocated k hfree =>
      have hheld := ratedAt_hold (k := k) hrated
      simpa only [RateOrders.note, index_handle, Fin.val_inj] using hheld
  | @acquired handle k hlocated hfree =>
      have hheld := ratedAt_hold (k := k) hrated
      simpa only [RateOrders.note, index_of_locate hlocated, Fin.val_inj] using hheld
  | @rated handle k rate divisor hheld hsolved =>
      have hset := ratedAt_adoptRate (k := k) hsolved hdrive hrated
      simpa only [RateOrders.note, index_of_locate (locate_of_locateOpen hheld).1,
        Fin.val_inj] using hset
  | stayedOn _ _ | drained _ _ | counted _ => exact hrated
  | waited _ _ | turnedOff _ => exact ratedAt_switchOff hdrive hrated
  | closed _ _ =>
      rw [hardware_wipe] at hdrive
      exact ratedAt_wipe (ratedAt_switchOff hdrive hrated)
  | turnedOn hheld _ => exact ratedAt_switchOn (locate_of_locateOpen hheld).2 hdrive hrated
  | bound _ callback => exact ratedAt_rebind callback hdrive hrated
  | widened _ _ => exact ratedAt_adoptWidth _ hdrive hrated
  | recounted _ value =>
      refine ratedAt_setHardware hrated hdrive ?_
      rw [registersAt_writeCounter]
      split
      · rfl
      · rfl
  | wroteBytes _ _ _ | wroteWords _ _ => exact ratedAt_queue _ _ hdrive hrated
  | readBytes _ _ _ | readWords _ _ => exact ⟨hrated.clock, hrated.keeps⟩
  | kicked _ _ => exact ratedAt_kick hdrive hrated

/-!
# What is told of the rate
-/

/-- A held instance tells of the rate that was set last, and its divider was written for it: all
that is kept follows from the request and the clock that it was set at.  Where none was set, nothing
is kept and there is nothing to tell. -/
inductive ShowsRate (registry : Registry (SimulatedHardware m) Nat n slots) (i : Fin n)
    (chain : Chain) : Option (Rate × UInt32) -> Prop where
  | unset (hconfig : registry.rateConfig (registry.handle i) = .ok {})
      (hcurrent : registry.currentRate (registry.handle i) = refuse .invalidState)
      (hrequested : registry.requestedRate (registry.handle i) = refuse .invalidState) :
      ShowsRate registry i chain none
  | set {rate : Rate} {clock : UInt32} {divisor : Divisor}
      (hsolved : chain.solve clock rate = .ok divisor)
      (hconfig : registry.rateConfig (registry.handle i) = .ok { requested := some rate, divisor })
      (hrequested : registry.requestedRate (registry.handle i) = .ok rate)
      (hcurrent : registry.currentRate (registry.handle i) = .ok (divisor.achieved rate))
      (hachieved : dividedClock divisor.primary divisor.secondary clock = divisor.frequency)
      (hdivider : (registry.registersAt i).divisor = some divisor) :
      ShowsRate registry i chain (some (rate, clock))

theorem showsRate_of_ratedAt (hheld : (registry.slotAt j).state ≠ .unused)
    (hrated : registry.RatedAt j orders) :
    registry.ShowsRate j registry.profile.chain orders.last := by
  have hkeeps := hrated.keeps hheld
  have hconfig := registry.rateConfig_handle j
  have hrequested := requestedRate_handle hheld
  have hcurrent := currentRate_handle hheld
  cases hlast : orders.last with
  | none =>
      rw [hlast] at hkeeps
      have hempty : (registry.slotAt j).rate = {} := hkeeps
      rw [hempty] at hconfig hrequested hcurrent
      exact .unset hconfig hcurrent hrequested
  | some order =>
      rcases order with ⟨rate, clock⟩
      rw [hlast] at hkeeps
      rcases hkeeps with ⟨divisor, hsolved, hkept, hdivisor⟩
      rw [hkept] at hconfig hrequested hcurrent
      have hachieved := Chain.frequency_of_solve hsolved
      exact .set hsolved hconfig hrequested hcurrent hachieved.symm hdivisor

end Registry

/-!
# Runs
-/

section Runs

variable {ω : Type} [Line ω] {m n slots : Nat}
  {registry after : Registry (SimulatedHardware m) Nat n slots} {now : List (Happening ω)}
  {j : Fin n} {orders : RateOrders}

theorem ratedAt_of_step (hstep : Step registry now after) (hrated : registry.RatedAt j orders) :
    after.RatedAt j (orders.noteAll j now) := by
  cases hstep with
  | claimed _ | marked _ _ | forgot | moved _ _ _ _ => exact ⟨hrated.clock, hrated.keeps⟩
  | passed _ _ _ _ => exact hrated
  | asked heffect => exact Registry.ratedAt_of_effect heffect hrated
  | advanced index ticks =>
      have hdrive := registry.hardware.drive_run index (.ticks ticks)
      refine Registry.ratedAt_setHardware hrated hdrive ?_
      rw [Registry.registersAt_advance]
      split
      · unfold Registers.ticked
        split
        · rfl
        · rfl
      · rfl
  | clocked hz => exact ⟨rfl, hrated.keeps⟩

theorem ratedAt_of_run (moves : List (Move ω)) (hrated : registry.RatedAt j orders) :
    (Move.runAll moves registry).RatedAt j (orders.noteAll j (Move.happeningsOf moves registry)) :=
  path_records (P := fun past registry => registry.RatedAt j (orders.noteAll j past))
    (fun hstep hbefore => by
      rw [RateOrders.noteAll, List.foldl_append]
      exact ratedAt_of_step hstep hbefore)
    [] (path_of_run moves registry) hrated

theorem Registry.ratedAt_build (hardware : SimulatedHardware m)
    (buffers : Option (Vector (Buffers slots) n)) (hbelow : n < Handle.nullIndex)
    (hdriven : n ≤ Hardware.instances (SimulatedHardware m)) (j : Fin n) :
    (build hardware buffers hbelow hdriven : Registry _ Nat n slots).RatedAt j
      { clock := hardware.clock } where
  clock := rfl
  keeps hheld := absurd (by simp [slotAt, build]) hheld

/-- In every run, what a held instance tells of its rate and what its divider holds come from the
last rate that was set since it was opened and the clock it was set at.  Whatever happens later, but
for another rate or for opening it again, changes none of it. -/
theorem rate_lasts (hardware : SimulatedHardware m) (buffers : Option (Vector (Buffers slots) n))
    (hbelow : n < Handle.nullIndex) (hdriven : n ≤ Hardware.instances (SimulatedHardware m))
    (moves : List (Move ω)) (i : Fin n) :
    let start : Registry (SimulatedHardware m) Nat n slots := .build hardware buffers hbelow hdriven
    let final := Move.runAll moves start
    let orders := RateOrders.noteAll i (Move.happeningsOf moves start) { clock := hardware.clock }
    (final.slotAt i).state ≠ .unused ->
      final.ShowsRate i hardware.profile.chain orders.last ∧
        forall later : List (Move ω),
          (forall happening, happening ∈ Move.happeningsOf later final ->
            happening.setsRate i = false) ->
          ((Move.runAll later final).slotAt i).state ≠ .unused ->
          (Move.runAll later final).ShowsRate i hardware.profile.chain orders.last := by
  intro start final orders hheld
  have hrated : final.RatedAt i orders :=
    ratedAt_of_run moves (Registry.ratedAt_build hardware buffers hbelow hdriven i)
  have hprofile : final.profile = hardware.profile :=
    SimulatedHardware.lasting_profile.of_run moves start
  constructor
  · rw [← hprofile]
    exact Registry.showsRate_of_ratedAt hheld hrated
  · intro later hothers hheld'
    have hlater : (Move.runAll later final).profile = final.profile :=
      SimulatedHardware.lasting_profile.of_run later final
    rw [← hprofile, ← hlater, ← RateOrders.last_noteAll hothers orders]
    exact Registry.showsRate_of_ratedAt hheld' (ratedAt_of_run later hrated)

/-- The rate of a timer stays what it was made of the clock that it was set at, also where a later
request fails. -/
theorem rate_lasts_of_timer_with_new_clock :
    let hardware : SimulatedHardware 1 := { profile := .timer, clock := 16000000 }
    let buffers : Option (Vector (Buffers 4) 1) := none
    let start : Registry (SimulatedHardware 1) Nat 1 4 :=
      .build hardware buffers (by decide) SimulatedHardware.one_driven
    let device := start.handle 0
    let moves : List (Move BareLine) :=
      [.command (.request .allocate), .command (.request (.setRate device (.hertz 1000))),
        .command (.setClock 8000000), .command (.request (.setRate device (.hertz 0)))]
    let later : List (Move BareLine) :=
      [.command (.request (.enable device)), .command (.setClock 4000000), .interrupt 0 {} []]
    let final := Move.runAll moves start
    final.ShowsRate 0 hardware.profile.chain (some (.hertz 1000, 16000000)) ∧
      (Move.runAll later final).ShowsRate 0 hardware.profile.chain
        (some (.hertz 1000, 16000000)) := by
  intro hardware buffers start device moves later final
  have hheld : (final.slotAt 0).state ≠ .unused := by decide +kernel
  have hheld' : ((Move.runAll later final).slotAt 0).state ≠ .unused := by decide +kernel
  have hlast : (RateOrders.noteAll (0 : Fin 1) (Move.happeningsOf moves start)
      { clock := hardware.clock }).last = some (.hertz 1000, 16000000) := by decide +kernel
  have hquiet : (Move.happeningsOf later final).any (·.setsRate (0 : Fin 1)) = false := by
    decide +kernel
  have hothers : forall happening, happening ∈ Move.happeningsOf later final ->
      happening.setsRate (0 : Fin 1) = false := by
    intro happening hmem
    exact Bool.eq_false_iff.mpr (List.any_eq_false.mp hquiet happening hmem)
  rcases rate_lasts hardware buffers (by decide) SimulatedHardware.one_driven moves 0 hheld with
    ⟨hshown, hkept⟩
  rw [← hlast]
  exact ⟨hshown, hkept later hothers hheld'⟩

end Runs
end PeripheralBank
