import PeripheralBank.Proofs.Divider.Monotone

/-!
# Raw ratios that are met exactly

A graded chain that starts with the primary ratio one meets every raw ratio that its secondary stage
reaches.  The secondary stage of the CCP family reaches as far as the clock can count, so there a
frequency gets the quotient of the clock by itself.  What is achieved is then the lowest frequency
that is attainable and not below the request, and a request for that one achieves the same.
-/

namespace PeripheralBank

/-!
# A quotient of a quotient

Dividing a number by its own quotients leads back and forth between two of them.
-/

section Quotients

variable {number divisor : Nat}

theorem le_div_div (hdivisor : 0 < divisor) (hle : divisor ≤ number) :
    divisor ≤ number / (number / divisor) :=
  (Nat.le_div_iff_mul_le (Nat.div_pos hle hdivisor)).mpr (Nat.mul_div_le number divisor)

theorem div_lt_of_div_lt {other : Nat} (hdivisor : 0 < divisor)
    (hlt : number / divisor < other) : number / other < divisor := by
  have hother : 0 < other := Nat.lt_of_le_of_lt (Nat.zero_le _) hlt
  rw [Nat.div_lt_iff_lt_mul hdivisor] at hlt
  rw [Nat.div_lt_iff_lt_mul hother, Nat.mul_comm]
  exact hlt

theorem div_div_div (hdivisor : 0 < divisor) (hle : divisor ≤ number) :
    number / (number / (number / divisor)) = number / divisor := by
  apply Nat.le_antisymm
  · exact Nat.div_le_div_left (le_div_div hdivisor hle) hdivisor
  · exact le_div_div (Nat.div_pos hle hdivisor) (Nat.div_le_self number divisor)

end Quotients

/-!
# Exact fits
-/

namespace Chain

section Graded

variable {chain : Chain} {ratios : List UInt32} {highest clock : UInt32} {raw : UInt64}

theorem roundHalfUp_one (value : Nat) : roundHalfUp value 1 = value := by
  simp [roundHalfUp, Nat.mod_one]

theorem Graded.primaryFor_eq_one (hgraded : chain.Graded ratios highest) (hone : 1 ∈ ratios)
    (hwithin : raw.toNat ≤ highest.toNat) : chain.primaryFor raw = 1 := by
  have hcovers : chain.covers raw 1 = true := by
    rw [covers_iff, hgraded.secondary_eq, UInt32.toNat_one, Nat.one_mul]
    exact hwithin
  have hleast := UInt32.le_iff_toNat_le.mp (hgraded.primaryFor_le_of_covers hone hcovers)
  have hpos := toNat_pos (hgraded.primaryFor_ne_zero raw)
  exact UInt32.toNat_inj.mp (Nat.le_antisymm hleast hpos)

/-- The secondary stage alone divides by every raw ratio that it reaches. -/
theorem Graded.exists_exact_fit (hgraded : chain.Graded ratios highest) (hone : 1 ∈ ratios)
    (hnone : chain.forbidden = none) (hclock : 1 ≤ clock) (hraw : 1 ≤ raw)
    (hwithin : raw.toNat ≤ highest.toNat) :
    exists divisor, chain.fit clock raw = .ok divisor ∧ divisor.primary = 1 ∧
      divisor.raw = raw ∧ divisor.ratio = raw ∧
      divisor.frequency.toNat = clock.toNat / raw.toNat := by
  have hpositive := UInt64.le_iff_toNat_le.mp hraw
  rw [UInt64.toNat_one] at hpositive
  have hhighest : 1 ≤ highest := UInt32.le_iff_toNat_le.mpr (Nat.le_trans hpositive hwithin)
  have hallowed : chain.forbidden ≠ some (chain.picked raw) := by
    rw [hnone]
    exact nofun
  have hprimary := hgraded.primaryFor_eq_one hone hwithin
  have hsecondary : (chain.picked raw).2.toNat = raw.toNat := by
    rw [hgraded.toNat_picked_snd hhighest, hprimary, UInt32.toNat_one, roundHalfUp_one,
      Nat.min_eq_right hwithin, Nat.max_eq_right hpositive]
  rcases hgraded.fit_of_allowed hhighest hclock hraw hallowed with ⟨divisor, hfit, hfirst, hsecond⟩
  rcases legal_of_fit (fun _ => hgraded.primaryFor_ne_zero raw) hfit with ⟨_, hkept, _, _⟩
  have hone' : divisor.primary = 1 := hfirst.trans hprimary
  have hratio : divisor.ratio = raw := by
    rw [← UInt64.toNat_inj, Divisor.toNat_ratio, hone', UInt32.toNat_one, Nat.one_mul, hsecond,
      hsecondary]
  refine ⟨divisor, hfit, hone', hkept, hratio, ?_⟩
  rw [(hgraded.readback_of_fit hfit).right, hratio]

end Graded

end Chain

/-!
# Frequencies of the CCP family
-/

theorem Rate.toNat_cycles_hertz (clock hertz : UInt32) :
    (Rate.cycles clock (.hertz hertz)).toNat = clock.toNat / hertz.toNat := by
  simp only [cycles, UInt64.toNat_div, UInt32.toNat_toUInt64]

namespace Family

/-- A frequency up to the clock is solved by the rounded down quotient of the two. -/
theorem exists_exact_ccp {clock hertz : UInt32} (hone : 1 ≤ hertz) (hle : hertz ≤ clock) :
    exists divisor, Family.ccp.solve clock (.hertz hertz) = .ok divisor ∧ divisor.primary = 1 ∧
      divisor.ratio = divisor.raw ∧ divisor.raw.toNat = clock.toNat / hertz.toNat ∧
      divisor.frequency.toNat = clock.toNat / divisor.raw.toNat := by
  have hpos := UInt32.le_iff_toNat_le.mp hone
  have hwhole := UInt32.le_iff_toNat_le.mp hle
  rw [UInt32.toNat_one] at hpos
  have hcycles := Rate.toNat_cycles_hertz clock hertz
  have hraw : 1 ≤ Rate.cycles clock (.hertz hertz) := by
    rw [UInt64.le_iff_toNat_le, UInt64.toNat_one, hcycles]
    exact Nat.div_pos hwhole hpos
  have hwithin : (Rate.cycles clock (.hertz hertz)).toNat ≤ (4294967295 : UInt32).toNat := by
    rw [hcycles]
    exact Nat.le_trans (Nat.div_le_self _ _) (Nat.le_of_lt_succ clock.toNat_lt)
  have hrate : Rate.rawRatio (.hertz hertz) clock = .ok (Rate.cycles clock (.hertz hertz)) := by
    apply Rate.rawRatio_eq_ok_iff.mpr
    refine ⟨?_, ?_, ?_, rfl⟩
    · rintro rfl
      cases hpos
    · rintro rfl
      cases Nat.le_trans hpos hwhole
    · intro hzero
      rw [hzero] at hraw
      cases UInt64.le_iff_toNat_le.mp hraw
  rcases Chain.rising_ccp.exists_exact_fit List.mem_cons_self rfl (UInt32.le_trans hone hle) hraw
    hwithin with ⟨divisor, hfit, hprimary, hkept, hratio, hfrequency⟩
  refine ⟨divisor, Chain.solve_eq_ok_iff.mpr ⟨_, hrate, hfit⟩, hprimary, ?_, ?_, ?_⟩
  · exact hratio.trans hkept.symm
  · exact (congrArg UInt64.toNat hkept).trans hcycles
  · rw [hkept]
    exact hfrequency

/-- A frequency up to the clock is divided by the rounded down quotient of the two.  What is
achieved is not below the request, every larger ratio falls below it, and whatever pair of ratios
does not fall below it achieves as much at least.  Asking for what was achieved achieves it
again. -/
theorem ccp_achieves_lowest_frequency {clock hertz : UInt32} (hone : 1 ≤ hertz)
    (hle : hertz ≤ clock) :
    exists divisor, Family.ccp.solve clock (.hertz hertz) = .ok divisor ∧
      divisor.primary = 1 ∧ divisor.ratio = divisor.raw ∧
      divisor.raw.toNat = clock.toNat / hertz.toNat ∧
      hertz ≤ divisor.frequency ∧
      (forall ratio : Nat, divisor.raw.toNat < ratio -> clock.toNat / ratio < hertz.toNat) ∧
      (forall primary secondary, hertz ≤ dividedClock primary secondary clock ->
        divisor.frequency ≤ dividedClock primary secondary clock) ∧
      exists again, Family.ccp.solve clock (.hertz divisor.frequency) = .ok again ∧
        again.frequency = divisor.frequency := by
  have hpos := UInt32.le_iff_toNat_le.mp hone
  have hwhole := UInt32.le_iff_toNat_le.mp hle
  rw [UInt32.toNat_one] at hpos
  rcases exists_exact_ccp hone hle with ⟨divisor, hsolved, hprimary, hratio, hraw, hfrequency⟩
  rw [hraw] at hfrequency
  have hreached : hertz ≤ divisor.frequency := by
    rw [UInt32.le_iff_toNat_le, hfrequency]
    exact le_div_div hpos hwhole
  have hbelow : divisor.frequency ≤ clock := by
    rw [UInt32.le_iff_toNat_le, hfrequency]
    exact Nat.div_le_self _ _
  have hfalls : forall ratio : Nat, divisor.raw.toNat < ratio ->
      clock.toNat / ratio < hertz.toNat := by
    intro ratio hlarger
    rw [hraw] at hlarger
    exact div_lt_of_div_lt hpos hlarger
  refine ⟨divisor, hsolved, hprimary, hratio, hraw, hreached, hfalls, ?_, ?_⟩
  · intro primary secondary hattained
    rw [UInt32.le_iff_toNat_le, toNat_dividedClock] at hattained ⊢
    rw [hfrequency, ← hraw]
    -- a ratio that reaches the request is not larger than the quotient, and it is not zero
    have hmost : primary.toNat * secondary.toNat ≤ divisor.raw.toNat :=
      Nat.not_lt.mp fun hlarger => Nat.not_lt.mpr hattained (hfalls _ hlarger)
    have hnonzero : 0 < primary.toNat * secondary.toNat := by
      rw [Nat.pos_iff_ne_zero]
      intro hzero
      rw [hzero, Nat.div_zero] at hattained
      exact absurd hpos (Nat.not_lt.mpr hattained)
    exact Nat.div_le_div_left hmost hnonzero
  · rcases exists_exact_ccp (UInt32.le_trans hone hreached) hbelow with
      ⟨again, hsolved', _, _, hraw', hfrequency'⟩
    refine ⟨again, hsolved', ?_⟩
    have hsame : again.raw.toNat = clock.toNat / hertz.toNat := by
      rw [hraw', hfrequency]
      exact div_div_div hpos hwhole
    rw [← UInt32.toNat_inj, hfrequency', hsame, hfrequency]

/-- Four hertz do not divide a clock of ten: the ratio two gives five hertz, three would give
three. -/
theorem ccp_achieves_lowest_frequency_of_four_hertz :
    exists divisor, Family.ccp.solve 10 (.hertz 4) = .ok divisor ∧
      divisor.ratio.toNat = 2 ∧ 4 ≤ divisor.frequency ∧
      exists again, Family.ccp.solve 10 (.hertz divisor.frequency) = .ok again ∧
        again.frequency = divisor.frequency := by
  have hone : (1 : UInt32) ≤ 4 := by decide
  have hle : (4 : UInt32) ≤ 10 := by decide
  rcases ccp_achieves_lowest_frequency hone hle with
    ⟨divisor, hsolved, _, hratio, hraw, hreached, _, _, hagain⟩
  rw [← hratio] at hraw
  exact ⟨divisor, hsolved, hraw, hreached, hagain⟩

end Family
end PeripheralBank
