/-
  Graviton.Rails — which failures of a supply rail the monitor sees.

  The ADC saturates at 1023 counts, so a pin above 2497 mV (4995 mV at GAIN_2X) reads like
  one at that voltage. Two upper limits of `safety_check` lie beyond what such a reading can
  become, the one of the 2.5 V rail and the one of the -5.5 V rail: they never trip.
  `rail_monitor_iff` says that every other failure by more than 100 mV is seen.
-/
import Mathlib.Tactic.Linarith
import Graviton.Items
import Graviton.Readings

namespace Graviton

open Effects Exact

/-! ## The ADC -/

/-- The register of a saturating 10-bit ADC with `p` mV at its pin. -/
def adcRegister (p : Nat) (gain : Gain) : UInt16 := UInt16.ofNat (min 1023 (p * 1024 * gain.code.toNat / 5000))

/-- `get_mv` of that register. -/
def pinMv (p : Nat) (gain : Gain) : UInt32 := mvOf (adcRegister p gain) gain

theorem pinMv_le (p : Nat) (gain : Gain) : (pinMv p gain).toNat ≤ 319995 := mvOf_le _ _

theorem pinMv_toNat (p : Nat) (gain : Gain) :
    (pinMv p gain).toNat = min 1023 (p * 1024 * gain.code.toNat / 5000) * 5000 / 1024 / gain.code.toNat := by
  unfold pinMv adcRegister
  rw [mvOf_toNat, UInt16.toNat_ofNat_of_lt' (by simp only [UInt16.size]; omega)]

/-- At GAIN_1X: never above the pin, within 3 mV of it up to 2497 mV, and there it stays. -/
theorem pinMv_1x (p : Nat) : (pinMv p .gain1x).toNat ≤ p ∧ (p ≤ 2497 → p ≤ (pinMv p .gain1x).toNat + 3) ∧
    (2498 ≤ p → (pinMv p .gain1x).toNat = 2497) := by
  rw [pinMv_toNat, show Gain.gain1x.code.toNat = 2 from rfl]
  omega

/-- At GAIN_2X: within 5 mV up to 4995 mV. -/
theorem pinMv_2x (p : Nat) : (pinMv p .gain2x).toNat ≤ p ∧ (p ≤ 4995 → p ≤ (pinMv p .gain2x).toNat + 5) ∧
    (4996 ≤ p → (pinMv p .gain2x).toNat = 4995) := by
  rw [pinMv_toNat, show Gain.gain2x.code.toNat = 1 from rfl]
  omega

/-! ## The rails -/

inductive Rail where
  | v2v5
  | v1v8
  | v3v8
  | v5v5
  | v5v5n
  | v29
  deriving DecidableEq, Repr

namespace Rail

def item : Rail → UInt16
  | v2v5 => 0
  | v1v8 => 1
  | v3v8 => 2
  | v5v5 => 3
  | v5v5n => 4
  | v29 => 5

def channel : Rail → AdcChannel
  | v2v5 => gravAdcV2v5
  | v1v8 => gravAdcV1v8
  | v3v8 => gravAdcV3v8
  | v5v5 => gravAdcV5v5
  | v5v5n => gravAdcV5v5n
  | v29 => gravAdcV29

def gain : Rail → Gain
  | v3v8 => .gain2x
  | _ => .gain1x

/-- What the rail's macro makes of the millivolts at its pin. -/
def convert : Rail → UInt32 → Int32
  | v5v5, mv => (convMvV5v5 mv).toInt32
  | v5v5n, mv => convMvV5v5n mv
  | v29, mv => (convMvV29 mv).toInt32
  | _, mv => mv.toInt32

/-- The hard limits. -/
def lower : Rail → Int
  | v2v5 => 1500
  | v1v8 => 1700
  | v3v8 => 3100
  | v5v5 => 4250
  | v5v5n => -7600
  | v29 => 28000

def upper : Rail → Int
  | v2v5 => 2600
  | v1v8 => 1900
  | v3v8 => 4000
  | v5v5 => 5750
  | v5v5n => -5350
  | v29 => 29500

/-- The value below which the monitor counts violations, or resets at once. -/
def tolerated : Rail → Int
  | v3v8 => 3150
  | v5v5 => 4300
  | v5v5n => -7500
  | r => r.lower

/-- The rail, in mV, when its pin is at `p` mV. -/
def actual : Rail → Nat → ℚ
  | v5v5, p => 880 * p / 200
  | v5v5n, p => (22 * p - 85000) / 5
  | v29, p => 533 * p / 23
  | _, p => p

/-- The rail is more than 100 mV outside its hard limits. -/
def Failed (r : Rail) (p : Nat) : Prop := r.actual p < r.lower - 100 ∨ r.upper + 100 < r.actual p

/-- The failures beyond what the ADC can show. -/
def Unseen (r : Rail) (p : Nat) : Prop := r = v2v5 ∧ 2700 < p ∨ r = v5v5n ∧ 2670 < p

end Rail

/-! ## Its checks -/

/-- The limits are the firmware's, whatever the violation counters. -/
def Limits (w : World) : Prop := ∀ q, ∃ v, w.mem.soft q = { resetMem.soft q with violations := v }

section

variable {env : Env} {w : World} {lo hi v : Int32}

theorem outside_iff : outside lo hi v = true ↔ v.toInt < lo.toInt ∨ hi.toInt < v.toInt := by
  unfold outside
  rw [Bool.or_eq_true, decide_eq_true_iff, decide_eq_true_iff, gt_iff_lt, Int32.lt_iff_toInt_lt, Int32.lt_iff_toInt_lt]

theorem broken_of_outside {t : SoftBottomTolerance} (h : v.toInt < t.lowerHard.toInt ∨ t.upperHard.toInt < v.toInt) :
    t.Broken v := by
  rw [← Int32.lt_iff_toInt_lt, ← Int32.lt_iff_toInt_lt] at h
  exact Or.inl h

theorem not_broken {t : SoftBottomTolerance} (hl : t.lowerHard.toInt ≤ v.toInt) (hu : v.toInt ≤ t.upperHard.toInt)
    (ht : t.lowerTol.toInt ≤ v.toInt) : ¬ t.Broken v := by
  unfold SoftBottomTolerance.Broken
  rw [gt_iff_lt, gt_iff_lt, Int32.lt_iff_toInt_lt, Int32.lt_iff_toInt_lt, Int32.lt_iff_toInt_lt]
  rintro ((h | h) | ⟨h, _⟩) <;> omega

/-- A limit is broken outside the rail's hard limits, and not within them from the tolerated
    value up. -/
def Rail.Judged (r : Rail) (w : World) (limit : Limit) : Prop := ∀ v : Int32,
  (v.toInt < r.lower ∨ r.upper < v.toInt → limit.Broken w.mem.soft v) ∧
    (r.tolerated ≤ v.toInt → v.toInt ≤ r.upper → ¬ limit.Broken w.mem.soft v)

/-- The limits of items 0, 1 and 5. -/
theorem judged_hard {r : Rail} {reason reason2 : String} (hlo : lo.toInt = r.lower) (hhi : hi.toInt = r.upper)
    (ht : r.tolerated = r.lower) : r.Judged w (.hard (outside lo hi) reason reason2) := by
  intro v
  show (_ → outside lo hi v = true) ∧ (_ → _ → ¬ outside lo hi v = true)
  rw [outside_iff, hlo, hhi, ht]
  refine ⟨id, fun h1 h2 => ?_⟩
  rintro (h | h) <;> omega

/-- The limits of items 2, 3 and 4. -/
theorem judged_soft {r : Rail} {q : SoftRail} (hl : Limits w) (hlo : (resetMem.soft q).lowerHard.toInt = r.lower)
    (hhi : (resetMem.soft q).upperHard.toInt = r.upper) (ht : (resetMem.soft q).lowerTol.toInt = r.tolerated)
    (hle : r.lower ≤ r.tolerated) : r.Judged w (.soft q) := by
  intro v
  obtain ⟨n, hq⟩ := hl q
  show (_ → (w.mem.soft q).Broken v) ∧ (_ → _ → ¬ (w.mem.soft q).Broken v)
  rw [hq]
  constructor
  · intro h
    rw [← hlo, ← hhi] at h
    exact broken_of_outside h
  · intro h1 h2
    exact not_broken (by show (resetMem.soft q).lowerHard.toInt ≤ _; omega)
      (by show _ ≤ (resetMem.soft q).upperHard.toInt; omega) (by show (resetMem.soft q).lowerTol.toInt ≤ _; omega)

/-- A rail is an item of the checklist: its pin, read and converted, against its limits. -/
theorem rail_item (r : Rail) (hl : Limits w) :
    ∃ limit, item r.item.toNat = some ⟨adcSensor .afe0 r.channel r.gain r.convert, limit⟩ ∧ r.Judged w limit := by
  cases r with
  | v2v5 => exact ⟨_, rfl, judged_hard (by decide) (by decide) rfl⟩
  | v1v8 => exact ⟨_, rfl, judged_hard (by decide) (by decide) rfl⟩
  | v3v8 => exact ⟨_, rfl, judged_soft hl (by decide) (by decide) (by decide) (by decide)⟩
  | v5v5 => exact ⟨_, rfl, judged_soft hl (by decide) (by decide) (by decide) (by decide)⟩
  | v5v5n => exact ⟨_, rfl, judged_soft hl (by decide) (by decide) (by decide) (by decide)⟩
  | v29 => exact ⟨_, rfl, judged_hard (by decide) (by decide) rfl⟩

/-- A value outside the hard limits resets; one within them and not below the tolerated
    value does not. -/
theorem rail_resets (r : Rail) {x : UInt16} (h : Reads r.item .afe0 (Amc7891.adcData r.channel) x env w)
    (hl : Limits w) :
    ((r.convert (mvOf x r.gain)).toInt < r.lower ∨ r.upper < (r.convert (mvOf x r.gain)).toInt →
        Resets (safetyCheck r.item) env w) ∧
      (r.tolerated ≤ (r.convert (mvOf x r.gain)).toInt → (r.convert (mvOf x r.gain)).toInt ≤ r.upper →
        ¬ Resets (safetyCheck r.item) env w) := by
  obtain ⟨limit, hi, hj⟩ := rail_item r hl
  rw [item_resets env h.idle hi h.enabled, ← h.register]
  exact hj _

end

/-! ## Failures -/

namespace Rail

/-- The pin voltages between which the rail is within 100 mV of its limits. -/
def lowPin : Rail → Nat
  | v2v5 => 1400
  | v1v8 => 1600
  | v3v8 => 3000
  | v5v5 => 944
  | v5v5n => 2114
  | v29 => 1204

def highPin : Rail → Nat
  | v2v5 => 2700
  | v1v8 => 2000
  | v3v8 => 4100
  | v5v5 => 1329
  | v5v5n => 2670
  | v29 => 1277

end Rail

/-- A quotient against a limit, in whole numbers. -/
theorem ratio_lt_iff {n k : Int} {d : Nat} (hd : 0 < d) : (n : ℚ) / d < k ↔ n < k * d := by
  rw [div_lt_iff₀ (by exact_mod_cast hd)]
  exact_mod_cast Iff.rfl

theorem lt_ratio_iff {n k : Int} {d : Nat} (hd : 0 < d) : (k : ℚ) < n / d ↔ k * d < n := by
  rw [lt_div_iff₀ (by exact_mod_cast hd)]
  exact_mod_cast Iff.rfl

/-- The rail of each pin voltage as one quotient. -/
theorem actual_ratio (r : Rail) (p : Nat) : ∃ (n : Int) (d : Nat), 0 < d ∧ r.actual p = n / d ∧
    (n < (r.lower - 100) * d ↔ p < r.lowPin) ∧ ((r.upper + 100) * d < n ↔ r.highPin < p) := by
  cases r with
  | v5v5 => exact ⟨880 * p, 200, by decide, by push_cast; rfl, by simp only [Rail.lower, Rail.lowPin]; omega,
      by simp only [Rail.upper, Rail.highPin]; omega⟩
  | v5v5n => exact ⟨22 * p - 85000, 5, by decide, by push_cast; rfl, by simp only [Rail.lower, Rail.lowPin]; omega,
      by simp only [Rail.upper, Rail.highPin]; omega⟩
  | v29 => exact ⟨533 * p, 23, by decide, by push_cast; rfl, by simp only [Rail.lower, Rail.lowPin]; omega,
      by simp only [Rail.upper, Rail.highPin]; omega⟩
  | v2v5 | v1v8 | v3v8 => exact ⟨p, 1, by decide, by push_cast; exact (div_one _).symm,
      by simp only [Rail.lower, Rail.lowPin]; omega, by simp only [Rail.upper, Rail.highPin]; omega⟩

theorem failed_iff (r : Rail) (p : Nat) : r.Failed p ↔ p < r.lowPin ∨ r.highPin < p := by
  obtain ⟨n, d, hd, ha, hlow, hhigh⟩ := actual_ratio r p
  have h1 := ratio_lt_iff (n := n) (k := r.lower - 100) hd
  have h2 := lt_ratio_iff (n := n) (k := r.upper + 100) hd
  push_cast at h1 h2
  unfold Rail.Failed
  rw [ha, h1, h2, hlow, hhigh]

/-- The value of each rail, as a number. -/
theorem convert_toInt (r : Rail) {mv : UInt32} (h : mv.toNat ≤ 319995) :
    (r.convert mv).toInt = match r with
      | .v5v5 => ((mv.toNat * 880 / 200 : Nat) : Int)
      | .v5v5n => (22 * (mv.toNat : Int) - 85000).tdiv 5
      | .v29 => ((mv.toNat * 533 / 23 : Nat) : Int)
      | _ => mv.toNat := by
  cases r with
  | v5v5 =>
    show (convMvV5v5 mv).toInt32.toInt = _
    rw [toInt_toInt32_of_lt (by rw [convMvV5v5_toNat h]; omega), convMvV5v5_toNat h]
  | v5v5n => exact convMvV5v5n_toInt h
  | v29 =>
    show (convMvV29 mv).toInt32.toInt = _
    rw [toInt_toInt32_of_lt (by rw [convMvV29_toNat h]; omega), convMvV29_toNat h]
  | v2v5 | v1v8 | v3v8 => exact toInt_toInt32_of_lt (by omega)

/-- A failure the ADC can show takes the value out of the hard limits. -/
theorem seen_outside (r : Rail) (p : Nat) (hf : r.Failed p) (hs : ¬ r.Unseen p) :
    (r.convert (pinMv p r.gain)).toInt < r.lower ∨ r.upper < (r.convert (pinMv p r.gain)).toInt := by
  rw [convert_toInt r (pinMv_le p r.gain)]
  rw [failed_iff] at hf
  have h1 := pinMv_1x p
  have h2 := pinMv_2x p
  cases r with
  | v2v5 =>
    have hp : p ≤ 2700 := by
      by_contra hp
      exact hs (Or.inl ⟨rfl, by omega⟩)
    simp only [Rail.lowPin, Rail.highPin, Rail.lower, Rail.upper, Rail.gain] at *
    omega
  | v5v5n =>
    have hp : p ≤ 2670 := by
      by_contra hp
      exact hs (Or.inr ⟨rfl, by omega⟩)
    have hneg : (22 * ((pinMv p .gain1x).toNat : Int) - 85000).tdiv 5 =
        -((85000 - 22 * ((pinMv p .gain1x).toNat : Int)) / 5) := by
      rw [← Int.neg_sub 85000, Int.neg_tdiv, Int.tdiv_eq_ediv_of_nonneg (by omega)]
    simp only [Rail.lowPin, Rail.highPin, Rail.lower, Rail.upper, Rail.gain] at *
    omega
  | v1v8 | v3v8 | v5v5 | v29 =>
    simp only [Rail.lowPin, Rail.highPin, Rail.lower, Rail.upper, Rail.gain] at *
    omega

/-- The others leave it within them. -/
theorem unseen_within (r : Rail) (p : Nat) (hs : r.Unseen p) :
    r.tolerated ≤ (r.convert (pinMv p r.gain)).toInt ∧ (r.convert (pinMv p r.gain)).toInt ≤ r.upper := by
  rw [convert_toInt r (pinMv_le p r.gain)]
  obtain ⟨_, _, h⟩ := pinMv_1x p
  rcases hs with ⟨rfl, hp⟩ | ⟨rfl, hp⟩
  · show 1500 ≤ ((pinMv p .gain1x).toNat : Int) ∧ ((pinMv p .gain1x).toNat : Int) ≤ 2600
    omega
  · show -7500 ≤ (22 * ((pinMv p .gain1x).toNat : Int) - 85000).tdiv 5 ∧
      (22 * ((pinMv p .gain1x).toNat : Int) - 85000).tdiv 5 ≤ -5350
    rw [h (by omega)]
    decide

theorem unseen_failed (r : Rail) (p : Nat) (hs : r.Unseen p) : r.Failed p := by
  rw [failed_iff]
  rcases hs with ⟨rfl, hp⟩ | ⟨rfl, hp⟩ <;> exact Or.inr hp

/-- A failure of a rail resets exactly if it is not the 2.5 V rail above 2700 mV or the
    -5.5 V rail with its pin above 2670 mV. -/
theorem rail_monitor_iff (r : Rail) (p : Nat) {env : Env} {w : World}
    (h : Reads r.item .afe0 (Amc7891.adcData r.channel) (adcRegister p r.gain) env w) (hl : Limits w) :
    (r.Failed p → Resets (safetyCheck r.item) env w) ↔ ¬ r.Unseen p := by
  obtain ⟨hout, hin⟩ := rail_resets r h hl
  constructor
  · intro hmon hs
    obtain ⟨hlow, hup⟩ := unseen_within r p hs
    exact hin hlow hup (hmon (unseen_failed r p hs))
  · intro hs hf
    exact hout (seen_outside r p hf hs)

theorem reset_limits : Limits idleWorld := fun q => ⟨(resetMem.soft q).violations, rfl⟩

/-- The 1.8 V rail at 2.5 V is seen. -/
theorem rail_monitor_v1v8 :
    Resets (safetyCheck 1) (steadyEnv (adcRegister 2500 .gain1x)) idleWorld :=
  (rail_monitor_iff .v1v8 2500 (steady_reads 1 (by decide) _ _ _) reset_limits).mpr (by unfold Rail.Unseen; decide)
    ((failed_iff _ _).mpr (by decide))

/-- The 2.5 V rail at 3 V and the -5.5 V rail at -5 V are not. -/
theorem rail_monitor_blind :
    (Rail.v2v5.Failed 3000 ∧ Reads 0 .afe0 (Amc7891.adcData gravAdcV2v5) (adcRegister 3000 .gain1x)
        (steadyEnv (adcRegister 3000 .gain1x)) idleWorld ∧
      ¬ Resets (safetyCheck 0) (steadyEnv (adcRegister 3000 .gain1x)) idleWorld) ∧
    (Rail.v5v5n.Failed 2727 ∧ Reads 4 .afe0 (Amc7891.adcData gravAdcV5v5n) (adcRegister 2727 .gain1x)
        (steadyEnv (adcRegister 2727 .gain1x)) idleWorld ∧
      ¬ Resets (safetyCheck 4) (steadyEnv (adcRegister 2727 .gain1x)) idleWorld) := by
  have h0 := steady_reads 0 (by decide) .afe0 (Amc7891.adcData gravAdcV2v5) (adcRegister 3000 .gain1x)
  have h4 := steady_reads 4 (by decide) .afe0 (Amc7891.adcData gravAdcV5v5n) (adcRegister 2727 .gain1x)
  refine ⟨⟨(failed_iff _ _).mpr (by decide), h0, ?_⟩, (failed_iff _ _).mpr (by decide), h4, ?_⟩
  · exact (rail_resets .v2v5 h0 reset_limits).2 (by decide) (by decide)
  · exact (rail_resets .v5v5n h4 reset_limits).2 (by decide) (by decide)

end Graviton
