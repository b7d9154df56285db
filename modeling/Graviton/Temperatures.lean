/-
  Graviton.Temperatures — which temperatures the over-temperature checks see.

  Both kinds of sensor are read as unsigned numbers. An LM20 below 0 degC is above 1866 mV:
  the difference in `lm20_conv_mv_degc` wraps, and the check sees millions of degrees. A
  negative TEMP_DATA loses its sign in `read_temperature` and reads 256 degrees or more. So
  the checks are exact from 0 degrees up, and trip at every temperature below
  (`over_temperature_iff`).
-/
import Graviton.Items
import Graviton.Readings

namespace Graviton

open Effects Exact

/-! ## The LM20 -/

/-- An LM20 that `safety_check` watches: its item, where it is, its limit. -/
structure Lm20 where
  item : UInt16
  chip : Afe
  channel : AdcChannel
  limit : Int32
  deriving DecidableEq

def lm20Sensors : List Lm20 :=
  [⟨9, .afe0, gravAdcAdcTemp, 70⟩, ⟨10, .afeA, gravAdcTPreRx, 70⟩, ⟨11, .afeA, gravAdcTLdo, 70⟩,
    ⟨12, .afeA, gravAdcTPa, 90⟩, ⟨13, .afeA, gravAdcTPreTx2, 70⟩, ⟨14, .afeA, gravAdcTPreTx3, 70⟩,
    ⟨16, .afeB, gravAdcTPreRx, 70⟩, ⟨17, .afeB, gravAdcTLdo, 70⟩, ⟨18, .afeB, gravAdcTPa, 90⟩,
    ⟨19, .afeB, gravAdcTPreTx2, 70⟩, ⟨20, .afeB, gravAdcTPreTx3, 70⟩]

/-- A call of `safety_check` on the sensor's item that reads `r`. -/
def Lm20.Reads (s : Lm20) (r : UInt16) (env : Env) (w : World) : Prop :=
  Graviton.Reads s.item s.chip (Amc7891.adcData s.channel) r env w

/-- The millivolts of a register. -/
def lm20Mv (r : UInt16) : Nat := (mvOf r .gain1x).toNat

/-- The temperature the formula gives, truncated towards zero. -/
def lm20Degrees (r : UInt16) : Int := (186630 - 100 * (lm20Mv r : Int)).tdiv 1169

/-- The item is too hot. -/
def Lm20.Hot (s : Lm20) (r : UInt16) : Prop := s.limit.toInt < lm20Degrees r

theorem lm20_item {s : Lm20} (hs : s ∈ lm20Sensors) :
    (∃ reason reason2, item s.item.toNat = some (lm20Item s.chip s.channel s.limit reason reason2)) ∧
      (s.limit.toInt = 70 ∨ s.limit.toInt = 90) := by
  simp only [lm20Sensors, List.mem_cons, List.not_mem_nil, or_false] at hs
  rcases hs with rfl | rfl | rfl | rfl | rfl | rfl | rfl | rfl | rfl | rfl | rfl <;>
    exact ⟨⟨_, _, rfl⟩, by decide⟩

theorem above_iff {limit v : Int32} : above limit v = true ↔ limit.toInt < v.toInt := by
  unfold above
  rw [decide_eq_true_iff, Int32.lt_iff_toInt_lt]

variable {env : Env} {w : World}

/-- Up to 1866 mV the check is exact, above it always trips. -/
theorem lm20_resets {s : Lm20} (hs : s ∈ lm20Sensors) {r : UInt16} (h : s.Reads r env w) :
    Resets (safetyCheck s.item) env w ↔ s.Hot r ∨ 1866 < lm20Mv r := by
  obtain ⟨⟨reason, reason2, hi⟩, hlimit⟩ := lm20_item hs
  have hle : (mvOf r .gain1x).toNat ≤ 319995 := mvOf_le r .gain1x
  have hread : (lm20Sensor s.chip s.channel).value env w = (lm20ConvMvDegc (mvOf r .gain1x)).toInt32 := by
    rw [← h.register]
    rfl
  rw [item_resets env h.idle hi h.enabled]
  show above s.limit ((lm20Sensor s.chip s.channel).value env w) = true ↔ _
  rw [hread, above_iff]
  unfold Lm20.Hot lm20Degrees lm20Mv
  by_cases hw : (mvOf r .gain1x).toNat ≤ 1866
  · have hv := lm20_warm hw
    rw [toInt_toInt32_of_lt (by omega), hv, Int.tdiv_eq_ediv_of_nonneg (by omega)]
    omega
  · have hv := lm20_cold (by omega) hle
    rw [toInt_toInt32_of_lt (by omega), hv]
    omega

/-- Where the check is exact it is monotone: what trips, trips when hotter. -/
theorem lm20_monotone {s : Lm20} (hs : s ∈ lm20Sensors) {r r' : UInt16} {env' : Env} {w' : World}
    (h : s.Reads r env w) (h' : s.Reads r' env' w') (hr : lm20Mv r ≤ 1866) (hle : lm20Mv r' ≤ lm20Mv r)
    (ht : Resets (safetyCheck s.item) env w) : Resets (safetyCheck s.item) env' w' := by
  rw [lm20_resets hs h] at ht
  rw [lm20_resets hs h']
  rcases ht with ht | ht
  · left
    unfold Lm20.Hot lm20Degrees at ht ⊢
    rw [Int.tdiv_eq_ediv_of_nonneg (by omega)] at ht ⊢
    omega
  · omega

/-! ## TEMP_DATA -/

/-- The items of the chips' own temperatures. -/
def tempItem : Afe → UInt16
  | .afeA => 6
  | .afeB => 7
  | .afe0 => 8

/-- A 12-bit two's complement number. -/
def signed12 (r : UInt16) : Int := if r.toNat < 2048 then r.toNat else r.toNat - 4096

theorem temp_item (c : Afe) : ∃ reason reason2, item (tempItem c).toNat = some (chipItem c reason reason2) := by
  cases c <;> exact ⟨_, _, rfl⟩

theorem temp_resets (c : Afe) {r : UInt16} (h : Reads (tempItem c) c amcTempData r env w) :
    Resets (safetyCheck (tempItem c)) env w ↔ 60 < r.toNat / 8 := by
  obtain ⟨reason, reason2, hi⟩ := temp_item c
  have hread : (tempSensor c).value env w = (r / 8).toUInt32.toInt32 := by
    rw [← h.register]
    rfl
  have hlt := r.toNat_lt
  have hv : (r / 8).toUInt32.toNat = r.toNat / 8 := by rw [UInt16.toNat_toUInt32, UInt16.toNat_div]; rfl
  rw [item_resets env h.idle hi h.enabled]
  show above 60 ((tempSensor c).value env w) = true ↔ _
  rw [hread, above_iff, toInt_toInt32_of_lt (by omega), hv]
  show (60 : Int) < _ ↔ _
  omega

/-! ## Over-temperature -/

/-- Each LM20 is judged rightly, and monotonely, exactly up to 1866 mV; each chip's own
    temperature exactly when it is not negative. -/
theorem over_temperature_iff (r : UInt16) (env : Env) (w : World) :
    (∀ s ∈ lm20Sensors, s.Reads r env w →
      ((Resets (safetyCheck s.item) env w ↔ s.Hot r) ∧
          (Resets (safetyCheck s.item) env w → ∀ r' env' w', s.Reads r' env' w' → lm20Mv r' ≤ lm20Mv r →
            Resets (safetyCheck s.item) env' w') ↔
        lm20Mv r ≤ 1866)) ∧
    ∀ c, r.toNat < 4096 → Reads (tempItem c) c amcTempData r env w →
      ((Resets (safetyCheck (tempItem c)) env w ↔ 60 < (signed12 r).tdiv 8) ↔ r.toNat < 2048) := by
  constructor
  · intro s hs h
    constructor
    · rintro ⟨hiff, _⟩
      by_contra hcold
      have ht := hiff.mp ((lm20_resets hs h).mpr (Or.inr (by omega)))
      -- past 1866 mV the formula gives no positive temperature
      have hneg : lm20Degrees r ≤ 0 := by
        unfold lm20Degrees
        rw [← Int.neg_sub, Int.neg_tdiv, Int.tdiv_eq_ediv_of_nonneg (by omega)]
        omega
      obtain ⟨_, hlimit⟩ := lm20_item hs
      unfold Lm20.Hot at ht
      omega
    · intro hr
      refine ⟨?_, fun ht r' env' w' h' hle => lm20_monotone hs h h' hr hle ht⟩
      rw [lm20_resets hs h]
      constructor
      · rintro (ht | ht)
        · exact ht
        · omega
      · exact Or.inl
  · intro c hr h
    rw [temp_resets c h]
    unfold signed12
    by_cases hs : r.toNat < 2048
    · rw [if_pos hs, Int.tdiv_eq_ediv_of_nonneg (by omega)]
      omega
    · rw [if_neg hs]
      have hneg : ((r.toNat : Int) - 4096).tdiv 8 ≤ 0 := by
        rw [← Int.neg_sub, Int.neg_tdiv, Int.tdiv_eq_ediv_of_nonneg (by omega)]
        omega
      omega

/-- The ADC's sensor at 1499 mV is at 31 degrees and passes. -/
theorem over_temperature_room : ¬ Resets (safetyCheck 9) (steadyEnv 614) idleWorld := by
  have h : Lm20.Reads ⟨9, .afe0, gravAdcAdcTemp, 70⟩ 614 (steadyEnv 614) idleWorld := steady_reads 9 (by decide) _ _ _
  have hiff := (((over_temperature_iff 614 _ _).1 _ (by decide) h).mpr (by decide)).1
  intro hr
  exact absurd (hiff.mp hr) (by unfold Lm20.Hot; decide)

/-- At 1953 mV it is at -7 degrees, and the check takes it for too hot; so it does a chip
    at -1 degree. -/
theorem over_temperature_cold :
    (Lm20.Reads ⟨9, .afe0, gravAdcAdcTemp, 70⟩ 800 (steadyEnv 800) idleWorld ∧
      Resets (safetyCheck 9) (steadyEnv 800) idleWorld ∧ lm20Degrees 800 = -7) ∧
    (Reads 8 .afe0 amcTempData 0xFF8 (steadyEnv 0xFF8) idleWorld ∧
      Resets (safetyCheck 8) (steadyEnv 0xFF8) idleWorld ∧ (signed12 0xFF8).tdiv 8 = -1) := by
  have h9 : Lm20.Reads ⟨9, .afe0, gravAdcAdcTemp, 70⟩ 800 (steadyEnv 800) idleWorld := steady_reads 9 (by decide) _ _ _
  have h8 := steady_reads 8 (by decide) .afe0 amcTempData 0xFF8
  exact ⟨⟨h9, (lm20_resets (by decide) h9).mpr (by unfold Lm20.Hot; decide), by decide⟩,
    h8, (temp_resets .afe0 h8).mpr (by decide), by decide⟩

end Graviton
