/-
  Graviton.GateVoltage — the two conversions between gate millivolts and DAC counts, as a
  pair.

  `conv_mv_to_dac_counts_for_vgg_circuit` clamps its argument before it negates it, so none
  of its operations leaves `int32_t`. Both directions round towards zero: there and back a
  voltage comes out at most 11 mV less negative than it was asked for, and counts come out
  one lower than they went in.
-/
import Graviton.Readings

namespace Graviton

open Exact

/-! ## The clamps -/

/-- The voltages the circuit is asked for. -/
def gateClamp (m : Int) : Int := max (-4900) (min m 0)

theorem gateClamp_range (m : Int) : -4900 ≤ gateClamp m ∧ gateClamp m ≤ 0 := by
  unfold gateClamp
  omega

theorem gateClamp_of_range {m : Int} (h1 : -4900 ≤ m) (h2 : m ≤ 0) : gateClamp m = m := by
  unfold gateClamp
  omega

theorem gateClamp_mono {m n : Int} (h : m ≤ n) : gateClamp m ≤ gateClamp n := by
  unfold gateClamp
  omega

/-- The two guards on the argument. -/
def gateGuards (mv : Int32) : Int32 :=
  let mv := if 0 < mv then 0 else mv
  if -4900 > mv then -4900 else mv

theorem gateGuards_toInt (mv : Int32) : (gateGuards mv).toInt = gateClamp mv.toInt := by
  have e4900 : (-4900 : Int32).toInt = -4900 := by decide
  have e0 : (0 : Int32).toInt = 0 := by decide
  unfold gateGuards gateClamp
  simp only [gt_iff_lt, Int32.lt_iff_toInt_lt, e4900, e0]
  by_cases h0 : 0 < mv.toInt
  · rw [if_pos h0, e0, if_neg (by omega), e0]
    omega
  · rw [if_neg h0]
    by_cases h1 : mv.toInt < -4900
    · rw [if_pos h1, e4900]
      omega
    · rw [if_neg h1]
      omega

/-- The guards let nothing through that they would change. -/
theorem vgg_guarded (mv : Int32) : convMvToDacCountsForVggCircuit mv = convMvToDacCountsForVggCircuit (gateGuards mv) := by
  have hg := gateGuards_toInt mv
  obtain ⟨hlo, hhi⟩ := gateClamp_range mv.toInt
  have e4900 : (-4900 : Int32).toInt = -4900 := by decide
  have e0 : (0 : Int32).toInt = 0 := by decide
  have h0 : ¬ (0 : Int32) < gateGuards mv := by rw [Int32.lt_iff_toInt_lt, e0, hg]; omega
  have h1 : ¬ (-4900 : Int32) > gateGuards mv := by rw [gt_iff_lt, Int32.lt_iff_toInt_lt, e4900, hg]; omega
  have hbody : ∀ a : Int32, convMvToDacCountsForVggCircuit a =
      (let opAmpOut := -(gateGuards a) / 2
       let opAmpOut := if 0 > opAmpOut then 0 else opAmpOut
       let opAmpOut := if 5000 < opAmpOut then 5000 else opAmpOut
       let out := ((1023 * opAmpOut) / 5000).toUInt32
       if 1023 < out then 1023 else out) := fun _ => rfl
  have hidem : gateGuards (gateGuards mv) = gateGuards mv := by
    show (let a := if 0 < gateGuards mv then 0 else gateGuards mv; if -4900 > a then -4900 else a) = gateGuards mv
    simp only [if_neg h0, if_neg h1]
  rw [hbody (gateGuards mv), hidem, hbody mv]

/-! ## Millivolts to counts -/

/-- The exact values of the function's operations in order; the last is its result. -/
def gateSteps (m : Int) : List Int :=
  [-m, (-m).tdiv 2, 1023 * (-m).tdiv 2, (1023 * (-m).tdiv 2).tdiv 5000]

theorem gateSteps_inRange {m : Int} (h1 : -4900 ≤ m) (h2 : m ≤ 0) :
    ∀ x ∈ gateSteps m, -2147483648 ≤ x ∧ x < 2147483648 := by
  have hd : (-m).tdiv 2 = -m / 2 := Int.tdiv_eq_ediv_of_nonneg (by omega)
  have hq : (1023 * (-m).tdiv 2).tdiv 5000 = 1023 * (-m / 2) / 5000 := by
    rw [hd, Int.tdiv_eq_ediv_of_nonneg (by omega)]
  simp only [gateSteps, List.forall_mem_cons, List.not_mem_nil, false_imp_iff, implies_true, and_true]
  rw [hq, hd]
  omega

/-- The counts of any voltage. -/
theorem vgg_counts_clamped (mv : Int32) :
    ((convMvToDacCountsForVggCircuit mv).toNat : Int) = 1023 * (-gateClamp mv.toInt / 2) / 5000 := by
  obtain ⟨hlo, hhi⟩ := gateClamp_range mv.toInt
  rw [vgg_guarded, vgg_counts (by rw [gateGuards_toInt]; exact hlo) (by rw [gateGuards_toInt]; exact hhi),
    gateGuards_toInt]
  omega

theorem vgg_counts_steps (mv : Int32) :
    (gateSteps (gateClamp mv.toInt)).getLast? = some ((convMvToDacCountsForVggCircuit mv).toNat : Int) := by
  obtain ⟨_, hhi⟩ := gateClamp_range mv.toInt
  have hd : (-gateClamp mv.toInt).tdiv 2 = -gateClamp mv.toInt / 2 := Int.tdiv_eq_ediv_of_nonneg (by omega)
  rw [vgg_counts_clamped]
  show some ((1023 * (-gateClamp mv.toInt).tdiv 2).tdiv 5000) = _
  rw [hd, Int.tdiv_eq_ediv_of_nonneg (by omega)]

theorem vgg_counts_le (mv : Int32) : (convMvToDacCountsForVggCircuit mv).toNat ≤ 501 := by
  have hc := vgg_counts_clamped mv
  obtain ⟨hlo, hhi⟩ := gateClamp_range mv.toInt
  omega

theorem vgg_counts_antitone {a b : Int32} (h : a ≤ b) :
    convMvToDacCountsForVggCircuit b ≤ convMvToDacCountsForVggCircuit a := by
  have ha := vgg_counts_clamped a
  have hb := vgg_counts_clamped b
  have hm := gateClamp_mono (Int32.le_iff_toInt_le.mp h)
  rw [UInt32.le_iff_toNat_le]
  omega

/-! ## There and back -/

/-- The voltage of counts in the DAC's range. -/
theorem vgg_mv_of_lt {n : UInt32} (h : n.toNat < 1024) :
    (convDacCountsToMvForVggCircuit n).toInt = -((n.toNat * 10000 / 1023 : Nat) : Int) := by
  rw [vgg_mv, Nat.mod_eq_of_lt h]

/-- The gate comes out at most 11 mV less negative than asked for, and never more. -/
theorem vgg_realised (mv : Int32) :
    gateClamp mv.toInt ≤ (convDacCountsToMvForVggCircuit (convMvToDacCountsForVggCircuit mv)).toInt ∧
      (convDacCountsToMvForVggCircuit (convMvToDacCountsForVggCircuit mv)).toInt ≤ gateClamp mv.toInt + 11 := by
  have hc := vgg_counts_clamped mv
  have hle := vgg_counts_le mv
  obtain ⟨hlo, hhi⟩ := gateClamp_range mv.toInt
  rw [vgg_mv_of_lt (by omega)]
  omega

/-- Counts lose one on the way to millivolts and back. -/
theorem vgg_roundtrip {counts : UInt32} (h : counts.toNat % 1024 ≤ 501) :
    (convMvToDacCountsForVggCircuit (convDacCountsToMvForVggCircuit counts)).toNat = counts.toNat % 1024 - 1 := by
  have hmv := vgg_mv counts
  have hc := vgg_counts_clamped (convDacCountsToMvForVggCircuit counts)
  rw [hmv, gateClamp_of_range (by omega) (by omega)] at hc
  omega

/-- The pair, over every `int32_t` and every `uint32_t`. -/
theorem gate_voltage_pair :
    (∀ mv : Int32, (∀ x ∈ gateSteps (gateClamp mv.toInt), -2147483648 ≤ x ∧ x < 2147483648) ∧
      (gateSteps (gateClamp mv.toInt)).getLast? = some ((convMvToDacCountsForVggCircuit mv).toNat : Int) ∧
      (convMvToDacCountsForVggCircuit mv).toNat ≤ 501 ∧
      gateClamp mv.toInt ≤ (convDacCountsToMvForVggCircuit (convMvToDacCountsForVggCircuit mv)).toInt ∧
      (convDacCountsToMvForVggCircuit (convMvToDacCountsForVggCircuit mv)).toInt ≤ gateClamp mv.toInt + 11) ∧
    (∀ a b : Int32, a ≤ b → convMvToDacCountsForVggCircuit b ≤ convMvToDacCountsForVggCircuit a) ∧
    ∀ counts : UInt32,
      (1 ≤ counts.toNat % 1024 ∧ counts.toNat % 1024 ≤ 501 →
        (convMvToDacCountsForVggCircuit (convDacCountsToMvForVggCircuit counts)).toNat = counts.toNat % 1024 - 1) ∧
      (counts.toNat % 1024 = 0 →
        convMvToDacCountsForVggCircuit (convDacCountsToMvForVggCircuit counts) = 0) := by
  refine ⟨fun mv => ?_, fun a b h => vgg_counts_antitone h, fun counts => ⟨fun h => vgg_roundtrip h.2, fun h => ?_⟩⟩
  · obtain ⟨hlo, hhi⟩ := gateClamp_range mv.toInt
    exact ⟨gateSteps_inRange hlo hhi, vgg_counts_steps mv, vgg_counts_le mv, vgg_realised mv⟩
  · apply UInt32.toNat_inj.mp
    rw [vgg_roundtrip (by omega), h]
    rfl

end Graviton
