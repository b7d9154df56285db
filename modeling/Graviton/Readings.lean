/-
  Graviton.Readings — the conversions of `graviton.cpp` and `lm20.cpp` as exact arithmetic.

  An ADC register has 16 bits, so no unsigned product overflows and every conversion but
  `lm20_conv_mv_degc` is its formula with truncating divisions. The LM20 conversion is
  unsigned throughout: past 1866 mV its difference wraps and the result is in the millions.
-/
import Graviton.Lib.Exact
import Graviton.Board

namespace Graviton

open Exact

/-! ## Millivolts -/

theorem gain_code (g : Gain) : g.code.toNat = 2 ∨ g.code.toNat = 1 := by cases g <;> decide

theorem mvOf_toNat (r : UInt16) (g : Gain) : (mvOf r g).toNat = r.toNat * 5000 / 1024 / g.code.toNat := by
  have hr := r.toNat_lt
  have h1 : (r.toUInt32 * 5).toNat = r.toNat * 5 := by
    rw [uint32_mul (by simp only [UInt16.toNat_toUInt32, UInt32.reduceToNat]; omega)]; rfl
  have h2 : (r.toUInt32 * 5 * 1000).toNat = r.toNat * 5000 := by
    rw [uint32_mul (by rw [h1]; simp only [UInt32.reduceToNat]; omega), h1]; simp only [UInt32.reduceToNat]; omega
  unfold mvOf
  rw [UInt32.toNat_div, UInt32.toNat_div, h2]
  rfl

/-- No 16-bit register reads more than this. -/
theorem mvOf_le (r : UInt16) (g : Gain) : (mvOf r g).toNat ≤ 319995 := by
  rw [mvOf_toNat]
  have hr := r.toNat_lt
  rcases gain_code g with h | h <;> rw [h] <;> omega

variable {mv : UInt32}

theorem convMvV5v5_toNat (h : mv.toNat ≤ 319995) : (convMvV5v5 mv).toNat = mv.toNat * 880 / 200 := by
  unfold convMvV5v5
  rw [UInt32.toNat_div, uint32_mul (by simp only [UInt32.reduceToNat]; omega)]
  rfl

theorem convMvV29_toNat (h : mv.toNat ≤ 319995) : (convMvV29 mv).toNat = mv.toNat * 533 / 23 := by
  unfold convMvV29
  rw [UInt32.toNat_div, uint32_mul (by simp only [UInt32.reduceToNat]; omega)]
  rfl

theorem convMvV5v5n_toInt (h : mv.toNat ≤ 319995) :
    (convMvV5v5n mv).toInt = (22 * (mv.toNat : Int) - 85000).tdiv 5 := by
  have h0 : mv.toInt32.toInt = mv.toNat := toInt_toInt32_of_lt (by omega)
  have e22 : (22 : Int32).toInt = 22 := by decide
  have e85 : (85000 : Int32).toInt = 85000 := by decide
  have h1 : (22 * mv.toInt32).toInt = 22 * (mv.toNat : Int) := by
    rw [int32_mul (by rw [h0, e22]; omega) (by rw [h0, e22]; omega), h0, e22]
  have h2 : (22 * mv.toInt32 - 85000).toInt = 22 * (mv.toNat : Int) - 85000 := by
    rw [int32_sub (by rw [h1, e85]; omega) (by rw [h1, e85]; omega), h1, e85]
  unfold convMvV5v5n
  rw [int32_div (by decide), h2]
  rfl

/-! ## The LM20 -/

/-- Up to 1866 mV the temperature is not negative and the conversion is its formula. -/
theorem lm20_warm (h : mv.toNat ≤ 1866) : (lm20ConvMvDegc mv).toNat = (186630 - 100 * mv.toNat) / 1169 := by
  have h1 : (100 * mv).toNat = 100 * mv.toNat := by
    rw [uint32_mul (by simp only [UInt32.reduceToNat]; omega)]; rfl
  have h2 : (-(100 * mv - 186630)).toNat = 186630 - 100 * mv.toNat := by
    rw [UInt32.neg_sub, uint32_sub (by rw [h1]; simp only [UInt32.reduceToNat]; omega), h1]; rfl
  unfold lm20ConvMvDegc
  rw [UInt32.toNat_div, h2]
  rfl

/-- Above 1866 mV the difference is positive and its negation wraps. -/
theorem lm20_cold (h : 1867 ≤ mv.toNat) (h' : mv.toNat ≤ 319995) :
    (lm20ConvMvDegc mv).toNat = (4294967296 - (100 * mv.toNat - 186630)) / 1169 := by
  have h1 : (100 * mv).toNat = 100 * mv.toNat := by
    rw [uint32_mul (by simp only [UInt32.reduceToNat]; omega)]; rfl
  have h2 : (100 * mv - 186630).toNat = 100 * mv.toNat - 186630 := by
    rw [uint32_sub (by rw [h1]; simp only [UInt32.reduceToNat]; omega), h1]; rfl
  have h3 : (-(100 * mv - 186630)).toNat = 4294967296 - (100 * mv.toNat - 186630) := by
    rw [UInt32.toNat_neg, h2]; simp only [UInt32.size]; omega
  unfold lm20ConvMvDegc
  rw [UInt32.toNat_div, h3]
  rfl

/-! ## The gate voltage -/

theorem vgg_mv (counts : UInt32) :
    (convDacCountsToMvForVggCircuit counts).toInt = -((counts.toNat % 1024 * 10000 / 1023 : Nat) : Int) := by
  have hc : (0x3FF &&& counts).toNat = counts.toNat % 1024 := by
    rw [UInt32.toNat_and, Nat.and_comm]; exact Nat.and_two_pow_sub_one_eq_mod _ 10
  have hlt : counts.toNat % 1024 < 1024 := Nat.mod_lt _ (by decide)
  have h0 : (0x3FF &&& counts).toInt32.toInt = (counts.toNat % 1024 : Nat) := by
    rw [toInt_toInt32_of_lt (by omega), hc]
  have e5 : (5000 : Int32).toInt = 5000 := by decide
  have e2 : (2 : Int32).toInt = 2 := by decide
  have h1 : ((0x3FF &&& counts).toInt32 * 5000).toInt = (counts.toNat % 1024 : Nat) * 5000 := by
    rw [int32_mul (by rw [h0, e5]; omega) (by rw [h0, e5]; omega), h0, e5]
  have h2 : ((0x3FF &&& counts).toInt32 * 5000 * 2).toInt = (counts.toNat % 1024 : Nat) * 5000 * 2 := by
    rw [int32_mul (by rw [h1, e2]; omega) (by rw [h1, e2]; omega), h1, e2]
  unfold convDacCountsToMvForVggCircuit
  rw [int32_div (by decide), int32_neg (by rw [h2]; omega), h2]
  have e1023 : (1023 : Int32).toInt = 1023 := by decide
  rw [e1023, Int.neg_tdiv, Int.tdiv_eq_ediv_of_nonneg (by omega)]
  omega

/-- The counts of a voltage in the range the clamps allow. -/
theorem vgg_counts {mv : Int32} (h1 : -4900 ≤ mv.toInt) (h2 : mv.toInt ≤ 0) :
    (convMvToDacCountsForVggCircuit mv).toNat = 1023 * ((-mv.toInt).toNat / 2) / 5000 := by
  have e4900 : (-4900 : Int32).toInt = -4900 := by decide
  have e0 : (0 : Int32).toInt = 0 := by decide
  have e5000 : (5000 : Int32).toInt = 5000 := by decide
  have e1023 : (1023 : Int32).toInt = 1023 := by decide
  have c1 : ¬ (0 : Int32) < mv := by rw [Int32.lt_iff_toInt_lt, e0]; omega
  have c2 : ¬ (-4900 : Int32) > mv := by rw [gt_iff_lt, Int32.lt_iff_toInt_lt, e4900]; omega
  -- the output of the op amp
  have ho : (-mv / 2).toInt = ((-mv.toInt).toNat / 2 : Nat) := by
    rw [int32_div (by decide), int32_neg (by omega)]
    show Int.tdiv _ 2 = _
    rw [Int.tdiv_eq_ediv_of_nonneg (by omega)]; omega
  have c3 : ¬ (0 : Int32) > -mv / 2 := by rw [gt_iff_lt, Int32.lt_iff_toInt_lt, e0, ho]; omega
  have c4 : ¬ (5000 : Int32) < -mv / 2 := by rw [Int32.lt_iff_toInt_lt, e5000, ho]; omega
  have hm : (1023 * (-mv / 2)).toInt = 1023 * ((-mv.toInt).toNat / 2 : Nat) := by
    rw [int32_mul (by rw [e1023, ho]; omega) (by rw [e1023, ho]; omega), e1023, ho]
  have hd : (1023 * (-mv / 2) / 5000).toInt = (1023 * ((-mv.toInt).toNat / 2) / 5000 : Nat) := by
    rw [int32_div (by decide), hm, e5000, Int.tdiv_eq_ediv_of_nonneg (by omega)]; omega
  have hu : (1023 * (-mv / 2) / 5000).toUInt32.toNat = 1023 * ((-mv.toInt).toNat / 2) / 5000 := by
    rw [toNat_toUInt32 (by rw [hd]; omega), hd]; omega
  have c5 : ¬ (1023 : UInt32) < (1023 * (-mv / 2) / 5000).toUInt32 := by
    rw [UInt32.lt_iff_toNat_lt, hu]; simp only [UInt32.reduceToNat]; omega
  unfold convMvToDacCountsForVggCircuit
  simp only [if_neg c1, if_neg c2, if_neg c3, if_neg c4, if_neg c5, hu]

end Graviton
