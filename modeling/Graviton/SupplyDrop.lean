/-
  Graviton.SupplyDrop — when the calibration aborts on a drop of the 29 V supply.

  The guard of the loop is `v29_bus - 100 > V29` in `uint32_t`. From 100 mV up it is the
  exact comparison of the drop with 100 mV; below, the difference wraps past every reading
  an ADC register can give and the first body aborts whatever it reads. `supply_drop_iff`
  is the exact condition under which the calibration aborts on a drop and only then: the
  supply starts at 100 mV or more, or the loop runs no body.
-/
import Graviton.Calibration

namespace Graviton

open Effects

/-! ## The guard -/

/-- No ADC register reads as much as the guard's wrapped difference. -/
theorem supply_le (env : Env) (w : World) : (supply env w).toNat ≤ 7415536 := by
  unfold supply
  have hmv := mvOf_le (env.register .afe0 (Amc7891.adcData gravAdcV29) w) .gain1x
  rw [convMvV29_toNat hmv]
  omega

section

variable {v0 v : UInt32}

theorem guard_exact (h : 100 ≤ v0.toNat) : v0 - 100 > v ↔ (100 : Int) < v0.toNat - v.toNat := by
  have h100 : (100 : UInt32).toNat = 100 := rfl
  rw [gt_iff_lt, UInt32.lt_iff_toNat_lt, Exact.uint32_sub (by rw [h100]; exact h), h100]
  omega

theorem guard_wraps (h : v0.toNat < 100) (hv : v.toNat ≤ 7415536) : v0 - 100 > v := by
  have h100 : (100 : UInt32).toNat = 100 := rfl
  rw [gt_iff_lt, UInt32.lt_iff_toNat_lt, Exact.uint32_sub_wrap (by rw [h100]; exact h), h100]
  omega

end

/-! ## Bodies of the loop -/

/-- In a body of the loop, entered at `w0`, the supply reads `v`. -/
def Probes (c : Afe) (v29Bus : UInt32) (env : Env) (w0 : World) (v : UInt32) : Prop :=
  ∃ k counts w, Tests c v29Bus env w0 k counts w ∧ 100 > drawn c env w ∧ v = supply env (w.lowered env c (counts - 1))

section

variable {c : Afe} {v29Bus : UInt32} {env : Env} {w0 w : World} {k : Nat} {counts v : UInt32} (h : w0.Idle)

include h

/-- If the first test ends the loop, there is no other. -/
theorem Tests.only (hi : ¬ 100 > drawn c env w0) (ht : Tests c v29Bus env w0 k counts w) : w = w0 := by
  induction ht with
  | start => rfl
  | @body k counts w w' ht hb ih =>
    obtain ⟨hd, _, _, _⟩ := body_cases (ht.at h).1 hb
    rw [ih] at hd
    exact absurd hd hi

theorem no_probe (hi : ¬ 100 > drawn c env w0) : ¬ Probes c v29Bus env w0 v := by
  rintro ⟨k, counts, w, ht, hd, _⟩
  rw [ht.only h hi] at hd
  exact hi hd

end

section

variable {c : Afe} {env : Env} {w w1 : World} {k : Nat} {counts : UInt32} (h : w.Idle)

include h

/-- A body that aborts is the end of the calibration. -/
theorem calibrate_abort (ht : Tests c (supply env w) env (w.entered env c) k counts w1) (hi : 100 > drawn c env w1)
    (hv : supply env w - 100 > supply env (w1.lowered env c (counts - 1))) :
    Resets (calibratePowerAmplifier c) env w := by
  have he : (w.entered env c).Idle := entered_idle h
  obtain ⟨hi1, _, hk⟩ := ht.at he
  obtain ⟨w2, _, hr⟩ := loop_abort hi1 (supply env w) counts (1023 - k) hi hv
  refine ⟨w2, calibrate_error h ?_⟩
  rw [show 1024 = k + (1023 - k + 1) by omega, ht.resume he, hr]

theorem abort_probes (hr : Resets (calibratePowerAmplifier c) env w) :
    ∃ v, Probes c (supply env w) env (w.entered env c) v ∧ supply env w - 100 > v := by
  obtain ⟨k, counts, w1, ht, hend⟩ := calibrate_cases c env h
  rcases hend with ⟨_, he⟩ | ⟨hi, hv, _⟩ | ⟨_, _, he⟩
  · exact absurd hr (not_resets_ok he)
  · exact ⟨_, ⟨k, counts, w1, ht, hi, rfl⟩, hv⟩
  · exact absurd hr (not_resets_ok he)

/-- A body resets exactly on its guard. -/
theorem body_resets (v29Bus : UInt32) (hi : 100 > drawn c env w) :
    Resets (calibrateLoop c v29Bus 1 counts) env w ↔ v29Bus - 100 > supply env (w.lowered env c (counts - 1)) := by
  by_cases hv : v29Bus - 100 > supply env (w.lowered env c (counts - 1))
  · obtain ⟨w2, _, hr⟩ := loop_abort h v29Bus counts 0 hi hv
    exact ⟨fun _ => hv, fun _ => ⟨w2, hr⟩⟩
  · refine ⟨fun hr => ?_, fun hg => absurd hg hv⟩
    obtain ⟨w2, hr⟩ := hr
    by_cases hl : convDacCountsToMvForVggCircuit (counts - 1) > -2000
    · cases (loop_failed h v29Bus counts 0 hi hv hl).symm.trans hr
    · cases (loop_next h v29Bus counts 0 hi hv hl).symm.trans hr

end

/-! ## Aborts -/

/-- The calibration aborts exactly if the supply drops by more than 100 mV in a body of its
    loop, and no body aborts that reads as much as it began with. -/
structure AbortsOnDrop (c : Afe) (env : Env) (w : World) : Prop where
  iff : Resets (calibratePowerAmplifier c) env w ↔
    ∃ v, Probes c (supply env w) env (w.entered env c) v ∧ (100 : Int) < (supply env w).toNat - v.toNat
  steady : ∀ k counts w1, Tests c (supply env w) env (w.entered env c) k counts w1 → 100 > drawn c env w1 →
    (supply env w).toNat ≤ (supply env (w1.lowered env c (counts - 1))).toNat →
      ¬ Resets (calibrateLoop c (supply env w) 1 counts) env w1

section

variable {c : Afe} {env : Env} {w : World} (h : w.Idle)

include h

theorem aborts_on_drop (h0 : 100 ≤ (supply env w).toNat) : AbortsOnDrop c env w where
  iff := by
    constructor
    · intro hr
      obtain ⟨v, hp, hv⟩ := abort_probes h hr
      exact ⟨v, hp, (guard_exact h0).mp hv⟩
    · rintro ⟨v, ⟨k, counts, w1, ht, hi, rfl⟩, hv⟩
      exact calibrate_abort h ht hi ((guard_exact h0).mpr hv)
  steady k counts w1 ht hi hge hr := by
    have hv := (guard_exact h0).mp ((body_resets (ht.at (entered_idle h)).1 _ hi).mp hr)
    omega

theorem aborts_on_none (hi : ¬ 100 > drawn c env (w.entered env c)) : AbortsOnDrop c env w where
  iff := by
    constructor
    · intro hr
      obtain ⟨v, hp, _⟩ := abort_probes h hr
      exact absurd hp (no_probe (entered_idle h) hi)
    · rintro ⟨v, hp, _⟩
      exact absurd hp (no_probe (entered_idle h) hi)
  steady k counts w1 ht hd := by
    rw [ht.only (entered_idle h) hi] at hd
    exact absurd hd hi

/-- Below 100 mV the first body aborts, and no supply can have dropped. -/
theorem not_aborts_on_drop (h0 : (supply env w).toNat < 100) (hi : 100 > drawn c env (w.entered env c)) :
    ¬ AbortsOnDrop c env w := by
  intro ha
  obtain ⟨v, _, hv⟩ := ha.iff.mp (calibrate_abort h .start hi (guard_wraps h0 (supply_le env _)))
  omega

theorem supply_drop_iff : AbortsOnDrop c env w ↔
    100 ≤ (supply env w).toNat ∨ 100 ≤ (drawn c env (w.entered env c)).toNat := by
  have h100 : (100 : UInt32).toNat = 100 := rfl
  constructor
  · intro ha
    by_cases h0 : 100 ≤ (supply env w).toNat
    · exact Or.inl h0
    · right
      by_cases hi : 100 > drawn c env (w.entered env c)
      · exact absurd ha (not_aborts_on_drop h (by omega) hi)
      · rw [gt_iff_lt, UInt32.lt_iff_toNat_lt, h100] at hi
        omega
  · rintro (h0 | hi)
    · exact aborts_on_drop h h0
    · refine aborts_on_none h ?_
      rw [gt_iff_lt, UInt32.lt_iff_toNat_lt, h100]
      omega

end

/-- A supply that reads 4518 mV throughout. -/
theorem supply_drop_dead : AbortsOnDrop .afeA deadAmplifier idleWorld :=
  (supply_drop_iff ⟨rfl, rfl⟩).mpr (Or.inl (by decide))

/-- A supply that reads 0 mV throughout aborts the calibration. -/
theorem supply_drop_unpowered : ¬ ∀ c env w, w.Idle → AbortsOnDrop c env w :=
  fun h => not_aborts_on_drop ⟨rfl, rfl⟩ (by decide) (by decide) (h .afeA (steadyEnv 0) idleWorld ⟨rfl, rfl⟩)

end Graviton
