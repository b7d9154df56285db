/-
  Graviton.Checks — when a case of `safety_check` resets.

  A case reads one register and judges what it reads. `Reading x a` says that `x` returns
  `a` and only reads, `Resets x` that `x` ends in `go_safe_and_reset`; `hardCheck_resets`
  and `softCheck_resets` give, for each kind of case, the exact condition on the value read,
  and `softCheck_run` what a soft check counts.
  `resets_item` carries it to a call of `safety_check` on an enabled item.
-/
import Graviton.Shutdown

namespace Graviton

open Effects

/-! ## Readings -/

/-- `x` returns `a`, and only reads. -/
def Reading {α : Type} (x : Fw α) (a : α) (env : Env) (w : World) : Prop :=
  ∃ w', x env w = .ok a w' ∧ Quiet w w'

section

variable {env : Env} {w : World} {α β : Type}

theorem reading_getMv (env : Env) (h : w.Idle) (c : Afe) (channel : AdcChannel) (gain : Gain) :
    Reading (getMv c channel gain) (mvOf (env.register c (Amc7891.adcData channel) w) gain) env w :=
  ⟨_, getMv_run h c env channel gain, didRead_quiet h env c _⟩

theorem reading_temperature (env : Env) (h : w.Idle) (c : Afe) :
    Reading (Amc7891.readTemperature c) (env.register c amcTempData w / 8) env w := by
  refine ⟨w.didRead env c amcTempData, ?_, didRead_quiet h env c amcTempData⟩
  unfold Amc7891.readTemperature
  rw [run_bind_ok (readReg_run h c _ _)]
  rfl

/-- A reading put through a conversion. -/
theorem Reading.map {x : Fw α} {a : α} (f : α → β) (h : Reading x a env w) :
    Reading (do return f (← x)) (f a) env w := by
  obtain ⟨w', hr, hq⟩ := h
  exact ⟨w', by rw [run_bind_ok hr]; rfl, hq⟩

end

/-! ## Resets -/

/-- The run ends in `go_safe_and_reset`. -/
def Resets {α : Type} (x : Fw α) (env : Env) (w : World) : Prop := ∃ w', x env w = .error .systemReset w'

section

variable {env : Env} {w : World} {α β : Type}

theorem not_resets_ok {x : Fw α} {a : α} {w' : World} (h : x env w = .ok a w') : ¬ Resets x env w := by
  rintro ⟨w1, hr⟩
  cases h.symm.trans hr

theorem Reading.not_resets {x : Fw α} {a : α} (h : Reading x a env w) : ¬ Resets x env w := by
  obtain ⟨w', hr, _⟩ := h
  exact not_resets_ok hr

theorem resets_goSafe (reason : String) (reason2 : Option String) (reason3 : Int32) (h : w.Idle) :
    Resets (goSafeAndReset reason reason2 reason3 : Fw α) env w := by
  obtain ⟨w', hr, _, _⟩ := shutdown_run reason reason2 reason3 env h
  exact ⟨w', goSafeAndReset_run hr⟩

/-- Past a part that returned, the rest decides. -/
theorem resets_bind_ok {x : Fw α} {a : α} {w' : World} (h : x env w = .ok a w') (f : α → Fw β) :
    Resets (x >>= f) env w ↔ Resets (f a) env w' := by
  unfold Resets; rw [run_bind_ok h]

/-- A part followed by a return decides. -/
theorem resets_bind_pure (x : Fw α) (f : α → β) : Resets (x >>= fun a => pure (f a)) env w ↔ Resets x env w := by
  unfold Resets
  rw [run_bind]
  cases x env w with
  | ok a w' => exact ⟨fun ⟨_, h⟩ => (by cases h), fun ⟨_, h⟩ => (by cases h)⟩
  | error e w' => exact ⟨fun ⟨w1, h⟩ => ⟨w1, by cases h; rfl⟩, fun ⟨w1, h⟩ => ⟨w1, by cases h; rfl⟩⟩

variable {read : Fw Int32} {value : Int32}

/-- A hard check only reads if its value is good. -/
theorem hardCheck_passes {bad : Int32 → Bool} (reason reason2 : String) (h : Reading read value env w)
    (hb : bad value = false) : Reading (hardCheck read bad reason reason2) () env w := by
  obtain ⟨w', hr, hq⟩ := h
  refine ⟨w', ?_, hq⟩
  unfold hardCheck
  rw [run_bind_ok hr, hb, if_neg (by decide)]
  rfl

theorem hardCheck_resets (bad : Int32 → Bool) (reason reason2 : String) (h : Reading read value env w) :
    Resets (hardCheck read bad reason reason2) env w ↔ bad value = true := by
  cases hb : bad value with
  | false =>
    have hn := (hardCheck_passes reason reason2 h hb).not_resets
    exact ⟨fun hr => absurd hr hn, fun hf => absurd hf (by decide)⟩
  | true =>
    obtain ⟨w', hr, hq⟩ := h
    refine ⟨fun _ => rfl, fun _ => ?_⟩
    unfold hardCheck
    rw [resets_bind_ok hr, hb, if_pos rfl]
    exact resets_goSafe _ _ _ hq.step.idle

/-- When a record of a soft limit calls for a shutdown. -/
def SoftBottomTolerance.Broken (t : SoftBottomTolerance) (value : Int32) : Prop :=
  (t.lowerHard > value ∨ t.upperHard < value) ∨ t.lowerTol > value ∧ t.violations ≥ t.repeatTol

/-- The record after a reading that does not. -/
def SoftBottomTolerance.after (t : SoftBottomTolerance) (value : Int32) : SoftBottomTolerance :=
  { t with violations := if t.lowerTol > value then t.violations + 1 else 0 }

/-- A call on a reading that does not break the record only counts. -/
theorem tolerance_passes (p : SoftRail) (env : Env) (h : w.Idle) (hb : ¬ (w.mem.soft p).Broken value) :
    ∃ w', goSafeAndResetTolerance p value env w = .ok false w' ∧ Step w w' [] [] ∧
      w'.mem = { w.mem with soft := Function.update w.mem.soft p ((w.mem.soft p).after value) } := by
  have hhard : ¬ ((w.mem.soft p).lowerHard > value ∨ (w.mem.soft p).upperHard < value) := fun h => hb (Or.inl h)
  unfold goSafeAndResetTolerance SoftBottomTolerance.after
  rw [run_bind_ok (run_getMem env w)]
  dsimp only
  rw [if_neg hhard]
  by_cases htol : (w.mem.soft p).lowerTol > value
  · have hrep : ¬ (w.mem.soft p).violations ≥ (w.mem.soft p).repeatTol := fun h => hb (Or.inr ⟨htol, h⟩)
    rw [if_pos htol, if_neg hrep, if_pos htol]
    let m : Mem := { w.mem with
      soft := Function.update w.mem.soft p { w.mem.soft p with violations := (w.mem.soft p).violations + 1 } }
    have hs : Step w (w.withMem m) [] [] := withMem_step h m
    exact ⟨_, rfl, hs.trans (.push_silent hs.idle ⟨rfl, rfl, rfl⟩), rfl⟩
  · rw [if_neg htol, if_neg htol]
    exact ⟨_, rfl, withMem_step h _, rfl⟩

theorem tolerance_resets (p : SoftRail) (value : Int32) (h : w.Idle) :
    Resets (goSafeAndResetTolerance p value) env w ↔ (w.mem.soft p).Broken value := by
  by_cases hb : (w.mem.soft p).Broken value
  · refine ⟨fun _ => hb, fun _ => ?_⟩
    unfold goSafeAndResetTolerance
    rw [resets_bind_ok (run_getMem env w)]
    dsimp only
    rcases hb with hhard | ⟨htol, hrep⟩
    · rw [if_pos hhard]
      exact resets_goSafe _ _ _ h
    · rw [if_pos htol, if_pos hrep, ite_self]
      exact resets_goSafe _ _ _ h
  · obtain ⟨w', hr, _, _⟩ := tolerance_passes p env h hb
    exact ⟨fun hres => absurd hres (not_resets_ok hr), fun hres => absurd hres hb⟩

theorem softCheck_resets (p : SoftRail) (h : Reading read value env w) :
    Resets (softCheck read p) env w ↔ (w.mem.soft p).Broken value := by
  obtain ⟨w', hr, hq⟩ := h
  unfold softCheck
  rw [resets_bind_ok hr, resets_bind_pure, tolerance_resets p value hq.step.idle, hq.mem]

/-- What a soft check that returns leaves. -/
theorem softCheck_run (p : SoftRail) (h : Reading read value env w) (hb : ¬ (w.mem.soft p).Broken value) :
    ∃ w', softCheck read p env w = .ok () w' ∧ Step w w' [] [] ∧
      w'.mem = { w.mem with soft := Function.update w.mem.soft p ((w.mem.soft p).after value) } := by
  obtain ⟨w1, hr, hq⟩ := h
  rw [← hq.mem] at hb
  obtain ⟨w2, hr2, hs, hm⟩ := tolerance_passes p env hq.step.idle hb
  refine ⟨w2, ?_, hq.step.trans hs, by rw [hm, hq.mem]⟩
  unfold softCheck
  rw [run_bind_ok hr, run_bind_ok hr2]
  rfl

end

/-! ## Calls on an item -/

def Enabled (v : Vector UInt16 32) (k : Nat) : Prop := v[k]? = some 0

/-- A call on an enabled item resets exactly if its case does. -/
theorem resets_item {env : Env} {w : World} {item : UInt16} {body : Fw Unit} (hb : safetyCase item.toNat = some body)
    (he : Enabled w.mem.disableSafteyVector item.toNat) :
    Resets (safetyCheck item) env w ↔ Resets body env w := by
  unfold safetyCheck
  rw [resets_bind_ok (run_getMem env w), show w.mem.disableSafteyVector[item.toNat]? = some 0 from he]
  dsimp only
  rw [UInt16.or_zero, hb]
  exact resets_bind_pure body fun _ => item + 1

/-- A call of `safety_check` on the enabled item `item` that will read `r` from register
    `addr` of chip `c`. -/
structure Reads (item : UInt16) (c : Afe) (addr : UInt8) (r : UInt16) (env : Env) (w : World) : Prop where
  idle : w.Idle
  enabled : Enabled w.mem.disableSafteyVector item.toNat
  register : env.register c addr w = r

/-- A board every register of which reads `r`. -/
def steadyEnv (r : UInt16) : Env where
  miso := fun _ _ i => if i = 1 then hiByte r else if i = 2 then loByte r else 0
  extOsc := fun _ => true
  intOsc := fun _ => true
  readable := fun _ => false
  getc := fun _ => 0
  devId := (0, 0, 0)
  lm5331 := fun _ => 0

theorem steady_reads (item : UInt16) (hi : item.toNat < 32) (c : Afe) (addr : UInt8) (r : UInt16) :
    Reads item c addr r (steadyEnv r) idleWorld where
  idle := ⟨rfl, rfl⟩
  enabled := by
    show (Vector.replicate 32 (0 : UInt16))[item.toNat]? = some 0
    rw [Vector.getElem?_replicate, if_pos hi]
  register := word_bytes r

end Graviton
