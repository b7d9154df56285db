/-
  Graviton.Amplifier — the calibration of an amplifier whose current is a function of its
  gate code alone.

  `Plant c env I`: while the amplifier on `c` is on, a reading of its current is `I` of the
  code in VGSET, and `I` never increases with the code. The loop of the calibration steps
  down from 388 counts and rejects each code that draws less than 100 mA, so the code it
  stops at is the first that draws enough, and the set point two counts above it does not:
  unless the first code tested is that code. Then nothing was rejected, and 390 counts are
  stored whatever the amplifier draws there. `Plant.closed_loop_iff` is the exact condition:
  at 390 counts it draws less than 100 mA.
-/
import Graviton.Calibration
import Mathlib.Order.Monotone.Defs

namespace Graviton

open Effects History

/-! ## What a calibration reports -/

/-- From `w` the log grew without `e`. -/
def Unlogged (e : Event) (w w' : World) : Prop := ∃ n, w'.log = n ++ w.log ∧ e ∉ n

theorem Unlogged.refl (e : Event) (w : World) : Unlogged e w w := ⟨[], rfl, List.not_mem_nil⟩

theorem Unlogged.push {e a : Event} {w w' : World} (h : Unlogged e w w') (ha : e ≠ a) : Unlogged e w (w'.push a) := by
  obtain ⟨n, hn, he⟩ := h
  refine ⟨a :: n, by rw [push_log, hn]; rfl, fun hm => ?_⟩
  rcases List.mem_cons.mp hm with hm | hm
  · exact ha hm
  · exact he hm

theorem Unlogged.not_logged {e : Event} {w w' : World} (h : Unlogged e w w') : ¬ Logged e w w' := by
  rintro ⟨l, hl, hel⟩
  obtain ⟨n, hn, he⟩ := h
  rw [hn] at hel
  rcases suffix_append_cases hel with hs | ⟨m, hm, hne, hml⟩
  · have := hl.length_le
    have := hs.length_le
    rw [List.length_cons] at this
    omega
  · cases m with
    | nil => exact hne rfl
    | cons a m =>
      rw [List.cons_append] at hml
      rw [(List.cons.inj hml).1] at he
      exact he (hm.subset List.mem_cons_self)

section

variable {w0 w : World} (h : Unlogged calibrationFailed w0 w)

include h

theorem Unlogged.didRead (env : Env) (c : Afe) (addr : UInt8) : Unlogged calibrationFailed w0 (w.didRead env c addr) :=
  (h.push Event.noConfusion).push Event.noConfusion

theorem Unlogged.wrote (p : Write) : Unlogged calibrationFailed w0 (w.wrote p) := h.push Event.noConfusion

/-- A printout with another text. -/
theorem Unlogged.printf (port : Port) {text : String} (args : List Int)
    (ht : "\r\nfailed to calibrate power amplifier (Vg went above -2000mV)\r\n" ≠ text) :
    Unlogged calibrationFailed w0 (w.push (.printf port text args)) :=
  h.push fun he => ht (Event.printf.inj he).2.1

theorem Unlogged.withMem (m : Mem) : Unlogged calibrationFailed w0 (w.withMem m) := h

theorem Unlogged.finished (env : Env) (c : Afe) (counts : UInt32) :
    Unlogged calibrationFailed w0 (w.finished env c counts) := by
  have h1 := (h.wrote (dacWrite c gravDacVgset counts.toUInt16)).wrote (dacWrite c gravDacPaEn gravDacPaEnRx)
  exact ((h1.didRead env c (Amc7891.adcData gravAdcIPa)).printf .pc _ (by decide)).withMem _

theorem Unlogged.entered (env : Env) (c : Afe) : Unlogged calibrationFailed w0 (w.entered env c) := by
  have h1 := (h.didRead env .afe0 (Amc7891.adcData gravAdcV29)).printf .pc []
    (show _ ≠ "LOG: Calibrating power amplifier\r\n" by decide)
  exact (h1.wrote _).wrote _

end

theorem finished_setpoint (w : World) (env : Env) (c : Afe) (counts : UInt32) :
    ((w.finished env c counts).mem.afe c).vgSetpoint = counts := by
  simp only [World.finished, withMem_mem, Function.update_self]

section

variable {c : Afe} {env : Env} {w w1 : World} {k : Nat} {counts : UInt32} (h : w.Idle)

include h

/-- No test comes after the failure was reported. -/
theorem Tests.unlogged {v29Bus : UInt32} (ht : Tests c v29Bus env (w.entered env c) k counts w1) :
    Unlogged calibrationFailed w w1 := by
  induction ht with
  | start => exact (Unlogged.refl _ _).entered env c
  | @body k counts w1 w2 ht hb ih =>
    obtain ⟨_, _, _, rfl⟩ := body_cases (ht.at (entered_idle h)).1 hb
    have h1 := (ih.didRead env c (Amc7891.adcData gravAdcIPa)).wrote (dacWrite c gravDacVgset (counts - 1).toUInt16)
    exact (h1.didRead env .afe0 (Amc7891.adcData gravAdcV29)).printf .pc [] (by decide)

end

/-! ## The gate at a test -/

theorem countsAfter_mask (k : Nat) : (0x03FF &&& (countsAfter k).toUInt16).toNat = 388 - k := by
  rw [← countsAfter_toNat k, ← countsAfter_dac k, UInt16.toNat_toUInt32, countsAfter_dac]

/-! ## Plants -/

/-- While the amplifier on `c` is on, it draws `I` of the code in VGSET, in mA. -/
structure Plant (c : Afe) (env : Env) (I : Nat → Nat) : Prop where
  drawn : ∀ w v, w.Idle → held w.writes c .paEn = some 0x3FF → held w.writes c .vgset = some v →
    (drawn c env w).toNat = I v.toNat
  antitone : AntitoneOn I {n | n < 1024}

section

variable {c : Afe} {env : Env} {I : Nat → Nat} (hp : Plant c env I) {w w1 : World} {k : Nat} {counts : UInt32}

include hp

theorem Plant.mono {m n : Nat} (hmn : m ≤ n) (hn : n < 1024) : I n ≤ I m :=
  hp.antitone (show m < 1024 by omega) hn hmn

theorem Plant.at_test (hd : Descending c w k w1) : (Graviton.drawn c env w1).toNat = I (388 - k) := by
  obtain ⟨hon, hvg⟩ := descent_held c k w.writes
  rw [← hd.step.writes] at hon hvg
  rw [hp.drawn w1 _ hd.step.idle hon hvg, countsAfter_mask]

/-- The code before the one at a test was rejected. -/
theorem Plant.rejected (h : w.Idle) (ht : Tests c (supply env w) env (w.entered env c) (k + 1) counts w1) :
    I (388 - k) < 100 := by
  cases ht with
  | @body _ counts w1 _ ht hb =>
    obtain ⟨hi, _, _, _⟩ := body_cases (ht.at (entered_idle h)).1 hb
    rw [gt_iff_lt, UInt32.lt_iff_toNat_lt, hp.at_test (ht.descending h)] at hi
    exact hi

/-- A calibration that returned gave up and reported it, every code tested drawing less than
    100 mA; or stopped, silently, at the first code tested that draws as much. -/
theorem Plant.calibrated (h : w.Idle) (hr : calibratePowerAmplifier c env w = .ok () w1) :
    (Logged calibrationFailed w w1 ∧ I 388 < 100) ∨
      (¬ Logged calibrationFailed w w1 ∧ ∃ k ≤ 183, (w1.mem.afe c).vgSetpoint.toNat = 390 - k ∧
        100 ≤ I (388 - k) ∧ (1 ≤ k → I (389 - k) < 100)) := by
  obtain ⟨k, counts, w2, ht, hend⟩ := calibrate_cases c env h
  obtain ⟨hi, hc, hk⟩ := ht.at (entered_idle h)
  have hd := hp.at_test (ht.descending h)
  rw [gt_iff_lt, UInt32.lt_iff_toNat_lt, hd] at hend
  rcases hend with ⟨hge, he⟩ | ⟨_, _, _, _, he⟩ | ⟨hlt, _, he⟩
  · right
    cases hr.symm.trans he
    refine ⟨(((ht.unlogged h).didRead env c _).finished env c _).not_logged, k, hk, ?_, Nat.not_lt.mp hge, fun h1 => ?_⟩
    · have h2 : (2 : UInt32).toNat = 2 := rfl
      rw [finished_setpoint, hc, Exact.uint32_add (by rw [countsAfter_toNat, h2]; omega), countsAfter_toNat, h2]
      omega
    · obtain ⟨j, rfl⟩ : ∃ j, k = j + 1 := ⟨k - 1, by omega⟩
      rw [show 389 - (j + 1) = 388 - j by omega]
      exact hp.rejected h ht
  · cases hr.symm.trans he
  · left
    cases hr.symm.trans he
    have hs := (ht.descending h).step.log
    exact ⟨⟨(w2.dotted env c (counts - 1)).log, hs.trans ⟨[_, _, _, _, _, _], rfl⟩, [_, _, _, _, _], rfl⟩,
      Nat.lt_of_le_of_lt (hp.mono (by omega) (by omega)) hlt⟩

/-- Exactly an amplifier that draws less than 100 mA at 390 counts gets, from every
    calibration that returns, a report or a set point just below the 100 mA step. -/
theorem Plant.closed_loop_iff (h : w.Idle) (hr : calibratePowerAmplifier c env w = .ok () w1) :
    (Logged calibrationFailed w w1 ∨
      (I (w1.mem.afe c).vgSetpoint.toNat < 100 ∧ 100 ≤ I ((w1.mem.afe c).vgSetpoint.toNat - 2))) ↔ I 390 < 100 := by
  rcases hp.calibrated h hr with ⟨hlog, hlt⟩ | ⟨hno, k, hk, hsp, hge, hrej⟩
  · have := hp.mono (show 388 ≤ 390 by omega) (by omega)
    exact ⟨fun _ => by omega, fun _ => Or.inl hlog⟩
  · rw [hsp, show 390 - k - 2 = 388 - k by omega]
    by_cases h1 : 1 ≤ k
    · have hrej := hrej h1
      have h390 := hp.mono (show 389 - k ≤ 390 by omega) (by omega)
      have hs := hp.mono (show 389 - k ≤ 390 - k by omega) (by omega)
      exact ⟨fun _ => by omega, fun _ => Or.inr ⟨by omega, hge⟩⟩
    · obtain rfl : k = 0 := by omega
      exact ⟨fun h => h.elim (fun hl => absurd hl hno) And.left, fun h => Or.inr ⟨h, hge⟩⟩

end

/-! ## A step amplifier -/

/-- A register reads 200 (173 mA) while the gate code is at most `limit`, else 80 (69 mA). -/
def stepReading (limit : UInt16) : Option UInt16 → UInt8
  | some v => if v ≤ limit then 200 else 80
  | none => 80

def stepAmplifier (limit : UInt16) : Env where
  miso := fun l f i =>
    match f.low with
    | [.afe c] => if i = 2 then stepReading limit (held (l.filterMap Event.write) c .vgset) else 0
    | _ => 0
  extOsc := fun _ => true
  intOsc := fun _ => true
  readable := fun _ => false
  getc := fun _ => 0
  devId := (0, 0, 0)
  lm5331 := fun _ => 0

theorem step_plant (c : Afe) (limit : UInt16) :
    Plant c (stepAmplifier limit) fun n => if n ≤ limit.toNat then 173 else 69 where
  drawn w v h _ hv := by
    have hq : (w.asked c (Amc7891.adcData gravAdcIPa)).writes = w.writes :=
      (Step.push_silent h (readFrame_silent c _ [])).writes
    have hreg : (stepAmplifier limit).register c (Amc7891.adcData gravAdcIPa) w =
        word 0 (stepReading limit (held (w.asked c (Amc7891.adcData gravAdcIPa)).writes c .vgset)) := rfl
    unfold Graviton.drawn
    rw [hreg, hq, hv, stepReading]
    by_cases hl : v ≤ limit
    · rw [if_pos hl, if_pos (UInt16.le_iff_toNat_le.mp hl)]
      decide
    · rw [if_neg hl, if_neg fun hn => hl (UInt16.le_iff_toNat_le.mpr hn)]
      decide
  antitone m _ n _ hmn := by
    dsimp only
    by_cases hn : n ≤ limit.toNat
    · rw [if_pos hn, if_pos (hmn.trans hn)]
    · rw [if_neg hn]
      split <;> omega

set_option maxRecDepth 100000 in
theorem closed_loop_step : ∃ w1, calibratePowerAmplifier .afeA (stepAmplifier 380) idleWorld = .ok () w1 ∧
    (Logged calibrationFailed idleWorld w1 ∨
      ((if (w1.mem.afe .afeA).vgSetpoint.toNat ≤ (380 : UInt16).toNat then 173 else 69) < 100 ∧
        100 ≤ if (w1.mem.afe .afeA).vgSetpoint.toNat - 2 ≤ (380 : UInt16).toNat then 173 else 69)) := by
  have hr : returned (calibratePowerAmplifier .afeA (stepAmplifier 380) idleWorld) = true := by decide +kernel
  obtain ⟨_, w1, hw⟩ := returned_ok hr
  exact ⟨w1, hw, ((step_plant .afeA 380).closed_loop_iff ⟨rfl, rfl⟩ hw).mpr (by decide)⟩

/-- An amplifier that draws 173 mA at every code is accepted, at 390 counts. -/
theorem closed_loop_hot : ¬ ∀ c env I, Plant c env I → ∀ w w1, w.Idle → calibratePowerAmplifier c env w = .ok () w1 →
    Logged calibrationFailed w w1 ∨
      (I (w1.mem.afe c).vgSetpoint.toNat < 100 ∧ 100 ≤ I ((w1.mem.afe c).vgSetpoint.toNat - 2)) := by
  intro hall
  have hp := step_plant .afeA 0xFFFF
  have h : idleWorld.Idle := ⟨rfl, rfl⟩
  have hon : ¬ 100 > drawn .afeA (stepAmplifier 0xFFFF) (idleWorld.entered (stepAmplifier 0xFFFF) .afeA) := by
    rw [gt_iff_lt, UInt32.lt_iff_toNat_lt, hp.at_test (entered_descending h)]
    decide
  have hr := calibrate_ok h (sensed_quiet (entered_idle h)).step.idle (loop_done (entered_idle h) _ _ 1023 hon)
  rcases hall _ _ _ hp _ _ h hr with hl | ⟨hlt, _⟩
  · exact ((((Unlogged.refl _ idleWorld).entered _ .afeA).didRead _ _ _).finished _ _ _).not_logged hl
  · rw [finished_setpoint] at hlt
    exact absurd hlt (by decide)

end Graviton
