/-
  Graviton.DacFormat — the SPI formats in which the DAC3484 is spoken to.

  `set_current`, `get_temp`, `read_alarms` and `clear_alarms` send their frames in format
  (8,0), `init` and `read_config` in (8,1). `init()` of the firmware dumps telemetry before
  it programs the DAC, so both formats are in the log before the first calibration, and a
  log only grows: `one_format_iff` says that a run of `main` keeps to one format exactly if
  the external oscillator fails and the run halts before any frame.
-/
import Graviton.Loop

namespace Graviton

open Effects

/-- Every frame sent while the DAC3484 is selected is in one format. -/
def OneFormat (log : List Event) : Prop :=
  ∃ format, ∀ f rx, Event.frame f rx ∈ log → Select.dac3484 ∈ f.low → f.format = format

/-- A frame went to the DAC3484 in this format. -/
def SentIn (format : Format) (w : World) : Prop :=
  ∃ f rx, Event.frame f rx ∈ w.log ∧ Select.dac3484 ∈ f.low ∧ f.format = format

/-- Frames went to the DAC3484 in both formats. -/
def Mixed (w : World) : Prop := SentIn ⟨8, 0⟩ w ∧ SentIn ⟨8, 1⟩ w

theorem SentIn.later {format : Format} {w w' : World} (h : SentIn format w) (hl : w.log <:+ w'.log) :
    SentIn format w' := by
  obtain ⟨f, rx, hm, hf⟩ := h
  exact ⟨f, rx, hl.subset hm, hf⟩

theorem Mixed.later {w w' : World} (h : Mixed w) (hl : w.log <:+ w'.log) : Mixed w' :=
  ⟨h.1.later hl, h.2.later hl⟩

theorem Mixed.not_oneFormat {w : World} (h : Mixed w) : ¬ OneFormat w.log := by
  rintro ⟨format, hall⟩
  obtain ⟨⟨f, rx, hm, hl, h0⟩, g, rx', hm', hl', h1⟩ := h
  have he : f.format = g.format := (hall f rx hm hl).trans (hall g rx' hm' hl').symm
  rw [h0, h1] at he
  exact absurd he (by decide)

/-! ## The two formats -/

theorem clearAlarms_sent (env : Env) {w : World} (h : w.Idle) :
    ∃ w', Dac3484.clearAlarms env w = .ok () w' ∧ Quiet w w' ∧ SentIn ⟨8, 0⟩ w' := by
  obtain ⟨_, w1, r1, q1⟩ := readOnly_clearAlarms env w h
  refine ⟨w1, r1, q1, ?_⟩
  unfold Dac3484.clearAlarms at r1
  rw [run_bind_ok (show spiFormat 8 0 env w = .ok () { w with format := ⟨8, 0⟩ } from rfl),
    run_bind_ok (transact_run _ _ _ env (w := { w with format := ⟨8, 0⟩ }) h.low)] at r1
  cases r1
  exact ⟨_, _, List.mem_cons_self, List.mem_cons_self, rfl⟩

theorem dumpTelemetry_sent (out : Port) (env : Env) {w : World} (h : w.Idle) :
    ∃ w', dumpTelemetry out env w = .ok () w' ∧ Quiet w w' ∧ SentIn ⟨8, 0⟩ w' := by
  obtain ⟨_, w1, r1, q1⟩ := readOnly_printf out "LOG: telemetry dump\r\n" [] env w h
  have hlines := ReadOnly.forM fun line hl =>
    (readOnly_telemetryLines line hl).bind fun v => readOnly_printf out line.1 [v]
  obtain ⟨_, w2, r2, q2⟩ := hlines env w1 q1.step.idle
  obtain ⟨w3, r3, q3, h3⟩ := clearAlarms_sent env q2.step.idle
  refine ⟨w3, ?_, q1.trans (q2.trans q3), h3⟩
  unfold dumpTelemetry
  rw [run_bind_ok r1, run_bind_ok r2]
  exact r3

/-- The rows of a table go out in the format of the idle bus. -/
theorem rows_sent (row : List UInt8) (rows : List (List UInt8)) (env : Env) {w : World} (h : w.Idle) :
    ∃ w' cs, (forM (row :: rows) fun row => do let _ ← transact .dac3484 row 0 : Fw Unit) env w = .ok () w' ∧
      Step w w' [] cs ∧ SentIn ⟨8, 1⟩ w' := by
  obtain ⟨w1, r1, s1, _⟩ := rows_run (row :: rows) env h
  refine ⟨w1, _, r1, s1, ?_⟩
  rw [List.forM_cons, bind_assoc, run_bind_ok (transact_run _ _ _ env h.low)] at r1
  obtain ⟨w2, r2, s2, _⟩ := rows_run rows env (push_idle.mpr h)
  cases r2.symm.trans r1
  exact ⟨_, _, s2.log.subset List.mem_cons_self, List.mem_cons_self, h.format⟩

theorem dacInit_sent (serial : Port) (env : Env) {w : World} (h : w.Idle) :
    ∃ w', Dac3484.init serial env w = .ok () w' ∧ w'.Idle ∧ w.log <:+ w'.log ∧ SentIn ⟨8, 1⟩ w' := by
  obtain ⟨_, w1, r1, q1⟩ := readOnly_dacOpening serial env w h
  obtain ⟨w2, cs, r2, s2, h2⟩ := rows_sent _ _ env q1.step.idle
  obtain ⟨_, w3, r3, q3⟩ := readOnly_dacClosing serial env w2 s2.idle
  refine ⟨w3, ?_, q3.step.idle, q1.step.log.trans (s2.log.trans q3.step.log), h2.later q3.step.log⟩
  rw [dacInit_eq, run_bind_ok r1, run_bind_ok (show (forM dac3484Rom _ : Fw Unit) env w1 = .ok () w2 from r2)]
  exact r3

/-! ## Both stay in the log -/

theorem keeps_of_readOnly {α : Type} {x : Fw α} (hx : ReadOnly x) : Keeps Mixed x :=
  hx.keeps fun _ _ hq hm => hm.later hq.step.log

theorem keeps_calibrate (c : Afe) : Keeps Mixed (calibratePowerAmplifier c) := by
  intro env w h hm
  refine wp_mono (calibrate_wp c env h) ?_ fun e w' he => he.mono ?_
  · rintro _ w' ⟨k, n, hc⟩
    exact ⟨hc.step.idle, hm.later hc.step.log⟩
  · rintro w1 ⟨k, _, _, hd⟩
    exact hm.later hd.step.log

theorem keeps_switchToSafe (c : Afe) : Keeps Mixed (switchToSafe c) := by
  intro env w h hm
  obtain ⟨w', r, s, _⟩ := switchToSafe_step c env h
  exact wp_of_ok r ⟨s.idle, hm.later s.log⟩

/-- After the DAC was programmed. -/
theorem mixed_bringUpLast : Keeps Mixed bringUpLast :=
  (keeps_calibrate .afeA).bind fun _ => (keeps_calibrate .afeB).bind fun _ => (keeps_switchToSafe .afeA).bind fun _ =>
    (keeps_switchToSafe .afeB).bind fun _ => (keeps_of_readOnly (readOnly_dumpTelemetry .pc)).bind fun _ =>
      keeps_of_readOnly (readOnly_printf _ _ _)

theorem bringUpFirst_sent (env : Env) {w : World} (h : w.Idle) :
    ∃ w', bringUpFirst env w = .ok () w' ∧ Quiet w w' ∧ SentIn ⟨8, 0⟩ w' := by
  obtain ⟨_, w1, r1, q1⟩ := readOnly_printf .pc "LOG: checking everything...\r\n" [] env w h
  obtain ⟨w2, r2, q2, h2⟩ := dumpTelemetry_sent .pc env q1.step.idle
  exact ⟨w2, (run_bind_ok r1 _).trans r2, q1.trans q2, h2⟩

theorem bringUp_mixed (env : Env) {w : World} (h : w.Idle) :
    wp initBringUp (fun _ w' => w'.Idle ∧ Mixed w') (Exit env Mixed) env w := by
  obtain ⟨w2, r2, q2, h0⟩ := bringUpFirst_sent env h
  obtain ⟨_, w3, r3, q3⟩ := readOnly_lmk04826b env w2 q2.step.idle
  obtain ⟨_, w4, r4, q4⟩ := readOnly_lmk04133 env w3 q3.step.idle
  obtain ⟨_, w5, r5, q5⟩ := readOnly_ads42lb69 env w4 q4.step.idle
  obtain ⟨w6, r6, i6, l6, h1⟩ := dacInit_sent .pc env q5.step.idle
  have hm : Mixed w6 := ⟨h0.later ((q3.trans (q4.trans q5)).step.log.trans l6), h1⟩
  rw [initBringUp_eq]
  refine wp_bind.mpr (wp_of_ok r2 (wp_bind.mpr (wp_of_ok r3 (wp_bind.mpr (wp_of_ok r4 ?_)))))
  exact wp_bind.mpr (wp_of_ok r5 (wp_bind.mpr (wp_of_ok r6 (mixed_bringUpLast env w6 i6 hm))))

theorem init_mixed {env : Env} (hosc : env.extOsc oscWorld.log = true) :
    wp init (fun _ w' => w'.Idle ∧ Mixed w') (Exit env Mixed) env reset := by
  obtain ⟨w2, r2, q2⟩ := busUnpowered_run env
  have hg : w2.mem.gravMode = .safe := by rw [q2.mem, busTest_mem]; rfl
  obtain ⟨w3, r3, s3, _⟩ := powerRails_run (busOff env) env q2.step.idle hg
  unfold init
  refine wp_bind.mpr (wp_of_ok (powerUp_run hosc) (wp_bind.mpr (wp_of_ok r2 (wp_bind.mpr (wp_of_ok r3 ?_)))))
  exact bringUp_mixed env s3.idle

theorem keeps_prologue : Keeps Mixed mainPrologue := by
  intro env w h hm
  obtain ⟨w', r, a, _⟩ := prologue_run env h
  exact wp_of_ok r ⟨a.step.idle, hm.later a.step.log⟩

theorem mainIteration_mixed {v : LoopVars} (hv : v.check.toNat < 32) (env : Env) {w : World} (h : w.Idle)
    (hm : Mixed w) : wp (mainIteration v) (fun v' w' => v'.check.toNat ≤ 22 ∧ w'.Idle ∧ Mixed w') (Exit env Mixed) env w := by
  obtain ⟨v1, w1, r1, h1, l1, _, hc⟩ := mainFirst_run v env h
  rw [← hc] at hv
  have hm1 := hm.later l1
  rw [mainIteration_eq]
  refine wp_bind.mpr (wp_of_ok r1 (wp_bind.mpr (wp_mono (safetyCheck_next hv env h1.idle) ?_ ?_)))
  · intro n w2 hw
    exact wp_pure.mpr ⟨hw.2, hw.1.step.idle, hm1.later hw.1.step.log⟩
  · intro e w2 he
    exact he.mono fun w3 h3 => hm1.later h3.step.log

/-- Past the oscillator every run of `main` has sent both. -/
theorem mainRun_mixed {env : Env} (hosc : env.extOsc oscWorld.log = true) (n : Nat) :
    wp (mainRun n) (fun v w => v.check.toNat ≤ 22 ∧ w.Idle ∧ Mixed w) (Exit env Mixed) env reset := by
  induction n with
  | zero =>
    unfold mainRun
    refine wp_bind.mpr (wp_mono (init_mixed hosc) ?_ fun _ _ he => he)
    rintro _ w ⟨hi, hm⟩
    refine wp_bind.mpr (wp_mono (keeps_prologue env w hi hm) ?_ fun _ _ he => he)
    rintro _ w' hw
    exact wp_pure.mpr ⟨by decide, hw⟩
  | succ n ih =>
    rw [mainRun_succ]
    refine wp_bind.mpr (wp_mono ih ?_ fun _ _ he => he)
    rintro v w ⟨hv, hi, hm⟩
    exact mainIteration_mixed (by omega) env hi hm

theorem final_mixed {env : Env} (hosc : env.extOsc oscWorld.log = true) (n : Nat) :
    Mixed (final (mainRun n env reset)) := by
  refine wp_final (wp_mono (mainRun_mixed hosc n) (fun _ _ hw => hw.2.2) ?_)
  intro e w' he
  obtain ⟨_, w, _, hm, hs⟩ := he.writes
  exact hm.later hs.log

/-! ## Runs in one format -/

theorem halted_oneFormat {env : Env} (hosc : env.extOsc oscWorld.log = false) (n : Nat) :
    OneFormat (final (mainRun n env reset)).log := by
  have ho := oscillator_run env
  rw [hosc, if_neg (by decide)] at ho
  have hp : initPowerUp env reset = .error .halted _ := run_bind_error ho _
  have hi : init env reset = .error .halted _ := run_bind_error hp _
  have hr : mainRun n env reset = .error .halted _ := run_bind_error hi _
  rw [hr, final_error]
  refine ⟨⟨8, 1⟩, fun f rx hm _ => ?_⟩
  have hno : ∀ e ∈ ((oscWorld.push (.osc true false)).push
      (.printf .pc "ERROR: EXTERNAL OSCILLATOR FAILED TO CONFIGURE. HALTING\r\n" [])).log, e ≠ .frame f rx := by
    simp [oscWorld, reset]
  exact absurd rfl (hno _ hm)

/-- A run keeps to one format exactly if it halts for want of the external oscillator. -/
theorem one_format_iff (env : Env) (n : Nat) :
    OneFormat (final (mainRun n env reset)).log ↔ env.extOsc oscWorld.log = false := by
  constructor
  · intro h
    cases hosc : env.extOsc oscWorld.log with
    | false => rfl
    | true => exact absurd h (final_mixed hosc n).not_oneFormat
  · intro hosc
    exact halted_oneFormat hosc n

theorem two_formats_healthy : ¬ ∀ env n, OneFormat (final (mainRun n env reset)).log :=
  fun h => (final_mixed rfl 0).not_oneFormat (h healthyEnv 0)

end Graviton
