/-
  Graviton.Report — what a reset leaves on the two serial ports.

  The firmware ends in `go_safe_and_reset` only, and that prints why. `reset_reported`: every
  reset of `main`, in `init` or in the loop, logs the text of its reason, and for a check the
  sensor's name and the value read, after making the board safe; then comes one telemetry dump
  on the debug port, every line of it in its order, the line that says so, and five error
  notifications to the FPGA, and nothing else. A reset in `init` is a drop of the 29 V supply
  that a calibration saw.
-/
import Graviton.Link
import Graviton.Response

namespace Graviton

open Effects History

/-! ## Reports -/

/-- The lines of `printReason`, oldest first. -/
def reasonLines (reason : String) (reason2 : Option String) (value : Int32) : List Event :=
  (match reason2 with
    | none => []
    | some name => [.printf .pc name [], .printf .pc " value: %d\r\n" [value.toInt]]) ++
    [.printf .pc ("ERROR: POWERED DOWN. " ++ reason ++ "\r\n") []]

def haltedEvent : Event := .printf .pc "LOG: halted. resetting in 5 seconds.\r\n" []

/-- The steps that make the board safe, oldest first; how the oscillator switches end is open. -/
def safingSteps (intOk extOk : Bool) : List Event :=
  (safeWrites .afeA).reverse.map writeEvent ++ ((safeWrites .afeB).reverse.map writeEvent ++
    ([.osc false intOk, .pin .oscEn true, .osc true extOk] ++ (gravSafeWrites .afe0).reverse.map writeEvent))

/-- The text of a line to a port, with its number of values. -/
def Event.lineTo (out : Port) : Event → Option (String × Nat)
  | .printf p text args => if p = out then some (text, args.length) else none
  | _ => none

/-- A telemetry dump on the debug port, oldest first: its lines, and between them only reads of
    the chips and the alarms cleared. -/
structure Dumped (dump : List Event) : Prop where
  looks : ∀ e ∈ dump, Event.Look .pc e
  lines : dump.filterMap (Event.lineTo .pc) = dumpLines

/-- From `w` the board was made safe, the reason given, telemetry dumped, and the FPGA notified. -/
def Reported (reason : String) (reason2 : Option String) (value : Int32) (w w' : World) : Prop :=
  ∃ intOk extOk dump, w'.log.reverse = w.log.reverse ++ (safingSteps intOk extOk ++ (reasonLines reason reason2 value ++
      (dump ++ haltedEvent :: List.replicate 5 errorEvent))) ∧ Dumped dump

theorem wroteAll_log {w : World} (h : w.Idle) (ps : List Write) : (w.wroteAll ps).log = ps.map writeEvent ++ w.log := by
  induction ps with
  | nil => rfl
  | cons p ps ih =>
    show ((w.wroteAll ps).wrote p).log = _
    rw [wrote_event (wroteAll_idle.mpr h), push_log, ih]
    rfl

theorem printReason_run (reason : String) (reason2 : Option String) (value : Int32) (env : Env) (w : World) :
    printReason reason reason2 value env w = .ok () (w.logged (reasonLines reason reason2 value)) := by
  cases reason2 <;> rfl

/-- What reads for either port is no line to one. -/
theorem lineTo_look {e : Event} (hp : e.Look .pc) (hf : e.Look .fpga) : e.lineTo .pc = none := by
  cases hp with
  | line text args => cases hf
  | _ => rfl

/-- A reading, which tells either port nothing. -/
theorem reads_silent {α : Type} {x : Fw α} (hx : ∀ out, Tells (Event.Look out) x) (env : Env) {w : World} (h : w.Idle) :
    ∃ a w' l, x env w = .ok a w' ∧ w'.Idle ∧ w'.log = l ++ w.log ∧ (∀ e ∈ l, Event.Look .pc e) ∧
      l.reverse.filterMap (Event.lineTo .pc) = [] := by
  obtain ⟨a, w', r, i, l, hl, hpc⟩ := hx .pc env w h
  obtain ⟨_, _, r', _, l', hl', hfpga⟩ := hx .fpga env w h
  cases r.symm.trans r'
  cases List.append_cancel_right (hl.symm.trans hl')
  refine ⟨a, w', l, r, i, hl, hpc, List.filterMap_eq_nil_iff.mpr fun e he => ?_⟩
  have hmem := List.mem_reverse.mp he
  exact lineTo_look (hpc e hmem) (hfpga e hmem)

theorem lines_printed (lines : List (String × Fw Int)) (hl : ∀ line ∈ lines, ∀ out, Tells (Event.Look out) line.2)
    (env : Env) {w : World} (h : w.Idle) :
    ∃ w' l, (forM lines fun line => do
        let v ← line.2
        printf .pc line.1 [v] : Fw Unit) env w = .ok () w' ∧ w'.Idle ∧ w'.log = l ++ w.log ∧
      (∀ e ∈ l, Event.Look .pc e) ∧
      l.reverse.filterMap (Event.lineTo .pc) = lines.map fun line => (line.1, 1) := by
  induction lines generalizing w with
  | nil => exact ⟨w, [], rfl, h, rfl, fun _ he => absurd he List.not_mem_nil, rfl⟩
  | cons line lines ih =>
    obtain ⟨v, w1, l1, r1, i1, hlog1, hlook1, hline1⟩ := reads_silent (hl line List.mem_cons_self) env h
    obtain ⟨w2, l2, r2, i2, hlog2, hlook2, hline2⟩ :=
      ih (fun x hx => hl x (List.mem_cons_of_mem line hx)) (w := w1.push (.printf .pc line.1 [v])) (push_idle.mpr i1)
    refine ⟨w2, l2 ++ .printf .pc line.1 [v] :: l1, ?_, i2, ?_, ?_, ?_⟩
    · rw [List.forM_cons, bind_assoc, run_bind_ok r1, run_bind_ok (run_printf _ _ _ env w1)]
      exact r2
    · rw [hlog2, push_log, hlog1, List.append_assoc, List.cons_append]
    · intro e he
      rcases List.mem_append.mp he with he | he
      · exact hlook2 e he
      · rcases List.mem_cons.mp he with rfl | he
        · exact .line _ _
        · exact hlook1 e he
    · rw [List.reverse_append, List.reverse_cons, List.filterMap_append, List.filterMap_append, hline1, hline2]
      rfl

/-- A dump prints its lines, and does nothing else but look. -/
theorem dumpTelemetry_dumped (env : Env) {w : World} (h : w.Idle) :
    ∃ w' dump, dumpTelemetry .pc env w = .ok () w' ∧ w'.log = dump.reverse ++ w.log ∧ Dumped dump := by
  have hlines : ∀ line ∈ telemetryLines, ∀ out, Tells (Event.Look out) line.2 := fun line hm out =>
    tells_telemetryLines out line hm
  obtain ⟨w1, l1, r1, i1, hlog1, hlook1, hline1⟩ := lines_printed telemetryLines hlines env
    (w := w.push (.printf .pc "LOG: telemetry dump\r\n" [])) (push_idle.mpr h)
  obtain ⟨_, w2, l2, r2, _, hlog2, hlook2, hline2⟩ := reads_silent tells_clearAlarms env i1
  refine ⟨w2, .printf .pc "LOG: telemetry dump\r\n" [] :: (l1.reverse ++ l2.reverse), ?_, ?_, ?_, ?_⟩
  · unfold dumpTelemetry
    rw [run_bind_ok (run_printf _ _ _ env w), run_bind_ok r1]
    exact r2
  · rw [hlog2, hlog1, push_log, List.reverse_cons, List.reverse_append, List.reverse_reverse, List.reverse_reverse,
      List.append_assoc, List.append_assoc]
    rfl
  · intro e he
    rcases List.mem_cons.mp he with rfl | he
    · exact .line _ _
    · rcases List.mem_append.mp he with he | he
      · exact hlook1 e (List.mem_reverse.mp he)
      · exact hlook2 e (List.mem_reverse.mp he)
  · rw [List.filterMap_cons_some (show Event.lineTo .pc (.printf .pc "LOG: telemetry dump\r\n" []) =
      some ("LOG: telemetry dump\r\n", 0) from rfl), List.filterMap_append, hline1, hline2, List.append_nil]
    rfl

theorem shutdown_reported {reason : String} {reason2 : Option String} {value : Int32} {env : Env} {w w' : World}
    (h : w.Idle) (hr : shutdown reason reason2 value env w = .ok () w') : Reported reason reason2 value w w' := by
  have r1 := switchToSafe_run h .afeA env
  generalize hw1 : (w.wroteAll (safeWrites .afeA)).withMem (w.mem.setMode .afeA .safe) = w1 at r1
  have i1 : w1.Idle := hw1 ▸ (withMem_step (wroteAll_idle.mpr h) _).idle
  have l1 : w1.log = (safeWrites .afeA).map writeEvent ++ w.log := hw1 ▸ wroteAll_log h _
  have r2 := switchToSafe_run i1 .afeB env
  generalize hw2 : (w1.wroteAll (safeWrites .afeB)).withMem (w1.mem.setMode .afeB .safe) = w2 at r2
  have i2 : w2.Idle := hw2 ▸ (withMem_step (wroteAll_idle.mpr i1) _).idle
  have l2 : w2.log = (safeWrites .afeB).map writeEvent ++ w1.log := hw2 ▸ wroteAll_log i1 _
  -- the oscillators
  let w3 := w2.push (.osc false (env.intOsc w2.log))
  let w4 := w3.push (.pin .oscEn true)
  let w5 := w4.push (.osc true (env.extOsc w4.log))
  have r3 : switchToIntOsc env w2 = .ok _ w3 := rfl
  have r4 : pinWrite .oscEn true env w3 = .ok () w4 := rfl
  have r5 : switchToExtOsc env w4 = .ok _ w5 := rfl
  have i5 : w5.Idle := push_idle.mpr (push_idle.mpr (push_idle.mpr i2))
  have r6 := configureGravSafe_run i5 .afe0 env
  generalize hw6 : (w5.wroteAll (gravSafeWrites .afe0)).withMem { w5.mem with gravMode := .safe } = w6 at r6
  have i6 : w6.Idle := hw6 ▸ (withMem_step (wroteAll_idle.mpr i5) _).idle
  have l6 : w6.log = (gravSafeWrites .afe0).map writeEvent ++ w5.log := hw6 ▸ wroteAll_log i5 _
  have r7 := printReason_run reason reason2 value env w6
  have i7 : (w6.logged (reasonLines reason reason2 value)).Idle := logged_idle.mpr i6
  obtain ⟨w8, dump, r8, l8, hdump⟩ := dumpTelemetry_dumped env i7
  unfold shutdown at hr
  rw [run_bind_ok r1, run_bind_ok r2, run_bind_ok r3, run_bind_ok r4, run_bind_ok r5, run_bind_ok r6, run_bind_ok r7,
    run_bind_ok r8] at hr
  cases hr
  refine ⟨env.intOsc w2.log, env.extOsc w4.log, dump, ?_, hdump⟩
  show (List.replicate 5 errorEvent ++ haltedEvent :: w8.log).reverse = _
  rw [l8, logged_log, l6]
  show (List.replicate 5 errorEvent ++ haltedEvent :: (dump.reverse ++ ((reasonLines reason reason2 value).reverse ++
    ((gravSafeWrites .afe0).map writeEvent ++ (.osc true (env.extOsc w4.log) :: .pin .oscEn true ::
      .osc false (env.intOsc w2.log) :: w2.log))))).reverse = _
  rw [l2, l1]
  unfold safingSteps
  simp only [List.reverse_append, List.reverse_cons, List.reverse_reverse, List.map_reverse, List.append_assoc,
    List.cons_append, List.nil_append, List.reverse_replicate]

/-! ## Resets in `init` -/

/-- The calibration of `c`, begun in `w`, comes to the test with `counts` in `w1`, draws too
    little there, and the next code takes the 29 V supply down. -/
structure DropsAt (env : Env) (c : Afe) (w : World) (counts : UInt32) (w1 : World) : Prop where
  tests : ∃ k, Tests c (supply env w) env (w.entered env c) k counts w1
  idle : w1.Idle
  low : 100 > drawn c env w1
  drop : supply env w - 100 > supply env (w1.lowered env c (counts - 1))

/-- Such a drop, and its shutdown left `w'`. -/
def Dropped (env : Env) (w' : World) : Prop :=
  ∃ c w counts w1, DropsAt env c w counts w1 ∧
    shutdown "V29 drop during calibration" none 0 env (w1.probed env c (counts - 1)) = .ok () w'

theorem calibrate_dropped {c : Afe} {env : Env} {w w' : World} {e : Stop} (h : w.Idle)
    (hr : calibratePowerAmplifier c env w = .error e w') : Dropped env w' := by
  obtain ⟨k, counts, w1, ht, ⟨_, h1⟩ | ⟨hd, hv, w2, hs, h2⟩ | ⟨_, _, h3⟩⟩ := calibrate_cases c env h
  · cases h1.symm.trans hr
  · cases h2.symm.trans hr
    exact ⟨c, w, counts, w1, ⟨⟨k, ht⟩, (ht.at (entered_idle h)).1, hd, hv⟩, hs⟩
  · cases h3.symm.trans hr

theorem bringUpLast_dropped {env : Env} {w w' : World} {e : Stop} (h : w.Idle) (hr : bringUpLast env w = .error e w') :
    Dropped env w' := by
  unfold bringUpLast at hr
  cases hA : calibratePowerAmplifier .afeA env w with
  | error e1 w1 =>
    cases (run_bind_error hA _).symm.trans hr
    exact calibrate_dropped h hA
  | ok _ w1 =>
    have i1 : w1.Idle := by
      obtain ⟨_, _, hc⟩ := wp_ok (calibrate_wp .afeA env h) hA
      exact hc.step.idle
    rw [run_bind_ok hA] at hr
    cases hB : calibratePowerAmplifier .afeB env w1 with
    | error e2 w2 =>
      cases (run_bind_error hB _).symm.trans hr
      exact calibrate_dropped i1 hB
    | ok _ w2 =>
      have i2 : w2.Idle := by
        obtain ⟨_, _, hc⟩ := wp_ok (calibrate_wp .afeB env i1) hB
        exact hc.step.idle
      rw [run_bind_ok hB] at hr
      have hlast : Tells Event.Steady (do
          switchToSafe .afeA
          switchToSafe .afeB
          dumpTelemetry .pc
          printf .pc "LOG: Ready!\n\r" []) :=
        (tells_switchToSafe .afeA).bind fun _ => (tells_switchToSafe .afeB).bind fun _ =>
          ((tells_dumpTelemetry .pc).mono fun _ => .look).bind fun _ => (tells_line .pc _ _).mono fun _ => .look
      obtain ⟨_, w3, r3, _⟩ := hlast env w2 i2
      cases r3.symm.trans hr

theorem init_dropped {env : Env} {w' : World} (hr : init env reset = .error .systemReset w') : Dropped env w' := by
  unfold init at hr
  cases hosc : env.extOsc oscWorld.log with
  | false => cases (run_bind_error (powerUp_halted hosc) _).symm.trans hr
  | true =>
    obtain ⟨off, w1, r1, i1, _⟩ := tells_busUnpowered env busTestWorld busTest_step.idle
    obtain ⟨_, w2, r2, i2, _⟩ := tells_powerRails off env w1 i1
    obtain ⟨_, w3, r3, i3, _⟩ := tells_bringUpFirst env w2 i2
    have i4 : (w3.logged lmk04826bWord).Idle := logged_idle.mpr i3
    have i5 : ((w3.logged lmk04826bWord).logged lmk04133Word).Idle := logged_idle.mpr i4
    have i6 : (((w3.logged lmk04826bWord).logged lmk04133Word).logged ads42lb69Word).Idle := logged_idle.mpr i5
    obtain ⟨w7, r7, i7, _⟩ := dac3484_run env i6
    rw [run_bind_ok (powerUp_run hosc), run_bind_ok r1, run_bind_ok r2, initBringUp_eq, run_bind_ok r3,
      run_bind_ok (lmk04826b_run env i3), run_bind_ok (lmk04133_run env i4), run_bind_ok (ads42lb69_run env i5),
      run_bind_ok r7] at hr
    exact bringUpLast_dropped i7 hr

/-! ## Every reset -/

/-- The texts of a limit never change. -/
theorem tracks_reason {soft : SoftRail → SoftBottomTolerance} (h : ∀ p, ∃ past, Tracks (resetMem.soft p) past (soft p))
    (l : Limit) : l.reason soft = l.reason resetMem.soft ∧ l.reason2 soft = l.reason2 resetMem.soft := by
  cases l with
  | hard => exact ⟨rfl, rfl⟩
  | soft p =>
    obtain ⟨_, ht⟩ := h p
    have hmsg := congrArg SoftBottomTolerance.msg ht.limits
    have hname := congrArg SoftBottomTolerance.name ht.limits
    exact ⟨hmsg, hname⟩

/-- Every reset of `main` is reported: a supply that dropped in a calibration, or the item of
    an iteration, by the texts of its limit and the value that broke it. -/
theorem reset_reported {env : Env} {n : Nat} {w' : World} (h : mainRun n env reset = .error .systemReset w') :
    (∃ c w counts w1, DropsAt env c w counts w1 ∧
        Reported "V29 drop during calibration" none 0 (w1.probed env c (counts - 1)) w') ∨
      ∃ m v w i w1, m < n ∧ Faulted env m v w i w' ∧ i.limit.Broken w.mem.soft (i.sensor.value env w1) ∧
        Reported (i.limit.reason resetMem.soft) (some (i.limit.reason2 resetMem.soft)) (i.sensor.value env w1)
          (w1.didRead env i.sensor.chip i.sensor.addr) w' := by
  rcases resets_cases h with hi | ⟨m, v, w, i, hm, hf⟩
  · obtain ⟨c, w, counts, w1, hd, hs⟩ := init_dropped hi
    exact Or.inl ⟨c, w, counts, w1, hd, shutdown_reported (probed_idle hd.idle _) hs⟩
  · have ht := mainRun_touring hf.run
    obtain ⟨v1, w1, r1, hb, hs⟩ := hf.broken
    obtain ⟨v2, w2, hc⟩ := ht.checks
    cases r1.symm.trans hc.first
    have hrep := shutdown_reported (didRead_quiet hc.idle env _ _).step.idle hs
    rw [(tracks_reason ht.tracks i.limit).1, (tracks_reason ht.tracks i.limit).2] at hrep
    exact Or.inr ⟨m, v, w, i, w1, hm, hf, hb, hrep⟩

/-- The temperature of chip `a` stays at 70 degrees. -/
def hotEnv : Env := faultyEnv .afeA amcTempData 560

set_option maxRecDepth 100000 in
theorem reset_reported_hot : ∃ w' reason reason2 value w, mainRun 7 hotEnv reset = .error .systemReset w' ∧
    Reported reason reason2 value w w' := by
  have h : stopped (mainRun 7 hotEnv reset) = some .systemReset := by decide +kernel
  obtain ⟨w', hw⟩ := stopped_error h
  rcases reset_reported hw with ⟨_, _, _, _, _, hr⟩ | ⟨_, _, _, _, _, _, _, _, hr⟩
  · exact ⟨w', _, _, _, _, hw, hr⟩
  · exact ⟨w', _, _, _, _, hw, hr⟩

end Graviton
