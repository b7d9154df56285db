/-
  Graviton.Descent — `calibrate_power_amplifier` and its loop, test by test.

  The gate starts at 388 counts (-3792 mV) and every body of the loop writes one count less,
  so the writes after `k` bodies are `descent c k` whatever was read. `Tests k counts w`:
  after `k` bodies the loop is at its test again, with `counts` in its counter. From a test
  it ends in one of three ways (`Ends`) or runs one more body; there are at most 184 of them,
  for any readings (`loop_runs`). `calibrate_cases` says how the calibration ends from there.
-/
import Graviton.GateVoltage
import Graviton.Shutdown

namespace Graviton

open Effects History

/-! ## Counts -/

/-- The counts after `k` bodies of the loop. -/
def countsAfter (k : Nat) : UInt32 := UInt32.ofNat (388 - k)

theorem countsAfter_toNat (k : Nat) : (countsAfter k).toNat = 388 - k := by
  unfold countsAfter
  rw [UInt32.toNat_ofNat_of_lt' (by unfold UInt32.size; omega)]

theorem start_counts : convMvToDacCountsForVggCircuit (-3800) = countsAfter 0 := by decide

theorem countsAfter_succ {k : Nat} (h : k < 388) : countsAfter k - 1 = countsAfter (k + 1) := by
  apply UInt32.toNat_inj.mp
  have h1 : (1 : UInt32).toNat = 1 := rfl
  rw [Exact.uint32_sub (by rw [countsAfter_toNat, h1]; omega), countsAfter_toNat, countsAfter_toNat, h1]
  omega

/-- The limit of the loop is 204 counts. -/
theorem limit_counts {n : UInt32} (h : n.toNat < 1024) :
    convDacCountsToMvForVggCircuit n > -2000 ↔ n.toNat ≤ 204 := by
  have e : (-2000 : Int32).toInt = -2000 := by decide
  rw [gt_iff_lt, Int32.lt_iff_toInt_lt, vgg_mv_of_lt h, e]
  omega

/-! ## Writes -/

/-- The writes of the calibration until `k` bodies of its loop, newest first. -/
def descent (c : Afe) : Nat → List Write
  | 0 => [dacWrite c gravDacPaEn gravDacPaEnTx, dacWrite c gravDacVgset (countsAfter 0).toUInt16]
  | k + 1 => dacWrite c gravDacVgset (countsAfter (k + 1)).toUInt16 :: descent c k

/-- In a descent the amplifier is on, and its gate stands at the last count. -/
theorem descent_held (c : Afe) (k : Nat) (l : List Write) :
    held (descent c k ++ l) c .paEn = some 0x3FF ∧
      held (descent c k ++ l) c .vgset = some (0x03FF &&& (countsAfter k).toUInt16) := by
  have hne : (c, AfeReg.paEn.addr) ≠ (c, AfeReg.vgset.addr) := by cases c <;> decide
  induction k with
  | zero =>
    exact ⟨List.lookup_cons_self, (lookup_cons_ne hne.symm).trans List.lookup_cons_self⟩
  | succ k ih =>
    exact ⟨(lookup_cons_ne hne).trans ih.1, List.lookup_cons_self⟩

/-- What the loop prints when the limit is passed. -/
def calibrationFailed : Event :=
  .printf .pc "\r\nfailed to calibrate power amplifier (Vg went above -2000mV)\r\n" []

theorem dacData_low (ch : DacChannel) : Amc7891.dacData ch < 0x80 := by cases ch <;> decide

theorem dacWrite_step {w : World} (h : w.Idle) (c : Afe) (ch : DacChannel) (v : UInt16) :
    Step w (w.wrote (dacWrite c ch v)) [dacWrite c ch v] [] := wrote_step h (dacData_low ch)

/-- A state inside the loop, after `k` bodies' writes. -/
structure Descending (c : Afe) (w0 : World) (k : Nat) (w : World) : Prop where
  step : Step w0 w (descent c k) []
  mem : w.mem = w0.mem

theorem Descending.quiet {c : Afe} {w0 w w' : World} {k : Nat} (h : Descending c w0 k w) (hq : Quiet w w') :
    Descending c w0 k w' := ⟨h.step.trans hq.step, hq.mem.trans h.mem⟩

theorem Descending.body {c : Afe} {w0 w : World} {k : Nat} (h : Descending c w0 k w) :
    Descending c w0 (k + 1) (w.wrote (dacWrite c gravDacVgset (countsAfter (k + 1)).toUInt16)) :=
  ⟨h.step.trans (dacWrite_step h.step.idle _ _ _), h.mem⟩

/-! ## Readings -/

/-- The amplifier's current when it is read at `w`, in mA. -/
def drawn (c : Afe) (env : Env) (w : World) : UInt32 :=
  convMvIPa (mvOf (env.register c (Amc7891.adcData gravAdcIPa) w) .gain1x)

/-- The 29 V supply when it is read at `w`, in mV. -/
def supply (env : Env) (w : World) : UInt32 :=
  convMvV29 (mvOf (env.register .afe0 (Amc7891.adcData gravAdcV29) w) .gain1x)

/-- The world after the amplifier's current was read. -/
def World.sensed (w : World) (env : Env) (c : Afe) : World := w.didRead env c (Amc7891.adcData gravAdcIPa)

/-- In a body of the loop, when `counts` has been written. -/
def World.lowered (w : World) (env : Env) (c : Afe) (counts : UInt32) : World :=
  (w.sensed env c).wrote (dacWrite c gravDacVgset counts.toUInt16)

/-- In a body of the loop, when the supply has been read. -/
def World.probed (w : World) (env : Env) (c : Afe) (counts : UInt32) : World :=
  (w.lowered env c counts).didRead env .afe0 (Amc7891.adcData gravAdcV29)

/-- After a body that did not abort. -/
def World.dotted (w : World) (env : Env) (c : Afe) (counts : UInt32) : World :=
  (w.probed env c counts).push (.printf .pc "." [])

section

variable {c : Afe} {env : Env} {w : World} (h : w.Idle)

include h

theorem iPa_run : iPa c env w = .ok (drawn c env w) (w.sensed env c) := by
  unfold iPa
  rw [run_bind_ok (getMv_run h c env gravAdcIPa .gain1x)]
  rfl

theorem v29_run : v29 env w = .ok (supply env w) (w.didRead env .afe0 (Amc7891.adcData gravAdcV29)) := by
  unfold v29
  rw [run_bind_ok (getMv_run h .afe0 env gravAdcV29 .gain1x)]
  rfl

theorem sensed_quiet : Quiet w (w.sensed env c) := didRead_quiet h env c _

theorem lowered_idle (counts : UInt32) : (w.lowered env c counts).Idle := wrote_idle.mpr (sensed_quiet h).step.idle

theorem probed_idle (counts : UInt32) : (w.probed env c counts).Idle :=
  (didRead_quiet (lowered_idle h counts) env .afe0 _).step.idle

theorem dotted_idle (counts : UInt32) : (w.dotted env c counts).Idle := push_idle.mpr (probed_idle h counts)

/-! ## One test of the loop -/

theorem loop_done (v29Bus counts : UInt32) (fuel : Nat) (hi : ¬ 100 > drawn c env w) :
    calibrateLoop c v29Bus (fuel + 1) counts env w = .ok counts (w.sensed env c) := by
  unfold calibrateLoop
  rw [run_bind_ok (iPa_run h), if_neg hi]
  rfl

/-- A body of the loop until the supply has been read. -/
theorem loop_body (v29Bus counts : UInt32) (fuel : Nat) (hi : 100 > drawn c env w) :
    calibrateLoop c v29Bus (fuel + 1) counts env w = (do
      if v29Bus - 100 > supply env (w.lowered env c (counts - 1)) then goSafeAndReset "V29 drop during calibration" none 0
      printf .pc "." []
      if convDacCountsToMvForVggCircuit (counts - 1) > -2000 then do
        let counts := convMvToDacCountsForVggCircuit (-3800)
        printf .pc "\r\nfailed to calibrate power amplifier (Vg went above -2000mV)\r\n" []
        return counts
      else calibrateLoop c v29Bus fuel (counts - 1) : Fw UInt32) env (w.probed env c (counts - 1)) := by
  have hs : (w.sensed env c).Idle := (sensed_quiet h).step.idle
  have hw := writeDac_run hs c env gravDacVgset (counts - 1).toUInt16
  rw [calibrateLoop, run_bind_ok (iPa_run h), if_pos hi, run_bind_ok hw]
  exact run_bind_ok (v29_run (lowered_idle h (counts - 1))) _

theorem loop_abort (v29Bus counts : UInt32) (fuel : Nat) (hi : 100 > drawn c env w)
    (hv : v29Bus - 100 > supply env (w.lowered env c (counts - 1))) :
    ∃ w', shutdown "V29 drop during calibration" none 0 env (w.probed env c (counts - 1)) = .ok () w' ∧
      calibrateLoop c v29Bus (fuel + 1) counts env w = .error .systemReset w' := by
  have hp : (w.probed env c (counts - 1)).Idle := probed_idle h (counts - 1)
  obtain ⟨w', hr, _, _⟩ := shutdown_run "V29 drop during calibration" none 0 env hp
  refine ⟨w', hr, ?_⟩
  rw [loop_body h v29Bus counts fuel hi]
  dsimp only
  rw [if_pos hv]
  exact run_bind_error (goSafeAndReset_run hr) _

theorem loop_failed (v29Bus counts : UInt32) (fuel : Nat) (hi : 100 > drawn c env w)
    (hv : ¬ v29Bus - 100 > supply env (w.lowered env c (counts - 1)))
    (hl : convDacCountsToMvForVggCircuit (counts - 1) > -2000) :
    calibrateLoop c v29Bus (fuel + 1) counts env w =
      .ok (convMvToDacCountsForVggCircuit (-3800)) ((w.dotted env c (counts - 1)).push calibrationFailed) := by
  rw [loop_body h v29Bus counts fuel hi]
  dsimp only
  rw [if_neg hv, run_bind_ok (run_printf _ _ _ env _), if_pos hl, run_bind_ok (run_printf _ _ _ env _)]
  rfl

theorem loop_next (v29Bus counts : UInt32) (fuel : Nat) (hi : 100 > drawn c env w)
    (hv : ¬ v29Bus - 100 > supply env (w.lowered env c (counts - 1)))
    (hl : ¬ convDacCountsToMvForVggCircuit (counts - 1) > -2000) :
    calibrateLoop c v29Bus (fuel + 1) counts env w =
      calibrateLoop c v29Bus fuel (counts - 1) env (w.dotted env c (counts - 1)) := by
  rw [loop_body h v29Bus counts fuel hi]
  dsimp only
  rw [if_neg hv, run_bind_ok (run_printf _ _ _ env _), if_neg hl]
  rfl

end

/-! ## The tests of the loop -/

/-- The loop, entered at `w0`, is at its test after `k` bodies, with `counts` left. -/
inductive Tests (c : Afe) (v29Bus : UInt32) (env : Env) (w0 : World) : Nat → UInt32 → World → Prop
  | start : Tests c v29Bus env w0 0 (convMvToDacCountsForVggCircuit (-3800)) w0
  | body {k : Nat} {counts : UInt32} {w w' : World} : Tests c v29Bus env w0 k counts w →
      calibrateLoop c v29Bus 1 counts env w = .error .outOfFuel w' → Tests c v29Bus env w0 (k + 1) (counts - 1) w'

/-- How the loop ends at the test with `counts` at `w`. -/
inductive Ends (c : Afe) (v29Bus : UInt32) (env : Env) (counts : UInt32) (w : World) :
    EStateM.Result Stop World UInt32 → Prop
  | done : ¬ 100 > drawn c env w → Ends c v29Bus env counts w (.ok counts (w.sensed env c))
  | abort (w' : World) : 100 > drawn c env w → v29Bus - 100 > supply env (w.lowered env c (counts - 1)) →
      shutdown "V29 drop during calibration" none 0 env (w.probed env c (counts - 1)) = .ok () w' →
      Ends c v29Bus env counts w (.error .systemReset w')
  | failed : 100 > drawn c env w → ¬ v29Bus - 100 > supply env (w.lowered env c (counts - 1)) →
      convDacCountsToMvForVggCircuit (counts - 1) > -2000 →
      Ends c v29Bus env counts w
        (.ok (convMvToDacCountsForVggCircuit (-3800)) ((w.dotted env c (counts - 1)).push calibrationFailed))

section

variable {c : Afe} {v29Bus : UInt32} {env : Env} {w0 w w' : World} {k : Nat} {counts : UInt32}

/-- What a body that led to another test read and left. -/
theorem body_cases (h : w.Idle) (hb : calibrateLoop c v29Bus 1 counts env w = .error .outOfFuel w') :
    100 > drawn c env w ∧ ¬ v29Bus - 100 > supply env (w.lowered env c (counts - 1)) ∧
      ¬ convDacCountsToMvForVggCircuit (counts - 1) > -2000 ∧ w' = w.dotted env c (counts - 1) := by
  by_cases hi : 100 > drawn c env w
  · by_cases hv : v29Bus - 100 > supply env (w.lowered env c (counts - 1))
    · obtain ⟨w1, _, hr⟩ := loop_abort h v29Bus counts 0 hi hv
      cases hr.symm.trans hb
    · by_cases hl : convDacCountsToMvForVggCircuit (counts - 1) > -2000
      · cases (loop_failed h v29Bus counts 0 hi hv hl).symm.trans hb
      · have he := (loop_next h v29Bus counts 0 hi hv hl).symm.trans hb
        cases he
        exact ⟨hi, hv, hl, rfl⟩
  · cases (loop_done h v29Bus counts 0 hi).symm.trans hb

/-- Where the counter stands at a test. -/
theorem Tests.at (h : w0.Idle) (ht : Tests c v29Bus env w0 k counts w) :
    w.Idle ∧ counts = countsAfter k ∧ k ≤ 183 := by
  induction ht with
  | start => exact ⟨h, start_counts, by omega⟩
  | @body k counts w w' _ hb ih =>
    obtain ⟨hi, hc, hk⟩ := ih
    obtain ⟨_, _, hl, rfl⟩ := body_cases hi hb
    have hnext : counts - 1 = countsAfter (k + 1) := by rw [hc, countsAfter_succ (by omega)]
    rw [hnext, limit_counts (by rw [countsAfter_toNat]; omega), countsAfter_toNat] at hl
    exact ⟨dotted_idle hi _, hnext, by omega⟩

/-- The loop goes on from a test as if it had been entered there. -/
theorem Tests.resume (h : w0.Idle) (ht : Tests c v29Bus env w0 k counts w) (m : Nat) :
    calibrateLoop c v29Bus (k + m) (convMvToDacCountsForVggCircuit (-3800)) env w0 =
      calibrateLoop c v29Bus m counts env w := by
  induction ht generalizing m with
  | start => rw [Nat.zero_add]
  | @body k counts w w' ht hb ih =>
    obtain ⟨hi, _, _⟩ := ht.at h
    obtain ⟨hd, hv, hl, rfl⟩ := body_cases hi hb
    rw [show k + 1 + m = k + (m + 1) by omega, ih, loop_next hi v29Bus counts m hd hv hl]

theorem loop_ends (h : w0.Idle) {m : Nat} (ht : Tests c v29Bus env w0 k counts w) (hm : 184 ≤ k + m) :
    ∃ j n w1, Tests c v29Bus env w0 j n w1 ∧ Ends c v29Bus env n w1 (calibrateLoop c v29Bus m counts env w) := by
  induction m generalizing k counts w with
  | zero =>
    have := (ht.at h).2.2
    omega
  | succ m ih =>
    have hi := (ht.at h).1
    by_cases hd : 100 > drawn c env w
    · by_cases hv : v29Bus - 100 > supply env (w.lowered env c (counts - 1))
      · obtain ⟨w1, hs, hr⟩ := loop_abort hi v29Bus counts m hd hv
        exact ⟨k, counts, w, ht, by rw [hr]; exact .abort w1 hd hv hs⟩
      · by_cases hl : convDacCountsToMvForVggCircuit (counts - 1) > -2000
        · exact ⟨k, counts, w, ht, by rw [loop_failed hi v29Bus counts m hd hv hl]; exact .failed hd hv hl⟩
        · rw [loop_next hi v29Bus counts m hd hv hl]
          exact ih (ht.body (loop_next hi v29Bus counts 0 hd hv hl)) (by omega)
    · exact ⟨k, counts, w, ht, by rw [loop_done hi v29Bus counts m hd]; exact .done hd⟩

/-- For any readings the loop ends, at a test after at most 183 bodies. -/
theorem loop_runs (c : Afe) (v29Bus : UInt32) (env : Env) (h : w0.Idle) {fuel : Nat} (hf : 184 ≤ fuel) :
    ∃ k counts w, Tests c v29Bus env w0 k counts w ∧
      Ends c v29Bus env counts w (calibrateLoop c v29Bus fuel (convMvToDacCountsForVggCircuit (-3800)) env w0) :=
  loop_ends h .start (by omega)

end

/-! ## The calibration -/

/-- Where the loop is entered. -/
def World.entered (w : World) (env : Env) (c : Afe) : World :=
  (((w.didRead env .afe0 (Amc7891.adcData gravAdcV29)).push (.printf .pc "LOG: Calibrating power amplifier\r\n" [])).wrote
    (dacWrite c gravDacVgset (convMvToDacCountsForVggCircuit (-3800)).toUInt16)).wrote (dacWrite c gravDacPaEn gravDacPaEnTx)

/-- The set point written and the amplifier off. -/
def World.settled (w : World) (c : Afe) (counts : UInt32) : World :=
  (w.wrote (dacWrite c gravDacVgset counts.toUInt16)).wrote (dacWrite c gravDacPaEn gravDacPaEnRx)

def World.reported (w : World) (env : Env) (c : Afe) (counts : UInt32) : World :=
  ((w.settled c counts).sensed env c).push
    (.printf .pc "\r\nLOG: Done with power amplifier(Vgg = %imV, I = %imA)\r\n"
      [(convDacCountsToMvForVggCircuit counts).toInt, (drawn c env (w.settled c counts)).toInt32.toInt])

/-- `counts` stored as the set point, and the calibration over. -/
def World.finished (w : World) (env : Env) (c : Afe) (counts : UInt32) : World :=
  let w1 := w.reported env c counts
  w1.withMem { w1.mem with
    afe := Function.update w1.mem.afe c { w1.mem.afe c with
      vgSetpoint := counts
      vgQuiescent := convMvToDacCountsForVggCircuit (convDacCountsToMvForVggCircuit counts - 100) } }

section

variable {c : Afe} {env : Env} {w : World} (h : w.Idle)

include h

theorem entered_idle : (w.entered env c).Idle :=
  wrote_idle.mpr (wrote_idle.mpr (push_idle.mpr (didRead_quiet h env .afe0 _).step.idle))

theorem calibrate_enter : calibratePowerAmplifier c env w = (do
    let counts ← calibrateLoop c (supply env w) 1024 (convMvToDacCountsForVggCircuit (-3800))
    Amc7891.writeDac c gravDacVgset (counts + 2).toUInt16
    Amc7891.writeDac c gravDacPaEn gravDacPaEnRx
    let i ← iPa c
    printf .pc "\r\nLOG: Done with power amplifier(Vgg = %imV, I = %imA)\r\n"
      [(convDacCountsToMvForVggCircuit (counts + 2)).toInt, i.toInt32.toInt]
    setVg c (counts + 2) (convMvToDacCountsForVggCircuit (convDacCountsToMvForVggCircuit (counts + 2) - 100)) : Fw Unit)
      env (w.entered env c) := by
  have h1 := (didRead_quiet h env .afe0 (Amc7891.adcData gravAdcV29)).step.idle
  have h2 := push_idle (e := .printf .pc "LOG: Calibrating power amplifier\r\n" []).mpr h1
  unfold calibratePowerAmplifier World.entered
  dsimp only
  rw [run_bind_ok (v29_run h), run_bind_ok (run_printf _ _ _ env _), run_bind_ok (writeDac_run h2 c env _ _),
    run_bind_ok (writeDac_run (wrote_idle.mpr h2) c env _ _)]

theorem calibrate_ok {counts : UInt32} {w1 : World} (h1 : w1.Idle)
    (hr : calibrateLoop c (supply env w) 1024 (convMvToDacCountsForVggCircuit (-3800)) env (w.entered env c) = .ok counts w1) :
    calibratePowerAmplifier c env w = .ok () (w1.finished env c (counts + 2)) := by
  have h2 := wrote_idle (p := dacWrite c gravDacVgset (counts + 2).toUInt16).mpr h1
  rw [calibrate_enter h, run_bind_ok hr, run_bind_ok (writeDac_run h1 c env _ _),
    run_bind_ok (writeDac_run h2 c env _ _), run_bind_ok (iPa_run (wrote_idle.mpr h2)), run_bind_ok (run_printf _ _ _ env _)]
  rfl

theorem calibrate_error {e : Stop} {w1 : World}
    (hr : calibrateLoop c (supply env w) 1024 (convMvToDacCountsForVggCircuit (-3800)) env (w.entered env c) = .error e w1) :
    calibratePowerAmplifier c env w = .error e w1 := by
  rw [calibrate_enter h]
  exact run_bind_error hr _

end

/-- A calibration ends from a test of its loop, in one of three ways. -/
theorem calibrate_cases (c : Afe) (env : Env) {w : World} (h : w.Idle) :
    ∃ k counts w1, Tests c (supply env w) env (w.entered env c) k counts w1 ∧
      ((¬ 100 > drawn c env w1 ∧
          calibratePowerAmplifier c env w = .ok () ((w1.sensed env c).finished env c (counts + 2))) ∨
        (100 > drawn c env w1 ∧ supply env w - 100 > supply env (w1.lowered env c (counts - 1)) ∧
          ∃ w2, shutdown "V29 drop during calibration" none 0 env (w1.probed env c (counts - 1)) = .ok () w2 ∧
            calibratePowerAmplifier c env w = .error .systemReset w2) ∨
        (100 > drawn c env w1 ∧ convDacCountsToMvForVggCircuit (counts - 1) > -2000 ∧
          calibratePowerAmplifier c env w = .ok () (((w1.dotted env c (counts - 1)).push calibrationFailed).finished env c
            (convMvToDacCountsForVggCircuit (-3800) + 2)))) := by
  have he : (w.entered env c).Idle := entered_idle h
  obtain ⟨k, counts, w1, ht, hend⟩ := loop_runs c (supply env w) env he (show 184 ≤ 1024 by decide)
  have hi := (ht.at he).1
  refine ⟨k, counts, w1, ht, ?_⟩
  generalize hr : calibrateLoop c (supply env w) 1024 (convMvToDacCountsForVggCircuit (-3800)) env (w.entered env c) = r at hend
  cases hend with
  | done hd => exact Or.inl ⟨hd, calibrate_ok h (sensed_quiet hi).step.idle hr⟩
  | abort w2 hd hv hs => exact Or.inr (Or.inl ⟨hd, hv, w2, hs, calibrate_error h hr⟩)
  | failed hd _ hl => exact Or.inr (Or.inr ⟨hd, hl, calibrate_ok h (push_idle.mpr (dotted_idle hi _)) hr⟩)

/-! ## The writes at a test -/

/-- A body adds its one write, whatever it reads. -/
theorem Descending.probed {c : Afe} {w0 w : World} {k : Nat} (hd : Descending c w0 k w) (hk : k ≤ 183) (env : Env) :
    Descending c w0 (k + 1) (w.probed env c (countsAfter k - 1)) := by
  have hs : Descending c w0 k (w.sensed env c) := hd.quiet (sensed_quiet hd.step.idle)
  rw [countsAfter_succ (by omega)]
  exact hs.body.quiet (didRead_quiet hs.body.step.idle env .afe0 (Amc7891.adcData gravAdcV29))

theorem Descending.dotted {c : Afe} {w0 w : World} {k : Nat} (hd : Descending c w0 k w) (hk : k ≤ 183) (env : Env) :
    Descending c w0 (k + 1) (w.dotted env c (countsAfter k - 1)) := by
  have hp := hd.probed hk env
  exact hp.quiet (quiet_printf hp.step.idle .pc "." [])

section

variable {c : Afe} {env : Env} {w w1 : World} {k : Nat} {counts : UInt32} (h : w.Idle)

include h

theorem entered_descending : Descending c w 0 (w.entered env c) := by
  have h1 := didRead_quiet h env .afe0 (Amc7891.adcData gravAdcV29)
  have h2 := h1.trans (quiet_printf h1.step.idle .pc "LOG: Calibrating power amplifier\r\n" [])
  have s3 := dacWrite_step h2.step.idle c gravDacVgset (convMvToDacCountsForVggCircuit (-3800)).toUInt16
  exact ⟨h2.step.trans (s3.trans (dacWrite_step s3.idle c gravDacPaEn gravDacPaEnTx)), rfl⟩

/-- What the calibration wrote when its loop is at a test. -/
theorem Tests.descending {v29Bus : UInt32} (ht : Tests c v29Bus env (w.entered env c) k counts w1) :
    Descending c w k w1 := by
  induction ht with
  | start => exact entered_descending h
  | body ht hb ih =>
    obtain ⟨hi, rfl, hk⟩ := ht.at (entered_idle h)
    obtain ⟨_, _, _, rfl⟩ := body_cases hi hb
    exact ih.dotted hk env

end

end Graviton
