/-
  Graviton.Calibration — what `calibrate_power_amplifier` drives, stores and leaves behind.

  The loop ends at the first reading of 100 mA, or after 184 bodies when 204 counts are
  above -2000 mV; it aborts on a drop of the 29 V supply after a body's write.
  `calibrate_wp` is that statement: the calibration ends in `Calibrated` or in a shutdown
  called after a `descent`. The limit is tested after the write, so 204 counts are driven
  once before the loop gives up (`gate_limit`). `calibration_bounds` draws from it what is
  stored, for any readings.
-/
import Graviton.Descent
import Graviton.Checks

namespace Graviton

open Effects History

/-- How the loop ends after `k` bodies: amplifier on, or limit passed and back at the start. -/
def LoopEnds (k : Nat) (counts : UInt32) : Prop := (k ≤ 183 ∧ counts = countsAfter k) ∨ (k = 184 ∧ counts = countsAfter 0)

/-- The quiescent point is ten counts above the set point. -/
theorem quiescent_counts {n : UInt32} (h1 : 207 ≤ n.toNat) (h2 : n.toNat ≤ 390) :
    (convMvToDacCountsForVggCircuit (convDacCountsToMvForVggCircuit n - 100)).toNat = n.toNat + 10 := by
  have e : (100 : Int32).toInt = 100 := by decide
  have hv := vgg_mv_of_lt (n := n) (by omega)
  have hs : (convDacCountsToMvForVggCircuit n - 100).toInt = -((n.toNat * 10000 / 1023 : Nat) : Int) - 100 := by
    rw [Exact.int32_sub (by rw [hv, e]; omega) (by rw [hv, e]; omega), hv, e]
  rw [vgg_counts (by rw [hs]; omega) (by rw [hs]; omega), hs]
  omega

/-! ## The calibration -/

/-- The writes of a calibration that stores `n`, after `k` bodies of its loop. -/
def calibrationWrites (c : Afe) (k : Nat) (n : UInt32) : List Write :=
  dacWrite c gravDacPaEn gravDacPaEnRx :: dacWrite c gravDacVgset n.toUInt16 :: descent c k

theorem descent_chip (c : Afe) (k : Nat) : ∀ p ∈ descent c k, p.1.1 = c := by
  induction k with
  | zero => simp [descent, dacWrite]
  | succ k ih =>
    intro p hp
    rcases List.mem_cons.mp hp with rfl | hp
    · rfl
    · exact ih p hp

theorem calibrationWrites_chip (c : Afe) (k : Nat) (n : UInt32) : ∀ p ∈ calibrationWrites c k n, p.1.1 = c := by
  intro p hp
  rcases List.mem_cons.mp hp with rfl | hp
  · rfl
  rcases List.mem_cons.mp hp with rfl | hp
  · rfl
  exact descent_chip c k p hp

/-- Every calibration begins with the gate at 388 counts and the amplifier on. -/
theorem descent_begins (c : Afe) (k : Nat) : descent c 0 <:+ descent c k := by
  induction k with
  | zero => exact List.suffix_rfl
  | succ k ih => exact ih.trans (List.suffix_cons _ _)

theorem calibration_begins (c : Afe) (k : Nat) (n : UInt32) : descent c 0 <:+ calibrationWrites c k n :=
  (descent_begins c k).trans ((List.suffix_cons _ _).trans (List.suffix_cons _ _))

/-- What a calibration stores after `k` bodies of its loop. -/
def Stores (k : Nat) (n : UInt32) : Prop := (k ≤ 183 ∧ n.toNat = 390 - k) ∨ (k = 184 ∧ n.toNat = 390)

theorem Stores.ge {k : Nat} {n : UInt32} (h : Stores k n) : 207 ≤ n.toNat := by
  rcases h with h | h <;> omega

theorem Stores.le {k : Nat} {n : UInt32} (h : Stores k n) : n.toNat ≤ 390 := by
  rcases h with h | h <;> omega

theorem LoopEnds.stores {k : Nat} {counts : UInt32} (h : LoopEnds k counts) : Stores k (counts + 2) := by
  have h2 : (2 : UInt32).toNat = 2 := rfl
  rcases h with ⟨hk, rfl⟩ | ⟨hk, rfl⟩
  · left
    rw [Exact.uint32_add (by rw [countsAfter_toNat, h2]; omega), countsAfter_toNat, h2]
    exact ⟨hk, by omega⟩
  · right
    exact ⟨hk, by rw [Exact.uint32_add (by rw [countsAfter_toNat, h2]; omega), countsAfter_toNat, h2]⟩

/-- The bias points `n` and ten counts above it. -/
def Mem.setVg (m : Mem) (c : Afe) (n : UInt32) : Mem :=
  { m with afe := Function.update m.afe c { m.afe c with vgSetpoint := n, vgQuiescent := n + 10 } }

/-- A finished calibration. -/
structure Calibrated (c : Afe) (w0 : World) (k : Nat) (n : UInt32) (w : World) : Prop where
  stores : Stores k n
  step : Step w0 w (calibrationWrites c k n) []
  mem : w.mem = w0.mem.setVg c n
  reports : k = 184 → Logged calibrationFailed w0 w

/-- The set point written, the amplifier off, and the bias points stored. -/
theorem Descending.finished {c : Afe} {w0 w : World} {k : Nat} {counts : UInt32} (hd : Descending c w0 k w)
    (hl : LoopEnds k counts) (hrep : k = 184 → Logged calibrationFailed w0 w) (env : Env) :
    Calibrated c w0 k (counts + 2) (w.finished env c (counts + 2)) := by
  have hst := hl.stores
  have s1 := dacWrite_step hd.step.idle c gravDacVgset (counts + 2).toUInt16
  have s2 := dacWrite_step s1.idle c gravDacPaEn gravDacPaEnRx
  have q3 : Quiet (w.settled c (counts + 2)) ((w.settled c (counts + 2)).sensed env c) := sensed_quiet s2.idle
  have q4 : Quiet (w.settled c (counts + 2)) (w.reported env c (counts + 2)) :=
    q3.trans (quiet_printf q3.step.idle _ _ _)
  have hquies : convMvToDacCountsForVggCircuit (convDacCountsToMvForVggCircuit (counts + 2) - 100) =
      counts + 2 + 10 := by
    apply UInt32.toNat_inj.mp
    have h10 : (10 : UInt32).toNat = 10 := rfl
    have hle := hst.le
    rw [quiescent_counts hst.ge hle]
    generalize counts + 2 = n at hle
    rw [Exact.uint32_add (by rw [h10]; omega), h10]
  refine ⟨hst, ?_, ?_, fun hk => (hrep hk).within List.suffix_rfl ((s1.trans s2).log.trans q4.step.log)⟩
  · exact (hd.step.trans (s1.trans s2)).trans (q4.step.trans (withMem_step q4.step.idle _))
  · rw [← hd.mem, Mem.setVg, ← hquies]
    rfl

/-- 204 counts are the first above the limit: the loop gives up in its 184th body. -/
theorem Tests.gave_up {c : Afe} {v29Bus : UInt32} {env : Env} {w w1 : World} {k : Nat} {counts : UInt32} (h : w.Idle)
    (ht : Tests c v29Bus env (w.entered env c) k counts w1) (hl : convDacCountsToMvForVggCircuit (counts - 1) > -2000) :
    Calibrated c w 184 (convMvToDacCountsForVggCircuit (-3800) + 2)
      (((w1.dotted env c (counts - 1)).push calibrationFailed).finished env c
        (convMvToDacCountsForVggCircuit (-3800) + 2)) := by
  obtain ⟨_, rfl, hk⟩ := ht.at (entered_idle h)
  have hd := ht.descending h
  rw [countsAfter_succ (by omega), limit_counts (by rw [countsAfter_toNat]; omega), countsAfter_toNat] at hl
  obtain rfl : k = 183 := by omega
  have hd1 := hd.dotted hk env
  have hrep : Logged calibrationFailed w ((w1.dotted env c (countsAfter 183 - 1)).push calibrationFailed) :=
    ⟨_, hd1.step.log, List.suffix_rfl⟩
  have hd2 : Descending c w 184 ((w1.dotted env c (countsAfter 183 - 1)).push calibrationFailed) :=
    hd1.quiet (quiet_printf hd1.step.idle _ _ _)
  exact hd2.finished (Or.inr ⟨rfl, start_counts⟩) (fun _ => hrep) env

/-- How a calibration ends: finished, or in a shutdown called after a body's write. -/
theorem calibrate_wp (c : Afe) (env : Env) {w : World} (h : w.Idle) :
    wp (calibratePowerAmplifier c) (fun _ w' => ∃ k n, Calibrated c w k n w')
      (Exit env fun w' => ∃ k, 1 ≤ k ∧ k ≤ 184 ∧ Descending c w k w') env w := by
  obtain ⟨k, counts, w1, ht, hend⟩ := calibrate_cases c env h
  have hd := ht.descending h
  rcases hend with ⟨_, he⟩ | ⟨_, _, w2, hs, he⟩ | ⟨_, hl, he⟩
  · obtain ⟨hi, rfl, hk⟩ := ht.at (entered_idle h)
    have hd1 : Descending c w k (w1.sensed env c) := hd.quiet (sensed_quiet hi)
    exact wp_of_ok he ⟨k, _, hd1.finished (Or.inl ⟨hk, rfl⟩) (fun h184 => by omega) env⟩
  · obtain ⟨_, rfl, hk⟩ := ht.at (entered_idle h)
    have hp := hd.probed hk env
    exact wp_of_error he ⟨_, _, _, _, hp.step.idle, ⟨k + 1, by omega, by omega, hp⟩, hs⟩
  · exact wp_of_ok he ⟨184, _, ht.gave_up h hl⟩

/-! ## The gate and its limit -/

/-- Counts in the DAC's range survive the way into its register. -/
theorem dac_counts {n : UInt32} (h : n.toNat < 1024) : ((0x03FF : UInt16) &&& n.toUInt16).toUInt32 = n := by
  rw [bias_mask h]
  apply UInt32.toNat_inj.mp
  rw [UInt16.toNat_toUInt32, UInt32.toNat_toUInt16]
  omega

theorem countsAfter_dac (k : Nat) : (0x03FF &&& (countsAfter k).toUInt16).toUInt32 = countsAfter k :=
  dac_counts (by rw [countsAfter_toNat]; omega)

/-- The writes to VGSET in a descent, each with the moment before it. -/
theorem descent_vgset {c : Afe} {j : Nat} {v : UInt16} {k : List Write}
    (h : (((c, AfeReg.vgset.addr), v) :: k) <:+ descent c j) :
    ∃ i, i ≤ j ∧ v.toUInt32 = countsAfter i ∧ (1 ≤ i → k = descent c (i - 1)) := by
  induction j with
  | zero =>
    rcases List.suffix_cons_iff.mp h with he | h
    · have hk : ((c, AfeReg.vgset.addr), v) = dacWrite c gravDacPaEn gravDacPaEnTx := (List.cons.inj he).1
      exact absurd (Prod.mk.inj (Prod.mk.inj hk).1).2 (by decide)
    rcases List.suffix_cons_iff.mp h with he | h
    · have hv : v = _ := (Prod.mk.inj (List.cons.inj he).1).2
      exact ⟨0, Nat.le_refl 0, by rw [hv]; exact countsAfter_dac 0, fun h => by omega⟩
    · exact absurd (List.suffix_nil.mp h) (List.cons_ne_nil _ _)
  | succ j ih =>
    rcases List.suffix_cons_iff.mp h with he | h
    · have hv : v = _ := (Prod.mk.inj (List.cons.inj he).1).2
      exact ⟨j + 1, Nat.le_refl _, by rw [hv]; exact countsAfter_dac _, fun _ => (List.cons.inj he).2⟩
    · obtain ⟨i, hi, hv, hk⟩ := ih h
      exact ⟨i, by omega, hv, hk⟩

/-- The shutdown moves no gate while the amplifier is on. -/
theorem shutdown_vgset {c : Afe} {v : UInt16} {l k : List Write}
    (h : (((c, AfeReg.vgset.addr), v) :: k) <:+ shutdownWrites ++ l) (hon : held k c .paEn = some 0x3FF) :
    (((c, AfeReg.vgset.addr), v) :: k) <:+ l := by
  have hall : ∀ m ∈ shutdownWrites.tails, ∀ p ∈ m.head?, p.1 = (c, AfeReg.vgset.addr) →
      held m.tail c .paEn = some 0 := by cases c <;> decide
  rcases suffix_append_cases h with h | ⟨m, hm, hne, he⟩
  · exact h
  cases m with
  | nil => exact absurd rfl hne
  | cons p m =>
    rw [List.cons_append] at he
    obtain ⟨rfl, rfl⟩ := List.cons.inj he
    have hoff := lookup_append_some (l := l) (hall _ ((List.mem_tails _ _).mpr hm) _ rfl rfl)
    rw [List.tail_cons] at hoff
    rw [held, hoff] at hon
    exact absurd hon (by decide)

/-- Every value written to VGSET while the amplifier is on stays at or below `limit`. -/
def GateWithin (limit : Int) (c : Afe) (env : Env) (w : World) : Prop :=
  ∀ n v k, (final (calibratePowerAmplifier c env w)).writes = n ++ w.writes →
    (((c, AfeReg.vgset.addr), v) :: k) <:+ n → held (k ++ w.writes) c .paEn = some 0x3FF →
      (convDacCountsToMvForVggCircuit v.toUInt32).toInt ≤ limit

/-- What a calibration wrote when it ended: it returned after `k` bodies of the loop, or was
    reset after some. -/
theorem calibration_cases (c : Afe) (env : Env) {w : World} (h : w.Idle) :
    (∃ w' k n, calibratePowerAmplifier c env w = .ok () w' ∧ Calibrated c w k n w') ∨
      ∃ w' k, calibratePowerAmplifier c env w = .error .systemReset w' ∧ k ≤ 184 ∧
        w'.writes = shutdownWrites ++ (descent c k ++ w.writes) := by
  have hwp := calibrate_wp c env h
  cases hr : calibratePowerAmplifier c env w with
  | ok a w' =>
    obtain ⟨k, n, hc⟩ := wp_ok hwp hr
    exact Or.inl ⟨w', k, n, rfl, hc⟩
  | error e w' =>
    obtain ⟨rfl, w1, _, ⟨k, _, hk, hd⟩, hs⟩ := (wp_error hwp hr).writes
    exact Or.inr ⟨w', k, rfl, hk, by rw [hs.writes, hd.step.writes]⟩

theorem driven_in_descent {c : Afe} {j : Nat} {v : UInt16} {k : List Write} (hj : j ≤ 184)
    (h : (((c, AfeReg.vgset.addr), v) :: k) <:+ descent c j) :
    (convDacCountsToMvForVggCircuit v.toUInt32).toInt ≤ -1994 ∧
      (-2000 < (convDacCountsToMvForVggCircuit v.toUInt32).toInt → v = 204 ∧ j = 184 ∧ k = descent c 183) := by
  obtain ⟨i, hi, hv, hk⟩ := descent_vgset h
  have hn := countsAfter_toNat i
  rw [hv, vgg_mv_of_lt (by omega), hn]
  refine ⟨by omega, fun hl => ?_⟩
  have h184 : i = 184 := by omega
  refine ⟨?_, by omega, by rw [hk (by omega), h184]⟩
  have hv' : v.toUInt32.toNat = 204 := by rw [hv, hn, h184]
  exact UInt16.toNat_inj.mp hv'

/-- The set point a calibration stores is far below the limit. -/
theorem Stores.gate {k : Nat} {n : UInt32} (h : Stores k n) : (convDacCountsToMvForVggCircuit n).toInt ≤ -2023 := by
  have hge := h.ge
  have hle := h.le
  rw [vgg_mv_of_lt (by omega)]
  omega

section

variable {c : Afe} {env : Env} {w w' : World} {n k : List Write} {v : UInt16}

/-- A value driven during a calibration that returned: the set point, or one of the descent. -/
theorem driven_returned {j : Nat} {m : UInt32} (hc : Calibrated c w j m w') (hn : w'.writes = n ++ w.writes)
    (hs : (((c, AfeReg.vgset.addr), v) :: k) <:+ n) :
    v.toUInt32 = m ∨ (((c, AfeReg.vgset.addr), v) :: k) <:+ descent c j := by
  rw [hc.step.writes] at hn
  rw [← List.append_cancel_right hn] at hs
  rcases List.suffix_cons_iff.mp hs with he | hs
  · have hk : ((c, AfeReg.vgset.addr), v) = dacWrite c gravDacPaEn gravDacPaEnRx := (List.cons.inj he).1
    exact absurd (Prod.mk.inj (Prod.mk.inj hk).1).2 (by decide)
  rcases List.suffix_cons_iff.mp hs with he | hs
  · have hv : v = _ := (Prod.mk.inj (List.cons.inj he).1).2
    have hle := hc.stores.le
    left
    rw [hv]
    exact dac_counts (by omega)
  · exact Or.inr hs

/-- A value driven during a calibration that was reset with the amplifier on: one of the descent. -/
theorem driven_reset {j : Nat} (hw : w'.writes = shutdownWrites ++ (descent c j ++ w.writes))
    (hn : w'.writes = n ++ w.writes) (hs : (((c, AfeReg.vgset.addr), v) :: k) <:+ n)
    (hon : held (k ++ w.writes) c .paEn = some 0x3FF) : (((c, AfeReg.vgset.addr), v) :: k) <:+ descent c j := by
  have hs' : (((c, AfeReg.vgset.addr), v) :: (k ++ w.writes)) <:+ shutdownWrites ++ (descent c j ++ w.writes) := by
    rw [← hw, hn]
    exact List.suffix_append_self_iff.mpr hs
  exact List.suffix_append_self_iff.mp (shutdown_vgset hs' hon)

/-- What is driven while the amplifier is on, and how a run ends that drives past the limit. -/
theorem driven (h : w.Idle) (hn : (final (calibratePowerAmplifier c env w)).writes = n ++ w.writes)
    (hs : (((c, AfeReg.vgset.addr), v) :: k) <:+ n) (hon : held (k ++ w.writes) c .paEn = some 0x3FF) :
    (convDacCountsToMvForVggCircuit v.toUInt32).toInt ≤ -1994 ∧
      (-2000 < (convDacCountsToMvForVggCircuit v.toUInt32).toInt →
        v = 204 ∧ k = descent c 183 ∧
          ((∃ w', calibratePowerAmplifier c env w = .error .systemReset w') ∨
            ∃ w', calibratePowerAmplifier c env w = .ok () w' ∧ Logged calibrationFailed w w' ∧
              (w'.mem.afe c).vgSetpoint = 390)) := by
  rcases calibration_cases c env h with ⟨w', j, m, hr, hc⟩ | ⟨w', j, hr, hj, hw⟩
  · rw [hr, final_ok] at hn
    rcases driven_returned hc hn hs with hv | hs
    · have hg := hc.stores.gate
      rw [hv]
      exact ⟨by omega, fun hl => by omega⟩
    · have hj : j ≤ 184 := by rcases hc.stores with hs | hs <;> omega
      obtain ⟨hle, hlast⟩ := driven_in_descent hj hs
      refine ⟨hle, fun hl => ?_⟩
      obtain ⟨hv, h184, hk⟩ := hlast hl
      refine ⟨hv, hk, Or.inr ⟨w', hr, hc.reports h184, ?_⟩⟩
      have hm : m = 390 := by
        apply UInt32.toNat_inj.mp
        show m.toNat = 390
        rcases hc.stores with hs | hs <;> omega
      rw [hc.mem, ← hm]
      simp [Mem.setVg]
  · rw [hr, final_error] at hn
    obtain ⟨hle, hlast⟩ := driven_in_descent hj (driven_reset hw hn hs hon)
    refine ⟨hle, fun hl => ?_⟩
    obtain ⟨hv, _, hk⟩ := hlast hl
    exact ⟨hv, hk, Or.inl ⟨w', hr⟩⟩

end

/-- Every register reads 80: 69 mA at any gate voltage, and a steady supply. -/
def deadAmplifier : Env where
  miso := fun _ _ i => if i = 2 then 80 else 0
  extOsc := fun _ => true
  intOsc := fun _ => true
  readable := fun _ => false
  getc := fun _ => 0
  devId := (0, 0, 0)
  lm5331 := fun _ => 0

/-- The gate goes past -2000 mV by one count and at most one write, the last of the loop;
    the run that writes it resets, or reports the failure and stores 390 counts. -/
theorem gate_limit (c : Afe) (env : Env) {w : World} (h : w.Idle) :
    GateWithin (-1994) c env w ∧
      ∀ n v k, (final (calibratePowerAmplifier c env w)).writes = n ++ w.writes →
        (((c, AfeReg.vgset.addr), v) :: k) <:+ n → held (k ++ w.writes) c .paEn = some 0x3FF →
          -2000 < (convDacCountsToMvForVggCircuit v.toUInt32).toInt →
            v = 204 ∧ k = descent c 183 ∧
              ((∃ w', calibratePowerAmplifier c env w = .error .systemReset w') ∨
                ∃ w', calibratePowerAmplifier c env w = .ok () w' ∧ Logged calibrationFailed w w' ∧
                  (w'.mem.afe c).vgSetpoint = 390) := by
  constructor
  · intro n v k hn hs hon
    exact (driven h hn hs hon).1
  · intro n v k hn hs hon
    exact (driven h hn hs hon).2

theorem gate_limit_dead : GateWithin (-1994) .afeA deadAmplifier idleWorld :=
  (gate_limit .afeA deadAmplifier ⟨rfl, rfl⟩).1

theorem dead_drawn (c : Afe) (w : World) : drawn c deadAmplifier w = 69 := by
  show convMvIPa (mvOf (word 0 80) .gain1x) = 69
  decide

theorem dead_supply (w : World) : supply deadAmplifier w = 4518 := by
  show convMvV29 (mvOf (word 0 80) .gain1x) = 4518
  decide

/-- The loop of a dead amplifier runs until it gives up. -/
theorem dead_calibrated (c : Afe) {w : World} (h : w.Idle) :
    ∃ n w', calibratePowerAmplifier c deadAmplifier w = .ok () w' ∧ Calibrated c w 184 n w' := by
  obtain ⟨k, counts, w1, ht, ⟨hi, _⟩ | ⟨_, hv, _⟩ | ⟨_, hl, he⟩⟩ := calibrate_cases c deadAmplifier h
  · rw [dead_drawn] at hi
    exact absurd (by decide) hi
  · rw [dead_supply, dead_supply] at hv
    exact absurd hv (by decide)
  · exact ⟨_, _, he, ht.gave_up h hl⟩

/-- With a dead amplifier the loop drives 204 counts, -1994 mV, with the amplifier on. -/
theorem gate_above_limit : ¬ ∀ c env w, w.Idle → GateWithin (-2000) c env w := by
  intro h
  obtain ⟨n, w', hr, hc⟩ := dead_calibrated .afeA (w := idleWorld) ⟨rfl, rfl⟩
  have hw : (final (calibratePowerAmplifier .afeA deadAmplifier idleWorld)).writes =
      calibrationWrites .afeA 184 n ++ idleWorld.writes := by
    rw [hr, final_ok]
    exact hc.step.writes
  have hle := h .afeA deadAmplifier idleWorld ⟨rfl, rfl⟩ _ _ (descent .afeA 183) hw
    ((List.suffix_cons _ _).trans (List.suffix_cons _ _)) (descent_held .afeA 183 _).1
  exact absurd hle (by decide)

/-! ## What it stores -/

/-- For any readings the loop runs its body at most 184 times and its counter stays above
    204, and what a calibration that returns stores is in range and left in the registers. -/
theorem calibration_bounds (c : Afe) (env : Env) {w : World} (h : w.Idle) :
    (∀ v29Bus w0 k counts w1, w0.Idle → Tests c v29Bus env w0 k counts w1 → k + 1 ≤ 184 ∧ 204 < counts.toNat) ∧
      (∀ v29Bus w0 fuel w1, w0.Idle → 184 ≤ fuel →
        calibrateLoop c v29Bus fuel (convMvToDacCountsForVggCircuit (-3800)) env w0 ≠ .error .outOfFuel w1) ∧
      (Resets (calibratePowerAmplifier c) env w ∨ ∃ w', calibratePowerAmplifier c env w = .ok () w' ∧
        207 ≤ (w'.mem.afe c).vgSetpoint.toNat ∧ (w'.mem.afe c).vgSetpoint.toNat ≤ 390 ∧
        (w'.mem.afe c).vgQuiescent.toNat = (w'.mem.afe c).vgSetpoint.toNat + 10 ∧
        held w'.writes c .vgset = some (w'.mem.afe c).vgSetpoint.toUInt16 ∧ held w'.writes c .paEn = some 0) := by
  refine ⟨fun v29Bus w0 k counts w1 h0 ht => ?_, fun v29Bus w0 fuel w1 h0 hf hr => ?_, ?_⟩
  · obtain ⟨_, hc, hk⟩ := ht.at h0
    rw [hc, countsAfter_toNat]
    omega
  · obtain ⟨k, counts, w2, _, hend⟩ := loop_runs c v29Bus env h0 hf
    rw [hr] at hend
    cases hend
  · rcases calibration_cases c env h with ⟨w', k, n, hr, hc⟩ | ⟨w', _, hr, _⟩
    · right
      have hge := hc.stores.ge
      have hle := hc.stores.le
      have hafe : w'.mem.afe c = { w.mem.afe c with vgSetpoint := n, vgQuiescent := n + 10 } := by
        rw [hc.mem]
        simp [Mem.setVg]
      have h10 : (10 : UInt32).toNat = 10 := rfl
      refine ⟨w', hr, ?_⟩
      rw [hafe, hc.step.writes]
      refine ⟨hge, hle, by rw [Exact.uint32_add (by rw [h10]; omega), h10], ?_, List.lookup_cons_self⟩
      have hvg : held (calibrationWrites c k n ++ w.writes) c .vgset = some (0x03FF &&& n.toUInt16) := by
        show List.lookup (c, AfeReg.vgset.addr) (dacWrite c gravDacPaEn gravDacPaEnRx :: _) = _
        rw [History.lookup_cons_ne (by cases c <;> decide)]
        exact List.lookup_cons_self
      rw [hvg, bias_mask (by omega)]
    · exact Or.inl ⟨w', hr⟩

theorem calibration_bounds_dead : Resets (calibratePowerAmplifier .afeA) deadAmplifier idleWorld ∨
    ∃ w', calibratePowerAmplifier .afeA deadAmplifier idleWorld = .ok () w' ∧
      207 ≤ (w'.mem.afe .afeA).vgSetpoint.toNat ∧ (w'.mem.afe .afeA).vgSetpoint.toNat ≤ 390 ∧
      (w'.mem.afe .afeA).vgQuiescent.toNat = (w'.mem.afe .afeA).vgSetpoint.toNat + 10 ∧
      held w'.writes .afeA .vgset = some (w'.mem.afe .afeA).vgSetpoint.toUInt16 ∧ held w'.writes .afeA .paEn = some 0 :=
  (calibration_bounds .afeA deadAmplifier ⟨rfl, rfl⟩).2.2

end Graviton
