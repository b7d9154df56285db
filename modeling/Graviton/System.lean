/-
  Graviton.System — what holds on every run of the firmware.

  - `failsafe`: every reset is a shutdown called between two driver calls, and a shutdown
    called there, in whatever state, switches both amplifiers off first, removes the
    supplies after that, and leaves both channels safe.
  - `channels_refine`: the registers of a channel are those of the setting the last
    effective byte asked for, and only such a byte writes to the channel.
  - `gating`: the DAC output is enabled exactly while a channel transmits, by the pin that
    `sif_txenable` leaves in control, at the last current set.
-/
import Graviton.Loop

namespace Graviton

open Effects History

/-! ## The shutdown -/

/-- The writes `n` of a shutdown, made after the writes `l`. -/
structure FailSafe (n l : List Write) : Prop where
  /-- The first write to each channel switches its amplifier off. -/
  first : ∀ c, c ≠ .afe0 → (toChip c n).getLast? = some ((c, AfeReg.paEn.addr), 0)
  /-- Both are off whenever the output register of the main board is written. -/
  supplies : ∀ p k, (p :: k) <:+ n → p.1 = (.afe0, amcGpioOut) →
    ∀ c, c ≠ .afe0 → held (k ++ l) c .paEn = some 0
  safe : ∀ c, c ≠ .afe0 → Shows (n ++ l) c (mkRegs 0 0x3FF 0 0x3FF gravAfeSafe)
  off : held (n ++ l) .afe0 .gpioOut = some 0

theorem shutdown_failsafe (l : List Write) : FailSafe shutdownWrites l := by
  refine ⟨?_, ?_, ?_, rfl⟩
  · intro c hc
    cases c with
    | afe0 => exact absurd rfl hc
    | afeA => decide
    | afeB => decide
  · intro p k hk hp c hc
    rw [shutdown_supplies_last hk hp]
    cases c with
    | afe0 => exact absurd rfl hc
    | afeA => rfl
    | afeB => rfl
  · intro c hc
    exact shows_shutdown l hc (resetMem.afe c)

/-- A shutdown out of any state between two driver calls resets and is fail-safe; every
    reset of `main` is such a shutdown. -/
theorem failsafe (env : Env) :
    (∀ (α : Type) (w : World), w.Idle → ∀ reason reason2 reason3, ∃ w' n,
      (goSafeAndReset reason reason2 reason3 : Fw α) env w = .error .systemReset w' ∧
        w'.writes = n ++ w.writes ∧ FailSafe n w.writes ∧ w'.mem.gravMode = .safe) ∧
    ∀ n w', mainRun n env reset = .error .systemReset w' → ∃ w, w.Idle ∧ ∃ reason reason2 reason3,
      (goSafeAndReset reason reason2 reason3 : Fw LoopVars) env w = .error .systemReset w' := by
  have hreset : ∀ (α : Type) (w w' : World) reason reason2 reason3,
      shutdown reason reason2 reason3 env w = .ok () w' →
        (goSafeAndReset reason reason2 reason3 : Fw α) env w = .error .systemReset w' := by
    intro α w w' reason reason2 reason3 hr
    unfold goSafeAndReset
    rw [run_bind_ok hr]
    rfl
  constructor
  · intro α w hi reason reason2 reason3
    obtain ⟨w', hr, hs, hm⟩ := shutdown_run reason reason2 reason3 env hi
    exact ⟨w', shutdownWrites, hreset α w w' _ _ _ hr, hs.writes, shutdown_failsafe _, by rw [hm]; rfl⟩
  · intro n w' hrun
    have hexit := wp_error (mainRun_wp env n) hrun
    rcases hexit with (⟨he, _⟩ | ⟨_, w, r, r2, r3, hi, _, hr⟩) | ⟨w, r, r2, r3, hi, _, hr⟩
    · cases he
    · exact ⟨w, hi, r, r2, r3, hreset _ w w' _ _ _ hr⟩
    · exact ⟨w, hi, r, r2, r3, hreset _ w w' _ _ _ hr⟩

/-- Inside a calibration: the amplifier of channel A is on, its object says safe. -/
def calibratingWorld : World := idleWorld.wroteAll (descent .afeA 3)

theorem failsafe_calibrating : held calibratingWorld.writes .afeA .paEn = some 0x3FF ∧ ∃ w' n,
    (goSafeAndReset "V29 drop during calibration" none 0 : Fw UInt32) deadAmplifier calibratingWorld =
        .error .systemReset w' ∧
      w'.writes = n ++ calibratingWorld.writes ∧ FailSafe n calibratingWorld.writes ∧ w'.mem.gravMode = .safe :=
  ⟨by decide, (failsafe deadAmplifier).1 UInt32 calibratingWorld (wroteAll_idle.mpr ⟨rfl, rfl⟩) _ _ _⟩

/-! ## The channels -/

theorem Moves.toChip {w w' : World} (h : Moves w w') {c : Afe} (hc : c ≠ .afe0) :
    ∃ n, w'.writes = n ++ w.writes ∧
      ((∀ msg, w'.received = msg :: w.received → effect c msg = none) → ∀ p ∈ n, p.1.1 ≠ c) := by
  cases h with
  | aside ha => exact ⟨[], ha.step.writes, fun _ p hp => absurd hp List.not_mem_nil⟩
  | @ran w1 _ _ msg ha hr ha' =>
    refine ⟨gateWrites (commandMem w1.mem msg) ++ commandWrites w1.mem msg, ?_, fun hno p hp => ?_⟩
    · rw [ha'.step.writes, hr.writes, ha.step.writes]
      simp only [List.nil_append, List.append_assoc]
    · have hrec : w'.received = msg :: w.received := by rw [ha'.step.received, hr.received, ha.step.received]
      rcases List.mem_append.mp hp with hp | hp
      · unfold gateWrites at hp
        split at hp
        · exact absurd hp List.not_mem_nil
        · rw [List.mem_singleton.mp hp]; exact Ne.symm hc
      · intro e
        have hmem : p ∈ Graviton.toChip c (commandWrites w1.mem msg) := List.mem_filter.mpr ⟨hp, by simpa using e⟩
        rw [commandWrites_toChip _ _ hc, hno msg hrec] at hmem
        exact absurd hmem List.not_mem_nil

/-- The last effective byte alone determines a channel, and no other byte writes to it. -/
theorem channels_refine {env : Env} {w0 w : World} (h : LoopRun env w0 w) {c : Afe} (hc : c ≠ .afe0) :
    (w.mem.afe c).mode = (lastSetting c w.received).mode ∧
      Shows w.writes c ((lastSetting c w.received).regs (w0.mem.afe c)) ∧ Biased (w0.mem.afe c) ∧
      ∀ w', LoopStep env w w' → ∃ n, w'.writes = n ++ w.writes ∧
        ((∀ msg, w'.received = msg :: w.received → effect c msg = none) → ∀ p ∈ n, p.1.1 ≠ c) := by
  have hl := h.looped
  obtain ⟨hm, hregs⟩ := hl.setting c hc
  rw [regs_congr (hl.setpoint c) (hl.quiescent c)] at hregs
  exact ⟨hm, hregs, h.booted.2.biased c hc, fun w' hs => (hs.moves hl.idle).toChip hc⟩

/-- The same board, sent op code 3 for channel A whenever the loop looks. -/
def transmitEnv : Env := { healthyEnv with readable := fun _ => true, getc := fun _ => csOpCode3 }

set_option maxRecDepth 100000 in
theorem transmit_loops : ∃ w0 w, LoopRun transmitEnv w0 w ∧ w.received = [csOpCode3] := by
  have h : returned (mainRun 1 transmitEnv reset) = true ∧
      (final (mainRun 1 transmitEnv reset)).received = [csOpCode3] := by decide +kernel
  obtain ⟨v, w, hw⟩ := returned_ok h.1
  obtain ⟨w0, hrun⟩ := mainRun_loops hw
  rw [hw, final_ok] at h
  exact ⟨w0, w, hrun, h.2⟩

theorem channels_refine_transmit : ∃ w0 w, LoopRun transmitEnv w0 w ∧ w.received = [csOpCode3] ∧
    (w.mem.afe .afeA).mode = (lastSetting .afeA w.received).mode ∧
      Shows w.writes .afeA ((lastSetting .afeA w.received).regs (w0.mem.afe .afeA)) ∧ Biased (w0.mem.afe .afeA) ∧
      ∀ w', LoopStep transmitEnv w w' → ∃ n, w'.writes = n ++ w.writes ∧
        ((∀ msg, w'.received = msg :: w.received → effect .afeA msg = none) → ∀ p ∈ n, p.1.1 ≠ .afeA) := by
  obtain ⟨w0, w, hrun, hr⟩ := transmit_loops
  exact ⟨w0, w, hrun, hr, channels_refine hrun (by decide)⟩

/-! ## The DAC output -/

theorem lastCurrent_lt (received : List UInt8) : (lastCurrent received).toNat < 16 := by
  induction received with
  | nil => decide
  | cons msg received ih =>
    rw [lastCurrent_cons]
    unfold current opCurrent
    by_cases hr : csRx = csRxFlagMask &&& msg
    · rw [if_pos hr]; exact ih
    rw [if_neg hr]
    by_cases h4 : csOpCode4 ≤ csOpCodeMask &&& msg ∧ csOpCodeMask &&& msg ≤ csOpCode19
    · rw [if_pos h4]
      have hlt := current_lt h4
      rw [UInt8.le_iff_toNat_le] at hlt
      have h16 : (16 : UInt8).toNat = 16 := rfl
      exact Nat.lt_of_not_le (h16 ▸ hlt)
    · rw [if_neg h4]; exact ih

/-- A current in its place in config3, `sif_txenable` clear. -/
theorem config3_fields (n : Fin 16) :
    word (Dac3484.coarse (UInt8.ofNat n.val)) 0x00 &&& 1 = 0 ∧
      word (Dac3484.coarse (UInt8.ofNat n.val)) 0x00 >>> 12 = (UInt8.ofNat n.val).toUInt16 := by
  revert n; decide

/-- After every iteration the DAC output is enabled exactly while a channel transmits, the
    main board is set as its mode says, and the pin controls the output at the last current. -/
theorem gating {env : Env} {w0 w : World} (h : LoopRun env w0 w) :
    (∃ g, held w.writes .afe0 .gpioOut = some g ∧ g = gravGpio w.mem.gravMode ∧
      (g &&& gravEnTx ≠ 0 ↔ (w.mem.afe .afeA).mode = .tx ∨ (w.mem.afe .afeB).mode = .tx)) ∧
    ∃ v, w.config3.head? = some v ∧ v &&& 1 = 0 ∧ v >>> 12 = (lastCurrent w.received).toUInt16 := by
  have hl := h.looped
  constructor
  · refine ⟨_, hl.gpio, rfl, ?_⟩
    by_cases htx : (w.mem.afe .afeA).mode = .tx ∨ (w.mem.afe .afeB).mode = .tx
    · have hgate : gate w.mem = .txEn := if_pos htx
      rcases hl.gated with hg | ⟨_, hg⟩
      · rw [hg, hgate]
        exact ⟨fun _ => htx, fun _ => by decide⟩
      · rw [hgate] at hg; cases hg
    · have hgate : gate w.mem = .txDis := if_neg htx
      have hoff : gravGpio w.mem.gravMode &&& gravEnTx = 0 := by
        rcases hl.gated with hg | ⟨hg, _⟩
        · rw [hg, hgate]; decide
        · rw [hg]; decide
      exact ⟨fun hne => absurd hoff hne, fun ht => absurd ht htx⟩
  · refine ⟨_, hl.config3, ?_⟩
    have hf := config3_fields ⟨(lastCurrent w.received).toNat, lastCurrent_lt _⟩
    have he : UInt8.ofNat (lastCurrent w.received).toNat = lastCurrent w.received := UInt8.ofNat_toNat
    rw [he] at hf
    exact hf

theorem gating_transmit : ∃ w0 w, LoopRun transmitEnv w0 w ∧ w.received = [csOpCode3] ∧
    (∃ g, held w.writes .afe0 .gpioOut = some g ∧ g = gravGpio w.mem.gravMode ∧
      (g &&& gravEnTx ≠ 0 ↔ (w.mem.afe .afeA).mode = .tx ∨ (w.mem.afe .afeB).mode = .tx)) ∧
    ∃ v, w.config3.head? = some v ∧ v &&& 1 = 0 ∧ v >>> 12 = (lastCurrent w.received).toUInt16 := by
  obtain ⟨w0, w, hrun, hr⟩ := transmit_loops
  exact ⟨w0, w, hrun, hr, gating hrun⟩

end Graviton
