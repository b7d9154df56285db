/-
  Graviton.Loop — what an iteration of the main loop does, and every run of it.

  Between two command bytes nothing is written and no mode changes (`Aside`); a byte is
  carried out and the DAC output gated after it (`Ran`). An iteration is such a move, with
  one byte at most, or a shutdown out of one (`mainIteration_wp`). `LoopRun env w0 w`: from
  the state `w0` that `init` left, iterations, telemetry dumps and safety checks in any
  order led to `w`; the runs of `main` are among these (`mainRun_loops`).
-/
import Graviton.Interlock

namespace Graviton

open Effects History

/-! ## Moves -/

/-- Nothing written, no byte taken, no mode changed. -/
structure Aside (w w' : World) : Prop where
  step : Step w w' [] []
  afe : w'.mem.afe = w.mem.afe
  gravMode : w'.mem.gravMode = w.mem.gravMode

theorem Aside.refl {w : World} (h : w.Idle) : Aside w w := ⟨.refl h, rfl, rfl⟩

theorem Aside.trans {w w' w'' : World} (h : Aside w w') (h' : Aside w' w'') : Aside w w'' :=
  ⟨h.step.trans h'.step, h'.afe.trans h.afe, h'.gravMode.trans h.gravMode⟩

theorem Quiet.aside {w w' : World} (h : Quiet w w') : Aside w w' := ⟨h.step, by rw [h.mem], by rw [h.mem]⟩

theorem Checked.aside {w w' : World} (h : Checked w w') : Aside w w' := ⟨h.step, h.afe, h.gravMode⟩

/-- What the modes of the two channels call for on the main board. -/
def gate (m : Mem) : GravMode :=
  if (m.afe .afeA).mode = .tx ∨ (m.afe .afeB).mode = .tx then .txEn else .txDis

/-- The output register of the main board in each of its modes. -/
def gravGpio : GravMode → UInt16
  | .safe => gravMainDefaults
  | .txDis => gravMainPowerOnTxOff
  | .txEn => gravMainPowerOnTxOn

def gateWrites (m : Mem) : List Write :=
  if m.gravMode = gate m then [] else [((.afe0, amcGpioOut), gravGpio (gate m))]

/-- Byte `msg` was taken and carried out, and the DAC output gated. -/
structure Ran (msg : UInt8) (w w' : World) : Prop where
  idle : w'.Idle
  writes : w'.writes = gateWrites (commandMem w.mem msg) ++ (commandWrites w.mem msg ++ w.writes)
  config3 : w'.config3 = commandConfig3 msg ++ w.config3
  received : w'.received = msg :: w.received
  mem : w'.mem = { commandMem w.mem msg with gravMode := gate (commandMem w.mem msg) }

/-- A stretch of a run with at most one byte. -/
inductive Moves : World → World → Prop
  | aside {w w' : World} : Aside w w' → Moves w w'
  | ran {w w1 w2 w' : World} (msg : UInt8) : Aside w w1 → Ran msg w1 w2 → Aside w2 w' → Moves w w'

theorem Moves.before {w w1 w' : World} (hm : Moves w w1) (h : Aside w1 w') : Moves w w' := by
  cases hm with
  | aside h1 => exact .aside (h1.trans h)
  | ran msg h1 hr h2 => exact .ran msg h1 hr (h2.trans h)

theorem Moves.idle {w w' : World} (h : Moves w w') : w'.Idle := by
  cases h with
  | aside h => exact h.step.idle
  | ran _ _ _ h => exact h.step.idle

theorem Moves.grows {w w' : World} (h : Moves w w') : w.writes <:+ w'.writes := by
  have haside : ∀ {a b : World}, Aside a b → b.writes = a.writes := fun h => h.step.writes
  cases h with
  | aside h => exact ⟨[], (haside h).symm⟩
  | ran msg h hr h' =>
    rw [haside h', hr.writes, haside h]
    exact List.suffix_append_of_suffix (List.suffix_append _ _)

/-! ## One iteration -/

/-- A byte that asks nothing. -/
theorem Commanded.quiet {msg : UInt8} {w w' : World} (h : Commanded msg w w') (hA : effect .afeA msg = none)
    (hB : effect .afeB msg = none) (hc : current msg = none) : Quiet w w' := by
  obtain ⟨hs, hm⟩ := h
  unfold commandWrites commandConfig3 at hs
  unfold commandMem at hm
  rw [hA, hB, hc] at hs
  rw [hA, hB] at hm
  exact ⟨hs, hm⟩

theorem readOnly_changeState {msg : UInt8} (hA : effect .afeA msg = none) (hB : effect .afeB msg = none)
    (hc : current msg = none) : ReadOnly (changeState msg) := by
  intro env w h
  obtain ⟨w', hr, hw⟩ := changeState_run msg env h
  exact ⟨(), w', hr, hw.quiet hA hB hc⟩

/-- The periodic block sends telemetry and reads the DAC's registers back. -/
theorem periodic_run (v : LoopVars) (env : Env) {w : World} (h : w.Idle) :
    ∃ v' w', periodic v env w = .ok v' w' ∧ Quiet w w' ∧ v'.check = v.check := by
  have hread : ReadOnly (changeState csOpCode21) := readOnly_changeState (by decide) (by decide) (by decide)
  have hlast : ReadOnly (changeState csOpCode2) := readOnly_changeState (by decide) (by decide) (by decide)
  unfold periodic
  dsimp only
  by_cases hs : v.modeSwitched = 0
  · rw [if_pos hs]
    obtain ⟨_, w1, r1, q1⟩ := hread env w h
    obtain ⟨_, w2, r2, q2⟩ := hlast env w1 q1.step.idle
    obtain ⟨_, w3, r3, q3⟩ := readOnly_printf .fpga "hello\r\n" [] env w2 q2.step.idle
    rw [run_bind_ok r1, pure_bind, run_bind_ok r2, run_bind_ok r3]
    exact ⟨_, w3, rfl, q1.trans (q2.trans q3), rfl⟩
  · rw [if_neg hs]
    obtain ⟨_, w2, r2, q2⟩ := hlast env w h
    obtain ⟨_, w3, r3, q3⟩ := readOnly_printf .fpga "hello\r\n" [] env w2 q2.step.idle
    rw [pure_bind, run_bind_ok r2, run_bind_ok r3]
    exact ⟨_, w3, rfl, q2.trans q3, rfl⟩

/-- The main board is set as the channels' modes call for. -/
theorem gate_run (env : Env) {w : World} (h : w.Idle) :
    ∃ w', (if (w.mem.afe .afeA).mode = .tx ∨ (w.mem.afe .afeB).mode = .tx then configureGravOnWithTxOn .afe0
        else configureGravOnWithTxOff .afe0) env w = .ok () w' ∧
      Step w w' (gateWrites w.mem) [] ∧ w'.mem = { w.mem with gravMode := gate w.mem } := by
  have hlow : ∀ p ∈ gateWrites w.mem, p.1.2 < 0x80 := by
    unfold gateWrites
    split
    · exact fun p hp => absurd hp List.not_mem_nil
    · intro p hp
      rw [List.mem_singleton.mp hp]
      exact (by decide : amcGpioOut < 0x80)
  have hs := wroteAll_step h hlow
  by_cases hg : (w.mem.afe .afeA).mode = .tx ∨ (w.mem.afe .afeB).mode = .tx
  · have he : gate w.mem = .txEn := if_pos hg
    rw [if_pos hg, configureGravOnWithTxOn_run h .afe0 env]
    refine ⟨_, rfl, ?_, by rw [he]; rfl⟩
    unfold gateWrites at hs
    rw [he] at hs
    unfold gateWrites
    rw [he]
    exact hs.trans (withMem_step hs.idle _)
  · have he : gate w.mem = .txDis := if_neg hg
    rw [if_neg hg, configureGravOnWithTxOff_run h .afe0 env]
    refine ⟨_, rfl, ?_, by rw [he]; rfl⟩
    unfold gateWrites at hs
    rw [he] at hs
    unfold gateWrites
    rw [he]
    exact hs.trans (withMem_step hs.idle _)

theorem command_run (env : Env) {w : World} (h : w.Idle) :
    ∃ msg w', command env w = .ok () w' ∧ Ran msg w w' ∧ w.log <:+ w'.log := by
  let msg := env.getc w.log
  let w1 := w.push (.getc msg)
  have h1 : w1.Idle := push_idle.mpr h
  obtain ⟨w2, r2, c2⟩ := changeState_run msg env h1
  obtain ⟨_, w3, r3, q3⟩ := readOnly_printf .pc "received char: %d\r\n" [msg.toNat] env w2 c2.step.idle
  obtain ⟨_, w4, r4, q4⟩ := readOnly_printf .fpga "c: %d\r\n" [msg.toNat] env w3 q3.step.idle
  have q := q3.trans q4
  obtain ⟨w5, r5, s5, m5⟩ := gate_run env q.step.idle
  have hmem : w4.mem = commandMem w.mem msg := q.mem.trans c2.mem
  refine ⟨msg, w5, ?_, ⟨s5.idle, ?_, ?_, ?_, ?_⟩, ?_⟩
  · unfold command
    rw [run_bind_ok (show fpgaGetc env w = .ok msg w1 from rfl), run_bind_ok r2, run_bind_ok r3, run_bind_ok r4,
      run_bind_ok (run_getMem env w4)]
    exact r5
  · rw [s5.writes, q.step.writes, c2.step.writes, hmem]
    rfl
  · rw [s5.config3, q.step.config3, c2.step.config3]
    rfl
  · rw [s5.received, q.step.received, c2.step.received]
    rfl
  · rw [m5, hmem]
  · exact (List.suffix_cons _ w.log).trans (c2.step.log.trans (q.step.log.trans s5.log))

theorem or_ge (a b : UInt16) : a.toNat ≤ (a ||| b).toNat := by
  rw [UInt16.toNat_or]; exact Nat.left_le_or

/-- A check only reads, apart from the soft limits, and the next item is at most 22. -/
theorem safetyCheck_next {item : UInt16} (hi : item.toNat < 32) (env : Env) {w : World} (h : w.Idle) :
    wp (safetyCheck item) (fun n w' => Checked w w' ∧ n.toNat ≤ 22) (Exit env (Checked w)) env w := by
  have hwp : wp (safetyCheck item) (fun _ w' => Checked w w') (Exit env (Checked w)) env w := safetyCheck_wp hi h
  cases hr : safetyCheck item env w with
  | error e w' => exact wp_of_error hr (wp_error hwp hr)
  | ok n w' =>
    have hq := wp_ok hwp hr
    refine wp_of_ok hr ⟨hq, ?_⟩
    obtain ⟨d, _, ⟨_, rfl, _⟩ | ⟨body, hb, rfl, _⟩⟩ := safetyCheck_cases hr
    · decide
    · have hor := or_ge item d
      have hk : (item ||| d).toNat ≤ 21 := (safetyCase_isSome _).mp (by rw [hb]; rfl)
      rw [UInt16.toNat_add]
      show (item.toNat + 1) % 65536 ≤ 22
      omega

/-- An iteration until it makes its check. -/
def mainFirst (v : LoopVars) : Fw LoopVars := do
  let v ← if v.slow % 10000 = 0 then periodic v else pure v
  let v := { v with slow := v.slow + 1 }
  let readable ← fpgaReadable
  if readable then command
  return v

theorem mainIteration_eq (v : LoopVars) :
    mainIteration v = mainFirst v >>= fun v => do
      let check ← safetyCheck v.check
      return { v with check := check } := by
  unfold mainIteration mainFirst
  dsimp only
  by_cases hs : v.slow % 10000 = 0
  · rw [if_pos hs, if_pos hs, bind_assoc]
    refine congrArg (periodic v >>= ·) (funext fun v1 => ?_)
    rw [bind_assoc]
    refine congrArg (fpgaReadable >>= ·) (funext fun readable => ?_)
    cases readable with
    | false => rfl
    | true => rw [if_pos rfl, if_pos rfl, bind_assoc]; rfl
  · rw [if_neg hs, if_neg hs, pure_bind, pure_bind, bind_assoc]
    refine congrArg (fpgaReadable >>= ·) (funext fun readable => ?_)
    cases readable with
    | false => rfl
    | true => rw [if_pos rfl, if_pos rfl, bind_assoc]; rfl

theorem commandMem_soft (m : Mem) (msg : UInt8) : (commandMem m msg).soft = m.soft := by
  unfold commandMem
  rw [request_soft, request_soft]

/-- Before its check an iteration returns, with at most one byte carried out. -/
theorem mainFirst_run (v : LoopVars) (env : Env) {w : World} (h : w.Idle) :
    ∃ v' w', mainFirst v env w = .ok v' w' ∧ Moves w w' ∧ w.log <:+ w'.log ∧ w'.mem.soft = w.mem.soft ∧
      v'.check = v.check := by
  have hserve : ∀ (v : LoopVars) (w1 : World), Quiet w w1 →
      ∃ w', (do let readable ← fpgaReadable
                if readable then command
                return v : Fw LoopVars) env w1 = .ok v w' ∧ Moves w w' ∧ w.log <:+ w'.log ∧
        w'.mem.soft = w.mem.soft := by
    intro v w1 h1
    let w2 := w1.push (.readable (env.readable w1.log))
    have h2 : Quiet w w2 := h1.trans (.push h1.step.idle ⟨rfl, rfl, rfl⟩)
    have r2 : fpgaReadable env w1 = .ok (env.readable w1.log) w2 := rfl
    rw [run_bind_ok r2]
    dsimp only
    cases env.readable w1.log with
    | false => exact ⟨w2, rfl, .aside h2.aside, h2.step.log, congrArg Mem.soft h2.mem⟩
    | true =>
      obtain ⟨msg, w3, r3, c3, l3⟩ := command_run env h2.step.idle
      refine ⟨w3, ?_, .ran msg h2.aside c3 (.refl c3.idle), h2.step.log.trans l3, ?_⟩
      · rw [if_pos rfl, run_bind_ok r3]
        rfl
      · rw [c3.mem]
        exact (commandMem_soft _ _).trans (congrArg Mem.soft h2.mem)
  unfold mainFirst
  by_cases hs : v.slow % 10000 = 0
  · obtain ⟨v1, w1, r1, q1, hc⟩ := periodic_run v env h
    obtain ⟨w2, r2, h2⟩ := hserve { v1 with slow := v1.slow + 1 } w1 q1
    rw [if_pos hs, run_bind_ok r1]
    exact ⟨_, w2, r2, h2.1, h2.2.1, h2.2.2, hc⟩
  · obtain ⟨w2, r2, h2⟩ := hserve { v with slow := v.slow + 1 } w (.refl h)
    rw [if_neg hs]
    exact ⟨_, w2, r2, h2.1, h2.2.1, h2.2.2, rfl⟩

theorem mainIteration_wp {v : LoopVars} (hv : v.check.toNat < 32) (env : Env) {w : World} (h : w.Idle) :
    wp (mainIteration v) (fun v' w' => Moves w w' ∧ v'.check.toNat ≤ 22) (Exit env (Moves w)) env w := by
  obtain ⟨v1, w1, r1, h1, _, _, hc⟩ := mainFirst_run v env h
  rw [← hc] at hv
  rw [mainIteration_eq]
  refine wp_bind.mpr (wp_of_ok r1 (wp_bind.mpr (wp_mono (safetyCheck_next hv env h1.idle) ?_ ?_)))
  · intro n w2 hw
    exact wp_pure.mpr ⟨h1.before hw.1.aside, hw.2⟩
  · intro e w2 he
    exact he.mono fun w3 h3 => h1.before h3.aside

/-! ## Runs of the loop -/

/-- Something the loop does: an iteration, a telemetry dump, a safety check. -/
inductive LoopStep (env : Env) : World → World → Prop
  | iteration {w w' : World} (v v' : LoopVars) : v.check.toNat < 32 → mainIteration v env w = .ok v' w' →
      LoopStep env w w'
  | telemetry {w w' : World} (out : Port) : dumpTelemetry out env w = .ok () w' → LoopStep env w w'
  | check {w w' : World} (item n : UInt16) : item.toNat < 32 → safetyCheck item env w = .ok n w' → LoopStep env w w'

/-- From the state `w0` that `init` left, the loop got to `w`. -/
inductive LoopRun (env : Env) (w0 : World) : World → Prop
  | start {w : World} : init env reset = .ok () w0 → mainPrologue env w0 = .ok () w → LoopRun env w0 w
  | step {w w' : World} : LoopRun env w0 w → LoopStep env w w' → LoopRun env w0 w'

theorem LoopStep.moves {env : Env} {w w' : World} (h : LoopStep env w w') (hi : w.Idle) : Moves w w' := by
  cases h with
  | iteration v v' hv hr => exact (wp_ok (mainIteration_wp hv env hi) hr).1
  | telemetry out hr =>
    obtain ⟨_, w1, hr1, hq⟩ := readOnly_dumpTelemetry out env w hi
    obtain rfl := (EStateM.Result.ok.inj (hr1.symm.trans hr)).2
    exact .aside hq.aside
  | check item n hn hr => exact .aside (wp_ok (safetyCheck_wp hn hi) hr).aside

/-- What holds of nothing, of a disabled check, of a line, and of two such things in a row,
    holds of what is done for the broken boards. -/
theorem markBrokenBoards_rule {C : Fw Unit → Prop} (hpure : C (pure ()))
    (hbind : ∀ x y : Fw Unit, C x → C y → C (x >>= fun _ => y)) (hdisable : ∀ k, C (disableSafteyCheck k))
    (hline : ∀ text, C (printf .pc text [])) (devId : UInt32 × UInt32 × UInt32) : C (markBrokenBoards devId) := by
  have hite : ∀ (p : Prop) [Decidable p] (x y : Fw Unit), C x → C y → C (if p then x else y) := by
    intro p _ x y hx hy
    split
    · exact hx
    · exact hy
  -- the three boards, the last one first
  have h007 := hite (devId = board007) _ _ (hbind _ _ (hdisable 16)
    (hline "Board 007 has broken RX preamp #B sensor!!\r\n")) hpure
  have h021 := hite (devId = board021) _ _ (hbind _ _ (hdisable 11) (hbind _ _ (hdisable 10)
    (hbind _ _ (hline "Board 021 has broken LDO #A sensor!!\r\n")
      (hbind _ _ (hline "Board 021 has HOT RX preamp #A!!\r\n") h007)))) h007
  exact hite (devId = board012) _ _ (hbind _ _ (hdisable 12)
    (hbind _ _ (hline "Board 012 has broken PA #A sensor!!\r\n") h021)) h021

/-- Returns, having done nothing but change the disable vector. -/
def SetsBoards (x : Fw Unit) : Prop :=
  ∀ env w, w.Idle → ∃ w', x env w = .ok () w' ∧ Aside w w' ∧ w'.mem.soft = w.mem.soft

theorem SetsBoards.bind {x y : Fw Unit} (hx : SetsBoards x) (hy : SetsBoards y) : SetsBoards (x >>= fun _ => y) := by
  intro env w h
  obtain ⟨w1, r1, a1, s1⟩ := hx env w h
  obtain ⟨w2, r2, a2, s2⟩ := hy env w1 a1.step.idle
  exact ⟨w2, by rw [run_bind_ok r1, r2], a1.trans a2, s2.trans s1⟩

theorem ReadOnly.setsBoards {x : Fw Unit} (hx : ReadOnly x) : SetsBoards x := by
  intro env w h
  obtain ⟨_, w1, r1, q1⟩ := hx env w h
  exact ⟨w1, r1, q1.aside, by rw [q1.mem]⟩

theorem setsBoards_vector (v : Vector UInt16 32) : SetsBoards (setSafteyVector v) :=
  fun _ _ h => ⟨_, rfl, ⟨withMem_step h _, rfl, rfl⟩, rfl⟩

theorem setsBoards_disable (item : UInt16) : SetsBoards (disableSafteyCheck item) := by
  intro env w h
  unfold disableSafteyCheck
  rw [run_bind_ok (run_getMem env w)]
  split
  · exact (readOnly_pure ()).setsBoards env w h
  · exact setsBoards_vector _ env w h

theorem setsBoards_brokenBoards : SetsBoards initBrokenBoards := by
  have hmark := markBrokenBoards_rule (readOnly_pure ()).setsBoards (fun _ _ hx hy => SetsBoards.bind hx hy)
    setsBoards_disable fun text => (readOnly_printf .pc text []).setsBoards
  intro env w h
  obtain ⟨w1, r1, a1, s1⟩ := setsBoards_vector (Vector.replicate 32 0) env w h
  obtain ⟨w2, r2, a2, s2⟩ := hmark env.devId env w1 a1.step.idle
  refine ⟨w2, ?_, a1.trans a2, s2.trans s1⟩
  unfold initBrokenBoards
  rw [show zeroBrokenBoards = setSafteyVector (Vector.replicate 32 0) from rfl, run_bind_ok r1,
    run_bind_ok (show askEnv env w1 = .ok env w1 from rfl)]
  exact r2

theorem prologue_run (env : Env) {w : World} (h : w.Idle) :
    ∃ w', mainPrologue env w = .ok () w' ∧ Aside w w' ∧ w'.mem.soft = w.mem.soft := by
  obtain ⟨w1, r1, a1, s1⟩ := setsBoards_brokenBoards env w h
  obtain ⟨_, w2, r2, q2⟩ := readOnly_printf .pc "Board ID Booted:   %x    %x    %x\r\n"
    [env.devId.1.toNat, env.devId.2.1.toNat, env.devId.2.2.toNat] env w1 a1.step.idle
  refine ⟨w2, ?_, a1.trans q2.aside, by rw [q2.mem, s1]⟩
  unfold mainPrologue
  rw [run_bind_ok r1, run_bind_ok (show askEnv env w1 = .ok env w1 from rfl)]
  exact r2

/-! ## Invariants of a run -/

/-- The setting the last effective byte asked for. -/
def lastSetting (c : Afe) (received : List UInt8) : Setting := (received.findSome? (effect c)).getD .safe

/-- The last DAC current a byte set. -/
def lastCurrent (received : List UInt8) : UInt8 := (received.findSome? current).getD 0

/-- Between two moves: modes, registers, gating and DAC agree. -/
structure Looped (o : Afe → Amc7891) (w : World) : Prop where
  idle : w.Idle
  setpoint : ∀ c, (w.mem.afe c).vgSetpoint = (o c).vgSetpoint
  quiescent : ∀ c, (w.mem.afe c).vgQuiescent = (o c).vgQuiescent
  setting : ∀ c, c ≠ .afe0 → InSetting w.mem w.writes c (lastSetting c w.received)
  gpio : held w.writes .afe0 .gpioOut = some (gravGpio w.mem.gravMode)
  gated : w.mem.gravMode = gate w.mem ∨ (w.mem.gravMode = .safe ∧ gate w.mem = .txDis)
  config3 : w.config3.head? = some (word (Dac3484.coarse (lastCurrent w.received)) 0x00)

theorem Looped.aside {o : Afe → Amc7891} {w w' : World} (h : Looped o w) (ha : Aside w w') : Looped o w' := by
  obtain ⟨hs, hafe, hg⟩ := ha
  have hw : w'.writes = w.writes := hs.writes
  have hc : w'.config3 = w.config3 := hs.config3
  have hr : w'.received = w.received := hs.received
  have hgate : gate w'.mem = gate w.mem := by unfold gate; rw [hafe]
  refine ⟨hs.idle, ?_, ?_, ?_, ?_, ?_, ?_⟩
  · intro c; rw [hafe]; exact h.setpoint c
  · intro c; rw [hafe]; exact h.quiescent c
  · intro c hc0
    obtain ⟨hm, hreg⟩ := h.setting c hc0
    rw [hw, hr]
    exact ⟨by rw [hafe]; exact hm, by rw [hafe]; exact hreg⟩
  · rw [hw, hg]; exact h.gpio
  · rw [hgate, hg]; exact h.gated
  · rw [hc, hr]; exact h.config3

theorem lastSetting_cons (c : Afe) (msg : UInt8) (received : List UInt8) :
    lastSetting c (msg :: received) = (effect c msg).getD (lastSetting c received) := by
  unfold lastSetting
  rw [List.findSome?_cons]
  cases effect c msg <;> rfl

theorem lastCurrent_cons (msg : UInt8) (received : List UInt8) :
    lastCurrent (msg :: received) = (current msg).getD (lastCurrent received) := by
  unfold lastCurrent
  rw [List.findSome?_cons]
  cases current msg <;> rfl

theorem commandWrites_not_afe0 (m : Mem) (msg : UInt8) : ∀ p ∈ commandWrites m msg, p.1.1 ≠ .afe0 := by
  intro p hp
  rcases List.mem_append.mp hp with hp | hp
  · rw [requestWrites_chip _ _ _ p hp]; decide
  · rw [requestWrites_chip _ _ _ p hp]; decide

theorem held_append_of_not {n l : List Write} {c : Afe} (h : ∀ p ∈ n, p.1.1 ≠ c) (x : AfeReg) :
    held (n ++ l) c x = held l c x :=
  lookup_append_of_not fun p hp e => h p hp (by rw [e])

theorem commandMem_gravMode (m : Mem) (msg : UInt8) : (commandMem m msg).gravMode = m.gravMode := by
  unfold commandMem
  rw [request_gravMode, request_gravMode]

theorem Looped.ran {o : Afe → Amc7891} {w w' : World} {msg : UInt8} (hb : ∀ c, c ≠ .afe0 → Biased (o c))
    (h : Looped o w) (hr : Ran msg w w') : Looped o w' := by
  have hb' : ∀ c, c ≠ .afe0 → Biased (w.mem.afe c) := fun c hc => biased_congr (h.setpoint c) (h.quiescent c) (hb c hc)
  have hvg := commandMem_vg w.mem msg
  have hg0 : ∀ c, c ≠ .afe0 → ∀ p ∈ gateWrites (commandMem w.mem msg), p.1.1 ≠ c := by
    intro c hc p hp
    unfold gateWrites at hp
    split at hp
    · exact absurd hp List.not_mem_nil
    · rw [List.mem_singleton.mp hp]; exact Ne.symm hc
  have hafe : w'.mem.afe = (commandMem w.mem msg).afe := by rw [hr.mem]
  refine ⟨hr.idle, ?_, ?_, ?_, ?_, ?_, ?_⟩
  · intro c; rw [hafe, (hvg c).1]; exact h.setpoint c
  · intro c; rw [hafe, (hvg c).2]; exact h.quiescent c
  · intro c hc
    obtain ⟨hm, hreg⟩ := command_inSetting hc (hb' c hc) (h.setting c hc) msg
    have hreg' := hreg.append (gateWrites (commandMem w.mem msg))
    rw [puts_other _ _ (hg0 c hc)] at hreg'
    rw [hr.writes, hr.received, lastSetting_cons]
    exact ⟨by rw [hafe]; exact hm, by rw [hafe]; exact hreg'⟩
  · rw [hr.writes, hr.mem]
    show held _ _ _ = some (gravGpio (gate (commandMem w.mem msg)))
    unfold gateWrites
    by_cases hg : (commandMem w.mem msg).gravMode = gate (commandMem w.mem msg)
    · rw [if_pos hg, List.nil_append, held_append_of_not (commandWrites_not_afe0 _ _), h.gpio, ← hg, commandMem_gravMode]
    · rw [if_neg hg]
      exact List.lookup_cons_self
  · left
    rw [hr.mem]
    rfl
  · rw [hr.config3, hr.received, lastCurrent_cons]
    unfold commandConfig3
    cases current msg with
    | none => exact h.config3
    | some v => rfl

theorem Looped.moves {o : Afe → Amc7891} {w w' : World} (hb : ∀ c, c ≠ .afe0 → Biased (o c)) (h : Looped o w)
    (hm : Moves w w') : Looped o w' := by
  cases hm with
  | aside ha => exact h.aside ha
  | ran msg ha hr ha' => exact ((h.aside ha).ran hb hr).aside ha'

theorem bringUpWrites_not_afe0 (kA : Nat) (nA : UInt32) (kB : Nat) (nB : UInt32) :
    ∀ p ∈ bringUpWrites kA nA kB nB, p.1.1 ≠ .afe0 := by
  intro p hp
  rcases List.mem_append.mp hp with hp | hp
  · rw [safeWrites_chip _ p hp]; decide
  rcases List.mem_append.mp hp with hp | hp
  · rw [safeWrites_chip _ p hp]; decide
  rcases List.mem_append.mp hp with hp | hp
  · rw [calibrationWrites_chip _ _ _ p hp]; decide
  · rw [calibrationWrites_chip _ _ _ p hp]; decide

theorem Booted.looped {env : Env} {w : World} (h : Booted env w) : Looped w.mem.afe w := by
  have hgate : gate w.mem = .txDis := by
    unfold gate
    rw [h.modes .afeA, h.modes .afeB, if_neg (by decide)]
  refine ⟨h.idle, fun _ => rfl, fun _ => rfl, ?_, ?_, ?_, ?_⟩
  · intro c hc
    rw [h.received]
    exact h.inSetting hc
  · obtain ⟨kA, nA, kB, nB, _, _, hw⟩ := h.writes
    rw [hw, held_append_of_not (bringUpWrites_not_afe0 kA nA kB nB), h.gravMode]
    cases busOff env <;> rfl
  · rw [hgate, h.gravMode]
    cases busOff env with
    | true => exact Or.inl rfl
    | false => exact Or.inr ⟨rfl, rfl⟩
  · rw [h.config3, h.received]
    rfl

theorem LoopRun.booted {env : Env} {w0 w : World} (h : LoopRun env w0 w) :
    env.extOsc oscWorld.log = true ∧ Booted env w0 := by
  induction h with
  | start h0 _ =>
    have hb := wp_ok (init_wp env) h0
    exact hb
  | step _ _ ih => exact ih

/-- Every state of a run keeps the invariant. -/
theorem LoopRun.looped {env : Env} {w0 w : World} (h : LoopRun env w0 w) : Looped w0.mem.afe w := by
  have hboot := h.booted.2
  induction h with
  | start _ hp =>
    obtain ⟨w1, r1, a1, _⟩ := prologue_run env hboot.idle
    obtain rfl := (EStateM.Result.ok.inj (r1.symm.trans hp)).2
    exact hboot.looped.aside a1
  | step hrun hs ih => exact ih.moves hboot.biased (hs.moves ih.idle)

theorem LoopRun.grows {env : Env} {w0 w : World} (h : LoopRun env w0 w) : w0.writes <:+ w.writes := by
  have hboot := h.booted.2
  induction h with
  | start _ hp =>
    obtain ⟨w1, r1, a1, _⟩ := prologue_run env hboot.idle
    obtain rfl := (EStateM.Result.ok.inj (r1.symm.trans hp)).2
    exact (Moves.aside a1).grows
  | step hrun hs ih => exact ih.trans (hs.moves hrun.looped.idle).grows

/-! ## The runs of `main` -/

theorem mainRun_succ (n : Nat) : mainRun (n + 1) = mainRun n >>= mainIteration := by
  unfold mainRun
  simp only [iterate, bind_assoc]

/-- How `main` ends: in `init`, or reset out of its loop. -/
def MainExit (env : Env) (e : Stop) (w' : World) : Prop :=
  InitExit env e w' ∨ Exit env (fun w => ∃ w0 w1, LoopRun env w0 w1 ∧ Moves w1 w) e w'

theorem mainRun_wp (env : Env) (n : Nat) :
    wp (mainRun n) (fun v w => v.check.toNat ≤ 22 ∧ ∃ w0, LoopRun env w0 w) (MainExit env) env reset := by
  induction n with
  | zero =>
    unfold mainRun
    refine wp_bind.mpr ?_
    cases hr : init env reset with
    | error e w' => exact wp_of_error hr (Or.inl (wp_error (init_wp env) hr))
    | ok a w0 =>
      have hboot := (wp_ok (init_wp env) hr).2
      obtain ⟨w1, r1, _, _⟩ := prologue_run env hboot.idle
      exact wp_of_ok hr (wp_bind.mpr (wp_of_ok r1 (wp_pure.mpr ⟨by decide, w0, .start hr r1⟩)))
  | succ n ih =>
    rw [mainRun_succ]
    refine wp_bind.mpr (wp_mono ih ?_ fun _ _ he => he)
    rintro v w ⟨hv, w0, hw⟩
    have hv' : v.check.toNat < 32 := by omega
    have hwp := mainIteration_wp hv' env hw.looped.idle
    cases hr : mainIteration v env w with
    | ok v' w' =>
      obtain ⟨_, hn⟩ := wp_ok hwp hr
      exact wp_of_ok hr ⟨hn, w0, .step hw (.iteration v v' hv' hr)⟩
    | error e w' =>
      refine wp_of_error hr (Or.inr ?_)
      exact (wp_error hwp hr).mono fun w1 h1 => ⟨w0, w, hw, h1⟩

/-- The states between the iterations of `main` are states of loop runs. -/
theorem mainRun_loops {env : Env} {n : Nat} {v : LoopVars} {w : World} (h : mainRun n env reset = .ok v w) :
    ∃ w0, LoopRun env w0 w := (wp_ok (mainRun_wp env n) h).2

end Graviton
