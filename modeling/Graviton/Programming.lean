/-
  Graviton.Programming — the initialisations of the converters and clock chips, event by
  event, and the rule that carries a condition on the log through every run of `main`.

  `programming` is what the four initialisations send, word for word, up to the DAC3484's
  table; what follows it only reads the DAC's registers back. `init_keeps`: a condition `J`
  that holds when the bus is tested and that looking at the board and switching the rails on
  do not break, and a condition `K` that `programming` makes of it and steady events keep:
  then `init` ends with `K`, halts, or is reset by a shutdown called with `K`. Every event of
  the main loop is steady or on the FPGA's port (`Event.Served`), so a `K` that these keep
  holds of the log of every run (`mainRun_keeps`).
-/
import Graviton.Emits

namespace Graviton

open Effects History

/-! ## The initialisations -/

/-- The transfer of a table row. -/
def rowEvent (format : Format) (s : Select) (row : List UInt8) : Event := .frame ⟨format, [s], row⟩ []

def lmk04826bWord : List Event := .pin .lmk04826bRst false :: lmk04826bRom.map (rowEvent ⟨8, 0⟩ .lmk04826b)

def lmk04133Word : List Event := .pin .lmk04133Rst true :: lmk04133Rom.map (rowEvent ⟨8, 0⟩ .lmk04133)

def ads42lb69Word : List Event :=
  [.pin .ads42lb69Rst false, .pin .ads42lb69Rst true, .pin .ads42lb69Rst false] ++
    ads42lb69Rom.map (rowEvent ⟨8, 0⟩ .ads42lb69)

/-- The DAC3484's table goes out in format (8,1). -/
def dac3484Word : List Event :=
  [.pin .dac3484Rst false, .pin .dac3484Rst true, .printf .pc "programming DAC over SPI\r\n" []] ++
    dac3484Rom.map (rowEvent ⟨8, 1⟩ .dac3484)

/-- What the initialisations send, oldest first. -/
def programming : List Event := lmk04826bWord ++ (lmk04133Word ++ (ads42lb69Word ++ dac3484Word))

/-- The world after the events `es`, oldest first. -/
def World.logged (w : World) (es : List Event) : World := { w with log := es.reverse ++ w.log }

@[simp] theorem logged_log (w : World) (es : List Event) : (w.logged es).log = es.reverse ++ w.log := rfl
@[simp] theorem logged_idle {w : World} {es : List Event} : (w.logged es).Idle ↔ w.Idle :=
  ⟨fun h => ⟨h.format, h.low⟩, fun h => ⟨h.format, h.low⟩⟩

theorem logged_cons (w : World) (e : Event) (es : List Event) : (w.push e).logged es = w.logged (e :: es) := by
  simp [World.logged, World.push]

theorem logged_append (w : World) (es fs : List Event) : (w.logged es).logged fs = w.logged (es ++ fs) := by
  simp [World.logged]

theorem rows_logged (s : Select) (rows : List (List UInt8)) (env : Env) {w : World} (h : w.low = []) :
    (forM rows fun row => do let _ ← transact s row 0 : Fw Unit) env w =
      .ok () (w.logged (rows.map (rowEvent w.format s))) := by
  induction rows generalizing w with
  | nil => rfl
  | cons row rows ih =>
    have hf : w.frameTo s row 0 = ⟨w.format, [s], row⟩ := by simp [World.frameTo]
    have ht := transact_run s row 0 env h
    rw [hf] at ht
    rw [List.forM_cons, bind_assoc, run_bind_ok ht]
    show (forM rows _ : Fw Unit) env (w.push (rowEvent w.format s row)) = _
    rw [ih (w := w.push (rowEvent w.format s row)) h, logged_cons]
    rfl

section

variable (env : Env) {w : World} (h : w.Idle)

include h

/-- A table sent in format (8,0) after the pins `pins`. -/
theorem table_run (pins : List (Pin × Bool)) (s : Select) (rows : List (List UInt8)) :
    (do spiFormat 8 0
        forM pins fun p => pinWrite p.1 p.2
        forM rows fun row => do
          let _ ← transact s row 0
        spiFormat 8 1 : Fw Unit) env w =
      .ok () (w.logged (pins.map (fun p => Event.pin p.1 p.2) ++ rows.map (rowEvent ⟨8, 0⟩ s))) := by
  have hpins : ∀ (pins : List (Pin × Bool)) (w : World), (forM pins fun p => pinWrite p.1 p.2 : Fw Unit) env w =
      .ok () (w.logged (pins.map fun p => Event.pin p.1 p.2)) := by
    intro pins
    induction pins with
    | nil => exact fun w => rfl
    | cons p pins ih =>
      intro w
      rw [List.forM_cons, run_bind_ok (run_pinWrite p.1 p.2 env w), ih, logged_cons]
      rfl
  obtain ⟨format, low, log, mem⟩ := w
  obtain rfl : format = ⟨8, 1⟩ := h.format
  obtain rfl : low = [] := h.low
  rw [run_bind_ok (show spiFormat 8 0 env ⟨⟨8, 1⟩, [], log, mem⟩ = .ok () ⟨⟨8, 0⟩, [], log, mem⟩ from rfl),
    run_bind_ok (hpins pins _), run_bind_ok (rows_logged s rows env rfl), logged_append]
  rfl

theorem lmk04826b_run : Lmk04826b.init env w = .ok () (w.logged lmk04826bWord) := by
  have ht := table_run env h [(.lmk04826bRst, false)] .lmk04826b lmk04826bRom
  rwa [List.forM_cons, List.forM_nil, bind_pure_unit] at ht

theorem lmk04133_run : Lmk04133.init env w = .ok () (w.logged lmk04133Word) := by
  have ht := table_run env h [(.lmk04133Rst, true)] .lmk04133 lmk04133Rom
  rwa [List.forM_cons, List.forM_nil, bind_pure_unit] at ht

theorem ads42lb69_run : Ads42lb69.init env w = .ok () (w.logged ads42lb69Word) := by
  have ht := table_run env h [(.ads42lb69Rst, false), (.ads42lb69Rst, true),
    (.ads42lb69Rst, false)] .ads42lb69 ads42lb69Rom
  rw [List.forM_cons, List.forM_cons, List.forM_cons, List.forM_nil] at ht
  simp only [bind_assoc, pure_bind] at ht
  exact ht

theorem dacOpening_run : Dac3484.opening .pc env w = .ok () (w.logged
    [.pin .dac3484Rst false, .pin .dac3484Rst true, .printf .pc "programming DAC over SPI\r\n" []]) := by
  unfold Dac3484.opening
  rw [run_bind_ok (spiFormat_idle env h)]
  rfl

/-- The DAC3484's table, then its read-back. -/
theorem dac3484_run : ∃ w', Dac3484.init .pc env w = .ok () w' ∧ w'.Idle ∧
    Within (Event.Look .pc) (w.logged dac3484Word) w' := by
  obtain ⟨_, w1, r1, hi, g1⟩ := tells_readBack .pc env (w.logged dac3484Word) (logged_idle.mpr h)
  have hrows := rows_logged .dac3484 dac3484Rom env (w := w.logged
    [.pin .dac3484Rst false, .pin .dac3484Rst true, .printf .pc "programming DAC over SPI\r\n" []]) h.low
  rw [logged_append, show (w.logged _).format = ⟨8, 1⟩ from h.format] at hrows
  refine ⟨w1, ?_, hi, g1⟩
  rw [dacInit_eq, run_bind_ok (dacOpening_run env h), run_bind_ok hrows, Dac3484.closing]
  show (Dac3484.readBack .pc >>= fun _ => spiFormat 8 1) env (w.logged dac3484Word) = _
  rw [run_bind_ok r1, spiFormat_idle env hi]

end

/-! ## Conditions on the log, through `init` -/

/-- What `init` leaves when the oscillator does not start. -/
def haltedWorld : World := (oscWorld.push (.osc true false)).push
  (.printf .pc "ERROR: EXTERNAL OSCILLATOR FAILED TO CONFIGURE. HALTING\r\n" [])

theorem powerUp_halted {env : Env} (h : env.extOsc oscWorld.log = false) :
    initPowerUp env reset = .error .halted haltedWorld := by
  have ho := oscillator_run env
  rw [h, if_neg (by decide)] at ho
  exact run_bind_error ho _

/-- The write that switches the rails on. -/
def railEvent : Event := writeEvent (gpioWrite .afe0 gravMainPowerOnTxOff)

/-- Events between the bus test and the initialisations. -/
def Event.Rails (e : Event) : Prop := Event.Look .pc e ∨ e = railEvent

theorem tells_busUnpowered : Tells (Event.Look .pc) busUnpowered :=
  (tells_getMv .pc _ _ _).bind fun _ => Tells.ite ((tells_getMv .pc _ _ _).bind fun _ => tells_pure _) (tells_pure _) _

theorem tells_printBus : Tells (Event.Look .pc) printBus :=
  (tells_getMv .pc _ _ _).bind fun _ => (tells_getMv .pc _ _ _).bind fun _ => tells_line .pc _ _

theorem tells_powerRails (unpowered : Bool) : Tells Event.Rails (initPowerRails unpowered) := by
  have hbus : Tells Event.Rails printBus := tells_printBus.mono fun _ => Or.inl
  have hline : ∀ text args, Tells Event.Rails (printf .pc text args) := fun text args =>
    (tells_line .pc text args).mono fun _ => Or.inl
  refine Tells.ite (hbus.bind fun _ env w h => ?_) (hbus.bind fun _ => hline _ _) _
  refine ⟨(), _, configureGravOnWithTxOff_run h .afe0 env, (withMem_step (wroteAll_idle.mpr h) _).idle, ?_⟩
  refine (within_wroteAll h fun p hp => Or.inr ?_).trans (within_withMem _ _)
  by_cases hg : w.mem.gravMode = .txDis
  · rw [if_pos hg] at hp
    exact absurd hp List.not_mem_nil
  · rw [if_neg hg] at hp
    rw [List.mem_singleton.mp hp]
    rfl

section

variable {J K : List Event → Prop}

theorem keeps_bringUpLast (hK : Stays Event.Steady K) : Keeps (fun w => K w.log) bringUpLast :=
  (steady_calibrate hK .afeA).bind fun _ => (steady_calibrate hK .afeB).bind fun _ =>
    ((tells_switchToSafe .afeA).keeps hK).bind fun _ => ((tells_switchToSafe .afeB).keeps hK).bind fun _ =>
      (tells_keeps_look hK (tells_dumpTelemetry .pc)).bind fun _ => tells_keeps_look hK (tells_line .pc _ _)

theorem tells_bringUpFirst : Tells (Event.Look .pc) bringUpFirst :=
  (tells_line .pc _ _).bind fun _ => tells_dumpTelemetry .pc

theorem initBringUp_keeps (hJ : Stays (Event.Look .pc) J) (hword : ∀ l, J l → K (programming.reverse ++ l))
    (hK : Stays Event.Steady K) (env : Env) {w : World} (h : w.Idle) (hj : J w.log) :
    wp initBringUp (fun _ w' => w'.Idle ∧ K w'.log) (Exit env fun w => K w.log) env w := by
  obtain ⟨_, w1, r1, i1, g1⟩ := tells_bringUpFirst env w h
  have h2 : (w1.logged lmk04826bWord).Idle := logged_idle.mpr i1
  have h3 : ((w1.logged lmk04826bWord).logged lmk04133Word).Idle := logged_idle.mpr h2
  have h4 : (((w1.logged lmk04826bWord).logged lmk04133Word).logged ads42lb69Word).Idle := logged_idle.mpr h3
  obtain ⟨w5, r5, i5, g5⟩ := dac3484_run env h4
  have hk : K w5.log := by
    refine g5.stays (hK.mono fun _ => .look) ?_
    simp only [logged_append]
    exact hword w1.log (g1.stays hJ hj)
  rw [initBringUp_eq]
  refine wp_bind.mpr (wp_of_ok r1 (wp_bind.mpr (wp_of_ok (lmk04826b_run env i1) (wp_bind.mpr (wp_of_ok
    (lmk04133_run env h2) (wp_bind.mpr (wp_of_ok (ads42lb69_run env h3) (wp_bind.mpr (wp_of_ok r5 ?_)))))))))
  exact keeps_bringUpLast hK env w5 i5 hk

/-- How `init` ends: with `K`, halted, or reset by a shutdown called with `K`. -/
theorem init_keeps (h0 : J busTestWorld.log) (hJ : Stays Event.Rails J)
    (hword : ∀ l, J l → K (programming.reverse ++ l)) (hK : Stays Event.Steady K) (env : Env) :
    wp init (fun _ w' => w'.Idle ∧ K w'.log)
      (fun e w' => (e = .halted ∧ w' = haltedWorld) ∨ Exit env (fun w => K w.log) e w') env reset := by
  unfold init
  cases hosc : env.extOsc oscWorld.log with
  | false => exact wp_bind.mpr (wp_of_error (powerUp_halted hosc) (Or.inl ⟨rfl, rfl⟩))
  | true =>
    have hlook : Stays (Event.Look .pc) J := hJ.mono fun _ => Or.inl
    obtain ⟨off, w1, r1, i1, g1⟩ := tells_busUnpowered env busTestWorld busTest_step.idle
    obtain ⟨_, w2, r2, i2, g2⟩ := tells_powerRails off env w1 i1
    refine wp_bind.mpr (wp_of_ok (powerUp_run hosc) (wp_bind.mpr (wp_of_ok r1 (wp_bind.mpr (wp_of_ok r2 ?_)))))
    exact wp_mono (initBringUp_keeps hlook hword hK env i2 (g2.stays hJ (g1.stays hlook h0))) (fun _ _ h => h)
      fun _ _ he => Or.inr he

end

/-! ## Through every run -/

/-- Events of the main loop. -/
inductive Event.Served : Event → Prop
  | steady {e : Event} : e.Steady → Event.Served e
  | line (text : String) (args : List Int) : Event.Served (.printf .fpga text args)
  | readable (r : Bool) : Event.Served (.readable r)
  | getc (c : UInt8) : Event.Served (.getc c)

theorem look_served (out : Port) (e : Event) (h : Event.Look out e) : e.Served := by
  cases out with
  | pc => exact .steady (.look h)
  | fpga =>
    cases h with
    | read c addr rx => exact .steady (.look (.read c addr rx))
    | dacRead x y rx hf ha => exact .steady (.look (.dacRead x y rx hf ha))
    | dacClear => exact .steady (.look .dacClear)
    | line text args => exact .line text args

theorem served_changeState (msg : UInt8) : Tells Event.Served (changeState msg) := by
  cases h : asksDump msg with
  | true =>
    rw [changeState_dump h]
    exact (tells_dumpTelemetry .fpga).mono (look_served .fpga)
  | false => exact (tells_changeState h).mono fun _ => .steady

theorem served_line (port : Port) (text : String) (args : List Int) : Tells Event.Served (printf port text args) :=
  (tells_line port text args).mono (look_served port)

theorem served_periodic (v : LoopVars) : Tells Event.Served (periodic v) := by
  have hlast : ∀ v, Tells Event.Served (do changeState csOpCode2; printf .fpga "hello\r\n" []; return v : Fw
    LoopVars) :=
    fun v => (served_changeState _).bind fun _ => (served_line _ _ _).bind fun _ => tells_pure v
  unfold periodic
  by_cases hs : v.modeSwitched = 0
  · rw [if_pos hs]
    exact (served_changeState _).bind fun _ => (tells_pure _).bind hlast
  · rw [if_neg hs]
    exact (tells_pure _).bind hlast

theorem served_command : Tells Event.Served command := by
  have hget : Tells Event.Served fpgaGetc := fun env w h =>
    ⟨env.getc w.log, w.push (.getc (env.getc w.log)), rfl, push_idle.mpr h, within_push (.getc _)⟩
  exact hget.bind fun val => (served_changeState val).bind fun _ => (served_line _ _ _).bind fun _ =>
    (served_line _ _ _).bind fun _ => tells_getMem.bind fun m => (tells_gate _).mono fun _ => .steady

theorem served_mainFirst (v : LoopVars) : Tells Event.Served (mainFirst v) := by
  have hread : Tells Event.Served fpgaReadable := fun env w h =>
    ⟨env.readable w.log, w.push (.readable (env.readable w.log)), rfl, push_idle.mpr h,
      within_push (.readable _)⟩
  have hserve : ∀ v, Tells Event.Served (do let readable ← fpgaReadable
                                             if readable then command
                                             return v : Fw LoopVars) := fun v => hread.bind fun readable =>
    (served_command.bind fun _ => tells_pure v).ite (tells_pure v) _
  unfold mainFirst
  by_cases hs : v.slow % 10000 = 0
  · rw [if_pos hs]
    exact (served_periodic v).bind fun v => hserve { v with slow := v.slow + 1 }
  · rw [if_neg hs]
    exact (tells_pure v).bind fun v => hserve { v with slow := v.slow + 1 }

theorem tells_setSafteyVector (v : Vector UInt16 32) : Tells (Event.Look .pc) (setSafteyVector v) := tells_modifyMem _

theorem tells_disable (testItem : UInt16) : Tells (Event.Look .pc) (disableSafteyCheck testItem) :=
  tells_getMem.bind fun _ => (tells_pure ()).ite (tells_setSafteyVector _) _

theorem tells_brokenBoards : Tells (Event.Look .pc) initBrokenBoards :=
  (tells_setSafteyVector _).bind fun _ => tells_askEnv.bind fun env =>
    markBrokenBoards_rule (tells_pure ()) (fun _ _ hx hy => hx.bind fun _ => hy) tells_disable
      (fun text => tells_line .pc text []) env.devId

theorem tells_mainPrologue : Tells (Event.Look .pc) mainPrologue :=
  tells_brokenBoards.bind fun _ => tells_askEnv.bind fun _ => tells_line .pc _ _

section

variable {J K : List Event → Prop} (hK : Stays Event.Served K)

include hK

theorem keeps_mainIteration {v : LoopVars} (hv : v.check.toNat < 32) : Keeps (fun w => K w.log) (mainIteration v) := by
  intro env w h hk
  obtain ⟨v1, w1, r1, i1, g1⟩ := served_mainFirst v env w h
  obtain ⟨v2, w2, r2, _, _, _, hc⟩ := mainFirst_run v env h
  cases r1.symm.trans r2
  rw [mainIteration_eq]
  refine wp_bind.mpr (wp_of_ok r1 ?_)
  have hcheck := keeps_safetyCheck (hK.mono fun _ => .steady) (show v1.check.toNat < 32 by rw [hc]; exact hv)
  exact (hcheck.bind fun _ => keeps_pure _) env w1 i1 (g1.stays hK hk)

/-- A shutdown keeps `K` too. -/
theorem Exit.stays {env : Env} {e : Stop} {w' : World} (he : Exit env (fun w => K w.log) e w') : K w'.log := by
  cases e with
  | systemReset =>
    obtain ⟨w, r, r2, r3, hi, hk, hr⟩ := he
    obtain ⟨w1, h1, hl⟩ := shutdown_within hi hr
    have hk1 : K w1.log := h1.stays (hK.mono fun _ => .steady) hk
    rw [hl]
    have herr : ∀ l, K l → K (errorEvent :: l) := fun l => hK errorEvent l (.line _ _)
    exact herr _ (herr _ (herr _ (herr _ (herr _ hk1))))
  | _ => exact absurd he id

/-- Every run of `main` ends with `K`, or halted. -/
theorem mainRun_keeps (h0 : J busTestWorld.log) (hJ : Stays Event.Rails J)
    (hword : ∀ l, J l → K (programming.reverse ++ l)) (env : Env) (n : Nat) :
    K (final (mainRun n env reset)).log ∨ mainRun n env reset = .error .halted haltedWorld := by
  have hinit := init_keeps h0 hJ hword (hK.mono fun _ => .steady) env
  have hwp : wp (mainRun n) (fun v w => v.check.toNat ≤ 22 ∧ w.Idle ∧ K w.log)
      (fun e w => (e = .halted ∧ w = haltedWorld) ∨ Exit env (fun w => K w.log) e w) env reset := by
    induction n with
    | zero =>
      unfold mainRun
      refine wp_bind.mpr (wp_mono hinit ?_ fun _ _ he => he)
      rintro _ w ⟨hi, hk⟩
      obtain ⟨_, w1, r1, i1, g1⟩ := tells_mainPrologue env w hi
      exact wp_bind.mpr (wp_of_ok r1 (wp_pure.mpr ⟨by decide, i1, g1.stays (hK.mono (look_served .pc)) hk⟩))
    | succ n ih =>
      rw [mainRun_succ]
      refine wp_bind.mpr (wp_mono ih ?_ fun _ _ he => he)
      rintro v w ⟨hv, hi, hk⟩
      have hnext := mainIteration_wp (v := v) (by omega) env hi
      have hkeep := keeps_mainIteration hK (v := v) (by omega) env w hi hk
      cases hr : mainIteration v env w with
      | ok v' w' =>
        have hw' := wp_ok hkeep hr
        exact wp_of_ok hr ⟨(wp_ok hnext hr).2, hw'⟩
      | error e w' => exact wp_of_error hr (Or.inr (wp_error hkeep hr))
  cases hr : mainRun n env reset with
  | ok v w => exact Or.inl (wp_ok hwp hr).2.2
  | error e w =>
    rcases wp_error hwp hr with ⟨rfl, rfl⟩ | he
    · exact Or.inr rfl
    · exact Or.inl (he.stays hK)

end

end Graviton
