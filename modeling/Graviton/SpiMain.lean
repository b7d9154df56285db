/-
  Graviton.SpiMain — `main` on the peripheral.

  Every function of the firmware is a program of operations (`Operates`), up to `mainRun`.
  So `main` ends on the peripheral as it ends on the bus of `Graviton.Bus`, whatever the
  hardware, as long as its flags come (`main_on_chip`). Whether they come or not, the data
  register is used in order (`always_orderly`). The bit rate is that of the frequency the
  program asked for last (`bit_rate`).
-/
import Graviton.Emits
import Graviton.SpiBus

namespace Graviton.Spi

open Effects History

/-! ## Boot -/

/-- The memory before the constructors, and no history. -/
def unbooted : Chip where
  bits := 0
  mode := 0
  hz := 0
  owner := false
  writeFill := 0
  init := ⟨0, 0, 0, 0, 0, 0, 0, 0, 0, 0, 0⟩
  mem := resetMem
  log := []

theorem construct_run (hw : Board) :
    ∃ d, SPI.construct hw unbooted = .ok () d ∧ Related hw reset d ∧ d.hz = 1000000 := by
  let i := initOf ⟨8, 0⟩ (baudratePrescalerTable.getD 7 0)
  obtain ⟨n1, r1, hn1, _, _⟩ := initSpi_run hw (d := ⟨8, 0, 1000000, false, 0xFF, i, resetMem, []⟩) rfl rfl
  obtain ⟨n2, r2, hn2, _, _⟩ :=
    spiFormat_run hw (d := ⟨8, 0, 1000000, false, 0xFF, i, resetMem, n1 ++ []⟩) (f := ⟨8, 0⟩) rfl 8 0
  obtain ⟨n3, r3, hn3, hc, hp⟩ :=
    spiFrequency_run hw (d := ⟨8, 0, 1000000, false, 0xFF, i, resetMem, n2 ++ (n1 ++ [])⟩) (f := ⟨8, 0⟩) rfl 1000000
  have hinit : spiInit hw ⟨8, 0, 1000000, false, 0xFF, unbooted.init, resetMem, []⟩ =
      .ok () ⟨8, 0, 1000000, false, 0xFF, i, resetMem, n1 ++ []⟩ := r1
  let d3 : Chip := ⟨8, 0, 1000000, true, 0xFF, initOf ⟨8, 0⟩ (prescaler 1000000 (hw.pclk2 (n2 ++ (n1 ++ [])))),
    resetMem, n3 ++ (n2 ++ (n1 ++ []))⟩
  have hacq : acquire hw ⟨8, 0, 1000000, false, 0xFF, i, resetMem, n1 ++ []⟩ = .ok () d3 := by
    unfold acquire
    refine (run_bind_ok (show getChip hw _ = .ok _ _ from rfl) _).trans ?_
    rw [if_pos rfl]
    exact (run_bind_ok r2 _).trans (run_bind_ok r3 _)
  have hn : ∀ a ∈ n3 ++ (n2 ++ n1), a.Control := List.forall_mem_append.mpr ⟨hn3, List.forall_mem_append.mpr ⟨hn2, hn1⟩⟩
  obtain ⟨h1, h2, h3⟩ := control_append hw.start (l := []) hn
  have hlog : n3 ++ (n2 ++ n1) ++ [] = n3 ++ (n2 ++ (n1 ++ [])) := by rw [List.append_assoc, List.append_assoc]
  have ho : Always (Orderly hw.start) (n3 ++ (n2 ++ n1) ++ []) := always_control hn rfl (always_nil.mpr trivial)
  rw [hlog] at h1 h2 h3 ho
  have hready : Ready hw d3 :=
    ⟨rfl, rfl, congrArg (fun c => initOf ⟨8, 0⟩ (prescaler 1000000 c)) hc.symm, ⟨hp.cr1, hp.cr2⟩⟩
  have hrun : SPI.construct hw unbooted = .ok () d3 := by
    show (spiInit >>= fun _ => acquire) hw ⟨8, 0, 1000000, false, 0xFF, unbooted.init, resetMem, []⟩ = _
    exact (run_bind_ok hinit _).trans hacq
  exact ⟨d3, hrun, ⟨rfl, rfl, h1, rfl, h3, hready, h2, ho⟩, rfl⟩

/-- Any program of operations, run on the peripheral from power on: it returns what it returns
    on the bus, or ends as it ends there, with the same on the wire; or it waits forever for
    hardware that is not prompt. No access is out of order either way. -/
theorem client_refines (hw : Board) (fuel : Nat) {α : Type} (c : Client Op Op.Answer α) :
    wp (SPI.construct >>= fun _ => c.run (Op.onChip fuel))
      (fun a d => ∃ w, c.run Op.onBus hw.env reset = .ok a w ∧ Related hw w d)
      (fun x d => Stuck hw fuel x d ∨ ∃ e w, c.run Op.onBus hw.env reset = .error e w ∧ x = .stop e ∧ Related hw w d)
      hw unbooted := by
  obtain ⟨d, hr, h, _⟩ := construct_run hw
  exact wp_bind.mpr (wp_of_ok hr (c.refines (op_refines hw fuel) reset d h))

/-- At every moment of every run, on any hardware, waiting forever or not: a unit goes out only
    after TXE was seen with the peripheral on and no other under way, it is read back after
    RXNE was seen, and no register, select, pin or line changes in between. -/
theorem always_orderly (hw : Board) (fuel : Nat) {α : Type} (c : Client Op Op.Answer α) :
    Always (Orderly hw.start) (final ((SPI.construct >>= fun _ => c.run (Op.onChip fuel)) hw unbooted)).log := by
  have hwp := client_refines hw fuel c
  cases hr : (SPI.construct >>= fun _ => c.run (Op.onChip fuel)) hw unbooted with
  | ok a d =>
    obtain ⟨_, _, h⟩ := wp_ok hwp hr
    exact h.orderly
  | error x d =>
    rcases wp_error hwp hr with hs | ⟨_, _, _, _, h⟩
    · exact hs.2.1
    · exact h.orderly

/-- The field of CR1 that divides the clock. -/
def cr1Br : Word := 0x00000038

/-- CR1 asks for the fastest bit rate not above `hz`, or for the slowest. -/
def BitRate (cr1 : Word) (hz : Int) (clock : UInt32) : Prop :=
  ∃ r ≤ 7, cr1 &&& cr1Br = baudratePrescalerTable.getD r 0 ∧
    (r < 7 → clock.toInt32.toInt.tdiv (2 ^ (r + 1) : Nat) ≤ hz) ∧
    ∀ q < r, hz < clock.toInt32.toInt.tdiv (2 ^ (q + 1) : Nat)

theorem Ready.bitRate {hw : Board} {d : Chip} (h : Ready hw d) :
    BitRate (hw.value d.log .cr1) d.hz (lastClock d.log) := by
  have hall : (formats.all fun g => baudratePrescalerTable.all fun br =>
      decide (((initOf g br).cr1 ||| cr1Spe) &&& cr1Br = br)) = true := by decide +kernel
  obtain ⟨h7, hslow, hfast⟩ := rankFor_fits d.hz (lastClock d.log)
  refine ⟨rankFor d.hz (lastClock d.log), h7, ?_, hslow, hfast⟩
  rw [h.programmed.cr1, h.init, initOf_clocked]
  exact of_decide_eq_true (List.all_eq_true.mp (List.all_eq_true.mp hall _ (clocked_mem ⟨d.bits, d.mode⟩)) _
    (prescaler_mem d.hz (lastClock d.log)))

/-- The frequency a program asks for last, when it is run from power on; the constructor asks
    for 1 MHz. -/
def askedLast (hw : Board) (fuel : Nat) {α : Type} (c : Client Op Op.Answer α) : Int :=
  (c.calls (Op.onChip fuel) hw (final (SPI.construct hw unbooted))).foldl Op.asks 1000000

/-- The peripheral runs at the bit rate for the frequency the program asked for last and the
    clock read last. -/
theorem bit_rate (hw : Board) (fuel : Nat) {α : Type} (c : Client Op Op.Answer α) :
    wp (SPI.construct >>= fun _ => c.run (Op.onChip fuel))
      (fun _ d => BitRate (hw.value d.log .cr1) (askedLast hw fuel c) (lastClock d.log))
      (fun x d => x = .stuck ∨ BitRate (hw.value d.log .cr1) (askedLast hw fuel c) (lastClock d.log)) hw unbooted := by
  obtain ⟨d0, hr, h0, hz0⟩ := construct_run hw
  have hop : ∀ (o : Op) (hz : Int) (d : Chip), ((∃ w, Related hw w d) ∧ d.hz = hz) →
      wp (o.onChip fuel) (fun _ d' => (∃ w, Related hw w d') ∧ d'.hz = o.asks hz)
        (fun x d' => x = .stuck ∨ (∃ w, Related hw w d') ∧ d'.hz = o.asks hz) hw d := by
    rintro o _ d ⟨⟨w, h⟩, rfl⟩
    refine wp_mono (op_wp h o) ?_ ?_
    · rintro _ d' ⟨⟨w', _, h'⟩, hz⟩
      exact ⟨⟨w', h'⟩, hz⟩
    · rintro x d' (hs | ⟨⟨_, w', _, _, h'⟩, hz⟩)
      · exact Or.inl hs.1
      · exact Or.inr ⟨⟨w', h'⟩, hz⟩
  have hrate : ∀ (hz : Int) (d : Chip), ((∃ w, Related hw w d) ∧ d.hz = hz) →
      BitRate (hw.value d.log .cr1) hz (lastClock d.log) := by
    rintro _ d ⟨⟨_, h⟩, rfl⟩
    exact h.ready.bitRate
  have hrun := c.run_wp (Op.onChip fuel) Op.asks (I := fun hz d => (∃ w, Related hw w d) ∧ d.hz = hz)
    (E := fun hz x d => x = Exit.stuck ∨ (∃ w, Related hw w d) ∧ d.hz = hz) hop ⟨⟨_, h0⟩, hz0⟩
  unfold askedLast
  rw [hr]
  exact wp_bind.mpr (wp_of_ok hr (wp_mono hrun (fun _ d h => hrate _ d h) fun _ d he => he.imp_right (hrate _ d)))

/-! ## Programs of operations -/

/-- `x` is a program of operations. -/
def Operates {α : Type} (x : Fw α) : Prop := Runs Op.onBus x

variable {α β : Type}

theorem operates_pure (a : α) : Operates (pure a : Fw α) := runs_pure a

theorem Operates.bind {x : Fw α} {f : α → Fw β} (hx : Operates x) (hf : ∀ a, Operates (f a)) : Operates (x >>= f) :=
  Runs.bind hx hf

theorem Operates.ite {x y : Fw α} (hx : Operates x) (hy : Operates y) (p : Prop) [Decidable p] :
    Operates (if p then x else y) := Runs.ite hx hy p

theorem Operates.forM {γ : Type} {f : γ → Fw PUnit} {l : List γ} (hf : ∀ a ∈ l, Operates (f a)) : Operates (forM l f) :=
  Runs.forM hf

theorem Operates.only {x : Fw Unit} (hx : Operates x) (p : Prop) [Decidable p] : Operates (if p then x else pure ()) :=
  hx.ite (operates_pure ()) p

theorem Operates.map {x : Fw α} (hx : Operates x) (f : α → β) : Operates (do return f (← x)) :=
  hx.bind fun _ => operates_pure _

theorem operates_op (o : Op) : Operates o.onBus := runs_op o

theorem operates_format (bits mode : Nat) : Operates (Graviton.spiFormat bits mode) := operates_op (.format bits mode)
theorem operates_transact (s : Select) (tx : List UInt8) (rxLength : Nat) : Operates (transact s tx rxLength) :=
  operates_op (.transact s tx rxLength)
theorem operates_pin (p : Pin) (v : Bool) : Operates (pinWrite p v) := operates_op (.pin p v)
theorem operates_line (port : Port) (text : String) (args : List Int) : Operates (printf port text args) :=
  operates_op (.printf port text args)
theorem operates_extOsc : Operates switchToExtOsc := operates_op (.osc true)
theorem operates_intOsc : Operates switchToIntOsc := operates_op (.osc false)
theorem operates_readable : Operates fpgaReadable := operates_op .readable
theorem operates_getc : Operates fpgaGetc := operates_op .getc
theorem operates_getMem : Operates getMem := operates_op .getMem
theorem operates_modifyMem (f : Mem → Mem) : Operates (modifyMem f) := operates_op (.modifyMem f)

theorem operates_stop (e : Stop) : Operates (stop e : Fw α) := runs_never (.stop e) Empty.elim rfl Empty.elim

/-- A program that asks for the board's number, and for nothing else about the world. -/
theorem operates_devId {g : Env → Fw α} (hg : ∀ env, g env = g { steadyEnv 0 with devId := env.devId })
    (hf : ∀ env, Operates (g env)) : Operates (askEnv >>= g) := by
  have h : (askEnv >>= g) = Op.devId.onBus >>= fun id => g { steadyEnv 0 with devId := id } := by
    funext env
    show g env env = g { steadyEnv 0 with devId := env.devId } env
    rw [← hg]
  rw [h]
  exact (operates_op .devId).bind fun id => hf _

/-! ## The firmware -/

section

variable (c : Afe)

theorem operates_writeReg (addr : UInt8) (v : UInt16) : Operates (Amc7891.writeReg c addr v) :=
  (operates_transact _ _ _).bind fun _ => operates_pure _

theorem operates_readReg (addr : UInt8) : Operates (Amc7891.readReg c addr) :=
  (operates_transact _ _ _).bind fun _ => (operates_transact _ _ _).map _

theorem operates_amcInit : Operates (Amc7891.init c) := by
  have hw := operates_writeReg c
  exact (hw _ _).bind fun _ => (hw _ _).bind fun _ => (hw _ _).bind fun _ => (hw _ _).bind fun _ =>
    (hw _ _).bind fun _ => (hw _ _).bind fun _ => hw _ _

theorem operates_temperature : Operates (Amc7891.readTemperature c) := (operates_readReg c _).map _

theorem operates_getMv (channel : AdcChannel) (gain : Gain) :
    Operates (getMv c channel gain) := (operates_readReg c _).map _

theorem operates_v29 : Operates v29 := (operates_getMv _ _ _).map _

theorem operates_iPa : Operates (iPa c) := (operates_getMv c _ _).map _

theorem operates_lm20 (channel : AdcChannel) : Operates (lm20 c channel) := (operates_getMv c channel _).map _

/-- Two readings, and the detector curve at one of them. -/
theorem operates_curve {x y : Fw UInt32} (hx : Operates x) (hy : Operates y) (f : UInt32 → UInt32 → UInt32) :
    Operates (do let env ← askEnv
                 let a ← x
                 let b ← y
                 return env.lm5331 (f a b)) :=
  hx.bind fun a => hy.bind fun b => operates_op (.lm5331 (f a b))

theorem operates_pOut : Operates (pOut c) := operates_curve (operates_getMv c _ _) (operates_getMv c _ _) fun _ b => b

theorem operates_pIn : Operates (pIn c) := operates_curve (operates_getMv c _ _) (operates_getMv c _ _) fun a _ => a

/-! ## The converters -/

theorem operates_rows (s : Select) (rows : List (List UInt8)) :
    Operates (forM rows fun row => do let _ ← transact s row 0 : Fw Unit) :=
  .forM fun row _ => (operates_transact s row 0).bind fun _ => operates_pure ()

theorem operates_lmk04826b : Operates Lmk04826b.init :=
  (operates_format 8 0).bind fun _ => (operates_pin _ _).bind fun _ => (operates_rows _ _).bind fun _ =>
    operates_format 8 1

theorem operates_lmk04133 : Operates Lmk04133.init :=
  (operates_format 8 0).bind fun _ => (operates_pin _ _).bind fun _ => (operates_rows _ _).bind fun _ =>
    operates_format 8 1

theorem operates_ads42lb69 : Operates Ads42lb69.init :=
  (operates_format 8 0).bind fun _ => (operates_pin _ _).bind fun _ => (operates_pin _ _).bind fun _ =>
    (operates_pin _ _).bind fun _ => (operates_rows _ _).bind fun _ => operates_format 8 1

/-- A transfer to the DAC3484 in format (8,0). -/
theorem operates_exchange (tx : List UInt8) (rxLength : Nat) (f : List UInt8 → α) :
    Operates (do Graviton.spiFormat 8 0
                 let val ← transact .dac3484 tx rxLength
                 Graviton.spiFormat 8 1
                 return f val) :=
  (operates_format 8 0).bind fun _ => (operates_transact _ _ _).bind fun _ => (operates_format 8 1).bind fun _ =>
    operates_pure _

theorem operates_getTemp : Operates Dac3484.getTemp := operates_exchange _ _ _

theorem operates_readAlarms : Operates Dac3484.readAlarms := operates_exchange _ _ _

theorem operates_clearAlarms : Operates Dac3484.clearAlarms :=
  (operates_format 8 0).bind fun _ => (operates_transact _ _ _).bind fun _ => operates_format 8 1

theorem operates_setCurrent (serial : Port) (val : UInt8) : Operates (Dac3484.setCurrent serial val) :=
  (operates_pure ()).ite ((operates_line _ _ _).bind fun _ => (operates_format 8 0).bind fun _ =>
    (operates_transact _ _ _).bind fun _ => operates_format 8 1) _

theorem operates_readBack (serial : Port) : Operates (Dac3484.readBack serial) :=
  (operates_line _ _ _).bind fun _ => .forM fun _ _ => (operates_transact _ _ _).bind fun _ => operates_line _ _ _

theorem operates_dacInit (serial : Port) : Operates (Dac3484.init serial) := by
  refine (operates_format 8 1).bind fun _ => (operates_pin _ _).bind fun _ => (operates_pin _ _).bind fun _ => ?_
  refine (operates_line _ _ _).bind fun _ => ?_
  refine (operates_rows _ _).bind fun _ => (operates_readBack serial).bind fun _ => ?_
  exact operates_format 8 1

theorem operates_readConfig (serial : Port) : Operates (Dac3484.readConfig serial) :=
  (operates_format 8 1).bind fun _ => (operates_readBack serial).bind fun _ => operates_format 8 1

/-! ## Modes -/

theorem operates_setMode (mode : AmcMode) : Operates (setMode c mode) := operates_modifyMem _

theorem operates_switchToSafe : Operates (switchToSafe c) := by
  have hw := operates_writeReg c
  exact (hw _ _).bind fun _ => (hw _ _).bind fun _ => (hw _ _).bind fun _ => (hw _ _).bind fun _ =>
    (hw _ _).bind fun _ => (hw _ _).bind fun _ => (hw _ _).bind fun _ => operates_setMode c _

theorem operates_switchToTx : Operates (switchToTx c) := by
  have hw := operates_writeReg c
  unfold switchToTx
  simp only [ite_then]
  refine operates_getMem.bind fun m => (operates_pure ()).ite ?_ _
  exact ((hw _ _).only _).bind fun _ => (hw _ _).bind fun _ => (hw _ _).bind fun _ => (hw _ _).bind fun _ =>
    (hw _ _).bind fun _ => operates_setMode c _

theorem operates_gravSafe : Operates (configureGravSafe c) := by
  have hw := operates_writeReg c
  exact (hw _ _).bind fun _ => (hw _ _).bind fun _ => (hw _ _).bind fun _ => operates_modifyMem _

theorem operates_txOff : Operates (configureGravOnWithTxOff c) :=
  operates_getMem.bind fun _ => (operates_pure ()).ite ((operates_writeReg c _ _).bind fun _ => operates_modifyMem _) _

theorem operates_txOn : Operates (configureGravOnWithTxOn c) :=
  operates_getMem.bind fun _ => (operates_pure ()).ite ((operates_writeReg c _ _).bind fun _ => operates_modifyMem _) _

end

theorem operates_switchToRx (c : Afe) (gain : UInt8) : Operates (switchToRx c gain) := by
  have hw := operates_writeReg c
  have hrest : Operates (do Amc7891.setGpio c (gravAfeReceive ||| ((gain.toUInt16 <<< 1) &&& 0x7E)); setMode c .rx) :=
    (hw _ _).bind fun _ => operates_setMode c _
  unfold switchToRx
  simp only [ite_then]
  refine operates_getMem.bind fun m => ((hw _ _).only _).bind fun _ => Operates.ite ?_ hrest _
  exact (hw _ _).bind fun _ => (hw _ _).bind fun _ => (hw _ _).bind fun _ => hrest

/-! ## Telemetry and shutdown -/

theorem operates_telemetryLines : ∀ line ∈ telemetryLines, Operates line.2 := by
  have hmv := fun channel gain => (operates_getMv .afe0 channel gain).map fun v => v.toInt32.toInt
  have h55 := ((operates_getMv .afe0 gravAdcV5v5 .gain1x).map convMvV5v5).map fun v => v.toInt32.toInt
  have h55n := ((operates_getMv .afe0 gravAdcV5v5n .gain1x).map convMvV5v5n).map Int32.toInt
  have hlm := fun c channel => (operates_lm20 c channel).map fun v => v.toInt32.toInt
  have ht := fun c => (operates_temperature c).map fun v => (v.toNat : Int)
  have hi := fun c => (operates_iPa c).map fun v => v.toInt32.toInt
  have hpo := fun c => (operates_pOut c).map Int32.toInt
  have hpi := fun c => (operates_pIn c).map Int32.toInt
  have hd := operates_getTemp.map Int8.toInt
  have he := operates_readAlarms.map fun v => (((v &&& ~~~0x0040).toNat : Nat) : Int)
  simp only [telemetryLines, List.forall_mem_cons, List.not_mem_nil, false_imp_iff, implies_true, and_true]
  exact ⟨hmv _ _, hmv _ _, hmv _ _, h55, h55n, operates_v29.map _, hlm _ _, ht _, ht _, ht _,
    hpo _, hi _, hlm _ _, hlm _ _, hpi _, hlm _ _, hlm _ _, hlm _ _,
    hpo _, hi _, hlm _ _, hlm _ _, hpi _, hlm _ _, hlm _ _, hlm _ _, hd, he⟩

theorem operates_dumpTelemetry (out : Port) : Operates (dumpTelemetry out) :=
  (operates_line _ _ _).bind fun _ =>
    (Operates.forM fun line h => (operates_telemetryLines line h).bind fun _ => operates_line _ _ _).bind fun _ =>
      operates_clearAlarms

section

variable (reason : String) (reason2 : Option String) (reason3 : Int32)

theorem operates_printReason : Operates (printReason reason reason2 reason3) := by
  cases reason2 with
  | none => exact operates_line _ _ _
  | some _ => exact (operates_line _ _ _).bind fun _ => (operates_line _ _ _).bind fun _ => operates_line _ _ _

theorem operates_shutdown : Operates (shutdown reason reason2 reason3) := by
  have hs := operates_switchToSafe
  refine (hs .afeA).bind fun _ => (hs .afeB).bind fun _ => operates_intOsc.bind fun _ => ?_
  refine (operates_pin _ _).bind fun _ => operates_extOsc.bind fun _ => (operates_gravSafe .afe0).bind fun _ => ?_
  refine (operates_printReason _ _ _).bind fun _ => (operates_dumpTelemetry .pc).bind fun _ => ?_
  exact (operates_line _ _ _).bind fun _ => .forM fun _ _ => operates_line _ _ _

theorem operates_goSafeAndReset : Operates (goSafeAndReset reason reason2 reason3 : Fw α) :=
  (operates_shutdown _ _ _).bind fun _ => operates_stop _

end

/-! ## Safety checks -/

theorem operates_tolerance (p : SoftRail) (value : Int32) : Operates (goSafeAndResetTolerance p value) := by
  have hreset : ∀ reason reason2 reason3, Operates (goSafeAndReset reason reason2 reason3 : Fw Bool) :=
    fun _ _ _ => operates_goSafeAndReset _ _ _
  have hset : ∀ t, Operates (setSoft p t) := fun _ => operates_modifyMem _
  refine operates_getMem.bind fun m => (hreset _ _ _).ite (Operates.ite ?_ ?_ _) _
  · exact (hreset _ _ _).ite ((hset _).bind fun _ => (operates_line _ _ _).bind fun _ => operates_pure false) _
  · exact (hset _).bind fun _ => operates_pure false

theorem operates_check (i : Item) : Operates i.check := by
  obtain ⟨s, limit⟩ := i
  have hr : Operates s.read := (operates_readReg s.chip s.addr).map _
  cases limit with
  | hard bad reason reason2 => exact hr.bind fun v => (operates_goSafeAndReset _ _ _).only _
  | soft p => exact hr.bind fun v => (operates_tolerance p v).bind fun _ => operates_pure ()

theorem operates_safetyCheck (testItem : UInt16) : Operates (safetyCheck testItem) := by
  refine operates_getMem.bind fun m => ?_
  split
  · exact operates_stop _
  · rename_i d _
    dsimp only
    split
    · exact operates_pure 0
    · rename_i body hb
      have hbody : Operates body := by
        rw [safetyCase_item hb, itemCheck]
        split
        · exact operates_check _
        · exact operates_pure ()
      exact hbody.bind fun _ => operates_pure _

theorem operates_setSafteyVector (v : Vector UInt16 32) : Operates (setSafteyVector v) := operates_modifyMem _

theorem operates_disable (testItem : UInt16) : Operates (disableSafteyCheck testItem) :=
  operates_getMem.bind fun _ => (operates_pure ()).ite (operates_setSafteyVector _) _

theorem operates_brokenBoards : Operates initBrokenBoards :=
  (operates_setSafteyVector _).bind fun _ => operates_devId (fun _ => rfl) fun env =>
    markBrokenBoards_rule (operates_pure ()) (fun _ _ hx hy => hx.bind fun _ => hy) operates_disable
      (fun text => operates_line .pc text []) env.devId

theorem operates_mainPrologue : Operates mainPrologue := by
  refine operates_brokenBoards.bind fun _ => ?_
  exact operates_devId (fun _ => rfl) fun _ => operates_line _ _ _

/-! ## Calibration and boot -/

theorem operates_calibrateLoop (c : Afe) (v29Bus : UInt32) (fuel : Nat) (counts : UInt32) :
    Operates (calibrateLoop c v29Bus fuel counts) := by
  induction fuel generalizing counts with
  | zero => exact operates_stop _
  | succ fuel ih =>
    unfold calibrateLoop
    simp only [ite_then]
    refine (operates_iPa c).bind fun i => Operates.ite ?_ (operates_pure _) _
    refine (operates_writeReg c _ _).bind fun _ => operates_v29.bind fun v =>
      ((operates_goSafeAndReset _ _ _).only _).bind fun _ =>
      (operates_line _ _ _).bind fun _ => Operates.ite ?_ (ih _) _
    exact (operates_line _ _ _).bind fun _ => operates_pure _

theorem operates_calibrate (c : Afe) : Operates (calibratePowerAmplifier c) := by
  have hw := operates_writeReg c
  refine operates_v29.bind fun _ => (operates_line _ _ _).bind fun _ => (hw _ _).bind fun _ => (hw _ _).bind fun _ => ?_
  refine (operates_calibrateLoop c _ _ _).bind fun _ => (hw _ _).bind fun _ => (hw _ _).bind fun _ => ?_
  exact (operates_iPa c).bind fun _ => (operates_line _ _ _).bind fun _ => operates_modifyMem _

theorem operates_oscillator : Operates initOscillator := by
  have hl := operates_line .pc
  refine (operates_pin _ _).bind fun _ => (operates_pin _ _).bind fun _ => ?_
  refine (hl _ _).bind fun _ => (hl _ _).bind fun _ => ?_
  refine (hl _ _).bind fun _ => (hl _ _).bind fun _ => (operates_pin _ _).bind fun _ => operates_extOsc.bind fun _ => ?_
  exact (hl _ _).ite ((hl _ _).bind fun _ => operates_stop _) _

theorem operates_initPowerUp : Operates initPowerUp := by
  have hi := operates_amcInit
  have hs := operates_switchToSafe
  refine operates_oscillator.bind fun _ => (operates_format 8 1).bind fun _ => ?_
  refine (hi .afeA).bind fun _ => (hi .afeB).bind fun _ => (hi .afe0).bind fun _ => ?_
  exact (operates_gravSafe .afe0).bind fun _ => (hs .afeA).bind fun _ => hs .afeB

theorem operates_busUnpowered : Operates busUnpowered :=
  (operates_getMv .afe0 _ _).bind fun _ => ((operates_getMv .afe0 _ _).map _).ite (operates_pure _) _

theorem operates_printBus : Operates printBus :=
  (operates_getMv .afe0 _ _).bind fun _ => (operates_getMv .afe0 _ _).bind fun _ => operates_line _ _ _

theorem operates_initPowerRails (unpowered : Bool) : Operates (initPowerRails unpowered) :=
  (operates_printBus.bind fun _ => operates_txOff .afe0).ite (operates_printBus.bind fun _ => operates_line _ _ _) _

theorem operates_initBringUp : Operates initBringUp := by
  have hd := operates_dumpTelemetry .pc
  have hc := operates_calibrate
  have hs := operates_switchToSafe
  refine (operates_line _ _ _).bind fun _ => hd.bind fun _ => ?_
  refine operates_lmk04826b.bind fun _ => operates_lmk04133.bind fun _ => operates_ads42lb69.bind fun _ => ?_
  refine (operates_dacInit .pc).bind fun _ => (hc .afeA).bind fun _ => (hc .afeB).bind fun _ => ?_
  exact (hs .afeA).bind fun _ => (hs .afeB).bind fun _ => hd.bind fun _ => operates_line _ _ _

theorem operates_init : Operates init :=
  operates_initPowerUp.bind fun _ => operates_busUnpowered.bind fun off => (operates_initPowerRails off).bind fun _ =>
    operates_initBringUp

/-! ## Commands and the loop -/

theorem operates_changeOp (msg : UInt8) : Operates (changeOp msg) := by
  have hs := operates_switchToSafe
  have ht := operates_switchToTx
  have hl := operates_line .pc
  unfold changeOp
  dsimp only
  simp only [ite_then]
  refine ((hs .afeA).bind fun _ => hs .afeB).ite ?_ _
  refine (operates_dumpTelemetry .fpga).ite ?_ _
  refine (operates_dumpTelemetry .pc).ite ?_ _
  refine (((ht .afeA).only _).bind fun _ => (ht .afeB).only _).ite ?_ _
  refine (operates_setCurrent _ _).ite ?_ _
  refine Operates.ite ?_ ?_ _
  · exact (hl _ _).bind fun _ => (operates_pIn _).bind fun _ => (hl _ _).bind fun _ =>
      (operates_pOut _).bind fun _ => hl _ _
  refine (operates_readConfig .pc).ite ?_ _
  exact (((hs .afeA).only _).bind fun _ => (hs .afeB).only _).only _

theorem operates_changeState (msg : UInt8) : Operates (changeState msg) := by
  unfold changeState
  simp only [ite_then]
  exact ((operates_switchToRx _ _).only _).bind fun _ => ((operates_switchToRx _ _).only _).bind fun _ =>
    (operates_changeOp msg).only _

theorem operates_periodic (v : LoopVars) : Operates (periodic v) := by
  have hlast : ∀ v, Operates (do changeState csOpCode2; printf .fpga "hello\r\n" []; return v : Fw LoopVars) :=
    fun v => (operates_changeState _).bind fun _ => (operates_line _ _ _).bind fun _ => operates_pure v
  unfold periodic
  by_cases hs : v.modeSwitched = 0
  · rw [if_pos hs]
    exact (operates_changeState _).bind fun _ => (operates_pure _).bind hlast
  · rw [if_neg hs]
    exact (operates_pure _).bind hlast

theorem operates_command : Operates command :=
  operates_getc.bind fun val => (operates_changeState val).bind fun _ => (operates_line _ _ _).bind fun _ =>
    (operates_line _ _ _).bind fun _ => operates_getMem.bind fun _ => (operates_txOn .afe0).ite (operates_txOff .afe0) _

theorem operates_mainFirst (v : LoopVars) : Operates (mainFirst v) := by
  have hserve : ∀ v, Operates (do let readable ← fpgaReadable
                                   if readable then command
                                   return v : Fw LoopVars) := fun v => operates_readable.bind fun readable =>
    (operates_command.bind fun _ => operates_pure v).ite (operates_pure v) _
  unfold mainFirst
  by_cases hs : v.slow % 10000 = 0
  · rw [if_pos hs]
    exact (operates_periodic v).bind fun v => hserve { v with slow := v.slow + 1 }
  · rw [if_neg hs]
    exact (operates_pure v).bind fun v => hserve { v with slow := v.slow + 1 }

theorem operates_mainIteration (v : LoopVars) : Operates (mainIteration v) := by
  rw [mainIteration_eq]
  exact (operates_mainFirst v).bind fun v => (operates_safetyCheck v.check).bind fun _ => operates_pure _

theorem operates_mainRun (n : Nat) : Operates (mainRun n) :=
  operates_init.bind fun _ => operates_mainPrologue.bind fun _ => Runs.iterate operates_mainIteration n _

/-- A program of operations that is `x` on the bus ends on the peripheral as `x` does there. -/
theorem client_on_chip {hw : Board} {K fuel : Nat} (hp : Prompt hw K) (hk : K ≤ fuel) {x : Fw α}
    {c : Client Op Op.Answer α} (hc : c.run Op.onBus = x) :
    (∃ v w d, x hw.env reset = .ok v w ∧
        (SPI.construct >>= fun _ => c.run (Op.onChip fuel)) hw unbooted = .ok v d ∧ Related hw w d) ∨
      ∃ e w d, x hw.env reset = .error e w ∧
        (SPI.construct >>= fun _ => c.run (Op.onChip fuel)) hw unbooted = .error (.stop e) d ∧ Related hw w d := by
  have hwp := client_refines hw fuel c
  rw [hc] at hwp
  cases hr : (SPI.construct >>= fun _ => c.run (Op.onChip fuel)) hw unbooted with
  | ok v d =>
    obtain ⟨w, hv, hrel⟩ := wp_ok hwp hr
    exact Or.inl ⟨v, w, d, hv, rfl, hrel⟩
  | error y d =>
    rcases wp_error hwp hr with hs | ⟨e, w, he, rfl, hrel⟩
    · exact absurd hp (hs.2.2 K hk)
    · exact Or.inr ⟨e, w, d, he, rfl, hrel⟩

theorem client_final {hw : Board} {K fuel : Nat} (hp : Prompt hw K) (hk : K ≤ fuel) {x : Fw α}
    {c : Client Op Op.Answer α} (hc : c.run Op.onBus = x) :
    Related hw (final (x hw.env reset)) (final ((SPI.construct >>= fun _ => c.run (Op.onChip fuel)) hw unbooted)) := by
  rcases client_on_chip hp hk hc with ⟨v, w, d, hr, hd, h⟩ | ⟨e, w, d, hr, hd, h⟩
  · rw [hr, hd]
    exact h
  · rw [hr, hd]
    exact h

/-- `main` through its `n`-th iteration is a program of operations, and every program of
    operations that is `main` on the bus ends on the peripheral as `main` ends on the bus, if
    the hardware sets its flags within `K` polls. The changes of the clock frequency, which the
    bus does not see, may stand anywhere in it. -/
theorem main_on_chip (n : Nat) {hw : Board} {K fuel : Nat} (hp : Prompt hw K) (hk : K ≤ fuel) :
    Operates (mainRun n) ∧ ∀ c : Client Op Op.Answer LoopVars, c.run Op.onBus = mainRun n →
      ((∃ v w d, mainRun n hw.env reset = .ok v w ∧
          (SPI.construct >>= fun _ => c.run (Op.onChip fuel)) hw unbooted = .ok v d ∧ Related hw w d) ∨
        ∃ e w d, mainRun n hw.env reset = .error e w ∧
          (SPI.construct >>= fun _ => c.run (Op.onChip fuel)) hw unbooted = .error (.stop e) d ∧ Related hw w d) :=
  ⟨operates_mainRun n, fun _ hc => client_on_chip hp hk hc⟩

/-- A board whose flags are always set in time. -/
def readyBoard : Board where
  status l := if 0 < unread l then srTxe ||| srRxne else srTxe
  shift _ := 0
  pclk2 _ := 72000000
  start _ := 0
  extOsc _ := true
  intOsc _ := true
  readable _ := false
  getc _ := 0
  devId := (0, 0, 0)
  lm5331 _ := 0

theorem readyBoard_prompt : Prompt readyBoard 1 where
  txe l _ := by
    refine ⟨0, Nat.one_pos, ?_⟩
    show (if 0 < unread l then srTxe ||| srRxne else srTxe) &&& srTxe ≠ 0
    split <;> decide
  rxne l _ hu := by
    refine ⟨0, Nat.one_pos, ?_⟩
    show (if 0 < unread l then srTxe ||| srRxne else srTxe) &&& srRxne ≠ 0
    rw [if_pos hu]
    decide

theorem main_on_chip_ready : Operates (mainRun 32) ∧ ∀ c : Client Op Op.Answer LoopVars, c.run Op.onBus = mainRun 32 →
    ((∃ v w d, mainRun 32 readyBoard.env reset = .ok v w ∧
        (SPI.construct >>= fun _ => c.run (Op.onChip 1)) readyBoard unbooted = .ok v d ∧ Related readyBoard w d) ∨
      ∃ e w d, mainRun 32 readyBoard.env reset = .error e w ∧
        (SPI.construct >>= fun _ => c.run (Op.onChip 1)) readyBoard unbooted = .error (.stop e) d ∧
          Related readyBoard w d) :=
  main_on_chip 32 readyBoard_prompt le_rfl

end Graviton.Spi
