/-
  Graviton.Emits — what each part of the firmware adds to the log.

  `Tells P x`: run on an idle bus, `x` returns with the bus idle, having logged only events
  that satisfy `P`. Two kinds of events are enough for everything but the initialisations
  and the FPGA's port: those of looking at the board (`Event.Look`), and those of a board
  that runs (`Event.Steady`): looks, the register writes of mode changes, calibrations and
  shutdowns (`Kept`), and the DAC currents. A condition on the log that such events keep
  (`Stays`) is kept by every program that logs no others, however it ends (`Tells.keeps`).
-/
import Graviton.Items
import Graviton.Lib.Monitor
import Graviton.Loop

namespace Graviton

open Effects History

variable {P P' : Event → Prop} {α β : Type}

/-! ## Growing logs -/

/-- From `w` the log grew by events that satisfy `P`. -/
def Within (P : Event → Prop) (w w' : World) : Prop := ∃ es, w'.log = es ++ w.log ∧ ∀ e ∈ es, P e

theorem Within.refl (w : World) : Within P w w := ⟨[], rfl, fun _ h => absurd h List.not_mem_nil⟩

theorem Within.trans {w w' w'' : World} (h : Within P w w') (h' : Within P w' w'') : Within P w w'' := by
  obtain ⟨es, hl, he⟩ := h
  obtain ⟨es', hl', he'⟩ := h'
  exact ⟨es' ++ es, by rw [hl', hl, List.append_assoc], List.forall_mem_append.mpr ⟨he', he⟩⟩

theorem Within.mono {w w' : World} (h : Within P w w') (hp : ∀ e, P e → P' e) : Within P' w w' := by
  obtain ⟨es, hl, he⟩ := h
  exact ⟨es, hl, fun e h => hp e (he e h)⟩

theorem within_push {w : World} {e : Event} (he : P e) : Within P w (w.push e) :=
  ⟨[e], rfl, fun x hx => by rw [List.mem_singleton.mp hx]; exact he⟩

theorem Within.push {w w' : World} {e : Event} (h : Within P w w') (he : P e) : Within P w (w'.push e) :=
  h.trans (within_push he)

theorem within_withMem (w : World) (m : Mem) : Within P w (w.withMem m) :=
  ⟨[], rfl, fun _ h => absurd h List.not_mem_nil⟩

/-- A condition on the log that no event of `P` breaks. -/
def Stays (P : Event → Prop) (J : List Event → Prop) : Prop := ∀ e l, P e → J l → J (e :: l)

theorem Stays.mono {J : List Event → Prop} (h : Stays P J) (hp : ∀ e, P' e → P e) : Stays P' J :=
  fun e l he hl => h e l (hp e he) hl

theorem Within.stays {w w' : World} {J : List Event → Prop} (h : Within P w w') (hJ : Stays P J) (hw : J w.log) :
    J w'.log := by
  obtain ⟨es, hl, he⟩ := h
  rw [hl]
  clear hl
  induction es with
  | nil => exact hw
  | cons e es ih =>
    exact hJ e _ (he e List.mem_cons_self) (ih fun x hx => he x (List.mem_cons_of_mem e hx))

/-- Run on an idle bus: returns with the bus idle, having logged only events of `P`. -/
def Tells (P : Event → Prop) (x : Fw α) : Prop :=
  ∀ env w, w.Idle → ∃ a w', x env w = .ok a w' ∧ w'.Idle ∧ Within P w w'

theorem Tells.mono {x : Fw α} (hx : Tells P x) (hp : ∀ e, P e → P' e) : Tells P' x := by
  intro env w h
  obtain ⟨a, w', hr, hi, hg⟩ := hx env w h
  exact ⟨a, w', hr, hi, hg.mono hp⟩

theorem tells_pure (a : α) : Tells P (pure a : Fw α) := fun _ w h => ⟨a, w, rfl, h, .refl w⟩

theorem Tells.bind {x : Fw α} {f : α → Fw β} (hx : Tells P x) (hf : ∀ a, Tells P (f a)) : Tells P (x >>= f) := by
  intro env w h
  obtain ⟨a, w1, hr, hi, hg⟩ := hx env w h
  obtain ⟨b, w2, hr', hi', hg'⟩ := hf a env w1 hi
  exact ⟨b, w2, by rw [run_bind_ok hr, hr'], hi', hg.trans hg'⟩

theorem Tells.ite {x y : Fw α} (hx : Tells P x) (hy : Tells P y) (p : Prop) [Decidable p] :
    Tells P (if p then x else y) := by
  by_cases h : p
  · rw [if_pos h]; exact hx
  · rw [if_neg h]; exact hy

theorem Tells.forM {f : α → Fw PUnit} {l : List α} (hf : ∀ a ∈ l, Tells P (f a)) : Tells P (forM l f) := by
  induction l with
  | nil => exact tells_pure _
  | cons a l ih =>
    rw [List.forM_cons]
    exact (hf a List.mem_cons_self).bind fun _ => ih fun b hb => hf b (List.mem_cons_of_mem a hb)

theorem tells_askEnv : Tells P askEnv := fun env w h => ⟨env, w, rfl, h, .refl w⟩

theorem tells_getMem : Tells P getMem := fun _ w h => ⟨w.mem, w, rfl, h, .refl w⟩

theorem tells_modifyMem (f : Mem → Mem) : Tells P (modifyMem f) :=
  fun _ w h => ⟨(), w.withMem (f w.mem), rfl, ⟨h.format, h.low⟩, within_withMem w _⟩

theorem tells_emit {e : Event} (he : P e) : Tells P (emit e) := fun _ w h =>
    ⟨(), w.push e, rfl, push_idle.mpr h, within_push he⟩

theorem Tells.wp {x : Fw α} (hx : Tells P x) {Q : α → World → Prop} {E : Stop → World → Prop} {env : Env} {w : World}
    (h : w.Idle) (hq : ∀ a w', w'.Idle → Within P w w' → Q a w') : Effects.wp x Q E env w := by
  obtain ⟨a, w', hr, hi, hg⟩ := hx env w h
  exact wp_of_ok hr (hq a w' hi hg)

theorem Tells.keeps {J : List Event → Prop} {x : Fw α} (hx : Tells P x) (hJ : Stays P J) :
    Keeps (fun w => J w.log) x := fun _ _ h hw => hx.wp h fun _ _ hi hg => ⟨hi, hg.stays hJ hw⟩

/-! ## Looking at the board -/

/-- The formats the driver of the DAC3484 sets the bus to. -/
def Dac3484.formats : List Format := [⟨8, 0⟩, ⟨8, 1⟩]

/-- A read of an AMC7891 or of the DAC3484, its alarms cleared, or a line to port `out`. -/
inductive Event.Look (out : Port) : Event → Prop
  | read (c : Afe) (addr : UInt8) (rx : List UInt8) : Event.Look out (.frame (readFrame c addr) rx)
  | dacRead {format : Format} {addr : UInt8} (x y : UInt8) (rx : List UInt8) : format ∈ Dac3484.formats →
      ¬ addr < 0x80 → Event.Look out (.frame ⟨format, [.dac3484], [addr, x, y]⟩ rx)
  | dacClear : Event.Look out (.frame ⟨⟨8, 0⟩, [.dac3484], [0x05, 0x00, 0x00]⟩ [])
  | line (text : String) (args : List Int) : Event.Look out (.printf out text args)

section

variable (out : Port)

theorem within_didRead (w : World) (env : Env) (c : Afe) (addr : UInt8) :
    Within (Event.Look out) w (w.didRead env c addr) :=
  (within_push (.read c addr [])).push (.read c amcAmcId _)

theorem tells_readReg (c : Afe) (addr : UInt8) : Tells (Event.Look out) (Amc7891.readReg c addr) :=
  fun env w h => ⟨_, _, readReg_run h c addr env, (didRead_quiet h env c addr).step.idle,
    within_didRead out w env c addr⟩

theorem tells_readTemperature (c : Afe) : Tells (Event.Look out) (Amc7891.readTemperature c) :=
  (tells_readReg out c amcTempData).bind fun _ => tells_pure _

theorem tells_getMv (c : Afe) (channel : AdcChannel) (gain : Gain) : Tells (Event.Look out) (getMv c channel gain) :=
  (tells_readReg out c _).bind fun _ => tells_pure _

theorem tells_v29 : Tells (Event.Look out) v29 := (tells_getMv out _ _ _).bind fun _ => tells_pure _

theorem tells_lm20 (c : Afe) (channel : AdcChannel) : Tells (Event.Look out) (lm20 c channel) :=
  (tells_getMv out _ _ _).bind fun _ => tells_pure _

theorem tells_iPa (c : Afe) : Tells (Event.Look out) (iPa c) := (tells_getMv out _ _ _).bind fun _ => tells_pure _

theorem tells_pOut (c : Afe) : Tells (Event.Look out) (pOut c) :=
  tells_askEnv.bind fun _ => (tells_getMv out _ _ _).bind fun _ => (tells_getMv out _ _ _).bind fun _ => tells_pure _

theorem tells_pIn (c : Afe) : Tells (Event.Look out) (pIn c) :=
  tells_askEnv.bind fun _ => (tells_getMv out _ _ _).bind fun _ => (tells_getMv out _ _ _).bind fun _ => tells_pure _

theorem tells_line (text : String) (args : List Int) : Tells (Event.Look out) (printf out text args) :=
  tells_emit (.line text args)

/-! ## The DAC3484 -/

/-- One transfer to the DAC3484 between two changes of the bus format. -/
theorem exchange_run (tx : List UInt8) (env : Env) {w : World} (h : w.Idle) :
    (do spiFormat 8 0
        let _ ← transact .dac3484 tx 0
        spiFormat 8 1 : Fw Unit) env w = .ok () (w.push (.frame ⟨⟨8, 0⟩, [.dac3484], tx⟩ [])) := by
  obtain ⟨format, low, log, mem⟩ := w
  obtain rfl : format = ⟨8, 1⟩ := h.format
  obtain rfl : low = [] := h.low
  have ht := transact_run .dac3484 tx 0 env (w := ⟨⟨8, 0⟩, [], log, mem⟩) rfl
  rw [run_bind_ok (show spiFormat 8 0 env ⟨⟨8, 1⟩, [], log, mem⟩ = .ok () ⟨⟨8, 0⟩, [], log, mem⟩ from rfl),
    run_bind_ok ht]
  simp [spiFormat, World.push, World.frameTo, Env.reply]

theorem tells_clearAlarms : Tells (Event.Look out) Dac3484.clearAlarms := fun env _ h =>
  ⟨(), _, exchange_run [0x05, 0x00, 0x00] env h, push_idle.mpr h, within_push .dacClear⟩

/-- One that reads, and what is made of the reply. -/
theorem tells_dacRead {α : Type} {addr : UInt8} (ha : ¬ addr < 0x80) (f : List UInt8 → α) :
    Tells (Event.Look out) (do spiFormat 8 0
                               let val ← transact .dac3484 [addr, 0x00, 0x00] 3
                               spiFormat 8 1
                               return f val) := by
  intro env w h
  obtain ⟨format, low, log, mem⟩ := w
  obtain rfl : format = ⟨8, 1⟩ := h.format
  obtain rfl : low = [] := h.low
  let rx := env.reply log ⟨⟨8, 0⟩, [.dac3484], [addr, 0x00, 0x00]⟩ 3
  have hin : (⟨8, 0⟩ : Format) ∈ Dac3484.formats := List.mem_cons_self
  have ht := transact_run .dac3484 [addr, 0x00, 0x00] 3 env (w := ⟨⟨8, 0⟩, [], log, mem⟩) rfl
  refine ⟨f rx, _, ?_, push_idle.mpr h, within_push (.dacRead 0x00 0x00 rx hin ha)⟩
  rw [run_bind_ok (show spiFormat 8 0 env ⟨⟨8, 1⟩, [], log, mem⟩ = .ok () ⟨⟨8, 0⟩, [], log, mem⟩ from rfl),
    run_bind_ok ht]
  rfl

theorem tells_getTemp : Tells (Event.Look out) Dac3484.getTemp := tells_dacRead out (by decide) _

theorem tells_readAlarms : Tells (Event.Look out) Dac3484.readAlarms := tells_dacRead out (by decide) _

theorem spiFormat_idle (env : Env) {w : World} (h : w.Idle) : spiFormat 8 1 env w = .ok () w := by
  obtain ⟨format, low, log, mem⟩ := w
  obtain rfl : format = ⟨8, 1⟩ := h.format
  rfl

theorem tells_spiFormat : Tells P (spiFormat 8 1) := fun env w h => ⟨(), w, spiFormat_idle env h, h, .refl w⟩

/-- The read-back comes in format (8,1), that of an idle bus. -/
theorem tells_readBack : Tells (Event.Look out) (Dac3484.readBack out) := by
  refine (tells_line out _ _).bind fun _ => .forM fun row _ => Tells.bind (fun env w h => ?_) fun _ =>
    tells_line out _ _
  refine ⟨_, _, transact_run .dac3484 _ 3 env h.low, push_idle.mpr h, within_push (.dacRead 0x00 0x00 _ ?_ ?_)⟩
  · rw [h.format]
    decide
  · exact read_bit (row.getD 0 0)

theorem tells_readConfig : Tells (Event.Look out) (Dac3484.readConfig out) :=
  tells_spiFormat.bind fun _ => (tells_readBack out).bind fun _ => tells_spiFormat

/-! ## Telemetry -/

theorem tells_asInt {x : Fw UInt32} (hx : Tells P x) : Tells P (asInt x) := hx.bind fun _ => tells_pure _

theorem tells_telemetryLines : ∀ line ∈ telemetryLines, Tells (Event.Look out) line.2 := by
  have hmv := fun channel gain => tells_asInt (tells_getMv out .afe0 channel gain)
  have h55 := tells_asInt ((tells_getMv out .afe0 gravAdcV5v5 .gain1x).bind fun v => tells_pure (convMvV5v5 v))
  have h55n := ((tells_getMv out .afe0 gravAdcV5v5n .gain1x).bind fun v => tells_pure (convMvV5v5n v)).bind fun v =>
    tells_pure v.toInt
  have hlm := fun c channel => tells_asInt (tells_lm20 out c channel)
  have ht := fun c => (tells_readTemperature out c).bind fun v => tells_pure (v.toNat : Int)
  have hi := fun c => tells_asInt (tells_iPa out c)
  have hpo := fun c => (tells_pOut out c).bind fun v => tells_pure v.toInt
  have hpi := fun c => (tells_pIn out c).bind fun v => tells_pure v.toInt
  have hd := (tells_getTemp out).bind fun v => tells_pure v.toInt
  have he := (tells_readAlarms out).bind fun v => tells_pure (((v &&& ~~~0x0040).toNat : Nat) : Int)
  simp only [telemetryLines, List.forall_mem_cons, List.not_mem_nil, false_imp_iff, implies_true, and_true]
  exact ⟨hmv _ _, hmv _ _, hmv _ _, h55, h55n, tells_asInt (tells_v29 out), hlm _ _, ht _, ht _, ht _,
    hpo _, hi _, hlm _ _, hlm _ _, hpi _, hlm _ _, hlm _ _, hlm _ _,
    hpo _, hi _, hlm _ _, hlm _ _, hpi _, hlm _ _, hlm _ _, hlm _ _, hd, he⟩

theorem tells_dumpTelemetry : Tells (Event.Look out) (dumpTelemetry out) :=
  (tells_line out _ _).bind fun _ =>
    (Tells.forM fun line h => (tells_telemetryLines out line h).bind fun _ => tells_line out _ _).bind fun _ =>
      tells_clearAlarms out

theorem tells_printReason (reason : String) (reason2 : Option String) (reason3 : Int32) :
    Tells (Event.Look .pc) (printReason reason reason2 reason3) := by
  cases reason2 with
  | none => exact tells_line .pc _ _
  | some _ => exact (tells_line .pc _ _).bind fun _ => (tells_line .pc _ _).bind fun _ => tells_line .pc _ _

end

/-! ## A running board -/

/-- The write of `v` to register `addr` of chip `c`, as `write_reg` sends it. -/
def writeEvent (p : Write) : Event := .frame ⟨⟨8, 1⟩, [.afe p.1.1], [p.1.2, hiByte p.2, loByte p.2]⟩ []

/-- The registers of an AMC7891 that modes and calibrations change. -/
def modeRegs : List UInt8 :=
  [AfeReg.paEn.addr, AfeReg.vgset.addr, AfeReg.txSw.addr, AfeReg.lnaDis.addr, AfeReg.gpioOut.addr, amcGpioConfig]

/-- The writes of a running board: to those, and what `enable_dacs` and `configure_grav_safe`
    set again. -/
def Kept (p : Write) : Prop :=
  p.1.2 ∈ modeRegs ∨ (p.1.2 = amcAmcPower ∧ p.2 = 0x7E00) ∨ p = ((.afe0, amcAdcGain), 0x2000)

instance : DecidablePred Kept := fun p => by unfold Kept; infer_instance

/-- Events of a board that runs, but for those of the FPGA's port. -/
inductive Event.Steady : Event → Prop
  | look {e : Event} : Event.Look .pc e → Event.Steady e
  | write (p : Write) : Kept p → Event.Steady (writeEvent p)
  | current (v : UInt8) : Event.Steady (.frame ⟨⟨8, 0⟩, [.dac3484], [0x03, Dac3484.coarse v, 0x00]⟩ [])
  | osc (external ok : Bool) : Event.Steady (.osc external ok)
  | oscEn (v : Bool) : Event.Steady (.pin .oscEn v)

theorem wrote_event {w : World} (h : w.Idle) (p : Write) : w.wrote p = w.push (writeEvent p) := by
  show w.push (.frame ⟨w.format, _, _⟩ []) = _
  rw [h.format]
  rfl

theorem within_wroteAll {w : World} (h : w.Idle) {ps : List Write} (hp : ∀ p ∈ ps, P (writeEvent p)) :
    Within P w (w.wroteAll ps) := by
  induction ps with
  | nil => exact .refl w
  | cons p ps ih =>
    have h1 := ih fun q hq => hp q (List.mem_cons_of_mem p hq)
    show Within P w ((w.wroteAll ps).wrote p)
    rw [wrote_event (wroteAll_idle.mpr h)]
    exact h1.push (hp p List.mem_cons_self)

/-- A function that makes the writes `ws` and changes variables. -/
theorem tells_writes {x : Fw Unit} (ws : Mem → List Write) (m : Mem → Mem)
    (hx : ∀ env w, w.Idle → x env w = .ok () ((w.wroteAll (ws w.mem)).withMem (m w.mem)))
    (hw : ∀ m, ∀ p ∈ ws m, Kept p) : Tells Event.Steady x := by
  intro env w h
  have hi : (w.wroteAll (ws w.mem)).Idle := wroteAll_idle.mpr h
  exact ⟨(), _, hx env w h, (withMem_step hi _).idle,
    (within_wroteAll h fun p hp => .write p (hw w.mem p hp)).trans (within_withMem _ _)⟩

theorem kept_dac (c : Afe) (channel : DacChannel) (v : UInt16) : Kept (dacWrite c channel v) := by
  have hall : ∀ channel : DacChannel, Amc7891.dacData channel ∈ modeRegs := fun channel => by cases channel <;> decide
  exact Or.inl (hall channel)

theorem kept_gpio (c : Afe) (v : UInt16) : Kept (gpioWrite c v) := Or.inl (by decide : amcGpioOut ∈ modeRegs)

theorem kept_safe (c : Afe) : ∀ p ∈ safeWrites c, Kept p := by cases c <;> decide

theorem kept_rx (c : Afe) (o : Amc7891) (gain : UInt8) : ∀ p ∈ rxWrites c o gain, Kept p := by
  unfold rxWrites
  cases o.mode <;> simp [kept_dac, kept_gpio]

theorem kept_tx (c : Afe) (o : Amc7891) : ∀ p ∈ txWrites c o, Kept p := by
  unfold txWrites
  cases o.mode <;> simp [kept_dac, kept_gpio]

theorem tells_switchToSafe (c : Afe) : Tells Event.Steady (switchToSafe c) :=
  tells_writes (fun _ => safeWrites c) (fun m => m.setMode c .safe)
    (fun env _ h => switchToSafe_run h c env) fun _ => kept_safe c

theorem tells_switchToRx (c : Afe) (gain : UInt8) : Tells Event.Steady (switchToRx c gain) :=
  tells_writes (fun m => rxWrites c (m.afe c) gain) (fun m => m.setMode c .rx)
    (fun env _ h => switchToRx_run h c env gain)
    fun m => kept_rx c (m.afe c) gain

theorem tells_switchToTx (c : Afe) : Tells Event.Steady (switchToTx c) :=
  tells_writes (fun m => txWrites c (m.afe c)) (fun m => m.setMode c .tx) (fun env _ h => switchToTx_run h c env)
    fun m => kept_tx c (m.afe c)

theorem tells_gravSafe : Tells Event.Steady (configureGravSafe .afe0) :=
  tells_writes (fun _ => gravSafeWrites .afe0) (fun m => { m with gravMode := .safe })
    (fun env _ h => configureGravSafe_run h .afe0 env) fun _ => by decide

theorem tells_gravTxOff : Tells Event.Steady (configureGravOnWithTxOff .afe0) :=
  tells_writes (fun m => if m.gravMode = .txDis then [] else [gpioWrite .afe0 gravMainPowerOnTxOff])
    (fun m => { m with gravMode := .txDis }) (fun env _ h => configureGravOnWithTxOff_run h .afe0 env) fun m => by
      split <;> simp [kept_gpio]

theorem tells_gravTxOn : Tells Event.Steady (configureGravOnWithTxOn .afe0) :=
  tells_writes (fun m => if m.gravMode = .txEn then [] else [gpioWrite .afe0 gravMainPowerOnTxOn])
    (fun m => { m with gravMode := .txEn }) (fun env _ h => configureGravOnWithTxOn_run h .afe0 env) fun m => by
      split <;> simp [kept_gpio]

theorem tells_setCurrent (val : UInt8) : Tells Event.Steady (Dac3484.setCurrent .pc val) := by
  unfold Dac3484.setCurrent
  refine (tells_pure ()).ite ?_ _
  refine ((tells_line .pc _ _).mono fun _ => .look).bind fun _ env w h => ?_
  exact ⟨(), _, exchange_run [0x03, Dac3484.coarse val, 0x00] env h, push_idle.mpr h, within_push (.current val)⟩

theorem tells_switchToExtOsc : Tells Event.Steady switchToExtOsc := fun env w h =>
  ⟨_, w.push (.osc true (env.extOsc w.log)), rfl, push_idle.mpr h, within_push (.osc true _)⟩

theorem tells_switchToIntOsc : Tells Event.Steady switchToIntOsc := fun env w h =>
  ⟨_, w.push (.osc false (env.intOsc w.log)), rfl, push_idle.mpr h, within_push (.osc false _)⟩

/-! ## Commands -/

/-- Does a byte ask for telemetry on the FPGA's port? -/
def asksDump (msg : UInt8) : Bool := csRx ≠ csRxFlagMask &&& msg && csOpCodeMask &&& msg = csOpCode1

theorem changeState_dump {msg : UInt8} (h : asksDump msg = true) : changeState msg = dumpTelemetry .fpga := by
  obtain ⟨hr, ho⟩ : csRx ≠ csRxFlagMask &&& msg ∧ csOpCodeMask &&& msg = csOpCode1 := by simpa [asksDump] using h
  unfold changeState changeOp
  rw [if_neg fun h => hr h.1, if_neg fun h => hr h.1, if_pos hr, ho]
  rfl

theorem tells_changeOp {msg : UInt8} (h : csOpCodeMask &&& msg ≠ csOpCode1) : Tells Event.Steady (changeOp msg) := by
  have hs := fun c => tells_switchToSafe c
  have ht := fun c => tells_switchToTx c
  have hp : Tells Event.Steady (pure () : Fw Unit) := tells_pure ()
  have hl := fun text args => (tells_line .pc text args).mono fun _ => Event.Steady.look
  unfold changeOp
  dsimp only
  simp only [ite_then]
  rw [if_neg h]
  refine ((hs .afeA).bind fun _ => hs .afeB).ite ?_ _
  refine ((tells_dumpTelemetry .pc).mono fun _ => .look).ite ?_ _
  refine (((ht .afeA).ite hp _).bind fun _ => (ht .afeB).ite hp _).ite ?_ _
  refine (tells_setCurrent _).ite ?_ _
  refine Tells.ite ?_ ?_ _
  · exact (hl _ _).bind fun _ => ((tells_pIn .pc _).mono fun _ => .look).bind fun _ => (hl _ _).bind fun _ =>
      ((tells_pOut .pc _).mono fun _ => .look).bind fun _ => hl _ _
  refine ((tells_readConfig .pc).mono fun _ => .look).ite ?_ _
  exact (((hs .afeA).ite hp _).bind fun _ => (hs .afeB).ite hp _).ite hp _

theorem tells_changeState {msg : UInt8} (h : asksDump msg = false) : Tells Event.Steady (changeState msg) := by
  have hp : Tells Event.Steady (pure () : Fw Unit) := tells_pure ()
  unfold changeState
  simp only [ite_then]
  refine ((tells_switchToRx _ _).ite hp _).bind fun _ => ((tells_switchToRx _ _).ite hp _).bind fun _ => ?_
  by_cases hr : csRx ≠ csRxFlagMask &&& msg
  · rw [if_pos hr]
    exact tells_changeOp fun ho => by simp [asksDump, hr, ho] at h
  · rw [if_neg hr]
    exact hp

/-- The main board is set as the channels' modes call for. -/
theorem tells_gate (p : Prop) [Decidable p] :
    Tells Event.Steady (if p then configureGravOnWithTxOn .afe0 else configureGravOnWithTxOff .afe0) :=
  tells_gravTxOn.ite tells_gravTxOff _

/-! ## The shutdown -/

/-- `go_safe_and_reset` until it notifies the FPGA. -/
def shutdownFirst (reason : String) (reason2 : Option String) (reason3 : Int32) : Fw Unit := do
  switchToSafe .afeA
  switchToSafe .afeB
  let _ ← switchToIntOsc
  pinWrite .oscEn true
  let _ ← switchToExtOsc
  configureGravSafe .afe0
  printReason reason reason2 reason3
  dumpTelemetry .pc
  printf .pc "LOG: halted. resetting in 5 seconds.\r\n" []

theorem shutdown_eq (reason : String) (reason2 : Option String) (reason3 : Int32) :
    shutdown reason reason2 reason3 =
      shutdownFirst reason reason2 reason3 >>= fun _ => forM (List.range 5) fun _ => notifyError := by
  simp only [shutdown, shutdownFirst, bind_assoc]

theorem tells_shutdownFirst (reason : String) (reason2 : Option String) (reason3 : Int32) :
    Tells Event.Steady (shutdownFirst reason reason2 reason3) :=
  (tells_switchToSafe _).bind fun _ => (tells_switchToSafe _).bind fun _ => tells_switchToIntOsc.bind fun _ =>
    (tells_emit (.oscEn true)).bind fun _ => tells_switchToExtOsc.bind fun _ => tells_gravSafe.bind fun _ =>
      ((tells_printReason _ _ _).mono fun _ => .look).bind fun _ =>
        ((tells_dumpTelemetry .pc).mono fun _ => .look).bind fun _ => (tells_line .pc _ _).mono fun _ => .look

def errorEvent : Event := .printf .fpga "error\r\n" []

/-- A shutdown logs steady events, then notifies the FPGA five times. -/
theorem shutdown_within {reason : String} {reason2 : Option String} {reason3 : Int32} {env : Env} {w w' : World}
    (h : w.Idle) (hr : shutdown reason reason2 reason3 env w = .ok () w') :
    ∃ w1, Within Event.Steady w w1 ∧ w'.log = List.replicate 5 errorEvent ++ w1.log := by
  obtain ⟨_, w1, r1, _, h1⟩ := tells_shutdownFirst reason reason2 reason3 env w h
  rw [shutdown_eq, run_bind_ok r1] at hr
  refine ⟨w1, h1, ?_⟩
  cases hr
  rfl

/-! ## Checks and calibrations -/

section

variable {J : World → Prop}

theorem keeps_pure (a : α) : Keeps J (pure a : Fw α) := fun _ _ h hj => wp_pure.mpr ⟨h, hj⟩

theorem Keeps.ite {x y : Fw α} (hx : Keeps J x) (hy : Keeps J y) (p : Prop) [Decidable p] :
    Keeps J (if p then x else y) := by
  by_cases h : p
  · rw [if_pos h]; exact hx
  · rw [if_neg h]; exact hy

theorem keeps_goSafeAndReset (reason : String) (reason2 : Option String) (reason3 : Int32) :
    Keeps J (goSafeAndReset reason reason2 reason3 : Fw α) := fun _ _ h hj => goSafeAndReset_wp _ _ _ h hj

end

section

variable {J : List Event → Prop} (hJ : Stays Event.Steady J)

include hJ

theorem tells_keeps_look {x : Fw α} (hx : Tells (Event.Look .pc) x) : Keeps (fun w => J w.log) x :=
  (hx.mono fun _ => .look).keeps hJ

theorem keeps_check (i : Item) : Keeps (fun w => J w.log) i.check := by
  obtain ⟨s, limit⟩ := i
  have hr : Keeps (fun w => J w.log) s.read :=
    tells_keeps_look hJ ((tells_readReg .pc s.chip s.addr).bind fun _ => tells_pure _)
  have hm := fun f => (tells_modifyMem (P := Event.Steady) f).keeps hJ
  cases limit with
  | hard bad reason reason2 => exact hr.bind fun v => (keeps_goSafeAndReset _ _ _).ite (keeps_pure ()) _
  | soft p =>
    refine hr.bind fun v => Keeps.bind ?_ fun _ => keeps_pure ()
    refine (tells_getMem.keeps hJ).bind fun m => (keeps_goSafeAndReset _ _ _).ite (Keeps.ite ?_ ?_ _) _
    · refine (keeps_goSafeAndReset _ _ _).ite ((hm _).bind fun _ => ?_) _
      exact (tells_keeps_look hJ (tells_line .pc _ _)).bind fun _ => keeps_pure false
    · exact (hm _).bind fun _ => keeps_pure false

theorem keeps_safetyCheck {testItem : UInt16} (hi : testItem.toNat < 32) :
    Keeps (fun w => J w.log) (safetyCheck testItem) := by
  intro env w h hj
  unfold safetyCheck
  refine wp_bind.mpr (wp_of_ok (run_getMem env w) ?_)
  split
  · rename_i hn
    exact absurd hi (Vector.getElem?_eq_none_iff.mp hn).not_gt
  · rename_i d _
    dsimp only
    split
    · exact wp_pure.mpr ⟨h, hj⟩
    · rename_i body hb
      have hbody : Keeps (fun w => J w.log) body := by
        rw [safetyCase_item hb, itemCheck]
        split
        · exact keeps_check hJ _
        · exact keeps_pure ()
      exact (hbody.bind fun _ => keeps_pure _) env w h hj

end

section

variable {c : Afe} {env : Env} {w w1 : World} {counts : UInt32}

theorem within_wrote (h : w.Idle) (channel : DacChannel) (v : UInt16) :
    Within Event.Steady w (w.wrote (dacWrite c channel v)) := by
  rw [wrote_event h]
  exact within_push (.write _ (kept_dac c channel v))

theorem within_steadyRead (w : World) (env : Env) (c : Afe) (addr : UInt8) :
    Within Event.Steady w (w.didRead env c addr) :=
  (within_didRead .pc w env c addr).mono fun _ => .look

theorem within_probed (h : w.Idle) : Within Event.Steady w (w.probed env c counts) :=
  (within_steadyRead w env c _).trans ((within_wrote (sensed_quiet h).step.idle _ _).trans
    (within_steadyRead _ env _ _))

theorem within_dotted (h : w.Idle) : Within Event.Steady w (w.dotted env c counts) :=
  (within_probed h).push (.look (.line _ _))

theorem within_entered (h : w.Idle) : Within Event.Steady w (w.entered env c) := by
  have h1 := (didRead_quiet h env .afe0 (Amc7891.adcData gravAdcV29)).step.idle
  have h2 := push_idle (e := .printf .pc "LOG: Calibrating power amplifier\r\n" []).mpr h1
  have hw := within_wrote (c := c) h2 gravDacVgset (convMvToDacCountsForVggCircuit (-3800)).toUInt16
  exact ((within_steadyRead w env _ _).push (.look (.line _ _))).trans
    (hw.trans (within_wrote (wrote_idle.mpr h2) gravDacPaEn gravDacPaEnTx))

theorem within_finished (h : w.Idle) : Within Event.Steady w (w.finished env c counts) := by
  have h1 := within_wrote (c := c) h gravDacVgset counts.toUInt16
  have h2 := within_wrote (c := c) (wrote_idle.mpr h : (w.wrote (dacWrite c gravDacVgset counts.toUInt16)).Idle)
    gravDacPaEn gravDacPaEnRx
  have h3 : Within Event.Steady w (w.reported env c counts) :=
    ((h1.trans h2).trans (within_steadyRead _ env c _)).push (.look (.line _ _))
  exact h3.trans (within_withMem _ _)

theorem Tests.within {v29Bus : UInt32} {k : Nat} (h : w.Idle) (ht : Tests c v29Bus env w k counts w1) :
    Within Event.Steady w w1 := by
  induction ht with
  | start => exact .refl w
  | body ht hb ih =>
    obtain ⟨hi, _, _⟩ := ht.at h
    obtain ⟨_, _, _, rfl⟩ := body_cases hi hb
    exact ih.trans (within_dotted hi)

end

theorem steady_calibrate {J : List Event → Prop} (hJ : Stays Event.Steady J) (c : Afe) :
    Keeps (fun w => J w.log) (calibratePowerAmplifier c) := by
  intro env w h hj
  have he : (w.entered env c).Idle := entered_idle h
  obtain ⟨k, counts, w1, ht, hend⟩ := calibrate_cases c env h
  have hi := (ht.at he).1
  have h1 : Within Event.Steady w w1 := (within_entered h).trans (ht.within he)
  rcases hend with ⟨_, hr⟩ | ⟨_, _, w2, hs, hr⟩ | ⟨_, _, hr⟩
  · have hs : Within Event.Steady (w1.sensed env c) ((w1.sensed env c).finished env c (counts + 2)) :=
      within_finished (sensed_quiet hi).step.idle
    have hw := h1.trans ((within_steadyRead w1 env c _).trans hs)
    have hidle := (wp_ok (calibrate_wp c env h) hr)
    obtain ⟨_, _, hc⟩ := hidle
    exact wp_of_ok hr ⟨hc.step.idle, hw.stays hJ hj⟩
  · exact wp_of_error hr ⟨_, _, _, _, probed_idle hi _, (h1.trans (within_probed hi)).stays hJ hj, hs⟩
  · have hd : ((w1.dotted env c (counts - 1)).push calibrationFailed).Idle := push_idle.mpr (dotted_idle hi _)
    have hf : Within Event.Steady _ (World.finished _ env c (convMvToDacCountsForVggCircuit (-3800) + 2)) :=
      within_finished hd
    have hw := (h1.trans ((within_dotted hi).push (.look (.line _ _)))).trans hf
    obtain ⟨_, _, hc⟩ := wp_ok (calibrate_wp c env h) hr
    exact wp_of_ok hr ⟨hc.step.idle, hw.stays hJ hj⟩

end Graviton
