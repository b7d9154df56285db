/-
  Graviton.Board — `graviton.h`, `graviton.cpp`, `lm20.cpp`: the settings of the three
  AMC7891 chips, the mode changes that write them, and the conversions of their readings.

  `switch_to_rx` and `switch_to_tx` write only what the mode the object is in calls for;
  `rxWrites` and `txWrites` are those writes as a function of that object, and the `_run`
  theorems say that each function does exactly its writes and sets the mode.
-/
import Graviton.Converters

namespace Graviton

open Effects

/-! ## Settings -/

def gravEnEth : UInt16 := 0x002
def gravEn1v8 : UInt16 := 0x004
def gravEn2v5 : UInt16 := 0x008
/-- Active high DAC transmit enable; it works with `sif_txenable` at 0. -/
def gravEnTx : UInt16 := 0x040
def gravEnAdc : UInt16 := 0x200

def gravEnDsa : UInt16 := 0x07F
def gravEnLnaDis : UInt16 := 0x080
def gravEnPreRxEn : UInt16 := 0x200
def gravEnPreTxEn : UInt16 := 0x100
def gravEnTxEn : UInt16 := 0x400
def gravEnRxEn : UInt16 := 0x800

def gravAdcV2v5 : AdcChannel := .adc0
def gravAdcV1v8 : AdcChannel := .adc1
def gravAdcV3v8 : AdcChannel := .adc2
def gravAdcV5v5n : AdcChannel := .adc3
def gravAdcV5v5 : AdcChannel := .adc4
def gravAdcV29 : AdcChannel := .adc5
def gravAdcAdcTemp : AdcChannel := .adc7

def gravAdcPOut : AdcChannel := .adc0
def gravAdcIPa : AdcChannel := .adc1
def gravAdcTPreRx : AdcChannel := .adc2
def gravAdcTLdo : AdcChannel := .adc3
def gravAdcPIn : AdcChannel := .adc4
def gravAdcTPa : AdcChannel := .adc5
def gravAdcTPreTx2 : AdcChannel := .adc6
def gravAdcTPreTx3 : AdcChannel := .adc7

def gravDacPaEn : DacChannel := .dac0
def gravDacVgset : DacChannel := .dac1
def gravDacTxSw : DacChannel := .dac2
def gravTxLnaDis : DacChannel := .dac3

def gravMainEnables : UInt16 := gravEnEth ||| gravEn1v8 ||| gravEn2v5 ||| gravEnTx ||| gravEnAdc
def gravMainDefaults : UInt16 := 0
def gravMainPowerOnTxOff : UInt16 := gravEnEth ||| gravEn1v8 ||| gravEn2v5 ||| gravEnAdc
def gravMainPowerOnTxOn : UInt16 := gravEnEth ||| gravEn1v8 ||| gravEn2v5 ||| gravEnAdc ||| gravEnTx

def gravAfeEnables : UInt16 :=
  gravEnDsa ||| gravEnLnaDis ||| gravEnPreRxEn ||| gravEnPreTxEn ||| gravEnTxEn ||| gravEnRxEn
def gravAfeReceive : UInt16 := gravEnPreRxEn ||| gravEnRxEn ||| gravEnPreTxEn
def gravAfeTransmit : UInt16 := gravEnDsa ||| gravEnLnaDis ||| gravEnPreTxEn ||| gravEnTxEn
def gravAfeSafe : UInt16 := gravEnLnaDis ||| gravEnDsa

def gravDacTxSwRx : UInt16 := 0x0000
def gravDacTxSwTx : UInt16 := 0x02A3
def gravDacTxLnaDisTx : UInt16 := 0x0000
def gravDacTxLnaDisRx : UInt16 := 0x03FF
def gravDacVgsetRx : UInt16 := 0x03FF
def gravDacPaEnRx : UInt16 := 0x0000
def gravDacPaEnTx : UInt16 := 0x03FF

def gravDacPaEnSafe : UInt16 := gravDacPaEnRx
def gravDacVgsetSafe : UInt16 := gravDacVgsetRx
def gravDacTxSwSafe : UInt16 := gravDacTxSwRx
def gravDacTxLnaDisSafe : UInt16 := gravDacTxLnaDisRx

/-- `enum GAIN`: the divisor it stands for. -/
inductive Gain where
  | gain1x
  | gain2x
  deriving DecidableEq, Repr

def Gain.code : Gain → UInt32
  | .gain1x => 2
  | .gain2x => 1

/-! ## Modes -/

def Mem.setMode (m : Mem) (c : Afe) (mode : AmcMode) : Mem :=
  { m with afe := Function.update m.afe c { m.afe c with mode := mode } }

def setMode (c : Afe) (mode : AmcMode) : Fw Unit := modifyMem fun m => m.setMode c mode

def setGravMode (g : GravMode) : Fw Unit := modifyMem fun m => { m with gravMode := g }

def switchToRx (c : Afe) (gain : UInt8) : Fw Unit := do
  let m ← getMem
  if (m.afe c).mode = .safe then
    Amc7891.writeDac c gravDacPaEn gravDacPaEnTx
  if (m.afe c).mode ≠ .rx then do
    Amc7891.writeDac c gravDacVgset (m.afe c).vgQuiescent.toUInt16
    Amc7891.writeDac c gravDacTxSw gravDacTxSwRx
    Amc7891.writeDac c gravTxLnaDis gravDacTxLnaDisRx
  Amc7891.setGpio c (gravAfeReceive ||| ((gain.toUInt16 <<< 1) &&& 0x7E))
  setMode c .rx

def switchToTx (c : Afe) : Fw Unit := do
  let m ← getMem
  if (m.afe c).mode = .tx then pure ()
  else do
    if (m.afe c).mode = .safe then
      Amc7891.writeDac c gravDacPaEn gravDacPaEnTx
    Amc7891.setGpio c gravAfeTransmit
    Amc7891.writeDac c gravDacVgset (m.afe c).vgSetpoint.toUInt16
    Amc7891.writeDac c gravDacTxSw gravDacTxSwTx
    Amc7891.writeDac c gravTxLnaDis gravDacTxLnaDisTx
    setMode c .tx

def switchToSafe (c : Afe) : Fw Unit := do
  Amc7891.writeDac c gravDacPaEn gravDacPaEnSafe
  Amc7891.writeDac c gravDacVgset gravDacVgsetSafe
  Amc7891.writeDac c gravDacTxSw gravDacTxSwSafe
  Amc7891.writeDac c gravTxLnaDis gravDacTxLnaDisSafe
  Amc7891.enableDacs c
  Amc7891.setGpio c gravAfeSafe
  Amc7891.configGpio c gravAfeEnables
  setMode c .safe

def configureGravSafe (c : Afe) : Fw Unit := do
  Amc7891.setGpio c gravMainDefaults
  Amc7891.configGpio c gravMainEnables
  Amc7891.configAdc c 0x20
  setGravMode .safe

def configureGravOnWithTxOff (c : Afe) : Fw Unit := do
  let m ← getMem
  if m.gravMode = .txDis then pure ()
  else do
    Amc7891.setGpio c gravMainPowerOnTxOff
    setGravMode .txDis

def configureGravOnWithTxOn (c : Afe) : Fw Unit := do
  let m ← getMem
  if m.gravMode = .txEn then pure ()
  else do
    Amc7891.setGpio c gravMainPowerOnTxOn
    setGravMode .txEn

/-- The clock switches fail or succeed as the HAL calls in them do. -/
def switchToExtOsc : Fw UInt8 := fun env w =>
  .ok (if env.extOsc w.log then 1 else 0) (w.push (.osc true (env.extOsc w.log)))

def switchToIntOsc : Fw UInt8 := fun env w =>
  .ok (if env.intOsc w.log then 1 else 0) (w.push (.osc false (env.intOsc w.log)))

/-! ## Conversions -/

/-- `get_mv` of the value `read_adc` returned. -/
def mvOf (r : UInt16) (gain : Gain) : UInt32 := (r.toUInt32 * 5 * 1000) / 1024 / gain.code

def getMv (c : Afe) (channel : AdcChannel) (gain : Gain) : Fw UInt32 := do
  let r ← Amc7891.readAdc c channel
  return mvOf r gain

def convMvV5v5n (inMv : UInt32) : Int32 := (22 * inMv.toInt32 - 85000) / 5

def convMvV5v5 (inMv : UInt32) : UInt32 := (inMv * 880) / 200

def convMvV29 (inMv : UInt32) : UInt32 := (inMv * 533) / 23

def convMvIPa (inMv : UInt32) : UInt32 := (inMv * 100) / 282

def convDacCountsToMvForVggCircuit (counts : UInt32) : Int32 :=
  -((0x3FF &&& counts).toInt32 * 5000 * 2) / 1023

def convMvToDacCountsForVggCircuit (inMv : Int32) : UInt32 :=
  let inMv := if 0 < inMv then 0 else inMv
  let inMv := if -4900 > inMv then -4900 else inMv
  let opAmpOut := -inMv / 2
  let opAmpOut := if 0 > opAmpOut then 0 else opAmpOut
  let opAmpOut := if 5000 < opAmpOut then 5000 else opAmpOut
  let out := ((1023 * opAmpOut) / 5000).toUInt32
  if 1023 < out then 1023 else out

def lm20ConvMvDegc (inMv : UInt32) : UInt32 := -(100 * inMv - 186630) / 1169

/-! ## Shortcuts -/

def v2v5 : Fw UInt32 := getMv .afe0 gravAdcV2v5 .gain1x
def v1v8 : Fw UInt32 := getMv .afe0 gravAdcV1v8 .gain1x
def v3v8 : Fw UInt32 := getMv .afe0 gravAdcV3v8 .gain2x
def v5v5 : Fw UInt32 := do return convMvV5v5 (← getMv .afe0 gravAdcV5v5 .gain1x)
def v5v5n : Fw Int32 := do return convMvV5v5n (← getMv .afe0 gravAdcV5v5n .gain1x)
def v29 : Fw UInt32 := do return convMvV29 (← getMv .afe0 gravAdcV29 .gain1x)

/-- An LM20 on an ADC channel: `ADC_LM20`, `T_PRE_RX_A` and the others like it. -/
def lm20 (c : Afe) (channel : AdcChannel) : Fw UInt32 := do
  return lm20ConvMvDegc (← getMv c channel .gain1x)

def iPa (c : Afe) : Fw UInt32 := do return convMvIPa (← getMv c gravAdcIPa .gain1x)

/-- `lm5331_conv_mv_db_out`: of its two readings it converts the second. -/
def pOut (c : Afe) : Fw Int32 := do
  let env ← askEnv
  -- C++ leaves open which argument is evaluated first; here and in `pIn` it is the first one
  let _ ← getMv c gravAdcPIn .gain1x
  let outMv ← getMv c gravAdcPOut .gain1x
  return env.lm5331 outMv

/-- `lm5331_conv_mv_db_in`: of its two readings it converts the first. -/
def pIn (c : Afe) : Fw Int32 := do
  let env ← askEnv
  let inMv ← getMv c gravAdcPIn .gain1x
  let _ ← getMv c gravAdcPOut .gain1x
  return env.lm5331 inMv

/-! ## Variables -/

def World.withMem (w : World) (m : Mem) : World := { w with mem := m }

@[simp] theorem withMem_mem (w : World) (m : Mem) : (w.withMem m).mem = m := rfl

theorem withMem_step {w : World} (h : w.Idle) (m : Mem) : Step w (w.withMem m) [] [] :=
  ⟨⟨h.format, h.low⟩, rfl, rfl, rfl, List.suffix_rfl⟩

@[simp] theorem setMode_afe_self (m : Mem) (c : Afe) (mode : AmcMode) :
    (m.setMode c mode).afe c = { m.afe c with mode := mode } := by simp [Mem.setMode]

theorem setMode_afe_ne (m : Mem) {c d : Afe} (h : d ≠ c) (mode : AmcMode) : (m.setMode c mode).afe d = m.afe d := by
  simp [Mem.setMode, h]

theorem setMode_same {m : Mem} {c : Afe} {mode : AmcMode} (h : (m.afe c).mode = mode) : m.setMode c mode = m := by
  subst h
  show { m with afe := Function.update m.afe c (m.afe c) } = m
  rw [Function.update_eq_self]

@[simp] theorem setMode_gravMode (m : Mem) (c : Afe) (mode : AmcMode) : (m.setMode c mode).gravMode = m.gravMode := rfl
@[simp] theorem setMode_soft (m : Mem) (c : Afe) (mode : AmcMode) : (m.setMode c mode).soft = m.soft := rfl

/-! ## What the mode changes write -/

/-- `write_dac`'s write. -/
def dacWrite (c : Afe) (channel : DacChannel) (v : UInt16) : Write := ((c, Amc7891.dacData channel), 0x03FF &&& v)

/-- `set_gpio`'s write. -/
def gpioWrite (c : Afe) (v : UInt16) : Write := ((c, amcGpioOut), 0x0FFF &&& v)

/-- The writes of `switch_to_safe`, newest first. -/
def safeWrites (c : Afe) : List Write :=
  [((c, amcGpioConfig), 0x0FFF &&& gravAfeEnables), gpioWrite c gravAfeSafe, ((c, amcAmcPower), 0x7E00),
    dacWrite c gravTxLnaDis gravDacTxLnaDisSafe, dacWrite c gravDacTxSw gravDacTxSwSafe,
    dacWrite c gravDacVgset gravDacVgsetSafe, dacWrite c gravDacPaEn gravDacPaEnSafe]

/-- The writes of `switch_to_rx` on an object in state `o`, newest first. -/
def rxWrites (c : Afe) (o : Amc7891) (gain : UInt8) : List Write :=
  gpioWrite c (gravAfeReceive ||| ((gain.toUInt16 <<< 1) &&& 0x7E)) ::
    ((if o.mode = .rx then [] else
        [dacWrite c gravTxLnaDis gravDacTxLnaDisRx, dacWrite c gravDacTxSw gravDacTxSwRx,
          dacWrite c gravDacVgset o.vgQuiescent.toUInt16]) ++
      if o.mode = .safe then [dacWrite c gravDacPaEn gravDacPaEnTx] else [])

/-- The writes of `switch_to_tx` on an object in state `o`, newest first. -/
def txWrites (c : Afe) (o : Amc7891) : List Write :=
  if o.mode = .tx then [] else
    [dacWrite c gravTxLnaDis gravDacTxLnaDisTx, dacWrite c gravDacTxSw gravDacTxSwTx,
      dacWrite c gravDacVgset o.vgSetpoint.toUInt16, gpioWrite c gravAfeTransmit] ++
      if o.mode = .safe then [dacWrite c gravDacPaEn gravDacPaEnTx] else []

/-- The writes of `configure_grav_safe`, newest first. -/
def gravSafeWrites (c : Afe) : List Write :=
  [((c, amcAdcGain), 0x2000), ((c, amcGpioConfig), 0x0FFF &&& gravMainEnables), gpioWrite c gravMainDefaults]

theorem run_getMem (env : Env) (w : World) : getMem env w = .ok w.mem w := rfl
theorem run_setMode (c : Afe) (mode : AmcMode) (env : Env) (w : World) :
    setMode c mode env w = .ok () (w.withMem (w.mem.setMode c mode)) := rfl
theorem run_setGravMode (g : GravMode) (env : Env) (w : World) :
    setGravMode g env w = .ok () (w.withMem { w.mem with gravMode := g }) := rfl

section

variable {w : World} (h : w.Idle) (c : Afe) (env : Env)

include h

theorem writeDac_run (channel : DacChannel) (v : UInt16) :
    Amc7891.writeDac c channel v env w = .ok () (w.wrote (dacWrite c channel v)) := writeReg_run h _ _ _ env

theorem setGpio_run (v : UInt16) : Amc7891.setGpio c v env w = .ok () (w.wrote (gpioWrite c v)) :=
  writeReg_run h _ _ _ env

theorem switchToSafe_run :
    switchToSafe c env w = .ok () ((w.wroteAll (safeWrites c)).withMem (w.mem.setMode c .safe)) := by
  simp [switchToSafe, run_bind, Amc7891.enableDacs, Amc7891.configGpio, writeDac_run, setGpio_run, writeReg_run, h,
    run_setMode, World.wroteAll, safeWrites]

theorem switchToRx_run (gain : UInt8) :
    switchToRx c gain env w =
      .ok () ((w.wroteAll (rxWrites c (w.mem.afe c) gain)).withMem (w.mem.setMode c .rx)) := by
  unfold switchToRx rxWrites
  rw [run_bind_ok (run_getMem env w)]
  cases hm : (w.mem.afe c).mode <;>
    simp [run_bind, writeDac_run, setGpio_run, h, run_setMode, World.wroteAll]

theorem switchToTx_run :
    switchToTx c env w =
      .ok () ((w.wroteAll (txWrites c (w.mem.afe c))).withMem (w.mem.setMode c .tx)) := by
  unfold switchToTx txWrites
  rw [run_bind_ok (run_getMem env w)]
  cases hm : (w.mem.afe c).mode with
  | tx =>
    simp [setMode_same hm, World.wroteAll, World.withMem]
  | safe =>
    simp [run_bind, writeDac_run, setGpio_run, h, run_setMode, World.wroteAll]
  | rx =>
    simp [run_bind, writeDac_run, setGpio_run, h, run_setMode, World.wroteAll]

theorem configureGravSafe_run :
    configureGravSafe c env w = .ok () ((w.wroteAll (gravSafeWrites c)).withMem { w.mem with gravMode := .safe }) := by
  simp [configureGravSafe, run_bind, Amc7891.configAdc, Amc7891.configGpio, setGpio_run, writeReg_run, h,
    run_setGravMode, World.wroteAll, gravSafeWrites]
  rfl

theorem configureGravOnWithTxOff_run :
    configureGravOnWithTxOff c env w =
      .ok () ((w.wroteAll (if w.mem.gravMode = .txDis then [] else [gpioWrite c gravMainPowerOnTxOff])).withMem
        { w.mem with gravMode := .txDis }) := by
  unfold configureGravOnWithTxOff
  rw [run_bind_ok (run_getMem env w)]
  by_cases hg : w.mem.gravMode = .txDis
  · rw [if_pos hg, if_pos hg, ← hg]; rfl
  · rw [if_neg hg, if_neg hg, run_bind_ok (setGpio_run h c env _)]; rfl

theorem configureGravOnWithTxOn_run :
    configureGravOnWithTxOn c env w =
      .ok () ((w.wroteAll (if w.mem.gravMode = .txEn then [] else [gpioWrite c gravMainPowerOnTxOn])).withMem
        { w.mem with gravMode := .txEn }) := by
  unfold configureGravOnWithTxOn
  rw [run_bind_ok (run_getMem env w)]
  by_cases hg : w.mem.gravMode = .txEn
  · rw [if_pos hg, if_pos hg, ← hg]; rfl
  · rw [if_neg hg, if_neg hg, run_bind_ok (setGpio_run h c env _)]; rfl

/-! ## Readings -/

theorem getMv_run (channel : AdcChannel) (gain : Gain) :
    getMv c channel gain env w =
      .ok (mvOf (env.register c (Amc7891.adcData channel) w) gain) (w.didRead env c (Amc7891.adcData channel)) := by
  unfold getMv Amc7891.readAdc
  rw [run_bind_ok (readReg_run h _ _ env)]
  rfl

end

theorem readOnly_getMv (c : Afe) (channel : AdcChannel) (gain : Gain) : ReadOnly (getMv c channel gain) :=
  (readOnly_readReg c _).bind fun _ => readOnly_pure _

theorem readOnly_v5v5 : ReadOnly v5v5 := (readOnly_getMv _ _ _).bind fun _ => readOnly_pure _
theorem readOnly_v5v5n : ReadOnly v5v5n := (readOnly_getMv _ _ _).bind fun _ => readOnly_pure _
theorem readOnly_v29 : ReadOnly v29 := (readOnly_getMv _ _ _).bind fun _ => readOnly_pure _
theorem readOnly_lm20 (c : Afe) (channel : AdcChannel) : ReadOnly (lm20 c channel) :=
  (readOnly_getMv _ _ _).bind fun _ => readOnly_pure _
theorem readOnly_iPa (c : Afe) : ReadOnly (iPa c) := (readOnly_getMv _ _ _).bind fun _ => readOnly_pure _

theorem readOnly_pOut (c : Afe) : ReadOnly (pOut c) :=
  readOnly_askEnv.bind fun _ => (readOnly_getMv _ _ _).bind fun _ => (readOnly_getMv _ _ _).bind fun _ =>
    readOnly_pure _

theorem readOnly_pIn (c : Afe) : ReadOnly (pIn c) :=
  readOnly_askEnv.bind fun _ => (readOnly_getMv _ _ _).bind fun _ => (readOnly_getMv _ _ _).bind fun _ =>
    readOnly_pure _

theorem readOnly_switchToExtOsc : ReadOnly switchToExtOsc := fun _ _ h =>
  ⟨_, _, rfl, .push h ⟨rfl, rfl, rfl⟩⟩

theorem readOnly_switchToIntOsc : ReadOnly switchToIntOsc := fun _ _ h =>
  ⟨_, _, rfl, .push h ⟨rfl, rfl, rfl⟩⟩

end Graviton
