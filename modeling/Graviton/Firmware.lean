/-
  Graviton.Firmware — `main.cpp`: the shutdown, the safety checks, the calibration of the
  power amplifiers, the boot sequence, the commands and the main loop.

  `mainRun n` is `main` through its `n`-th loop iteration; a run that resets, hangs or
  leaves an array earlier stops there. The calibration's `while` has 1024 iterations of
  fuel.
-/
import Graviton.Board

namespace Graviton

open Effects

/-! ## Telemetry and shutdown -/

def asInt (x : Fw UInt32) : Fw Int := do return (← x).toInt32.toInt

def tempInt (c : Afe) : Fw Int := do return (← Amc7891.readTemperature c).toNat

/-- The lines of `dump_telemetry`: each format and its argument. -/
def telemetryLines : List (String × Fw Int) :=
  [("V2V5          = %i\r\n", asInt v2v5), ("V1V8          = %i\r\n", asInt v1v8),
    ("V3V8          = %i\r\n", asInt v3v8), ("V5V5          = %i\r\n", asInt v5v5),
    ("V5V5N         = %i\r\n", do return (← v5v5n).toInt), ("V29           = %i\r\n", asInt v29),
    ("ADC_TEMP      = %i\r\n", asInt (lm20 .afe0 gravAdcAdcTemp)),
    ("AFE_CH_A_TEMP = %i\r\n", tempInt .afeA), ("AFE_CH_B_TEMP = %i\r\n", tempInt .afeB),
    ("AFE_MAIN_TEMP = %i\r\n", tempInt .afe0),
    ("P_OUT_A       = %i\r\n", do return (← pOut .afeA).toInt), ("I_PA_A        = %i\r\n", asInt (iPa .afeA)),
    ("T_PRE_RX_A    = %i\r\n", asInt (lm20 .afeA gravAdcTPreRx)),
    ("T_LDO_A       = %i\r\n", asInt (lm20 .afeA gravAdcTLdo)),
    ("P_IN_A        = %i\r\n", do return (← pIn .afeA).toInt),
    ("T_PA_A        = %i\r\n", asInt (lm20 .afeA gravAdcTPa)),
    ("T_PRE_TX2_A   = %i\r\n", asInt (lm20 .afeA gravAdcTPreTx2)),
    ("T_PRE_TX3_A   = %i\r\n", asInt (lm20 .afeA gravAdcTPreTx3)),
    ("P_OUT_B       = %i\r\n", do return (← pOut .afeB).toInt), ("I_PA_B        = %i\r\n", asInt (iPa .afeB)),
    ("T_PRE_RX_B    = %i\r\n", asInt (lm20 .afeB gravAdcTPreRx)),
    ("T_LDO_B       = %i\r\n", asInt (lm20 .afeB gravAdcTLdo)),
    ("P_IN_B        = %i\r\n", do return (← pIn .afeB).toInt),
    ("T_PA_B        = %i\r\n", asInt (lm20 .afeB gravAdcTPa)),
    ("T_PRE_TX2_B   = %i\r\n", asInt (lm20 .afeB gravAdcTPreTx2)),
    ("T_PRE_TX3_B   = %i\r\n", asInt (lm20 .afeB gravAdcTPreTx3)),
    ("DAC_TEMPDATA  = %i\r\n", do return (← Dac3484.getTemp).toInt),
    ("E_DAC_ALARM   = %x\r\n", do return ((← Dac3484.readAlarms) &&& ~~~0x0040).toNat)]

def dumpTelemetry (out : Port) : Fw Unit := do
  printf out "LOG: telemetry dump\r\n" []
  forM telemetryLines fun line => do
    let v ← line.2
    printf out line.1 [v]
  Dac3484.clearAlarms

def notifyError : Fw Unit := printf .fpga "error\r\n" []

def printReason (reason : String) (reason2 : Option String) (reason3 : Int32) : Fw Unit :=
  match reason2 with
  | none => printf .pc ("ERROR: POWERED DOWN. " ++ reason ++ "\r\n") []
  | some reason2 => do
    printf .pc reason2 []
    printf .pc " value: %d\r\n" [reason3.toInt]
    printf .pc ("ERROR: POWERED DOWN. " ++ reason ++ "\r\n") []

/-- `go_safe_and_reset` up to its last line. -/
def shutdown (reason : String) (reason2 : Option String) (reason3 : Int32) : Fw Unit := do
  switchToSafe .afeA
  switchToSafe .afeB
  let _ ← switchToIntOsc
  pinWrite .oscEn true
  let _ ← switchToExtOsc
  configureGravSafe .afe0
  printReason reason reason2 reason3
  dumpTelemetry .pc
  printf .pc "LOG: halted. resetting in 5 seconds.\r\n" []
  forM (List.range 5) fun _ => notifyError

/-- `go_safe_and_reset`: it never returns. -/
def goSafeAndReset {α : Type} (reason : String) (reason2 : Option String) (reason3 : Int32) : Fw α := do
  shutdown reason reason2 reason3
  stop .systemReset

/-! ## Safety checks -/

def setSoft (p : SoftRail) (t : SoftBottomTolerance) : Fw Unit :=
  modifyMem fun m => { m with soft := Function.update m.soft p t }

def goSafeAndResetTolerance (p : SoftRail) (value : Int32) : Fw Bool := do
  let m ← getMem
  let tolerance := m.soft p
  if tolerance.lowerHard > value ∨ tolerance.upperHard < value then
    goSafeAndReset tolerance.msg (some tolerance.name) value
  else if tolerance.lowerTol > value then
    if tolerance.violations ≥ tolerance.repeatTol then
      goSafeAndReset tolerance.msg (some tolerance.name) value
    else do
      setSoft p { tolerance with violations := tolerance.violations + 1 }
      printf .pc (tolerance.name ++ " r: %d v: %d\r\n") [(tolerance.violations + 1).toInt, value.toInt]
      return false
  else do
    setSoft p { tolerance with violations := 0 }
    return false

/-- A case of `safety_check` that resets at once: its reading, its test, its texts. -/
def hardCheck (read : Fw Int32) (bad : Int32 → Bool) (reason reason2 : String) : Fw Unit := do
  let value ← read
  if bad value then goSafeAndReset reason (some reason2) value

def softCheck (read : Fw Int32) (p : SoftRail) : Fw Unit := do
  let value ← read
  let _ ← goSafeAndResetTolerance p value

def asInt32 (x : Fw UInt32) : Fw Int32 := do return (← x).toInt32

def outside (lower upper : Int32) (value : Int32) : Bool := lower > value || upper < value

def above (limit : Int32) (value : Int32) : Bool := limit < value

def tempCheck (c : Afe) (reason reason2 : String) : Fw Unit :=
  hardCheck (do return (← Amc7891.readTemperature c).toUInt32.toInt32) (above 60) reason reason2

def lm20Check (c : Afe) (channel : AdcChannel) (limit : Int32) (reason reason2 : String) : Fw Unit :=
  hardCheck (asInt32 (lm20 c channel)) (above limit) reason reason2

/-- The cases of the switch in `safety_check`; `none` is `default`. -/
def safetyCase : Nat → Option (Fw Unit)
  | 0 => some (hardCheck (asInt32 v2v5) (outside 1500 2600) "2.5V rail out of spec" "2.5")
  | 1 => some (hardCheck (asInt32 v1v8) (outside 1700 1900) "1.8V rail out of spec" "1.8")
  | 2 => some (softCheck (asInt32 v3v8) .v3v8v)
  | 3 => some (softCheck (asInt32 v5v5) .v5v5v)
  | 4 => some (softCheck v5v5n .v5v5vneg)
  | 5 => some (hardCheck (asInt32 v29) (outside 28000 29500) "29V rail out of spec" "29")
  | 6 => some (tempCheck .afeA "AFE #A overheated" "AFE #A")
  | 7 => some (tempCheck .afeB "AFE #B overheated" "AFE #B")
  | 8 => some (tempCheck .afe0 "Main AFE overheated" "Main AFE")
  | 9 => some (lm20Check .afe0 gravAdcAdcTemp 70 "ADC overheated" "ADC")
  | 10 => some (lm20Check .afeA gravAdcTPreRx 70 "RX preamp #A overheated" "RX preamp #A")
  | 11 => some (lm20Check .afeA gravAdcTLdo 70 "LDO #A overheated" "LDO #A")
  | 12 => some (lm20Check .afeA gravAdcTPa 90 "PA #A overheated" "PA #A")
  | 13 => some (lm20Check .afeA gravAdcTPreTx2 70 "TX preamp 2 #A overheated" "TX preamp 2 #A")
  | 14 => some (lm20Check .afeA gravAdcTPreTx3 70 "TX preamp 3 #A overheated" "TX preamp 3 #A")
  | 15 => some (pure ())
  | 16 => some (lm20Check .afeB gravAdcTPreRx 70 "RX preamp #B overheated" "RX preamp #B")
  | 17 => some (lm20Check .afeB gravAdcTLdo 70 "LDO #B overheated" "LDO #B")
  | 18 => some (lm20Check .afeB gravAdcTPa 90 "PA #B overheated" "PA #B")
  | 19 => some (lm20Check .afeB gravAdcTPreTx2 70 "TX preamp 2 #B overheated" "TX preamp 2 #B")
  | 20 => some (lm20Check .afeB gravAdcTPreTx3 70 "TX preamp 3 #B overheated" "TX preamp 3 #B")
  | 21 => some (pure ())
  | _ => none

def safetyCheck (testItem : UInt16) : Fw UInt16 := do
  let m ← getMem
  match m.disableSafteyVector[testItem.toNat]? with
  | none => stop .outOfBounds
  | some d =>
    let testOrDisabled := testItem ||| d
    match safetyCase testOrDisabled.toNat with
    | none => return 0
    | some body => do
      body
      return testItem + 1

/-! ## Broken boards -/

def setSafteyVector (v : Vector UInt16 32) : Fw Unit := modifyMem fun m => { m with disableSafteyVector := v }

def zeroBrokenBoards : Fw Unit := setSafteyVector (Vector.replicate 32 0)

def disableSafteyCheck (testItem : UInt16) : Fw Unit := do
  let m ← getMem
  if testItem.toNat ≥ 32 then pure ()
  else setSafteyVector (m.disableSafteyVector.setIfInBounds testItem.toNat 0x8000)

def enableSafteyCheck (testItem : UInt16) : Fw Unit := do
  let m ← getMem
  if testItem.toNat ≥ 32 then pure ()
  else setSafteyVector (m.disableSafteyVector.setIfInBounds testItem.toNat 0)

def board012 : UInt32 × UInt32 × UInt32 := (0x150016, 0x524b4303, 0x20323035)
def board021 : UInt32 × UInt32 × UInt32 := (0x800f0011, 0x524b4303, 0x20323035)
def board007 : UInt32 × UInt32 × UInt32 := (0x140013, 0x524b4303, 0x20323035)

/-- `init_broken_boards` from its first `if` on. -/
def markBrokenBoards (devId : UInt32 × UInt32 × UInt32) : Fw Unit := do
  if devId = board012 then do
    disableSafteyCheck 12
    printf .pc "Board 012 has broken PA #A sensor!!\r\n" []
  if devId = board021 then do
    disableSafteyCheck 11
    disableSafteyCheck 10
    printf .pc "Board 021 has broken LDO #A sensor!!\r\n" []
    printf .pc "Board 021 has HOT RX preamp #A!!\r\n" []
  if devId = board007 then do
    disableSafteyCheck 16
    printf .pc "Board 007 has broken RX preamp #B sensor!!\r\n" []

def initBrokenBoards : Fw Unit := do
  zeroBrokenBoards
  let env ← askEnv
  markBrokenBoards env.devId

/-! ## Calibration -/

def setVg (c : Afe) (setpoint quiescent : UInt32) : Fw Unit :=
  modifyMem fun m =>
    { m with afe := Function.update m.afe c { m.afe c with vgSetpoint := setpoint, vgQuiescent := quiescent } }

/-- The `while` of `calibrate_power_amplifier`; it returns the counter. -/
def calibrateLoop (c : Afe) (v29Bus : UInt32) : Nat → UInt32 → Fw UInt32
  | 0, _ => stop .outOfFuel
  | fuel + 1, counts => do
    let i ← iPa c
    if 100 > i then do
      let counts := counts - 1
      Amc7891.writeDac c gravDacVgset counts.toUInt16
      let v ← v29
      if v29Bus - 100 > v then goSafeAndReset "V29 drop during calibration" none 0
      printf .pc "." []
      if convDacCountsToMvForVggCircuit counts > -2000 then do
        let counts := convMvToDacCountsForVggCircuit (-3800)
        printf .pc "\r\nfailed to calibrate power amplifier (Vg went above -2000mV)\r\n" []
        return counts
      else calibrateLoop c v29Bus fuel counts
    else return counts

def calibratePowerAmplifier (c : Afe) : Fw Unit := do
  let v29Bus ← v29
  printf .pc "LOG: Calibrating power amplifier\r\n" []
  let counts := convMvToDacCountsForVggCircuit (-3800)
  Amc7891.writeDac c gravDacVgset counts.toUInt16
  Amc7891.writeDac c gravDacPaEn gravDacPaEnTx
  let counts ← calibrateLoop c v29Bus 1024 counts
  let counts := counts + 2
  Amc7891.writeDac c gravDacVgset counts.toUInt16
  Amc7891.writeDac c gravDacPaEn gravDacPaEnRx
  let i ← iPa c
  printf .pc "\r\nLOG: Done with power amplifier(Vgg = %imV, I = %imA)\r\n"
    [(convDacCountsToMvForVggCircuit counts).toInt, i.toInt32.toInt]
  setVg c counts (convMvToDacCountsForVggCircuit (convDacCountsToMvForVggCircuit counts - 100))

/-! ## Boot -/

/-- `init` until the oscillator runs, or does not. -/
def initOscillator : Fw Unit := do
  pinWrite .buzzer false
  pinWrite .oscEn false
  printf .pc "\r\n\r\n\r\nGRAVITON HARDWARE VERSION 3.0\r\n" []
  printf .pc "FIRMWARE VERSION 0.1\r\n" []
  printf .pc "SIGNAL LABORATORIES, INC.\r\n" []
  printf .pc "LOG: attempting to change to external oscillator\r\n" []
  pinWrite .oscEn true
  let ret ← switchToExtOsc
  if 1 = ret then printf .pc "LOG: external oscillator configured\r\n" []
  else do
    printf .pc "ERROR: EXTERNAL OSCILLATOR FAILED TO CONFIGURE. HALTING\r\n" []
    stop .halted

/-- `init` until the I/O busses are tested. -/
def initPowerUp : Fw Unit := do
  initOscillator
  spiFormat 8 1
  Amc7891.init .afeA
  Amc7891.init .afeB
  Amc7891.init .afe0
  configureGravSafe .afe0
  switchToSafe .afeA
  switchToSafe .afeB

/-- The test of `init`: are the I/O busses unpowered? -/
def busUnpowered : Fw Bool := do
  let a ← v2v5
  if a < 300 then do
    let b ← v1v8
    return b < 400
  else return false

def printBus : Fw Unit := do
  -- two arguments of `printf`, which C++ may evaluate in either order
  let a ← v2v5
  let b ← v1v8
  printf .pc "V2V5: %d V1V8: %d\r\n" [a.toInt32.toInt, b.toInt32.toInt]

def initPowerRails (unpowered : Bool) : Fw Unit := do
  if unpowered then do
    printBus
    configureGravOnWithTxOff .afe0
  else do
    printBus
    -- the `while(1) { }` that follows is commented out in the source
    printf .pc "ERROR: BUS IS POWERED. HALTING\r\n" []

/-- `init` once the I/O busses were tested. -/
def initBringUp : Fw Unit := do
  printf .pc "LOG: checking everything...\r\n" []
  dumpTelemetry .pc
  Lmk04826b.init
  Lmk04133.init
  Ads42lb69.init
  Dac3484.init .pc
  calibratePowerAmplifier .afeA
  calibratePowerAmplifier .afeB
  switchToSafe .afeA
  switchToSafe .afeB
  dumpTelemetry .pc
  printf .pc "LOG: Ready!\n\r" []

def init : Fw Unit := do
  initPowerUp
  let unpowered ← busUnpowered
  initPowerRails unpowered
  initBringUp

/-! ## Commands -/

def csAfeMask : UInt8 := 0x80
def csRxFlagMask : UInt8 := 0x40
def csOpCodeMask : UInt8 := 0x3F
def csAfeA : UInt8 := 0x00
def csAfeB : UInt8 := 0x80
def csRx : UInt8 := 0x40
def csOpCode0 : UInt8 := 0x00
def csOpCode1 : UInt8 := 0x01
def csOpCode2 : UInt8 := 0x02
def csOpCode3 : UInt8 := 0x03
def csOpCode4 : UInt8 := 0x04
def csOpCode19 : UInt8 := 0x13
def csOpCode20 : UInt8 := 0x14
def csOpCode21 : UInt8 := 0x15
def csOpCode22 : UInt8 := 0x16

/-- The switch of `changeState` on the op code. -/
def changeOp (msg : UInt8) : Fw Unit :=
  let op := csOpCodeMask &&& msg
  if op = csOpCode0 then do
    switchToSafe .afeA
    switchToSafe .afeB
  else if op = csOpCode1 then dumpTelemetry .fpga
  else if op = csOpCode2 then dumpTelemetry .pc
  else if op = csOpCode3 then do
    if csAfeA = csAfeMask &&& msg then switchToTx .afeA
    if csAfeB = csAfeMask &&& msg then switchToTx .afeB
  else if csOpCode4 ≤ op ∧ op ≤ csOpCode19 then Dac3484.setCurrent .pc (op - csOpCode4)
  else if op = csOpCode20 then do
    printf .pc "\x1b[0;0H" []
    let p ← pIn .afeA
    printf .pc "P_IN_A        = %i    \r\n" [p.toInt]
    let p ← pOut .afeA
    printf .pc "P_OUT_A       = %i    \r\n" [p.toInt]
  else if op = csOpCode21 then Dac3484.readConfig .pc
  else if op = csOpCode22 then do
    if csAfeA = csAfeMask &&& msg then switchToSafe .afeA
    if csAfeB = csAfeMask &&& msg then switchToSafe .afeB
  else pure ()

def changeState (msg : UInt8) : Fw Unit := do
  if csRx = csRxFlagMask &&& msg ∧ csAfeA = csAfeMask &&& msg then switchToRx .afeA (csOpCodeMask &&& msg)
  if csRx = csRxFlagMask &&& msg ∧ csAfeB = csAfeMask &&& msg then switchToRx .afeB (csOpCodeMask &&& msg)
  if csRx ≠ csRxFlagMask &&& msg then changeOp msg

/-! ## The main loop -/

/-- The local variables of `main` that its loop changes. -/
structure LoopVars where
  check : UInt16
  slow : Int32
  modeSwitched : Int32
  deriving DecidableEq

def fpgaReadable : Fw Bool := fun env w => .ok (env.readable w.log) (w.push (.readable (env.readable w.log)))

def fpgaGetc : Fw UInt8 := fun env w => .ok (env.getc w.log) (w.push (.getc (env.getc w.log)))

/-- The block at the top of the loop, on every 10000th iteration. -/
def periodic (v : LoopVars) : Fw LoopVars := do
  let v ← if v.modeSwitched = 0 then do
      changeState csOpCode21
      pure { v with modeSwitched := 1 }
    else pure v
  changeState csOpCode2
  printf .fpga "hello\r\n" []
  return v

/-- A command byte taken from the FPGA, and the DAC output that follows it. -/
def command : Fw Unit := do
  let val ← fpgaGetc
  changeState val
  printf .pc "received char: %d\r\n" [val.toNat]
  printf .fpga "c: %d\r\n" [val.toNat]
  let m ← getMem
  if (m.afe .afeA).mode = .tx ∨ (m.afe .afeB).mode = .tx then configureGravOnWithTxOn .afe0
  else configureGravOnWithTxOff .afe0

def mainIteration (v : LoopVars) : Fw LoopVars := do
  let v ← if v.slow % 10000 = 0 then periodic v else pure v
  let v := { v with slow := v.slow + 1 }
  let readable ← fpgaReadable
  if readable then command
  let check ← safetyCheck v.check
  return { v with check := check }

/-- `main` between `init` and its loop. -/
def mainPrologue : Fw Unit := do
  initBrokenBoards
  let env ← askEnv
  printf .pc "Board ID Booted:   %x    %x    %x\r\n"
    [env.devId.1.toNat, env.devId.2.1.toNat, env.devId.2.2.toNat]

def mainRun (n : Nat) : Fw LoopVars := do
  init
  mainPrologue
  iterate mainIteration n ⟨0, 1, 0⟩

/-! ## Reset -/

def v3v8vSoft : SoftBottomTolerance := ⟨3100, 3150, 4000, 100, 0, "3.8", "3.8V rail out of spec"⟩
def v5v5vSoft : SoftBottomTolerance := ⟨4250, 4300, 5750, 100, 0, "5.5", "5.5V rail out of spec"⟩
def v5v5vnegSoft : SoftBottomTolerance := ⟨-7600, -7500, -5350, 100, 0, "-5.5", "negative 5.5V rail out of spec"⟩

/-- The global variables as the C++ start-up leaves them. -/
def resetMem : Mem where
  afe := fun _ => ⟨0, 0, .safe⟩
  gravMode := .safe
  soft := fun p => match p with
    | .v3v8v => v3v8vSoft
    | .v5v5v => v5v5vSoft
    | .v5v5vneg => v5v5vnegSoft
  disableSafteyVector := Vector.replicate 32 0

/-- The processor before `main`: the bus in mbed's default format, every chip deselected. -/
def reset : World := ⟨⟨8, 0⟩, [], [], resetMem⟩

/-- The processor's state at reset, the bus already in the format of `init`. -/
def idleWorld : World := { reset with format := ⟨8, 1⟩ }

end Graviton
