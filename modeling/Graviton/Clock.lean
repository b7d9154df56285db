/-
  Graviton.Clock — the switch between the internal and the external oscillator.

  `switch_to_ext_osc` and `switch_to_int_osc` program the clock tree through
  `HAL_RCC_OscConfig` and `HAL_RCC_ClockConfig`, which wait for flags the hardware sets. The
  hardware is arbitrary: `Rcc` says what its flags read and what time it is after any history
  of accesses, and every other bit of a register reads as it was written. A HAL function that
  returns another status than `HAL_OK` stops the run with it, since both switches then return 0.
-/
import Graviton.Lib.Fields
import Graviton.Lib.Poll
import Graviton.Lib.History

namespace Graviton.Clock

open Effects History Fields

abbrev Word := BitVec 32

/-! ## Registers -/

inductive RccReg where
  | cr
  | cfgr
  | cfgr2
  | cfgr3
  | cir
  /-- `FLASH->ACR` -/
  | acr
  deriving DecidableEq, Repr

def crHsion : Word := 0x00000001
def crHsirdy : Word := 0x00000002
def crHsitrim : Word := 0x000000F8
def crHseon : Word := 0x00010000
def crHserdy : Word := 0x00020000
def crHsebyp : Word := 0x00040000
def crPllon : Word := 0x01000000
def crPllrdy : Word := 0x02000000
def cfgrSw : Word := 0x00000003
def cfgrSws : Word := 0x0000000C
def cfgrHpre : Word := 0x000000F0
def cfgrPpre1 : Word := 0x00000700
def cfgrPpre2 : Word := 0x00003800
def cfgrPllsrc : Word := 0x00010000
def cfgrPllmul : Word := 0x003C0000
def cfgr2Prediv : Word := 0x0000000F
def acrLatency : Word := 0x00000007

/-- The bits the hardware sets: ready flags and calibration, the switch status, and the wait
    states in force with the state of the prefetch buffer. -/
def RccReg.flags : RccReg → Word
  | .cr => 0x0202FF02
  | .cfgr => 0x0000000C
  | .acr => 0x00000027
  | _ => 0

inductive RccEvent where
  | read (r : RccReg) (v : Word)
  | write (r : RccReg) (v : Word)
  | tick (t : Word)
  deriving DecidableEq, Repr

/-- The hardware: its flags and the time after a history of accesses, and what the registers
    held before it. -/
structure Rcc where
  flags : List RccEvent → RccReg → Word
  time : List RccEvent → Nat
  start : RccReg → Word

inductive HalStop where
  | error
  | timeout
  /-- Still waiting for a flag. -/
  | outOfFuel
  deriving DecidableEq, Repr

abbrev Hal : Type → Type := Prog Rcc (List RccEvent) HalStop

/-- What was last written to a register. -/
def Rcc.value (hw : Rcc) : List RccEvent → RccReg → Word
  | [], r => hw.start r
  | .write r' v :: l, r => if r' = r then v else hw.value l r
  | _ :: l, r => hw.value l r

def Rcc.reads (hw : Rcc) (l : List RccEvent) (r : RccReg) : Word :=
  hw.value l r &&& ~~~r.flags ||| hw.flags l r &&& r.flags

def Rcc.tick (hw : Rcc) (l : List RccEvent) : Word := BitVec.ofNat 32 (hw.time l)

def readReg (r : RccReg) : Hal Word := fun hw l => .ok (hw.reads l r) (.read r (hw.reads l r) :: l)

def writeReg (r : RccReg) (v : Word) : Hal Unit := fun _ l => .ok () (.write r v :: l)

def getTick : Hal Word := fun hw l => .ok (hw.tick l) (.tick (hw.tick l) :: l)

/-- A register read, changed and written back. -/
def updateReg (r : RccReg) (f : Word → Word) : Hal Unit := do
  let v ← readReg r
  writeReg r (f v)

/-- `MODIFY_REG`, and the write of one bit through the bit band. -/
def modifyReg (r : RccReg) (clear set : Word) : Hal Unit := updateReg r fun v => v &&& ~~~clear ||| set

/-- `tickstart = HAL_GetTick(); while (busy) { if (HAL_GetTick() - tickstart > limit) return HAL_TIMEOUT; }` -/
def waitWhile (fuel : Nat) (limit : Word) (r : RccReg) (busy : Word → Bool) : Hal Unit := do
  let tickstart ← getTick
  pollWhile (do return busy (← readReg r)) (do return decide (limit < (← getTick) - tickstart)) .timeout .outOfFuel fuel

/-! ## `HAL_RCC_OscConfig` -/

def hseTimeout : Word := 100
def hsiTimeout : Word := 2
def pllTimeout : Word := 2
def clockswitchTimeout : Word := 5000

def oscillatortypeHse : Word := 1
def oscillatortypeHsi : Word := 2
def hseOff : Word := 0
def hseOn : Word := crHseon
def hseBypass : Word := crHsebyp ||| crHseon
def hsiOff : Word := 0
def hsiOn : Word := crHsion
def hsicalibrationDefault : Word := 0x10
def pllNone : Word := 0
def pllOn : Word := 2
def pllsourceHsi : Word := 0
def pllsourceHse : Word := 0x00010000
def pllMul9 : Word := 0x001C0000
def pllMul16 : Word := 0x00380000
def sysclksourceHsi : Word := 0
def sysclksourceHse : Word := 1
def sysclksourcePllclk : Word := 2
def sysclksourceStatusHsi : Word := 0x0
def sysclksourceStatusHse : Word := 0x4
def sysclksourceStatusPllclk : Word := 0x8

/-- `RCC_OscInitTypeDef`, without the low-speed oscillators. -/
structure OscInit where
  oscillatorType : Word
  hseState : Word
  hsePredivValue : Word
  hsiState : Word
  hsiCalibrationValue : Word
  pllState : Word
  pllSource : Word
  pllMul : Word

def getSysclkSource : Hal Word := do return (← readReg .cfgr) &&& cfgrSws

def getPllOscsource : Hal Word := do return (← readReg .cfgr) &&& cfgrPllsrc

def getFlag (flag : Word) : Hal Bool := do return (← readReg .cr) &&& flag != 0

/-- Is an oscillator the system clock, or the source of the PLL that is? -/
def drivesSysclk (status source : Word) : Hal Bool := do
  if (← getSysclkSource) = status then
    return true
  else if (← getSysclkSource) = sysclksourceStatusPllclk then
    return (← getPllOscsource) = source
  else
    return false

def hseConfig (state : Word) : Hal Unit := do
  if state = hseOn then
    modifyReg .cr 0 crHseon
  else if state = hseOff then
    modifyReg .cr crHseon 0
    modifyReg .cr crHsebyp 0
  else if state = hseBypass then
    modifyReg .cr 0 crHsebyp
    modifyReg .cr 0 crHseon
  else
    modifyReg .cr crHseon 0
    modifyReg .cr crHsebyp 0

def oscConfigHse (fuel : Nat) (s : OscInit) : Hal Unit := do
  if ← drivesSysclk sysclksourceStatusHse pllsourceHse then
    if (← getFlag crHserdy) && s.hseState == hseOff then
      stop .error
    else
      pure ()
  else
    hseConfig s.hseState
    modifyReg .cfgr2 cfgr2Prediv s.hsePredivValue
    if s.hseState ≠ hseOff then
      waitWhile fuel hseTimeout .cr fun v => v &&& crHserdy == 0
    else
      waitWhile fuel hseTimeout .cr fun v => v &&& crHserdy != 0

def hsiCalibrationvalueAdjust (value : Word) : Hal Unit := modifyReg .cr crHsitrim (value <<< 3)

def oscConfigHsi (fuel : Nat) (s : OscInit) : Hal Unit := do
  if ← drivesSysclk sysclksourceStatusHsi pllsourceHsi then
    if (← getFlag crHsirdy) && s.hsiState != hsiOn then
      stop .error
    else
      hsiCalibrationvalueAdjust s.hsiCalibrationValue
  else if s.hsiState ≠ hsiOff then
    modifyReg .cr 0 crHsion
    waitWhile fuel hsiTimeout .cr fun v => v &&& crHsirdy == 0
    hsiCalibrationvalueAdjust s.hsiCalibrationValue
  else
    modifyReg .cr crHsion 0
    waitWhile fuel hsiTimeout .cr fun v => v &&& crHsirdy != 0

def oscConfigPll (fuel : Nat) (s : OscInit) : Hal Unit := do
  if (← getSysclkSource) ≠ sysclksourceStatusPllclk then
    if s.pllState = pllOn then
      modifyReg .cr crPllon 0
      waitWhile fuel pllTimeout .cr fun v => v &&& crPllrdy != 0
      modifyReg .cfgr (cfgrPllmul ||| cfgrPllsrc) (s.pllMul ||| s.pllSource)
      modifyReg .cr 0 crPllon
      waitWhile fuel pllTimeout .cr fun v => v &&& crPllrdy == 0
    else
      modifyReg .cr crPllon 0
      waitWhile fuel pllTimeout .cr fun v => v &&& crPllrdy != 0
  else
    stop .error

def oscConfig (fuel : Nat) (s : OscInit) : Hal Unit := do
  (if s.oscillatorType &&& oscillatortypeHse = oscillatortypeHse then oscConfigHse fuel s else pure ())
  (if s.oscillatorType &&& oscillatortypeHsi = oscillatortypeHsi then oscConfigHsi fuel s else pure ())
  (if s.pllState ≠ pllNone then oscConfigPll fuel s else pure ())

/-! ## `HAL_RCC_ClockConfig` -/

def clocktypeSysclk : Word := 1
def clocktypeHclk : Word := 2
def clocktypePclk1 : Word := 4
def clocktypePclk2 : Word := 8
def sysclkDiv1 : Word := 0
def hclkDiv1 : Word := 0
def hclkDiv2 : Word := 0x400
def flashLatency2 : Word := 2
def hseValue : Word := 8000000
def hsiValue : Word := 8000000

/-- `RCC_ClkInitTypeDef` -/
structure ClkInit where
  clockType : Word
  sysclkSource : Word
  ahbClkDivider : Word
  apb1ClkDivider : Word
  apb2ClkDivider : Word

def aPLLMULFactorTable : List Word := [2, 3, 4, 5, 6, 7, 8, 9, 10, 11, 12, 13, 14, 15, 16, 16]
def aPredivFactorTable : List Word := [1, 2, 3, 4, 5, 6, 7, 8, 9, 10, 11, 12, 13, 14, 15, 16]
def ahbPrescTable : List Nat := [0, 0, 0, 0, 0, 0, 0, 0, 1, 2, 3, 4, 6, 7, 8, 9]

def getSysClockFreq : Hal Word := do
  let tmpreg ← readReg .cfgr
  if tmpreg &&& cfgrSws = sysclksourceStatusHse then
    return hseValue
  else if tmpreg &&& cfgrSws = sysclksourceStatusPllclk then
    let pllmul := aPLLMULFactorTable.getD ((tmpreg &&& cfgrPllmul) >>> 18).toNat 0
    let prediv := aPredivFactorTable.getD ((← readReg .cfgr2) &&& cfgr2Prediv).toNat 0
    if tmpreg &&& cfgrPllsrc ≠ pllsourceHsi then
      return hseValue / prediv * pllmul
    else
      return (hsiValue >>> 1) * pllmul
  else
    return hsiValue

/-- The number of wait states, set and read back. -/
def setLatency (latency : Word) : Hal Unit := do
  modifyReg .acr acrLatency latency
  if (← readReg .acr) &&& acrLatency ≠ latency then stop .error

def sysclkConfig (fuel : Nat) (source : Word) : Hal Unit := do
  let ready := if source = sysclksourceHse then crHserdy else if source = sysclksourcePllclk then crPllrdy else crHsirdy
  let status :=
    if source = sysclksourceHse then sysclksourceStatusHse
    else if source = sysclksourcePllclk then sysclksourceStatusPllclk
    else sysclksourceStatusHsi
  if ← getFlag ready then
    modifyReg .cfgr cfgrSw source
    waitWhile fuel clockswitchTimeout .cfgr fun v => v &&& cfgrSws != status
  else
    stop .error

/-- Returns what it stores in `SystemCoreClock`. -/
def clockConfig (fuel : Nat) (s : ClkInit) (fLatency : Word) : Hal Word := do
  let latency ← readReg .acr
  (if latency &&& acrLatency < fLatency then setLatency fLatency else pure ())
  (if s.clockType &&& clocktypeHclk = clocktypeHclk then modifyReg .cfgr cfgrHpre s.ahbClkDivider else pure ())
  (if s.clockType &&& clocktypeSysclk = clocktypeSysclk then sysclkConfig fuel s.sysclkSource else pure ())
  let latency ← readReg .acr
  (if fLatency < latency &&& acrLatency then setLatency fLatency else pure ())
  (if s.clockType &&& clocktypePclk1 = clocktypePclk1 then modifyReg .cfgr cfgrPpre1 s.apb1ClkDivider else pure ())
  (if s.clockType &&& clocktypePclk2 = clocktypePclk2 then modifyReg .cfgr cfgrPpre2 (s.apb2ClkDivider <<< 3)
    else pure ())
  let freq ← getSysClockFreq
  return freq >>> ahbPrescTable.getD (((← readReg .cfgr) &&& cfgrHpre) >>> 4).toNat 0

/-! ## The switches -/

/-- Both begin by resetting the clock configuration; `CIR` and `CFGR3` with it. -/
def resetClocks : Hal Unit := do
  updateReg .cr fun v => v ||| 0x00000001
  updateReg .cfgr fun v => v &&& 0xF87FC00C
  updateReg .cr fun v => v &&& 0xFEF6FFFF
  updateReg .cr fun v => v &&& 0xFFFBFFFF
  updateReg .cfgr fun v => v &&& 0xFF80FFFF
  updateReg .cfgr2 fun v => v &&& 0xFFFFFFF0
  updateReg .cfgr3 fun v => v &&& 0xFF00FCCC
  writeReg .cir 0x00000000

def clkInit : ClkInit where
  clockType := clocktypeSysclk ||| clocktypeHclk ||| clocktypePclk1 ||| clocktypePclk2
  sysclkSource := sysclksourcePllclk
  ahbClkDivider := sysclkDiv1
  apb1ClkDivider := hclkDiv2
  apb2ClkDivider := hclkDiv1

/-- `stack` is what `RCC_OscInitStruct` held before its fields were set. -/
def extOscInit (stack : OscInit) : OscInit :=
  { stack with
    oscillatorType := oscillatortypeHse
    hseState := hseBypass
    hsePredivValue := 0
    pllState := pllOn
    pllSource := pllsourceHse
    pllMul := pllMul9 }

def intOscInit (stack : OscInit) : OscInit :=
  { stack with
    oscillatorType := oscillatortypeHsi ||| oscillatortypeHse
    hsiState := hsiOn
    hseState := hseOff
    hsiCalibrationValue := hsicalibrationDefault
    pllState := pllOn
    pllSource := pllsourceHsi
    pllMul := pllMul16 }

/-- Returns `SystemCoreClock` where the source returns 1. -/
def switchToExtOsc (fuel : Nat) (stack : OscInit) : Hal Word := do
  resetClocks
  oscConfig fuel (extOscInit stack)
  clockConfig fuel clkInit flashLatency2

def switchToIntOsc (fuel : Nat) (stack : OscInit) : Hal Word := do
  resetClocks
  oscConfig fuel (intOscInit stack)
  clockConfig fuel clkInit flashLatency2

end Graviton.Clock
