/-
  Graviton.Amc7891 — the driver of the AMC7891 (`amc7891.cpp`).

  A register write is one frame: address, high byte, low byte. A read is two: the first
  carries the address with bit 7 set, and the register comes back during the second, whose
  own address is the chip's identification register. The driver never sets the bus format;
  on an idle bus a write leaves exactly its `Write` behind (`writeReg_step`) and a read is
  quiet and returns `Env.register`, the two bytes the environment sends during the second
  frame (`readReg_run`, `readOnly_readReg`).
-/
import Graviton.Bus

namespace Graviton

open Effects

/-! ## Register map -/

def amcTempData : UInt8 := 0x00
def amcTempConfig : UInt8 := 0x0A
def amcTempRate : UInt8 := 0x0B
def amcAdc0Data : UInt8 := 0x23
def amcDac0Data : UInt8 := 0x2B
def amcGpioConfig : UInt8 := 0x33
def amcGpioOut : UInt8 := 0x34
def amcAmcConfig : UInt8 := 0x36
def amcAdcEnable : UInt8 := 0x37
def amcAdcGain : UInt8 := 0x38
def amcAmcPower : UInt8 := 0x3B
def amcAmcReset : UInt8 := 0x3E
def amcAmcId : UInt8 := 0x40

inductive AdcChannel where
  | adc0
  | adc1
  | adc2
  | adc3
  | adc4
  | adc5
  | adc6
  | adc7
  deriving DecidableEq, Repr

def AdcChannel.code : AdcChannel → UInt8
  | .adc0 => 0
  | .adc1 => 1
  | .adc2 => 2
  | .adc3 => 3
  | .adc4 => 4
  | .adc5 => 5
  | .adc6 => 6
  | .adc7 => 7

inductive DacChannel where
  | dac0
  | dac1
  | dac2
  | dac3
  deriving DecidableEq, Repr

def DacChannel.code : DacChannel → UInt8
  | .dac0 => 0
  | .dac1 => 1
  | .dac2 => 2
  | .dac3 => 3

/-! ## The driver -/

namespace Amc7891

def writeReg (c : Afe) (addr : UInt8) (val : UInt16) : Fw Unit := do
  let _ ← transact (.afe c) [addr, (val >>> 8).toUInt8, (val &&& 0xFF).toUInt8] 0

def readReg (c : Afe) (addr : UInt8) : Fw UInt16 := do
  let _ ← transact (.afe c) [0x80 ||| addr, 0, 0] 0
  let out ← transact (.afe c) [0x80 ||| amcAmcId, 0, 0] 3
  return word (out.getD 1 0) (out.getD 2 0)

def dacData (channel : DacChannel) : UInt8 := amcDac0Data + (0x0F &&& channel.code)

def adcData (channel : AdcChannel) : UInt8 := amcAdc0Data + (0x0F &&& channel.code)

def writeDac (c : Afe) (channel : DacChannel) (val : UInt16) : Fw Unit :=
  writeReg c (dacData channel) (0x03FF &&& val)

def enableDacs (c : Afe) : Fw Unit := writeReg c amcAmcPower 0x7E00

def init (c : Afe) : Fw Unit := do
  writeReg c amcAmcReset 0x6600
  writeReg c amcTempConfig 0x0008
  writeReg c amcTempRate 0x0007
  writeReg c amcAmcPower 0x6000
  writeReg c amcAdcEnable 0x6DE0
  writeReg c amcAdcGain 0x0000
  writeReg c amcAmcConfig 0x3300

def setGpio (c : Afe) (val : UInt16) : Fw Unit := writeReg c amcGpioOut (0x0FFF &&& val)

def configGpio (c : Afe) (gpios : UInt16) : Fw Unit := writeReg c amcGpioConfig (0x0FFF &&& gpios)

def configAdc (c : Afe) (val : UInt8) : Fw Unit := writeReg c amcAdcGain ((0xFF00 : UInt16) &&& (val.toUInt16 <<< 8))

def readAdc (c : Afe) (channel : AdcChannel) : Fw UInt16 := readReg c (adcData channel)

def readTemperature (c : Afe) : Fw UInt16 := do
  let r ← readReg c amcTempData
  return r / 8

end Amc7891

/-! ## Writes -/

/-- The world after the register write `((c, addr), v)`. -/
def World.wrote (w : World) (p : Write) : World :=
  w.push (.frame ⟨w.format, [.afe p.1.1], [p.1.2, hiByte p.2, loByte p.2]⟩ [])

@[simp] theorem wrote_idle {w : World} {p : Write} : (w.wrote p).Idle ↔ w.Idle := push_idle
@[simp] theorem wrote_mem (w : World) (p : Write) : (w.wrote p).mem = w.mem := rfl

theorem writeReg_run {w : World} (h : w.Idle) (c : Afe) (addr : UInt8) (v : UInt16) (env : Env) :
    Amc7891.writeReg c addr v env w = .ok () (w.wrote ((c, addr), v)) := by
  unfold Amc7891.writeReg
  rw [run_bind_ok (transact_run _ _ _ env h.low)]
  rfl

theorem wrote_step {w : World} (h : w.Idle) {p : Write} (hp : p.1.2 < 0x80) : Step w (w.wrote p) [p] [] := by
  obtain ⟨⟨c, addr⟩, v⟩ := p
  have hw : Event.write (.frame ⟨w.format, [.afe c], [addr, hiByte v, loByte v]⟩ []) = some ((c, addr), v) := by
    simp only at hp
    simp [Event.write, Frame.write, h.format, hp, word_bytes]
  have hs := Step.push (w := w) h (e := .frame ⟨w.format, [.afe c], [addr, hiByte v, loByte v]⟩ []) rfl
  rwa [hw] at hs

/-- Several register writes, the newest first in the list. -/
def World.wroteAll (w : World) : List Write → World
  | [] => w
  | p :: ps => (w.wroteAll ps).wrote p

@[simp] theorem wroteAll_idle {w : World} {ps : List Write} : (w.wroteAll ps).Idle ↔ w.Idle := by
  induction ps with
  | nil => exact Iff.rfl
  | cons p ps ih => exact wrote_idle.trans ih

@[simp] theorem wroteAll_mem (w : World) (ps : List Write) : (w.wroteAll ps).mem = w.mem := by
  induction ps with
  | nil => rfl
  | cons p ps ih => exact ih

theorem wroteAll_step {w : World} (h : w.Idle) {ps : List Write} (hp : ∀ p ∈ ps, p.1.2 < 0x80) :
    Step w (w.wroteAll ps) ps [] := by
  induction ps with
  | nil => exact .refl h
  | cons p ps ih =>
    have h1 := ih fun q hq => hp q (List.mem_cons_of_mem p hq)
    exact h1.trans (wrote_step h1.idle (hp p List.mem_cons_self))

/-! ## Reads -/

theorem read_bit (a : UInt8) : ¬ (0x80 ||| a) < 0x80 := by
  rw [UInt8.lt_iff_toNat_lt, UInt8.toNat_or]
  have : 128 ≤ 128 ||| a.toNat := Nat.left_le_or
  exact Nat.not_lt.mpr this

/-- The frame that asks for register `addr`. -/
def readFrame (c : Afe) (addr : UInt8) : Frame := ⟨⟨8, 1⟩, [.afe c], [0x80 ||| addr, 0, 0]⟩

/-- The log of `w` after the frame that asks for `addr`. -/
def World.asked (w : World) (c : Afe) (addr : UInt8) : World := w.push (.frame (readFrame c addr) [])

/-- What the environment answers when register `addr` of chip `c` is read at `w`. -/
def Env.register (env : Env) (c : Afe) (addr : UInt8) (w : World) : UInt16 :=
  word (env.miso (w.asked c addr).log (readFrame c amcAmcId) 1) (env.miso (w.asked c addr).log (readFrame c amcAmcId) 2)

def World.didRead (w : World) (env : Env) (c : Afe) (addr : UInt8) : World :=
  (w.asked c addr).push
    (.frame (readFrame c amcAmcId) (env.reply (w.asked c addr).log (readFrame c amcAmcId) 3))

theorem readReg_run {w : World} (h : w.Idle) (c : Afe) (addr : UInt8) (env : Env) :
    Amc7891.readReg c addr env w = .ok (env.register c addr w) (w.didRead env c addr) := by
  have h1 := transact_run (.afe c) [0x80 ||| addr, 0, 0] 0 env h.low
  have hl : w.frameTo (.afe c) [0x80 ||| addr, 0, 0] 0 = readFrame c addr := by
    simp [World.frameTo, readFrame, h.format]
  rw [hl] at h1
  have h2 := transact_run (.afe c) [0x80 ||| amcAmcId, 0, 0] 3 env
    (w := w.asked c addr) (by simpa [World.asked] using h.low)
  have hl2 : (w.asked c addr).frameTo (.afe c) [0x80 ||| amcAmcId, 0, 0] 3 = readFrame c amcAmcId := by
    simp [World.frameTo, readFrame, World.asked, h.format]
  rw [hl2] at h2
  unfold Amc7891.readReg
  rw [run_bind_ok h1]
  exact run_bind_ok h2 _

theorem readFrame_silent (c : Afe) (addr : UInt8) (rx : List UInt8) : (Event.frame (readFrame c addr) rx).Silent := by
  refine ⟨?_, rfl, rfl⟩
  simp [Event.write, Frame.write, readFrame, read_bit]

theorem didRead_quiet {w : World} (h : w.Idle) (env : Env) (c : Afe) (addr : UInt8) :
    Quiet w (w.didRead env c addr) := by
  have h1 : Quiet w (w.asked c addr) := .push h (readFrame_silent c addr [])
  exact h1.trans (.push h1.step.idle (readFrame_silent c amcAmcId _))

theorem readOnly_readReg (c : Afe) (addr : UInt8) : ReadOnly (Amc7891.readReg c addr) :=
  fun env _ h => ⟨_, _, readReg_run h c addr env, didRead_quiet h env c addr⟩

theorem readOnly_readTemperature (c : Afe) : ReadOnly (Amc7891.readTemperature c) :=
  (readOnly_readReg c amcTempData).bind fun _ => readOnly_pure _

/-! ## Initialisation -/

/-- The register writes of `AMC7891::init`, newest first. -/
def initWrites (c : Afe) : List Write :=
  [((c, amcAmcConfig), 0x3300), ((c, amcAdcGain), 0x0000), ((c, amcAdcEnable), 0x6DE0), ((c, amcAmcPower), 0x6000),
    ((c, amcTempRate), 0x0007), ((c, amcTempConfig), 0x0008), ((c, amcAmcReset), 0x6600)]

theorem amcInit_run {w : World} (h : w.Idle) (c : Afe) (env : Env) :
    Amc7891.init c env w = .ok () (w.wroteAll (initWrites c)) := by
  simp [Amc7891.init, run_bind, writeReg_run, h, initWrites, World.wroteAll]

end Graviton
