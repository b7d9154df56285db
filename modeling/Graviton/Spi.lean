/-
  Graviton.Spi — the SPI bus at the level of the peripheral's registers.

  `Graviton.Bus` takes `SPI::format`, `SPI::write` and the chip selects for granted. Here they
  are what mbed's `SPI` object makes of them: `HAL_SPI_Init` programs CR1 and CR2, and every
  unit of a transfer waits for TXE, is written to the data register, waits for RXNE and is
  read back. Both waits are unbounded, so a run has fuel for its polls and is `stuck` without.

  The hardware is arbitrary: `Board` says when its flags are set and what comes back with a
  unit, after any history of accesses. The bus has one `SPI` object, for two data lines and
  software chip selects, so the branches for one line and for a slave are left out.
-/
import Graviton.Lib.Client
import Graviton.Lib.Poll
import Graviton.Firmware

namespace Graviton.Spi

open Effects

abbrev Word := BitVec 32

/-! ## Accesses -/

inductive SpiReg where
  | cr1
  | cr2
  deriving DecidableEq, Repr

inductive Access where
  | read (r : SpiReg) (v : Word)
  | write (r : SpiReg) (v : Word)
  | status (v : Word)
  /-- A write of the data register, of 16 bits or of 8. -/
  | transmit (wide : Bool) (v : UInt16)
  | receive (wide : Bool) (v : UInt16)
  | select (s : Select) (v : Bool)
  /-- `HAL_RCC_GetPCLK2Freq` -/
  | pclk2 (v : UInt32)
  /-- What is not on the bus. -/
  | other (e : Event)
  deriving DecidableEq

/-- What a slave or an onlooker sees: a unit, the chips selected and the format it was clocked
    in; an edge of a select; or something off the bus. -/
inductive Wire where
  | unit (low : List Select) (format : Format) (v : UInt16)
  | edge (s : Select) (v : Bool)
  | other (e : Event)
  deriving DecidableEq

def cr1Cpha : Word := 0x00000001
def cr1Cpol : Word := 0x00000002
def cr1Mstr : Word := 0x00000004
def cr1Spe : Word := 0x00000040
def cr1Ssi : Word := 0x00000100
def cr1Ssm : Word := 0x00000200
def cr2Ssoe : Word := 0x00000004
def cr2Frxth : Word := 0x00001000
def srRxne : Word := 0x00000001
def srTxe : Word := 0x00000002

def modeMaster : Word := cr1Mstr ||| cr1Ssi
def direction2Lines : Word := 0
def datasize8Bit : Word := 0x00000700
def datasize16Bit : Word := 0x00000F00
def polarityLow : Word := 0
def polarityHigh : Word := cr1Cpol
def phase1Edge : Word := 0
def phase2Edge : Word := cr1Cpha
def nssSoft : Word := cr1Ssm
def nssHardOutput : Word := 0x00040000
def firstbitMsb : Word := 0
def timodeDisable : Word := 0
def crccalculationDisable : Word := 0
def rxfifoThresholdHf : Word := 0
def rxfifoThresholdQf : Word := cr2Frxth

def baudratePrescalerTable : List Word := [0x00, 0x08, 0x10, 0x18, 0x20, 0x28, 0x30, 0x38]

/-! ## What a history says -/

/-- The chips selected. -/
def low : List Access → List Select
  | [] => []
  | .select s v :: l => if v then (low l).erase s else if s ∈ low l then low l else s :: low l
  | _ :: l => low l

/-- Units sent and not read back. -/
def unread : List Access → Nat
  | [] => 0
  | .transmit _ _ :: l => unread l + 1
  | .receive _ _ :: l => unread l - 1
  | _ :: l => unread l

/-- What was last written to a register. -/
def value (start : SpiReg → Word) : List Access → SpiReg → Word
  | [], r => start r
  | .write r' v :: l, r => if r' = r then v else value start l r
  | _ :: l, r => value start l r

/-- The format two registers set the bus to. -/
def formatOf (cr1 cr2 : Word) : Format where
  bits := if cr2 &&& datasize16Bit = datasize16Bit then 16 else 8
  mode := (if cr1 &&& cr1Cpol = 0 then 0 else 2) + (if cr1 &&& cr1Cpha = 0 then 0 else 1)

/-- What crossed the board, newest first. -/
def wire (start : SpiReg → Word) : List Access → List Wire
  | [] => []
  | .transmit _ v :: l => .unit (low l) (formatOf (value start l .cr1) (value start l .cr2)) v :: wire start l
  | .select s v :: l => .edge s v :: wire start l
  | .other e :: l => .other e :: wire start l
  | _ :: l => wire start l

/-- The history up to the unit before which `n` units were sent later. -/
def upTo : Nat → List Wire → List Wire
  | _, [] => []
  | 0, .unit low format v :: l => .unit low format v :: l
  | n + 1, .unit _ _ _ :: l => upTo n l
  | n, _ :: l => upTo n l

/-! ## The board -/

structure Board where
  /-- The status register. -/
  status : List Access → Word
  /-- What comes back with the newest unit. -/
  shift : List Wire → UInt16
  pclk2 : List Access → UInt32
  start : SpiReg → Word
  extOsc : List Wire → Bool
  intOsc : List Wire → Bool
  readable : List Wire → Bool
  getc : List Wire → UInt8
  devId : UInt32 × UInt32 × UInt32
  lm5331 : UInt32 → Int32

def Board.value (hw : Board) (l : List Access) (r : SpiReg) : Word := Spi.value hw.start l r

def Board.wire (hw : Board) (l : List Access) : List Wire := Spi.wire hw.start l

/-- The data register holds the units that came back, the oldest first. -/
def Board.data (hw : Board) (l : List Access) : UInt16 := hw.shift (upTo (unread l - 1) (hw.wire l))

/-- The fields of `SPI_InitTypeDef` that reach a register. -/
structure SpiInit where
  mode : Word
  direction : Word
  dataSize : Word
  clkPolarity : Word
  clkPhase : Word
  nss : Word
  baudRatePrescaler : Word
  firstBit : Word
  tiMode : Word
  nssPMode : Word
  crcCalculation : Word

/-- The firmware's memory with the `SPI` object in it, and the accesses. -/
structure Chip where
  bits : Nat
  mode : Nat
  hz : Int
  /-- Does the object own the peripheral? There is no other. -/
  owner : Bool
  writeFill : UInt8
  init : SpiInit
  mem : Mem
  log : List Access

inductive Exit where
  | stop (e : Stop)
  /-- Still waiting for a flag. -/
  | stuck
  deriving DecidableEq

abbrev Hal : Type → Type := Prog Board Chip Exit

def access (a : Access) : Hal Unit := fun _ d => .ok () { d with log := a :: d.log }

def getChip : Hal Chip := fun _ d => .ok d d

def setInit (f : SpiInit → SpiInit) : Hal Unit := fun _ d => .ok () { d with init := f d.init }

def readReg (r : SpiReg) : Hal Word := fun hw d =>
  .ok (hw.value d.log r) { d with log := .read r (hw.value d.log r) :: d.log }

def writeReg (r : SpiReg) (v : Word) : Hal Unit := access (.write r v)

/-- `SET_BIT`, `CLEAR_BIT` and `MODIFY_REG`. -/
def modifyReg (r : SpiReg) (clear set : Word) : Hal Unit := do
  let v ← readReg r
  writeReg r (v &&& ~~~clear ||| set)

def readStatus : Hal Word := fun hw d => .ok (hw.status d.log) { d with log := .status (hw.status d.log) :: d.log }

def transmitData (wide : Bool) (v : UInt16) : Hal Unit := access (.transmit wide v)

def receiveData (wide : Bool) : Hal UInt16 := fun hw d =>
  .ok (hw.data d.log) { d with log := .receive wide (hw.data d.log) :: d.log }

/-! ## `stm32f3xx_hal_spi.c` -/

/-- `HAL_SPI_Init`; `USE_SPI_CRC` is 0. -/
def halSpiInit : Hal Unit := do
  modifyReg .cr1 cr1Spe 0
  setInit fun i => { i with crcCalculation := crccalculationDisable }
  let i := (← getChip).init
  let frxth := if datasize8Bit < i.dataSize then rxfifoThresholdHf else rxfifoThresholdQf
  writeReg .cr1 (i.mode ||| i.direction ||| i.clkPolarity ||| i.clkPhase ||| i.nss &&& cr1Ssm |||
    i.baudRatePrescaler ||| i.firstBit ||| i.crcCalculation)
  writeReg .cr2 ((i.nss >>> 16 &&& cr2Ssoe ||| i.tiMode ||| i.nssPMode ||| i.dataSize) ||| frxth)

/-! ## `stm_spi_api.c` -/

def initSpi : Hal Unit := do
  modifyReg .cr1 cr1Spe 0
  halSpiInit
  if (← getChip).init.direction = direction2Lines then modifyReg .cr1 0 cr1Spe

/-- `spi_init` with a MISO pin and without a select pin. -/
def spiInit : Hal Unit := do
  setInit fun i =>
    { i with
      nss := nssSoft, mode := modeMaster, baudRatePrescaler := baudratePrescalerTable.getD 7 0,
      direction := direction2Lines
      clkPhase := phase1Edge, clkPolarity := polarityLow, crcCalculation := crccalculationDisable
      dataSize := datasize8Bit, firstBit := firstbitMsb, tiMode := timodeDisable }
  initSpi

def polarityPhase : Nat → Word × Word
  | 0 => (polarityLow, phase1Edge)
  | 1 => (polarityLow, phase2Edge)
  | 2 => (polarityHigh, phase1Edge)
  | _ => (polarityHigh, phase2Edge)

/-- `spi_format` of a master. -/
def spiFormat (bits mode : Nat) : Hal Unit := do
  setInit fun i =>
    { i with
      dataSize := if bits = 16 then datasize16Bit else datasize8Bit
      clkPolarity := (polarityPhase mode).1, clkPhase := (polarityPhase mode).2
      nss := if i.nss ≠ nssSoft then nssHardOutput else i.nss, mode := modeMaster }
  initSpi

/-- The `while` of `spi_frequency`, with so many prescalers left. -/
def prescalerRank (hz : Int) : Nat → Int → Nat → Nat
  | 0, _, rank => rank
  | left + 1, spiHz, rank => if spiHz > hz then prescalerRank hz left (spiHz.tdiv 2) (rank + 1) else rank

def spiFrequency (hz : Int) : Hal Unit := do
  let clock ← fun hw d => .ok (hw.pclk2 d.log) { d with log := .pclk2 (hw.pclk2 d.log) :: d.log }
  let rank := prescalerRank hz 7 ((clock : UInt32).toInt32.toInt.tdiv 2) 0
  setInit fun i => { i with baudRatePrescaler := baudratePrescalerTable.getD rank 0 }
  initSpi

/-- `while (!flag);` -/
def waitFlag (fuel : Nat) (flag : Word) : Hal Unit :=
  pollWhile (do return (← readStatus) &&& flag == 0) (pure false) .stuck .stuck fuel

/-- `spi_master_write` of a byte, cut to a byte again. -/
def spiMasterWrite (fuel : Nat) (out : UInt8) : Hal UInt8 := do
  let wide := (← getChip).init.dataSize == datasize16Bit
  modifyReg .cr2 cr2Frxth (if wide then rxfifoThresholdHf else rxfifoThresholdQf)
  waitFlag fuel srTxe
  transmitData wide out.toUInt16
  waitFlag fuel srRxne
  return (← receiveData wide).toUInt8

/-- `spi_master_block_write`: it returns what it stored in `rx_buffer`. -/
def spiMasterBlockWrite (fuel : Nat) (tx : List UInt8) (rxLength : Nat) (writeFill : UInt8) : Hal (List UInt8) :=
  let total := if rxLength < tx.length then tx.length else rxLength
  (List.range total).foldlM (fun rx i => do
    let out := if i < tx.length then tx.getD i 0 else writeFill
    let v ← spiMasterWrite fuel out
    return if i < rxLength then rx ++ [v] else rx) []

/-! ## `SPI.cpp` -/

def acquire : Hal Unit := do
  let d ← getChip
  if d.owner = false then do
    spiFormat d.bits d.mode
    spiFrequency d.hz
    fun _ d => .ok () { d with owner := true }

def SPI.construct : Hal Unit := do
  (fun _ d => .ok () { d with bits := 8, mode := 0, hz := 1000000, writeFill := 0xFF } : Hal Unit)
  spiInit
  acquire

def SPI.format (bits mode : Nat) : Hal Unit := do
  (fun _ d => .ok () { d with bits := bits, mode := mode } : Hal Unit)
  let d ← getChip
  if d.owner then spiFormat d.bits d.mode else acquire

def SPI.frequency (hz : Int) : Hal Unit := do
  (fun _ d => .ok () { d with hz := hz } : Hal Unit)
  let d ← getChip
  if d.owner then spiFrequency d.hz else acquire

def SPI.write (fuel : Nat) (tx : List UInt8) (rxLength : Nat) : Hal (List UInt8) := do
  acquire
  spiMasterBlockWrite fuel tx rxLength (← getChip).writeFill

/-! ## The operations of the firmware -/

/-- What the firmware does to the world and to its memory; every transfer is a `transact`. -/
inductive Op where
  | format (bits mode : Nat)
  | frequency (hz : Int)
  | transact (s : Select) (tx : List UInt8) (rxLength : Nat)
  | pin (p : Pin) (v : Bool)
  | printf (port : Port) (text : String) (args : List Int)
  | osc (external : Bool)
  | readable
  | getc
  | devId
  | lm5331 (mv : UInt32)
  | getMem
  | modifyMem (f : Mem → Mem)
  | stop (e : Stop)

def Op.Answer : Op → Type
  | .transact _ _ _ => List UInt8
  | .osc _ => UInt8
  | .readable => Bool
  | .getc => UInt8
  | .devId => UInt32 × UInt32 × UInt32
  | .lm5331 _ => Int32
  | .getMem => Mem
  | .stop _ => Empty
  | _ => Unit

/-- The operations on the bus of `Graviton.Bus`; the bus has no clock there. -/
def Op.onBus : ∀ o : Op, Fw o.Answer
  | .format bits mode => Graviton.spiFormat bits mode
  | .frequency _ => (pure () : Fw Unit)
  | .transact s tx rxLength => Graviton.transact s tx rxLength
  | .pin p v => pinWrite p v
  | .printf port text args => Graviton.printf port text args
  | .osc external => if external then switchToExtOsc else switchToIntOsc
  | .readable => fpgaReadable
  | .getc => fpgaGetc
  | .devId => fun env w => .ok env.devId w
  | .lm5331 mv => fun env w => .ok (env.lm5331 mv) w
  | .getMem => Graviton.getMem
  | .modifyMem f => Graviton.modifyMem f
  | .stop e => (Effects.stop e : Fw Empty)

/-- The same on the peripheral. -/
def Op.onChip (fuel : Nat) : ∀ o : Op, Hal o.Answer
  | .format bits mode => SPI.format bits mode
  | .frequency hz => SPI.frequency hz
  | .transact s tx rxLength => (do
    access (.select s false)
    let rx ← SPI.write fuel tx rxLength
    access (.select s true)
    return rx : Hal (List UInt8))
  | .pin p v => access (.other (.pin p v))
  | .printf port text args => access (.other (.printf port text args))
  | .osc external => fun hw d =>
    let ok := if external then hw.extOsc (hw.wire d.log) else hw.intOsc (hw.wire d.log)
    .ok (if ok then 1 else 0 : UInt8) { d with log := .other (.osc external ok) :: d.log }
  | .readable => fun hw d =>
    .ok (hw.readable (hw.wire d.log)) { d with log := .other (.readable (hw.readable (hw.wire d.log))) :: d.log }
  | .getc => fun hw d =>
    .ok (hw.getc (hw.wire d.log)) { d with log := .other (.getc (hw.getc (hw.wire d.log))) :: d.log }
  | .devId => fun hw d => .ok hw.devId d
  | .lm5331 mv => fun hw d => .ok (hw.lm5331 mv) d
  | .getMem => fun _ d => .ok d.mem d
  | .modifyMem f => fun _ d => .ok () { d with mem := f d.mem }
  | .stop e => (Effects.stop (.stop e) : Hal Empty)

end Graviton.Spi
