/-
  Graviton.Bus — the processor's side of the board: the shared SPI bus and its chip
  selects, the pins, the two serial ports, the firmware's global variables, and the log
  of everything that crossed the processor's boundary.

  A run is deterministic once the outside world is fixed. `Env` is that world: each of its
  answers is a function of the whole log so far, and every question leaves an entry in the
  log, so quantifying over `Env` quantifies over every sequence of readings, every command
  stream and every timing of its bytes. Waits, baud rates and the SPI clock frequency
  change nothing the log shows and are left out.

  What the claims speak of is read off the log: `World.writes` (the AMC7891 register
  writes), `World.config3` (the values sent to the DAC3484's register config3) and
  `World.received` (the command bytes), each with its newest entry first.
-/
import Graviton.Lib.Effects
import Graviton.Lib.History

namespace Graviton

open Effects

/-! ## Chips, pins, ports -/

/-- The AMC7891 objects `afe_a`, `afe_b` and `afe_0`. -/
inductive Afe where
  | afeA
  | afeB
  | afe0
  deriving DecidableEq, Repr

/-- The chip selects on the shared bus. -/
inductive Select where
  | afe (c : Afe)
  | lmk04826b
  | lmk04133
  | ads42lb69
  | dac3484
  deriving DecidableEq, Repr

inductive Pin where
  | buzzer
  | oscEn
  | lmk04826bRst
  | lmk04133Rst
  | ads42lb69Rst
  | dac3484Rst
  deriving DecidableEq, Repr

inductive Port where
  | pc
  | fpga
  deriving DecidableEq, Repr

/-- The arguments of `SPI::format`. -/
structure Format where
  bits : Nat
  mode : Nat
  deriving DecidableEq, Repr

/-- One `SPI::write`: the bus format, the chips selected, the bytes sent. -/
structure Frame where
  format : Format
  low : List Select
  mosi : List UInt8
  deriving DecidableEq, Repr

inductive Event where
  /-- A transfer, with the bytes the driver kept of what came back. -/
  | frame (f : Frame) (rx : List UInt8)
  | pin (p : Pin) (v : Bool)
  | osc (external ok : Bool)
  | printf (port : Port) (text : String) (args : List Int)
  | readable (r : Bool)
  | getc (c : UInt8)
  deriving DecidableEq, Repr

/-! ## Global variables -/

inductive AmcMode where
  | safe
  | rx
  | tx
  deriving DecidableEq, Repr

/-- The public fields of an `AMC7891` object. -/
structure Amc7891 where
  vgSetpoint : UInt32
  vgQuiescent : UInt32
  mode : AmcMode
  deriving DecidableEq, Repr

inductive GravMode where
  | safe
  | txEn
  | txDis
  deriving DecidableEq, Repr

/-- `soft_bottom_tolerance_t`. -/
structure SoftBottomTolerance where
  lowerHard : Int32
  lowerTol : Int32
  upperHard : Int32
  repeatTol : Int32
  violations : Int32
  name : String
  msg : String
  deriving DecidableEq

/-- The records of that type: `v3v8v_soft`, `v5v5v_soft`, `v5v5vneg_soft`. -/
inductive SoftRail where
  | v3v8v
  | v5v5v
  | v5v5vneg
  deriving DecidableEq, Repr

structure Mem where
  afe : Afe → Amc7891
  gravMode : GravMode
  soft : SoftRail → SoftBottomTolerance
  disableSafteyVector : Vector UInt16 32

/-! ## Worlds and environments -/

structure World where
  format : Format
  /-- The chips whose select line is low. -/
  low : List Select
  log : List Event
  mem : Mem

structure Env where
  /-- Byte `i` that comes back during a transfer. -/
  miso : List Event → Frame → Nat → UInt8
  extOsc : List Event → Bool
  intOsc : List Event → Bool
  readable : List Event → Bool
  getc : List Event → UInt8
  devId : UInt32 × UInt32 × UInt32
  /-- The detector curve of `lm5531.cpp`, a logarithm in doubles: it is only printed. -/
  lm5331 : UInt32 → Int32

/-- Why a run ends: `NVIC_SystemReset`, a `while(1) { }`, an array index out of range, or
    a loop that used up the fuel its model gives it. -/
inductive Stop where
  | systemReset
  | halted
  | outOfBounds
  | outOfFuel
  deriving DecidableEq, Repr

abbrev Fw : Type → Type := Prog Env World Stop

def emit (e : Event) : Fw Unit := fun _ w => .ok () { w with log := e :: w.log }

def getMem : Fw Mem := fun _ w => .ok w.mem w

def askEnv : Fw Env := fun env w => .ok env w

def modifyMem (f : Mem → Mem) : Fw Unit := fun _ w => .ok () { w with mem := f w.mem }

/-- `SPI::format`. -/
def spiFormat (bits mode : Nat) : Fw Unit := fun _ w => .ok () { w with format := ⟨bits, mode⟩ }

/-- `DigitalOut::write` on a chip select. -/
def csWrite (s : Select) (v : Bool) : Fw Unit := fun _ w =>
  .ok () { w with low := if v then w.low.erase s else if s ∈ w.low then w.low else s :: w.low }

/-- `SPI::write`: as many bytes as the longer buffer, `0xFF` past the end of `tx`; the
    first `rxLen` bytes that come back are kept. -/
def spiWrite (tx : List UInt8) (rxLen : Nat) : Fw (List UInt8) := fun env w =>
  let f : Frame := ⟨w.format, w.low, tx ++ List.replicate (rxLen - tx.length) 0xFF⟩
  let rx := (List.range rxLen).map (env.miso w.log f)
  .ok rx { w with log := .frame f rx :: w.log }

/-- What every driver does for one transfer: select, transfer, deselect. -/
def transact (s : Select) (tx : List UInt8) (rxLen : Nat) : Fw (List UInt8) := do
  csWrite s false
  let rx ← spiWrite tx rxLen
  csWrite s true
  return rx

def pinWrite (p : Pin) (v : Bool) : Fw Unit := emit (.pin p v)

def printf (port : Port) (text : String) (args : List Int) : Fw Unit := emit (.printf port text args)

/-! ## What the log says -/

def word (hi lo : UInt8) : UInt16 := hi.toUInt16 <<< 8 ||| lo.toUInt16

def hiByte (v : UInt16) : UInt8 := (v >>> 8).toUInt8
def loByte (v : UInt16) : UInt8 := (v &&& 0xFF).toUInt8

theorem word_bytes (v : UInt16) : word (hiByte v) (loByte v) = v := by
  apply UInt16.toNat_inj.mp
  have hv := v.toNat_lt
  have hlo : v.toNat &&& 255 = v.toNat % 256 := Nat.and_two_pow_sub_one_eq_mod v.toNat 8
  have hb : (v.toNat >>> 8) % 256 = v.toNat / 256 := by rw [Nat.shiftRight_eq_div_pow]; omega
  simp only [word, hiByte, loByte, UInt16.toNat_or, UInt16.toNat_shiftLeft, UInt8.toNat_toUInt16,
    UInt16.toNat_toUInt8, UInt16.toNat_shiftRight, UInt16.toNat_and, UInt16.toNat_ofNat]
  simp only [Nat.reducePow, Nat.reduceMod, hlo, hb, Nat.mod_mod]
  rw [Nat.shiftLeft_eq, Nat.mod_eq_of_lt (by omega), ← Nat.shiftLeft_eq,
    ← Nat.shiftLeft_add_eq_or_of_lt (by omega), Nat.shiftLeft_eq]
  omega

/-- A write to a register of an AMC7891. -/
abbrev Write := (Afe × UInt8) × UInt16

/-- The register write a frame is to an AMC7891: three bytes in mode 1 with only that
    chip selected, the address bit 7 clear. -/
def Frame.write (f : Frame) : Option Write :=
  if f.format = ⟨8, 1⟩ then
    match f.low, f.mosi with
    | [.afe c], [addr, hi, lo] => if addr < 0x80 then some ((c, addr), word hi lo) else none
    | _, _ => none
  else none

def Event.write : Event → Option Write
  | .frame f _ => f.write
  | _ => none

/-- The value a frame sends to the DAC3484's register config3. -/
def Event.config3 : Event → Option UInt16
  | .frame f _ =>
    match f.low, f.mosi with
    | [.dac3484], [addr, hi, lo] => if addr = 0x03 then some (word hi lo) else none
    | _, _ => none
  | _ => none

def Event.received : Event → Option UInt8
  | .getc c => some c
  | _ => none

def World.writes (w : World) : List Write := w.log.filterMap Event.write
def World.config3 (w : World) : List UInt16 := w.log.filterMap Event.config3
def World.received (w : World) : List UInt8 := w.log.filterMap Event.received

/-- Between two driver calls: format (8,1), no chip selected. -/
structure World.Idle (w : World) : Prop where
  format : w.format = ⟨8, 1⟩
  low : w.low = []

def World.push (w : World) (e : Event) : World := { w with log := e :: w.log }

@[simp] theorem push_format (w : World) (e : Event) : (w.push e).format = w.format := rfl
@[simp] theorem push_low (w : World) (e : Event) : (w.push e).low = w.low := rfl
@[simp] theorem push_log (w : World) (e : Event) : (w.push e).log = e :: w.log := rfl
@[simp] theorem push_mem (w : World) (e : Event) : (w.push e).mem = w.mem := rfl
@[simp] theorem push_idle {w : World} {e : Event} : (w.push e).Idle ↔ w.Idle :=
  ⟨fun h => ⟨h.format, h.low⟩, fun h => ⟨h.format, h.low⟩⟩

theorem run_printf (port : Port) (text : String) (args : List Int) (env : Env) (w : World) :
    printf port text args env w = .ok () (w.push (.printf port text args)) := rfl

theorem run_pinWrite (p : Pin) (v : Bool) (env : Env) (w : World) :
    pinWrite p v env w = .ok () (w.push (.pin p v)) := rfl

/-- What comes back of the first `n` bytes of a transfer. -/
def Env.reply (env : Env) (l : List Event) (f : Frame) (n : Nat) : List UInt8 :=
  (List.range n).map (env.miso l f)

/-- The transfer of `tx` with only `s` selected. -/
def World.frameTo (w : World) (s : Select) (tx : List UInt8) (n : Nat) : Frame :=
  ⟨w.format, [s], tx ++ List.replicate (n - tx.length) 0xFF⟩

theorem transact_run (s : Select) (tx : List UInt8) (n : Nat) (env : Env) {w : World} (h : w.low = []) :
    transact s tx n env w =
      .ok (env.reply w.log (w.frameTo s tx n) n)
        (w.push (.frame (w.frameTo s tx n) (env.reply w.log (w.frameTo s tx n) n))) := by
  obtain ⟨format, low, log, mem⟩ := w
  subst h
  simp only [transact, run_bind, csWrite, spiWrite, run_pure, List.not_mem_nil, if_false,
    Bool.false_eq_true, if_true, List.erase_cons_head]
  rfl

/-! ## What a piece of a run left behind -/

/-- From `w` the log grew and the bus came back idle, with the register writes `ws` and the
    config3 values `cs` added, and no command byte was taken. -/
structure Step (w w' : World) (ws : List Write) (cs : List UInt16) : Prop where
  idle : w'.Idle
  writes : w'.writes = ws ++ w.writes
  config3 : w'.config3 = cs ++ w.config3
  received : w'.received = w.received
  log : w.log <:+ w'.log

theorem Step.refl {w : World} (h : w.Idle) : Step w w [] [] := ⟨h, rfl, rfl, rfl, List.suffix_rfl⟩

theorem Step.trans {w w' w'' : World} {ws ws' : List Write} {cs cs' : List UInt16}
    (h : Step w w' ws cs) (h' : Step w' w'' ws' cs') : Step w w'' (ws' ++ ws) (cs' ++ cs) where
  idle := h'.idle
  writes := by rw [h'.writes, h.writes, List.append_assoc]
  config3 := by rw [h'.config3, h.config3, List.append_assoc]
  received := h'.received.trans h.received
  log := h.log.trans h'.log

theorem Step.push {w : World} {e : Event} (h : w.Idle) (he : e.received = none) :
    Step w (w.push e) e.write.toList e.config3.toList where
  idle := push_idle.mpr h
  writes := by cases hw : e.write <;> simp [World.writes, hw]
  config3 := by cases hc : e.config3 <;> simp [World.config3, hc]
  received := by simp [World.received, he]
  log := List.suffix_cons e w.log

/-- `e` was logged between `w` and `w'`. -/
def Logged (e : Event) (w w' : World) : Prop := ∃ l, w.log <:+ l ∧ (e :: l) <:+ w'.log

theorem Logged.within {e : Event} {w w' w'' w''' : World} (he : Logged e w' w'') (h : w.log <:+ w'.log)
    (h' : w''.log <:+ w'''.log) : Logged e w w''' := by
  obtain ⟨l, hl, hel⟩ := he
  exact ⟨l, h.trans hl, hel.trans h'⟩

/-- An event that is no register write, no config3 value and no command byte. -/
def Event.Silent (e : Event) : Prop := e.write = none ∧ e.config3 = none ∧ e.received = none

theorem Step.push_silent {w : World} {e : Event} (h : w.Idle) (he : e.Silent) : Step w (w.push e) [] [] := by
  have := Step.push h he.2.2
  rwa [he.1, he.2.1] at this

/-- Only silent events happened, and no global variable changed. -/
structure Quiet (w w' : World) : Prop where
  step : Step w w' [] []
  mem : w'.mem = w.mem

theorem Quiet.refl {w : World} (h : w.Idle) : Quiet w w := ⟨.refl h, rfl⟩

theorem Quiet.trans {w w' w'' : World} (h : Quiet w w') (h' : Quiet w' w'') : Quiet w w'' :=
  ⟨h.step.trans h'.step, h'.mem.trans h.mem⟩

theorem Quiet.push {w : World} {e : Event} (h : w.Idle) (he : e.Silent) : Quiet w (w.push e) := ⟨.push_silent h he, rfl⟩

theorem quiet_printf {w : World} (h : w.Idle) (port : Port) (text : String) (args : List Int) :
    Quiet w (w.push (.printf port text args)) := .push h ⟨rfl, rfl, rfl⟩

/-- The program always returns, and is quiet. -/
def ReadOnly {α : Type} (x : Fw α) : Prop := ∀ env w, w.Idle → ∃ a w', x env w = .ok a w' ∧ Quiet w w'

section ReadOnly

variable {α β : Type}

theorem readOnly_pure (a : α) : ReadOnly (pure a : Fw α) := fun _ w h => ⟨a, w, rfl, .refl h⟩

theorem ReadOnly.bind {x : Fw α} {f : α → Fw β} (hx : ReadOnly x) (hf : ∀ a, ReadOnly (f a)) :
    ReadOnly (x >>= f) := by
  intro env w h
  obtain ⟨a, w', hr, hq⟩ := hx env w h
  obtain ⟨b, w'', hr', hq'⟩ := hf a env w' hq.step.idle
  exact ⟨b, w'', by rw [run_bind_ok hr, hr'], hq.trans hq'⟩

theorem ReadOnly.forM {f : α → Fw PUnit} {l : List α} (hf : ∀ a ∈ l, ReadOnly (f a)) : ReadOnly (forM l f) := by
  induction l with
  | nil => exact readOnly_pure _
  | cons a l ih =>
    rw [List.forM_cons]
    exact (hf a List.mem_cons_self).bind fun _ => ih fun b hb => hf b (List.mem_cons_of_mem a hb)

theorem readOnly_askEnv : ReadOnly askEnv := fun env w h => ⟨env, w, rfl, .refl h⟩

theorem readOnly_emit {e : Event} (he : e.Silent) : ReadOnly (emit e) :=
  fun _ w h => ⟨(), w.push e, rfl, .push h he⟩

theorem readOnly_printf (port : Port) (text : String) (args : List Int) : ReadOnly (printf port text args) :=
  readOnly_emit ⟨rfl, rfl, rfl⟩

theorem readOnly_pinWrite (p : Pin) (v : Bool) : ReadOnly (pinWrite p v) :=
  readOnly_emit ⟨rfl, rfl, rfl⟩

theorem ReadOnly.wp {x : Fw α} (hx : ReadOnly x) {Q : α → World → Prop} {E : Stop → World → Prop} {env : Env}
    {w : World} (h : w.Idle) (hq : ∀ a w', Quiet w w' → Q a w') : Effects.wp x Q E env w := by
  obtain ⟨a, w', hr, hw⟩ := hx env w h
  exact wp_of_ok hr (hq a w' hw)

end ReadOnly

end Graviton
