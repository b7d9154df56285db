/-
  Graviton.Converters — the drivers of the other chips on the bus: the clock chips
  (`lmk04826b.cpp`, `lmk04133.cpp`), the ADC (`ads42lb69.cpp`) and the DAC (`dac3484.cpp`).

  Each sets the bus format by hand, selects its chip for every row of its table, and puts
  format (8,1) back. A row is one `spi->write` of the table's flat array. `Driver P x` says
  that `x`, run on an idle bus, returns with the bus idle and the global variables
  untouched, having logged only events that satisfy `P`; `Event.To s` is the `P` every
  driver of chip `s` meets, and no register write to an AMC7891 is among such events.
-/
import Graviton.Amc7891

namespace Graviton

open Effects

/-! ## Register tables -/

def lmk04826bRom : List (List UInt8) :=
  [[0x00, 0x00, 0x80], [0x00, 0x00, 0x00], [0x00, 0x02, 0x00], [0x01, 0x00, 0x14], [0x01, 0x01, 0x55],
    [0x01, 0x03, 0x00], [0x01, 0x04, 0x02], [0x01, 0x05, 0x00], [0x01, 0x06, 0xF1], [0x01, 0x07, 0x00],
    [0x01, 0x08, 0x0A], [0x01, 0x09, 0x55], [0x01, 0x0B, 0x00], [0x01, 0x0C, 0x02], [0x01, 0x0D, 0x00],
    [0x01, 0x0E, 0xF1], [0x01, 0x0F, 0x06], [0x01, 0x10, 0x14], [0x01, 0x11, 0x55], [0x01, 0x13, 0x00],
    [0x01, 0x14, 0x02], [0x01, 0x15, 0x00], [0x01, 0x16, 0xF1], [0x01, 0x17, 0x00], [0x01, 0x18, 0x0A],
    [0x01, 0x19, 0x55], [0x01, 0x1B, 0x00], [0x01, 0x1C, 0x02], [0x01, 0x1D, 0x00], [0x01, 0x1E, 0xF1],
    [0x01, 0x1F, 0x05], [0x01, 0x20, 0x14], [0x01, 0x21, 0x55], [0x01, 0x23, 0x00], [0x01, 0x24, 0x02],
    [0x01, 0x25, 0x00], [0x01, 0x26, 0xF1], [0x01, 0x27, 0x00], [0x01, 0x28, 0x14], [0x01, 0x29, 0x55],
    [0x01, 0x2B, 0x00], [0x01, 0x2C, 0x02], [0x01, 0x2D, 0x00], [0x01, 0x2E, 0xF1], [0x01, 0x2F, 0x0E],
    [0x01, 0x30, 0x14], [0x01, 0x31, 0x55], [0x01, 0x33, 0x00], [0x01, 0x34, 0x02], [0x01, 0x35, 0x00],
    [0x01, 0x36, 0xF1], [0x01, 0x37, 0x06], [0x01, 0x38, 0x34], [0x01, 0x39, 0x00], [0x01, 0x3A, 0x0C],
    [0x01, 0x3B, 0x00], [0x01, 0x3C, 0x00], [0x01, 0x3D, 0x08], [0x01, 0x3E, 0x03], [0x01, 0x3F, 0x03],
    [0x01, 0x40, 0x0F], [0x01, 0x41, 0x00], [0x01, 0x42, 0x00], [0x01, 0x43, 0x11], [0x01, 0x43, 0x31],
    [0x01, 0x43, 0x11], [0x01, 0x44, 0x00], [0x01, 0x45, 0x7F], [0x01, 0x46, 0x1B], [0x01, 0x47, 0x1A],
    [0x01, 0x48, 0x02], [0x01, 0x49, 0x42], [0x01, 0x4A, 0x02], [0x01, 0x4B, 0x16], [0x01, 0x4C, 0x00],
    [0x01, 0x4D, 0x00], [0x01, 0x4E, 0xC0], [0x01, 0x4F, 0x7F], [0x01, 0x50, 0x01], [0x01, 0x51, 0x02],
    [0x01, 0x52, 0x00], [0x01, 0x53, 0x00], [0x01, 0x54, 0x01], [0x01, 0x55, 0x00], [0x01, 0x56, 0x01],
    [0x01, 0x57, 0x00], [0x01, 0x58, 0x96], [0x01, 0x59, 0x00], [0x01, 0x5A, 0x0A], [0x01, 0x5B, 0xD4],
    [0x01, 0x5C, 0x20], [0x01, 0x5D, 0x00], [0x01, 0x5E, 0x00], [0x01, 0x5F, 0x0B], [0x01, 0x60, 0x00],
    [0x01, 0x61, 0x08], [0x01, 0x62, 0x30], [0x01, 0x63, 0x00], [0x01, 0x64, 0x00], [0x01, 0x65, 0x19],
    [0x01, 0x7C, 0x18], [0x01, 0x7D, 0x77], [0x01, 0x66, 0x00], [0x01, 0x67, 0x00], [0x01, 0x68, 0x19],
    [0x01, 0x69, 0x59], [0x01, 0x6A, 0x20], [0x01, 0x6B, 0x00], [0x01, 0x6C, 0x00], [0x01, 0x6D, 0x00],
    [0x01, 0x6E, 0x13], [0x01, 0x73, 0x00], [0x1F, 0xFD, 0x00], [0x1F, 0xFE, 0x00], [0x1F, 0xFF, 0x53]]

def lmk04133Rom : List (List UInt8) :=
  [[0x00, 0x00, 0x00, 0x17], [0x01, 0x01, 0x01, 0x00], [0x01, 0x01, 0x01, 0x01], [0x01, 0x01, 0x01, 0x02],
    [0x01, 0x01, 0x01, 0x03], [0x01, 0x01, 0x01, 0x04], [0x00, 0x00, 0x00, 0x07], [0x01, 0x50, 0x00, 0x0A],
    [0x00, 0x65, 0x01, 0x6B], [0xE0, 0x78, 0x07, 0x8C], [0x0A, 0x04, 0x40, 0x0D], [0x0F, 0xA3, 0x00, 0xAE],
    [0x1C, 0x80, 0x04, 0xFF]]

def ads42lb69Rom : List (List UInt8) :=
  [[0x06, 0x80], [0x08, 0x08], [0x15, 0x01], [0x20, 0x01], [0x0F, 0x00]]

/-- `0x03` is config3: `[15:12]` is the coarse current, bit 0 is `sif_txenable`. -/
def dac3484Rom : List (List UInt8) :=
  [[0x00, 0x01, 0x9D], [0x01, 0x0C, 0x00], [0x02, 0x80, 0x82], [0x07, 0x00, 0x00], [0x1F, 0x44, 0x44],
    [0x20, 0x11, 0x00], [0x24, 0x1C, 0x00], [0x1B, 0x08, 0x00], [0x03, 0x00, 0x00], [0x05, 0x00, 0x00]]

/-! ## The drivers -/

def Lmk04826b.init : Fw Unit := do
  spiFormat 8 0
  pinWrite .lmk04826bRst false
  forM lmk04826bRom fun row => do
    let _ ← transact .lmk04826b row 0
  spiFormat 8 1

def Lmk04133.init : Fw Unit := do
  spiFormat 8 0
  pinWrite .lmk04133Rst true
  forM lmk04133Rom fun row => do
    let _ ← transact .lmk04133 row 0
  spiFormat 8 1

def Ads42lb69.init : Fw Unit := do
  spiFormat 8 0
  pinWrite .ads42lb69Rst false
  pinWrite .ads42lb69Rst true
  pinWrite .ads42lb69Rst false
  forM ads42lb69Rom fun row => do
    let _ ← transact .ads42lb69 row 0
  spiFormat 8 1

namespace Dac3484

/-- `config3[1]` in `set_current`. -/
def coarse (val : UInt8) : UInt8 := (0x00 : UInt8) ||| ((0xF0 : UInt8) &&& (val <<< 4))

def setCurrent (serial : Port) (val : UInt8) : Fw Unit :=
  if 16 ≤ val then pure ()
  else do
    printf serial "setting_current: %d\r\n" [val.toNat]
    spiFormat 8 0
    let _ ← transact .dac3484 [0x03, coarse val, 0x00] 0
    spiFormat 8 1

def getTemp : Fw Int8 := do
  spiFormat 8 0
  let val ← transact .dac3484 [0x86, 0x00, 0x00] 3
  spiFormat 8 1
  return (val.getD 1 0).toInt8

def readAlarms : Fw UInt16 := do
  spiFormat 8 0
  let val ← transact .dac3484 [0x85, 0x00, 0x00] 3
  spiFormat 8 1
  return word (val.getD 1 0) (val.getD 2 0)

def clearAlarms : Fw Unit := do
  spiFormat 8 0
  let _ ← transact .dac3484 [0x05, 0x00, 0x00] 0
  spiFormat 8 1

/-- The loop of `init` and `read_config` that reads the table's registers back. -/
def readBack (serial : Port) : Fw Unit := do
  printf serial "reading back DAC registers\r\n" []
  forM dac3484Rom fun row => do
    let read ← transact .dac3484 [0x80 ||| row.getD 0 0, 0x00, 0x00] 3
    printf serial "address 0x%02x, wrote 0x%02x 0x%02x, read 0x%02x 0x%02x 0x%02x\r\n"
      ((row ++ read).map fun b => (b.toNat : Int))

def init (serial : Port) : Fw Unit := do
  spiFormat 8 1
  pinWrite .dac3484Rst false
  pinWrite .dac3484Rst true
  printf serial "programming DAC over SPI\r\n" []
  forM dac3484Rom fun row => do
    let _ ← transact .dac3484 row 0
  readBack serial
  spiFormat 8 1

def readConfig (serial : Port) : Fw Unit := do
  spiFormat 8 1
  readBack serial
  spiFormat 8 1

end Dac3484

/-! ## What a driver logs -/

/-- A pin, a printout, or a transfer with only `s` selected. -/
def Event.To (s : Select) : Event → Prop
  | .frame f _ => f.low = [s]
  | .pin _ _ => True
  | .printf _ _ _ => True
  | _ => False

/-- From `w` the log grew by events that satisfy `P`; no variable or select changed. -/
structure Grew (P : Event → Prop) (w w' : World) : Prop where
  low : w'.low = w.low
  mem : w'.mem = w.mem
  log : ∃ es, w'.log = es ++ w.log ∧ ∀ e ∈ es, P e

variable {P : Event → Prop} {α β : Type}

theorem Grew.refl (w : World) : Grew P w w := ⟨rfl, rfl, [], rfl, fun _ h => absurd h List.not_mem_nil⟩

theorem Grew.push (w : World) {e : Event} (he : P e) : Grew P w (w.push e) :=
  ⟨rfl, rfl, [e], rfl, fun x hx => by rw [List.mem_singleton.mp hx]; exact he⟩

theorem Grew.trans {w w' w'' : World} (h : Grew P w w') (h' : Grew P w' w'') : Grew P w w'' := by
  obtain ⟨es, hl, hp⟩ := h.log
  obtain ⟨es', hl', hp'⟩ := h'.log
  refine ⟨h'.low.trans h.low, h'.mem.trans h.mem, es' ++ es, by rw [hl', hl, List.append_assoc], fun e he => ?_⟩
  rcases List.mem_append.mp he with he | he
  · exact hp' e he
  · exact hp e he

/-- Run with no chip selected, in any format: returns in that format. -/
def Speaks (P : Event → Prop) (x : Fw α) : Prop :=
  ∀ env w, w.low = [] → ∃ a w', x env w = .ok a w' ∧ w'.format = w.format ∧ Grew P w w'

/-- Run with no chip selected, in any format: returns with the bus idle. -/
def Closes (P : Event → Prop) (x : Fw α) : Prop :=
  ∀ env w, w.low = [] → ∃ a w', x env w = .ok a w' ∧ w'.Idle ∧ Grew P w w'

/-- Run on an idle bus: returns with the bus idle. -/
def Driver (P : Event → Prop) (x : Fw α) : Prop :=
  ∀ env w, w.Idle → ∃ a w', x env w = .ok a w' ∧ w'.Idle ∧ Grew P w w'

theorem speaks_pure (a : α) : Speaks P (pure a : Fw α) := fun _ w _ => ⟨a, w, rfl, rfl, .refl w⟩

theorem Speaks.bind {x : Fw α} {f : α → Fw β} (hx : Speaks P x) (hf : ∀ a, Speaks P (f a)) : Speaks P (x >>= f) := by
  intro env w h
  obtain ⟨a, w', hr, hf', hg⟩ := hx env w h
  obtain ⟨b, w'', hr', hf'', hg'⟩ := hf a env w' (hg.low.trans h)
  exact ⟨b, w'', by rw [run_bind_ok hr, hr'], hf''.trans hf', hg.trans hg'⟩

theorem Speaks.forM {f : α → Fw PUnit} {l : List α} (hf : ∀ a ∈ l, Speaks P (f a)) : Speaks P (forM l f) := by
  induction l with
  | nil => exact speaks_pure _
  | cons a l ih =>
    rw [List.forM_cons]
    exact (hf a List.mem_cons_self).bind fun _ => ih fun b hb => hf b (List.mem_cons_of_mem a hb)

theorem speaks_emit {e : Event} (he : P e) : Speaks P (emit e) := fun _ w _ => ⟨(), w.push e, rfl, rfl, .push w he⟩

theorem speaks_transact {s : Select} {tx : List UInt8} {n : Nat}
    (h : ∀ (format : Format) (rx : List UInt8), P (.frame ⟨format, [s], tx ++ List.replicate (n - tx.length) 0xFF⟩ rx)) :
    Speaks P (transact s tx n) :=
  fun env w hw => ⟨_, _, transact_run s tx n env hw, rfl, .push w (h w.format _)⟩

theorem closes_format : Closes P (spiFormat 8 1) := fun _ w h =>
  ⟨(), { w with format := ⟨8, 1⟩ }, rfl, ⟨rfl, h⟩, rfl, rfl, [], rfl, fun _ he => absurd he List.not_mem_nil⟩

/-- A driver opens with a format of its own, whatever the format was. -/
theorem Closes.after_format {x : Fw α} (hx : Closes P x) (m : Nat) : Closes P (spiFormat 8 m >>= fun _ => x) := by
  intro env w h
  obtain ⟨a, w', hr, hi, hg⟩ := hx env { w with format := ⟨8, m⟩ } h
  exact ⟨a, w', by rw [run_bind]; exact hr, hi, hg.low, hg.mem, hg.log⟩

theorem Closes.after {x : Fw α} {f : α → Fw β} (hx : Speaks P x) (hf : ∀ a, Closes P (f a)) : Closes P (x >>= f) := by
  intro env w h
  obtain ⟨a, w', hr, _, hg⟩ := hx env w h
  obtain ⟨b, w'', hr', hi, hg'⟩ := hf a env w' (hg.low.trans h)
  exact ⟨b, w'', by rw [run_bind_ok hr, hr'], hi, hg.trans hg'⟩

theorem Closes.then_pure {x : Fw α} (hx : Closes P x) (f : α → β) : Closes P (x >>= fun a => pure (f a)) := by
  intro env w h
  obtain ⟨a, w', hr, hi, hg⟩ := hx env w h
  exact ⟨f a, w', by rw [run_bind_ok hr]; rfl, hi, hg⟩

theorem Closes.driver {x : Fw α} (hx : Closes P x) : Driver P x := fun env w h => hx env w h.low

theorem Driver.mono {P' : Event → Prop} {x : Fw α} (hx : Driver P x) (h : ∀ e, P e → P' e) : Driver P' x := by
  intro env w hw
  obtain ⟨a, w', hr, hi, hl, hm, es, he, hp⟩ := hx env w hw
  exact ⟨a, w', hr, hi, hl, hm, es, he, fun e h' => h e (hp e h')⟩

/-! ## Each driver talks to its own chip -/

theorem speaks_pinWrite {s : Select} (p : Pin) (v : Bool) : Speaks (Event.To s) (pinWrite p v) := speaks_emit trivial

theorem speaks_printf {s : Select} (port : Port) (text : String) (args : List Int) :
    Speaks (Event.To s) (printf port text args) := speaks_emit trivial

theorem speaks_to {s : Select} (tx : List UInt8) (n : Nat) : Speaks (Event.To s) (transact s tx n) :=
  speaks_transact fun _ _ => rfl

theorem speaks_rows (s : Select) (rows : List (List UInt8)) :
    Speaks (Event.To s) (forM rows fun row => do let _ ← transact s row 0) :=
  .forM fun row _ => (speaks_to row 0).bind fun _ => speaks_pure _

theorem driver_lmk04826b : Driver (Event.To .lmk04826b) Lmk04826b.init :=
  (Closes.after_format (.after (speaks_pinWrite _ _) fun _ => .after (speaks_rows _ _) fun _ => closes_format) 0).driver

theorem driver_lmk04133 : Driver (Event.To .lmk04133) Lmk04133.init :=
  (Closes.after_format (.after (speaks_pinWrite _ _) fun _ => .after (speaks_rows _ _) fun _ => closes_format) 0).driver

theorem driver_ads42lb69 : Driver (Event.To .ads42lb69) Ads42lb69.init :=
  (Closes.after_format (.after (speaks_pinWrite _ _) fun _ => .after (speaks_pinWrite _ _) fun _ =>
    .after (speaks_pinWrite _ _) fun _ => .after (speaks_rows _ _) fun _ => closes_format) 0).driver

/-- A DAC3484 transfer that is no write to config3. -/
def Event.DacOther (e : Event) : Prop := e.To .dac3484 ∧ e.config3 = none

theorem speaks_dacOther {addr x y : UInt8} {n : Nat} (hn : n ≤ 3) (ha : addr ≠ 0x03) :
    Speaks Event.DacOther (transact .dac3484 [addr, x, y] n) := by
  refine speaks_transact fun format rx => ⟨rfl, ?_⟩
  have h0 : n - [addr, x, y].length = 0 := Nat.sub_eq_zero_of_le hn
  rw [h0]
  simp [Event.config3, ha]

theorem driver_getTemp : Driver Event.DacOther Dac3484.getTemp :=
  (Closes.after_format (.after (speaks_dacOther (by decide) (by decide)) fun _ => closes_format.then_pure _) 0).driver

theorem driver_readAlarms : Driver Event.DacOther Dac3484.readAlarms :=
  (Closes.after_format (.after (speaks_dacOther (by decide) (by decide)) fun _ => closes_format.then_pure _) 0).driver

theorem driver_clearAlarms : Driver Event.DacOther Dac3484.clearAlarms :=
  (Closes.after_format (.after (speaks_dacOther (by decide) (by decide)) fun _ => closes_format) 0).driver

theorem speaks_readBack (serial : Port) : Speaks Event.DacOther (Dac3484.readBack serial) := by
  refine .bind (speaks_emit ⟨trivial, rfl⟩) fun _ => .forM fun row _ => ?_
  refine .bind (speaks_dacOther (by decide) fun h => ?_) fun _ => speaks_emit ⟨trivial, rfl⟩
  -- a read-back sets bit 7 of the address
  have := read_bit (row.getD 0 0)
  rw [h] at this
  exact this (by decide)

theorem driver_readConfig (serial : Port) : Driver Event.DacOther (Dac3484.readConfig serial) :=
  (Closes.after_format (.after (speaks_readBack serial) fun _ => closes_format) 1).driver

theorem driver_dacInit (serial : Port) : Driver (Event.To .dac3484) (Dac3484.init serial) := by
  have hb : Speaks (Event.To .dac3484) (Dac3484.readBack serial) := by
    intro env w h
    obtain ⟨a, w', hr, hf, hl, hm, es, he, hp⟩ := speaks_readBack serial env w h
    exact ⟨a, w', hr, hf, hl, hm, es, he, fun e h' => (hp e h').1⟩
  exact (Closes.after_format (.after (speaks_pinWrite _ _) fun _ => .after (speaks_pinWrite _ _) fun _ =>
    .after (speaks_printf _ _ _) fun _ => .after (speaks_rows _ _) fun _ => .after hb fun _ => closes_format) 1).driver

theorem driver_setCurrent (serial : Port) (val : UInt8) : Driver (Event.To .dac3484) (Dac3484.setCurrent serial val) := by
  unfold Dac3484.setCurrent
  split
  · exact fun _ w h => ⟨(), w, rfl, h, .refl w⟩
  · exact fun env w h => (Closes.after (speaks_printf _ _ _) fun _ =>
      .after_format (.after (speaks_to _ _) fun _ => closes_format) 0).driver env w h

/-! ## Drivers and the AMC7891 registers -/

theorem Event.To.write {s : Select} (hs : ∀ c, s ≠ .afe c) {e : Event} (h : e.To s) : e.write = none := by
  cases e with
  | frame f rx =>
    have hl : f.low = [s] := h
    simp only [Event.write, Frame.write, hl]
    split
    · split
      · rename_i c _ _ _ hc _; simp only [List.cons.injEq, and_true] at hc; exact absurd hc (hs c)
      · rfl
    · rfl
  | _ => rfl

theorem Event.To.received {s : Select} {e : Event} (h : e.To s) : e.received = none := by
  cases e with
  | getc c => cases h
  | _ => rfl

theorem Event.To.config3 {s : Select} (hs : s ≠ .dac3484) {e : Event} (h : e.To s) : e.config3 = none := by
  cases e with
  | frame f rx =>
    have hl : f.low = [s] := h
    simp only [Event.config3, hl]
    split
    · rename_i hd _; simp only [List.cons.injEq, and_true] at hd; exact absurd hd hs
    · rfl
  | _ => rfl

theorem filterMap_eq_nil {γ : Type} {f : Event → Option γ} {es : List Event} (h : ∀ e ∈ es, f e = none) :
    es.filterMap f = [] := List.filterMap_eq_nil_iff.mpr h

/-- A driver whose events are silent only reads. -/
theorem Driver.readOnly {x : Fw α} (hx : Driver P x) (hP : ∀ e, P e → e.Silent) : ReadOnly x := by
  intro env w h
  obtain ⟨a, w', hr, hi, _, hm, es, hl, hp⟩ := hx env w h
  refine ⟨a, w', hr, ⟨hi, ?_, ?_, ?_, ⟨es, hl.symm⟩⟩, hm⟩
  · simp [World.writes, hl, filterMap_eq_nil fun e he => (hP e (hp e he)).1]
  · simp [World.config3, hl, filterMap_eq_nil fun e he => (hP e (hp e he)).2.1]
  · simp [World.received, hl, filterMap_eq_nil fun e he => (hP e (hp e he)).2.2]

theorem to_silent {s : Select} (hs : ∀ c, s ≠ .afe c) (hd : s ≠ .dac3484) (e : Event) (h : e.To s) : e.Silent :=
  ⟨h.write hs, h.config3 hd, h.received⟩

theorem dacOther_silent (e : Event) (h : e.DacOther) : e.Silent :=
  ⟨h.1.write (by simp), h.2, h.1.received⟩

theorem readOnly_lmk04826b : ReadOnly Lmk04826b.init := driver_lmk04826b.readOnly (to_silent (by simp) (by simp))
theorem readOnly_lmk04133 : ReadOnly Lmk04133.init := driver_lmk04133.readOnly (to_silent (by simp) (by simp))
theorem readOnly_ads42lb69 : ReadOnly Ads42lb69.init := driver_ads42lb69.readOnly (to_silent (by simp) (by simp))
theorem readOnly_getTemp : ReadOnly Dac3484.getTemp := driver_getTemp.readOnly dacOther_silent
theorem readOnly_readAlarms : ReadOnly Dac3484.readAlarms := driver_readAlarms.readOnly dacOther_silent
theorem readOnly_clearAlarms : ReadOnly Dac3484.clearAlarms := driver_clearAlarms.readOnly dacOther_silent

theorem readOnly_readConfig (serial : Port) : ReadOnly (Dac3484.readConfig serial) :=
  (driver_readConfig serial).readOnly dacOther_silent

/-! ## What reaches config3 -/

/-- Rows sent in format (8,1): the config3 values among them, and nothing else. -/
theorem rows_run (rows : List (List UInt8)) (env : Env) {w : World} (h : w.Idle) :
    ∃ w', (forM rows fun row => do let _ ← transact .dac3484 row 0 : Fw Unit) env w = .ok () w' ∧
      Step w w' [] (rows.filterMap fun row => Event.config3 (.frame ⟨⟨8, 1⟩, [.dac3484], row⟩ [])).reverse ∧
      w'.mem = w.mem := by
  induction rows generalizing w with
  | nil => exact ⟨w, rfl, .refl h, rfl⟩
  | cons row rows ih =>
    have hf : w.frameTo .dac3484 row 0 = ⟨⟨8, 1⟩, [.dac3484], row⟩ := by simp [World.frameTo, h.format]
    have ht := transact_run .dac3484 row 0 env h.low
    rw [hf] at ht
    have h1 := Step.push (e := .frame ⟨⟨8, 1⟩, [.dac3484], row⟩ []) h rfl
    have hw : Event.write (.frame ⟨⟨8, 1⟩, [.dac3484], row⟩ []) = none :=
      Event.To.write (s := .dac3484) (by simp) rfl
    rw [hw] at h1
    obtain ⟨w', hr, h2, hm⟩ := ih h1.idle
    refine ⟨w', ?_, ?_, hm⟩
    · rw [List.forM_cons, bind_assoc, run_bind_ok ht]
      exact hr
    · have h3 := h1.trans h2
      cases hc : Event.config3 (.frame ⟨⟨8, 1⟩, [.dac3484], row⟩ []) <;> simpa [hc] using h3

theorem readOnly_format : ReadOnly (spiFormat 8 1) := by
  intro env w h
  refine ⟨(), w, ?_, .refl h⟩
  obtain ⟨format, low, log, mem⟩ := w
  obtain rfl : format = ⟨8, 1⟩ := h.format
  rfl

theorem readOnly_readBack (serial : Port) : ReadOnly (Dac3484.readBack serial) := by
  have hd : Driver Event.DacOther (Dac3484.readBack serial) := fun env w h => by
    obtain ⟨a, w', hr, hf, hg⟩ := speaks_readBack serial env w h.low
    exact ⟨a, w', hr, ⟨hf.trans h.format, hg.low.trans h.low⟩, hg⟩
  exact hd.readOnly dacOther_silent

/-- `init` before and after it sends the table. -/
def Dac3484.opening (serial : Port) : Fw Unit := do
  spiFormat 8 1
  pinWrite .dac3484Rst false
  pinWrite .dac3484Rst true
  printf serial "programming DAC over SPI\r\n" []

def Dac3484.closing (serial : Port) : Fw Unit := do
  Dac3484.readBack serial
  spiFormat 8 1

theorem dacInit_eq (serial : Port) : Dac3484.init serial = (do
    Dac3484.opening serial
    forM dac3484Rom fun row => do
      let _ ← transact .dac3484 row 0
    Dac3484.closing serial) := by
  simp only [Dac3484.init, Dac3484.opening, Dac3484.closing, bind_assoc]

theorem readOnly_dacOpening (serial : Port) : ReadOnly (Dac3484.opening serial) :=
  readOnly_format.bind fun _ => (readOnly_pinWrite .dac3484Rst false).bind fun _ =>
    (readOnly_pinWrite .dac3484Rst true).bind fun _ => readOnly_printf serial "programming DAC over SPI\r\n" []

theorem readOnly_dacClosing (serial : Port) : ReadOnly (Dac3484.closing serial) :=
  (readOnly_readBack serial).bind fun _ => readOnly_format

/-- `init` leaves config3 at 0. -/
theorem dacInit_run (serial : Port) (env : Env) {w : World} (h : w.Idle) :
    ∃ w', Dac3484.init serial env w = .ok () w' ∧ Step w w' [] [0] ∧ w'.mem = w.mem := by
  obtain ⟨_, w1, hr1, q1⟩ := readOnly_dacOpening serial env w h
  obtain ⟨w2, hr2, s2, hm2⟩ := rows_run dac3484Rom env q1.step.idle
  obtain ⟨_, w3, hr3, q3⟩ := readOnly_dacClosing serial env w2 s2.idle
  refine ⟨w3, ?_, q1.step.trans (s2.trans q3.step), q3.mem.trans (hm2.trans q1.mem)⟩
  rw [dacInit_eq, run_bind_ok hr1, run_bind_ok hr2]
  exact hr3

/-- A current below 16 goes to bits 15:12 of config3, with bit 0 clear. -/
theorem setCurrent_run (serial : Port) {val : UInt8} (hv : ¬ 16 ≤ val) (env : Env) {w : World} (h : w.Idle) :
    ∃ w', Dac3484.setCurrent serial val env w = .ok () w' ∧
      Step w w' [] [word (Dac3484.coarse val) 0x00] ∧ w'.mem = w.mem := by
  obtain ⟨_, w1, hr1, q1⟩ := readOnly_printf serial "setting_current: %d\r\n" [val.toNat] env w h
  let f : Frame := ⟨⟨8, 0⟩, [.dac3484], [0x03, Dac3484.coarse val, 0x00]⟩
  have h2 := Step.push (e := .frame f []) q1.step.idle rfl
  have hw : Event.write (.frame f []) = none := Event.To.write (s := .dac3484) (by simp) rfl
  have hc : Event.config3 (.frame f []) = some (word (Dac3484.coarse val) 0x00) := by
    simp [Event.config3, f]
  rw [hw, hc] at h2
  refine ⟨w1.push (.frame f []), ?_, q1.step.trans h2, q1.mem⟩
  unfold Dac3484.setCurrent
  rw [if_neg hv, run_bind_ok hr1]
  obtain ⟨format, low, log, mem⟩ := w1
  obtain rfl : format = ⟨8, 1⟩ := q1.step.idle.format
  obtain rfl : low = [] := q1.step.idle.low
  rw [run_bind_ok (show spiFormat 8 0 env _ = .ok () _ from rfl), run_bind_ok (transact_run _ _ _ env rfl)]
  rfl

end Graviton
