/-
  Graviton.Chips — the three AMC7891 chips behind the shared bus are three register files.

  A `Chip` understands a frame only in format (8,1) and only if no other chip is selected
  with it; anything else it hears leaves it garbage. It answers a read one frame late, from
  the address it latched. A `Board` is three of them, some of whose registers change on
  their own after every event, and an outside world for everything else; `Board.toEnv` is
  the environment they make up together.

  `register_files`: whatever operations of the drivers run, in whatever order, no chip is
  ever garbage, what the firmware stored and loaded is a run of three independent register
  files (`Registers.Run`), every load returns what its register held when it was asked for,
  and the files hold the register writes read off the log.
-/
import Graviton.Lib.Registers
import Graviton.Checks

namespace Graviton

open Effects History Registers

/-! ## A chip -/

structure Chip where
  regs : UInt8 → UInt16
  /-- The address the next frame is answered from. -/
  latched : UInt8

/-- What a frame does to chip `c`; `none` is garbage. -/
def Chip.receive (c : Afe) (f : Frame) (s : Option Chip) : Option Chip :=
  if .afe c ∉ f.low then s
  else if f.format = ⟨8, 1⟩ ∧ f.low = [.afe c] then
    match s, f.mosi with
    | some chip, [addr, hi, lo] =>
      if addr < 0x80 then some { chip with regs := Function.update chip.regs addr (word hi lo) }
      else some { chip with latched := addr &&& 0x7F }
    | _, _ => none
  else none

/-- Byte `i` of its answer to a frame: the last two are the latched register. -/
def Chip.answer (chip : Chip) (f : Frame) (i : Nat) : Option UInt8 :=
  if i + 2 = f.mosi.length then some (hiByte (chip.regs chip.latched))
  else if i + 1 = f.mosi.length then some (loByte (chip.regs chip.latched))
  else none

/-! ## The board -/

structure Board where
  /-- The outside world but for the chips. -/
  env : Env
  start : Afe → Chip
  /-- The registers a chip changes on its own, and what they hold after each event. -/
  sensor : Afe → UInt8 → Bool
  sense : List Event → Afe → UInt8 → UInt16

namespace Board

def drift (b : Board) (l : List Event) (c : Afe) (chip : Chip) : Chip :=
  { chip with regs := fun a => if b.sensor c a then b.sense l c a else chip.regs a }

def hear (c : Afe) (e : Event) (s : Option Chip) : Option Chip :=
  match e with
  | .frame f _ => Chip.receive c f s
  | _ => s

/-- Chip `c` after the log `l`. -/
def chip (b : Board) (c : Afe) : List Event → Option Chip
  | [] => some (b.start c)
  | e :: l => (hear c e (b.chip c l)).map (b.drift (e :: l) c)

/-- The chips answer the frames they understand, the rest of the world the others. -/
def toEnv (b : Board) : Env :=
  { b.env with
    miso := fun l f i =>
      match f.format, f.low with
      | ⟨8, 1⟩, [.afe c] => ((b.chip c l).bind fun chip => chip.answer f i).getD (b.env.miso l f i)
      | _, _ => b.env.miso l f i }

/-- No chip is garbage. -/
def Well (b : Board) (l : List Event) : Prop := ∀ c, (b.chip c l).isSome

/-- What the registers hold. -/
def files (b : Board) (l : List Event) : Files Afe UInt8 UInt16 := fun c a =>
  match b.chip c l with
  | some chip => chip.regs a
  | none => 0

def Volatile (b : Board) (c : Afe) (a : UInt8) : Prop := b.sensor c a = true

end Board

variable {b : Board} {l : List Event} {e : Event}

theorem Board.Well.chip (h : b.Well l) (c : Afe) : ∃ chip, b.chip c l = some chip ∧ b.files l c = chip.regs := by
  obtain ⟨chip, hc⟩ := Option.isSome_iff_exists.mp (h c)
  refine ⟨chip, hc, ?_⟩
  funext a
  unfold Board.files
  rw [hc]

/-- After an event that leaves each chip well with the registers `g`, what the chips change
    on their own is all that is left to happen. -/
theorem drift_files {g : Files Afe UInt8 UInt16}
    (h : ∀ c, ∃ chip, Board.hear c e (b.chip c l) = some chip ∧ chip.regs = g c) :
    b.Well (e :: l) ∧ Drift b.Volatile g (b.files (e :: l)) := by
  have hchip : ∀ c, ∃ chip, b.chip c (e :: l) = some (b.drift (e :: l) c chip) ∧ chip.regs = g c := by
    intro c
    obtain ⟨chip, hc, hg⟩ := h c
    exact ⟨chip, by rw [Board.chip, hc]; rfl, hg⟩
  constructor
  · intro c
    obtain ⟨chip, hc, _⟩ := hchip c
    rw [hc]
    rfl
  · intro c a hv
    obtain ⟨chip, hc, hg⟩ := hchip c
    unfold Board.files
    rw [hc, ← hg]
    exact if_neg hv

/-! ## Pieces of a log -/

/-- From `l` to `l'` no chip was ever garbage, and the firmware did `as`; a load returned what
    the register held after the frame that asked for it. -/
structure Serves (b : Board) (l : List Event) (as : List (Action Afe UInt8 UInt16)) (l' : List Event) : Prop where
  grew : l <:+ l'
  well : ∀ k, l <:+ k → k <:+ l' → b.Well k
  run : Run b.Volatile (b.files l) as (b.files l')
  loads : ∀ c a v, Action.load c a v ∈ as → ∃ rx k, l <:+ k ∧ .frame (readFrame c a) rx :: k <:+ l' ∧
    b.files (.frame (readFrame c a) rx :: k) c a = v

theorem Serves.refl (h : b.Well l) : Serves b l [] l :=
  ⟨List.suffix_rfl, fun k hk hk' => by rwa [hk'.eq_of_length (Nat.le_antisymm hk'.length_le hk.length_le)], .done _,
    fun _ _ _ hm => absurd hm List.not_mem_nil⟩

theorem Serves.trans {l' l'' : List Event} {as bs : List (Action Afe UInt8 UInt16)} (h : Serves b l as l')
    (h' : Serves b l' bs l'') : Serves b l (as ++ bs) l'' where
  grew := h.grew.trans h'.grew
  well := by
    intro k hk hk'
    rcases List.suffix_or_suffix_of_suffix hk' h'.grew with hs | hs
    · exact h.well k hk hs
    · exact h'.well k hs hk'
  run := h.run.append h'.run
  loads := by
    intro c a v hm
    rcases List.mem_append.mp hm with hm | hm
    · obtain ⟨rx, k, hk, hk', hv⟩ := h.loads c a v hm
      exact ⟨rx, k, hk, hk'.trans h'.grew, hv⟩
    · obtain ⟨rx, k, hk, hk', hv⟩ := h'.loads c a v hm
      exact ⟨rx, k, h.grew.trans hk, hk', hv⟩

theorem Serves.last {l' : List Event} {as : List (Action Afe UInt8 UInt16)} (h : Serves b l as l') : b.Well l' :=
  h.well l' h.grew List.suffix_rfl

/-- An event that answers no load. -/
theorem serves_event {as : List (Action Afe UInt8 UInt16)} (h : b.Well l) (h' : b.Well (e :: l))
    (hr : Run b.Volatile (b.files l) as (b.files (e :: l))) (hl : ∀ c a v, Action.load c a v ∉ as) :
    Serves b l as (e :: l) where
  grew := List.suffix_cons e l
  well := by
    intro k hk hk'
    rcases List.suffix_cons_iff.mp hk' with rfl | hs
    · exact h'
    · exact (Serves.refl h).well k hk hs
  run := hr
  loads c a v hm := absurd hm (hl c a v)

/-- An event the chips do not hear. -/
def Event.Elsewhere (e : Event) : Prop := ∀ c s, Board.hear c e s = s

theorem serves_elsewhere (h : b.Well l) (he : e.Elsewhere) : Serves b l [] (e :: l) := by
  have hd : b.Well (e :: l) ∧ Drift b.Volatile (b.files l) (b.files (e :: l)) := drift_files fun c => by
    obtain ⟨chip, hc, hf⟩ := h.chip c
    exact ⟨chip, by rw [he, hc], hf.symm⟩
  exact serves_event h hd.1 (.of_drift hd.2) fun _ _ _ => List.not_mem_nil

theorem serves_all_elsewhere {es : List Event} (h : b.Well l) (he : ∀ e ∈ es, e.Elsewhere) :
    Serves b l [] (es ++ l) := by
  induction es with
  | nil => exact .refl h
  | cons e es ih =>
    have h1 := ih fun x hx => he x (List.mem_cons_of_mem e hx)
    exact h1.trans (serves_elsewhere h1.last (he e List.mem_cons_self))

theorem Event.To.elsewhere {s : Select} (hs : ∀ c, s ≠ .afe c) {e : Event} (h : e.To s) : e.Elsewhere := by
  intro c st
  cases e with
  | frame f rx =>
    have hl : f.low = [s] := h
    show Chip.receive c f st = st
    unfold Chip.receive
    rw [if_pos (by rw [hl, List.mem_singleton]; exact (hs c).symm)]
  | _ => rfl

/-! ## Frames to a chip -/

theorem receive_other {c d : Afe} (h : d ≠ c) (format : Format) (mosi : List UInt8) (s : Option Chip) :
    Chip.receive d ⟨format, [.afe c], mosi⟩ s = s := by
  unfold Chip.receive
  rw [if_pos (by rw [List.mem_singleton]; exact fun hd => h (Select.afe.inj hd))]

theorem receive_write (c : Afe) {addr : UInt8} (ha : addr < 0x80) (hi lo : UInt8) (chip : Chip) :
    Chip.receive c ⟨⟨8, 1⟩, [.afe c], [addr, hi, lo]⟩ (some chip) =
      some { chip with regs := Function.update chip.regs addr (word hi lo) } := by
  simp [Chip.receive, ha]

theorem receive_read (c : Afe) (addr : UInt8) (chip : Chip) :
    Chip.receive c (readFrame c addr) (some chip) = some { chip with latched := (0x80 ||| addr) &&& 0x7F } := by
  simp [Chip.receive, readFrame, read_bit]

theorem latched_addr {addr : UInt8} (ha : addr < 0x80) : (0x80 ||| addr) &&& 0x7F = addr := by
  have hall : ∀ n : Fin 128, (0x80 ||| UInt8.ofNat n.val) &&& 0x7F = UInt8.ofNat n.val := by decide
  have h := hall ⟨addr.toNat, UInt8.lt_iff_toNat_lt.mp ha⟩
  rwa [UInt8.ofNat_toNat] at h

variable {w : World}

/-- A register write is a store. -/
theorem serves_wrote (h : w.Idle) (hw : b.Well w.log) (c : Afe) {addr : UInt8} (ha : addr < 0x80) (v : UInt16) :
    Serves b w.log [.store c addr v] (w.wrote ((c, addr), v)).log := by
  have hd := drift_files (b := b) (l := w.log) (e := .frame ⟨⟨8, 1⟩, [.afe c], [addr, hiByte v, loByte v]⟩ [])
    (g := put (b.files w.log) c addr v) fun d => by
      obtain ⟨chip, hc, hf⟩ := hw.chip d
      by_cases hdc : d = c
      · subst hdc
        refine ⟨_, by rw [hc]; exact receive_write d ha _ _ chip, ?_⟩
        funext x
        show Function.update chip.regs addr (word (hiByte v) (loByte v)) x = _
        rw [word_bytes]
        by_cases hx : x = addr
        · rw [hx, Function.update_self, put_same]
        · rw [Function.update_of_ne hx, put_of_not _ _ fun hn => hx hn.2, hf]
      · refine ⟨chip, by rw [hc]; exact receive_other hdc _ _ _, ?_⟩
        funext x
        rw [put_of_not _ _ fun hn => hdc hn.1, hf]
  have hl : (w.wrote ((c, addr), v)).log = .frame ⟨⟨8, 1⟩, [.afe c], [addr, hiByte v, loByte v]⟩ [] :: w.log := by
    rw [← h.format]; rfl
  rw [hl]
  exact serves_event hw hd.1 (.store c addr v (.of_drift hd.2)) (by simp)

/-- A frame that asks for a register changes none. -/
theorem serves_readFrame (hw : b.Well l) (c : Afe) (addr : UInt8) (rx : List UInt8) :
    Serves b l [] (.frame (readFrame c addr) rx :: l) := by
  have hd := drift_files (b := b) (l := l) (e := .frame (readFrame c addr) rx) (g := b.files l) fun d => by
    obtain ⟨chip, hc, hf⟩ := hw.chip d
    by_cases hdc : d = c
    · subst hdc
      exact ⟨{ chip with latched := (0x80 ||| addr) &&& 0x7F }, by rw [hc]; exact receive_read d addr chip, hf.symm⟩
    · exact ⟨chip, by rw [hc]; exact receive_other hdc _ _ _, hf.symm⟩
  exact serves_event hw hd.1 (.of_drift hd.2) fun _ _ _ => List.not_mem_nil

/-- What is read is what the register holds when the second frame begins. -/
theorem register_files_eq (hw : b.Well w.log) (c : Afe) {addr : UInt8} (ha : addr < 0x80) :
    b.toEnv.register c addr w = b.files (w.asked c addr).log c addr := by
  obtain ⟨chip, hc, _⟩ := hw.chip c
  have hasked : b.chip c (w.asked c addr).log =
      some (b.drift (w.asked c addr).log c { chip with latched := addr }) := by
    show (Chip.receive c (readFrame c addr) (b.chip c w.log)).map _ = _
    rw [hc, receive_read, latched_addr ha]
    rfl
  have hbyte : ∀ i, b.toEnv.miso (w.asked c addr).log (readFrame c amcAmcId) i =
      (((b.chip c (w.asked c addr).log).bind fun chip => chip.answer (readFrame c amcAmcId) i).getD
        (b.env.miso (w.asked c addr).log (readFrame c amcAmcId) i)) := fun _ => rfl
  unfold Env.register Board.files
  rw [hbyte, hbyte, hasked]
  exact word_bytes _

theorem serves_didRead (hw : b.Well w.log) (c : Afe) {addr : UInt8} (ha : addr < 0x80) :
    Serves b w.log [.load c addr (b.toEnv.register c addr w)] (w.didRead b.toEnv c addr).log := by
  have h1 := serves_readFrame hw c addr []
  have h2 := serves_readFrame h1.last c amcAmcId (b.toEnv.reply (w.asked c addr).log (readFrame c amcAmcId) 3)
  have hserved := h1.trans h2
  refine ⟨hserved.grew, hserved.well, ?_, fun d a v hm => ?_⟩
  · rw [register_files_eq hw c ha]
    exact h1.run.append (.load c addr h2.run)
  · obtain ⟨rfl, rfl, rfl⟩ := Action.load.inj (List.mem_singleton.mp hm)
    exact ⟨[], w.log, List.suffix_rfl, h2.grew, (register_files_eq hw d ha).symm⟩

/-! ## The register writes -/

/-- A frame that does not select a chip is no write to it. -/
theorem write_of_not_low {c : Afe} {f : Frame} (h : .afe c ∉ f.low) (a : UInt8) :
    f.write.toList.lookup (c, a) = none := by
  unfold Frame.write
  split
  · split
    · rename_i d addr hi lo hl _
      have hne : (c, a) ≠ (d, addr) := fun he => h (by rw [hl, (Prod.mk.inj he).1]; exact List.mem_singleton_self _)
      split
      · exact lookup_cons_ne hne
      · rfl
    · rfl
  · rfl

/-- What a well chip holds after a frame: the register the frame wrote, else what it held. -/
theorem receive_regs {c : Afe} {f : Frame} {s : Option Chip} {chip' : Chip} (h : Chip.receive c f s = some chip') :
    ∃ chip, s = some chip ∧ ∀ a, chip'.regs a = (f.write.toList.lookup (c, a)).getD (chip.regs a) := by
  unfold Chip.receive at h
  by_cases hlow : .afe c ∉ f.low
  · rw [if_pos hlow] at h
    exact ⟨chip', h, fun a => by rw [write_of_not_low hlow]; rfl⟩
  rw [if_neg hlow] at h
  by_cases hf : f.format = ⟨8, 1⟩ ∧ f.low = [.afe c]
  · rw [if_pos hf] at h
    split at h
    · rename_i chip addr hi lo hm
      have hw : f.write = if addr < 0x80 then some ((c, addr), word hi lo) else none := by
        unfold Frame.write
        rw [if_pos hf.1, hf.2, hm]
      refine ⟨chip, rfl, fun a => ?_⟩
      by_cases haddr : addr < 0x80
      · rw [if_pos haddr] at h hw
        obtain rfl := Option.some.inj h
        rw [hw]
        show Function.update chip.regs addr (word hi lo) a = _
        by_cases ha : a = addr
        · rw [ha, Function.update_self, Option.toList, List.lookup_cons_self]
          rfl
        · rw [Function.update_of_ne ha, Option.toList, lookup_cons_ne fun he => ha (Prod.mk.inj he).2]
          rfl
      · rw [if_neg haddr] at h hw
        obtain rfl := Option.some.inj h
        rw [hw]
        rfl
    · cases h
  · rw [if_neg hf] at h
    cases h

theorem hear_regs {c : Afe} {s : Option Chip} {chip' : Chip} (h : Board.hear c e s = some chip') :
    ∃ chip, s = some chip ∧ ∀ a, chip'.regs a = (e.write.toList.lookup (c, a)).getD (chip.regs a) := by
  cases e with
  | frame f rx => exact receive_regs h
  | _ => exact ⟨chip', h, fun _ => rfl⟩

/-- A register the chip does not change itself holds the last of the register writes the log
    shows, as long as no chip is garbage. -/
theorem files_writes (b : Board) {l : List Event} (h : b.Well l) {c : Afe} {a : UInt8} (hv : ¬ b.Volatile c a) :
    b.files l c a = ((l.filterMap Event.write).lookup (c, a)).getD ((b.start c).regs a) := by
  induction l with
  | nil => rfl
  | cons e l ih =>
    have hprev : ∀ d, ∃ chip chip', b.chip d l = some chip ∧ Board.hear d e (b.chip d l) = some chip' ∧
        ∀ a, chip'.regs a = (e.write.toList.lookup (d, a)).getD (chip.regs a) := by
      intro d
      have hd := h d
      rw [Board.chip, Option.isSome_map] at hd
      obtain ⟨chip', hc'⟩ := Option.isSome_iff_exists.mp hd
      obtain ⟨chip, hc, hregs⟩ := hear_regs hc'
      exact ⟨chip, chip', hc, hc', hregs⟩
    have hl : b.Well l := fun d => by
      obtain ⟨chip, _, hc, _⟩ := hprev d
      rw [hc]
      rfl
    obtain ⟨chip, chip', hc, hc', hregs⟩ := hprev c
    have hnow : b.files (e :: l) c a = chip'.regs a := by
      unfold Board.files
      rw [Board.chip, hc']
      exact if_neg hv
    have hbefore : b.files l c a = chip.regs a := by
      unfold Board.files
      rw [hc]
    have hwrites : (e :: l).filterMap Event.write = e.write.toList ++ l.filterMap Event.write := by
      cases hw : e.write <;> simp [hw]
    rw [hnow, hregs, ← hbefore, ih hl, hwrites, List.lookup_append]
    cases e.write.toList.lookup (c, a) <;> rfl

/-! ## Operations -/

/-- An address a write can reach. -/
abbrev RegAddr := { a : UInt8 // a < 0x80 }

/-- What the drivers offer: the AMC7891 objects, the initialisations of the clock chips and
    the ADC, and the DAC3484. -/
inductive Op where
  | writeReg (c : Afe) (addr : RegAddr) (v : UInt16)
  | readReg (c : Afe) (addr : RegAddr)
  | writeDac (c : Afe) (channel : DacChannel) (v : UInt16)
  | enableDacs (c : Afe)
  | amcInit (c : Afe)
  | setGpio (c : Afe) (v : UInt16)
  | configGpio (c : Afe) (v : UInt16)
  | configAdc (c : Afe) (v : UInt8)
  | readAdc (c : Afe) (channel : AdcChannel)
  | readTemperature (c : Afe)
  | lmk04826bInit
  | lmk04133Init
  | ads42lb69Init
  | dacInit (serial : Port)
  | dacReadConfig (serial : Port)
  | dacSetCurrent (serial : Port) (v : UInt8)
  | dacGetTemp
  | dacReadAlarms
  | dacClearAlarms

/-- Run an operation; the operations that read an AMC7891 return what they read. -/
def Op.run : Op → Fw (Option UInt16)
  | writeReg c addr v => do Amc7891.writeReg c addr v; return none
  | readReg c addr => do return some (← Amc7891.readReg c addr)
  | writeDac c channel v => do Amc7891.writeDac c channel v; return none
  | enableDacs c => do Amc7891.enableDacs c; return none
  | amcInit c => do Amc7891.init c; return none
  | setGpio c v => do Amc7891.setGpio c v; return none
  | configGpio c v => do Amc7891.configGpio c v; return none
  | configAdc c v => do Amc7891.configAdc c v; return none
  | readAdc c channel => do return some (← Amc7891.readAdc c channel)
  | readTemperature c => do return some (← Amc7891.readTemperature c)
  | lmk04826bInit => do Lmk04826b.init; return none
  | lmk04133Init => do Lmk04133.init; return none
  | ads42lb69Init => do Ads42lb69.init; return none
  | dacInit serial => do Dac3484.init serial; return none
  | dacReadConfig serial => do Dac3484.readConfig serial; return none
  | dacSetCurrent serial v => do Dac3484.setCurrent serial v; return none
  | dacGetTemp => do let _ ← Dac3484.getTemp; return none
  | dacReadAlarms => do let _ ← Dac3484.readAlarms; return none
  | dacClearAlarms => do Dac3484.clearAlarms; return none

/-- What an operation that returned `r` stores and loads. -/
def Op.Does : Op → Option UInt16 → List (Action Afe UInt8 UInt16) → Prop
  | writeReg c addr v, r, as => r = none ∧ as = [.store c addr v]
  | readReg c addr, r, as => ∃ v, r = some v ∧ as = [.load c addr v]
  | writeDac c channel v, r, as => r = none ∧ as = [.store c (Amc7891.dacData channel) (0x03FF &&& v)]
  | enableDacs c, r, as => r = none ∧ as = [.store c amcAmcPower 0x7E00]
  | amcInit c, r, as => r = none ∧
      as = [.store c amcAmcReset 0x6600, .store c amcTempConfig 0x0008, .store c amcTempRate 0x0007,
        .store c amcAmcPower 0x6000, .store c amcAdcEnable 0x6DE0, .store c amcAdcGain 0x0000,
        .store c amcAmcConfig 0x3300]
  | setGpio c v, r, as => r = none ∧ as = [.store c amcGpioOut (0x0FFF &&& v)]
  | configGpio c v, r, as => r = none ∧ as = [.store c amcGpioConfig (0x0FFF &&& v)]
  | configAdc c v, r, as => r = none ∧ as = [.store c amcAdcGain ((0xFF00 : UInt16) &&& (v.toUInt16 <<< 8))]
  | readAdc c channel, r, as => ∃ v, r = some v ∧ as = [.load c (Amc7891.adcData channel) v]
  | readTemperature c, r, as => ∃ v, r = some (v / 8) ∧ as = [.load c amcTempData v]
  | _, r, as => r = none ∧ as = []

/-- Operations in order, and what they returned. -/
def Op.runAll : List Op → Fw (List (Option UInt16))
  | [] => pure []
  | op :: ops => do
    let r ← op.run
    let rs ← runAll ops
    return r :: rs

inductive Op.DoAll : List Op → List (Option UInt16) → List (Action Afe UInt8 UInt16) → Prop
  | nil : DoAll [] [] []
  | cons {op : Op} {ops : List Op} {r : Option UInt16} {rs : List (Option UInt16)}
      {as bs : List (Action Afe UInt8 UInt16)} : op.Does r as → DoAll ops rs bs → DoAll (op :: ops) (r :: rs) (as ++ bs)

/-- Several register writes, the newest first in the list. -/
theorem serves_wroteAll (h : w.Idle) (hw : b.Well w.log) {ps : List Write} (hp : ∀ p ∈ ps, p.1.2 < 0x80) :
    Serves b w.log (ps.reverse.map fun p => .store p.1.1 p.1.2 p.2) (w.wroteAll ps).log := by
  induction ps with
  | nil => exact .refl hw
  | cons p ps ih =>
    have h1 := ih fun q hq => hp q (List.mem_cons_of_mem p hq)
    have h2 := serves_wrote (wroteAll_idle.mpr h) h1.last p.1.1 (hp p List.mem_cons_self) p.2
    rw [List.reverse_cons, List.map_append]
    exact h1.trans h2

section

variable {α : Type} {x : Fw α} {op : Op}

/-- A register write followed by `return none`. -/
theorem store_op {x : Fw Unit} {c : Afe} {addr : UInt8} {v : UInt16} (h : w.Idle) (hw : b.Well w.log)
    (ha : addr < 0x80) (hx : x = Amc7891.writeReg c addr v) :
    ∃ w', (do x; return none : Fw (Option UInt16)) b.toEnv w = .ok none w' ∧ w'.Idle ∧
      Serves b w.log [.store c addr v] w'.log := by
  subst hx
  exact ⟨_, run_bind_ok (writeReg_run h c addr v b.toEnv) _, wrote_idle.mpr h, serves_wrote h hw c ha v⟩

/-- A register read put through a conversion. -/
theorem load_op {c : Afe} {addr : UInt8} (f : UInt16 → Option UInt16) (h : w.Idle) (hw : b.Well w.log) (ha : addr < 0x80) :
    ∃ v w', (do return f (← Amc7891.readReg c addr) : Fw (Option UInt16)) b.toEnv w = .ok (f v) w' ∧ w'.Idle ∧
      Serves b w.log [.load c addr v] w'.log :=
  ⟨_, _, run_bind_ok (readReg_run h c addr b.toEnv) _, (didRead_quiet h b.toEnv c addr).step.idle,
    serves_didRead hw c ha⟩

/-- An operation on another chip. -/
theorem other_op {s : Select} (hs : ∀ c, s ≠ .afe c) (hx : Driver (Event.To s) x) (h : w.Idle) (hw : b.Well w.log) :
    ∃ w', (do let _ ← x; return none : Fw (Option UInt16)) b.toEnv w = .ok none w' ∧ w'.Idle ∧ Serves b w.log [] w'.log := by
  obtain ⟨_, w', hr, hi, _, _, es, hl, hp⟩ := hx b.toEnv w h
  refine ⟨w', run_bind_ok hr _, hi, ?_⟩
  rw [hl]
  exact serves_all_elsewhere hw fun e he => (hp e he).elsewhere hs

end

theorem dacOther_to {α : Type} {x : Fw α} (hx : Driver Event.DacOther x) : Driver (Event.To .dac3484) x :=
  hx.mono fun _ he => he.1

/-- One operation: the bus comes back idle, and the chips were served. -/
theorem op_serves (op : Op) (h : w.Idle) (hw : b.Well w.log) :
    ∃ r w' as, op.run b.toEnv w = .ok r w' ∧ w'.Idle ∧ op.Does r as ∧ Serves b w.log as w'.log := by
  have hstore : ∀ {x : Fw Unit} {c : Afe} {addr : UInt8} {v : UInt16}, addr < 0x80 → x = Amc7891.writeReg c addr v →
      ∃ r w' as, (do x; return none : Fw (Option UInt16)) b.toEnv w = .ok r w' ∧ w'.Idle ∧
        (r = none ∧ as = [Action.store c addr v]) ∧ Serves b w.log as w'.log := fun ha hx => by
    obtain ⟨w', hr, hi, hs⟩ := store_op h hw ha hx
    exact ⟨none, w', _, hr, hi, ⟨rfl, rfl⟩, hs⟩
  have hload : ∀ {c : Afe} {addr : UInt8}, addr < 0x80 →
      ∃ r w' as, (do return some (← Amc7891.readReg c addr) : Fw (Option UInt16)) b.toEnv w = .ok r w' ∧ w'.Idle ∧
        (∃ v, r = some v ∧ as = [Action.load c addr v]) ∧ Serves b w.log as w'.log := fun ha => by
    obtain ⟨v, w', hr, hi, hs⟩ := load_op some h hw ha
    exact ⟨some v, w', _, hr, hi, ⟨v, rfl, rfl⟩, hs⟩
  have hother : ∀ {α : Type} {x : Fw α} {s : Select}, (∀ c, s ≠ .afe c) → Driver (Event.To s) x →
      ∃ r w' as, (do let _ ← x; return none : Fw (Option UInt16)) b.toEnv w = .ok r w' ∧ w'.Idle ∧
        (r = none ∧ as = []) ∧ Serves b w.log as w'.log := fun hs hx => by
    obtain ⟨w', hr, hi, hs⟩ := other_op hs hx h hw
    exact ⟨none, w', _, hr, hi, ⟨rfl, rfl⟩, hs⟩
  have hdac : ∀ c, Select.dac3484 ≠ .afe c := by simp
  cases op with
  | writeReg c addr v => exact hstore addr.2 rfl
  | readReg c addr => exact hload addr.2
  | writeDac c channel v => exact hstore (by cases channel <;> decide) rfl
  | enableDacs c => exact hstore (by decide) rfl
  | amcInit c =>
    have hs := serves_wroteAll h hw (show ∀ p ∈ initWrites c, p.1.2 < 0x80 by cases c <;> decide)
    exact ⟨none, _, _, run_bind_ok (amcInit_run h c b.toEnv) _, wroteAll_idle.mpr h, ⟨rfl, rfl⟩, hs⟩
  | setGpio c v => exact hstore (by decide) rfl
  | configGpio c v => exact hstore (by decide) rfl
  | configAdc c v => exact hstore (by decide) rfl
  | readAdc c channel => exact hload (by cases channel <;> decide)
  | readTemperature c =>
    obtain ⟨v, w', hr, hi, hs⟩ := load_op (fun v => some (v / 8)) h hw (c := c)
      (show amcTempData < 0x80 by decide)
    refine ⟨_, w', _, ?_, hi, ⟨v, rfl, rfl⟩, hs⟩
    rw [← hr, Op.run, Amc7891.readTemperature, bind_assoc]
    rfl
  | lmk04826bInit => exact hother (by simp) driver_lmk04826b
  | lmk04133Init => exact hother (by simp) driver_lmk04133
  | ads42lb69Init => exact hother (by simp) driver_ads42lb69
  | dacInit serial => exact hother hdac (driver_dacInit serial)
  | dacReadConfig serial => exact hother hdac (dacOther_to (driver_readConfig serial))
  | dacSetCurrent serial v => exact hother hdac (driver_setCurrent serial v)
  | dacGetTemp => exact hother hdac (dacOther_to driver_getTemp)
  | dacReadAlarms => exact hother hdac (dacOther_to driver_readAlarms)
  | dacClearAlarms => exact hother hdac (dacOther_to driver_clearAlarms)

/-- Any operations in any order: every one returns, no chip is ever garbage, what was stored
    and loaded is a run of three independent register files, and they hold what the log's
    register writes left there. -/
theorem register_files (b : Board) (ops : List Op) {w : World} (h : w.Idle) (hw : b.Well w.log) :
    ∃ rs w' as, Op.runAll ops b.toEnv w = .ok rs w' ∧ w'.Idle ∧ Op.DoAll ops rs as ∧ Serves b w.log as w'.log ∧
      ∀ c a, ¬ b.Volatile c a →
        b.files w'.log c a = ((w'.log.filterMap Event.write).lookup (c, a)).getD ((b.start c).regs a) := by
  suffices hs : ∃ rs w' as, Op.runAll ops b.toEnv w = .ok rs w' ∧ w'.Idle ∧ Op.DoAll ops rs as ∧
      Serves b w.log as w'.log by
    obtain ⟨rs, w', as, hr, hi, hdo, hs⟩ := hs
    exact ⟨rs, w', as, hr, hi, hdo, hs, fun c a hv => files_writes b hs.last hv⟩
  induction ops generalizing w with
  | nil => exact ⟨[], w, [], rfl, h, .nil, .refl hw⟩
  | cons op ops ih =>
    obtain ⟨r, w1, as, hr, hi, hdo, hs⟩ := op_serves op h hw
    obtain ⟨rs, w2, bs, hr2, hi2, hdo2, hs2⟩ := ih hi hs.last
    exact ⟨r :: rs, w2, as ++ bs, by rw [Op.runAll, run_bind_ok hr, run_bind_ok hr2]; rfl, hi2, .cons hdo hdo2,
      hs.trans hs2⟩

/-- Chips that start at zero and change nothing on their own. -/
def plainBoard : Board where
  env := steadyEnv 0
  start := fun _ => ⟨fun _ => 0, 0⟩
  sensor := fun _ _ => false
  sense := fun _ _ _ => 0

/-- A DAC count written to channel A is read back past traffic to the other chips. -/
theorem register_files_readback : ∃ w', Op.runAll [.writeDac .afeA .dac1 390, .dacGetTemp, .setGpio .afeB 0x55,
    .readReg .afeA ⟨0x2C, by decide⟩] plainBoard.toEnv idleWorld = .ok [none, none, none, some 390] w' := by
  obtain ⟨rs, w', as, hr, _, hdo, hs, _⟩ := register_files plainBoard [.writeDac .afeA .dac1 390, .dacGetTemp,
    .setGpio .afeB 0x55, .readReg .afeA ⟨0x2C, by decide⟩] (w := idleWorld) ⟨rfl, rfl⟩ fun _ => rfl
  cases hdo with | cons h1 hdo => cases hdo with | cons h2 hdo => cases hdo with | cons h3 hdo => cases hdo with
  | cons h4 hdo =>
    obtain ⟨rfl, rfl⟩ := h1
    obtain ⟨rfl, rfl⟩ := h2
    obtain ⟨rfl, rfl⟩ := h3
    obtain ⟨v, rfl, rfl⟩ := h4
    cases hdo
    have hv := Run.loads (show Run _ _ ([_, _] ++ .load Afe.afeA (0x2C : UInt8) v :: []) _ from hs.run)
      (show ¬ false = true by decide)
    exact ⟨w', by rw [hr, hv]; rfl⟩

end Graviton
