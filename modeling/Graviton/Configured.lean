/-
  Graviton.Configured — the chips are programmed once, completely and in order, before the
  board is used, and stay as programmed.

  - `programmed_in_order`: at every moment of every run, what reached the clock chips, the
    ADC and the DAC, besides reads of the DAC, its alarms cleared and its current set, is a
    prefix of `programming`, and all of it by the time a power amplifier is switched on or a
    command byte is taken.
  - `dac_image`: so after any commands the DAC3484 holds its table, but for the coarse
    current, which is the last one set.
  - `sensors_configured`: no AMC7891 is read before its ADC, its gains and its temperature
    sensor are set up, and no mode change, calibration or shutdown changes them.
-/
import Graviton.Programming

namespace Graviton

open Effects History

/-! ## What programs a chip -/

/-- The two writes to the DAC3484 in format (8,0): its alarms cleared, and a current in bits
    15:12 of config3. -/
def Frame.served (f : Frame) : Bool :=
  f.format = ⟨8, 0⟩ &&
    match f.mosi with
    | [addr, hi, lo] => (addr = 0x05 && hi = 0 || addr = 0x03 && hi &&& 0x0F = 0) && lo = 0
    | _ => false

/-- Is the event a reset line of a chip, or a transfer to a chip besides the AMC7891s? To the
    DAC3484 neither a read is one, nor a current or its alarms cleared. -/
def Event.programs : Event → Bool
  | .pin p _ => p ≠ .buzzer && p ≠ .oscEn
  | .frame f _ =>
    match f.low, f.mosi with
    | [.afe _], _ => false
    | [.dac3484], addr :: _ => addr < 0x80 && !f.served
    | _, _ => true
  | _ => false

/-- The programming of a history, oldest first. -/
def programmed (l : List Event) : List Event := (l.filter Event.programs).reverse

/-- Does the event switch a power amplifier on, or take a command? -/
def Event.uses (e : Event) : Bool :=
  (match e.write with
    | some ((_, addr), v) => addr = AfeReg.paEn.addr && v = 0x3FF
    | none => false) || e.received.isSome

/-- At this moment the chips are programmed in order so far, and completely if they are used. -/
structure InOrder (l : List Event) : Prop where
  prefix_of : programmed l <+: programming.filter Event.programs
  complete : ∀ e ∈ l, e.uses = true → programmed l = programming.filter Event.programs

theorem programmed_cons {e : Event} {l : List Event} (h : e.programs = false) : programmed (e :: l) = programmed l := by
  unfold programmed
  rw [List.filter_cons_of_neg (by rw [h]; decide)]

theorem programmed_append (n l : List Event) : programmed (n ++ l) = programmed l ++ programmed n := by
  unfold programmed
  rw [List.filter_append, List.reverse_append]

theorem coarse_served (v : UInt8) : Frame.served ⟨⟨8, 0⟩, [.dac3484], [0x03, Dac3484.coarse v, 0x00]⟩ = true := by
  have hlow : (0xF0 : UInt8) &&& v <<< 4 &&& 0x0F = 0 := by
    rw [UInt8.and_assoc, UInt8.and_comm (v <<< 4), ← UInt8.and_assoc]
    exact UInt8.zero_and
  simp [Frame.served, Dac3484.coarse, hlow]

theorem served_not_programs {e : Event} (he : e.Served) : e.programs = false := by
  cases he with
  | steady hs =>
    cases hs with
    | look hl =>
      cases hl with
      | read => rfl
      | dacRead x y rx _ ha =>
        unfold Event.programs
        simp [ha]
      | dacClear => rfl
      | line => rfl
    | current v =>
      unfold Event.programs
      simp [coarse_served]
    | _ => rfl
  | _ => rfl

/-! ## Order -/

/-- Nothing programmed or used so far, at any moment. -/
def Untouched (l : List Event) : Prop := ∀ e ∈ l, e.programs = false ∧ e.uses = false

theorem Untouched.inOrder {l : List Event} (h : Untouched l) : Always InOrder l := by
  intro k hk
  have hk' : ∀ e ∈ k, e.programs = false ∧ e.uses = false := fun e he => h e (hk.subset he)
  have hnone : programmed k = [] := by
    unfold programmed
    rw [List.filter_eq_nil_iff.mpr fun e he => by rw [(hk' e he).1]; decide]
    rfl
  refine ⟨by rw [hnone]; exact List.nil_prefix, fun e he hu => ?_⟩
  rw [(hk' e he).2] at hu
  cases hu

theorem untouched_rails : Stays Event.Rails Untouched := by
  intro e l he h
  refine List.forall_mem_cons.mpr ⟨?_, h⟩
  rcases he with he | rfl
  · refine ⟨served_not_programs (look_served .pc e he), ?_⟩
    cases he with
    | read c addr rx =>
      unfold Event.uses
      rw [(readFrame_silent c addr rx).1, (readFrame_silent c addr rx).2.2]
      rfl
    | @dacRead format addr x y rx _ _ =>
      have hto : Event.To .dac3484 (.frame ⟨format, [.dac3484], [addr, x, y]⟩ rx) := rfl
      unfold Event.uses
      rw [hto.write fun _ => Select.noConfusion]
      rfl
    | dacClear => decide
    | line => rfl
  · decide

/-- The table is complete, and was in order at every moment. -/
structure Complete (l : List Event) : Prop where
  all : programmed l = programming.filter Event.programs
  always : Always InOrder l

theorem complete_programming {l : List Event} (h : Untouched l) : Complete (programming.reverse ++ l) := by
  have hl : programmed l = [] := by
    unfold programmed
    rw [List.filter_eq_nil_iff.mpr fun e he => by rw [(h e he).1]; decide]
    rfl
  have hused : ∀ e ∈ programming, e.uses = false := by decide +kernel
  constructor
  · rw [programmed_append, hl, List.nil_append]
    unfold programmed
    rw [List.filter_reverse, List.reverse_reverse]
  · refine always_append h.inOrder fun k hk _ => ⟨?_, fun e he hu => ?_⟩
    · rw [programmed_append, hl, List.nil_append]
      have hp : k.reverse <+: programming := by
        rw [← List.reverse_suffix, List.reverse_reverse]
        exact hk
      unfold programmed
      rw [← List.filter_reverse]
      exact hp.filter _
    · rcases List.mem_append.mp he with he | he
      · rw [hused e (List.mem_reverse.mp (hk.subset he))] at hu
        cases hu
      · rw [(h e he).2] at hu
        cases hu

theorem complete_served : Stays Event.Served Complete := by
  intro e l he h
  have hall : programmed (e :: l) = programming.filter Event.programs := by
    rw [programmed_cons (served_not_programs he)]
    exact h.all
  refine ⟨hall, always_cons.mpr ⟨⟨?_, fun _ _ _ => hall⟩, h.always⟩⟩
  rw [hall]

/-- At every moment of every run the chips were programmed in order so far, each with all of
    its table if an amplifier was switched on or a byte taken. -/
theorem programmed_in_order (env : Env) (n : Nat) : Always InOrder (final (mainRun n env reset)).log := by
  have h0 : Untouched busTestWorld.log := by
    unfold Untouched
    decide +kernel
  rcases mainRun_keeps complete_served h0 untouched_rails (fun _ => complete_programming) env n with h | h
  · exact h.always
  · rw [h]
    refine Untouched.inOrder ?_
    unfold Untouched
    decide +kernel

/-! ## The DAC3484's registers -/

/-- The register write a transfer to the DAC3484 makes, in whichever of its two formats it was sent. -/
def Event.dacWrite : Event → Option (UInt8 × UInt16)
  | .frame f _ =>
    match f.low, f.mosi with
    | [.dac3484], [addr, hi, lo] => if addr < 0x80 then some (addr, word hi lo) else none
    | _, _ => none
  | _ => none

/-- The value last written to a register of the DAC3484. -/
def dacHeld (l : List Event) (addr : UInt8) : Option UInt16 := (l.filterMap Event.dacWrite).lookup addr

/-- The table, as register values. -/
def dacTable : List (UInt8 × UInt16) := dac3484Rom.filterMap fun row => (rowEvent ⟨8, 1⟩ .dac3484 row).dacWrite

theorem dacHeld_cons_none {e : Event} {l : List Event} (h : e.dacWrite = none) (addr : UInt8) :
    dacHeld (e :: l) addr = dacHeld l addr := by
  unfold dacHeld
  rw [List.filterMap_cons_none h]

theorem dacHeld_cons_ne {e : Event} {l : List Event} {addr addr' : UInt8} {v : UInt16}
    (h : e.dacWrite = some (addr', v))
    (hne : addr ≠ addr') : dacHeld (e :: l) addr = dacHeld l addr := by
  unfold dacHeld
  rw [List.filterMap_cons_some h, lookup_cons_ne hne]

theorem look_dacWrite {out : Port} {e : Event} (h : Event.Look out e) :
    e.dacWrite = none ∨ e.dacWrite = some (0x05, 0) := by
  cases h with
  | read c addr rx => exact Or.inl rfl
  | dacRead x y rx _ ha => exact Or.inl (if_neg ha)
  | dacClear => exact Or.inr rfl
  | line => exact Or.inl rfl

theorem served_dacWrite {e : Event} (h : e.Served) :
    e.dacWrite = none ∨ e.dacWrite = some (0x05, 0) ∨ ∃ v, e.dacWrite = some (0x03, v) := by
  cases h with
  | steady hs =>
    cases hs with
    | look hl => exact (look_dacWrite hl).imp_right Or.inl
    | current v => exact Or.inr (Or.inr ⟨_, rfl⟩)
    | write p _ => exact Or.inl rfl
    | osc => exact Or.inl rfl
    | oscEn => exact Or.inl rfl
  | _ => exact Or.inl rfl

/-- The DAC holds its table, but for config3. -/
def DacSet (l : List Event) : Prop := ∀ addr, addr ≠ 0x03 → dacHeld l addr = dacTable.reverse.lookup addr

/-- Only the alarms were written so far. -/
def DacUnset (l : List Event) : Prop := ∀ addr, addr ≠ 0x05 → dacHeld l addr = none

theorem dacSet_served : Stays Event.Served DacSet := by
  intro e l he h addr haddr
  rcases served_dacWrite he with hn | hc | ⟨v, hv⟩
  · rw [dacHeld_cons_none hn]
    exact h addr haddr
  · by_cases h5 : addr = 0x05
    · subst h5
      unfold dacHeld
      rw [List.filterMap_cons_some hc, List.lookup_cons_self]
      rfl
    · rw [dacHeld_cons_ne hc h5]
      exact h addr haddr
  · rw [dacHeld_cons_ne hv haddr]
    exact h addr haddr

theorem dacUnset_rails : Stays Event.Rails DacUnset := by
  intro e l he h addr haddr
  rcases he with he | rfl
  · rcases look_dacWrite he with hn | hc
    · rw [dacHeld_cons_none hn]
      exact h addr haddr
    · rw [dacHeld_cons_ne hc haddr]
      exact h addr haddr
  · rw [dacHeld_cons_none rfl]
    exact h addr haddr

theorem dacSet_programming {l : List Event} (h : DacUnset l) : DacSet (programming.reverse ++ l) := by
  have hword : programming.reverse.filterMap Event.dacWrite = dacTable.reverse := by decide +kernel
  intro addr _
  unfold dacHeld
  rw [List.filterMap_append, hword, List.lookup_append]
  by_cases h5 : addr = 0x05
  · subst h5
    rfl
  · rw [show (l.filterMap Event.dacWrite).lookup addr = none from h addr h5, Option.or_none]

theorem config3_dacWrite (e : Event) : e.config3 = e.dacWrite.bind fun p => if p.1 = 0x03 then some p.2 else none := by
  cases e with
  | frame f rx =>
    by_cases h : ∃ addr hi lo, f.low = [.dac3484] ∧ f.mosi = [addr, hi, lo]
    · obtain ⟨addr, hi, lo, hl, hm⟩ := h
      simp only [Event.config3, Event.dacWrite, hl, hm]
      by_cases ha : addr = 0x03
      · subst ha
        rfl
      · by_cases hb : addr < 0x80
        · rw [if_neg ha, if_pos hb]
          exact (if_neg ha).symm
        · rw [if_neg ha, if_neg hb]
          rfl
    · have h3 : Event.config3 (.frame f rx) = none := by
        simp only [Event.config3]
        split
        · exact absurd ⟨_, _, _, ‹_›, ‹_›⟩ h
        · rfl
      have hw : Event.dacWrite (.frame f rx) = none := by
        simp only [Event.dacWrite]
        split
        · exact absurd ⟨_, _, _, ‹_›, ‹_›⟩ h
        · rfl
      rw [h3, hw]
      rfl
  | _ => rfl

theorem dacHeld_config3 (l : List Event) : dacHeld l 0x03 = (l.filterMap Event.config3).head? := by
  induction l with
  | nil => rfl
  | cons e l ih =>
    have he := config3_dacWrite e
    cases hw : e.dacWrite with
    | none =>
      rw [hw] at he
      rw [dacHeld_cons_none hw, List.filterMap_cons_none he, ih]
    | some p =>
      obtain ⟨addr, v⟩ := p
      rw [hw] at he
      by_cases ha : addr = 0x03
      · subst ha
        unfold dacHeld
        rw [List.filterMap_cons_some hw, List.filterMap_cons_some he, List.lookup_cons_self]
        rfl
      · rw [dacHeld_cons_ne hw (Ne.symm ha), ih, List.filterMap_cons_none (he.trans (if_neg ha))]

/-- After any commands the DAC3484 holds its table, but for config3, which holds the last
    current set and a clear `sif_txenable`. -/
theorem dac_image {env : Env} {n : Nat} {v : LoopVars} {w : World} (h : mainRun n env reset = .ok v w) (addr : UInt8) :
    dacHeld w.log addr =
      if addr = 0x03 then some (word (Dac3484.coarse (lastCurrent w.received)) 0x00) else
      dacTable.reverse.lookup addr := by
  have h0 : DacUnset busTestWorld.log := by
    have hnone : busTestWorld.log.filterMap Event.dacWrite = [] := by decide +kernel
    intro addr _
    unfold dacHeld
    rw [hnone]
    rfl
  by_cases haddr : addr = 0x03
  · obtain ⟨w0, hrun⟩ := mainRun_loops h
    subst haddr
    rw [if_pos rfl, dacHeld_config3]
    exact hrun.looped.config3
  · rw [if_neg haddr]
    rcases mainRun_keeps dacSet_served h0 dacUnset_rails (fun _ => dacSet_programming) env n with hk | hk
    · rw [h, final_ok] at hk
      exact hk addr haddr
    · rw [h] at hk
      cases hk

/-- The healthy board, sent op code 11, current 7, whenever the loop looks. -/
def currentEnv : Env := { healthyEnv with readable := fun _ => true, getc := fun _ => 11 }

set_option maxRecDepth 100000 in
theorem dac_image_current : ∃ v w, mainRun 1 currentEnv reset = .ok v w ∧ w.received = [11] ∧
    ∀ addr, dacHeld w.log addr = if addr = 0x03 then some 0x7000 else dacTable.reverse.lookup addr := by
  have h : returned (mainRun 1 currentEnv reset) = true ∧ (final (mainRun 1 currentEnv reset)).received = [11] := by
    decide +kernel
  obtain ⟨v, w, hw⟩ := returned_ok h.1
  rw [hw, final_ok] at h
  refine ⟨v, w, hw, h.2, fun addr => ?_⟩
  have himage := dac_image hw addr
  rw [h.2] at himage
  exact himage

/-! ## The converters of the AMC7891s -/

/-- The writes to chip `c` since it was last reset. -/
def sinceReset (c : Afe) (ws : List Write) : List Write := ws.takeWhile fun p => p.1 ≠ (c, amcAmcReset)

/-- What the readings of chip `c` rely on: it was reset, and since then the ADC was powered, its
    inputs enabled and converting continuously at the gain the readings assume, and the
    temperature sensor switched on. -/
structure Measures (c : Afe) (ws : List Write) : Prop where
  reset : ws.lookup (c, amcAmcReset) = some 0x6600
  temp : (sinceReset c ws).lookup (c, amcTempConfig) = some 0x0008
  rate : (sinceReset c ws).lookup (c, amcTempRate) = some 0x0007
  enable : (sinceReset c ws).lookup (c, amcAdcEnable) = some 0x6DE0
  config : (sinceReset c ws).lookup (c, amcAmcConfig) = some 0x3300
  gain : (sinceReset c ws).lookup (c, amcAdcGain) = some (if c = .afe0 then 0x2000 else 0)
  power : ∃ v, (sinceReset c ws).lookup (c, amcAmcPower) = some v ∧ v &&& 0x6000 = 0x6000

/-- The chip a transfer reads. -/
def Event.reads : Event → Option Afe
  | .frame f _ =>
    match f.low, f.mosi with
    | [.afe c], addr :: _ => if addr < 0x80 then none else some c
    | _, _ => none
  | _ => none

/-- If the newest event reads an AMC7891, that chip was set up to be read. -/
def ReadsSetUp (l : List Event) : Prop :=
  ∀ e k c, l = e :: k → e.reads = some c → Measures c (k.filterMap Event.write)

/-- No write of a running board resets a chip or reaches its converter's registers. -/
theorem Kept.spares {p : Write} (hp : Kept p) {c : Afe} {addr : UInt8} (hm : addr ∉ modeRegs) (hw : addr ≠ amcAmcPower)
    (hg : addr ≠ amcAdcGain) : (c, addr) ≠ p.1 := by
  intro e
  rcases hp with hp | ⟨hp, _⟩ | hp
  · rw [← e] at hp
    exact hm hp
  · rw [← e] at hp
    exact hw hp
  · rw [hp] at e
    exact hg (Prod.mk.inj e).2

theorem Kept.power {p : Write} (hp : Kept p) {c : Afe} (e : (c, amcAmcPower) = p.1) : p.2 = 0x7E00 := by
  rcases hp with hp | ⟨_, hp⟩ | hp
  · rw [← e] at hp
    exact absurd hp (show amcAmcPower ∉ modeRegs by decide)
  · exact hp
  · rw [hp] at e
    exact absurd (Prod.mk.inj e).2 (by decide)

theorem Kept.gain {p : Write} (hp : Kept p) {c : Afe} (e : (c, amcAdcGain) = p.1) :
    p = ((.afe0, amcAdcGain), 0x2000) := by
  rcases hp with hp | ⟨hp, _⟩ | hp
  · rw [← e] at hp
    exact absurd hp (show amcAdcGain ∉ modeRegs by decide)
  · rw [← e] at hp
    exact absurd hp (show amcAdcGain ≠ amcAmcPower by decide)
  · exact hp

theorem Measures.kept {c : Afe} {p : Write} {ws : List Write} (h : Measures c ws) (hp : Kept p) :
    Measures c (p :: ws) := by
  have hsince : sinceReset c (p :: ws) = p :: sinceReset c ws := by
    unfold sinceReset
    rw [List.takeWhile_cons,
      if_pos (decide_eq_true (Ne.symm (hp.spares (by decide) (by decide) (by decide))))]
  have hspared : ∀ {addr : UInt8}, addr ∉ modeRegs → addr ≠ amcAmcPower → addr ≠ amcAdcGain →
      (p :: sinceReset c ws).lookup (c, addr) = (sinceReset c ws).lookup (c, addr) :=
    fun hm hw hg => lookup_cons_ne (hp.spares hm hw hg)
  constructor
  · exact (lookup_cons_ne (hp.spares (by decide) (by decide) (by decide))).trans h.reset
  · rw [hsince]
    exact (hspared (by decide) (by decide) (by decide)).trans h.temp
  · rw [hsince]
    exact (hspared (by decide) (by decide) (by decide)).trans h.rate
  · rw [hsince]
    exact (hspared (by decide) (by decide) (by decide)).trans h.enable
  · rw [hsince]
    exact (hspared (by decide) (by decide) (by decide)).trans h.config
  · rw [hsince]
    by_cases hk : (c, amcAdcGain) = p.1
    · obtain rfl := hp.gain hk
      obtain rfl := (Prod.mk.inj hk).1
      exact List.lookup_cons_self
    · exact (lookup_cons_ne hk).trans h.gain
  · rw [hsince]
    by_cases hk : (c, amcAmcPower) = p.1
    · refine ⟨p.2, ?_, by rw [hp.power hk]; decide⟩
      rw [hk]
      exact List.lookup_cons_self
    · obtain ⟨v, hv, hb⟩ := h.power
      exact ⟨v, (lookup_cons_ne hk).trans hv, hb⟩

/-- Every chip is set up to be read, and was whenever one was read. -/
structure SetUp (l : List Event) : Prop where
  now : ∀ c, Measures c (l.filterMap Event.write)
  always : Always ReadsSetUp l

theorem writeEvent_write {p : Write} (h : p.1.2 < 0x80) : (writeEvent p).write = some p := by
  obtain ⟨⟨c, addr⟩, v⟩ := p
  show (if addr < 0x80 then some ((c, addr), word (hiByte v) (loByte v)) else none) = _
  rw [if_pos h, word_bytes]

theorem Kept.low {p : Write} (h : Kept p) : p.1.2 < 0x80 := by
  rcases h with h | ⟨h, _⟩ | h
  · have hall : modeRegs.all (fun addr => decide (addr < 0x80)) = true := rfl
    exact of_decide_eq_true (List.all_eq_true.mp hall _ h)
  · rw [h]
    decide
  · rw [h]
    decide

theorem served_write {e : Event} (h : e.Served) : e.write = none ∨ ∃ p, Kept p ∧ e.write = some p := by
  cases h with
  | steady hs =>
    cases hs with
    | look hl =>
      cases hl with
      | read c addr rx => exact Or.inl (readFrame_silent c addr rx).1
      | @dacRead format addr x y rx _ _ =>
        have hto : Event.To .dac3484 (.frame ⟨format, [.dac3484], [addr, x, y]⟩ rx) := rfl
        exact Or.inl (hto.write fun _ => Select.noConfusion)
      | dacClear => exact Or.inl rfl
      | line => exact Or.inl rfl
    | write p hp => exact Or.inr ⟨p, hp, writeEvent_write hp.low⟩
    | _ => exact Or.inl rfl
  | _ => exact Or.inl rfl

theorem setUp_served : Stays Event.Served SetUp := by
  intro e l he h
  have hread : ReadsSetUp (e :: l) := by
    rintro e' k c heq _
    obtain ⟨rfl, rfl⟩ := List.cons.inj heq
    exact h.now c
  refine ⟨fun c => ?_, always_cons.mpr ⟨hread, h.always⟩⟩
  rcases served_write he with hn | ⟨p, hp, hs⟩
  · rw [List.filterMap_cons_none hn]
    exact h.now c
  · rw [List.filterMap_cons_some hs]
    exact (h.now c).kept hp

/-- Events that read no AMC7891. -/
theorem always_setUp_append {n l : List Event} (hn : ∀ e ∈ n, e.reads = none) (h : Always ReadsSetUp l) :
    Always ReadsSetUp (n ++ l) := by
  refine always_append h fun k hk hne e k' c he hc => ?_
  cases k with
  | nil => exact absurd rfl hne
  | cons e' k =>
    obtain ⟨rfl, _⟩ := List.cons.inj he
    rw [hn e' (hk.subset List.mem_cons_self)] at hc
    cases hc

theorem always_setUp_none {l : List Event} (h : ∀ e ∈ l, e.reads = none) : Always ReadsSetUp l := by
  have hnil : Always ReadsSetUp [] := always_nil.mpr fun _ _ _ he => by cases he
  have hl := always_setUp_append h hnil
  rwa [List.append_nil] at hl

theorem setUp_busTest : SetUp busTestWorld.log := by
  have hnow : ∀ c, Measures c powerUpWrites := by
    intro c
    cases c with
    | afe0 => exact ⟨rfl, rfl, rfl, rfl, rfl, rfl, 0x6000, rfl, by decide⟩
    | afeA => exact ⟨rfl, rfl, rfl, rfl, rfl, rfl, 0x7E00, rfl, by decide⟩
    | afeB => exact ⟨rfl, rfl, rfl, rfl, rfl, rfl, 0x7E00, rfl, by decide⟩
  refine ⟨fun c => ?_, always_setUp_none (by decide +kernel)⟩
  rw [show busTestWorld.log.filterMap Event.write = powerUpWrites from busTest_writes]
  exact hnow c

theorem setUp_rails : Stays Event.Rails SetUp := by
  refine setUp_served.mono fun e he => ?_
  rcases he with he | rfl
  · exact look_served .pc e he
  · exact .steady (.write _ (kept_gpio _ _))

/-- At every moment of every run: a chip that is read was reset, then set up to be read, and
    nothing after that undid it. -/
theorem sensors_configured (env : Env) (n : Nat) : Always ReadsSetUp (final (mainRun n env reset)).log := by
  have hword : programming.filterMap Event.write = [] := by decide +kernel
  have hreads : ∀ e ∈ programming, e.reads = none := by decide +kernel
  have hprog : ∀ l, SetUp l → SetUp (programming.reverse ++ l) := by
    intro l h
    refine ⟨fun c => ?_, always_setUp_append (fun e he => hreads e (List.mem_reverse.mp he)) h.always⟩
    rw [List.filterMap_append, List.filterMap_reverse, hword]
    exact h.now c
  rcases mainRun_keeps setUp_served setUp_busTest setUp_rails hprog env n with h | h
  · exact h.always
  · rw [h]
    exact always_setUp_none (by decide +kernel)

end Graviton
