/-
  Graviton.Commands — what a command byte does (`changeState`).

  `effect c msg` is what byte `msg` asks of channel `c`, and `current msg` the DAC current it
  sets. `changeState_run` says that the function never fails and does exactly that: the
  writes of the requested mode changes, and nothing to a channel of which nothing is asked.
-/
import Graviton.Boot

namespace Graviton

open Effects History

/-! ## The meaning of a byte -/

/-- Bit 7 of a command addresses a channel. -/
def addressed : Afe → UInt8 → Bool
  | .afeA, msg => csAfeA = csAfeMask &&& msg
  | .afeB, msg => csAfeB = csAfeMask &&& msg
  | .afe0, _ => false

/-- What op code `op` asks of a channel, addressed or not. -/
def opEffect (op : UInt8) (here : Bool) : Option Setting :=
  if op = csOpCode0 then some .safe
  else if op = csOpCode3 then if here then some .tx else none
  else if op = csOpCode22 then if here then some .safe else none
  else none

/-- What a byte asks of channel `c`. -/
def effect (c : Afe) (msg : UInt8) : Option Setting :=
  if csRx = csRxFlagMask &&& msg then if addressed c msg then some (.rx (csOpCodeMask &&& msg)) else none
  else opEffect (csOpCodeMask &&& msg) (addressed c msg)

/-- The DAC current an op code sets. -/
def opCurrent (op : UInt8) : Option UInt8 :=
  if csOpCode4 ≤ op ∧ op ≤ csOpCode19 then some (op - csOpCode4) else none

/-- The DAC current a byte sets. -/
def current (msg : UInt8) : Option UInt8 :=
  if csRx = csRxFlagMask &&& msg then none else opCurrent (csOpCodeMask &&& msg)

theorem opEffect_inRange {op : UInt8} {here : Bool} {s : Setting} (h : opEffect op here = some s) : s.InRange := by
  cases s with
  | rx gain =>
    -- no op code receives
    unfold opEffect at h
    split_ifs at h <;> cases h
  | _ => trivial

theorem effect_inRange {c : Afe} {msg : UInt8} {s : Setting} (h : effect c msg = some s) : s.InRange := by
  have hop : (csOpCodeMask &&& msg).toNat ≤ csOpCodeMask.toNat := by
    rw [UInt8.toNat_and]; exact Nat.and_le_left
  have h63 : csOpCodeMask.toNat = 63 := by decide
  unfold effect at h
  by_cases hr : csRx = csRxFlagMask &&& msg
  · rw [if_pos hr] at h
    by_cases ha : addressed c msg = true
    · rw [if_pos ha] at h
      obtain rfl := Option.some.inj h
      show (csOpCodeMask &&& msg).toNat < 64
      omega
    · rw [if_neg ha] at h
      cases h
  · rw [if_neg hr] at h
    exact opEffect_inRange h

/-! ## Requests -/

/-- The writes a request is to a channel whose object is in state `o`. -/
def requestWrites (c : Afe) (o : Amc7891) : Option Setting → List Write
  | none => []
  | some s => settingWrites c o s

def Mem.request (m : Mem) (c : Afe) : Option Setting → Mem
  | none => m
  | some s => m.setMode c s.mode

theorem request_afe_ne (m : Mem) {c d : Afe} (h : d ≠ c) (r : Option Setting) : (m.request c r).afe d = m.afe d := by
  cases r with
  | none => rfl
  | some s => exact setMode_afe_ne m h s.mode

theorem request_vg (m : Mem) (c d : Afe) (r : Option Setting) :
    ((m.request c r).afe d).vgSetpoint = (m.afe d).vgSetpoint ∧
      ((m.request c r).afe d).vgQuiescent = (m.afe d).vgQuiescent := by
  by_cases hd : d = c
  · subst hd
    cases r with
    | none => exact ⟨rfl, rfl⟩
    | some s => simp [Mem.request]
  · rw [request_afe_ne m hd]
    exact ⟨rfl, rfl⟩

theorem request_gravMode (m : Mem) (c : Afe) (r : Option Setting) : (m.request c r).gravMode = m.gravMode := by
  cases r <;> rfl

theorem request_soft (m : Mem) (c : Afe) (r : Option Setting) : (m.request c r).soft = m.soft := by
  cases r <;> rfl

/-- The program carries out request `r` of channel `c`, and nothing else. -/
def Applies (c : Afe) (r : Option Setting) (x : Fw Unit) : Prop :=
  ∀ env w, w.Idle → ∃ w', x env w = .ok () w' ∧ Step w w' (requestWrites c (w.mem.afe c) r) [] ∧
    w'.mem = w.mem.request c r

theorem applies_none (c : Afe) : Applies c none (pure ()) := fun _ w h => ⟨w, rfl, .refl h, rfl⟩

theorem rxWrites_low (c : Afe) (o : Amc7891) (gain : UInt8) : ∀ p ∈ rxWrites c o gain, p.1.2 < 0x80 := by
  have hd := dacData_low
  have hg : amcGpioOut < 0x80 := by decide
  unfold rxWrites
  cases o.mode <;> simp [dacWrite, gpioWrite, hd, hg]

theorem txWrites_low (c : Afe) (o : Amc7891) : ∀ p ∈ txWrites c o, p.1.2 < 0x80 := by
  have hd := dacData_low
  have hg : amcGpioOut < 0x80 := by decide
  unfold txWrites
  cases o.mode <;> simp [dacWrite, gpioWrite, hd, hg]

theorem applies_safe (c : Afe) : Applies c (some .safe) (switchToSafe c) := fun env _ h => switchToSafe_step c env h

theorem applies_rx (c : Afe) (gain : UInt8) : Applies c (some (.rx gain)) (switchToRx c gain) := by
  intro env w h
  have hs := wroteAll_step h (rxWrites_low c (w.mem.afe c) gain)
  exact ⟨_, switchToRx_run h c env gain, hs.trans (withMem_step hs.idle _), rfl⟩

theorem applies_tx (c : Afe) : Applies c (some .tx) (switchToTx c) := by
  intro env w h
  have hs := wroteAll_step h (txWrites_low c (w.mem.afe c))
  exact ⟨_, switchToTx_run h c env, hs.trans (withMem_step hs.idle _), rfl⟩

theorem Applies.ite {c : Afe} {s : Setting} {x : Fw Unit} (hx : Applies c (some s) x) (p : Prop) [Decidable p] :
    Applies c (if p then some s else none) (if p then x else pure ()) := by
  by_cases h : p
  · rw [if_pos h, if_pos h]; exact hx
  · rw [if_neg h, if_neg h]; exact applies_none c

/-- A request of each channel, one after the other: neither sees the other's. -/
theorem Applies.both {rA rB : Option Setting} {x y : Fw Unit} (hx : Applies .afeA rA x) (hy : Applies .afeB rB y)
    (env : Env) {w : World} (h : w.Idle) :
    ∃ w', (x >>= fun _ => y) env w = .ok () w' ∧
      Step w w' (requestWrites .afeB (w.mem.afe .afeB) rB ++ requestWrites .afeA (w.mem.afe .afeA) rA) [] ∧
      w'.mem = (w.mem.request .afeA rA).request .afeB rB := by
  obtain ⟨w1, r1, s1, m1⟩ := hx env w h
  obtain ⟨w2, r2, s2, m2⟩ := hy env w1 s1.idle
  refine ⟨w2, by rw [run_bind_ok r1, r2], ?_, by rw [m2, m1]⟩
  have hs := s1.trans s2
  rwa [m1, request_afe_ne _ (by decide)] at hs

/-! ## `changeState` -/

/-- The register writes of a command byte, newest first. -/
def commandWrites (m : Mem) (msg : UInt8) : List Write :=
  requestWrites .afeB (m.afe .afeB) (effect .afeB msg) ++ requestWrites .afeA (m.afe .afeA) (effect .afeA msg)

/-- The config3 values of a command byte. -/
def commandConfig3 (msg : UInt8) : List UInt16 :=
  match current msg with
  | some v => [word (Dac3484.coarse v) 0x00]
  | none => []

def commandMem (m : Mem) (msg : UInt8) : Mem :=
  (m.request .afeA (effect .afeA msg)).request .afeB (effect .afeB msg)

/-- What `changeState msg` did. -/
structure Commanded (msg : UInt8) (w w' : World) : Prop where
  step : Step w w' (commandWrites w.mem msg) (commandConfig3 msg)
  mem : w'.mem = commandMem w.mem msg

/-- A statement `if p then x` and what follows it. -/
theorem ite_then {α : Type} (p : Prop) [Decidable p] (x : Fw Unit) (f : Unit → Fw α) :
    (if p then x >>= f else f ()) = (if p then x else pure ()) >>= f := by
  by_cases h : p
  · rw [if_pos h, if_pos h]
  · rw [if_neg h, if_neg h, pure_bind]

theorem commanded_both {msg : UInt8} {rA rB : Option Setting} {x y : Fw Unit} (hx : Applies .afeA rA x)
    (hy : Applies .afeB rB y) (hA : effect .afeA msg = rA) (hB : effect .afeB msg = rB) (hc : current msg = none)
    (env : Env) {w : World} (h : w.Idle) : ∃ w', (x >>= fun _ => y) env w = .ok () w' ∧ Commanded msg w w' := by
  obtain ⟨w', hr, hs, hm⟩ := hx.both hy env h
  refine ⟨w', hr, ?_, ?_⟩
  · unfold commandWrites commandConfig3
    rw [hA, hB, hc]
    exact hs
  · unfold commandMem
    rw [hA, hB, hm]

theorem commanded_quiet {msg : UInt8} {x : Fw Unit} (hx : ReadOnly x) (hA : effect .afeA msg = none)
    (hB : effect .afeB msg = none) (hc : current msg = none) (env : Env) {w : World} (h : w.Idle) :
    ∃ w', x env w = .ok () w' ∧ Commanded msg w w' := by
  obtain ⟨_, w', hr, hq⟩ := hx env w h
  refine ⟨w', hr, ?_, ?_⟩
  · unfold commandWrites commandConfig3
    rw [hA, hB, hc]
    exact hq.step
  · unfold commandMem
    rw [hA, hB]
    exact hq.mem

theorem current_lt {op : UInt8} (h : csOpCode4 ≤ op ∧ op ≤ csOpCode19) : ¬ 16 ≤ op - csOpCode4 := by
  have h4 : csOpCode4.toNat = 4 := rfl
  have h19 : csOpCode19.toNat = 19 := rfl
  have h16 : (16 : UInt8).toNat = 16 := rfl
  have hle := UInt8.le_iff_toNat_le.mp h.1
  have hge := UInt8.le_iff_toNat_le.mp h.2
  rw [UInt8.le_iff_toNat_le, UInt8.toNat_sub_of_le _ _ h.1, h4, h16]
  omega

section op

variable {msg : UInt8} (hr : ¬ csRx = csRxFlagMask &&& msg)

include hr

theorem effect_op (c : Afe) : effect c msg = opEffect (csOpCodeMask &&& msg) (addressed c msg) := if_neg hr

theorem current_op : current msg = opCurrent (csOpCodeMask &&& msg) := if_neg hr

theorem changeOp_run (env : Env) {w : World} (h : w.Idle) :
    ∃ w', changeOp msg env w = .ok () w' ∧ Commanded msg w w' := by
  have he := effect_op hr
  have hc := current_op hr
  unfold changeOp
  dsimp only
  simp only [ite_then]
  generalize csOpCodeMask &&& msg = op at he hc ⊢
  by_cases h0 : op = csOpCode0
  · subst h0
    rw [if_pos rfl]
    exact commanded_both (applies_safe .afeA) (applies_safe .afeB) (he _) (he _) hc env h
  rw [if_neg h0]
  by_cases h1 : op = csOpCode1
  · subst h1
    rw [if_pos rfl]
    exact commanded_quiet (readOnly_dumpTelemetry _) (he _) (he _) hc env h
  rw [if_neg h1]
  by_cases h2 : op = csOpCode2
  · subst h2
    rw [if_pos rfl]
    exact commanded_quiet (readOnly_dumpTelemetry _) (he _) (he _) hc env h
  rw [if_neg h2]
  by_cases h3 : op = csOpCode3
  · subst h3
    rw [if_pos rfl]
    have hA := he .afeA
    have hB := he .afeB
    refine commanded_both ((applies_tx .afeA).ite _) ((applies_tx .afeB).ite _) ?_ ?_ hc env h
    · rw [hA]; simp [opEffect, addressed, csOpCode3, csOpCode0]
    · rw [hB]; simp [opEffect, addressed, csOpCode3, csOpCode0]
  rw [if_neg h3]
  by_cases h4 : csOpCode4 ≤ op ∧ op ≤ csOpCode19
  · have hlt : ¬ 16 ≤ op - csOpCode4 := current_lt h4
    have h22 : op ≠ csOpCode22 := fun e => absurd (e ▸ h4.2) (by decide)
    have hno : ∀ here, opEffect op here = none := fun here => by
      unfold opEffect
      rw [if_neg h0, if_neg h3, if_neg h22]
    have hcur : opCurrent op = some (op - csOpCode4) := if_pos h4
    rw [if_pos h4]
    obtain ⟨w', hr', hs, hm⟩ := setCurrent_run .pc hlt env h
    refine ⟨w', hr', ?_, ?_⟩
    · unfold commandWrites commandConfig3
      rw [he, he, hno, hno, hc, hcur]
      exact hs
    · unfold commandMem
      rw [he, he, hno, hno]
      exact hm
  rw [if_neg h4]
  by_cases h20 : op = csOpCode20
  · subst h20
    rw [if_pos rfl]
    refine commanded_quiet ?_ (he _) (he _) hc env h
    exact (readOnly_printf _ _ _).bind fun _ => (readOnly_pIn _).bind fun _ => (readOnly_printf _ _ _).bind fun _ =>
      (readOnly_pOut _).bind fun _ => readOnly_printf _ _ _
  rw [if_neg h20]
  by_cases h21 : op = csOpCode21
  · subst h21
    rw [if_pos rfl]
    exact commanded_quiet (readOnly_readConfig _) (he _) (he _) hc env h
  rw [if_neg h21]
  by_cases h22 : op = csOpCode22
  · subst h22
    rw [if_pos rfl]
    have hA := he .afeA
    have hB := he .afeB
    refine commanded_both ((applies_safe .afeA).ite _) ((applies_safe .afeB).ite _) ?_ ?_ hc env h
    · rw [hA]; simp [opEffect, addressed, csOpCode22, csOpCode0, csOpCode3]
    · rw [hB]; simp [opEffect, addressed, csOpCode22, csOpCode0, csOpCode3]
  rw [if_neg h22]
  have hno : ∀ here, opEffect op here = none := fun here => by
    unfold opEffect
    rw [if_neg h0, if_neg h3, if_neg h22]
  refine commanded_quiet (readOnly_pure ()) ((he _).trans (hno _)) ((he _).trans (hno _)) (hc.trans ?_) env h
  unfold opCurrent
  rw [if_neg h4]

end op

/-- `changeState` never fails, and does what the byte asks. -/
theorem changeState_run (msg : UInt8) (env : Env) {w : World} (h : w.Idle) :
    ∃ w', changeState msg env w = .ok () w' ∧ Commanded msg w w' := by
  unfold changeState
  simp only [ite_then]
  by_cases hr : csRx = csRxFlagMask &&& msg
  · have hc : current msg = none := if_pos hr
    have he : ∀ c, effect c msg = if addressed c msg then some (.rx (csOpCodeMask &&& msg)) else none :=
      fun c => if_pos hr
    have hA : effect .afeA msg =
        if csRx = csRxFlagMask &&& msg ∧ csAfeA = csAfeMask &&& msg then some (.rx (csOpCodeMask &&& msg)) else none := by
      rw [he]; simp [addressed, hr]
    have hB : effect .afeB msg =
        if csRx = csRxFlagMask &&& msg ∧ csAfeB = csAfeMask &&& msg then some (.rx (csOpCodeMask &&& msg)) else none := by
      rw [he]; simp [addressed, hr]
    have hn : ¬ csRx ≠ csRxFlagMask &&& msg := fun h => h hr
    simp only [if_neg hn, bind_pure_unit]
    exact commanded_both ((applies_rx .afeA _).ite _) ((applies_rx .afeB _).ite _) hA hB hc env h
  · have hA : ¬ (csRx = csRxFlagMask &&& msg ∧ csAfeA = csAfeMask &&& msg) := fun h => hr h.1
    have hB : ¬ (csRx = csRxFlagMask &&& msg ∧ csAfeB = csAfeMask &&& msg) := fun h => hr h.1
    simp only [if_neg hA, if_neg hB, if_pos hr, pure_bind]
    exact changeOp_run hr env h

/-! ## Channels across a command -/

/-- Channel `c` is in setting `s`: its object's mode and its registers agree. -/
structure InSetting (m : Mem) (l : List Write) (c : Afe) (s : Setting) : Prop where
  mode : (m.afe c).mode = s.mode
  regs : Shows l c (s.regs (m.afe c))

theorem regs_congr {o o' : Amc7891} (hs : o'.vgSetpoint = o.vgSetpoint) (hq : o'.vgQuiescent = o.vgQuiescent)
    (s : Setting) : s.regs o' = s.regs o := by
  cases s with
  | safe => rfl
  | rx gain => unfold Setting.regs; rw [hq]
  | tx => unfold Setting.regs; rw [hs]

theorem rxWrites_chip (c : Afe) (o : Amc7891) (gain : UInt8) : ∀ p ∈ rxWrites c o gain, p.1.1 = c := by
  unfold rxWrites
  cases o.mode <;> simp [dacWrite, gpioWrite]

theorem txWrites_chip (c : Afe) (o : Amc7891) : ∀ p ∈ txWrites c o, p.1.1 = c := by
  unfold txWrites
  cases o.mode <;> simp [dacWrite, gpioWrite]

theorem safeWrites_chip (c : Afe) : ∀ p ∈ safeWrites c, p.1.1 = c := by
  simp [safeWrites, dacWrite, gpioWrite]

theorem requestWrites_chip (c : Afe) (o : Amc7891) (r : Option Setting) : ∀ p ∈ requestWrites c o r, p.1.1 = c := by
  cases r with
  | none => exact fun p hp => absurd hp List.not_mem_nil
  | some s =>
    cases s with
    | safe => exact safeWrites_chip c
    | rx gain => exact rxWrites_chip c o gain
    | tx => exact txWrites_chip c o

/-- The writes to one chip. -/
def toChip (c : Afe) (l : List Write) : List Write := l.filter fun p => p.1.1 = c

theorem toChip_self {c : Afe} {l : List Write} (h : ∀ p ∈ l, p.1.1 = c) : toChip c l = l :=
  List.filter_eq_self.mpr fun p hp => by simpa using h p hp

theorem toChip_other {c : Afe} {l : List Write} (h : ∀ p ∈ l, p.1.1 ≠ c) : toChip c l = [] :=
  List.filter_eq_nil_iff.mpr fun p hp => by simpa using h p hp

theorem toChip_append (c : Afe) (n l : List Write) : toChip c (n ++ l) = toChip c n ++ toChip c l :=
  List.filter_append n l

theorem toChip_cons (c : Afe) (p : Write) (l : List Write) :
    toChip c (p :: l) = if p.1.1 = c then p :: toChip c l else toChip c l := by
  unfold toChip
  by_cases hp : p.1.1 = c
  · rw [if_pos hp, List.filter_cons_of_pos (by simpa using hp)]
  · rw [if_neg hp, List.filter_cons_of_neg (by simpa using hp)]

theorem puts_toChip (r : Regs) (c : Afe) (l : List Write) : r.puts c (toChip c l) = r.puts c l := by
  induction l with
  | nil => rfl
  | cons p l ih =>
    rw [toChip_cons]
    by_cases hp : p.1.1 = c
    · rw [if_pos hp, Regs.puts, Regs.puts, if_pos hp, if_pos hp, ih]
    · rw [if_neg hp, Regs.puts, if_neg hp, ih]

/-- To a channel a command writes what it asks of that channel. -/
theorem commandWrites_toChip (m : Mem) (msg : UInt8) {c : Afe} (hc : c ≠ .afe0) :
    toChip c (commandWrites m msg) = requestWrites c (m.afe c) (effect c msg) := by
  have hA := requestWrites_chip .afeA (m.afe .afeA) (effect .afeA msg)
  have hB := requestWrites_chip .afeB (m.afe .afeB) (effect .afeB msg)
  unfold commandWrites
  rw [toChip_append]
  cases c with
  | afe0 => exact absurd rfl hc
  | afeA =>
    rw [toChip_other fun p hp => by rw [hB p hp]; decide, toChip_self hA]
    rfl
  | afeB => rw [toChip_self hB, toChip_other fun p hp => by rw [hA p hp]; decide, List.append_nil]

theorem commandMem_mode (m : Mem) (msg : UInt8) {c : Afe} (hc : c ≠ .afe0) :
    ((commandMem m msg).afe c).mode = match effect c msg with
      | some s => s.mode
      | none => (m.afe c).mode := by
  unfold commandMem
  cases c with
  | afe0 => exact absurd rfl hc
  | afeA =>
    rw [request_afe_ne _ (by decide)]
    cases effect .afeA msg with
    | none => rfl
    | some s => simp [Mem.request]
  | afeB =>
    have hB := request_afe_ne m (c := .afeA) (d := .afeB) (by decide) (effect .afeA msg)
    cases effect .afeB msg with
    | none => exact congrArg Amc7891.mode hB
    | some s => simp [Mem.request]

theorem commandMem_vg (m : Mem) (msg : UInt8) (c : Afe) :
    ((commandMem m msg).afe c).vgSetpoint = (m.afe c).vgSetpoint ∧
      ((commandMem m msg).afe c).vgQuiescent = (m.afe c).vgQuiescent := by
  have h1 := request_vg m .afeA c (effect .afeA msg)
  have h2 := request_vg (m.request .afeA (effect .afeA msg)) .afeB c (effect .afeB msg)
  exact ⟨h2.1.trans h1.1, h2.2.trans h1.2⟩

/-- A command takes a channel to the setting it asks for, or leaves it in its own. -/
theorem command_inSetting {m : Mem} {l : List Write} {c : Afe} {s : Setting} (hc : c ≠ .afe0)
    (hb : Biased (m.afe c)) (h : InSetting m l c s) (msg : UInt8) :
    InSetting (commandMem m msg) (commandWrites m msg ++ l) c ((effect c msg).getD s) := by
  have hvg := commandMem_vg m msg c
  have hmode := commandMem_mode m msg hc
  have hregs := h.regs.append (commandWrites m msg)
  rw [← puts_toChip, commandWrites_toChip m msg hc] at hregs
  cases he : effect c msg with
  | none =>
    rw [he] at hmode hregs
    refine ⟨hmode.trans h.mode, ?_⟩
    rw [regs_congr hvg.1 hvg.2]
    exact hregs
  | some s' =>
    rw [he] at hmode hregs
    refine ⟨hmode, ?_⟩
    rw [regs_congr hvg.1 hvg.2, Option.getD_some, ← setting_refines c hb h.mode (effect_inRange he)]
    exact hregs

/-- `init` leaves both channels safe. -/
theorem Booted.inSetting {env : Env} {w : World} (h : Booted env w) {c : Afe} (hc : c ≠ .afe0) :
    InSetting w.mem w.writes c .safe := by
  refine ⟨h.modes c, ?_⟩
  obtain ⟨kA, nA, kB, nB, _, _, hw⟩ := h.writes
  have hsafe := fun l => shows_safe l c (w.mem.afe c)
  rw [hw, bringUpWrites, List.append_assoc, List.append_assoc]
  cases c with
  | afe0 => exact absurd rfl hc
  | afeB => exact hsafe _
  | afeA =>
    have hA := (hsafe (calibrationWrites .afeB kB nB ++ calibrationWrites .afeA kA nA ++
      (railWrites (busOff env) ++ powerUpWrites))).append (safeWrites .afeB)
    rwa [puts_other _ _ (by decide)] at hA

end Graviton
