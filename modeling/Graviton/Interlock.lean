/-
  Graviton.Interlock — the RF interlock holds between any two register writes.

  `Locked` and `Raises` state the interlock on the registers of one channel; `safe_guarded`,
  `rx_guarded` and `tx_guarded` check every moment of the three mode changes, from each
  setting. A command is such a change on the channels it asks something of, so any stream of
  commands after `init` keeps the interlock after every single write (`interlock`).
-/
import Graviton.Commands

namespace Graviton
open Effects History

/-! ## The interlock -/

/-- The interlock on the registers of a channel: with the amplifier on the gate is at a bias
    point or pinched off, and it is not biased to transmit into the receive path. -/
structure Locked (o : Amc7891) (r : Regs) : Prop where
  gate : r .paEn = 0x3FF → (r .vgset).toUInt32 = o.vgSetpoint ∨ (r .vgset).toUInt32 = o.vgQuiescent ∨ r .vgset = 0x3FF
  path : ¬ (r .paEn = 0x3FF ∧ (r .vgset).toUInt32 = o.vgSetpoint ∧ r .lnaDis = 0 ∧ r .txSw = 0)

/-- The amplifier goes on only while the gate is pinched off. -/
def Raises (r r' : Regs) : Prop := r .paEn = 0 → r' .paEn = 0x3FF → r .vgset = 0x3FF

theorem locked_off (o : Amc7891) (b d e g : UInt16) : Locked o (mkRegs 0 b d e g) :=
  ⟨fun h => absurd h (by decide : ¬ (0 : UInt16) = 0x3FF), fun h => absurd h.1 (by decide : ¬ (0 : UInt16) = 0x3FF)⟩

theorem locked_pinched {o : Amc7891} (hb : Biased o) (a d e g : UInt16) : Locked o (mkRegs a 0x3FF d e g) := by
  refine ⟨fun _ => Or.inr (Or.inr rfl), fun h => ?_⟩
  have hs : (0x3FF : UInt16).toUInt32 = o.vgSetpoint := h.2.1
  have := hb.setpoint_le
  rw [← hs] at this
  exact absurd this (by decide)

theorem bias_dac {v : UInt32} (h : v.toNat < 1024) : v.toUInt16.toUInt32 = v := by
  have := dac_counts h
  rwa [bias_mask h] at this

theorem locked_quiescent {o : Amc7891} (hb : Biased o) (a d e g : UInt16) :
    Locked o (mkRegs a o.vgQuiescent.toUInt16 d e g) := by
  have hq := bias_dac hb.quiescent_lt
  refine ⟨fun _ => Or.inr (Or.inl hq), fun h => ?_⟩
  have hs : o.vgQuiescent = o.vgSetpoint := hq.symm.trans h.2.1
  have := hb.quiescent
  rw [hs] at this
  omega

theorem locked_setpoint {o : Amc7891} (hb : Biased o) (a d e g : UInt16) (h : e ≠ 0 ∨ d ≠ 0) :
    Locked o (mkRegs a o.vgSetpoint.toUInt16 d e g) := by
  refine ⟨fun _ => Or.inl (bias_dac hb.setpoint_lt), fun hp => ?_⟩
  rcases h with h | h
  · exact h hp.2.2.1
  · exact h hp.2.2.2

theorem raises_same {r r' : Regs} (h : r' .paEn = r .paEn) : Raises r r' := by
  intro h0 h1
  rw [h, h0] at h1
  exact absurd h1 (by decide)

/-- The writes of a mode change, moment by moment. -/
def Guarded (o : Amc7891) (c : Afe) (r : Regs) (k : List Write) : Prop :=
  Locked o (r.puts c k) ∧ Raises (r.puts c k.tail) (r.puts c k)

section

variable {o : Amc7891} (hb : Biased o) (c : Afe)

include hb

theorem safe_guarded (s : Setting) : Always (Guarded o c (s.regs o)) (safeWrites c) := by
  have h0 : (0x03FF : UInt16) &&& gravDacPaEnSafe = 0 := by decide
  cases s <;>
    simp only [safeWrites, Setting.regs, dacWrite, gpioWrite, always_cons, always_nil, Guarded, Regs.puts,
      List.tail_cons, List.tail_nil, if_true, put_paEn, put_vgset, put_txSw, put_lnaDis, put_gpioOut, put_gpioConfig,
      put_amcPower, h0] <;>
    simp [locked_off, locked_pinched hb, locked_quiescent hb, locked_setpoint hb, Raises, mkRegs]

theorem rx_guarded {s : Setting} (hm : o.mode = s.mode) (gain : UInt8) :
    Always (Guarded o c (s.regs o)) (rxWrites c o gain) := by
  have hq := bias_mask hb.quiescent_lt
  have hon : (0x03FF : UInt16) &&& gravDacPaEnTx = 0x3FF := by decide
  cases s <;>
    simp only [rxWrites, hm, Setting.mode, Setting.regs, dacWrite, gpioWrite, if_true, if_false, reduceCtorEq,
      List.cons_append, List.nil_append, List.append_nil, Regs.puts, put_paEn, put_vgset, put_txSw, put_lnaDis,
      put_gpioOut, hq, hon, always_cons, always_nil, Guarded, List.tail_cons, List.tail_nil] <;>
    simp [locked_pinched hb, locked_quiescent hb, locked_setpoint hb, Raises, mkRegs]

theorem tx_guarded {s : Setting} (hm : o.mode = s.mode) : Always (Guarded o c (s.regs o)) (txWrites c o) := by
  have hp := bias_mask hb.setpoint_lt
  have hon : (0x03FF : UInt16) &&& gravDacPaEnTx = 0x3FF := by decide
  have hsw : (0x03FF : UInt16) &&& gravDacTxSwTx ≠ 0 := by decide
  cases s <;>
    simp only [txWrites, hm, Setting.mode, Setting.regs, dacWrite, gpioWrite, if_true, if_false, reduceCtorEq,
      List.cons_append, List.nil_append, List.append_nil, Regs.puts, put_paEn, put_vgset, put_txSw, put_lnaDis,
      put_gpioOut, hp, hon, always_cons, always_nil, Guarded, List.tail_cons, List.tail_nil] <;>
    simp [locked_pinched hb, locked_quiescent hb, locked_setpoint hb, Raises, mkRegs, hsw]

end

/-! ## Moments of a command -/

theorem request_guarded {o : Amc7891} (hb : Biased o) (c : Afe) {s : Setting} (hm : o.mode = s.mode)
    (r : Option Setting) : Always (Guarded o c (s.regs o)) (requestWrites c o r) := by
  cases r with
  | none => exact fun k hk => safe_guarded hb c s k (List.suffix_nil.mp hk ▸ List.nil_suffix)
  | some s' =>
    cases s' with
    | safe => exact safe_guarded hb c s
    | rx gain => exact rx_guarded hb c hm gain
    | tx => exact tx_guarded hb c hm

/-- At every moment of a command each channel is locked: writes to the other one do not count. -/
theorem command_guarded {m : Mem} {c : Afe} {s : Setting} (hc : c ≠ .afe0) (hb : Biased (m.afe c))
    (hm : (m.afe c).mode = s.mode) (msg : UInt8) :
    Always (Guarded (m.afe c) c (s.regs (m.afe c))) (commandWrites m msg) := by
  intro k hk
  have hto : toChip c k <:+ requestWrites c (m.afe c) (effect c msg) := by
    rw [← commandWrites_toChip m msg hc]
    exact hk.filter _
  obtain ⟨hl, hr⟩ := request_guarded hb c hm _ _ hto
  rw [puts_toChip] at hl hr
  refine ⟨hl, ?_⟩
  cases k with
  | nil => exact raises_same rfl
  | cons p k =>
    rw [toChip_cons] at hr
    by_cases hp : p.1.1 = c
    · rw [if_pos hp, List.tail_cons, puts_toChip] at hr
      exact hr
    · refine raises_same ?_
      rw [List.tail_cons, Regs.puts, if_neg hp]

/-! ## Every moment of a stream of commands -/

/-- The interlock on the last writes to channel `c`. -/
structure Interlocked (o : Amc7891) (l : List Write) (c : Afe) : Prop where
  written : ∀ x, (held l c x).isSome
  gate : held l c .paEn = some 0x3FF → ∃ v, held l c .vgset = some v ∧
    (v.toUInt32 = o.vgSetpoint ∨ v.toUInt32 = o.vgQuiescent ∨ v = 0x3FF)
  path : ¬ (held l c .paEn = some 0x3FF ∧ (held l c .vgset).map UInt16.toUInt32 = some o.vgSetpoint ∧
    held l c .lnaDis = some 0 ∧ held l c .txSw = some 0)

/-- The last write of `l` does not switch the amplifier of `c` on, or does so with the gate
    pinched off. -/
def PinchedOff (l : List Write) (c : Afe) : Prop :=
  held l.tail c .paEn = some 0 → held l c .paEn = some 0x3FF → held l.tail c .vgset = some 0x3FF

theorem Shows.interlocked {o : Amc7891} {l : List Write} {c : Afe} {r : Regs} (h : Shows l c r) (hl : Locked o r) :
    Interlocked o l c := by
  refine ⟨fun x => by rw [h x]; rfl, ?_, ?_⟩
  · intro hon
    rw [h .paEn] at hon
    exact ⟨_, h .vgset, hl.gate (Option.some.inj hon)⟩
  · rintro ⟨h1, h2, h3, h4⟩
    rw [h .paEn] at h1
    rw [h .vgset] at h2
    rw [h .lnaDis] at h3
    rw [h .txSw] at h4
    exact hl.path ⟨Option.some.inj h1, Option.some.inj h2, Option.some.inj h3, Option.some.inj h4⟩

theorem Shows.pinchedOff {l : List Write} {c : Afe} {r r' : Regs} (h : Shows l.tail c r) (h' : Shows l c r')
    (hr : Raises r r') : PinchedOff l c := by
  intro h0 h1
  rw [h .paEn] at h0
  rw [h' .paEn] at h1
  rw [h .vgset, hr (Option.some.inj h0) (Option.some.inj h1)]

/-- The state between commands, and what held at every moment since `l0`. -/
structure Guard (o : Afe → Amc7891) (l0 : List Write) (w : World) : Prop where
  idle : w.Idle
  setpoint : ∀ c, (w.mem.afe c).vgSetpoint = (o c).vgSetpoint
  quiescent : ∀ c, (w.mem.afe c).vgQuiescent = (o c).vgQuiescent
  setting : ∀ c, c ≠ .afe0 → ∃ s, InSetting w.mem w.writes c s
  since : l0 <:+ w.writes
  always : Always (fun l => ∀ c, c ≠ .afe0 → l0 <:+ l → Interlocked (o c) l c) w.writes
  raised : Always (fun l => ∀ c, c ≠ .afe0 → l ≠ [] → l0 <:+ l.tail → PinchedOff l c) w.writes

theorem Locked.congr {o o' : Amc7891} {r : Regs} (hs : o'.vgSetpoint = o.vgSetpoint)
    (hq : o'.vgQuiescent = o.vgQuiescent) (h : Locked o' r) : Locked o r := by
  obtain ⟨h1, h2⟩ := h
  rw [hs] at h1 h2
  rw [hq] at h1
  exact ⟨h1, h2⟩

theorem biased_congr {o o' : Amc7891} (hs : o'.vgSetpoint = o.vgSetpoint) (hq : o'.vgQuiescent = o.vgQuiescent)
    (h : Biased o) : Biased o' :=
  ⟨by rw [hs]; exact h.setpoint_ge, by rw [hs]; exact h.setpoint_le, by rw [hs, hq]; exact h.quiescent⟩

theorem Guard.command {o : Afe → Amc7891} {l0 : List Write} {w w' : World} {msg : UInt8}
    (hb : ∀ c, c ≠ .afe0 → Biased (o c)) (h : Guard o l0 w) (hc : Commanded msg w w') : Guard o l0 w' := by
  have hb' : ∀ c, c ≠ .afe0 → Biased (w.mem.afe c) := fun c hc => biased_congr (h.setpoint c) (h.quiescent c) (hb c hc)
  have hvg := commandMem_vg w.mem msg
  -- the registers at the moments of this command
  have hmoment : ∀ c, c ≠ .afe0 → ∃ r, Always (Guarded (w.mem.afe c) c r) (commandWrites w.mem msg) ∧
      ∀ k, Shows (k ++ w.writes) c (r.puts c k) := by
    intro c hc
    obtain ⟨s, hs⟩ := h.setting c hc
    exact ⟨_, command_guarded hc (hb' c hc) hs.mode msg, hs.regs.append⟩
  refine ⟨hc.step.idle, ?_, ?_, ?_, ?_, ?_, ?_⟩
  · intro c
    rw [hc.mem, (hvg c).1, h.setpoint c]
  · intro c
    rw [hc.mem, (hvg c).2, h.quiescent c]
  · intro c hc0
    obtain ⟨s, hs⟩ := h.setting c hc0
    rw [hc.mem, hc.step.writes]
    exact ⟨_, command_inSetting hc0 (hb' c hc0) hs msg⟩
  · rw [hc.step.writes]
    exact List.suffix_append_of_suffix h.since
  · rw [hc.step.writes]
    refine always_append h.always fun k hk _ c hc0 _ => ?_
    obtain ⟨r, hg, hs⟩ := hmoment c hc0
    exact (hs k).interlocked ((hg k hk).1.congr (h.setpoint c) (h.quiescent c))
  · rw [hc.step.writes]
    refine always_append h.raised fun k hk hne c hc0 _ _ => ?_
    obtain ⟨r, hg, hs⟩ := hmoment c hc0
    have ht : Shows (k ++ w.writes).tail c (r.puts c k.tail) := by
      rw [List.tail_append_of_ne_nil hne]
      exact hs k.tail
    exact ht.pinchedOff (hs k) (hg k hk).2

theorem guard_commands {o : Afe → Amc7891} {l0 : List Write} (hb : ∀ c, c ≠ .afe0 → Biased (o c)) (env : Env)
    (bytes : List UInt8) {w : World} (h : Guard o l0 w) :
    ∃ w', forM bytes changeState env w = .ok () w' ∧ Guard o l0 w' := by
  induction bytes generalizing w with
  | nil => exact ⟨w, rfl, h⟩
  | cons msg bytes ih =>
    obtain ⟨w1, hr, hc⟩ := changeState_run msg env h.idle
    obtain ⟨w2, hr2, h2⟩ := ih (h.command hb hc)
    exact ⟨w2, by rw [List.forM_cons, run_bind_ok hr, hr2], h2⟩

/-- After `init`, and through any stream of commands, the interlock holds after every single
    write, and no write switches an amplifier on unless its gate is pinched off. -/
theorem interlock {env : Env} {w0 : World} (h0 : init env reset = .ok () w0) (bytes : List UInt8) :
    ∃ w, forM bytes changeState env w0 = .ok () w ∧
      ∀ l, w0.writes <:+ l → l <:+ w.writes → ∀ c, c ≠ .afe0 →
        Interlocked (w0.mem.afe c) l c ∧ (w0.writes <:+ l.tail → PinchedOff l c) := by
  obtain ⟨-, hboot⟩ := wp_ok (init_wp env) h0
  have hguard : Guard w0.mem.afe w0.writes w0 := by
    refine ⟨hboot.idle, fun _ => rfl, fun _ => rfl, fun c hc => ⟨.safe, hboot.inSetting hc⟩, List.suffix_rfl, ?_, ?_⟩
    · intro l hl c hc hl0
      obtain rfl := hl.eq_of_length_le hl0.length_le
      exact (hboot.inSetting hc).regs.interlocked (locked_off _ _ _ _ _)
    · intro l hl c _ hne hl0
      have h1 := hl.length_le
      have h2 := hl0.length_le
      rw [List.length_tail] at h2
      have h3 := List.length_pos_iff.mpr hne
      omega
  obtain ⟨w, hr, hg⟩ := guard_commands hboot.biased env bytes hguard
  refine ⟨w, hr, fun l hl hl' c hc => ⟨hg.always l hl' c hc hl, fun ht => ?_⟩⟩
  by_cases hne : l = []
  · subst hne
    intro h
    cases h
  · exact hg.raised l hl' c hc hne ht

/-- A channel that transmits, receives and is safed again, and one that receives. -/
theorem interlock_healthy : ∃ w0, init healthyEnv reset = .ok () w0 ∧
    ∃ w, forM [0x03, 0x45, 0x16, 0xC5] changeState healthyEnv w0 = .ok () w ∧
      ∀ l, w0.writes <:+ l → l <:+ w.writes → ∀ c, c ≠ .afe0 →
        Interlocked (w0.mem.afe c) l c ∧ (w0.writes <:+ l.tail → PinchedOff l c) := by
  obtain ⟨w0, h0⟩ := healthy_boots
  exact ⟨w0, h0, interlock h0 _⟩

end Graviton
