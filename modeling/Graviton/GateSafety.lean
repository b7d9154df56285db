/-
  Graviton.GateSafety — what every run does to the gates of the power amplifiers.

  The interlock of `Graviton.Interlock` is about commands after `init`. `gate_safety` is about
  every moment of every run from reset: boot, calibrations, commands and shutdowns. While an
  amplifier is on, its gate is pinched off or within 204 and 400 counts, and it goes on with
  the gate pinched off, or at the 388 counts that a calibration starts from. A moment is
  `Gated` if this holds; a write to another chip keeps it (`Gated.other`), and so do the
  writes of a calibration, a mode change and a shutdown, moment by moment.
-/
import Graviton.Supplies
import Graviton.Interlock
import Graviton.Response

namespace Graviton

open Effects History

/-! ## A moment -/

/-- The codes the gate may stand at while the amplifier is on. -/
def gateCode (v : UInt16) : Bool := v = 0x3FF || (204 ≤ v.toNat && v.toNat ≤ 400)

/-- Channel `c` after the writes `l`, of which the newest was the last step. -/
structure Gated (c : Afe) (l : List Write) : Prop where
  level : held l c .paEn = none ∨ held l c .paEn = some 0 ∨ held l c .paEn = some 0x3FF
  gate : held l c .paEn = some 0x3FF → ∃ v, held l c .vgset = some v ∧ gateCode v = true
  rise : held l.tail c .paEn ≠ some 0x3FF → held l c .paEn = some 0x3FF →
    held l.tail c .vgset = some 0x3FF ∨ held l.tail c .vgset = some 388

section

variable {c : Afe} {n l : List Write}

theorem gated_nil (c : Afe) : Gated c [] := ⟨Or.inl rfl, fun h => (by cases h), fun _ h => (by cases h)⟩

/-- With the amplifier off. -/
theorem gated_off (h : held l c .paEn = some 0) : Gated c l where
  level := Or.inr (Or.inl h)
  gate hon := by rw [h] at hon; cases hon
  rise _ hon := by rw [h] at hon; cases hon

/-- A write to another chip is no step of this channel. -/
theorem Gated.other {p : Write} (h : Gated c l) (hp : p.1.1 ≠ c) : Gated c (p :: l) := by
  have hheld : ∀ x, held (p :: l) c x = held l c x := held_append_of_not (n := [p]) fun q hq => by
    rw [List.mem_singleton.mp hq]
    exact hp
  refine ⟨by rw [hheld]; exact h.level, fun hon => ?_, fun hoff hon => ?_⟩
  · rw [hheld] at hon
    rw [hheld]
    exact h.gate hon
  · rw [hheld] at hon
    exact absurd hon hoff

/-- Moments at which only other chips were written. -/
theorem always_gated_other (h : Always (Gated c) l) (hn : ∀ p ∈ n, p.1.1 ≠ c) : Always (Gated c) (n ++ l) := by
  induction n with
  | nil => exact h
  | cons p n ih =>
    have ht := ih fun q hq => hn q (List.mem_cons_of_mem p hq)
    exact always_cons.mpr ⟨(ht _ List.suffix_rfl).other (hn p List.mem_cons_self), ht⟩

/-- Writes that leave the channel alone until they have switched it off. -/
theorem always_gated_off (h : Always (Gated c) l)
    (hn : ∀ k, k <:+ n → (∀ p ∈ k, p.1.1 ≠ c) ∨ held k c .paEn = some 0) : Always (Gated c) (n ++ l) := by
  refine always_append h fun k hk _ => ?_
  rcases hn k hk with ho | hoff
  · exact always_gated_other h ho _ List.suffix_rfl
  · exact gated_off (lookup_append_some hoff)

end

/-! ## Shutdowns and safe settings -/

theorem safe_off (c : Afe) : ∀ k, k <:+ safeWrites c → (∀ p ∈ k, p.1.1 ≠ c) ∨ held k c .paEn = some 0 := by
  have hall : ∀ k ∈ (safeWrites c).tails, (∀ p ∈ k, p.1.1 ≠ c) ∨ held k c .paEn = some 0 := by cases c <;> decide
  intro k hk
  exact hall k ((List.mem_tails _ _).mpr hk)

theorem always_gated_safe {c d : Afe} {l : List Write} (h : Always (Gated c) l) :
    Always (Gated c) (safeWrites d ++ l) := by
  by_cases hd : d = c
  · subst hd
    exact always_gated_off h (safe_off d)
  · exact always_gated_other h fun p hp => by rw [safeWrites_chip d p hp]; exact hd

theorem always_gated_shutdown {c : Afe} (hc : c ≠ .afe0) {l : List Write} (h : Always (Gated c) l) :
    Always (Gated c) (shutdownWrites ++ l) := by
  have hgrav : ∀ p ∈ gravSafeWrites .afe0, p.1.1 ≠ c := by
    intro p hp
    rw [(by decide : ∀ p ∈ gravSafeWrites .afe0, p.1.1 = .afe0) p hp]
    exact Ne.symm hc
  rw [shutdownWrites, List.append_assoc, List.append_assoc]
  exact always_gated_other (always_gated_safe (always_gated_safe h)) hgrav

/-! ## Calibrations -/

theorem countsAfter_gate {k : Nat} (hk : k ≤ 184) : gateCode (0x03FF &&& (countsAfter k).toUInt16) = true := by
  have hn := countsAfter_toNat k
  have hv : (0x03FF &&& (countsAfter k).toUInt16).toNat = (countsAfter k).toNat := by
    rw [← UInt16.toNat_toUInt32, countsAfter_dac]
  unfold gateCode
  simp only [Bool.or_eq_true, Bool.and_eq_true, decide_eq_true_eq]
  right
  omega

/-- A descent begins with the amplifier off. -/
theorem always_gated_descent {c d : Afe} {l : List Write} (h : Always (Gated c) l)
    (hoff : held l c .paEn = some 0) {k : Nat}
    (hk : k ≤ 184) : Always (Gated c) (descent d k ++ l) := by
  by_cases hd : d = c
  · subst hd
    induction k with
    | zero =>
      have hfirst : held (dacWrite d gravDacVgset (countsAfter 0).toUInt16 :: l) d .paEn = some 0 := by
        rw [← hoff]
        exact lookup_cons_ne (by cases d <;> decide)
      refine always_cons.mpr ⟨?_, always_cons.mpr ⟨gated_off hfirst, h⟩⟩
      obtain ⟨hon, hv⟩ := descent_held d 0 l
      refine ⟨Or.inr (Or.inr hon), fun _ => ⟨_, hv, countsAfter_gate (by omega)⟩, fun _ _ => Or.inr ?_⟩
      exact List.lookup_cons_self
    | succ k ih =>
      obtain ⟨hon, hv⟩ := descent_held d (k + 1) l
      refine always_cons.mpr ⟨⟨Or.inr (Or.inr hon), fun _ => ⟨_, hv, countsAfter_gate hk⟩, fun ht _ => ?_⟩,
        ih (by omega)⟩
      exact absurd (descent_held d k l).1 ht
  · exact always_gated_other h fun p hp => by rw [descent_chip d k p hp]; exact hd

theorem always_gated_calibration {c d : Afe} {l : List Write} (h : Always (Gated c) l) (hoff : held l c .paEn = some 0)
    {k : Nat} {n : UInt32} (hs : Stores k n) : Always (Gated c) (calibrationWrites d k n ++ l) := by
  have hk : k ≤ 184 := by rcases hs with hs | hs <;> omega
  have hd := always_gated_descent h hoff hk (d := d)
  by_cases hdc : d = c
  · subst hdc
    have hne : (d, AfeReg.vgset.addr) ≠ (d, AfeReg.paEn.addr) := by cases d <;> decide
    have hcode : gateCode (0x03FF &&& n.toUInt16) = true := by
      have hn := dac_counts (n := n) (by have := hs.le; omega)
      have hv : (0x03FF &&& n.toUInt16).toNat = n.toNat := by rw [← UInt16.toNat_toUInt32, hn]
      have hge := hs.ge
      have hle := hs.le
      unfold gateCode
      simp only [Bool.or_eq_true, Bool.and_eq_true, decide_eq_true_eq]
      right
      omega
    have hon := (descent_held d k l).1
    have hon' : held (dacWrite d gravDacVgset n.toUInt16 :: (descent d k ++ l)) d .paEn = some 0x3FF := by
      rw [← hon]
      exact lookup_cons_ne hne.symm
    refine always_cons.mpr ⟨gated_off List.lookup_cons_self,
      always_cons.mpr ⟨⟨Or.inr (Or.inr hon'), fun _ => ?_, fun ht _ => ?_⟩, hd⟩⟩
    · exact ⟨_, List.lookup_cons_self, hcode⟩
    · exact absurd hon ht
  · exact always_gated_other h fun p hp => by rw [calibrationWrites_chip d k n p hp]; exact hdc

/-! ## Commands -/

theorem biased_gate {o : Amc7891} (hb : Biased o) {v : UInt16}
    (hv : v.toUInt32 = o.vgSetpoint ∨ v.toUInt32 = o.vgQuiescent ∨ v = 0x3FF) : gateCode v = true := by
  have h1 := hb.setpoint_ge
  have h2 := hb.setpoint_le
  have h3 := hb.quiescent
  have hn : v.toNat = v.toUInt32.toNat := (UInt16.toNat_toUInt32 v).symm
  unfold gateCode
  simp only [Bool.or_eq_true, Bool.and_eq_true, decide_eq_true_eq]
  rcases hv with hv | hv | hv
  · right
    rw [hn, hv]
    omega
  · right
    rw [hn, hv]
    omega
  · exact Or.inl hv

/-- A channel that is off or on, and stays so as long as nothing else is written to `paEn`. -/
def Level (v : UInt16) : Prop := v = 0 ∨ v = 0x3FF

theorem setting_level (s : Setting) (o : Amc7891) : Level (s.regs o .paEn) := by
  cases s with
  | safe => exact Or.inl rfl
  | rx => exact Or.inr rfl
  | tx => exact Or.inr rfl

theorem request_levels (c : Afe) (o : Amc7891) (r : Option Setting) :
    ∀ p ∈ requestWrites c o r, p.1.2 = AfeReg.paEn.addr → Level p.2 := by
  have hne : ∀ x : AfeReg, x ≠ .paEn → x.addr ≠ AfeReg.paEn.addr := by
    intro x
    cases x <;> decide
  have hon : Level (0x03FF &&& gravDacPaEnTx) := Or.inr rfl
  have h1 := hne .vgset (by decide)
  have h2 := hne .txSw (by decide)
  have h3 := hne .lnaDis (by decide)
  have h4 := hne .gpioOut (by decide)
  cases r with
  | none => exact fun p hp => absurd hp List.not_mem_nil
  | some s =>
    cases s with
    | safe =>
      intro p hp ha
      have hall : ∀ p ∈ safeWrites c, p.1.2 = AfeReg.paEn.addr → p.2 = 0 := by cases c <;> decide
      exact Or.inl (hall p hp ha)
    | rx gain =>
      show ∀ p ∈ rxWrites c o gain, _
      unfold rxWrites
      cases o.mode <;> simp_all [dacWrite, gpioWrite, AfeReg.addr]
    | tx =>
      show ∀ p ∈ txWrites c o, _
      unfold txWrites
      cases o.mode <;> simp_all [dacWrite, gpioWrite, AfeReg.addr]

theorem puts_level {r : Regs} {c : Afe} {l : List Write} (hr : Level (r .paEn))
    (hl : ∀ p ∈ toChip c l, p.1.2 = AfeReg.paEn.addr → Level p.2) : Level (r.puts c l .paEn) := by
  induction l with
  | nil => exact hr
  | cons p l ih =>
    rw [toChip_cons] at hl
    by_cases hp : p.1.1 = c
    · rw [if_pos hp] at hl
      rw [Regs.puts, if_pos hp]
      by_cases ha : AfeReg.paEn.addr = p.1.2
      · rw [Regs.put, if_pos ha]
        exact hl p List.mem_cons_self ha.symm
      · rw [Regs.put, if_neg ha]
        exact ih fun q hq => hl q (List.mem_cons_of_mem p hq)
    · rw [if_neg hp] at hl
      rw [Regs.puts, if_neg hp]
      exact ih hl

/-- A command moves a channel between settings through gated moments only. -/
theorem always_gated_command {m : Mem} {l : List Write} {c : Afe} {s : Setting} (hc : c ≠ .afe0) (hb : Biased (m.afe c))
    (hs : InSetting m l c s) (h : Always (Gated c) l) (msg : UInt8) : Always (Gated c) (commandWrites m msg ++ l) := by
  refine always_append h fun k hk hne => ?_
  have hlevel : ∀ k, k <:+ commandWrites m msg → Level ((s.regs (m.afe c)).puts c k .paEn) := by
    intro k hk
    refine puts_level (setting_level s _) fun p hp => ?_
    have hto := (hk.filter fun p => decide (p.1.1 = c)).subset hp
    rw [show (commandWrites m msg).filter _ = _ from commandWrites_toChip m msg hc] at hto
    exact request_levels c _ _ p hto
  obtain ⟨hl, hr⟩ := command_guarded hc hb hs.mode msg k hk
  have hshow := hs.regs.append k
  have htail := hs.regs.append k.tail
  refine ⟨?_, fun hon => ?_, fun hoff hon => ?_⟩
  · rw [hshow .paEn]
    exact (hlevel k hk).elim (fun h => Or.inr (Or.inl (congrArg some h))) fun h => Or.inr (Or.inr (congrArg some h))
  · rw [hshow .paEn] at hon
    exact ⟨_, hshow .vgset, biased_gate hb (hl.gate (Option.some.inj hon))⟩
  · rw [List.tail_append_of_ne_nil hne] at hoff ⊢
    rw [htail .paEn] at hoff
    rw [hshow .paEn] at hon
    have h0 := (hlevel k.tail ((List.tail_suffix k).trans hk)).resolve_right fun h => hoff (congrArg some h)
    exact Or.inl (by rw [htail .vgset, hr h0 (Option.some.inj hon)])

/-! ## Boot -/

/-- Every moment so far was gated, on both channels. -/
def GatesSafe (l : List Write) : Prop := ∀ c, c ≠ .afe0 → Always (Gated c) l

/-- And both amplifiers are off. -/
structure Ready (l : List Write) : Prop where
  off : ∀ c, c ≠ .afe0 → held l c .paEn = some 0
  gated : GatesSafe l

theorem Ready.other {l n : List Write} (h : Ready l) (hn : ∀ c, c ≠ .afe0 → ∀ p ∈ n, p.1.1 ≠ c) : Ready (n ++ l) := by
  refine ⟨fun c hc => ?_, fun c hc => always_gated_other (h.gated c hc) (hn c hc)⟩
  rw [held_append_of_not (hn c hc)]
  exact h.off c hc

theorem Ready.calibration {l : List Write} (h : Ready l) (d : Afe) {k : Nat} {n : UInt32} (hs : Stores k n) :
    Ready (calibrationWrites d k n ++ l) := by
  refine ⟨fun c hc => ?_, fun c hc => always_gated_calibration (h.gated c hc) (h.off c hc) hs⟩
  by_cases hd : d = c
  · subst hd
    exact List.lookup_cons_self
  · rw [held_append_of_not fun p hp => by rw [calibrationWrites_chip d k n p hp]; exact hd]
    exact h.off c hc

theorem Ready.safe {l : List Write} (h : Ready l) (d : Afe) : Ready (safeWrites d ++ l) := by
  refine ⟨fun c hc => ?_, fun c hc => always_gated_safe (h.gated c hc)⟩
  by_cases hd : d = c
  · subst hd
    exact lookup_append_some (by cases d <;> rfl)
  · rw [held_append_of_not fun p hp => by rw [safeWrites_chip d p hp]; exact hd]
    exact h.off c hc

theorem powerUp_ready : Ready powerUpWrites := by
  have hoff : ∀ k ∈ powerUpWrites.tails, ∀ c, held k c .paEn = none ∨ held k c .paEn = some 0 := by
    intro k hk c
    revert k
    cases c <;> decide
  refine ⟨fun c hc => ?_, fun c _ k hk => ?_⟩
  · cases c with
    | afe0 => exact absurd rfl hc
    | afeA => rfl
    | afeB => rfl
  · rcases hoff k ((List.mem_tails _ _).mpr hk) c with h | h
    · refine ⟨Or.inl h, fun hon => ?_, fun _ hon => ?_⟩ <;> rw [h] at hon <;> cases hon
    · exact gated_off h

theorem railed_ready (off : Bool) : Ready (railWrites off ++ powerUpWrites) := by
  refine powerUp_ready.other fun c hc p hp => ?_
  have hafe0 : p.1.1 = .afe0 := by
    cases off with
    | false => exact absurd hp List.not_mem_nil
    | true => exact congrArg (fun p => p.1.1) (List.mem_singleton.mp hp)
  rw [hafe0]
  exact hc.symm

/-- The program leaves both amplifiers off, or ends in a shutdown called with safe gates. -/
def LeavesOff {α : Type} (x : Fw α) : Prop :=
  ∀ env w, w.Idle → Ready w.writes → wp x (fun _ w' => w'.Idle ∧ Ready w'.writes)
    (Exit env fun w' => GatesSafe w'.writes) env w

theorem LeavesOff.bind {α β : Type} {x : Fw α} {f : α → Fw β} (hx : LeavesOff x) (hf : ∀ a, LeavesOff (f a)) :
    LeavesOff (x >>= f) := fun env w h hw =>
  wp_bind.mpr (wp_mono (hx env w h hw) (fun a w1 ⟨h1, hw1⟩ => hf a env w1 h1 hw1) fun _ _ he => he)

theorem ReadOnly.leavesOff {α : Type} {x : Fw α} (hx : ReadOnly x) : LeavesOff x := by
  intro env w h hw
  obtain ⟨a, w1, r1, q1⟩ := hx env w h
  refine wp_of_ok r1 ⟨q1.step.idle, ?_⟩
  rw [q1.step.writes]
  exact hw

theorem leavesOff_dacInit (serial : Port) : LeavesOff (Dac3484.init serial) := by
  intro env w h hw
  obtain ⟨w1, r1, s1, _⟩ := dacInit_run serial env h
  refine wp_of_ok r1 ⟨s1.idle, ?_⟩
  rw [s1.writes]
  exact hw

theorem leavesOff_calibrate (c : Afe) : LeavesOff (calibratePowerAmplifier c) := by
  intro env w h hw
  refine wp_mono (calibrate_wp c env h) ?_ fun e w1 he => he.mono ?_
  · rintro _ w1 ⟨k, n, hc⟩
    refine ⟨hc.step.idle, ?_⟩
    rw [hc.step.writes]
    exact hw.calibration c hc.stores
  · rintro w2 ⟨k, _, hk, hd⟩ d hd0
    rw [hd.step.writes]
    exact always_gated_descent (hw.gated d hd0) (hw.off d hd0) hk

theorem leavesOff_safe (c : Afe) : LeavesOff (switchToSafe c) := by
  intro env w h hw
  obtain ⟨w1, r1, s1, _⟩ := switchToSafe_step c env h
  refine wp_of_ok r1 ⟨s1.idle, ?_⟩
  rw [s1.writes]
  exact hw.safe c

theorem leavesOff_bringUp : LeavesOff initBringUp := by
  unfold initBringUp
  have hlook := (readOnly_dumpTelemetry .pc).leavesOff
  have hline := fun s => (readOnly_printf .pc s []).leavesOff
  refine (hline _).bind fun _ => hlook.bind fun _ => readOnly_lmk04826b.leavesOff.bind fun _ =>
    readOnly_lmk04133.leavesOff.bind fun _ => readOnly_ads42lb69.leavesOff.bind fun _ => ?_
  refine (leavesOff_dacInit .pc).bind fun _ => (leavesOff_calibrate .afeA).bind fun _ =>
    (leavesOff_calibrate .afeB).bind fun _ => ?_
  exact (leavesOff_safe .afeA).bind fun _ => (leavesOff_safe .afeB).bind fun _ => hlook.bind fun _ => hline _

theorem init_gates (env : Env) :
    wp init (fun _ w => Ready w.writes)
      (fun e w => w.writes = [] ∨ Exit env (fun w => GatesSafe w.writes) e w) env reset := by
  unfold init
  cases hosc : env.extOsc oscWorld.log with
  | false =>
    obtain ⟨w1, r1, h1⟩ := powerUp_halts hosc
    exact wp_bind.mpr (wp_of_error r1 (Or.inl h1))
  | true =>
    obtain ⟨w2, r2, q2⟩ := busUnpowered_run env
    have hg : w2.mem.gravMode = .safe := by rw [q2.mem, busTest_mem]; rfl
    obtain ⟨w3, r3, s3, _⟩ := powerRails_run (busOff env) env q2.step.idle hg
    have hw3 : Ready w3.writes := by
      rw [s3.writes, q2.step.writes, busTest_writes]
      exact railed_ready (busOff env)
    refine wp_bind.mpr (wp_of_ok (powerUp_run hosc) (wp_bind.mpr (wp_of_ok r2 (wp_bind.mpr (wp_of_ok r3 ?_)))))
    exact wp_mono (leavesOff_bringUp env w3 s3.idle hw3) (fun _ _ h => h.2) fun _ _ he => Or.inr he

/-! ## Runs of `main` -/

theorem GatesSafe.ran {o : Afe → Amc7891} {w w' : World} {msg : UInt8} (hb : ∀ c, c ≠ .afe0 → Biased (o c))
    (h : GatesSafe w.writes) (hl : Looped o w) (hr : Ran msg w w') : GatesSafe w'.writes := by
  intro c hc
  have hbias : Biased (w.mem.afe c) := biased_congr (hl.setpoint c) (hl.quiescent c) (hb c hc)
  rw [hr.writes]
  refine always_gated_other (always_gated_command hc hbias (hl.setting c hc) (h c hc) msg) fun p hp => ?_
  unfold gateWrites at hp
  split at hp
  · exact absurd hp List.not_mem_nil
  · rw [List.mem_singleton.mp hp]
    exact hc.symm

theorem GatesSafe.moves {o : Afe → Amc7891} {w w' : World} (hb : ∀ c, c ≠ .afe0 → Biased (o c)) (h : GatesSafe w.writes)
    (hl : Looped o w) (hm : Moves w w') : GatesSafe w'.writes := by
  have haside : ∀ {w w' : World}, Aside w w' → w'.writes = w.writes := fun ha => ha.step.writes
  cases hm with
  | aside ha =>
    rw [haside ha]
    exact h
  | ran msg ha hr ha' =>
    rw [haside ha']
    exact GatesSafe.ran hb (by rw [haside ha]; exact h) (hl.aside ha) hr

theorem LoopRun.gates {env : Env} {w0 w : World} (h : LoopRun env w0 w) : GatesSafe w.writes := by
  have hboot := h.booted.2
  induction h with
  | start h0 hp =>
    obtain ⟨w1, r1, a1, _⟩ := prologue_run env hboot.idle
    obtain rfl := (EStateM.Result.ok.inj (r1.symm.trans hp)).2
    have hready : Ready _ := wp_ok (init_gates env) h0
    have hw : w1.writes = _ := a1.step.writes
    rw [hw]
    exact hready.gated
  | step hrun hs ih => exact GatesSafe.moves hboot.biased ih hrun.looped (hs.moves hrun.looped.idle)

/-- How a run ends that does not return to the loop. -/
theorem mainRun_gates (env : Env) (n : Nat) :
    wp (mainRun n) (fun _ w => GatesSafe w.writes)
      (fun e w => w.writes = [] ∨ Exit env (fun w => GatesSafe w.writes) e w) env reset := by
  induction n with
  | zero =>
    cases hr : mainRun 0 env reset with
    | ok v w =>
      obtain ⟨w0, hrun⟩ := mainRun_loops hr
      exact wp_of_ok hr hrun.gates
    | error e w =>
      have hexit := wp_error (init_gates env) (mainRun_zero_error.mp hr)
      exact wp_of_error hr hexit
  | succ n ih =>
    rw [mainRun_succ]
    cases hr : mainRun n env reset with
    | error e w =>
      have hexit := wp_error ih hr
      exact wp_bind.mpr (wp_of_error hr hexit)
    | ok v w =>
      obtain ⟨hv, w0, hrun⟩ := wp_ok (mainRun_wp env n) hr
      have hmoves : ∀ w', Moves w w' → GatesSafe w'.writes := fun w' hm =>
        GatesSafe.moves hrun.booted.2.biased hrun.gates hrun.looped hm
      refine wp_bind.mpr (wp_of_ok hr (wp_mono (mainIteration_wp (by omega) env hrun.looped.idle) ?_ ?_))
      · exact fun _ w' h => hmoves w' h.1
      · exact fun _ _ he => Or.inr (he.mono hmoves)

theorem gates_exit {env : Env} {e : Stop} {w : World}
    (h : w.writes = [] ∨ Exit env (fun w => GatesSafe w.writes) e w) : GatesSafe w.writes := by
  rcases h with hw | he
  · rw [hw]
    exact fun c _ => always_nil.mpr (gated_nil c)
  · obtain ⟨_, w1, _, hg, hs⟩ := he.writes
    rw [hs.writes]
    exact fun c hc => always_gated_shutdown hc (hg c hc)

/-- At every moment of every run, from reset to the last write of a shutdown, an amplifier that
    is on has its gate pinched off or within 204 and 400 counts, and none goes on but with the
    gate pinched off, or at the 388 counts a calibration starts from. -/
theorem gate_safety (env : Env) (n : Nat) : GatesSafe (final (mainRun n env reset)).writes :=
  wp_final (P := fun w => GatesSafe w.writes) (wp_mono (mainRun_gates env n) (fun _ _ h => h) fun _ _ => gates_exit)

/-! ## One chip alone -/

theorem held_toChip (c : Afe) (x : AfeReg) (l : List Write) : held (toChip c l) c x = held l c x := by
  induction l with
  | nil => rfl
  | cons p l ih =>
    obtain ⟨⟨d, addr⟩, v⟩ := p
    unfold held at ih ⊢
    rw [toChip_cons]
    by_cases hd : d = c
    · rw [if_pos hd, List.lookup_cons, List.lookup_cons, ih]
    · rw [if_neg hd, ih, lookup_cons_ne fun h => hd (Prod.mk.inj h).1.symm]

/-- The writes to chip `c` alone show whether its gate is safe. -/
theorem always_gated_toChip {c : Afe} {l : List Write} (h : Always (Gated c) l) : Always (Gated c) (toChip c l) := by
  induction l with
  | nil => exact h
  | cons p l ih =>
    obtain ⟨hp, hl⟩ := always_cons.mp h
    have heq := toChip_cons c p l
    by_cases hc : p.1.1 = c
    · rw [if_pos hc] at heq
      rw [heq]
      have hheld : ∀ x, held (p :: toChip c l) c x = held (p :: l) c x := fun x => by rw [← heq, held_toChip]
      refine always_cons.mpr ⟨⟨?_, ?_, ?_⟩, ih hl⟩
      · rw [hheld]
        exact hp.level
      · rw [hheld, hheld]
        exact hp.gate
      · rw [List.tail_cons, hheld, held_toChip, held_toChip]
        exact hp.rise
    · rw [if_neg hc] at heq
      rw [heq]
      exact ih hl

end Graviton
