/-
  Graviton.Settings — what an AFE channel is set to, abstractly and in registers.

  A channel is safe, receives with a gain, or transmits (`Setting`); each setting fixes the
  five registers its mode is made of (`Setting.regs`). `Shows l c r` says that after the
  register writes `l` chip `c` holds `r`, each register holding the value last written.
  `setting_refines` is the refinement: the writes of a mode change, which depend on the
  mode the object was in, take the registers of that mode's setting to those of the new one.
-/
import Graviton.Firmware

namespace Graviton

open Effects History

/-! ## Registers of a channel -/

/-- The registers a mode is made of. -/
inductive AfeReg where
  | paEn
  | vgset
  | txSw
  | lnaDis
  | gpioOut
  deriving DecidableEq, Repr

def AfeReg.addr : AfeReg → UInt8
  | .paEn => Amc7891.dacData gravDacPaEn
  | .vgset => Amc7891.dacData gravDacVgset
  | .txSw => Amc7891.dacData gravDacTxSw
  | .lnaDis => Amc7891.dacData gravTxLnaDis
  | .gpioOut => amcGpioOut

/-- What register `x` of chip `c` holds after the writes `l`. -/
def held (l : List Write) (c : Afe) (x : AfeReg) : Option UInt16 := l.lookup (c, x.addr)

abbrev Regs := AfeReg → UInt16

def mkRegs (paEn vgset txSw lnaDis gpioOut : UInt16) : Regs
  | .paEn => paEn
  | .vgset => vgset
  | .txSw => txSw
  | .lnaDis => lnaDis
  | .gpioOut => gpioOut

/-- After the writes `l`, chip `c` holds `r`. -/
def Shows (l : List Write) (c : Afe) (r : Regs) : Prop := ∀ x, held l c x = some (r x)

/-- The registers after `v` was written at `addr`. -/
def Regs.put (r : Regs) (addr : UInt8) (v : UInt16) : Regs := fun x => if x.addr = addr then v else r x

/-- The registers after the writes `l`, as far as they went to chip `c`. -/
def Regs.puts (r : Regs) (c : Afe) : List Write → Regs
  | [] => r
  | p :: l => if p.1.1 = c then (r.puts c l).put p.1.2 p.2 else r.puts c l

theorem Shows.put {l : List Write} {c : Afe} {r : Regs} (h : Shows l c r) (addr : UInt8) (v : UInt16) :
    Shows (((c, addr), v) :: l) c (r.put addr v) := by
  intro x
  by_cases hx : x.addr = addr
  · subst hx
    rw [Regs.put, if_pos rfl]
    exact List.lookup_cons_self
  · rw [Regs.put, if_neg hx]
    exact (lookup_cons_ne fun e => hx (Prod.mk.inj e).2).trans (h x)

theorem Shows.other {l : List Write} {c : Afe} {r : Regs} (h : Shows l c r) {p : Write} (hp : p.1.1 ≠ c) :
    Shows (p :: l) c r := by
  intro x
  obtain ⟨k, v⟩ := p
  exact (lookup_cons_ne fun e => hp (by rw [← e])).trans (h x)

/-- More writes take the registers along. -/
theorem Shows.append {l : List Write} {c : Afe} {r : Regs} (h : Shows l c r) (n : List Write) :
    Shows (n ++ l) c (r.puts c n) := by
  induction n with
  | nil => exact h
  | cons p n ih =>
    obtain ⟨⟨d, addr⟩, v⟩ := p
    by_cases hd : d = c
    · subst hd
      rw [Regs.puts, if_pos rfl]
      exact ih.put addr v
    · rw [Regs.puts, if_neg hd]
      exact ih.other hd

theorem puts_other (r : Regs) (c : Afe) {n : List Write} (h : ∀ p ∈ n, p.1.1 ≠ c) : r.puts c n = r := by
  induction n with
  | nil => rfl
  | cons p n ih =>
    rw [Regs.puts, if_neg (h p List.mem_cons_self)]
    exact ih fun q hq => h q (List.mem_cons_of_mem p hq)

/-! ## Settings -/

inductive Setting where
  | safe
  | rx (gain : UInt8)
  | tx
  deriving DecidableEq, Repr

def Setting.mode : Setting → AmcMode
  | .safe => .safe
  | .rx _ => .rx
  | .tx => .tx

/-- The registers of a setting, with the bias points of the object. -/
def Setting.regs (o : Amc7891) : Setting → Regs
  | .safe => mkRegs 0 0x3FF 0 0x3FF gravAfeSafe
  | .rx gain => mkRegs 0x3FF o.vgQuiescent.toUInt16 0 0x3FF (gravAfeReceive ||| gain.toUInt16 <<< 1)
  | .tx => mkRegs 0x3FF o.vgSetpoint.toUInt16 0x2A3 0 gravAfeTransmit

/-- The bias points a calibration leaves. -/
structure Biased (o : Amc7891) : Prop where
  setpoint_ge : 207 ≤ o.vgSetpoint.toNat
  setpoint_le : o.vgSetpoint.toNat ≤ 390
  quiescent : o.vgQuiescent.toNat = o.vgSetpoint.toNat + 10

/-- The writes that bring about setting `s` on an object in state `o`. -/
def settingWrites (c : Afe) (o : Amc7891) : Setting → List Write
  | .safe => safeWrites c
  | .rx gain => rxWrites c o gain
  | .tx => txWrites c o

/-- A gain has the six bits of an op code. -/
def Setting.InRange : Setting → Prop
  | .rx gain => gain.toNat < 64
  | _ => True

/-! ## Mode changes refine settings -/

section put

variable (a b d e g v : UInt16)

@[simp] theorem put_paEn : Regs.put (mkRegs a b d e g) (Amc7891.dacData gravDacPaEn) v = mkRegs v b d e g := by
  funext x; cases x <;> rfl

@[simp] theorem put_vgset : Regs.put (mkRegs a b d e g) (Amc7891.dacData gravDacVgset) v = mkRegs a v d e g := by
  funext x; cases x <;> rfl

@[simp] theorem put_txSw : Regs.put (mkRegs a b d e g) (Amc7891.dacData gravDacTxSw) v = mkRegs a b v e g := by
  funext x; cases x <;> rfl

@[simp] theorem put_lnaDis : Regs.put (mkRegs a b d e g) (Amc7891.dacData gravTxLnaDis) v = mkRegs a b d v g := by
  funext x; cases x <;> rfl

@[simp] theorem put_gpioOut : Regs.put (mkRegs a b d e g) amcGpioOut v = mkRegs a b d e v := by
  funext x; cases x <;> rfl

@[simp] theorem put_gpioConfig (r : Regs) : r.put amcGpioConfig v = r := by
  funext x; cases x <;> rfl

@[simp] theorem put_amcPower (r : Regs) : r.put amcAmcPower v = r := by
  funext x; cases x <;> rfl

end put

/-- A gain of six bits, shifted, stays inside the field of the DSA. -/
theorem dsa_field (n : Fin 64) :
    (0x0FFF : UInt16) &&& (gravAfeReceive ||| (((UInt8.ofNat n.val).toUInt16 <<< 1) &&& (0x7E : UInt16))) =
      gravAfeReceive ||| (UInt8.ofNat n.val).toUInt16 <<< 1 := by
  revert n; decide +kernel

theorem rx_gpio {gain : UInt8} (h : gain.toNat < 64) :
    (0x0FFF : UInt16) &&& (gravAfeReceive ||| ((gain.toUInt16 <<< 1) &&& (0x7E : UInt16))) =
      gravAfeReceive ||| gain.toUInt16 <<< 1 := by
  have he : UInt8.ofNat gain.toNat = gain := UInt8.ofNat_toNat
  have := dsa_field ⟨gain.toNat, h⟩
  rwa [he] at this

/-- A bias point fits in the 10 bits of a DAC. -/
theorem bias_mask {v : UInt32} (h : v.toNat < 1024) : (0x03FF : UInt16) &&& v.toUInt16 = v.toUInt16 := by
  apply UInt16.toNat_inj.mp
  have hm : (0x03FF : UInt16).toNat &&& v.toUInt16.toNat = v.toUInt16.toNat % 1024 := by
    rw [Nat.and_comm]; exact Nat.and_two_pow_sub_one_eq_mod _ 10
  rw [UInt16.toNat_and, hm, UInt32.toNat_toUInt16]
  omega

theorem Biased.quiescent_lt {o : Amc7891} (h : Biased o) : o.vgQuiescent.toNat < 1024 := by
  have := h.quiescent; have := h.setpoint_le; omega

theorem Biased.setpoint_lt {o : Amc7891} (h : Biased o) : o.vgSetpoint.toNat < 1024 := by
  have := h.setpoint_le; omega

theorem puts_safe (a b d e g : UInt16) (c : Afe) (o : Amc7891) :
    Regs.puts (mkRegs a b d e g) c (safeWrites c) = Setting.safe.regs o := by
  simp only [safeWrites, Regs.puts, dacWrite, gpioWrite, if_true, put_paEn, put_vgset, put_txSw, put_lnaDis,
    put_gpioOut, put_gpioConfig, put_amcPower]
  rfl

/-- The writes of `switch_to_safe` set every register, whatever was written before. -/
theorem shows_safe (l : List Write) (c : Afe) (o : Amc7891) : Shows (safeWrites c ++ l) c (Setting.safe.regs o) := by
  intro x
  cases c <;> cases x <;> rfl

/-- From the registers of a setting in the object's mode, the writes of a mode change lead
    to those of the new setting. -/
theorem setting_refines (c : Afe) {o : Amc7891} (hb : Biased o) {s s' : Setting} (hm : o.mode = s.mode)
    (hs : s'.InRange) : (s.regs o).puts c (settingWrites c o s') = s'.regs o := by
  have hq := bias_mask hb.quiescent_lt
  have hp := bias_mask hb.setpoint_lt
  cases s' with
  | safe => cases s <;> exact puts_safe _ _ _ _ _ c o
  | rx gain =>
    have hg := rx_gpio hs
    cases s <;>
      simp only [settingWrites, rxWrites, hm, Setting.mode, Setting.regs, dacWrite, gpioWrite, if_true, if_false,
        reduceCtorEq, List.cons_append, List.nil_append, List.append_nil, Regs.puts, put_paEn, put_vgset, put_txSw,
        put_lnaDis, put_gpioOut, hq, hg] <;> rfl
  | tx =>
    cases s <;>
      simp only [settingWrites, txWrites, hm, Setting.mode, Setting.regs, dacWrite, gpioWrite, if_true, if_false,
        reduceCtorEq, List.cons_append, List.nil_append, List.append_nil, Regs.puts, put_paEn, put_vgset, put_txSw,
        put_lnaDis, put_gpioOut, hp] <;> rfl

end Graviton
