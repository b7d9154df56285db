/-
  Graviton.ClockSources — the oscillators and the PLL of the clock tree.

  Both switches begin with a reset of the clocks (`reset_stage`) and go on to `HAL_RCC_OscConfig`,
  which leaves the oscillator running and the PLL locked to it (`osc_stage`).
-/
import Graviton.ClockSafety

namespace Graviton.Clock

open Effects History Fields

variable {hw : Rcc} {l n : List RccEvent}

/-! ## The reset of the clocks -/

/-- The external oscillator and the PLL off, the internal one selected, and no dividers. -/
theorem reset_stage {fuel : Nat} (h : Safe hw l) :
    wp resetClocks (fun _ l' => Stage hw (fieldsOf 1 0 0) l') (Stops hw fuel) hw l := by
  have h0 : Stage hw (fieldsOf (hw.value l .cr &&& RccReg.cr.fields) (hw.value l .cfgr &&& RccReg.cfgr.fields)
      (hw.value l .cfgr2 &&& RccReg.cfgr2.fields)) l := by
    refine ⟨fun r => ?_, h⟩
    cases r <;> simp [fieldsOf, RccReg.fields]
  generalize hw.value l .cr = a at h0
  generalize hw.value l .cfgr = b at h0
  generalize hw.value l .cfgr2 = c at h0
  have h1 := h0.cr (takes_or .cr 0x00000001 _) (allowed_kept (lost_or _ _ _) fun hoff hon => by
    rw [BitVec.and_or_distrib_right, hoff] at hon
    exact absurd (by decide) hon)
  have hon : (a &&& RccReg.cr.fields ||| 0x00000001 &&& RccReg.cr.fields) &&& crHsion = crHsion :=
    or_keeps _ (by decide)
  have h2 := h1.cfgr (takes_and .cfgr 0xF87FC00C _) (fun hne => absurd (and_mask _ (by decide)) hne) fun _ =>
    Or.inl ⟨and_clears _ (by decide), by rw [hon]; decide⟩
  generalize hb2 : b &&& RccReg.cfgr.fields &&& 0xF87FC00C = b2 at h2
  have hsw : b2 &&& cfgrSw = 0 := by
    rw [← hb2]
    exact and_clears _ (by decide)
  generalize ha1 : a &&& RccReg.cr.fields ||| 0x00000001 &&& RccReg.cr.fields = a1 at h2 hon
  -- the external oscillator and the PLL go off right after the internal one was selected
  have hpll : a1 &&& 0xFEF6FFFF &&& crPllon = 0 := and_clears a1 (by decide)
  have h3 := h2.cr (takes_and .cr 0xFEF6FFFF a1)
    { selected := fun _ => by
        rw [hsw, show enable 0 = crHsion from rfl, and_mask a1 (show 0xFEF6FFFF &&& crHsion = crHsion by decide), hon]
        decide
      source := fun hon => absurd hpll hon
      off := fun _ => ⟨_, _, _, rfl, and_clears _ (by decide)⟩
      on := fun _ hon => absurd hpll hon }
  have h4 := h3.cr (takes_and .cr 0xFFFBFFFF _) (allowed_kept (lost_and _ (by decide)) fun _ hon =>
    absurd (by rw [and_mask _ (show 0xFFFBFFFF &&& crPllon = crPllon by decide), hpll]) hon)
  have ha4 : a1 &&& 0xFEF6FFFF &&& 0xFFFBFFFF = 1 := by
    rw [← ha1, BitVec.and_assoc, BitVec.and_or_distrib_right, and_mask a (show RccReg.cr.fields &&& _ = 1 by decide)]
    exact and_or_self a
  rw [ha4] at h4
  have hb5 : b2 &&& 0xFF80FFFF = 0 := by
    rw [← hb2, BitVec.and_assoc]
    exact and_clears b (by decide)
  have h5 := h4.cfgr (takes_and .cfgr 0xFF80FFFF b2) (fun _ => ⟨by decide, Or.inl (by rw [hb5]; rfl)⟩) fun hne =>
    absurd (and_mask b2 (by decide)) hne
  rw [hb5] at h5
  have h6 := h5.cfgr2 (takes_and .cfgr2 0xFFFFFFF0 _) (by decide)
  rw [and_clears c (show RccReg.cfgr2.fields &&& 0xFFFFFFF0 = 0 by decide)] at h6
  exact wp_of_ok rfl (((h6.read .cfgr3 _).aside (r := .cfgr3) rfl nofun).aside (r := .cir) rfl nofun)

/-! ## Looks at the clock tree -/

theorem observed_looks {status : Word} (h : observed hw status l = true) (hn : Looks n) :
    observed hw status (n ++ l) = true := by
  induction n with
  | nil => exact h
  | cons e n ih =>
    have hn' := ih fun e he => hn e (List.mem_cons_of_mem _ he)
    cases e with
    | read r v => cases r <;> simp [observed, hn']
    | tick t => exact hn'
    | write r v => exact absurd rfl (hn _ List.mem_cons_self r v)

variable {E : HalStop → List RccEvent → Prop}

/-- An oscillator drives the system clock if the switch status reads so, or the PLL is set to it. -/
theorem drives_wp (status source : Word) :
    wp (drivesSysclk status source) (fun b l' => ∃ n, Looks n ∧ l' = n ++ l ∧
      (b = true → (∃ v, .read .cfgr v ∈ n ∧ v &&& cfgrSws = status) ∨ hw.value l .cfgr &&& cfgrPllsrc = source))
      E hw l := by
  have hread : ∀ k, hw.reads k .cfgr &&& cfgrPllsrc = hw.value k .cfgr &&& cfgrPllsrc := fun k => read_out (by decide)
  refine wp_bind.mpr (wp_of_ok rfl (wp_ite.mpr ⟨fun h1 => ?_, fun _ => ?_⟩))
  · exact wp_of_ok rfl ⟨[_], looks_read .cfgr _ looks_nil, rfl, fun _ => Or.inl ⟨_, List.mem_cons_self, h1⟩⟩
  · refine wp_bind.mpr (wp_of_ok rfl (wp_ite.mpr ⟨fun _ => ?_, fun _ => ?_⟩))
    · refine wp_of_ok rfl ⟨[_, _, _], looks_read .cfgr _ (looks_read .cfgr _ (looks_read .cfgr _ looks_nil)), rfl,
        fun hb => Or.inr ?_⟩
      have hsrc := of_decide_eq_true hb
      rw [hread] at hsrc
      exact hsrc
    · exact wp_of_ok rfl ⟨[_, _], looks_read .cfgr _ (looks_read .cfgr _ looks_nil), rfl, fun hb => by cases hb⟩

/-! ## The oscillators -/

/-- What a switch configures, to the external oscillator or to the internal one. -/
def oscInit : Bool → OscInit → OscInit
  | true => extOscInit
  | false => intOscInit

/-- The external oscillator runs, switched on or left alone as the system clock. -/
def Ready (hw : Rcc) (cr : Word) (l : List RccEvent) : Prop := (cr = 1 ∨ cr = 0x50001) ∧ hseRuns hw l = true

theorem hseRuns_seen {v : Word} (hn : Looks n) (hm : .read .cfgr v ∈ n) (hv : v &&& cfgrSws = sysclksourceStatusHse) :
    hseRuns hw (n ++ l) = true := by
  obtain ⟨n1, n2, rfl⟩ := List.append_of_mem hm
  rw [List.append_assoc]
  refine hseRuns_spares ?_ fun v hv => hn.spares .cr v (List.mem_append_left _ hv)
  simp [hseRuns, hv]

theorem hseRuns_ready {v : Word} (hon : hw.value l .cr &&& crHseon ≠ 0) (hv : (v &&& crHserdy == 0) = false) :
    hseRuns hw (.read .cr v :: l) = true := by
  simp only [hseRuns, Bool.or_eq_true, Bool.and_eq_true, bne_iff_ne]
  exact Or.inl ⟨beq_eq_false_iff_ne.mp hv, hon⟩

theorem hseConfig_bypass : hseConfig hseBypass = (modifyReg .cr 0 crHsebyp >>= fun _ => modifyReg .cr 0 crHseon) := rfl

theorem hseConfig_off : hseConfig hseOff = (modifyReg .cr crHseon 0 >>= fun _ => modifyReg .cr crHsebyp 0) := rfl

/-- The external oscillator is on and ready, or drives the system clock. -/
theorem hse_ext {fuel : Nat} (stack : OscInit) (h : Stage hw (fieldsOf 1 0 0) l) :
    wp (oscConfigHse fuel (extOscInit stack)) (fun _ l' => ∃ cr, Stage hw (fieldsOf cr 0 0) l' ∧ Ready hw cr l')
      (Stops hw fuel) hw l := by
  refine wp_bind.mpr (wp_mono (drives_wp _ _) ?_ fun _ _ he => he)
  rintro b _ ⟨n, hn, rfl, hb⟩
  have h1 := h.looks hn
  refine wp_ite.mpr ⟨fun ht => ?_, fun _ => ?_⟩
  · obtain ⟨v, hm, hv⟩ := (hb ht).resolve_right fun hsrc => by
      rw [h.part (r := .cfgr) (by decide)] at hsrc
      exact absurd hsrc (by decide)
    refine wp_bind.mpr (wp_of_ok rfl (wp_ite.mpr ⟨fun hoff => ?_, fun _ => wp_pure.mpr ?_⟩))
    · rw [show ((extOscInit stack).hseState == hseOff) = false from rfl, Bool.and_false] at hoff
      cases hoff
    · exact ⟨1, h1.read .cr _, Or.inl rfl,
        hseRuns_spares (n := [_]) (hseRuns_seen hn hm hv) ((looks_read _ _ looks_nil).spares .cr)⟩
  · rw [show (extOscInit stack).hseState = hseBypass from rfl, hseConfig_bypass]
    have h2 := h1.cr (takes_modify .cr 0 crHsebyp 1) (allowed_kept (by decide) fun _ hon => absurd (by decide) hon)
    have h3 := h2.cr (takes_modify .cr 0 crHseon _) (allowed_kept (by decide) fun _ hon => absurd (by decide) hon)
    have h4 := h3.cfgr2 (takes_modify .cfgr2 cfgr2Prediv 0 0) (by decide)
    refine wp_bind.mpr (wp_bind.mpr (wp_of_ok rfl (wp_of_ok rfl
      (wp_bind.mpr (wp_of_ok rfl (wp_ite.mpr ⟨fun _ => ?_, fun hoff => ?_⟩))))))
    · refine wp_mono (wait_wp fuel (by decide) .cr _ h4.safe) ?_ fun _ _ he => he
      rintro _ _ ⟨n, hn, hbusy, rfl⟩
      refine ⟨0x50001, (h4.looks hn).read .cr _, Or.inr rfl, hseRuns_ready (fun hoff => ?_) hbusy⟩
      have hon := (h4.looks hn).part (r := .cr) (m := crHseon) (by decide)
      exact absurd (hon.symm.trans hoff) (by decide)
    · exact absurd (by decide) hoff

/-- The external oscillator is off; the divider holds what was on the stack. -/
theorem hse_int {fuel : Nat} (stack : OscInit) (h : Stage hw (fieldsOf 1 0 0) l) :
    wp (oscConfigHse fuel (intOscInit stack)) (fun _ l' => ∃ prediv, Stage hw (fieldsOf 1 0 prediv) l')
      (Stops hw fuel) hw l := by
  refine wp_bind.mpr (wp_mono (drives_wp _ _) ?_ fun _ _ he => he)
  rintro b _ ⟨n, hn, rfl, _⟩
  have h1 := h.looks hn
  refine wp_ite.mpr ⟨fun _ => ?_, fun _ => ?_⟩
  · refine wp_bind.mpr (wp_of_ok rfl (wp_ite.mpr ⟨fun _ => wp_stop.mpr ⟨(h1.read .cr _).safe, nofun⟩, fun _ => ?_⟩))
    exact wp_pure.mpr ⟨0, h1.read .cr _⟩
  · rw [show (intOscInit stack).hseState = hseOff from rfl, hseConfig_off]
    have h2 := h1.cr (takes_modify .cr crHseon 0 1) (allowed_kept (by decide) fun _ hon => absurd (by decide) hon)
    have h3 := h2.cr (takes_modify .cr crHsebyp 0 _) (allowed_kept (by decide) fun _ hon => absurd (by decide) hon)
    have h4 := h3.cfgr2 (takes_modify .cfgr2 cfgr2Prediv (intOscInit stack).hsePredivValue 0) (by decide)
    refine wp_bind.mpr (wp_bind.mpr (wp_of_ok rfl (wp_of_ok rfl
      (wp_bind.mpr (wp_of_ok rfl (wp_ite.mpr ⟨fun hon => ?_, fun _ => ?_⟩))))))
    · exact absurd rfl hon
    · refine wp_mono (wait_wp fuel (by decide) .cr _ h4.safe) ?_ fun _ _ he => he
      rintro _ _ ⟨n, hn, _, rfl⟩
      exact ⟨_, (h4.looks hn).read .cr _⟩

/-- The internal oscillator is calibrated, and on. -/
theorem hsi_int {fuel : Nat} (stack : OscInit) {prediv : Word} (h : Stage hw (fieldsOf 1 0 prediv) l) :
    wp (oscConfigHsi fuel (intOscInit stack)) (fun _ l' => Stage hw (fieldsOf 1 0 prediv) l') (Stops hw fuel) hw l := by
  have hadjust : ∀ {l}, Stage hw (fieldsOf 1 0 prediv) l →
      wp (hsiCalibrationvalueAdjust hsicalibrationDefault) (fun _ l' => Stage hw (fieldsOf 1 0 prediv) l')
        (Stops hw fuel) hw l :=
    fun h => wp_of_ok rfl (h.cr (takes_modify .cr crHsitrim (hsicalibrationDefault <<< 3) 1)
      (allowed_kept (by decide) fun _ hon => absurd (by decide) hon))
  refine wp_bind.mpr (wp_mono (drives_wp _ _) ?_ fun _ _ he => he)
  rintro b _ ⟨n, hn, rfl, _⟩
  have h1 := h.looks hn
  refine wp_ite.mpr ⟨fun _ => ?_, fun _ => wp_ite.mpr
    ⟨fun _ => ?_, fun hoff => absurd (by decide : hsiOn ≠ hsiOff) hoff⟩⟩
  · refine wp_bind.mpr (wp_of_ok rfl (wp_ite.mpr ⟨fun _ => wp_stop.mpr ⟨(h1.read .cr _).safe, nofun⟩, fun _ => ?_⟩))
    exact hadjust (h1.read .cr _)
  · have h2 := h1.cr (takes_modify .cr 0 crHsion 1) (allowed_kept (by decide) fun _ hon => absurd (by decide) hon)
    refine wp_bind.mpr (wp_of_ok rfl (wp_bind.mpr (wp_mono
      (wait_wp fuel (by decide) .cr _ h2.safe) ?_ fun _ _ he => he)))
    rintro _ _ ⟨n, hn, _, rfl⟩
    exact hadjust ((h2.looks hn).read .cr _)

/-! ## The PLL -/

/-- The multiplier and the source a switch sets the PLL to. -/
def pllImage : Bool → Word
  | true => 0x001D0000
  | false => 0x00380000

/-- What is known before the PLL is set up: the fields of `CR`, and the source of the PLL. -/
def Sourced (hw : Rcc) (ext : Bool) (cr : Word) (l : List RccEvent) : Prop := if ext then Ready hw cr l else cr = 1

theorem Ready.spares {cr : Word} (h : Ready hw cr l) (hn : Spares .cr n) : Ready hw cr (n ++ l) :=
  ⟨h.1, hseRuns_spares h.2 hn⟩

theorem hseRuns_cr (h : hseRuns hw l = true) {g : Word → Word}
    (hg : g (hw.reads l .cr) &&& crHseon = hw.value l .cr &&& crHseon) : hseRuns hw (hw.updated l .cr g) = true := by
  have hv : hw.value (.read .cr (hw.reads l .cr) :: l) .cr = hw.value l .cr := rfl
  simp only [Rcc.updated, hseRuns, hv, hg, h, bne]
  cases hw.value l .cr &&& crHseon == 0 <;> simp

/-- An update that selects no other clock. -/
theorem observed_cfgr {status : Word} (h : observed hw status l = true) {g : Word → Word}
    (hg : g (hw.reads l .cfgr) &&& cfgrSw = hw.value l .cfgr &&& cfgrSw) :
    observed hw status (hw.updated l .cfgr g) = true := by
  have hv : hw.value (.read .cfgr (hw.reads l .cfgr) :: l) .cfgr = hw.value l .cfgr := rfl
  simp [Rcc.updated, observed, hv, hg, h]

theorem Sourced.fields {ext : Bool} {cr : Word} (h : Sourced hw ext cr l) : cr = 1 ∨ cr = 0x50001 := by
  cases ext with
  | true => exact h.1
  | false => exact Or.inl h

theorem Sourced.keeps {ext : Bool} {cr : Word} {l l' : List RccEvent} (h : Sourced hw ext cr l)
    (hr : Ready hw cr l → Ready hw cr l') :
    Sourced hw ext cr l' := by
  cases ext with
  | true => exact hr h
  | false => exact h

theorem Sourced.looks {ext : Bool} {cr : Word} (h : Sourced hw ext cr l) (hn : Looks n) : Sourced hw ext cr (n ++ l) :=
  h.keeps fun hr => hr.spares (hn.spares .cr)

theorem Sourced.cfgr {ext : Bool} {cr : Word} (h : Sourced hw ext cr l) (g : Word → Word) :
    Sourced hw ext cr (hw.updated l .cfgr g) :=
  h.keeps fun hr => hr.spares (n := [_, _]) fun v hv => by simp at hv

theorem Sourced.cr {ext : Bool} {cr : Word} (h : Sourced hw ext cr l) {g : Word → Word}
    (hg : g (hw.reads l .cr) &&& crHseon = hw.value l .cr &&& crHseon) : Sourced hw ext cr (hw.updated l .cr g) :=
  h.keeps fun hr => ⟨hr.1, hseRuns_cr hr.2 hg⟩

theorem Sourced.fed {ext : Bool} {cr prediv : Word} (hs : Sourced hw ext cr l)
    (h : Stage hw (fieldsOf cr (pllImage ext) prediv) l) : Fed hw l := by
  have hsrc := h.part (by decide : RccReg.cfgr.fields &&& cfgrPllsrc = cfgrPllsrc)
  have hhsi := h.part (by decide : RccReg.cr.fields &&& crHsion = crHsion)
  unfold Fed
  rw [hsrc, hhsi]
  show if pllImage ext &&& cfgrPllsrc = _ then cr &&& crHsion ≠ 0 else _
  cases ext with
  | false =>
    obtain rfl : cr = 1 := hs
    rw [if_pos (by decide : pllImage false &&& cfgrPllsrc = pllsourceHsi)]
    exact (by decide : (1 : Word) &&& crHsion ≠ 0)
  | true =>
    rw [if_neg (by decide : ¬ pllImage true &&& cfgrPllsrc = pllsourceHsi)]
    exact hs.2

/-- The PLL set up while off, and switched on with its source running. -/
theorem pll_on {fuel : Nat} (ext : Bool) {cr prediv : Word} (h : Stage hw (fieldsOf cr 0 prediv) l)
    (hs : Sourced hw ext cr l) :
    wp (do
      modifyReg .cr crPllon 0
      waitWhile fuel pllTimeout .cr fun v => v &&& crPllrdy != 0
      modifyReg .cfgr (cfgrPllmul ||| cfgrPllsrc) (pllImage ext)
      modifyReg .cr 0 crPllon
      waitWhile fuel pllTimeout .cr fun v => v &&& crPllrdy == 0)
      (fun _ l' => Stage hw (fieldsOf (cr ||| crPllon) (pllImage ext) prediv) l' ∧ Sourced hw ext cr l')
      (Stops hw fuel) hw l := by
  have hcr := hs.fields
  have hoff : cr &&& ~~~crPllon ||| 0 &&& RccReg.cr.fields = cr := by rcases hcr with rfl | rfl <;> decide
  have hon : cr &&& ~~~0 ||| crPllon &&& RccReg.cr.fields = cr ||| crPllon := by rcases hcr with rfl | rfl <;> decide
  have hpll : cr &&& crPllon = 0 := by rcases hcr with rfl | rfl <;> decide
  have hsw : pllImage ext &&& cfgrSw = 0 := by cases ext <;> decide
  have himage : (0 : Word) &&& ~~~(cfgrPllmul ||| cfgrPllsrc) ||| pllImage ext &&& RccReg.cfgr.fields =
      pllImage ext := by
    cases ext <;> decide
  have hkept : cr &&& ~~~cr &&& clocks = 0 := by rcases hcr with rfl | rfl <;> decide
  have h1 := h.cr (takes_modify .cr crPllon 0 cr) (by rw [hoff]; exact allowed_kept hkept fun h0 h1 => absurd h0 h1)
  rw [hoff] at h1
  have hkeeps : ∀ {f : RccReg → Word} {l : List RccEvent} (clear set : Word), Stage hw f l →
      crHseon &&& clear = 0 → set &&& crHseon = 0 →
        (hw.reads l .cr &&& ~~~clear ||| set) &&& crHseon = hw.value l .cr &&& crHseon := fun clear set h hc hs =>
    (modify_out hc hs).trans ((h.reads_part (r := .cr) (by decide)).trans (h.part (r := .cr) (by decide)).symm)
  have hs1 := hs.cr (g := fun v => v &&& ~~~crPllon ||| 0) (hkeeps _ _ h (by decide) (by decide))
  refine wp_bind.mpr (wp_of_ok rfl (wp_bind.mpr (wp_mono
    (wait_wp fuel (by decide) .cr _ h1.safe) ?_ fun _ _ he => he)))
  rintro _ _ ⟨n, hn, hbusy, rfl⟩
  have hoff' : unlocked (.read .cr _ :: (n ++ hw.updated l .cr fun v => v &&& ~~~crPllon ||| 0)) = true :=
    beq_iff_eq.mpr (bne_eq_false_iff_eq.mp hbusy)
  have h2 := ((h1.looks hn).read .cr _).cfgr (takes_modify .cfgr (cfgrPllmul ||| cfgrPllsrc) (pllImage ext) 0)
    (fun _ => ⟨hpll, Or.inr hoff'⟩) fun hne => absurd (by rw [himage, hsw]; decide) hne
  rw [himage] at h2
  have hs2 := fun v => (hs1.looks (looks_read .cr v hn)).cfgr
    fun v => v &&& ~~~(cfgrPllmul ||| cfgrPllsrc) ||| pllImage ext
  have h3 := h2.cr (takes_modify .cr 0 crPllon cr) (by
    rw [hon]
    exact allowed_kept (lost_or _ _ _) fun _ _ => (hs2 _).fed h2)
  rw [hon] at h3
  have hs3 := (hs2 _).cr (g := fun v => v &&& ~~~0 ||| crPllon) (hkeeps _ _ h2 (by decide) (by decide))
  refine wp_bind.mpr (wp_of_ok rfl (wp_bind.mpr
    (wp_of_ok rfl (wp_mono (wait_wp fuel (by decide) .cr _ h3.safe) ?_ fun _ _ he => he))))
  rintro _ _ ⟨n', hn', _, rfl⟩
  exact ⟨(h3.looks hn').read .cr _, hs3.looks (looks_read .cr _ hn')⟩

theorem pll_stage {fuel : Nat} (ext : Bool) (stack : OscInit) {cr prediv : Word} (h : Stage hw (fieldsOf cr 0 prediv) l)
    (hs : Sourced hw ext cr l) :
    wp (oscConfigPll fuel (oscInit ext stack))
      (fun _ l' => Stage hw (fieldsOf (cr ||| crPllon) (pllImage ext) prediv) l' ∧ Sourced hw ext cr l')
      (Stops hw fuel) hw l := by
  have hstate : (oscInit ext stack).pllState = pllOn := by cases ext <;> rfl
  have himage : (oscInit ext stack).pllMul ||| (oscInit ext stack).pllSource = pllImage ext := by
    cases ext with
    | true => exact (by decide : pllMul9 ||| pllsourceHse = 0x001D0000)
    | false => exact (by decide : pllMul16 ||| pllsourceHsi = 0x00380000)
  refine wp_bind.mpr (wp_bind.mpr (wp_of_ok rfl (wp_of_ok rfl (wp_ite.mpr ⟨fun _ => ?_, fun _ => ?_⟩))))
  · rw [hstate, himage]
    refine wp_ite.mpr ⟨fun _ => ?_, fun hno => absurd rfl hno⟩
    exact pll_on ext (h.read .cfgr _) (hs.looks (n := [_]) (looks_read .cfgr _ looks_nil))
  · exact wp_stop.mpr ⟨(h.read .cfgr _).safe, nofun⟩

/-- The oscillator on, and the PLL locked to it. -/
structure Oscillating (hw : Rcc) (ext : Bool) (cr prediv : Word) (l : List RccEvent) : Prop where
  source : Sourced hw ext cr l
  divider : ext = true → prediv = 0
  stage : Stage hw (fieldsOf (cr ||| crPllon) (pllImage ext) prediv) l

theorem osc_stage {fuel : Nat} (ext : Bool) (stack : OscInit) (h : Stage hw (fieldsOf 1 0 0) l) :
    wp (oscConfig fuel (oscInit ext stack)) (fun _ l' => ∃ cr prediv, Oscillating hw ext cr prediv l')
      (Stops hw fuel) hw l := by
  have hpll : ∀ {cr prediv l}, Stage hw (fieldsOf cr 0 prediv) l → Sourced hw ext cr l → (ext = true → prediv = 0) →
      wp (if (oscInit ext stack).pllState ≠ pllNone then oscConfigPll fuel (oscInit ext stack) else pure ())
        (fun _ l' => ∃ cr prediv, Oscillating hw ext cr prediv l') (Stops hw fuel) hw l := by
    intro cr prediv l h hs hp
    refine wp_ite.mpr ⟨fun _ => wp_mono (pll_stage ext stack h hs)
      (fun _ l' h' => ⟨cr, prediv, h'.2, hp, h'.1⟩) fun _ _ he => he, fun hno => absurd ?_ hno⟩
    cases ext <;> exact (by decide : pllOn ≠ pllNone)
  cases ext with
  | true =>
    refine wp_bind.mpr (wp_ite.mpr ⟨fun _ => wp_mono (hse_ext stack h) ?_ fun _ _ he => he,
      absurd (by decide : oscillatortypeHse &&& oscillatortypeHse = oscillatortypeHse)⟩)
    rintro _ l1 ⟨cr, h1, hr⟩
    refine wp_bind.mpr (wp_ite.mpr ⟨fun hhsi => ?_, fun _ => wp_pure.mpr (hpll h1 hr fun _ => rfl)⟩)
    exact absurd hhsi (by decide : ¬ oscillatortypeHse &&& oscillatortypeHsi = oscillatortypeHsi)
  | false =>
    have htype : (oscInit false stack).oscillatorType = 3 := by
      show oscillatortypeHsi ||| oscillatortypeHse = 3
      decide
    have hno : ∀ {P : Prop} {k : Word}, 3 &&& k = k → ¬ (oscInit false stack).oscillatorType &&& k = k → P := by
      intro P k hk h
      rw [htype] at h
      exact absurd hk h
    refine wp_bind.mpr (wp_ite.mpr ⟨fun _ => wp_mono (hse_int stack h) ?_ fun _ _ he => he,
      hno (k := oscillatortypeHse) (by decide)⟩)
    rintro _ l1 ⟨prediv, h1⟩
    refine wp_bind.mpr (wp_ite.mpr ⟨fun _ => wp_mono (hsi_int stack h1) ?_ fun _ _ he => he,
      hno (k := oscillatortypeHsi) (by decide)⟩)
    exact fun _ l2 h2 => hpll h2 rfl nofun

end Graviton.Clock
