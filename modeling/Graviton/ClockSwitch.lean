/-
  Graviton.ClockSwitch — the switches between the oscillators.

  Whatever the hardware does, every moment of any sequence of switches is sound
  (`switches_sound`), and a switch that succeeds leaves the board on the PLL of its oscillator
  (`switch_done`), having run from it with an undivided peripheral bus on the way
  (`switch_undivided`). While the clock ticks every switch ends (`switch_ends`). What the
  frequency and the wait states read as is said of hardware that holds still (`Steady`).
-/
import Graviton.ClockSources

namespace Graviton.Clock

open Effects History Fields

variable {hw : Rcc} {l n : List RccEvent}

/-! ## Hardware that holds still -/

/-- The switch status stays with the clock selected once it shows it, and the flash with its wait
    states until it is written. -/
structure Steady (hw : Rcc) : Prop where
  status : ∀ e l, hw.value (e :: l) .cfgr &&& cfgrSw = hw.value l .cfgr &&& cfgrSw →
    hw.flags l .cfgr &&& cfgrSws = (hw.value l .cfgr &&& cfgrSw) <<< 2 →
    hw.flags (e :: l) .cfgr &&& cfgrSws = hw.flags l .cfgr &&& cfgrSws
  latency : ∀ e l, (∀ v, e ≠ .write .acr v) → hw.flags (e :: l) .acr &&& acrLatency = hw.flags l .acr &&& acrLatency

theorem reads_flags (hw : Rcc) (l : List RccEvent) {r : RccReg} {m : Word} (hm : r.flags &&& m = m) :
    hw.reads l r &&& m = hw.flags l r &&& m := read_in hm

theorem Steady.waits (hs : Steady hw) (hn : Spares .acr n) :
    hw.reads (n ++ l) .acr &&& acrLatency = hw.reads l .acr &&& acrLatency := by
  induction n with
  | nil => rfl
  | cons e n ih =>
    have hn' := ih fun v hv => hn v (List.mem_cons_of_mem _ hv)
    have he := hs.latency e (n ++ l) fun v hv => hn v (hv ▸ List.mem_cons_self)
    rw [reads_flags hw _ (by decide)] at hn' ⊢
    exact he.trans hn'

/-- The PLL is selected, and the switch status shows it. -/
def Shows (hw : Rcc) (l : List RccEvent) : Prop :=
  hw.value l .cfgr &&& cfgrSw = sysclksourcePllclk ∧ hw.reads l .cfgr &&& cfgrSws = sysclksourceStatusPllclk

theorem Shows.cons (h : Shows hw l) (hs : Steady hw) {e : RccEvent}
    (he : hw.value (e :: l) .cfgr &&& cfgrSw = hw.value l .cfgr &&& cfgrSw) : Shows hw (e :: l) := by
  obtain ⟨hsw, hsws⟩ := h
  rw [reads_flags hw _ (by decide)] at hsws
  refine ⟨he.trans hsw, ?_⟩
  rw [reads_flags hw _ (by decide), hs.status e l he (by rw [hsws, hsw]; rfl), hsws]

theorem Shows.looks (h : Shows hw l) (hs : Steady hw) (hn : Looks n) : Shows hw (n ++ l) := by
  induction n with
  | nil => exact h
  | cons e n ih =>
    have hn' := fun e he => hn e (List.mem_cons_of_mem _ he)
    refine (ih hn').cons hs ?_
    rw [← List.cons_append, value_looks hn, value_looks hn']

/-! ## The system clock -/

/-- The wait states set, and read back. -/
structure Latched (hw : Rcc) (u v w : Word) (l : List RccEvent) : Prop where
  shown : w &&& acrLatency = flashLatency2
  stays : Steady hw → hw.reads (.read .acr w :: .write .acr v :: .read .acr u :: l) .acr &&& acrLatency = flashLatency2

theorem latency_stage {fuel : Nat} {a b c : Word} (h : Stage hw (fieldsOf a b c) l) :
    wp (setLatency flashLatency2) (fun _ l' => Stage hw (fieldsOf a b c) l' ∧
      ∃ u v w, l' = .read .acr w :: .write .acr v :: .read .acr u :: l ∧ Latched hw u v w l) (Stops hw fuel) hw l := by
  have hset : (hw.reads l .acr &&& ~~~acrLatency ||| flashLatency2) &&& acrLatency = flashLatency2 :=
    modify_in (by decide)
  have h1 : Stage hw (fieldsOf a b c) (hw.updated l .acr fun v => v &&& ~~~acrLatency ||| flashLatency2) :=
    (h.read .acr _).aside rfl fun _ => BitVec.le_of_eq hset.symm
  refine wp_bind.mpr (wp_of_ok rfl (wp_bind.mpr (wp_of_ok rfl (wp_ite.mpr ⟨fun _ => ?_, fun hv => ?_⟩))))
  · exact wp_stop.mpr ⟨(h1.read .acr _).safe, nofun⟩
  · have hshown := Decidable.not_not.mp hv
    exact wp_pure.mpr ⟨h1.read .acr _, _, _, _, rfl, hshown, fun hs =>
      (hs.waits (n := [_]) ((looks_read .acr _ looks_nil).spares .acr)).trans hshown⟩

theorem Latched.waits {u v w : Word} (h : Latched hw u v w l) :
    waits (.read .acr w :: .write .acr v :: .read .acr u :: l) = true := by
  show decide (flashLatency2 ≤ w &&& acrLatency) = true
  rw [h.shown]
  decide

theorem Sourced.latched {ext : Bool} {cr u v w : Word} (h : Sourced hw ext cr l) :
    Sourced hw ext cr (.read .acr w :: .write .acr v :: .read .acr u :: l) :=
  h.keeps fun hr => hr.spares (n := [_, _, _]) fun v hv => by simp at hv

theorem waited_of_waits (h : waits l = true) : waited l = true := by
  induction l with
  | nil => cases h
  | cons e l ih =>
    cases e with
    | read r v =>
      cases r with
      | acr =>
        have hv : decide (flashLatency2 ≤ v &&& acrLatency) = true := h
        simp [waited, of_decide_eq_true hv]
      | _ => exact ih h
    | write r v =>
      cases r with
      | acr => cases h
      | _ => exact ih h
    | tick t => exact ih h

/-- The PLL is on, and the flash waits for it as `P` says. -/
structure Powered (hw : Rcc) (ext : Bool) (cr image prediv : Word) (P : Word → Prop) (l : List RccEvent) : Prop where
  stage : Stage hw (fieldsOf (cr ||| crPllon) image prediv) l
  source : Sourced hw ext cr l
  divider : ext = true → prediv = 0
  waits : waited l = true
  latency : Steady hw → P (hw.reads l .acr &&& acrLatency)

variable {ext : Bool} {cr image prediv : Word} {P : Word → Prop}

theorem Powered.looks (h : Powered hw ext cr image prediv P l) (hn : Looks n) :
    Powered hw ext cr image prediv P (n ++ l) where
  stage := h.stage.looks hn
  source := h.source.looks hn
  divider := h.divider
  waits := waited_spares h.waits (hn.spares .acr)
  latency hs := by
    rw [hs.waits (hn.spares .acr)]
    exact h.latency hs

theorem Powered.cfgr (h : Powered hw ext cr image prediv P l) {g : Word → Word} {image' : Word}
    (hs : Stage hw (fieldsOf (cr ||| crPllon) image' prediv) (hw.updated l .cfgr g)) :
    Powered hw ext cr image' prediv P (hw.updated l .cfgr g) := by
  have hspares : Spares .acr [.write .cfgr (g (hw.reads l .cfgr)), .read .cfgr (hw.reads l .cfgr)] := fun v hv => by
    simp at hv
  refine ⟨hs, h.source.cfgr g, h.divider, waited_spares h.waits hspares, fun hst => ?_⟩
  rw [show hw.updated l .cfgr g = [_, _] ++ l from rfl, hst.waits hspares]
  exact h.latency hst

/-- The PLL is selected, and was seen to be the system clock. -/
structure Selected (hw : Rcc) (ext : Bool) (cr image prediv : Word) (P : Word → Prop) (l : List RccEvent) : Prop where
  powered : Powered hw ext cr image prediv P l
  seen : observed hw sysclksourceStatusPllclk l = true
  shows : Steady hw → Shows hw l

theorem Selected.looks (h : Selected hw ext cr image prediv P l) (hn : Looks n) :
    Selected hw ext cr image prediv P (n ++ l) :=
  ⟨h.powered.looks hn, observed_looks h.seen hn, fun hs => (h.shows hs).looks hs hn⟩

/-- Other dividers in `CFGR`. -/
theorem Selected.cfgr (h : Selected hw ext cr image prediv P l) (clear set : Word) {image' : Word}
    (himage : image &&& ~~~clear ||| set &&& RccReg.cfgr.fields = image')
    (hkept : image' &&& (cfgrSw ||| pllFields) = image &&& (cfgrSw ||| pllFields))
    (hc : cfgrSw &&& clear = 0) (hset : set &&& cfgrSw = 0) :
    Selected hw ext cr image' prediv P (hw.updated l .cfgr fun v => v &&& ~~~clear ||| set) := by
  have hpart : ∀ m, (cfgrSw ||| pllFields) &&& m = m → image' &&& m = image &&& m := fun m hm => by
    rw [← hm, ← BitVec.and_assoc, hkept, BitVec.and_assoc]
  have hsw : (hw.reads l .cfgr &&& ~~~clear ||| set) &&& cfgrSw = hw.value l .cfgr &&& cfgrSw :=
    (modify_out hc hset).trans ((h.powered.stage.reads_part (r := .cfgr) (by decide)).trans
      (h.powered.stage.part (r := .cfgr) (by decide)).symm)
  have h1 := h.powered.stage.cfgr (takes_modify .cfgr clear set _)
    (fun hne => absurd (by rw [himage]; exact hpart _ (by decide)) hne)
    fun hne => absurd (by rw [himage]; exact hpart _ (by decide)) hne
  rw [himage] at h1
  exact ⟨h.powered.cfgr h1, observed_cfgr h.seen hsw, fun hs => ((h.shows hs).cons hs rfl).cons hs hsw⟩

/-- The PLL selected once it is locked and the flash waits for it, and seen to be selected. -/
theorem sysclk_stage {fuel : Nat} (h : Powered hw ext cr (pllImage ext) prediv P l) (hw2 : waits l = true) :
    wp (sysclkConfig fuel sysclksourcePllclk)
      (fun _ l' => Selected hw ext cr (pllImage ext ||| sysclksourcePllclk) prediv P l' ∧ l <:+ l')
      (Stops hw fuel) hw l := by
  have himage : pllImage ext &&& ~~~cfgrSw ||| sysclksourcePllclk &&& RccReg.cfgr.fields =
      pllImage ext ||| sysclksourcePllclk := by
    cases ext <;> decide
  have hfields : (pllImage ext ||| sysclksourcePllclk) &&& pllFields = pllImage ext &&& pllFields := by
    cases ext <;> decide
  have hsw : (pllImage ext ||| sysclksourcePllclk) &&& cfgrSw = sysclksourcePllclk := by cases ext <;> decide
  have hon : (cr ||| crPllon) &&& crPllon ≠ 0 := by rcases h.source.fields with rfl | rfl <;> decide
  refine wp_bind.mpr (wp_of_ok rfl (wp_ite.mpr ⟨fun hlock => ?_, fun _ =>
    wp_stop.mpr ⟨(h.stage.read .cr _).safe, nofun⟩⟩))
  have h1 := h.looks (n := [_]) (looks_read .cr (hw.reads l .cr) looks_nil)
  have hstage := h1.stage.cfgr (takes_modify .cfgr cfgrSw sysclksourcePllclk _)
    (fun hne => absurd (by rw [himage, hfields]) hne) fun _ => Or.inr ⟨by rw [himage, hsw], hon, hlock, hw2⟩
  rw [himage] at hstage
  have h2 := h1.cfgr hstage
  refine wp_bind.mpr (wp_of_ok rfl (wp_mono (wait_wp fuel (by decide) .cfgr _ hstage.safe) ?_ fun _ _ he => he))
  rintro _ _ ⟨n, hn, hbusy, rfl⟩
  have hne : sysclksourcePllclk ≠ sysclksourceHse := by decide
  rw [if_neg hne, if_pos rfl] at hbusy
  have hsws := bne_eq_false_iff_eq.mp hbusy
  have h3 := h2.looks hn
  have hshows : Shows hw (n ++ _) := ⟨(h3.stage.part (r := .cfgr) (by decide)).trans hsw, hsws⟩
  refine ⟨⟨h3.looks (n := [_]) (looks_read .cfgr _ looks_nil), ?_, fun hs => hshows.cons hs rfl⟩,
    (List.suffix_append [_, _, _] l).trans ((List.suffix_append n _).trans (List.suffix_cons _ _))⟩
  simp [observed, hsws]

/-! ## The frequency -/

/-- The system clock in Hz. -/
def hertz : Bool → Word
  | true => 72000000
  | false => 64000000

/-- The frequency follows the fields, if the switch status still shows the PLL. -/
theorem freq_wp (h : Stage hw (fieldsOf cr image prediv) l) (hpll : image &&& pllFields = pllImage ext)
    (hp : ext = true → prediv = 0) :
    wp getSysClockFreq (fun v l' => ∃ n, Looks n ∧ l' = n ++ l ∧ (Shows hw l → v = hertz ext)) E hw l := by
  have hmul := h.reads_part (by decide : RccReg.cfgr.fields &&& cfgrPllmul = cfgrPllmul)
  have hsrc := h.reads_part (by decide : RccReg.cfgr.fields &&& cfgrPllsrc = cfgrPllsrc)
  have hdiv : hw.reads (.read .cfgr (hw.reads l .cfgr) :: l) .cfgr2 &&& cfgr2Prediv = prediv &&& cfgr2Prediv :=
    (h.read .cfgr _).reads_part (by decide)
  have hpart : ∀ m, pllFields &&& m = m → image &&& m = pllImage ext &&& m := fun m hm => by
    rw [← hpll, BitVec.and_assoc, hm]
  refine wp_bind.mpr (wp_of_ok rfl (wp_ite.mpr ⟨fun hse => ?_, fun _ => wp_ite.mpr ⟨fun hsws => ?_, fun hno => ?_⟩⟩))
  · refine wp_pure.mpr ⟨[_], looks_read .cfgr _ looks_nil, rfl, fun hshows => ?_⟩
    exact absurd (hse.symm.trans hshows.2) (by decide)
  · refine wp_bind.mpr (wp_of_ok rfl ?_)
    have hlooks : Looks [.read .cfgr2 (hw.reads (.read .cfgr (hw.reads l .cfgr) :: l) .cfgr2),
      .read .cfgr (hw.reads l .cfgr)] :=
      looks_read .cfgr2 _ (looks_read .cfgr _ looks_nil)
    rw [hmul.trans (hpart _ (by decide)), hsrc.trans (hpart _ (by decide)), hdiv]
    cases ext with
    | true =>
      obtain rfl := hp rfl
      exact wp_of_ok rfl ⟨_, hlooks, rfl, fun _ => by decide⟩
    | false => exact wp_of_ok rfl ⟨_, hlooks, rfl, fun _ => by decide⟩
  · exact wp_pure.mpr ⟨[_], looks_read .cfgr _ looks_nil, rfl, fun hshows => absurd hshows.2 hno⟩

/-- What `CFGR` is left with: the PLL selected, and only the first peripheral bus divided, by two. -/
def clockImage (ext : Bool) : Word := pllImage ext ||| sysclksourcePllclk ||| hclkDiv2

/-- The board runs from the PLL of an oscillator. -/
structure Switched (hw : Rcc) (ext : Bool) (l : List RccEvent) : Prop where
  safe : Safe hw l
  /-- `CFGR` selects the PLL, with its source, its multiplier and the dividers of the busses. -/
  image : hw.value l .cfgr &&& RccReg.cfgr.fields = clockImage ext
  divider : ext = true → hw.value l .cfgr2 &&& cfgr2Prediv = 0
  on : hw.value l .cr &&& crPllon ≠ 0 ∧ hw.value l .cr &&& crHsion ≠ 0
  source : ext = true → hseRuns hw l = true
  seen : observed hw sysclksourceStatusPllclk l = true
  waits : waited l = true

theorem Selected.switched (h : Selected hw ext cr (clockImage ext) prediv P l) : Switched hw ext l where
  safe := h.powered.stage.safe
  image := h.powered.stage.holds .cfgr
  divider he := by
    rw [h.powered.stage.part (r := .cfgr2) (by decide), h.powered.divider he]
    exact (by decide : (0 : Word) &&& cfgr2Prediv = 0)
  on := by
    rw [h.powered.stage.part (r := .cr) (by decide), h.powered.stage.part (r := .cr) (by decide)]
    show (cr ||| crPllon) &&& crPllon ≠ 0 ∧ (cr ||| crPllon) &&& crHsion ≠ 0
    rcases h.powered.source.fields with rfl | rfl <;> decide
  source he := by
    subst he
    exact h.powered.source.2
  seen := h.seen
  waits := h.powered.waits

/-- The exact readings of a switch that returned `v`. -/
structure Exact (hw : Rcc) (ext : Bool) (v : Word) (l : List RccEvent) : Prop where
  freq : v = hertz ext
  status : hw.reads l .cfgr &&& cfgrSws = sysclksourceStatusPllclk
  latency : hw.reads l .acr &&& acrLatency = flashLatency2

/-- What is stored in `SystemCoreClock`. -/
theorem core_clock {fuel : Nat} (h : Selected hw ext cr (clockImage ext) prediv (· = flashLatency2) l) :
    wp (do
      let freq ← getSysClockFreq
      return freq >>> ahbPrescTable.getD (((← readReg .cfgr) &&& cfgrHpre) >>> 4).toNat 0)
      (fun v l' => Switched hw ext l' ∧ (Steady hw → Exact hw ext v l') ∧ l <:+ l') (Stops hw fuel) hw l := by
  refine wp_bind.mpr (wp_mono (freq_wp h.powered.stage (by cases ext <;> decide) h.powered.divider) ?_ fun _ _ he => he)
  rintro v _ ⟨n, hn, rfl, hv⟩
  have h1 := h.looks (looks_read .cfgr (hw.reads (n ++ l) .cfgr) hn)
  have hhpre : (hw.reads (n ++ l) .cfgr &&& cfgrHpre) >>> 4 = 0 := by
    rw [(h.powered.stage.looks hn).reads_part (r := .cfgr) (by decide)]
    show (clockImage ext &&& cfgrHpre) >>> 4 = 0
    cases ext <;> decide
  refine wp_bind.mpr (wp_of_ok rfl (wp_pure.mpr ⟨h1.switched, fun hs => ⟨?_, (h1.shows hs).2, h1.powered.latency hs⟩,
    (List.suffix_append n l).trans (List.suffix_cons _ _)⟩))
  rw [hhpre, hv (h.shows hs)]
  rfl

/-- The dividers of the peripheral busses. -/
theorem dividers_stage {fuel : Nat}
    (h : Selected hw ext cr (pllImage ext ||| sysclksourcePllclk) prediv (· = flashLatency2) l) :
    wp (do
      modifyReg .cfgr cfgrPpre1 hclkDiv2
      modifyReg .cfgr cfgrPpre2 (hclkDiv1 <<< 3)
      let freq ← getSysClockFreq
      return freq >>> ahbPrescTable.getD (((← readReg .cfgr) &&& cfgrHpre) >>> 4).toNat 0)
      (fun v l' => Switched hw ext l' ∧ (Steady hw → Exact hw ext v l') ∧ l <:+ l') (Stops hw fuel) hw l := by
  have himage1 : (pllImage ext ||| sysclksourcePllclk) &&& ~~~cfgrPpre1 ||| hclkDiv2 &&& RccReg.cfgr.fields =
      clockImage ext := by cases ext <;> decide
  have himage2 : clockImage ext &&& ~~~cfgrPpre2 ||| hclkDiv1 <<< 3 &&& RccReg.cfgr.fields = clockImage ext := by
    cases ext <;> decide
  have h1 := h.cfgr cfgrPpre1 hclkDiv2 himage1 (by cases ext <;> decide) (by decide) (by decide)
  have h2 := h1.cfgr cfgrPpre2 (hclkDiv1 <<< 3) himage2 rfl (by decide) (by decide)
  refine wp_bind.mpr (wp_of_ok rfl (wp_bind.mpr (wp_of_ok rfl (wp_mono (core_clock h2) ?_ fun _ _ he => he))))
  exact fun _ _ h => ⟨h.1, h.2.1, (List.suffix_append [_, _, _, _] l).trans h.2.2⟩

/-- The PLL is seen to be the system clock while the first peripheral bus is not divided. -/
def Undivided (hw : Rcc) (l : List RccEvent) : Prop :=
  hw.value l .cfgr &&& (cfgrSw ||| cfgrPpre1) = sysclksourcePllclk ∧ observed hw sysclksourceStatusPllclk l = true

theorem Selected.undivided (h : Selected hw ext cr (pllImage ext ||| sysclksourcePllclk) prediv P l) :
    Undivided hw l := by
  refine ⟨(h.powered.stage.part (r := .cfgr) (by decide)).trans ?_, h.seen⟩
  show (pllImage ext ||| sysclksourcePllclk) &&& (cfgrSw ||| cfgrPpre1) = sysclksourcePllclk
  cases ext <;> decide

/-- The flash made to wait for the PLL before it is selected. -/
theorem latency_up {fuel : Nat} (h : Oscillating hw ext cr prediv l) :
    wp (if hw.reads l .acr &&& acrLatency < flashLatency2 then setLatency flashLatency2 else pure ())
      (fun _ l' => Powered hw ext cr (pllImage ext) prediv (flashLatency2 ≤ ·) l' ∧ waits l' = true ∧ l <:+ l')
      (Stops hw fuel) hw (.read .acr (hw.reads l .acr) :: l) := by
  have hread : Looks [.read .acr (hw.reads l .acr)] := looks_read .acr _ looks_nil
  refine wp_ite.mpr ⟨fun _ => wp_mono (latency_stage (h.stage.read .acr _)) ?_ fun _ _ he => he, fun hge => ?_⟩
  · rintro _ _ ⟨h1, u, v, w, rfl, hset⟩
    exact ⟨⟨h1, (h.source.looks hread).latched, h.divider, waited_of_waits hset.waits, fun hs => hset.stays hs ▸
      BitVec.le_refl _⟩, hset.waits, List.suffix_append [_, _, _, _] l⟩
  · have hw2 : waits (.read .acr (hw.reads l .acr) :: l) = true := decide_eq_true (BitVec.not_lt.mp hge)
    exact wp_pure.mpr ⟨⟨h.stage.looks hread, h.source.looks hread, h.divider, waited_of_waits hw2, fun hs =>
      (hs.waits (n := [_]) (hread.spares .acr)).symm ▸ BitVec.not_lt.mp hge⟩, hw2, List.suffix_cons _ _⟩

/-- No more wait states than the PLL needs. -/
theorem latency_down {fuel : Nat} (h : Selected hw ext cr image prediv (flashLatency2 ≤ ·) l) :
    wp (if flashLatency2 < hw.reads l .acr &&& acrLatency then setLatency flashLatency2 else pure ())
      (fun _ l' => Selected hw ext cr image prediv (· = flashLatency2) l' ∧ l <:+ l')
      (Stops hw fuel) hw (.read .acr (hw.reads l .acr) :: l) := by
  have hread : Looks [.read .acr (hw.reads l .acr)] := looks_read .acr _ looks_nil
  have h1 := h.looks hread
  refine wp_ite.mpr ⟨fun _ => wp_mono (latency_stage h1.powered.stage) ?_ fun _ _ he => he, fun hle => ?_⟩
  · rintro _ _ ⟨h2, u, v, w, rfl, hset⟩
    exact ⟨⟨⟨h2, h1.powered.source.latched, h.powered.divider, waited_of_waits hset.waits, hset.stays⟩, h1.seen,
      fun hs => (((h1.shows hs).cons hs rfl).cons hs rfl).cons hs rfl⟩, List.suffix_append [_, _, _, _] l⟩
  · refine wp_pure.mpr ⟨⟨{ h1.powered with latency := fun hs => ?_ }, h1.seen, h1.shows⟩, List.suffix_cons _ _⟩
    exact (hs.waits (n := [_]) (hread.spares .acr)).trans
      (BitVec.le_antisymm (BitVec.not_lt.mp hle) (h.powered.latency hs))

theorem clock_stage {fuel : Nat} (h : Oscillating hw ext cr prediv l) :
    wp (clockConfig fuel clkInit flashLatency2) (fun v l' => Switched hw ext l' ∧ (Steady hw → Exact hw ext v l') ∧
      ∃ k, l <:+ k ∧ k <:+ l' ∧ Undivided hw k) (Stops hw fuel) hw l := by
  have himage : pllImage ext &&& ~~~cfgrHpre ||| sysclkDiv1 &&& RccReg.cfgr.fields = pllImage ext := by
    cases ext <;> decide
  refine wp_bind.mpr (wp_of_ok rfl (wp_bind.mpr (wp_mono (latency_up h) ?_ fun _ _ he => he)))
  rintro _ l1 ⟨h1, hw1, hgrows1⟩
  have hstage := h1.stage.cfgr (takes_modify .cfgr cfgrHpre sysclkDiv1 _) (fun hne => absurd (by rw [himage]) hne)
    fun hne => absurd (by rw [himage]) hne
  rw [himage] at hstage
  refine wp_bind.mpr (wp_ite.mpr ⟨fun _ => wp_of_ok rfl ?_, absurd (by decide)⟩)
  refine wp_bind.mpr (wp_ite.mpr ⟨fun _ => wp_mono (sysclk_stage (h1.cfgr hstage) hw1) ?_ fun _ _ he => he,
    absurd (by decide)⟩)
  rintro _ l3 ⟨h3, hgrows3⟩
  refine wp_bind.mpr (wp_of_ok rfl (wp_bind.mpr (wp_mono (latency_down h3) ?_ fun _ _ he => he)))
  rintro _ l4 ⟨h4, hgrows4⟩
  refine wp_mono (dividers_stage h4) ?_ fun _ _ he => he
  rintro v l5 ⟨h5, hexact, hgrows5⟩
  exact ⟨h5, hexact, l3, hgrows1.trans ((List.suffix_append [_, _] l1).trans hgrows3), hgrows4.trans hgrows5,
    h3.undivided⟩

/-! ## A board whose flags follow what is written -/

def written (l : List RccEvent) (r : RccReg) : Word := Rcc.value ⟨fun _ _ => 0, fun _ => 0, fun _ => 0⟩ l r

def promptRcc : Rcc where
  flags l r :=
    match r with
    | .cr => (written l .cr &&& clocks) <<< 1
    | .cfgr => (written l .cfgr &&& cfgrSw) <<< 2
    | .acr => written l .acr
    | _ => 0
  time l := l.length
  start _ := 0

def noStack : OscInit := ⟨0, 0, 0, 0, 0, 0, 0, 0⟩

theorem promptRcc_ticking : Ticking promptRcc 1 where
  mono e l := by
    show l.length ≤ (e :: l).length
    exact Nat.le_succ _
  steady e l := by
    show (e :: l).length ≤ l.length + 1073741824
    rw [List.length_cons]
    omega
  runs n l hn := by
    show l.length < (n ++ l).length
    rw [List.length_append]
    omega

theorem promptRcc_value (l : List RccEvent) (r : RccReg) : promptRcc.value l r = written l r := by
  induction l with
  | nil => rfl
  | cons e l ih =>
    cases e with
    | write r' v => simp only [written, Rcc.value] at ih ⊢; rw [ih]
    | _ => exact ih

theorem promptRcc_steady : Steady promptRcc where
  status e l he _ := by
    rw [promptRcc_value, promptRcc_value] at he
    exact congrArg (fun v : Word => v <<< 2 &&& cfgrSws) he
  latency e l he := by
    cases e with
    | read r v => rfl
    | tick t => rfl
    | write r v =>
      cases r with
      | acr => exact absurd rfl (he v)
      | _ => rfl

/-! ## The switches -/

def switchTo (fuel : Nat) (stack : OscInit) : Bool → Hal Word
  | true => switchToExtOsc fuel stack
  | false => switchToIntOsc fuel stack

/-! ## Histories grow -/

theorem grows_readReg (r : RccReg) : Grows (readReg r) := fun _ _ => wp_of_ok rfl (List.suffix_cons _ _)

theorem grows_writeReg (r : RccReg) (v : Word) : Grows (writeReg r v) := fun _ _ => wp_of_ok rfl (List.suffix_cons _ _)

theorem grows_updateReg (r : RccReg) (f : Word → Word) : Grows (updateReg r f) :=
  (grows_readReg r).bind fun _ => grows_writeReg r _

theorem grows_modifyReg (r : RccReg) (clear set : Word) : Grows (modifyReg r clear set) := grows_updateReg r _

theorem grows_getTick : Grows getTick := fun _ _ => wp_of_ok rfl (List.suffix_cons _ _)

theorem grows_waitWhile (fuel : Nat) (limit : Word) (r : RccReg) (busy : Word → Bool) :
    Grows (waitWhile fuel limit r busy) :=
  grows_getTick.bind fun _ => .pollWhile ((grows_readReg r).bind fun _ => grows_pure _)
    (grows_getTick.bind fun _ => grows_pure _) fuel

theorem grows_drivesSysclk (status source : Word) : Grows (drivesSysclk status source) := by
  have hread : ∀ {α : Type} {f : Word → α}, Grows (do return f (← readReg .cfgr) : Hal α) :=
    (grows_readReg .cfgr).bind fun _ => grows_pure _
  exact hread.bind fun _ => (grows_pure true).ite (hread.bind fun _ =>
    (hread.bind fun _ => grows_pure _).ite (grows_pure false))

theorem grows_getFlag (flag : Word) : Grows (getFlag flag) := (grows_readReg .cr).bind fun _ => grows_pure _

theorem grows_oscConfigHse (fuel : Nat) (s : OscInit) : Grows (oscConfigHse fuel s) := by
  have hconfig : Grows (hseConfig s.hseState) := by
    have htwo := fun clear set clear' set' =>
      (grows_modifyReg .cr clear set).bind fun _ => grows_modifyReg .cr clear' set'
    exact (grows_modifyReg _ _ _).ite ((htwo _ _ _ _).ite ((htwo _ _ _ _).ite (htwo _ _ _ _)))
  refine (grows_drivesSysclk _ _).bind fun _ => .ite ?_ ?_
  · exact (grows_getFlag _).bind fun _ => (grows_stop _).ite (grows_pure _)
  · exact hconfig.bind fun _ => (grows_modifyReg _ _ _).bind fun _ =>
      (grows_waitWhile _ _ _ _).ite (grows_waitWhile _ _ _ _)

theorem grows_oscConfigHsi (fuel : Nat) (s : OscInit) : Grows (oscConfigHsi fuel s) := by
  refine (grows_drivesSysclk _ _).bind fun _ => .ite ?_ (.ite ?_ ?_)
  · exact (grows_getFlag _).bind fun _ => (grows_stop _).ite (grows_modifyReg _ _ _)
  · exact (grows_modifyReg _ _ _).bind fun _ => (grows_waitWhile _ _ _ _).bind fun _ => grows_modifyReg _ _ _
  · exact (grows_modifyReg _ _ _).bind fun _ => grows_waitWhile _ _ _ _

theorem grows_oscConfigPll (fuel : Nat) (s : OscInit) : Grows (oscConfigPll fuel s) := by
  refine ((grows_readReg .cfgr).bind fun _ => grows_pure _).bind fun _ => .ite (.ite ?_ ?_) (grows_stop _)
  · exact (grows_modifyReg _ _ _).bind fun _ => (grows_waitWhile _ _ _ _).bind fun _ =>
      (grows_modifyReg _ _ _).bind fun _ => (grows_modifyReg _ _ _).bind fun _ => grows_waitWhile _ _ _ _
  · exact (grows_modifyReg _ _ _).bind fun _ => grows_waitWhile _ _ _ _

theorem grows_oscConfig (fuel : Nat) (s : OscInit) : Grows (oscConfig fuel s) :=
  ((grows_oscConfigHse fuel s).ite (grows_pure _)).bind fun _ =>
    ((grows_oscConfigHsi fuel s).ite (grows_pure _)).bind fun _ => (grows_oscConfigPll fuel s).ite (grows_pure _)

theorem grows_resetClocks : Grows resetClocks := by
  have hrest := (grows_updateReg .cfgr3 fun v => v &&& 0xFF00FCCC).bind fun _ => grows_writeReg .cir 0x00000000
  refine (grows_updateReg _ _).bind fun _ => (grows_updateReg _ _).bind fun _ => (grows_updateReg _ _).bind fun _ => ?_
  refine (grows_updateReg _ _).bind fun _ => (grows_updateReg _ _).bind fun _ => (grows_updateReg _ _).bind fun _ => ?_
  exact hrest

theorem switch_wp {fuel : Nat} (ext : Bool) (stack : OscInit) (h : Safe hw l) :
    wp (switchTo fuel stack ext) (fun v l' => Switched hw ext l' ∧ (Steady hw → Exact hw ext v l') ∧
      ∃ k, l <:+ k ∧ k <:+ l' ∧ Undivided hw k) (Stops hw fuel) hw l := by
  have hdef : switchTo fuel stack ext = (do
      resetClocks
      oscConfig fuel (oscInit ext stack)
      clockConfig fuel clkInit flashLatency2) := by
    cases ext <;> rfl
  rw [hdef]
  refine wp_bind.mpr (wp_mono (wp_and (reset_stage h) (grows_resetClocks hw l)) ?_ fun _ _ he => he.1)
  rintro _ l1 ⟨h1, hgrows1⟩
  refine wp_bind.mpr (wp_mono (wp_and (osc_stage ext stack h1) (grows_oscConfig fuel _ hw l1)) ?_ fun _ _ he => he.1)
  rintro _ l2 ⟨⟨cr, prediv, h2⟩, hgrows2⟩
  refine wp_mono (clock_stage h2) ?_ fun _ _ he => he
  rintro v l3 ⟨h3, hexact, k, hgrows3, hk, hundivided⟩
  exact ⟨h3, hexact, k, hgrows1.trans (hgrows2.trans hgrows3), hk, hundivided⟩

/-- A switch that returns 1 leaves the board on the PLL it set up. Where the switch status and the
    wait states hold still it returns 72 MHz from the external oscillator, 64 MHz from the internal
    one, and both are read as they were set. -/
theorem switch_done {fuel : Nat} {ext : Bool} {stack : OscInit} (h : Safe hw l) {v : Word} {l' : List RccEvent}
    (hr : switchTo fuel stack ext hw l = .ok v l') : Switched hw ext l' ∧ (Steady hw → Exact hw ext v l') := by
  have hw' := wp_ok (switch_wp ext stack h) hr
  exact ⟨hw'.1, hw'.2.1⟩

theorem switch_done_prompt : ∃ v l', switchTo 1 noStack true promptRcc [] = .ok v l' ∧
    Switched promptRcc true l' ∧ Exact promptRcc true v l' := by
  have h : returned (switchTo 1 noStack true promptRcc []) = true := by decide +kernel
  obtain ⟨v, l', hr⟩ := returned_ok h
  have hdone := switch_done (always_nil.mpr trivial) hr
  exact ⟨v, l', hr, hdone.1, hdone.2 promptRcc_steady⟩

/-- On its way there the board runs from the PLL with the first peripheral bus undivided: the
    divider of two follows the switch. -/
theorem switch_undivided {fuel : Nat} {ext : Bool} {stack : OscInit} (h : Safe hw l) {v : Word} {l' : List RccEvent}
    (hr : switchTo fuel stack ext hw l = .ok v l') : ∃ k, l <:+ k ∧ k <:+ l' ∧ Undivided hw k := by
  have hw' := wp_ok (switch_wp ext stack h) hr
  exact hw'.2.2

theorem switch_undivided_prompt : ∃ v l', switchTo 1 noStack true promptRcc [] = .ok v l' ∧
    ∃ k, [] <:+ k ∧ k <:+ l' ∧ Undivided promptRcc k := by
  have h : returned (switchTo 1 noStack true promptRcc []) = true := by decide +kernel
  obtain ⟨v, l', hr⟩ := returned_ok h
  exact ⟨v, l', hr, switch_undivided (always_nil.mpr trivial) hr⟩

/-- While the clock ticks, every switch returns. -/
theorem switch_ends {K fuel : Nat} {ext : Bool} {stack : OscInit} (ht : Ticking hw K) (hfuel : K * 5001 ≤ fuel)
    (h : Safe hw l) :
    stopped (switchTo fuel stack ext hw l) ≠ some .outOfFuel := by
  intro hs
  obtain ⟨l', hr⟩ := stopped_error hs
  have hlt := (wp_error (switch_wp ext stack h) hr).2 rfl K ht
  omega

theorem switch_ends_prompt : stopped (switchTo 5001 noStack false promptRcc []) ≠ some .outOfFuel :=
  switch_ends promptRcc_ticking (by decide) (always_nil.mpr trivial)

/-- The accesses of switches one after the other, newest first, whether they succeed or not. -/
def switched (hw : Rcc) (stack : List RccEvent → OscInit) (fuel : Nat) : List Bool → List RccEvent
  | [] => []
  | ext :: switches =>
    let l := switched hw stack fuel switches
    final (switchTo fuel (stack l) ext hw l)

/-- Every moment of any sequence of switches is sound, whatever the hardware does. -/
theorem switches_sound (hw : Rcc) (stack : List RccEvent → OscInit) (fuel : Nat) (switches : List Bool) :
    Safe hw (switched hw stack fuel switches) := by
  induction switches with
  | nil => exact always_nil.mpr trivial
  | cons ext switches ih =>
    exact wp_final (wp_mono (switch_wp ext _ ih) (fun _ _ h => h.1.safe) fun _ _ h => h.1)

end Graviton.Clock
