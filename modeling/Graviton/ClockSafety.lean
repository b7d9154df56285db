/-
  Graviton.ClockSafety — what a write to the clock tree may do.

  `Sound` is about the single write that ends a history of accesses: it keeps on the clock
  selected and the source of a running PLL, switches nothing off but right after the internal
  oscillator was selected, selects the PLL only once it was read locked and the flash was read
  to wait for it, sets the PLL and its divider up only while off, switches it on only with its
  source running and makes the flash wait two states. A `Stage` is a history all of whose
  moments were sound, with what the fields of the registers hold at its end; there is one rule
  for each register an update may go to.
-/
import Graviton.Clock

namespace Graviton.Clock

open Effects History Fields

/-! ## Histories -/

/-- Accesses that write nothing. -/
def Looks (n : List RccEvent) : Prop := ∀ e ∈ n, ∀ r v, e ≠ .write r v

theorem looks_nil : Looks [] := fun _ h => absurd h List.not_mem_nil

theorem looks_cons {e : RccEvent} {n : List RccEvent} (he : ∀ r v, e ≠ .write r v) (h : Looks n) : Looks (e :: n) := by
  intro e' he'
  rcases List.mem_cons.mp he' with rfl | he'
  · exact he
  · exact h e' he'

theorem looks_read (r : RccReg) (v : Word) {n : List RccEvent} (h : Looks n) : Looks (.read r v :: n) :=
  looks_cons (by simp) h

theorem looks_tick (t : Word) {n : List RccEvent} (h : Looks n) : Looks (.tick t :: n) := looks_cons (by simp) h

theorem value_looks {hw : Rcc} {n l : List RccEvent} (h : Looks n) (r : RccReg) :
    hw.value (n ++ l) r = hw.value l r := by
  induction n with
  | nil => rfl
  | cons e n ih =>
    have hn := ih fun e he => h e (List.mem_cons_of_mem _ he)
    cases e with
    | read r' v => exact hn
    | tick t => exact hn
    | write r' v => exact absurd rfl (h _ List.mem_cons_self r' v)

/-- Histories that write nothing to a register. -/
def Spares (r : RccReg) (n : List RccEvent) : Prop := ∀ v, .write r v ∉ n

theorem Looks.spares {n : List RccEvent} (h : Looks n) (r : RccReg) : Spares r n := fun v hv => h _ hv r v rfl

/-- The newest look at a register, made since the newest write to it. -/
def seen (r : RccReg) : List RccEvent → Option Word
  | [] => none
  | .read r' v :: l => if r' = r then some v else seen r l
  | .write r' _ :: l => if r' = r then none else seen r l
  | .tick _ :: l => seen r l

def locked (l : List RccEvent) : Bool := (seen .cr l).any fun v => v &&& crPllrdy != 0

def unlocked (l : List RccEvent) : Bool := (seen .cr l).any fun v => v &&& crPllrdy == 0

/-- The flash waits two states at least. -/
def waits (l : List RccEvent) : Bool := (seen .acr l).any fun v => decide (flashLatency2 ≤ v &&& acrLatency)

/-- The flash was read to wait two states at least, and not told to wait fewer since. -/
def waited : List RccEvent → Bool
  | [] => false
  | .read .acr v :: l => decide (flashLatency2 ≤ v &&& acrLatency) || waited l
  | .write .acr v :: l => decide (flashLatency2 ≤ v &&& acrLatency) && waited l
  | _ :: l => waited l

/-- The external oscillator was read ready while on, or driving the system clock, and no write
    switched it off since. -/
def hseRuns (hw : Rcc) : List RccEvent → Bool
  | [] => false
  | .read .cr v :: l => (v &&& crHserdy != 0 && hw.value l .cr &&& crHseon != 0) || hseRuns hw l
  | .read .cfgr v :: l => v &&& cfgrSws == sysclksourceStatusHse || hseRuns hw l
  | .write .cr v :: l => (v &&& crHseon != 0 || hw.value l .cr &&& crHseon == 0) && hseRuns hw l
  | _ :: l => hseRuns hw l

/-- The switch status read as `status` since another clock was selected. -/
def observed (hw : Rcc) (status : Word) : List RccEvent → Bool
  | [] => false
  | .read .cfgr v :: l => v &&& cfgrSws == status || observed hw status l
  | .write .cfgr v :: l => v &&& cfgrSw == hw.value l .cfgr &&& cfgrSw && observed hw status l
  | _ :: l => observed hw status l

/-! ## Sound writes -/

/-- The bit of `CR` that switches a clock on. -/
def enable (source : Word) : Word :=
  if source = sysclksourceHsi then crHsion else if source = sysclksourceHse then crHseon else crPllon

/-- The bit of `CR` that switches the source of the PLL on. -/
def feed (cfgr : Word) : Word := if cfgr &&& cfgrPllsrc = pllsourceHsi then crHsion else crHseon

def clocks : Word := crHsion ||| crHseon ||| crPllon

def pllFields : Word := cfgrPllmul ||| cfgrPllsrc

/-- The oscillator the PLL is fed from runs. -/
def Fed (hw : Rcc) (l : List RccEvent) : Prop :=
  if hw.value l .cfgr &&& cfgrPllsrc = pllsourceHsi then hw.value l .cr &&& crHsion ≠ 0 else hseRuns hw l = true

/-- The newest write selected the internal oscillator. -/
def Selecting (l : List RccEvent) : Prop :=
  ∃ u v k, l = .read .cr u :: .write .cfgr v :: k ∧ v &&& cfgrSw = sysclksourceHsi

/-- What a write of `v` to `CR` may do where it held `cr`, and `CFGR` holds `cfgr`. -/
structure Allowed (fed selecting : Prop) (cr cfgr v : Word) : Prop where
  /-- The clock selected stays on. -/
  selected : cr &&& enable (cfgr &&& cfgrSw) ≠ 0 → v &&& enable (cfgr &&& cfgrSw) ≠ 0
  /-- So does the source of a PLL that is on. -/
  source : v &&& crPllon ≠ 0 → cr &&& feed cfgr ≠ 0 → v &&& feed cfgr ≠ 0
  /-- Nothing is switched off but by the reset of the clocks. -/
  off : cr &&& ~~~v &&& clocks ≠ 0 → selecting
  on : cr &&& crPllon = 0 → v &&& crPllon ≠ 0 → fed

/-- The write that ends a history, if one does. The reset of the clocks selects the internal
    oscillator without a look at its ready flag, and the rest off without one at the switch status. -/
def Sound (hw : Rcc) : List RccEvent → Prop
  | .write .cr v :: l => Allowed (Fed hw l) (Selecting l) (hw.value l .cr) (hw.value l .cfgr) v
  | .write .cfgr v :: l =>
    (v &&& pllFields ≠ hw.value l .cfgr &&& pllFields →
      hw.value l .cr &&& crPllon = 0 ∧ (v &&& pllFields = 0 ∨ unlocked l = true)) ∧
      (v &&& cfgrSw ≠ hw.value l .cfgr &&& cfgrSw →
        (v &&& cfgrSw = sysclksourceHsi ∧ hw.value l .cr &&& crHsion ≠ 0) ∨
          (v &&& cfgrSw = sysclksourcePllclk ∧ hw.value l .cr &&& crPllon ≠ 0 ∧ locked l = true ∧ waits l = true))
  | .write .cfgr2 v :: l =>
    v &&& cfgr2Prediv ≠ hw.value l .cfgr2 &&& cfgr2Prediv → hw.value l .cr &&& crPllon = 0
  | .write .acr v :: _ => flashLatency2 ≤ v &&& acrLatency
  | _ => True

abbrev Safe (hw : Rcc) (l : List RccEvent) : Prop := Always (Sound hw) l

theorem safe_looks {hw : Rcc} {n l : List RccEvent} (h : Safe hw l) (hn : Looks n) : Safe hw (n ++ l) := by
  refine always_append h fun k hk hne => ?_
  cases k with
  | nil => exact absurd rfl hne
  | cons e k =>
    cases e with
    | read r v => exact trivial
    | tick t => exact trivial
    | write r v => exact absurd rfl (hn _ (hk.subset List.mem_cons_self) r v)

/-! ## Time -/

/-- Time goes on by a tick within `K` accesses, and never jumps. -/
structure Ticking (hw : Rcc) (K : Nat) : Prop where
  mono : ∀ e l, hw.time l ≤ hw.time (e :: l)
  steady : ∀ e l, hw.time (e :: l) ≤ hw.time l + 1073741824
  runs : ∀ n l, n.length = K → hw.time l < hw.time (n ++ l)

theorem Ticking.mono_append {hw : Rcc} {K : Nat} (h : Ticking hw K) (n l : List RccEvent) :
    hw.time l ≤ hw.time (n ++ l) := by
  induction n with
  | nil => exact Nat.le_refl _
  | cons e n ih => exact ih.trans (h.mono e (n ++ l))

theorem Ticking.elapsed {hw : Rcc} {K : Nat} (h : Ticking hw K) {j : Nat} {n : List RccEvent} (l : List RccEvent)
    (hn : K * j ≤ n.length) : hw.time l + j ≤ hw.time (n ++ l) := by
  induction j generalizing n with
  | zero => exact h.mono_append n l
  | succ j ih =>
    rw [Nat.mul_succ] at hn
    -- the newest `K` accesses, and those before them
    have hold : hw.time l + j ≤ hw.time (n.drop K ++ l) := ih (by rw [List.length_drop]; omega)
    have hnew := h.runs (n.take K) (n.drop K ++ l) (by rw [List.length_take]; omega)
    rw [← List.append_assoc, List.take_append_drop] at hnew
    omega

/-- How a switch stops: soundly, and waiting for ever only if time stands still. -/
def Stops (hw : Rcc) (fuel : Nat) (e : HalStop) (l : List RccEvent) : Prop :=
  Safe hw l ∧ (e = .outOfFuel → ∀ K, Ticking hw K → fuel < K * 5001)

/-! ## Waiting -/

theorem tick_sub {hw : Rcc} {l s : List RccEvent} (h : hw.time l ≤ hw.time s) :
    (hw.tick s - hw.tick l).toNat = (hw.time s - hw.time l) % 4294967296 := by
  unfold Rcc.tick
  rw [BitVec.toNat_sub, BitVec.toNat_ofNat, BitVec.toNat_ofNat]
  omega

/-- A wait ends looking, with the register no longer busy. -/
theorem wait_wp {hw : Rcc} {l : List RccEvent} (fuel : Nat) {limit : Word} (hlimit : limit.toNat ≤ 5000) (r : RccReg)
    (busy : Word → Bool) (h : Safe hw l) :
    wp (waitWhile fuel limit r busy)
      (fun _ l' => ∃ n, Looks n ∧ busy (hw.reads (n ++ l) r) = false ∧ l' = .read r (hw.reads (n ++ l) r) :: (n ++ l))
      (Stops hw fuel) hw l := by
  -- `s` ends in a look at the clock that was not late
  let I : Nat → List RccEvent → Prop := fun k s => ∃ n, Looks n ∧ s = .tick (hw.tick (n ++ l)) :: (n ++ l) ∧
    2 * (fuel - k) ≤ n.length ∧ ∀ K, Ticking hw K → hw.time (n ++ l) ≤ hw.time l + limit.toNat
  let J : Nat → List RccEvent → Prop := fun k s => ∃ n, Looks n ∧ s = n ++ l ∧ 2 * (fuel - k) ≤ n.length ∧
    ∀ K, Ticking hw K → hw.time (n ++ l) < hw.time l + 4294967296
  have hwait : wp (pollWhile (do return busy (← readReg r))
      (do return decide (limit < (← getTick) - hw.tick l)) .timeout .outOfFuel fuel)
      (fun _ l' => ∃ n, Looks n ∧ busy (hw.reads (n ++ l) r) = false ∧ l' = .read r (hw.reads (n ++ l) r) :: (n ++ l))
      (Stops hw fuel) hw (.tick (hw.tick l) :: l) := by
    refine pollWhile_wp (I := I) (J := J) ?_ ?_ ?_ ⟨[], looks_nil, rfl, by omega,
      fun _ _ => by rw [List.nil_append]; omega⟩
    · rintro k s ⟨n, hn, rfl, hlen, htime⟩
      have hn' : Looks (.tick (hw.tick (n ++ l)) :: n) := looks_tick _ hn
      refine wp_of_ok rfl ⟨fun _ => ⟨_, looks_read r _ hn', rfl, ?_, fun K hK => ?_⟩, fun hb => ⟨_, hn', hb, rfl⟩⟩
      · simp only [List.length_cons]
        omega
      · have h1 := hK.steady (.tick (hw.tick (n ++ l))) (n ++ l)
        have h2 := hK.steady (.read r (hw.reads (.tick (hw.tick (n ++ l)) :: (n ++ l)) r))
          (.tick (hw.tick (n ++ l)) :: (n ++ l))
        have h3 := htime K hK
        simp only [List.cons_append]
        omega
    · rintro k s ⟨n, hn, rfl, hlen, htime⟩
      refine wp_of_ok rfl ⟨fun _ => ⟨safe_looks h (looks_tick _ hn), nofun⟩,
        fun hb => ⟨n, hn, rfl, hlen, fun K hK => ?_⟩⟩
      have h1 := hK.mono_append n l
      have h2 := htime K hK
      have hle : (hw.tick (n ++ l) - hw.tick l).toNat ≤ limit.toNat := by
        have := of_decide_eq_false hb
        rw [BitVec.lt_def] at this
        omega
      rw [tick_sub h1, Nat.mod_eq_of_lt (by omega)] at hle
      omega
    · rintro s ⟨n, hn, rfl, hlen, htime⟩
      refine ⟨safe_looks h (looks_tick _ hn), fun _ K hK => Nat.lt_of_not_le fun hfuel => ?_⟩
      have h1 := hK.elapsed (j := limit.toNat + 1) (n := n) l (by
        have := Nat.mul_le_mul_left K (show limit.toNat + 1 ≤ 5001 by omega)
        omega)
      have h2 := htime K hK
      omega
  exact wp_bind.mpr (wp_of_ok rfl hwait)

/-! ## Stages -/

/-- The fields a switch programs. -/
def RccReg.fields : RccReg → Word
  | .cr => 0x01050001
  | .cfgr => 0x003D3FF3
  | .cfgr2 => 0x0000000F
  | _ => 0

theorem reads_fields (hw : Rcc) (l : List RccEvent) (r : RccReg) :
    hw.reads l r &&& r.fields = hw.value l r &&& r.fields :=
  read_out (by cases r <;> decide)

/-- The fields hold `f`, and every moment so far was sound. -/
structure Stage (hw : Rcc) (f : RccReg → Word) (l : List RccEvent) : Prop where
  holds : ∀ r, hw.value l r &&& r.fields = f r
  safe : Safe hw l

variable {hw : Rcc} {f : RccReg → Word} {l n : List RccEvent}

theorem Stage.looks (h : Stage hw f l) (hn : Looks n) : Stage hw f (n ++ l) :=
  ⟨fun r => by rw [value_looks hn, h.holds r], safe_looks h.safe hn⟩

theorem Stage.read (h : Stage hw f l) (r : RccReg) (v : Word) : Stage hw f (.read r v :: l) :=
  h.looks (looks_read r v looks_nil)

/-- A part of the fields. -/
theorem Stage.part (h : Stage hw f l) {r : RccReg} {m : Word} (hm : r.fields &&& m = m) :
    hw.value l r &&& m = f r &&& m := by
  rw [← h.holds r, BitVec.and_assoc, hm]

theorem Stage.reads_part (h : Stage hw f l) {r : RccReg} {m : Word} (hm : r.fields &&& m = m) :
    hw.reads l r &&& m = f r &&& m := by
  rw [← h.holds r, ← reads_fields, BitVec.and_assoc, hm]

/-- The fields after a sound write. -/
theorem Stage.write (h : Stage hw f l) {r : RccReg} {v x : Word} (hv : v &&& r.fields = x)
    (hs : Sound hw (.write r v :: l)) :
    Stage hw (Function.update f r x) (.write r v :: l) := by
  refine ⟨fun r' => ?_, always_cons.mpr ⟨hs, h.safe⟩⟩
  by_cases hr : r = r'
  · subst hr
    rw [Function.update_self, Rcc.value, if_pos rfl, hv]
  · rw [Function.update_of_ne (Ne.symm hr), Rcc.value, if_neg hr, h.holds r']

/-! ## Sound writes to the registers -/

theorem enable_clocks (source : Word) : clocks &&& enable source = enable source := by
  unfold enable
  split
  · decide
  · split <;> decide

theorem feed_clocks (cfgr : Word) : clocks &&& feed cfgr = feed cfgr := by
  unfold feed
  split <;> decide

/-- A write that switches nothing off. -/
theorem allowed_kept {fed selecting : Prop} {cr cfgr v : Word} (h : cr &&& ~~~v &&& clocks = 0)
    (hon : cr &&& crPllon = 0 → v &&& crPllon ≠ 0 → fed) : Allowed fed selecting cr cfgr v where
  selected := kept_of_lost h (enable_clocks _)
  source _ := kept_of_lost h (feed_clocks _)
  off hoff := absurd h hoff
  on := hon

/-- What a write may do shows in the fields. -/
theorem allowed_fields {fed selecting : Prop} {cr cfgr v : Word}
    (h : Allowed fed selecting (cr &&& RccReg.cr.fields) (cfgr &&& RccReg.cfgr.fields) (v &&& RccReg.cr.fields)) :
    Allowed fed selecting cr cfgr v := by
  have hclocks : RccReg.cr.fields &&& clocks = clocks := by decide
  have hpart : ∀ {m : Word} (x : Word), clocks &&& m = m → x &&& RccReg.cr.fields &&& m = x &&& m := by
    intro m x hm
    rw [← hm, ← BitVec.and_assoc, BitVec.and_assoc x, hclocks]
    rw [BitVec.and_assoc]
  have hsw : cfgr &&& RccReg.cfgr.fields &&& cfgrSw = cfgr &&& cfgrSw := by
    rw [BitVec.and_assoc]
    rfl
  have hfeed : feed (cfgr &&& RccReg.cfgr.fields) = feed cfgr := by
    unfold feed
    rw [BitVec.and_assoc]
    rfl
  have hselected := h.selected
  have hsource := h.source
  have hoff := h.off
  have hon := h.on
  rw [hsw, hpart _ (enable_clocks _), hpart _ (enable_clocks _)] at hselected
  rw [hfeed, hpart _ (feed_clocks _), hpart _ (feed_clocks _), hpart _ (by decide)] at hsource
  rw [lost_fields hclocks] at hoff
  rw [hpart _ (by decide), hpart _ (by decide)] at hon
  exact ⟨hselected, hsource, hoff, hon⟩

theorem sound_cr {f : RccReg → Word} {v x : Word} (h : Stage hw f l) (hv : v &&& RccReg.cr.fields = x)
    (ha : Allowed (Fed hw l) (Selecting l) (f .cr) (f .cfgr) x) : Sound hw (.write .cr v :: l) := by
  rw [← h.holds, ← h.holds, ← hv] at ha
  exact allowed_fields ha

theorem sound_cfgr {f : RccReg → Word} {v x : Word} (h : Stage hw f l) (hv : v &&& RccReg.cfgr.fields = x)
    (hpll : x &&& pllFields ≠ f .cfgr &&& pllFields →
      f .cr &&& crPllon = 0 ∧ (x &&& pllFields = 0 ∨ unlocked l = true))
    (hsw : x &&& cfgrSw ≠ f .cfgr &&& cfgrSw → (x &&& cfgrSw = sysclksourceHsi ∧ f .cr &&& crHsion ≠ 0) ∨
      (x &&& cfgrSw = sysclksourcePllclk ∧ f .cr &&& crPllon ≠ 0 ∧ locked l = true ∧ waits l = true)) :
    Sound hw (.write .cfgr v :: l) := by
  have hpart : ∀ m, RccReg.cfgr.fields &&& m = m → v &&& m = x &&& m := fun m hm => by
    rw [← hv, BitVec.and_assoc, hm]
  have h1 := hpart pllFields (by decide)
  have h2 := hpart cfgrSw (by decide)
  have h3 := h.part (by decide : RccReg.cfgr.fields &&& pllFields = pllFields)
  have h4 := h.part (by decide : RccReg.cfgr.fields &&& cfgrSw = cfgrSw)
  have h5 := h.part (by decide : RccReg.cr.fields &&& crPllon = crPllon)
  have h6 := h.part (by decide : RccReg.cr.fields &&& crHsion = crHsion)
  refine ⟨fun hne => ?_, fun hne => ?_⟩
  · rw [h1, h3] at hne
    rw [h5, h1]
    exact hpll hne
  · rw [h2, h4] at hne
    rw [h2, h5, h6]
    exact hsw hne

theorem sound_other {r : RccReg} {v : Word} (hr : r.fields = 0)
    (hacr : r = .acr → flashLatency2 ≤ v &&& acrLatency) : Sound hw (.write r v :: l) := by
  cases r with
  | cr => cases hr
  | cfgr => cases hr
  | cfgr2 => cases hr
  | acr => exact hacr rfl
  | _ => exact trivial

/-! ## What stays seen -/

theorem hseRuns_spares (h : hseRuns hw l = true) (hn : Spares .cr n) : hseRuns hw (n ++ l) = true := by
  induction n with
  | nil => exact h
  | cons e n ih =>
    have hn' := ih fun v hv => hn v (List.mem_cons_of_mem _ hv)
    cases e with
    | read r v => cases r <;> simp [hseRuns, hn']
    | tick t => exact hn'
    | write r v =>
      cases r with
      | cr => exact absurd List.mem_cons_self (hn v)
      | _ => exact hn'

theorem waited_spares (h : waited l = true) (hn : Spares .acr n) : waited (n ++ l) = true := by
  induction n with
  | nil => exact h
  | cons e n ih =>
    have hn' := ih fun v hv => hn v (List.mem_cons_of_mem _ hv)
    cases e with
    | read r v => cases r <;> simp [waited, hn']
    | tick t => exact hn'
    | write r v =>
      cases r with
      | acr => exact absurd List.mem_cons_self (hn v)
      | _ => exact hn'

/-! ## Updates -/

/-- What the fields of `CR`, `CFGR` and `CFGR2` hold. -/
def fieldsOf (cr cfgr cfgr2 : Word) : RccReg → Word
  | .cr => cr
  | .cfgr => cfgr
  | .cfgr2 => cfgr2
  | _ => 0

/-- The history after an update. -/
def Rcc.updated (hw : Rcc) (l : List RccEvent) (r : RccReg) (g : Word → Word) : List RccEvent :=
  .write r (g (hw.reads l r)) :: .read r (hw.reads l r) :: l

/-- An update takes the fields of a register from `x` to `y`. -/
def Takes (hw : Rcc) (l : List RccEvent) (r : RccReg) (g : Word → Word) (x y : Word) : Prop :=
  hw.value l r &&& r.fields = x → g (hw.reads l r) &&& r.fields = y

theorem takes_and (r : RccReg) (m x : Word) : Takes hw l r (fun v => v &&& m) x (x &&& m) := by
  intro hx
  rw [← hx, BitVec.and_assoc, BitVec.and_comm m, ← BitVec.and_assoc, reads_fields]

theorem takes_or (r : RccReg) (m x : Word) : Takes hw l r (fun v => v ||| m) x (x ||| m &&& r.fields) := by
  intro hx
  rw [← hx, BitVec.and_or_distrib_right, reads_fields]

theorem takes_modify (r : RccReg) (clear set x : Word) :
    Takes hw l r (fun v => v &&& ~~~clear ||| set) x (x &&& ~~~clear ||| set &&& r.fields) := by
  intro hx
  rw [← hx, BitVec.and_or_distrib_right, BitVec.and_assoc, BitVec.and_comm (~~~clear), ← BitVec.and_assoc, reads_fields]

section

variable {a b c x : Word} {g : Word → Word}

/-- A look leaves the PLL fed. -/
theorem Fed.read (h : Fed hw l) (r : RccReg) (v : Word) : Fed hw (.read r v :: l) := by
  unfold Fed at h ⊢
  show if hw.value l .cfgr &&& cfgrPllsrc = pllsourceHsi then hw.value l .cr &&& crHsion ≠ 0 else _
  split at h
  · rename_i hs
    rw [if_pos hs]
    exact h
  · rename_i hs
    rw [if_neg hs]
    exact hseRuns_spares (n := [_]) h ((looks_read r v looks_nil).spares .cr)

theorem Stage.cr (h : Stage hw (fieldsOf a b c) l) (ht : Takes hw l .cr g a x)
    (ha : Allowed (Fed hw l) (Selecting (.read .cr (hw.reads l .cr) :: l)) a b x) :
    Stage hw (fieldsOf x b c) (hw.updated l .cr g) := by
  have he : fieldsOf x b c = Function.update (fieldsOf a b c) .cr x := by
    funext r
    cases r <;> rfl
  rw [he]
  exact (h.read .cr _).write (ht (h.holds .cr)) (sound_cr (h.read .cr _) (ht (h.holds .cr))
    ⟨ha.selected, ha.source, ha.off, fun h1 h2 => (ha.on h1 h2).read .cr _⟩)

theorem Stage.cfgr (h : Stage hw (fieldsOf a b c) l) (ht : Takes hw l .cfgr g b x)
    (hpll : x &&& pllFields ≠ b &&& pllFields → a &&& crPllon = 0 ∧ (x &&& pllFields = 0 ∨ unlocked l = true))
    (hsw : x &&& cfgrSw ≠ b &&& cfgrSw → (x &&& cfgrSw = sysclksourceHsi ∧ a &&& crHsion ≠ 0) ∨
      (x &&& cfgrSw = sysclksourcePllclk ∧ a &&& crPllon ≠ 0 ∧ locked l = true ∧ waits l = true)) :
    Stage hw (fieldsOf a x c) (hw.updated l .cfgr g) := by
  have he : fieldsOf a x c = Function.update (fieldsOf a b c) .cfgr x := by
    funext r
    cases r <;> rfl
  rw [he]
  exact (h.read .cfgr _).write (ht (h.holds .cfgr)) (sound_cfgr (h.read .cfgr _) (ht (h.holds .cfgr)) hpll hsw)

theorem Stage.cfgr2 (h : Stage hw (fieldsOf a b c) l) (ht : Takes hw l .cfgr2 g c x) (ha : a &&& crPllon = 0) :
    Stage hw (fieldsOf a b x) (hw.updated l .cfgr2 g) := by
  have he : fieldsOf a b x = Function.update (fieldsOf a b c) .cfgr2 x := by
    funext r
    cases r <;> rfl
  rw [he]
  exact (h.read .cfgr2 _).write (ht (h.holds .cfgr2)) fun _ => ((h.read .cfgr2 _).part (r := .cr) (by decide)).trans ha

/-- A register without fields. -/
theorem Stage.aside (h : Stage hw (fieldsOf a b c) l) {r : RccReg} {v : Word} (hr : r.fields = 0)
    (hacr : r = .acr → flashLatency2 ≤ v &&& acrLatency) : Stage hw (fieldsOf a b c) (.write r v :: l) := by
  have he : fieldsOf a b c = Function.update (fieldsOf a b c) r 0 := by
    funext r'
    by_cases hr' : r' = r
    · subst hr'
      rw [Function.update_self, ← h.holds r', hr]
      exact BitVec.and_zero
    · rw [Function.update_of_ne hr']
  rw [he]
  exact h.write (by rw [hr]; exact BitVec.and_zero) (sound_other hr hacr)

end

end Graviton.Clock
