/-
  Graviton.Coverage — which checks the round-robin of `safety_check` evaluates.

  A call evaluates its item if it is enabled and moves on; on a disabled one the `default`
  of the switch starts over at item 0. So the items form a scan over the enabled ones
  (`safetyCheck_item`), and a disabled item hides every item after it. `coverage_iff` is the
  exact condition on the disabled items under which every enabled check is evaluated again
  within 23 calls.
-/
import Graviton.Lib.Scan
import Graviton.Checks
import Graviton.Supplies

namespace Graviton

open Effects

/-! ## Items -/

/-- A disable vector as `disable_saftey_check` and `enable_saftey_check` leave it. -/
def Toggled (v : Vector UInt16 32) : Prop := ∀ (k : Nat) (d : UInt16), v[k]? = some d → d = 0 ∨ d = 0x8000

def Disabled (v : Vector UInt16 32) (k : Nat) : Prop := v[k]? = some 0x8000

/-- The items that a call evaluates before it moves on. -/
def Live (v : Vector UInt16 32) (k : Nat) : Prop := k ≤ 21 ∧ Enabled v k

instance (v : Vector UInt16 32) : DecidablePred (Live v) := fun k => by
  unfold Live Enabled; infer_instance

/-- A call with item `i` evaluates check `j`. -/
def Evaluates (v : Vector UInt16 32) (i : UInt16) (j : Nat) : Prop := ∃ d, v[i.toNat]? = some d ∧ (i ||| d).toNat = j

theorem disabled_ge (i : UInt16) : 0x8000 ≤ (i ||| 0x8000).toNat := by
  rw [UInt16.toNat_or]; exact Nat.right_le_or

theorem evaluates_iff {v : Vector UInt16 32} (hv : Toggled v) (i : UInt16) {j : Nat} (hj : j ≤ 21) :
    Evaluates v i j ↔ i.toNat = j ∧ Enabled v j := by
  constructor
  · rintro ⟨d, hd, hor⟩
    rcases hv _ _ hd with rfl | rfl
    · rw [UInt16.or_zero] at hor
      exact ⟨hor, hor ▸ hd⟩
    · have := disabled_ge i
      omega
  · rintro ⟨rfl, he⟩
    exact ⟨0, he, by rw [UInt16.or_zero]⟩

/-- A call that evaluates a check is the case of its item. -/
theorem evaluates_call {env : Env} {w : World} {i : UInt16} {j : Nat} {body : Fw Unit}
    (he : Evaluates w.mem.disableSafteyVector i j) (hb : safetyCase j = some body) :
    safetyCheck i env w = (body >>= fun _ => pure (i + 1) : Fw UInt16) env w := by
  obtain ⟨d, hd, hk⟩ := he
  unfold safetyCheck
  rw [run_bind_ok (run_getMem env w), hd]
  dsimp only
  rw [hk, hb]

/-- The call in `w` with item `i` evaluates check `j`, which is to run its case and go on. -/
def Performs (env : Env) (w : World) (i : UInt16) (j : Nat) : Prop :=
  Evaluates w.mem.disableSafteyVector i j ∧
    ∃ body, safetyCase j = some body ∧ safetyCheck i env w = (body >>= fun _ => pure (i + 1) : Fw UInt16) env w

theorem performs_iff {env : Env} {w : World} {i : UInt16} {j : Nat} (hj : j ≤ 21) :
    Performs env w i j ↔ Evaluates w.mem.disableSafteyVector i j := by
  refine ⟨And.left, fun he => ⟨he, ?_⟩⟩
  obtain ⟨body, hb⟩ := Option.isSome_iff_exists.mp ((safetyCase_isSome j).mpr hj)
  exact ⟨body, hb, evaluates_call he hb⟩

theorem toggled_lookup {v : Vector UInt16 32} (hv : Toggled v) {k : Nat} (hk : k < 32) : Enabled v k ∨ Disabled v k := by
  have hs : v[k]? = some v[k] := Vector.getElem?_eq_getElem hk
  rcases hv k _ hs with h | h
  · exact Or.inl (hs.trans (by rw [h]))
  · exact Or.inr (hs.trans (by rw [h]))

theorem live_iff {v : Vector UInt16 32} (hv : Toggled v) {i : UInt16} {d : UInt16} (hd : v[i.toNat]? = some d) :
    Live v i.toNat ↔ (i ||| d).toNat ≤ 21 := by
  rcases hv _ _ hd with rfl | rfl
  · rw [UInt16.or_zero]
    exact ⟨fun h => h.1, fun h => ⟨h, hd⟩⟩
  · have := disabled_ge i
    constructor
    · rintro ⟨_, he⟩
      rw [Enabled, hd] at he
      exact absurd (Option.some.inj he) (by decide)
    · intro h; omega

/-- A call that does not fault moves the scan on by one. -/
theorem safetyCheck_item {env : Env} {w w' : World} {item n : UInt16} (hi : item.toNat < 32) (h : w.Idle)
    (hv : Toggled w.mem.disableSafteyVector) (hr : safetyCheck item env w = .ok n w') :
    Checked w w' ∧ n.toNat = Scan.next (Live w.mem.disableSafteyVector) item.toNat := by
  have hwp : wp (safetyCheck item) (fun _ w' => Checked w w') (Exit env (Checked w)) env w := safetyCheck_wp hi h
  have hq := wp_ok hwp hr
  refine ⟨hq, ?_⟩
  obtain ⟨d, hd, ⟨hb, rfl, _⟩ | ⟨body, hb, rfl, _⟩⟩ := safetyCheck_cases hr
  · have hdead : ¬ (item ||| d).toNat ≤ 21 := fun hle => by
      have := (safetyCase_isSome _).mpr hle
      rw [hb] at this
      cases this
    rw [Scan.next_dead (fun hl => hdead ((live_iff hv hd).mp hl))]
    rfl
  · have hk : (item ||| d).toNat ≤ 21 := (safetyCase_isSome _).mp (by rw [hb]; rfl)
    rw [Scan.next_live ((live_iff hv hd).mpr hk), UInt16.toNat_add]
    show (item.toNat + 1) % 65536 = _
    omega

/-! ## Runs of checks -/

/-- `n` calls of `safety_check`, each on the item the one before returned. -/
def checks (n : Nat) (item : UInt16) : Fw UInt16 := iterate safetyCheck n item

theorem live_lt (v : Vector UInt16 32) (k : Nat) (h : Live v k) : k < 22 := by
  have := h.1
  omega

theorem checks_run {env : Env} {w w' : World} {item i : UInt16} (n s : Nat) (h : w.Idle)
    (hv : Toggled w.mem.disableSafteyVector)
    (hs : item.toNat = (Scan.next (Live w.mem.disableSafteyVector))^[s] 0)
    (hr : checks n item env w = .ok i w') :
    Checked w w' ∧ i.toNat = (Scan.next (Live w.mem.disableSafteyVector))^[n] item.toNat := by
  induction n generalizing i w' with
  | zero =>
    obtain ⟨rfl, rfl⟩ := EStateM.Result.ok.inj hr
    exact ⟨(Quiet.refl h).checked, rfl⟩
  | succ n ih =>
    obtain ⟨i1, w1, h1, h2⟩ := bind_ok_cases hr
    obtain ⟨hc, hi⟩ := ih h1
    have hle : i1.toNat ≤ 22 := by
      rw [hi, hs, ← Function.iterate_add_apply]
      exact Scan.reached_le (live_lt _) _
    rw [← hc.vector] at hv
    obtain ⟨hc2, hi2⟩ := safetyCheck_item (by omega) hc.step.idle hv h2
    rw [hc.vector] at hi2
    exact ⟨hc.trans hc2, by rw [hi2, hi, Function.iterate_succ_apply']⟩

/-- The items reached from 0, faults or not, are inside the disable vector. -/
theorem reached_index {env : Env} {w w' : World} {n : Nat} {i : UInt16} (h : w.Idle)
    (hv : Toggled w.mem.disableSafteyVector) (hr : checks n 0 env w = .ok i w') : i.toNat ≤ 22 := by
  obtain ⟨_, hi⟩ := checks_run n 0 h hv rfl hr
  rw [hi]
  exact Scan.reached_le (live_lt _) n

/-- From every item reached from 0, the index is inside the disable vector and the next 23
    calls evaluate every enabled check. -/
def Covers (env : Env) (w : World) : Prop :=
  ∀ n i w', checks n 0 env w = .ok i w' → i.toNat < 32 ∧
    ∀ j, j ≤ 21 → Enabled w.mem.disableSafteyVector j →
      ∃ m i' w'', m < 23 ∧ checks m i env w' = .ok i' w'' ∧ Performs env w'' i' j

/-- No check ever faults. -/
def NoFault (env : Env) (w : World) : Prop := ∀ n w', checks n 0 env w ≠ .error .systemReset w'

/-- A call stops only in a shutdown, so without a fault every call returns. -/
theorem NoFault.returns {env : Env} {w : World} (hf : NoFault env w) (h : w.Idle)
    (hv : Toggled w.mem.disableSafteyVector) (n : Nat) : ∃ i w', checks n 0 env w = .ok i w' := by
  induction n with
  | zero => exact ⟨0, w, rfl⟩
  | succ n ih =>
    obtain ⟨i, w1, hr⟩ := ih
    obtain ⟨hc, _⟩ := checks_run n 0 h hv rfl hr
    have hle := reached_index h hv hr
    have hrun : checks (n + 1) 0 env w = safetyCheck i env w1 := run_bind_ok hr _
    cases hn : safetyCheck i env w1 with
    | ok i' w2 => exact ⟨i', w2, hrun.trans hn⟩
    | error e w2 =>
      obtain ⟨rfl, _⟩ := Exit.writes (wp_error (safetyCheck_wp (by omega) hc.step.idle) hn)
      exact absurd (hrun.trans hn) (hf (n + 1) w2)

/-- The exact condition: no enabled check comes after a disabled one. -/
theorem covers_iff {env : Env} {w : World} (h : w.Idle) (hv : Toggled w.mem.disableSafteyVector)
    (hf : NoFault env w) :
    Covers env w ↔ ∀ j k, j < k → k ≤ 21 → Disabled w.mem.disableSafteyVector j → Disabled w.mem.disableSafteyVector k := by
  have hscan := Scan.covers_iff (live_lt w.mem.disableSafteyVector)
  have hzero : ((0 : UInt16).toNat) = (Scan.next (Live w.mem.disableSafteyVector))^[0] 0 := rfl
  have hcond : (∀ j k, j < k → k ≤ 21 → Disabled w.mem.disableSafteyVector j → Disabled w.mem.disableSafteyVector k) ↔
      ∀ j k, j < k → Live w.mem.disableSafteyVector k → Live w.mem.disableSafteyVector j := by
    constructor
    · intro hd j k hjk hk
      refine ⟨by have := hk.1; omega, ?_⟩
      rcases toggled_lookup hv (k := j) (by have := hk.1; omega) with he | hdis
      · exact he
      · have hk' := hd j k hjk hk.1 hdis
        rw [Disabled, hk.2] at hk'
        exact absurd (Option.some.inj hk') (by decide)
    · intro hl j k hjk hk hdis
      rcases toggled_lookup hv (k := k) (by omega) with he | hdis'
      · have hj := (hl j k hjk ⟨hk, he⟩).2
        rw [Enabled, hdis] at hj
        exact absurd (Option.some.inj hj) (by decide)
      · exact hdis'
  rw [hcond, ← hscan]
  constructor
  · intro hc n j hj
    obtain ⟨i, w1, hr⟩ := hf.returns h hv n
    obtain ⟨hc1, hi⟩ := checks_run n 0 h hv hzero hr
    obtain ⟨_, hcov⟩ := hc n i w1 hr
    obtain ⟨m, i', w2, hm, hr2, hev⟩ := hcov j hj.1 hj.2
    have hv1 : Toggled w1.mem.disableSafteyVector := by rw [hc1.vector]; exact hv
    obtain ⟨hc2, hi2⟩ := checks_run m n hc1.step.idle hv1 (by rw [hc1.vector, hi]; rfl) hr2
    rw [performs_iff hj.1, hc2.vector, hc1.vector] at hev
    obtain ⟨he, _⟩ := (evaluates_iff hv i' hj.1).mp hev
    refine ⟨m, by omega, ?_⟩
    rw [← he, hi2, hc1.vector, hi]
    rfl
  · intro hs n i w1 hr
    obtain ⟨hc1, hi⟩ := checks_run n 0 h hv hzero hr
    have hle := reached_index h hv hr
    refine ⟨by omega, fun j hj he => ?_⟩
    obtain ⟨m, hm, hmj⟩ := hs n j ⟨hj, he⟩
    obtain ⟨i2, w2, hr2⟩ := hf.returns h hv (n + m)
    unfold checks at hr2
    rw [iterate_add] at hr2
    obtain ⟨i1, w1', hr1, hr2⟩ := bind_ok_cases hr2
    obtain ⟨rfl, rfl⟩ := EStateM.Result.ok.inj (hr.symm.trans hr1)
    have hv1 : Toggled w1.mem.disableSafteyVector := by rw [hc1.vector]; exact hv
    obtain ⟨hc2, hi2⟩ := checks_run m n hc1.step.idle hv1 (by rw [hc1.vector, hi]; rfl) hr2
    refine ⟨m, i2, w2, by omega, hr2, ?_⟩
    rw [performs_iff hj, hc2.vector, hc1.vector]
    refine (evaluates_iff hv i2 hj).mpr ⟨?_, he⟩
    rw [hi2, hc1.vector, hi]
    exact hmj

/-! ## Disabling checks -/

/-- Disable (`true`) or enable an item. -/
def toggle (t : Bool × UInt16) : Fw Unit := if t.1 then disableSafteyCheck t.2 else enableSafteyCheck t.2

/-- From all checks enabled, any sequence of `disable_saftey_check` and `enable_saftey_check`. -/
def toggles (ts : List (Bool × UInt16)) : Fw Unit := do
  zeroBrokenBoards
  forM ts toggle

theorem toggled_set {v : Vector UInt16 32} (hv : Toggled v) (k : Nat) {d : UInt16} (hd : d = 0 ∨ d = 0x8000) :
    Toggled (v.setIfInBounds k d) := by
  intro i e he
  rw [Vector.getElem?_setIfInBounds] at he
  by_cases hi : k = i
  · rw [if_pos hi] at he
    split at he
    · rw [← Option.some.inj he]; exact hd
    · cases he
  · rw [if_neg hi] at he
    exact hv i e he

theorem toggled_zero : Toggled (Vector.replicate 32 0) := by
  intro k d hd
  rw [Vector.getElem?_replicate] at hd
  split at hd
  · exact Or.inl (Option.some.inj hd).symm
  · cases hd

/-- All that changed is the disable vector, by toggles. -/
structure Toggles (w w' : World) : Prop where
  idle : w'.Idle
  toggled : Toggled w.mem.disableSafteyVector → Toggled w'.mem.disableSafteyVector
  soft : w'.mem.soft = w.mem.soft

theorem toggle_run (t : Bool × UInt16) (env : Env) {w : World} (h : w.Idle) :
    ∃ w', toggle t env w = .ok () w' ∧ Toggles w w' := by
  have hset : ∀ d : UInt16, d = 0 ∨ d = 0x8000 →
      ∃ w', (if t.2.toNat ≥ 32 then pure ()
        else setSafteyVector (w.mem.disableSafteyVector.setIfInBounds t.2.toNat d) : Fw Unit) env w = .ok () w' ∧
          Toggles w w' := by
    intro d hd
    by_cases ht : t.2.toNat ≥ 32
    · rw [if_pos ht]
      exact ⟨w, rfl, h, id, rfl⟩
    · rw [if_neg ht]
      exact ⟨_, rfl, (withMem_step h _).idle, fun hv => toggled_set hv _ hd, rfl⟩
  unfold toggle
  cases t.1 with
  | true => exact hset 0x8000 (Or.inr rfl)
  | false => exact hset 0 (Or.inl rfl)

theorem toggles_run (ts : List (Bool × UInt16)) (env : Env) {w : World} (h : w.Idle) :
    ∃ w', toggles ts env w = .ok () w' ∧ w'.Idle ∧ Toggled w'.mem.disableSafteyVector ∧ w'.mem.soft = w.mem.soft := by
  have hall : ∀ (ts : List (Bool × UInt16)) (w : World), w.Idle →
      ∃ w', (forM ts toggle : Fw Unit) env w = .ok () w' ∧ Toggles w w' := by
    intro ts
    induction ts with
    | nil => exact fun w h => ⟨w, rfl, h, id, rfl⟩
    | cons t ts ih =>
      intro w h
      obtain ⟨w1, r1, h1⟩ := toggle_run t env h
      obtain ⟨w2, r2, h2⟩ := ih w1 h1.idle
      exact ⟨w2, by rw [List.forM_cons, run_bind_ok r1, r2], h2.idle, fun hv => h2.toggled (h1.toggled hv),
        h2.soft.trans h1.soft⟩
  let w0 := w.withMem { w.mem with disableSafteyVector := Vector.replicate 32 0 }
  have h0 : w0.Idle := (withMem_step h _).idle
  obtain ⟨w', r', h'⟩ := hall ts w0 h0
  refine ⟨w', ?_, h'.idle, h'.toggled toggled_zero, h'.soft⟩
  unfold toggles
  rw [run_bind_ok (show zeroBrokenBoards env w = .ok () w0 from rfl), r']

/-! ## A board on which no check faults -/

theorem healthy_register (c : Afe) (addr : UInt8) (w : World) :
    healthyEnv.register c addr w = healthyRegister c ((0x80 ||| addr) &&& 0x7F) := by
  simp [Env.register, World.asked, readFrame, healthyEnv, word_bytes]

theorem healthy_mv (c : Afe) (channel : AdcChannel) (gain : Gain) {w : World} (h : w.Idle) :
    Reading (getMv c channel gain) (mvOf (healthyRegister c ((0x80 ||| Amc7891.adcData channel) &&& 0x7F)) gain)
      healthyEnv w := by
  have hr := reading_getMv healthyEnv h c channel gain
  rwa [healthy_register] at hr

theorem healthy_temperature (c : Afe) {w : World} (h : w.Idle) :
    Reading (Amc7891.readTemperature c) (healthyRegister c ((0x80 ||| amcTempData) &&& 0x7F) / 8) healthyEnv w := by
  have hr := reading_temperature healthyEnv h c
  rwa [healthy_register] at hr

/-- A soft check within its limits only reads: its counter was 0 and stays 0. -/
theorem softCheck_passes {env : Env} {w : World} {read : Fw Int32} {value : Int32} {p : SoftRail}
    (hs : w.mem.soft = resetMem.soft) (h : Reading read value env w)
    (hhard : ¬ ((resetMem.soft p).lowerHard > value ∨ (resetMem.soft p).upperHard < value))
    (htol : ¬ (resetMem.soft p).lowerTol > value) : Reading (softCheck read p) () env w := by
  have hb : ¬ (w.mem.soft p).Broken value := by
    rw [hs]
    rintro (hb | ⟨hb, _⟩)
    · exact hhard hb
    · exact htol hb
  have hafter : (w.mem.soft p).after value = w.mem.soft p := by
    unfold SoftBottomTolerance.after
    rw [hs, if_neg htol]
    cases p <;> rfl
  obtain ⟨w', hr, hstep, hm⟩ := softCheck_run p h hb
  rw [hafter, Function.update_eq_self] at hm
  exact ⟨w', hr, hstep, hm⟩

theorem healthy_case {k : Nat} {body : Fw Unit} (hb : safetyCase k = some body) {w : World} (h : w.Idle)
    (hs : w.mem.soft = resetMem.soft) : Reading body () healthyEnv w := by
  have hmv := fun channel gain => (healthy_mv .afe0 channel gain h).map UInt32.toInt32
  have h55 := ((healthy_mv .afe0 gravAdcV5v5 .gain1x h).map convMvV5v5).map UInt32.toInt32
  have h55n := (healthy_mv .afe0 gravAdcV5v5n .gain1x h).map convMvV5v5n
  have h29 := ((healthy_mv .afe0 gravAdcV29 .gain1x h).map convMvV29).map UInt32.toInt32
  have ht := fun c => (healthy_temperature c h).map fun v => v.toUInt32.toInt32
  have hlm := fun c channel => ((healthy_mv c channel .gain1x h).map lm20ConvMvDegc).map UInt32.toInt32
  have hp : Reading (pure () : Fw Unit) () healthyEnv w := ⟨w, rfl, .refl h⟩
  unfold safetyCase at hb
  split at hb <;> cases hb
  · exact hardCheck_passes _ _ (hmv _ _) (by decide)
  · exact hardCheck_passes _ _ (hmv _ _) (by decide)
  · exact softCheck_passes hs (hmv _ _) (by decide) (by decide)
  · exact softCheck_passes hs h55 (by decide) (by decide)
  · exact softCheck_passes hs h55n (by decide) (by decide)
  · exact hardCheck_passes _ _ h29 (by decide)
  · exact hardCheck_passes _ _ (ht _) (by decide)
  · exact hardCheck_passes _ _ (ht _) (by decide)
  · exact hardCheck_passes _ _ (ht _) (by decide)
  · exact hardCheck_passes _ _ (hlm _ _) (by decide)
  · exact hardCheck_passes _ _ (hlm _ _) (by decide)
  · exact hardCheck_passes _ _ (hlm _ _) (by decide)
  · exact hardCheck_passes _ _ (hlm _ _) (by decide)
  · exact hardCheck_passes _ _ (hlm _ _) (by decide)
  · exact hardCheck_passes _ _ (hlm _ _) (by decide)
  · exact hp
  · exact hardCheck_passes _ _ (hlm _ _) (by decide)
  · exact hardCheck_passes _ _ (hlm _ _) (by decide)
  · exact hardCheck_passes _ _ (hlm _ _) (by decide)
  · exact hardCheck_passes _ _ (hlm _ _) (by decide)
  · exact hardCheck_passes _ _ (hlm _ _) (by decide)
  · exact hp

theorem healthy_check {item : UInt16} (hi : item.toNat < 32) {w : World} (h : w.Idle)
    (hs : w.mem.soft = resetMem.soft) : ∃ n w', safetyCheck item healthyEnv w = .ok n w' ∧ Quiet w w' := by
  have hd : w.mem.disableSafteyVector[item.toNat]? = some w.mem.disableSafteyVector[item.toNat] :=
    Vector.getElem?_eq_getElem hi
  unfold safetyCheck
  rw [run_bind_ok (run_getMem healthyEnv w), hd]
  dsimp only
  cases hb : safetyCase (item ||| w.mem.disableSafteyVector[item.toNat]).toNat with
  | none => exact ⟨0, w, rfl, .refl h⟩
  | some body =>
    obtain ⟨w', hr, hq⟩ := healthy_case hb h hs
    exact ⟨item + 1, w', run_bind_ok hr _, hq⟩

/-- On a healthy board no check faults, whatever is disabled. -/
theorem healthy_noFault {w : World} (h : w.Idle) (hv : Toggled w.mem.disableSafteyVector)
    (hs : w.mem.soft = resetMem.soft) : NoFault healthyEnv w := by
  have hq : ∀ n, ∃ i w', checks n 0 healthyEnv w = .ok i w' ∧ Quiet w w' := by
    intro n
    induction n with
    | zero => exact ⟨0, w, rfl, .refl h⟩
    | succ n ih =>
      obtain ⟨i, w1, hr, hq⟩ := ih
      have hle := reached_index h hv hr
      obtain ⟨i2, w2, hr2, hq2⟩ := healthy_check (by omega : i.toNat < 32) hq.step.idle (by rw [hq.mem, hs])
      exact ⟨i2, w2, (run_bind_ok hr _).trans hr2, hq.trans hq2⟩
  intro n w' hr
  obtain ⟨i, w1, hr1, _⟩ := hq n
  cases hr1.symm.trans hr

theorem toggles_noFault (ts : List (Bool × UInt16)) :
    ∃ w1, toggles ts healthyEnv idleWorld = .ok () w1 ∧ w1.Idle ∧ Toggled w1.mem.disableSafteyVector ∧
      NoFault healthyEnv w1 := by
  have h : idleWorld.Idle := ⟨rfl, rfl⟩
  obtain ⟨w1, hr, hi, hv, hs⟩ := toggles_run ts healthyEnv h
  exact ⟨w1, hr, hi, hv, healthy_noFault hi hv (hs.trans rfl)⟩

/-! ## Coverage -/

/-- For any set of disabled checks and any readings on which none faults, every enabled
    check is evaluated within every 23 calls exactly if none comes after a disabled one. -/
theorem coverage_iff (ts : List (Bool × UInt16)) {env : Env} {w w1 : World} (h : w.Idle)
    (ht : toggles ts env w = .ok () w1) (hf : NoFault env w1) :
    Covers env w1 ↔
      ∀ j k, j < k → k ≤ 21 → Disabled w1.mem.disableSafteyVector j → Disabled w1.mem.disableSafteyVector k := by
  obtain ⟨w', hr, hi, hv, _⟩ := toggles_run ts env h
  obtain rfl := (EStateM.Result.ok.inj (hr.symm.trans ht)).2
  exact covers_iff hi hv hf

/-- Disabling the last check starves none. -/
theorem coverage_last : ∃ w1, toggles [(true, 21)] healthyEnv idleWorld = .ok () w1 ∧ Covers healthyEnv w1 := by
  obtain ⟨w1, hr, _, _, hf⟩ := toggles_noFault [(true, 21)]
  have hvec : (final (toggles [(true, 21)] healthyEnv idleWorld)).mem.disableSafteyVector =
      (Vector.replicate 32 0).setIfInBounds 21 0x8000 := rfl
  rw [hr] at hvec
  have hlast : ∀ k, k < 22 → ∀ j, j < k → ¬ ((Vector.replicate 32 (0 : UInt16)).setIfInBounds 21 0x8000)[j]? = some 0x8000 := by
    decide
  refine ⟨w1, hr, (coverage_iff [(true, 21)] ⟨rfl, rfl⟩ hr hf).mpr fun j k hjk hk hd => ?_⟩
  rw [Disabled, show w1.mem.disableSafteyVector = _ from hvec] at hd
  exact absurd hd (hlast k (by omega) j hjk)

/-- The disabled check of board 012 starves those after it. -/
theorem coverage_starved :
    ∃ w1, toggles [(true, 12)] healthyEnv idleWorld = .ok () w1 ∧ NoFault healthyEnv w1 ∧ ¬ Covers healthyEnv w1 := by
  obtain ⟨w1, hr, hi, hv, hf⟩ := toggles_noFault [(true, 12)]
  have hvec : (final (toggles [(true, 12)] healthyEnv idleWorld)).mem.disableSafteyVector =
      (Vector.replicate 32 0).setIfInBounds 12 0x8000 := rfl
  rw [hr] at hvec
  refine ⟨w1, hr, hf, fun hc => ?_⟩
  have hd := (covers_iff hi hv hf).mp hc 12 13 (by decide) (by decide)
  rw [Disabled, Disabled, show w1.mem.disableSafteyVector = _ from hvec] at hd
  exact absurd (hd (by decide)) (by decide)

end Graviton
