/-
  Graviton.SoftLimits — `go_safe_and_reset_tolerance` over whole streams of readings.

  `FaultAt t v past` is what a soft limit is for: the reading `v`, after the readings `past`,
  is outside the hard limits, or completes `repeat_tol + 1` readings in a row below the soft
  one. The code keeps one counter. `Tracks t past t'` says that the record `t'` counts the
  streak of readings below the limit that `past` ends in, and it holds through any stream
  without a fault (`feed_run`). In the main loop each of the three records tracks its own
  item's readings, whatever else the loop does between them (`Watched.tracks`);
  `soft_limits` puts the two together.
-/
import Graviton.Coverage

namespace Graviton

open Effects History

/-! ## Faults -/

/-- The reading `v` after `past`, newest first, calls for a shutdown. -/
def SoftBottomTolerance.FaultAt (t : SoftBottomTolerance) (v : Int32) (past : List Int32) : Prop :=
  v < t.lowerHard ∨ v > t.upperHard ∨
    (t.repeatTol.toInt.toNat + 1 ≤ (v :: past).length ∧
      ∀ u ∈ (v :: past).take (t.repeatTol.toInt.toNat + 1), u < t.lowerTol)

instance (t : SoftBottomTolerance) (v : Int32) (past : List Int32) : Decidable (t.FaultAt v past) :=
  -- through the list: `Int32` is a finite type, and a search through it never ends
  haveI := List.decidableBAll (fun u => u < t.lowerTol) ((v :: past).take (t.repeatTol.toInt.toNat + 1))
  inferInstanceAs (Decidable (_ ∨ _ ∨ _ ∧ _))

/-- No reading of the history was a fault when it came. -/
def SoftBottomTolerance.Faultless (t : SoftBottomTolerance) (past : List Int32) : Prop :=
  ∀ v l, (v :: l) <:+ past → ¬ t.FaultAt v l

/-- `repeat_tol` is a count, and the next count fits in an `int32_t`. -/
structure SoftBottomTolerance.Proper (t : SoftBottomTolerance) : Prop where
  nonneg : 0 ≤ t.repeatTol.toInt
  lt : t.repeatTol.toInt < 2147483647

/-- The record `t'` is `t`, counting the readings below the soft limit that `past` ends in. -/
structure Tracks (t : SoftBottomTolerance) (past : List Int32) (t' : SoftBottomTolerance) : Prop where
  limits : t' = { t with violations := t'.violations }
  count : t'.violations.toInt = streak (· < t.lowerTol) past
  le : t'.violations.toInt ≤ t.repeatTol.toInt

section

variable {t t' : SoftBottomTolerance} {past : List Int32} {v : Int32}

/-- A fault in terms of the streak before it. -/
theorem faultAt_iff : t.FaultAt v past ↔ (v < t.lowerHard ∨ v > t.upperHard) ∨
    v < t.lowerTol ∧ t.repeatTol.toInt.toNat ≤ streak (· < t.lowerTol) past := by
  unfold SoftBottomTolerance.FaultAt
  rw [← le_streak_iff, or_assoc]
  by_cases h : v < t.lowerTol
  · rw [streak_cons_pos (p := (· < t.lowerTol)) h, Nat.add_le_add_iff_right]
    simp only [h, true_and]
  · rw [streak_cons_neg (p := (· < t.lowerTol)) h]
    simp only [h, false_and, Nat.le_zero, Nat.add_one_ne_zero]

theorem tracks_nil (hp : t.Proper) (h : t.violations = 0) : Tracks t [] t where
  limits := rfl
  count := by rw [h]; rfl
  le := by rw [h]; exact hp.nonneg

/-- What the code tests is a fault. -/
theorem Tracks.broken_iff (hp : t.Proper) (h : Tracks t past t') : t'.Broken v ↔ t.FaultAt v past := by
  have h0 := hp.nonneg
  have hcount : t'.violations ≥ t.repeatTol ↔ t.repeatTol.toInt.toNat ≤ streak (· < t.lowerTol) past := by
    rw [ge_iff_le, Int32.le_iff_toInt_le, h.count]
    omega
  rw [faultAt_iff, ← hcount, SoftBottomTolerance.Broken, h.limits]

/-- Within its limits a reading is counted, and the counter does not overflow. -/
theorem Tracks.after (hp : t.Proper) (h : Tracks t past t') (hv : ¬ t.FaultAt v past) :
    Tracks t (v :: past) (t'.after v) := by
  have hlt := hp.lt
  rw [faultAt_iff] at hv
  obtain ⟨n, rfl⟩ : ∃ n, t' = { t with violations := n } := ⟨_, h.limits⟩
  have hc : n.toInt = streak (· < t.lowerTol) past := h.count
  unfold SoftBottomTolerance.after
  dsimp only
  by_cases hlow : t.lowerTol > v
  · have hrep : ¬ t.repeatTol.toInt.toNat ≤ streak (· < t.lowerTol) past := fun hs => hv (Or.inr ⟨hlow, hs⟩)
    have h1 : (1 : Int32).toInt = 1 := rfl
    have hsucc : (n + 1).toInt = n.toInt + 1 := by
      rw [Exact.int32_add (by rw [h1]; omega) (by rw [h1]; omega), h1]
    rw [if_pos hlow]
    refine ⟨rfl, ?_, ?_⟩
    · rw [streak_cons_pos (p := (· < t.lowerTol)) hlow, hsucc, hc]
      rfl
    · rw [hsucc]
      omega
  · rw [if_neg hlow]
    refine ⟨rfl, ?_, hp.nonneg⟩
    rw [streak_cons_neg (p := (· < t.lowerTol)) hlow]
    rfl

theorem faultless_nil : t.Faultless [] := fun _ _ hl => absurd (List.suffix_nil.mp hl) (List.cons_ne_nil _ _)

theorem faultless_cons_iff :
    t.Faultless (v :: past) ↔ ¬ t.FaultAt v past ∧ t.Faultless past := by
  constructor
  · intro h
    exact ⟨h v past List.suffix_rfl, fun u l hl => h u l (hl.trans (List.suffix_cons _ _))⟩
  · rintro ⟨hv, h⟩ u l hl
    rcases List.suffix_cons_iff.mp hl with he | hl
    · obtain ⟨rfl, rfl⟩ := List.cons.inj he
      exact hv
    · exact h u l hl

end

/-! ## A stream of readings -/

/-- `go_safe_and_reset_tolerance` called on every reading of `past`, the oldest first. -/
def feed (p : SoftRail) : List Int32 → Fw Unit
  | [] => pure ()
  | v :: past => do
    feed p past
    let _ ← goSafeAndResetTolerance p v

/-- Through readings without a fault the calls return, and the record tracks them. -/
theorem feed_run (p : SoftRail) (env : Env) {w : World} (h : w.Idle) (hp : (w.mem.soft p).Proper)
    (h0 : (w.mem.soft p).violations = 0) {past : List Int32} (hf : (w.mem.soft p).Faultless past) :
    ∃ w', feed p past env w = .ok () w' ∧ w'.Idle ∧ Tracks (w.mem.soft p) past (w'.mem.soft p) := by
  induction past with
  | nil => exact ⟨w, rfl, h, tracks_nil hp h0⟩
  | cons v past ih =>
    obtain ⟨hv, hf⟩ := faultless_cons_iff.mp hf
    obtain ⟨w1, r1, i1, t1⟩ := ih hf
    obtain ⟨w2, r2, s2, m2⟩ := tolerance_passes p env i1 fun hb => hv ((t1.broken_iff hp).mp hb)
    refine ⟨w2, ?_, s2.idle, ?_⟩
    · unfold feed
      rw [run_bind_ok r1, run_bind_ok r2]
      rfl
    · have hrec : w2.mem.soft p = (w1.mem.soft p).after v := by rw [m2]; exact Function.update_self _ _ _
      rw [hrec]
      exact t1.after hp hv

/-! ## Visits in the main loop -/

theorem soft_proper (p : SoftRail) : (resetMem.soft p).Proper := by
  cases p <;> exact ⟨by decide, by decide⟩

/-- A case that judges no record changes none. -/
theorem hardCheck_soft {read : Fw Int32} (hr : ReadOnly read) {bad : Int32 → Bool} {reason reason2 : String} {env : Env}
    {w w' : World} (h : w.Idle) (he : hardCheck read bad reason reason2 env w = .ok () w') : w'.mem = w.mem := by
  obtain ⟨value, w1, hv, hq⟩ := hr env w h
  cases hb : bad value with
  | false =>
    obtain ⟨w2, hr2, hq2⟩ := hardCheck_passes reason reason2 ⟨w1, hv, hq⟩ hb
    cases hr2.symm.trans he
    exact hq2.mem
  | true => exact absurd ((hardCheck_resets bad reason reason2 ⟨w1, hv, hq⟩).mpr hb) (not_resets_ok he)

theorem safetyCase_soft {k : Nat} {body : Fw Unit} (hb : safetyCase k = some body) (hk : ∀ p : SoftRail, k ≠ p.item)
    {env : Env} {w w' : World} (h : w.Idle) (he : body env w = .ok () w') : w'.mem = w.mem := by
  cases safetyCase_kind hb with
  | skip =>
    cases he
    rfl
  | hard bad reason reason2 hr => exact hardCheck_soft hr h he
  | soft p hp => exact absurd hp (hk p)

section

variable {env : Env} {w w' : World} {item n : UInt16} {p : SoftRail}

/-- A call that evaluates a record's case is that case. -/
theorem visit_eq (he : Evaluates w.mem.disableSafteyVector item p.item) :
    safetyCheck item env w = (softCheck p.read p >>= fun _ => pure (item + 1) : Fw UInt16) env w :=
  evaluates_call he (softItem_case p)

theorem visit_resets {u : Int32} (he : Evaluates w.mem.disableSafteyVector item p.item) (hu : Reading p.read u env w) :
    Resets (safetyCheck item) env w ↔ (w.mem.soft p).Broken u := by
  have hr : Resets (softCheck p.read p >>= fun _ => pure (item + 1) : Fw UInt16) env w ↔ _ :=
    resets_bind_pure (softCheck p.read p) fun _ => item + 1
  unfold Resets at hr ⊢
  rw [visit_eq he, hr]
  exact softCheck_resets p hu

/-- A visit that returns counts its reading in its own record. -/
theorem visit_run {u : Int32} (he : Evaluates w.mem.disableSafteyVector item p.item) (hu : Reading p.read u env w)
    (hr : safetyCheck item env w = .ok n w') :
    w'.Idle ∧ w'.mem.soft = Function.update w.mem.soft p ((w.mem.soft p).after u) ∧ ¬ (w.mem.soft p).Broken u := by
  have hb : ¬ (w.mem.soft p).Broken u := fun hb => not_resets_ok hr ((visit_resets he hu).mpr hb)
  obtain ⟨w1, r1, s1, m1⟩ := softCheck_run p hu hb
  rw [visit_eq he, run_bind_ok r1] at hr
  cases hr
  exact ⟨s1.idle, by rw [m1], hb⟩

/-- Any other call changes no record. -/
theorem other_run (h : w.Idle) (hi : item.toNat < 32) (ho : ∀ p : SoftRail, ¬ Evaluates w.mem.disableSafteyVector item p.item)
    (hr : safetyCheck item env w = .ok n w') : w'.Idle ∧ w'.mem.soft = w.mem.soft := by
  refine ⟨(wp_ok (safetyCheck_wp hi h) hr).step.idle, ?_⟩
  obtain ⟨d, hd, ⟨_, _, rfl⟩ | ⟨body, hb, _, h1⟩⟩ := safetyCheck_cases hr
  · rfl
  · rw [safetyCase_soft hb (fun p hk => ho p ⟨d, hd, hk⟩) h h1]

end

/-! ## Runs of the main loop -/

/-- The loop got to `w`, and `h p` are the readings that the item of `p` took on the way. -/
inductive Watched (env : Env) : (SoftRail → List Int32) → World → Prop
  | start {w0 w : World} : init env reset = .ok () w0 → mainPrologue env w0 = .ok () w → Watched env (fun _ => []) w
  /-- Telemetry, a command byte and whatever else comes before a check. -/
  | serve {h : SoftRail → List Int32} {w w' : World} (v v' : LoopVars) : Watched env h w →
      mainFirst v env w = .ok v' w' → Watched env h w'
  | telemetry {h : SoftRail → List Int32} {w w' : World} (out : Port) : Watched env h w →
      dumpTelemetry out env w = .ok () w' → Watched env h w'
  | visit {h : SoftRail → List Int32} {w w' : World} (p : SoftRail) (item n : UInt16) (u : Int32) : Watched env h w →
      Evaluates w.mem.disableSafteyVector item p.item → Reading p.read u env w →
      safetyCheck item env w = .ok n w' → Watched env (Function.update h p (u :: h p)) w'
  | check {h : SoftRail → List Int32} {w w' : World} (item n : UInt16) : Watched env h w → item.toNat < 32 →
      (∀ p : SoftRail, ¬ Evaluates w.mem.disableSafteyVector item p.item) →
      safetyCheck item env w = .ok n w' → Watched env h w'

/-- Every record tracks the readings of its own item, none of them a fault. -/
structure Watches (h : SoftRail → List Int32) (w : World) : Prop where
  idle : w.Idle
  tracks : ∀ p, Tracks (resetMem.soft p) (h p) (w.mem.soft p)
  faultless : ∀ p, (resetMem.soft p).Faultless (h p)

theorem Watches.frame {h : SoftRail → List Int32} {w w' : World} (hw : Watches h w) (hi : w'.Idle)
    (hs : w'.mem.soft = w.mem.soft) : Watches h w' :=
  ⟨hi, fun p => by rw [hs]; exact hw.tracks p, hw.faultless⟩

theorem Watches.visit {h : SoftRail → List Int32} {w w' : World} {p : SoftRail} {u : Int32} (hw : Watches h w)
    (hi : w'.Idle) (hs : w'.mem.soft = Function.update w.mem.soft p ((w.mem.soft p).after u))
    (hb : ¬ (w.mem.soft p).Broken u) : Watches (Function.update h p (u :: h p)) w' := by
  rw [(hw.tracks p).broken_iff (soft_proper p)] at hb
  refine ⟨hi, fun q => ?_, fun q => ?_⟩
  · by_cases hq : q = p
    · rw [hq, hs, Function.update_self, Function.update_self]
      exact (hw.tracks p).after (soft_proper p) hb
    · rw [hs, Function.update_of_ne hq, Function.update_of_ne hq]
      exact hw.tracks q
  · by_cases hq : q = p
    · rw [hq, Function.update_self]
      exact faultless_cons_iff.mpr ⟨hb, hw.faultless p⟩
    · rw [Function.update_of_ne hq]
      exact hw.faultless q

theorem Watched.watches {env : Env} {h : SoftRail → List Int32} {w : World} (hw : Watched env h w) : Watches h w := by
  induction hw with
  | start h0 hp =>
    have hboot := (wp_ok (init_wp env) h0).2
    obtain ⟨w1, r1, a1, s1⟩ := prologue_run env hboot.idle
    cases r1.symm.trans hp
    refine ⟨a1.step.idle, fun p => ?_, fun _ => faultless_nil⟩
    rw [s1, hboot.soft]
    exact tracks_nil (soft_proper p) (by cases p <;> rfl)
  | serve v v' _ hr ih =>
    obtain ⟨_, w1, r1, h1, _, s1, _⟩ := mainFirst_run v env ih.idle
    cases r1.symm.trans hr
    exact ih.frame h1.idle s1
  | telemetry out _ hr ih =>
    obtain ⟨_, w1, r1, q1⟩ := readOnly_dumpTelemetry out env _ ih.idle
    cases r1.symm.trans hr
    exact ih.frame q1.step.idle (by rw [q1.mem])
  | visit p item n u _ he hu hr ih =>
    obtain ⟨hi, hs, hb⟩ := visit_run he hu hr
    exact ih.visit hi hs hb
  | check item n _ hi ho hr ih =>
    obtain ⟨hi', hs⟩ := other_run ih.idle hi ho hr
    exact ih.frame hi' hs

/-- Every check the loop makes is a visit or changes no record. -/
theorem Watched.checked {env : Env} {h : SoftRail → List Int32} {w w' : World} {item n : UInt16} (hw : Watched env h w)
    (hi : item.toNat < 32) (hr : safetyCheck item env w = .ok n w') : ∃ h', Watched env h' w' := by
  by_cases he : ∃ p : SoftRail, Evaluates w.mem.disableSafteyVector item p.item
  · obtain ⟨p, he⟩ := he
    obtain ⟨u, w1, hu⟩ := readOnly_softRead p env w hw.watches.idle
    exact ⟨_, .visit p item n u hw he ⟨w1, hu⟩ hr⟩
  · exact ⟨h, .check item n hw hi (fun p hp => he ⟨p, hp⟩) hr⟩

theorem mainRun_watched {env : Env} {n : Nat} {v : LoopVars} {w : World} (hr : mainRun n env reset = .ok v w) :
    ∃ h, Watched env h w := by
  induction n generalizing v w with
  | zero =>
    unfold mainRun at hr
    obtain ⟨_, w0, h0, hr⟩ := bind_ok_cases hr
    obtain ⟨_, w1, h1, hr⟩ := bind_ok_cases hr
    cases hr
    exact ⟨_, .start h0 h1⟩
  | succ n ih =>
    rw [mainRun_succ] at hr
    obtain ⟨v1, w1, h1, hr⟩ := bind_ok_cases hr
    obtain ⟨h, hw⟩ := ih h1
    have hv : v1.check.toNat ≤ 22 := (wp_ok (mainRun_wp env n) h1).1
    obtain ⟨v2, w2, h2, _, _, _, hc⟩ := mainFirst_run v1 env hw.watches.idle
    rw [mainIteration_eq, run_bind_ok h2] at hr
    obtain ⟨m, w3, h3, hr⟩ := bind_ok_cases hr
    cases hr
    exact (hw.serve v1 v2 h2).checked (by rw [hc]; omega) h3

/-! ## The soft limits -/

/-- The first fault of a stream comes exactly where `FaultAt` says, and until then the counter
    is the streak below the limit; and so for each record in the main loop, about the readings
    of its own item. -/
theorem soft_limits :
    (∀ p env w, w.Idle → (w.mem.soft p).Proper → (w.mem.soft p).violations = 0 →
      ∀ past, (w.mem.soft p).Faultless past → ∃ w', feed p past env w = .ok () w' ∧
        Tracks (w.mem.soft p) past (w'.mem.soft p) ∧
          ∀ v, Resets (goSafeAndResetTolerance p v) env w' ↔ (w.mem.soft p).FaultAt v past) ∧
      (∀ env h w, Watched env h w → ∀ p, (resetMem.soft p).Faultless (h p) ∧
        Tracks (resetMem.soft p) (h p) (w.mem.soft p) ∧
          ∀ item u, Evaluates w.mem.disableSafteyVector item p.item → Reading p.read u env w →
            (Resets (safetyCheck item) env w ↔ (resetMem.soft p).FaultAt u (h p))) ∧
      ∀ env n v w, mainRun n env reset = .ok v w → ∃ h, Watched env h w ∧
        ∃ v' w', mainFirst v env w = .ok v' w' ∧ Watched env h w' ∧
          (Resets (mainIteration v) env w ↔ Resets (safetyCheck v'.check) env w') := by
  refine ⟨fun p env w h hp h0 past hf => ?_, fun env h w hw p => ?_, fun env n v w hr => ?_⟩
  · obtain ⟨w', r, hi, ht⟩ := feed_run p env h hp h0 hf
    exact ⟨w', r, ht, fun v => (tolerance_resets p v hi).trans (ht.broken_iff hp)⟩
  · have ht := hw.watches.tracks p
    refine ⟨hw.watches.faultless p, ht, fun item u he hu => ?_⟩
    exact (visit_resets he hu).trans (ht.broken_iff (soft_proper p))
  · obtain ⟨h, hw⟩ := mainRun_watched hr
    obtain ⟨v1, w1, r1, _⟩ := mainFirst_run v env hw.watches.idle
    refine ⟨h, hw, v1, w1, r1, hw.serve v v1 r1, ?_⟩
    rw [mainIteration_eq, resets_bind_ok r1]
    exact resets_bind_pure _ _

/-- Two readings of the 3.8 V rail below 3150 mV. -/
theorem soft_limits_sag : ∃ w', feed .v3v8v [3120, 3140] healthyEnv idleWorld = .ok () w' ∧
    (w'.mem.soft .v3v8v).violations.toInt = 2 := by
  have hf : (idleWorld.mem.soft .v3v8v).Faultless [3120, 3140] :=
    faultless_cons_iff.mpr ⟨by decide,
      faultless_cons_iff.mpr ⟨by decide, faultless_nil⟩⟩
  obtain ⟨w', hr, ht, _⟩ := soft_limits.1 .v3v8v healthyEnv idleWorld ⟨rfl, rfl⟩ (soft_proper .v3v8v) rfl _ hf
  exact ⟨w', hr, ht.count.trans (by decide)⟩

-- with `repeat_tol = 2` the third low reading in a row is the fault, and a good one starts over
example : SoftBottomTolerance.FaultAt ⟨10, 20, 40, 2, 0, "", ""⟩ 15 [15, 15] := by decide
example : ¬ SoftBottomTolerance.FaultAt ⟨10, 20, 40, 2, 0, "", ""⟩ 15 [15, 30, 15] := by decide

end Graviton
