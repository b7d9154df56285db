/-
  Graviton.Response — which check the main loop makes when, what it resets for, and how soon.

  On a board whose first disabled item is `reach`, iteration `n` checks item `n mod (reach + 1)`,
  and none when that is `reach` itself (`schedule`); the items above it are never checked.
  So `main` is reset exactly in an iteration whose item finds its limit broken, by the shutdown
  that names this item and the value it read (`reset_iff`). A value that stays beyond its hard
  limits is met within one tour of the items, and one below its soft limit only within
  `repeat_tol + 1` tours (`responds`); without either `main` runs on (`available`).
-/
import Graviton.Emits
import Graviton.SoftLimits

namespace Graviton

open Effects History

/-! ## Boards -/

/-- The items `init_broken_boards` disables on a board. -/
def disabledOn (id : UInt32 × UInt32 × UInt32) : List Nat :=
  if id = board012 then [12] else if id = board021 then [10, 11] else if id = board007 then [16] else []

/-- The first item that the loop does not check on a board. -/
def reach (id : UInt32 × UInt32 × UInt32) : Nat := (disabledOn id).headD 22

/-- The disable vector with the items `l` disabled. -/
def disabling (l : List Nat) : Vector UInt16 32 := l.foldr (fun k v => v.setIfInBounds k 0x8000) (Vector.replicate 32 0)

theorem toggled_disabling (l : List Nat) : Toggled (disabling l) := by
  induction l with
  | nil => exact toggled_zero
  | cons k l ih => exact toggled_set ih k (Or.inr rfl)

theorem enabled_disabling {l : List Nat} {k : Nat} (hk : k < 32) : Enabled (disabling l) k ↔ k ∉ l := by
  induction l with
  | nil =>
    refine ⟨fun _ => List.not_mem_nil, fun _ => ?_⟩
    show (Vector.replicate 32 (0 : UInt16))[k]? = some 0
    rw [Vector.getElem?_replicate, if_pos hk]
  | cons j l ih =>
    show ((disabling l).setIfInBounds j 0x8000)[k]? = some 0 ↔ _
    rw [Vector.getElem?_setIfInBounds, List.mem_cons]
    by_cases hj : j = k
    · rw [if_pos hj, if_pos (hj ▸ hk)]
      exact ⟨fun h => absurd (Option.some.inj h) (by decide), fun h => absurd (Or.inl hj.symm) h⟩
    · rw [if_neg hj]
      refine ih.trans ⟨fun h => ?_, fun h => fun hm => h (Or.inr hm)⟩
      rintro (he | hm)
      · exact hj he.symm
      · exact h hm

/-- Below `reach` every item is enabled, and `reach` is not checked. -/
theorem live_reach (id : UInt32 × UInt32 × UInt32) :
    reach id ≤ 22 ∧ (∀ k, k < reach id → Live (disabling (disabledOn id)) k) ∧
    ¬ Live (disabling (disabledOn id)) (reach id) := by
  have hall : ∀ l ∈ [[12], [10, 11], [16], []], l.headD 22 ≤ 22 ∧ (∀ k, k < l.headD 22 → Live (disabling l) k) ∧
      ¬ Live (disabling l) (l.headD 22) := by
    unfold Live
    intro l hl
    have hmem : ∀ l ∈ [[12], [10, 11], [16], []], l.headD 22 ≤ 22 ∧ (∀ k, k < l.headD 22 → k ∉ l) ∧
        (l.headD 22 ≤ 21 → l.headD 22 ∈ l) := by decide
    obtain ⟨hle, hlow, hcut⟩ := hmem l hl
    refine ⟨hle, fun k hk => ⟨by omega, (enabled_disabling (by omega)).mpr (hlow k hk)⟩, ?_⟩
    rintro ⟨h21, he⟩
    exact (enabled_disabling (by omega)).mp he (hcut h21)
  have hid : disabledOn id ∈ [[12], [10, 11], [16], []] := by
    unfold disabledOn
    by_cases h012 : id = board012
    · rw [if_pos h012]
      decide
    by_cases h021 : id = board021
    · rw [if_neg h012, if_pos h021]
      decide
    by_cases h007 : id = board007
    · rw [if_neg h012, if_neg h021, if_pos h007]
      decide
    rw [if_neg h012, if_neg h021, if_neg h007]
    decide
  exact hall _ hid

theorem prologue_vector {env : Env} {w w' : World} (h : mainPrologue env w = .ok () w') :
    w'.mem.disableSafteyVector = disabling (disabledOn env.devId) := by
  let w0 := w.withMem { w.mem with disableSafteyVector := Vector.replicate 32 0 }
  have hboard : ∃ w1, initBrokenBoards env w = .ok () w1 ∧
      w1.mem.disableSafteyVector = disabling (disabledOn env.devId) := by
    unfold initBrokenBoards
    rw [run_bind_ok (show zeroBrokenBoards env w = .ok () w0 from rfl),
      run_bind_ok (show askEnv env w0 = .ok env w0 from rfl)]
    unfold disabledOn markBrokenBoards
    by_cases h012 : env.devId = board012
    · rw [h012]
      exact ⟨_, rfl, rfl⟩
    by_cases h021 : env.devId = board021
    · rw [h021]
      exact ⟨_, rfl, rfl⟩
    by_cases h007 : env.devId = board007
    · rw [h007]
      exact ⟨_, rfl, rfl⟩
    rw [if_neg h012, if_neg h021, if_neg h007, if_neg h012]
    dsimp only
    rw [if_neg h021, if_neg h007]
    exact ⟨w0, rfl, rfl⟩
  obtain ⟨w1, r1, h1⟩ := hboard
  unfold mainPrologue at h
  rw [run_bind_ok r1, run_bind_ok (show askEnv env w1 = .ok env w1 from rfl)] at h
  cases h
  exact h1

/-! ## An iteration -/

theorem keeps_vector (v : Vector UInt16 32) (x : LoopVars) :
    Keeps (fun w => w.mem.disableSafteyVector = v) (mainFirst x) := by
  have hread : ∀ {α : Type} {x : Fw α}, ReadOnly x → Keeps (fun w => w.mem.disableSafteyVector = v) x := fun hx =>
    hx.keeps fun _ _ hq hw => by rw [hq.mem]; exact hw
  have hask : Keeps (fun w => w.mem.disableSafteyVector = v) fpgaReadable := fun _ _ h hw =>
    wp_of_ok rfl ⟨push_idle.mpr h, hw⟩
  have hcommand : Keeps (fun w => w.mem.disableSafteyVector = v) command := by
    intro env w h hw
    obtain ⟨msg, w', r, hr, _⟩ := command_run env h
    refine wp_of_ok r ⟨hr.idle, ?_⟩
    show w'.mem.disableSafteyVector = v
    rw [hr.mem]
    show (commandMem w.mem msg).disableSafteyVector = v
    unfold commandMem
    cases effect .afeA msg <;> cases effect .afeB msg <;> exact hw
  have hserve : ∀ x, Keeps (fun w => w.mem.disableSafteyVector = v) (do let readable ← fpgaReadable
                                                                         if readable then command
                                                                         return x : Fw LoopVars) := fun x =>
    hask.bind fun readable => (hcommand.bind fun _ => hread (readOnly_pure x)).ite (hread (readOnly_pure x)) _
  unfold mainFirst
  by_cases hs : x.slow % 10000 = 0
  · rw [if_pos hs]
    refine Keeps.bind (fun env w h hw => ?_) fun x => hserve { x with slow := x.slow + 1 }
    obtain ⟨x', w', r, q, _⟩ := periodic_run x env h
    exact wp_of_ok r ⟨q.step.idle, by rw [q.mem]; exact hw⟩
  · rw [if_neg hs]
    exact (hread (readOnly_pure x)).bind fun x => hserve { x with slow := x.slow + 1 }

/-- After `n` iterations of `main`. -/
structure Touring (env : Env) (n : Nat) (v : LoopVars) (w : World) : Prop where
  idle : w.Idle
  vector : w.mem.disableSafteyVector = disabling (disabledOn env.devId)
  check : v.check.toNat = n % (reach env.devId + 1)
  tracks : ∀ p, ∃ past, Tracks (resetMem.soft p) past (w.mem.soft p)

/-- The check that iteration `n` makes. -/
def due (env : Env) (n : Nat) : Option Item :=
  if n % (reach env.devId + 1) < reach env.devId then item (n % (reach env.devId + 1)) else none

/-- An iteration is its item's check, after telemetry and commands. -/
structure Checks (env : Env) (n : Nat) (v : LoopVars) (w : World) (v1 : LoopVars) (w1 : World) : Prop where
  first : mainFirst v env w = .ok v1 w1
  idle : w1.Idle
  log : w.log <:+ w1.log
  soft : w1.mem.soft = w.mem.soft
  vector : w1.mem.disableSafteyVector = w.mem.disableSafteyVector
  iteration : ∃ m : UInt16, m.toNat = (n + 1) % (reach env.devId + 1) ∧ mainIteration v env w =
    (match due env n with
      | some i => i.check >>= fun _ => pure { v1 with check := m }
      | none => pure { v1 with check := m } : Fw LoopVars) env w1

theorem Touring.checks {env : Env} {n : Nat} {v : LoopVars} {w : World} (h : Touring env n v w) :
    ∃ v1 w1, Checks env n v w v1 w1 := by
  obtain ⟨hle, hlow, hcut⟩ := live_reach env.devId
  obtain ⟨v1, w1, r1, h1, hlog, hs, hc⟩ := mainFirst_run v env h.idle
  have hv := (wp_ok (keeps_vector _ v env w h.idle rfl) r1).2
  refine ⟨v1, w1, r1, h1.idle, hlog, hs, hv, ?_⟩
  have hmod : n % (reach env.devId + 1) < reach env.devId + 1 := Nat.mod_lt n (Nat.succ_pos _)
  have hnext : (n + 1) % (reach env.devId + 1) = (n % (reach env.devId + 1) + 1) % (reach env.devId + 1) :=
    (Nat.mod_add_mod n (reach env.devId + 1) 1).symm
  have hcheck : v1.check.toNat = n % (reach env.devId + 1) := by rw [hc, h.check]
  have ht : Toggled w1.mem.disableSafteyVector := by
    rw [hv, h.vector]
    exact toggled_disabling _
  rw [mainIteration_eq, run_bind_ok r1]
  unfold due
  by_cases hk : n % (reach env.devId + 1) < reach env.devId
  · have hlive := hlow _ hk
    rw [← h.vector, ← hv, ← hcheck] at hlive
    refine ⟨v1.check + 1, ?_, ?_⟩
    · rw [hnext, Nat.mod_eq_of_lt (by omega), UInt16.toNat_add, hcheck]
      exact Nat.mod_eq_of_lt (show n % (reach env.devId + 1) + 1 < 65536 by omega)
    rw [if_pos hk, ← hcheck]
    unfold safetyCheck
    rw [bind_assoc, run_bind_ok (run_getMem env w1),
      show w1.mem.disableSafteyVector[v1.check.toNat]? = some 0 from hlive.2]
    dsimp only
    rw [UInt16.or_zero, safetyCase_of_le hlive.1]
    unfold itemCheck
    cases item v1.check.toNat with
    | some i => rw [bind_assoc]; rfl
    | none => rfl
  · have hend : n % (reach env.devId + 1) = reach env.devId := by omega
    refine ⟨0, by rw [hnext, hend, Nat.mod_self]; rfl, ?_⟩
    rw [if_neg hk]
    have hdead : ¬ Live w1.mem.disableSafteyVector v1.check.toNat := by
      rw [hv, h.vector, hcheck, hend]
      exact hcut
    obtain ⟨d, hd⟩ : ∃ d, w1.mem.disableSafteyVector[v1.check.toNat]? = some d :=
      ⟨_, Vector.getElem?_eq_getElem (show v1.check.toNat < 32 by omega)⟩
    have hnone : safetyCase (v1.check ||| d).toNat = none := by
      rw [live_iff ht hd, ← safetyCase_isSome] at hdead
      exact Option.not_isSome_iff_eq_none.mp hdead
    unfold safetyCheck
    rw [bind_assoc, run_bind_ok (run_getMem env w1), hd]
    dsimp only
    rw [hnone]
    rfl

/-- What a check that passes does to the records. -/
theorem passes_tracks {soft soft' : SoftRail → SoftBottomTolerance} {l : Limit} {value : Int32}
    (h : ∀ p, ∃ past, Tracks (resetMem.soft p) past (soft p)) (hb : ¬ l.Broken soft value)
    (hs : soft' = l.after soft value)
    (p : SoftRail) : ∃ past, Tracks (resetMem.soft p) past (soft' p) := by
  rw [hs]
  cases l with
  | hard => exact h p
  | soft q =>
    by_cases hq : p = q
    · subst hq
      obtain ⟨past, ht⟩ := h p
      have hnot : ¬ (resetMem.soft p).FaultAt value past := fun hf => hb ((ht.broken_iff (soft_proper p)).mpr hf)
      refine ⟨value :: past, ?_⟩
      show Tracks _ _ (Function.update soft p _ p)
      rw [Function.update_self]
      exact ht.after (soft_proper p) hnot
    · obtain ⟨past, ht⟩ := h p
      refine ⟨past, ?_⟩
      show Tracks _ _ (Function.update soft q _ p)
      rw [Function.update_of_ne hq]
      exact ht

/-- An iteration that returns found its item's limit kept, and counted. -/
theorem Checks.passed {env : Env} {n : Nat} {v v' v1 : LoopVars} {w w' w1 : World} (h : Checks env n v w v1 w1)
    (hr : mainIteration v env w = .ok v' w') :
    w'.Idle ∧ w'.mem.disableSafteyVector = w.mem.disableSafteyVector ∧ w.log <:+ w'.log ∧
      v'.check.toNat = (n + 1) % (reach env.devId + 1) ∧
      (∀ i, due env n = some i → ¬ i.limit.Broken w.mem.soft (i.sensor.value env w1) ∧
        w'.mem.soft = i.limit.after w.mem.soft (i.sensor.value env w1)) ∧
      (due env n = none → w'.mem.soft = w.mem.soft) := by
  obtain ⟨m, hm, hi⟩ := h.iteration
  rw [hi] at hr
  cases hd : due env n with
  | none =>
    rw [hd] at hr
    cases hr
    exact ⟨h.idle, h.vector, h.log, hm, fun i hi => (by cases hi), fun _ => h.soft⟩
  | some i =>
    rw [hd] at hr
    have hb : ¬ i.limit.Broken w1.mem.soft (i.sensor.value env w1) := by
      intro hb
      obtain ⟨w2, _, hres⟩ := check_shutdown env h.idle i hb
      cases (run_bind_error hres _).symm.trans hr
    obtain ⟨w2, r2, s2, m2⟩ := check_passes env h.idle i hb
    dsimp only at hr
    rw [run_bind_ok r2] at hr
    cases hr
    rw [h.soft] at hb m2
    refine ⟨s2.idle, by rw [m2]; exact h.vector, h.log.trans s2.log, hm, ?_, fun hn => (by cases hn)⟩
    rintro j hj
    cases hj
    exact ⟨hb, by rw [m2]⟩

theorem mainRun_touring {env : Env} {n : Nat} {v : LoopVars} {w : World} (h : mainRun n env reset = .ok v w) :
    Touring env n v w := by
  induction n generalizing v w with
  | zero =>
    unfold mainRun at h
    obtain ⟨_, w0, h0, h⟩ := bind_ok_cases h
    obtain ⟨_, w1, h1, h⟩ := bind_ok_cases h
    cases h
    have hboot := (wp_ok (init_wp env) h0).2
    obtain ⟨w2, r2, a2, s2⟩ := prologue_run env hboot.idle
    cases r2.symm.trans h1
    refine ⟨a2.step.idle, prologue_vector h1, (Nat.zero_mod _).symm, fun p => ⟨[], ?_⟩⟩
    rw [s2, hboot.soft]
    exact tracks_nil (soft_proper p) (by cases p <;> rfl)
  | succ n ih =>
    rw [mainRun_succ] at h
    obtain ⟨v0, w0, h0, h⟩ := bind_ok_cases h
    have ht := ih h0
    obtain ⟨v1, w1, hc⟩ := ht.checks
    obtain ⟨hi, hv, _, hm, hsome, hnone⟩ := hc.passed h
    refine ⟨hi, hv.trans ht.vector, hm, ?_⟩
    cases hd : due env n with
    | none => rw [hnone hd]; exact ht.tracks
    | some i =>
      obtain ⟨hb, hs⟩ := hsome i hd
      exact passes_tracks ht.tracks hb hs

/-! ## The schedule -/

/-- Iteration `n` makes the check of item `n mod (reach + 1)`, after telemetry and commands. -/
theorem schedule {env : Env} {n : Nat} {v : LoopVars} {w : World} (h : mainRun n env reset = .ok v w) :
    v.check.toNat = n % (reach env.devId + 1) ∧ ∃ v1 w1, Checks env n v w v1 w1 :=
  ⟨(mainRun_touring h).check, (mainRun_touring h).checks⟩

/-- The healthy board, as board 012. -/
def healthy012 : Env := { healthyEnv with devId := board012 }

set_option maxRecDepth 100000 in
/-- Twelve iterations in, board 012 has made its last check. -/
theorem schedule_012 : ∃ v w, mainRun 12 healthy012 reset = .ok v w ∧ due healthy012 12 = none ∧
    v.check.toNat = 12 := by
  have h : returned (mainRun 12 healthy012 reset) = true := by decide +kernel
  obtain ⟨v, w, hw⟩ := returned_ok h
  exact ⟨v, w, hw, by decide, (schedule hw).1⟩

/-! ## Resets -/

/-- The check of iteration `m` finds its limit broken, and its shutdown leaves `w'`. -/
structure Faulted (env : Env) (m : Nat) (v : LoopVars) (w : World) (i : Item) (w' : World) : Prop where
  run : mainRun m env reset = .ok v w
  due : due env m = some i
  broken : ∃ v1 w1, mainFirst v env w = .ok v1 w1 ∧ i.limit.Broken w.mem.soft (i.sensor.value env w1) ∧
    shutdown (i.limit.reason w.mem.soft) (some (i.limit.reason2 w.mem.soft)) (i.sensor.value env w1) env
      (w1.didRead env i.sensor.chip i.sensor.addr) = .ok () w'

theorem Faulted.resets {env : Env} {m : Nat} {v : LoopVars} {w w' : World} {i : Item} (h : Faulted env m v w i w') :
    mainRun (m + 1) env reset = .error .systemReset w' := by
  obtain ⟨v1, w1, hc⟩ := (mainRun_touring h.run).checks
  obtain ⟨v2, w2, r2, hb, hs⟩ := h.broken
  cases hc.first.symm.trans r2
  obtain ⟨k, _, hi⟩ := hc.iteration
  rw [← hc.soft] at hb hs
  obtain ⟨w3, hs3, hr3⟩ := check_shutdown env hc.idle i hb
  cases hs.symm.trans hs3
  rw [mainRun_succ, run_bind_ok h.run, hi, h.due]
  exact run_bind_error hr3 _

/-- An iteration that does not return was reset by the item that was due. -/
theorem Touring.faulted {env : Env} {n : Nat} {v : LoopVars} {w w' : World} {e : Stop}
    (hrun : mainRun n env reset = .ok v w)
    (hr : mainIteration v env w = .error e w') : e = .systemReset ∧ ∃ i, Faulted env n v w i w' := by
  obtain ⟨v1, w1, hc⟩ := (mainRun_touring hrun).checks
  obtain ⟨k, _, hi⟩ := hc.iteration
  rw [hi] at hr
  cases hd : due env n with
  | none =>
    rw [hd] at hr
    cases hr
  | some i =>
    rw [hd] at hr
    dsimp only at hr
    by_cases hb : i.limit.Broken w1.mem.soft (i.sensor.value env w1)
    · obtain ⟨w2, hs2, r2⟩ := check_shutdown env hc.idle i hb
      rw [run_bind_error r2] at hr
      cases hr
      rw [hc.soft] at hb hs2
      exact ⟨rfl, i, hrun, hd, v1, w1, hc.first, hb, hs2⟩
    · obtain ⟨w2, r2, _⟩ := check_passes env hc.idle i hb
      rw [run_bind_ok r2] at hr
      cases hr

theorem mainRun_stays_error {env : Env} {m n : Nat} {e : Stop} {w' : World} (h : mainRun m env reset = .error e w')
    (hmn : m ≤ n) : mainRun n env reset = .error e w' := by
  induction hmn with
  | refl => exact h
  | step _ ih =>
    rw [mainRun_succ]
    exact run_bind_error ih _

theorem mainRun_zero_error {env : Env} {e : Stop} {w' : World} :
    mainRun 0 env reset = .error e w' ↔ init env reset = .error e w' := by
  have hrun : mainRun 0 env reset =
      (init >>= fun _ => mainPrologue >>= fun _ => pure ⟨0, 1, 0⟩ : Fw LoopVars) env reset := rfl
  rw [hrun]
  cases hi : init env reset with
  | error e1 w1 =>
    rw [run_bind_error hi]
    exact ⟨fun h => by cases h; rfl, fun h => by cases h; rfl⟩
  | ok a w1 =>
    obtain ⟨w2, r2, _⟩ := prologue_run env (wp_ok (init_wp env) hi).2.idle
    rw [run_bind_ok hi, run_bind_ok r2]
    exact ⟨fun h => (by cases h), fun h => (by cases h)⟩

theorem resets_cases {env : Env} {n : Nat} {w' : World} (h : mainRun n env reset = .error .systemReset w') :
    init env reset = .error .systemReset w' ∨ ∃ m v w i, m < n ∧ Faulted env m v w i w' := by
  induction n with
  | zero => exact Or.inl (mainRun_zero_error.mp h)
  | succ n ih =>
    cases hr : mainRun n env reset with
    | error e w1 =>
      cases (mainRun_stays_error hr (Nat.le_succ n)).symm.trans h
      exact (ih hr).imp_right fun ⟨m, v, w, i, hm, hf⟩ => ⟨m, v, w, i, by omega, hf⟩
    | ok v w =>
      rw [mainRun_succ, run_bind_ok hr] at h
      obtain ⟨_, i, hf⟩ := Touring.faulted hr h
      exact Or.inr ⟨n, v, w, i, Nat.lt_succ_self n, hf⟩

/-- `main` is reset in `init`, or in the first iteration whose item finds its limit broken, by
    the shutdown that names the item and what it read. -/
theorem reset_iff (env : Env) (n : Nat) (w' : World) : mainRun n env reset = .error .systemReset w' ↔
    init env reset = .error .systemReset w' ∨ ∃ m v w i, m < n ∧ Faulted env m v w i w' := by
  constructor
  · exact resets_cases
  · rintro (h | ⟨m, v, w, i, hm, hf⟩)
    · exact mainRun_stays_error (mainRun_zero_error.mpr h) (Nat.zero_le n)
    · exact mainRun_stays_error hf.resets hm

/-! ## Faults that stay -/

/-- Is the value out of the limits, the hard ones or the soft one? -/
def Limit.Out (value : Int32) : Limit → Prop
  | .hard bad _ _ => bad value = true
  | .soft p => value < (resetMem.soft p).lowerHard ∨ value > (resetMem.soft p).upperHard ∨ value < (resetMem.soft p).lowerTol

instance (value : Int32) (l : Limit) : Decidable (l.Out value) := by
  cases l <;> unfold Limit.Out <;> infer_instance

/-- Is it beyond the hard limits, which allow no repetition? -/
def Limit.Beyond (value : Int32) : Limit → Prop
  | .hard bad _ _ => bad value = true
  | .soft p => value < (resetMem.soft p).lowerHard ∨ value > (resetMem.soft p).upperHard

instance (value : Int32) (l : Limit) : Decidable (l.Beyond value) := by
  cases l <;> unfold Limit.Beyond <;> infer_instance

/-- How many values out of the limits may come in a row. -/
def Limit.patience : Limit → Nat
  | .hard _ _ _ => 0
  | .soft p => (resetMem.soft p).repeatTol.toInt.toNat

/-- How many of the last ones were. -/
def Limit.count (soft : SoftRail → SoftBottomTolerance) : Limit → Nat
  | .hard _ _ _ => 0
  | .soft p => (soft p).violations.toInt.toNat

section

variable {soft : SoftRail → SoftBottomTolerance} (h : ∀ p, ∃ past, Tracks (resetMem.soft p) past (soft p)) {l : Limit}
  {value : Int32}

include h

theorem count_le_patience (l : Limit) : l.count soft ≤ l.patience := by
  cases l with
  | hard => exact Nat.le_refl 0
  | soft p =>
    obtain ⟨_, ht⟩ := h p
    have hle := ht.le
    have hc := ht.count
    show (soft p).violations.toInt.toNat ≤ (resetMem.soft p).repeatTol.toInt.toNat
    omega

/-- A value within the limits breaks nothing. -/
theorem not_broken_of_not_out (ho : ¬ l.Out value) : ¬ l.Broken soft value := by
  cases l with
  | hard => exact ho
  | soft p =>
    obtain ⟨past, ht⟩ := h p
    show ¬ (soft p).Broken value
    rw [ht.broken_iff (soft_proper p), faultAt_iff]
    rintro ((hf | hf) | ⟨hf, _⟩)
    · exact ho (Or.inl hf)
    · exact ho (Or.inr (Or.inl hf))
    · exact ho (Or.inr (Or.inr hf))

/-- One beyond the hard limits breaks them at once. -/
theorem broken_of_beyond (hb : l.Beyond value) : l.Broken soft value := by
  cases l with
  | hard => exact hb
  | soft p =>
    obtain ⟨past, ht⟩ := h p
    show (soft p).Broken value
    rw [ht.broken_iff (soft_proper p), faultAt_iff]
    exact Or.inl hb

/-- One out of them that breaks nothing is counted. -/
theorem count_after (ho : l.Out value) (hb : ¬ l.Broken soft value) :
    l.count (l.after soft value) = l.count soft + 1 := by
  cases l with
  | hard => exact absurd ho hb
  | soft p =>
    obtain ⟨past, ht⟩ := h p
    have hf : ¬ (resetMem.soft p).FaultAt value past := fun hf => hb ((ht.broken_iff (soft_proper p)).mpr hf)
    have hlow : value < (resetMem.soft p).lowerTol := by
      rw [faultAt_iff] at hf
      rcases ho with ho | ho | ho
      · exact absurd (Or.inl (Or.inl ho)) hf
      · exact absurd (Or.inl (Or.inr ho)) hf
      · exact ho
    have hafter := (ht.after (soft_proper p) hf).count
    rw [streak_cons_pos (p := (· < (resetMem.soft p).lowerTol)) hlow] at hafter
    have hbefore := ht.count
    show (Function.update soft p ((soft p).after value) p).violations.toInt.toNat = (soft p).violations.toInt.toNat + 1
    rw [Function.update_self]
    omega

end

/-- The item of a soft limit. -/
theorem item_soft {k : Nat} {i : Item} {p : SoftRail} (h : item k = some i) (hp : i.limit = .soft p) : k = p.item := by
  unfold item at h
  split at h <;> cases h <;> cases hp <;> rfl

/-- A check counts for no other item's limit. -/
theorem count_other {soft : SoftRail → SoftBottomTolerance} {j k : Nat} {i i' : Item} (hi : item j = some i)
    (hi' : item k = some i') (hne : j ≠ k) (value : Int32) :
    i.limit.count (i'.limit.after soft value) = i.limit.count soft := by
  cases hl : i.limit with
  | hard => rfl
  | soft p =>
    cases hl' : i'.limit with
    | hard => rfl
    | soft q =>
      have hpq : p ≠ q := fun e => hne (by rw [item_soft hi hl, item_soft hi' hl', e])
      show (Function.update soft q _ p).violations.toInt.toNat = _
      rw [Function.update_of_ne hpq]
      rfl

theorem mainRun_later {env : Env} {n d : Nat} {v v' : LoopVars} {w w' : World} (h : mainRun n env reset = .ok v w)
    (h' : mainRun (n + d) env reset = .ok v' w') : w.log <:+ w'.log := by
  induction d generalizing v' w' with
  | zero =>
    cases h.symm.trans h'
    exact List.suffix_rfl
  | succ d ih =>
    rw [← Nat.add_assoc, mainRun_succ] at h'
    obtain ⟨v1, w1, h1, h2⟩ := bind_ok_cases h'
    obtain ⟨_, _, hc⟩ := (mainRun_touring h1).checks
    exact (ih h1).trans (hc.passed h2).2.2.1

/-- A tour that returns made the check of item `k`. -/
theorem tour_visits {env : Env} {n : Nat} {v' : LoopVars} {w' : World}
    (h' : mainRun (n + (reach env.devId + 1)) env reset = .ok v' w') {k : Nat} (hk : k ≤ reach env.devId) :
    ∃ d, d ≤ reach env.devId ∧ (n + d) % (reach env.devId + 1) = k ∧ ∃ v1 w1 v2 w2,
      mainRun (n + d) env reset = .ok v1 w1 ∧ mainRun (n + d + 1) env reset = .ok v2 w2 := by
  obtain ⟨m, hm, hm', hmod⟩ := Scan.visit_within hk n
  obtain ⟨d, rfl⟩ : ∃ d, m = n + d := ⟨m - n, by omega⟩
  have hok : ∀ x, x ≤ reach env.devId + 1 → ∃ v w, mainRun (n + x) env reset = .ok v w := by
    intro x hx
    cases hr : mainRun (n + x) env reset with
    | ok v w => exact ⟨v, w, rfl⟩
    | error e w => cases (mainRun_stays_error hr (by omega)).symm.trans h'
  obtain ⟨v1, w1, h1⟩ := hok d (by omega)
  obtain ⟨v2, w2, h2⟩ := hok (d + 1) (by omega)
  exact ⟨d, by omega, hmod, v1, w1, v2, w2, h1, h2⟩

section

variable {env : Env} {n : Nat} {v0 : LoopVars} {w0 : World} (h0 : mainRun n env reset = .ok v0 w0) {k : Nat} {i : Item}
  (hk : k < reach env.devId) (hi : item k = some i) (ho : ∀ w, w0.log <:+ w.log → i.limit.Out (i.sensor.value env w))

include h0 hk hi ho

/-- An iteration counts for the item if it is due. -/
theorem iteration_count {d : Nat} {v v' : LoopVars} {w w' : World} (h : mainRun (n + d) env reset = .ok v w)
    (h' : mainRun (n + d + 1) env reset = .ok v' w') :
    i.limit.count w'.mem.soft = i.limit.count w.mem.soft + if (n + d) % (reach env.devId + 1) = k then 1 else 0 := by
  have ht := mainRun_touring h
  obtain ⟨v1, w1, hc⟩ := ht.checks
  have hlog : w0.log <:+ w1.log := (mainRun_later h0 h).trans hc.log
  rw [mainRun_succ, run_bind_ok h] at h'
  obtain ⟨_, _, _, _, hsome, hnone⟩ := hc.passed h'
  by_cases hn : (n + d) % (reach env.devId + 1) = k
  · have hd : due env (n + d) = some i := by
      unfold due
      rw [hn, if_pos hk, hi]
    obtain ⟨hb, hs⟩ := hsome i hd
    rw [if_pos hn, hs]
    exact count_after ht.tracks (ho w1 hlog) hb
  · rw [if_neg hn, Nat.add_zero]
    cases hd : due env (n + d) with
    | none => rw [hnone hd]
    | some i' =>
      obtain ⟨_, hs⟩ := hsome i' hd
      unfold due at hd
      split at hd
      · rw [hs]
        exact count_other hi hd (fun e => hn e.symm) _
      · cases hd

theorem count_mono {d e : Nat} (hde : d ≤ e) {v v' : LoopVars} {w w' : World} (h : mainRun (n + d) env reset = .ok v w)
    (h' : mainRun (n + e) env reset = .ok v' w') : i.limit.count w.mem.soft ≤ i.limit.count w'.mem.soft := by
  induction hde generalizing v' w' with
  | refl =>
    cases h.symm.trans h'
    exact Nat.le_refl _
  | @step e _ ih =>
    have h'' := h'
    rw [show n + (e + 1) = n + e + 1 from rfl, mainRun_succ] at h''
    obtain ⟨v1, w1, h1, _⟩ := bind_ok_cases h''
    have hc := iteration_count h0 hk hi ho h1 h'
    have hm := ih h1
    omega

/-- A tour counts once at least. -/
theorem tour_count {d : Nat} {v v' : LoopVars} {w w' : World} (h : mainRun (n + d) env reset = .ok v w)
    (h' : mainRun (n + (d + (reach env.devId + 1))) env reset = .ok v' w') :
    i.limit.count w.mem.soft + 1 ≤ i.limit.count w'.mem.soft := by
  rw [← Nat.add_assoc] at h'
  obtain ⟨x, hx, hmod, v1, w1, v2, w2, h1, h2⟩ := tour_visits h' (Nat.le_of_lt hk)
  rw [Nat.add_assoc n d] at hmod h' h1 h2
  have hc := iteration_count h0 hk hi ho h1 h2
  rw [if_pos hmod] at hc
  have hfirst := count_mono h0 hk hi ho (show d ≤ d + x by omega) h h1
  have hlast := count_mono h0 hk hi ho (show d + x + 1 ≤ d + (reach env.devId + 1) by omega) h2 h'
  omega

theorem tours_count {j : Nat} {v : LoopVars} {w : World}
    (h : mainRun (n + j * (reach env.devId + 1)) env reset = .ok v w) :
    j ≤ i.limit.count w.mem.soft := by
  induction j generalizing v w with
  | zero => exact Nat.zero_le _
  | succ j ih =>
    cases hr : mainRun (n + j * (reach env.devId + 1)) env reset with
    | error e w1 => cases (mainRun_stays_error hr (by rw [Nat.succ_mul]; omega)).symm.trans h
    | ok v1 w1 =>
      rw [Nat.succ_mul] at h
      have ht := tour_count h0 hk hi ho hr h
      have hj := ih hr
      omega

end

/-- If the loop does not return, it was reset. -/
theorem resets_of_error {env : Env} {n d : Nat} {v : LoopVars} {w w' : World} {e : Stop}
    (h : mainRun n env reset = .ok v w) (h' : mainRun (n + d) env reset = .error e w') : e = .systemReset := by
  induction d with
  | zero => cases h.symm.trans h'
  | succ d ih =>
    cases hr : mainRun (n + d) env reset with
    | error e1 w1 =>
      cases (mainRun_stays_error hr (Nat.le_succ _)).symm.trans h'
      exact ih hr
    | ok v1 w1 =>
      rw [show n + (d + 1) = n + d + 1 from rfl, mainRun_succ, run_bind_ok hr] at h'
      exact (Touring.faulted hr h').1

/-- A tour that returns found the limit of item `k` kept. -/
theorem tour_kept {env : Env} {n : Nat} {v v' : LoopVars} {w w' : World} (h : mainRun n env reset = .ok v w)
    (h' : mainRun (n + (reach env.devId + 1)) env reset = .ok v' w') {k : Nat} {i : Item} (hk : k < reach env.devId)
    (hi : item k = some i) :
    ∃ d v1 w1 w2, mainRun (n + d) env reset = .ok v1 w1 ∧ w.log <:+ w2.log ∧
      ¬ i.limit.Broken w1.mem.soft (i.sensor.value env w2) := by
  obtain ⟨d, _, hmod, v1, w1, v2, w3, h1, h2⟩ := tour_visits h' (Nat.le_of_lt hk)
  have hd : due env (n + d) = some i := by
    unfold due
    rw [hmod, if_pos hk, hi]
  obtain ⟨_, w2, hc⟩ := (mainRun_touring h1).checks
  rw [mainRun_succ, run_bind_ok h1] at h2
  obtain ⟨_, _, _, _, hsome, _⟩ := hc.passed h2
  exact ⟨d, v1, w1, w2, h1, (mainRun_later h h1).trans hc.log, (hsome i hd).1⟩

/-- A value that stays out of its limits resets `main` within `repeat_tol + 1` tours of the
    items, and one that stays beyond the hard ones within one. -/
theorem responds {env : Env} {n : Nat} {v : LoopVars} {w : World} (h : mainRun n env reset = .ok v w)
    {k : Nat} {i : Item} (hk : k < reach env.devId) (hi : item k = some i) :
    ((∀ w1, w.log <:+ w1.log → i.limit.Out (i.sensor.value env w1)) →
      ∃ w', mainRun (n + (i.limit.patience + 1) * (reach env.devId + 1)) env reset = .error .systemReset w') ∧
    ((∀ w1, w.log <:+ w1.log → i.limit.Beyond (i.sensor.value env w1)) →
      ∃ w', mainRun (n + (reach env.devId + 1)) env reset = .error .systemReset w') := by
  constructor
  · intro ho
    cases hr : mainRun (n + (i.limit.patience + 1) * (reach env.devId + 1)) env reset with
    | ok v' w' =>
      have hj := tours_count h hk hi ho hr
      have hle := count_le_patience (mainRun_touring hr).tracks i.limit
      omega
    | error e w' =>
      rw [resets_of_error h hr]
      exact ⟨w', rfl⟩
  · intro hb
    cases hr : mainRun (n + (reach env.devId + 1)) env reset with
    | ok v' w' =>
      obtain ⟨d, v1, w1, w2, h1, hlog, hkept⟩ := tour_kept h hr hk hi
      exact absurd (broken_of_beyond (mainRun_touring h1).tracks (hb w2 hlog)) hkept
    | error e w' =>
      rw [resets_of_error h hr]
      exact ⟨w', rfl⟩

/-- The healthy board, but for one register. -/
def faultyEnv (c : Afe) (addr : UInt8) (value : UInt16) : Env :=
  { healthyEnv with
    miso := fun l f i =>
      match l with
      | .frame ⟨_, [.afe c'], a :: _⟩ _ :: _ =>
        if c' = c ∧ a &&& 0x7F = addr then if i = 1 then hiByte value else if i = 2 then loByte value else 0
        else healthyEnv.miso l f i
      | _ => healthyEnv.miso l f i }

theorem faulty_register {c : Afe} {addr : UInt8} (ha : (0x80 ||| addr) &&& 0x7F = addr) (value : UInt16) (w : World) :
    (faultyEnv c addr value).register c addr w = value := by
  simp [Env.register, World.asked, readFrame, faultyEnv, ha, word_bytes]

/-- The 3.8 V rail stays at 2998 mV, below its hard limit. -/
def sagEnv : Env := faultyEnv .afe0 (Amc7891.adcData gravAdcV3v8) 614

set_option maxRecDepth 100000 in
/-- One tour is enough, though 100 soft violations would be let pass. -/
theorem responds_sag : ∃ w', mainRun 23 sagEnv reset = .error .systemReset w' := by
  have h : returned (mainRun 0 sagEnv reset) = true := by decide +kernel
  obtain ⟨v, w, hw⟩ := returned_ok h
  have hbeyond : ∀ w1 : World, w.log <:+ w1.log → (Limit.soft .v3v8v).Beyond
      ((adcSensor .afe0 gravAdcV3v8 .gain2x UInt32.toInt32).value sagEnv w1) := by
    intro w1 _
    unfold Sensor.value
    rw [show sagEnv.register (adcSensor .afe0 gravAdcV3v8 .gain2x UInt32.toInt32).chip
      (adcSensor .afe0 gravAdcV3v8 .gain2x UInt32.toInt32).addr w1 = 614 from faulty_register (by decide) 614 w1]
    decide
  exact (responds hw (show 2 < reach sagEnv.devId by decide) (show item 2 = some _ from rfl)).2 hbeyond

/-! ## Readings within the limits -/

/-- With every reading of the items below `reach` within its limits, `main` runs on. -/
theorem available {env : Env} {w0 : World} (hinit : init env reset = .ok () w0)
    (hin : ∀ k i w, w0.log <:+ w.log → k < reach env.devId → item k = some i →
      ¬ i.limit.Out (i.sensor.value env w)) (n : Nat) :
    ∃ v w, mainRun n env reset = .ok v w := by
  have hlater : ∀ n v w, mainRun n env reset = .ok v w → w0.log <:+ w.log := by
    intro n v w hr
    obtain ⟨w1, r1, a1, _⟩ := prologue_run env (wp_ok (init_wp env) hinit).2.idle
    have h0 : mainRun 0 env reset = .ok ⟨0, 1, 0⟩ w1 := by
      unfold mainRun
      rw [run_bind_ok hinit, run_bind_ok r1]
      rfl
    rw [← Nat.zero_add n] at hr
    exact a1.step.log.trans (mainRun_later h0 hr)
  cases hr : mainRun n env reset with
  | ok v w => exact ⟨v, w, rfl⟩
  | error e w' =>
    exfalso
    induction n with
    | zero => cases hinit.symm.trans (mainRun_zero_error.mp hr)
    | succ n ih =>
      cases hr1 : mainRun n env reset with
      | error e1 w1 =>
        cases (mainRun_stays_error hr1 (Nat.le_succ n)).symm.trans hr
        exact ih hr1
      | ok v w =>
        rw [mainRun_succ, run_bind_ok hr1] at hr
        obtain ⟨_, i, hf⟩ := Touring.faulted hr1 hr
        obtain ⟨v1, w1, h1, hb, _⟩ := hf.broken
        obtain ⟨v2, w2, hc⟩ := (mainRun_touring hr1).checks
        cases h1.symm.trans hc.first
        have hdue := hf.due
        unfold due at hdue
        split at hdue
        · rename_i hk
          exact not_broken_of_not_out (mainRun_touring hr1).tracks
            (hin _ i w1 ((hlater n v w hr1).trans hc.log) hk hdue) hb
        · cases hdue

theorem healthy_in {k : Nat} {i : Item} (hi : item k = some i) (w : World) :
    ¬ i.limit.Out (i.sensor.value healthyEnv w) := by
  unfold Sensor.value
  rw [healthy_register]
  unfold item at hi
  split at hi <;> cases hi <;> decide

theorem available_healthy : ∃ v w, mainRun 1000000 healthyEnv reset = .ok v w := by
  obtain ⟨w0, h0⟩ := healthy_boots
  exact available h0 (fun _ _ w _ _ hi => healthy_in hi w) 1000000

end Graviton
