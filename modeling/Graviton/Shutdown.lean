/-
  Graviton.Shutdown — what `go_safe_and_reset` leaves behind, and the rule that carries an
  invariant through everything that may call it.

  `shutdown_run` says exactly what the function writes. Once the board is up a run that ends
  early ends there, and `Exit env J` says so, for a condition `J` that held when the shutdown
  was called. `Keeps J x`: started idle with `J`, the program `x` returns idle with `J` or
  exits so. A case of the safety check does nothing, judges one reading at once or judges it
  against a soft limit's record (`CaseKind`), so the checks change nothing but the counters
  of the three soft limits (`safetyCheck_wp`, `Checked`).
-/
import Graviton.Settings

namespace Graviton

open Effects

/-! ## Telemetry -/

theorem readOnly_asInt {x : Fw UInt32} (hx : ReadOnly x) : ReadOnly (asInt x) := hx.bind fun _ => readOnly_pure _
theorem readOnly_asInt32 {x : Fw UInt32} (hx : ReadOnly x) : ReadOnly (asInt32 x) := hx.bind fun _ => readOnly_pure _

theorem readOnly_tempInt (c : Afe) : ReadOnly (tempInt c) :=
  (readOnly_readTemperature c).bind fun _ => readOnly_pure _

theorem readOnly_telemetryLines : ∀ line ∈ telemetryLines, ReadOnly line.2 := by
  have hmv := fun channel gain => readOnly_asInt (readOnly_getMv .afe0 channel gain)
  have hlm := fun c channel => readOnly_asInt (readOnly_lm20 c channel)
  have hi := fun c => readOnly_asInt (readOnly_iPa c)
  have hpo := fun c => (readOnly_pOut c).bind fun v => readOnly_pure v.toInt
  have hpi := fun c => (readOnly_pIn c).bind fun v => readOnly_pure v.toInt
  have ht := readOnly_getTemp.bind fun v => readOnly_pure v.toInt
  have he := readOnly_readAlarms.bind fun v => readOnly_pure (((v &&& ~~~0x0040).toNat : Nat) : Int)
  have hn := readOnly_v5v5n.bind fun v => readOnly_pure v.toInt
  simp only [telemetryLines, List.forall_mem_cons, List.not_mem_nil, false_imp_iff, implies_true, and_true]
  exact ⟨hmv _ _, hmv _ _, hmv _ _, readOnly_asInt readOnly_v5v5, hn, readOnly_asInt readOnly_v29, hlm _ _,
    readOnly_tempInt _, readOnly_tempInt _, readOnly_tempInt _,
    hpo _, hi _, hlm _ _, hlm _ _, hpi _, hlm _ _, hlm _ _, hlm _ _,
    hpo _, hi _, hlm _ _, hlm _ _, hpi _, hlm _ _, hlm _ _, hlm _ _, ht, he⟩

theorem readOnly_dumpTelemetry (out : Port) : ReadOnly (dumpTelemetry out) :=
  (readOnly_printf _ _ _).bind fun _ =>
    (ReadOnly.forM fun line h => (readOnly_telemetryLines line h).bind fun _ => readOnly_printf _ _ _).bind fun _ =>
      readOnly_clearAlarms

/-! ## The shutdown -/

/-- The writes of `go_safe_and_reset`, newest first. -/
def shutdownWrites : List Write := gravSafeWrites .afe0 ++ (safeWrites .afeB ++ safeWrites .afeA)

def shutdownMem (m : Mem) : Mem := { (m.setMode .afeA .safe).setMode .afeB .safe with gravMode := .safe }

theorem safeWrites_low (c : Afe) : ∀ p ∈ safeWrites c, p.1.2 < 0x80 := by cases c <;> decide
theorem gravSafeWrites_low (c : Afe) : ∀ p ∈ gravSafeWrites c, p.1.2 < 0x80 := by cases c <;> decide

theorem switchToSafe_step (c : Afe) (env : Env) {w : World} (h : w.Idle) :
    ∃ w', switchToSafe c env w = .ok () w' ∧ Step w w' (safeWrites c) [] ∧ w'.mem = w.mem.setMode c .safe := by
  have hs := wroteAll_step h (safeWrites_low c)
  exact ⟨_, switchToSafe_run h c env, hs.trans (withMem_step hs.idle _), rfl⟩

theorem configureGravSafe_step (c : Afe) (env : Env) {w : World} (h : w.Idle) :
    ∃ w', configureGravSafe c env w = .ok () w' ∧ Step w w' (gravSafeWrites c) [] ∧
      w'.mem = { w.mem with gravMode := .safe } := by
  have hs := wroteAll_step h (gravSafeWrites_low c)
  exact ⟨_, configureGravSafe_run h c env, hs.trans (withMem_step hs.idle _), rfl⟩

theorem readOnly_printReason (reason : String) (reason2 : Option String) (reason3 : Int32) :
    ReadOnly (printReason reason reason2 reason3) := by
  cases reason2 with
  | none => exact readOnly_printf _ _ _
  | some _ => exact (readOnly_printf _ _ _).bind fun _ => (readOnly_printf _ _ _).bind fun _ => readOnly_printf _ _ _

theorem shutdown_run (reason : String) (reason2 : Option String) (reason3 : Int32) (env : Env) {w : World}
    (h : w.Idle) :
    ∃ w', shutdown reason reason2 reason3 env w = .ok () w' ∧ Step w w' shutdownWrites [] ∧
      w'.mem = shutdownMem w.mem := by
  have hend := (readOnly_printReason reason reason2 reason3).bind fun _ => (readOnly_dumpTelemetry .pc).bind fun _ =>
    (readOnly_printf .pc "LOG: halted. resetting in 5 seconds.\r\n" []).bind fun _ =>
      ReadOnly.forM (l := List.range 5) (f := fun _ => notifyError) fun _ _ => readOnly_printf _ _ _
  obtain ⟨w1, r1, s1, m1⟩ := switchToSafe_step .afeA env h
  obtain ⟨w2, r2, s2, m2⟩ := switchToSafe_step .afeB env s1.idle
  obtain ⟨_, w3, r3, q3⟩ := readOnly_switchToIntOsc env w2 s2.idle
  obtain ⟨_, w4, r4, q4⟩ := readOnly_pinWrite .oscEn true env w3 q3.step.idle
  obtain ⟨_, w5, r5, q5⟩ := readOnly_switchToExtOsc env w4 q4.step.idle
  obtain ⟨w6, r6, s6, m6⟩ := configureGravSafe_step .afe0 env q5.step.idle
  obtain ⟨_, w7, r7, q7⟩ := hend env w6 s6.idle
  refine ⟨w7, ?_, ?_, ?_⟩
  · unfold shutdown
    rw [run_bind_ok r1, run_bind_ok r2, run_bind_ok r3, run_bind_ok r4, run_bind_ok r5, run_bind_ok r6]
    exact r7
  · exact (s1.trans s2).trans ((q3.trans (q4.trans q5)).step.trans (s6.trans q7.step))
  · rw [q7.mem, m6, (q3.trans (q4.trans q5)).mem, m2, m1]; rfl

/-- After the shutdown comes the reset. -/
theorem goSafeAndReset_run {α : Type} {reason : String} {reason2 : Option String} {reason3 : Int32} {env : Env}
    {w w' : World} (hr : shutdown reason reason2 reason3 env w = .ok () w') :
    (goSafeAndReset reason reason2 reason3 : Fw α) env w = .error .systemReset w' := by
  unfold goSafeAndReset
  rw [run_bind_ok hr]
  rfl

/-- Safed, then unpowered: the shutdown leaves both channels safe. -/
theorem shows_shutdown (l : List Write) {c : Afe} (hc : c ≠ .afe0) (o : Amc7891) :
    Shows (shutdownWrites ++ l) c (Setting.safe.regs o) := by
  have hother : ∀ p ∈ gravSafeWrites .afe0, p.1.1 ≠ c := by
    cases c with
    | afe0 => exact absurd rfl hc
    | _ => decide
  have h : Shows (safeWrites .afeB ++ (safeWrites .afeA ++ l)) c (Setting.safe.regs o) := by
    cases c with
    | afe0 => exact absurd rfl hc
    | afeB => exact shows_safe _ .afeB o
    | afeA =>
      have hA := (shows_safe l .afeA o).append (safeWrites .afeB)
      rwa [puts_other _ _ (by decide)] at hA
  have h' := h.append (gravSafeWrites .afe0)
  rw [puts_other _ _ hother] at h'
  rw [shutdownWrites, List.append_assoc, List.append_assoc]
  exact h'

/-- The write that takes the supplies away comes after both channels were safed. -/
theorem shutdown_supplies_last {p : Write} {k : List Write} (h : (p :: k) <:+ shutdownWrites)
    (hp : p.1 = (.afe0, amcGpioOut)) : k = safeWrites .afeB ++ safeWrites .afeA := by
  rcases List.suffix_cons_iff.mp h with he | h
  · rw [(List.cons.inj he).1] at hp; exact absurd hp (by decide)
  rcases List.suffix_cons_iff.mp h with he | h
  · rw [(List.cons.inj he).1] at hp; exact absurd hp (by decide)
  rcases List.suffix_cons_iff.mp h with he | h
  · exact (List.cons.inj he).2
  have hm : p ∈ safeWrites .afeB ++ safeWrites .afeA := h.subset List.mem_cons_self
  have hno : ∀ q ∈ safeWrites .afeB ++ safeWrites .afeA, q.1 ≠ (.afe0, amcGpioOut) := by decide
  exact absurd hp (hno p hm)

/-! ## Exits and invariants -/

/-- The run was reset by a shutdown, called in an idle state with `J`. -/
def Exit (env : Env) (J : World → Prop) : Stop → World → Prop
  | .systemReset, w' => ∃ w reason reason2 reason3, w.Idle ∧ J w ∧ shutdown reason reason2 reason3 env w = .ok () w'
  | _, _ => False

theorem Exit.mono {env : Env} {J J' : World → Prop} (h : ∀ w, J w → J' w) {e : Stop} {w' : World}
    (he : Exit env J e w') : Exit env J' e w' := by
  cases e with
  | systemReset =>
    obtain ⟨w, r, r2, r3, hi, hj, hr⟩ := he
    exact ⟨w, r, r2, r3, hi, h w hj, hr⟩
  | _ => exact he

/-- What a reset left written, and the state it was called in. -/
theorem Exit.writes {env : Env} {J : World → Prop} {e : Stop} {w' : World} (he : Exit env J e w') :
    e = .systemReset ∧ ∃ w, w.Idle ∧ J w ∧ Step w w' shutdownWrites [] := by
  cases e with
  | systemReset =>
    obtain ⟨w, r, r2, r3, hi, hj, hr⟩ := he
    obtain ⟨w1, hr1, hs, _⟩ := shutdown_run r r2 r3 env hi
    rw [hr] at hr1
    obtain rfl := (EStateM.Result.ok.inj hr1).2
    exact ⟨rfl, w, hi, hj, hs⟩
  | _ => exact absurd he id

/-- From an idle state with `J` to an idle state with `J`, or to an exit. -/
def Keeps {α : Type} (J : World → Prop) (x : Fw α) : Prop :=
  ∀ env w, w.Idle → J w → wp x (fun _ w' => w'.Idle ∧ J w') (Exit env J) env w

section Keeps

variable {J : World → Prop} {α β : Type}

theorem goSafeAndReset_wp (reason : String) (reason2 : Option String) (reason3 : Int32) {Q : α → World → Prop}
    {env : Env} {w : World} (h : w.Idle) (hj : J w) :
    wp (goSafeAndReset reason reason2 reason3) Q (Exit env J) env w := by
  obtain ⟨w', hr, _, _⟩ := shutdown_run reason reason2 reason3 env h
  exact wp_of_error (goSafeAndReset_run hr) ⟨w, reason, reason2, reason3, h, hj, hr⟩

theorem Keeps.bind {x : Fw α} {f : α → Fw β} (hx : Keeps J x) (hf : ∀ a, Keeps J (f a)) : Keeps J (x >>= f) :=
  fun env w h hj => wp_bind.mpr
    (wp_mono (hx env w h hj) (fun a w' hw => hf a env w' hw.1 hw.2) fun _ _ he => he)

theorem ReadOnly.keeps (hJ : ∀ w w', Quiet w w' → J w → J w') {x : Fw α} (hx : ReadOnly x) : Keeps J x :=
  fun _ w h hj => hx.wp h fun _ w' hq => ⟨hq.step.idle, hJ w w' hq hj⟩

end Keeps

/-! ## Safety checks -/

/-- Nothing changed but the soft limits' records. -/
structure Checked (w w' : World) : Prop where
  step : Step w w' [] []
  afe : w'.mem.afe = w.mem.afe
  gravMode : w'.mem.gravMode = w.mem.gravMode
  vector : w'.mem.disableSafteyVector = w.mem.disableSafteyVector

theorem Quiet.checked {w w' : World} (h : Quiet w w') : Checked w w' :=
  ⟨h.step, by rw [h.mem], by rw [h.mem], by rw [h.mem]⟩

theorem Checked.trans {w w' w'' : World} (h : Checked w w') (h' : Checked w' w'') : Checked w w'' :=
  ⟨h.step.trans h'.step, h'.afe.trans h.afe, h'.gravMode.trans h.gravMode, h'.vector.trans h.vector⟩

theorem setSoft_checked {w : World} (h : w.Idle) (p : SoftRail) (t : SoftBottomTolerance) :
    Checked w (w.withMem { w.mem with soft := Function.update w.mem.soft p t }) :=
  ⟨withMem_step h _, rfl, rfl, rfl⟩

/-- The cases of the switch are 0 to 21. -/
theorem safetyCase_isSome (k : Nat) : (safetyCase k).isSome ↔ k ≤ 21 := by
  constructor
  · intro h
    unfold safetyCase at h
    split at h <;> first | omega | cases h
  · intro h
    have hall : ∀ i : Fin 22, (safetyCase i.val).isSome = true := by decide
    exact hall ⟨k, by omega⟩

/-- What the item of a record reads. -/
def SoftRail.read : SoftRail → Fw Int32
  | .v3v8v => asInt32 v3v8
  | .v5v5v => asInt32 v5v5
  | .v5v5vneg => v5v5n

/-- The case of `safety_check` that judges it. -/
def SoftRail.item : SoftRail → Nat
  | .v3v8v => 2
  | .v5v5v => 3
  | .v5v5vneg => 4

theorem softItem_case (p : SoftRail) : safetyCase p.item = some (softCheck p.read p) := by cases p <;> rfl

theorem readOnly_softRead (p : SoftRail) : ReadOnly p.read := by
  cases p with
  | v3v8v => exact readOnly_asInt32 (readOnly_getMv _ _ _)
  | v5v5v => exact readOnly_asInt32 readOnly_v5v5
  | v5v5vneg => exact readOnly_v5v5n

/-- A case does nothing, judges its reading at once, or judges it against a record. -/
inductive CaseKind (k : Nat) : Fw Unit → Prop
  | skip : CaseKind k (pure ())
  | hard {read : Fw Int32} (bad : Int32 → Bool) (reason reason2 : String) : ReadOnly read →
      CaseKind k (hardCheck read bad reason reason2)
  | soft (p : SoftRail) : k = p.item → CaseKind k (softCheck p.read p)

theorem safetyCase_kind {k : Nat} {body : Fw Unit} (hb : safetyCase k = some body) : CaseKind k body := by
  have hmv := fun channel gain => readOnly_asInt32 (readOnly_getMv .afe0 channel gain)
  have hlm := fun c channel => readOnly_asInt32 (readOnly_lm20 c channel)
  have ht := fun c => (readOnly_readTemperature c).bind fun v => readOnly_pure v.toUInt32.toInt32
  unfold safetyCase at hb
  split at hb <;> cases hb
  · exact .hard _ _ _ (hmv _ _)
  · exact .hard _ _ _ (hmv _ _)
  · exact .soft .v3v8v rfl
  · exact .soft .v5v5v rfl
  · exact .soft .v5v5vneg rfl
  · exact .hard _ _ _ (readOnly_asInt32 readOnly_v29)
  · exact .hard _ _ _ (ht _)
  · exact .hard _ _ _ (ht _)
  · exact .hard _ _ _ (ht _)
  · exact .hard _ _ _ (hlm _ _)
  · exact .hard _ _ _ (hlm _ _)
  · exact .hard _ _ _ (hlm _ _)
  · exact .hard _ _ _ (hlm _ _)
  · exact .hard _ _ _ (hlm _ _)
  · exact .hard _ _ _ (hlm _ _)
  · exact .skip
  · exact .hard _ _ _ (hlm _ _)
  · exact .hard _ _ _ (hlm _ _)
  · exact .hard _ _ _ (hlm _ _)
  · exact .hard _ _ _ (hlm _ _)
  · exact .hard _ _ _ (hlm _ _)
  · exact .skip

section

variable {env : Env} {w : World}

theorem hardCheck_wp {read : Fw Int32} (hr : ReadOnly read) (bad : Int32 → Bool) (reason reason2 : String)
    (h : w.Idle) :
    wp (hardCheck read bad reason reason2) (fun _ w' => Checked w w') (Exit env (Checked w)) env w := by
  unfold hardCheck
  rw [wp_bind]
  refine hr.wp h fun value w' hq => ?_
  rw [wp_ite]
  constructor
  · intro _; exact goSafeAndReset_wp _ _ _ hq.step.idle hq.checked
  · intro _; exact wp_pure.mpr hq.checked

theorem goSafeAndResetTolerance_wp (p : SoftRail) (value : Int32) {w0 : World} (h0 : Checked w0 w) (h : w.Idle) :
    wp (goSafeAndResetTolerance p value) (fun _ w' => Checked w0 w') (Exit env (Checked w0)) env w := by
  unfold goSafeAndResetTolerance
  refine wp_bind.mpr (wp_of_ok (run_getMem env w) (wp_ite.mpr ⟨fun _ => ?_, fun _ => wp_ite.mpr ⟨fun _ => ?_, fun _ => ?_⟩⟩))
  · exact goSafeAndReset_wp _ _ _ h h0
  · refine wp_ite.mpr ⟨fun _ => goSafeAndReset_wp _ _ _ h h0, fun _ => ?_⟩
    have hs := setSoft_checked h p { w.mem.soft p with violations := (w.mem.soft p).violations + 1 }
    refine wp_bind.mpr (wp_of_ok rfl (wp_bind.mpr ((readOnly_printf _ _ _).wp hs.step.idle fun _ w' hq => ?_)))
    exact wp_pure.mpr (h0.trans (hs.trans hq.checked))
  · have hs := setSoft_checked h p { w.mem.soft p with violations := 0 }
    exact wp_bind.mpr (wp_of_ok rfl (wp_pure.mpr (h0.trans hs)))

theorem softCheck_wp {read : Fw Int32} (hr : ReadOnly read) (p : SoftRail) (h : w.Idle) :
    wp (softCheck read p) (fun _ w' => Checked w w') (Exit env (Checked w)) env w := by
  refine wp_bind.mpr (hr.wp h fun value w' hq => wp_bind.mpr ?_)
  exact wp_mono (goSafeAndResetTolerance_wp p value hq.checked hq.step.idle) (fun _ _ h => wp_pure.mpr h)
    fun _ _ h => h

theorem safetyCase_wp {k : Nat} {body : Fw Unit} (hb : safetyCase k = some body) (h : w.Idle) :
    wp body (fun _ w' => Checked w w') (Exit env (Checked w)) env w := by
  cases safetyCase_kind hb with
  | skip => exact wp_pure.mpr (Quiet.refl h).checked
  | hard bad reason reason2 hr => exact hardCheck_wp hr bad reason reason2 h
  | soft p _ => exact softCheck_wp (readOnly_softRead p) p h

theorem safetyCheck_wp {testItem : UInt16} (hi : testItem.toNat < 32) (h : w.Idle) :
    wp (safetyCheck testItem) (fun _ w' => Checked w w') (Exit env (Checked w)) env w := by
  have h0 := (Quiet.refl h).checked
  unfold safetyCheck
  refine wp_bind.mpr (wp_of_ok (run_getMem env w) ?_)
  split
  · rename_i hn
    exact absurd hi (Vector.getElem?_eq_none_iff.mp hn).not_gt
  · dsimp only
    split
    · exact wp_pure.mpr h0
    · rename_i body hb
      exact wp_bind.mpr (wp_mono (safetyCase_wp hb h) (fun _ _ h => wp_pure.mpr h) fun _ _ h => h)

/-- What a call that returned did: the `default` of the switch, or its case. -/
theorem safetyCheck_cases {item n : UInt16} {w' : World} (hr : safetyCheck item env w = .ok n w') :
    ∃ d, w.mem.disableSafteyVector[item.toNat]? = some d ∧
      ((safetyCase (item ||| d).toNat = none ∧ n = 0 ∧ w' = w) ∨
        ∃ body, safetyCase (item ||| d).toNat = some body ∧ n = item + 1 ∧ body env w = .ok () w') := by
  unfold safetyCheck at hr
  rw [run_bind_ok (run_getMem env w)] at hr
  cases hd : w.mem.disableSafteyVector[item.toNat]? with
  | none =>
    simp only [hd] at hr
    cases hr
  | some d =>
    refine ⟨d, rfl, ?_⟩
    cases hb : safetyCase (item ||| d).toNat with
    | none =>
      simp only [hd, hb] at hr
      cases hr
      exact Or.inl ⟨rfl, rfl, rfl⟩
    | some body =>
      simp only [hd, hb] at hr
      obtain ⟨_, w1, h1, hr⟩ := bind_ok_cases hr
      cases hr
      exact Or.inr ⟨body, rfl, rfl, h1⟩

end

end Graviton
