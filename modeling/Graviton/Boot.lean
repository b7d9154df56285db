/-
  Graviton.Boot — `init` from reset: what it writes, and how it can end.

  Until the bus test the run is the same in every environment, up to the oscillator: it
  halts in `oscWorld` or reaches `busTestWorld`. `busOff env` is what the bus test reads
  there. After it come the calibrations; `init_wp` says that `init` returns `Booted`, halts
  without a write, or is reset out of a calibration (`BringingUp`).
-/
import Graviton.Calibration

namespace Graviton

open Effects History

/-! ## Until the bus test -/

/-- Reset, until the oscillator is switched. -/
def oscWorld : World :=
  (((((reset.push (.pin .buzzer false)).push (.pin .oscEn false)).push
    (.printf .pc "\r\n\r\n\r\nGRAVITON HARDWARE VERSION 3.0\r\n" [])).push
    (.printf .pc "FIRMWARE VERSION 0.1\r\n" [])).push (.printf .pc "SIGNAL LABORATORIES, INC.\r\n" [])).push
    (.printf .pc "LOG: attempting to change to external oscillator\r\n" []) |>.push (.pin .oscEn true)

/-- The oscillator switched and the bus in format (8,1). -/
def oscillating : World :=
  { ((oscWorld.push (.osc true true)).push (.printf .pc "LOG: external oscillator configured\r\n" [])) with
    format := ⟨8, 1⟩ }

/-- The writes until the bus test, newest first. -/
def powerUpWrites : List Write :=
  safeWrites .afeB ++ (safeWrites .afeA ++ (gravSafeWrites .afe0 ++
    (initWrites .afe0 ++ (initWrites .afeB ++ initWrites .afeA))))

def busTestWorld : World :=
  ((oscillating.wroteAll powerUpWrites).withMem
    (({ resetMem with gravMode := .safe }.setMode .afeA .safe).setMode .afeB .safe))

theorem oscillating_idle : oscillating.Idle := ⟨rfl, rfl⟩

theorem powerUpWrites_low : ∀ p ∈ powerUpWrites, p.1.2 < 0x80 := by decide

theorem wroteAll_append (w : World) (n l : List Write) : (w.wroteAll l).wroteAll n = w.wroteAll (n ++ l) := by
  induction n with
  | nil => rfl
  | cons p n ih => rw [World.wroteAll, ih]; rfl

theorem withMem_wroteAll (w : World) (m : Mem) (l : List Write) :
    (w.withMem m).wroteAll l = (w.wroteAll l).withMem m := by
  induction l with
  | nil => rfl
  | cons p l ih => rw [World.wroteAll, ih]; rfl

theorem withMem_withMem (w : World) (m m' : Mem) : (w.withMem m).withMem m' = w.withMem m' := rfl

theorem oscillator_run (env : Env) :
    initOscillator env reset =
      if env.extOsc oscWorld.log then
        .ok () ((oscWorld.push (.osc true true)).push (.printf .pc "LOG: external oscillator configured\r\n" []))
      else .error .halted ((oscWorld.push (.osc true false)).push
        (.printf .pc "ERROR: EXTERNAL OSCILLATOR FAILED TO CONFIGURE. HALTING\r\n" [])) := by
  have hosc : switchToExtOsc env oscWorld =
      .ok (if env.extOsc oscWorld.log then 1 else 0) (oscWorld.push (.osc true (env.extOsc oscWorld.log))) := rfl
  unfold initOscillator
  rw [run_bind_ok (run_pinWrite _ _ env _), run_bind_ok (run_pinWrite _ _ env _), run_bind_ok (run_printf _ _ _ env _),
    run_bind_ok (run_printf _ _ _ env _), run_bind_ok (run_printf _ _ _ env _),
    run_bind_ok (run_printf _ _ _ env _), run_bind_ok (run_pinWrite _ _ env _)]
  show (switchToExtOsc >>= _) env oscWorld = _
  rw [run_bind_ok hosc]
  cases env.extOsc oscWorld.log with
  | true => rfl
  | false => rfl

/-- Without an oscillator nothing was written. -/
theorem powerUp_halts {env : Env} (h : env.extOsc oscWorld.log = false) :
    ∃ w', initPowerUp env reset = .error .halted w' ∧ w'.writes = [] := by
  have ho := oscillator_run env
  rw [h, if_neg (by decide)] at ho
  exact ⟨_, run_bind_error ho _, rfl⟩

/-- With one the bus test is reached, every chip set up and safe. -/
theorem powerUp_run {env : Env} (h : env.extOsc oscWorld.log = true) : initPowerUp env reset = .ok () busTestWorld := by
  have ho := oscillator_run env
  rw [h, if_pos rfl] at ho
  have hfmt : spiFormat 8 1 env ((oscWorld.push (.osc true true)).push
      (.printf .pc "LOG: external oscillator configured\r\n" [])) = .ok () oscillating := rfl
  have hi : ∀ l, (oscillating.wroteAll l).Idle := fun l => wroteAll_idle.mpr oscillating_idle
  have hm : ∀ l m, ((oscillating.wroteAll l).withMem m).Idle := fun l m => (withMem_step (hi l) m).idle
  unfold initPowerUp
  rw [run_bind_ok ho, run_bind_ok hfmt, run_bind_ok (amcInit_run oscillating_idle .afeA env),
    run_bind_ok (amcInit_run (hi _) .afeB env), wroteAll_append, run_bind_ok (amcInit_run (hi _) .afe0 env),
    wroteAll_append, run_bind_ok (configureGravSafe_run (hi _) .afe0 env), wroteAll_append,
    run_bind_ok (switchToSafe_run (hm _ _) .afeA env), withMem_wroteAll, wroteAll_append, withMem_withMem,
    switchToSafe_run (hm _ _) .afeB env, withMem_wroteAll, wroteAll_append, withMem_withMem]
  unfold busTestWorld powerUpWrites
  simp only [withMem_mem, wroteAll_mem]
  rfl

theorem busTest_step : Step oscillating busTestWorld powerUpWrites [] := by
  have hs := wroteAll_step oscillating_idle powerUpWrites_low
  exact hs.trans (withMem_step hs.idle _)

theorem busTest_writes : busTestWorld.writes = powerUpWrites := by
  rw [busTest_step.writes, show oscillating.writes = [] from rfl, List.append_nil]

theorem busTest_mem : busTestWorld.mem = resetMem := by
  have hA : resetMem.setMode .afeA .safe = resetMem := setMode_same rfl
  have hB : resetMem.setMode .afeB .safe = resetMem := setMode_same rfl
  show (resetMem.setMode .afeA .safe).setMode .afeB .safe = resetMem
  rw [hA, hB]

/-! ## The bus test -/

/-- What the bus test reads: are the busses unpowered? -/
def busOff (env : Env) : Bool :=
  mvOf (env.register .afe0 (Amc7891.adcData gravAdcV2v5) busTestWorld) .gain1x < 300 &&
    mvOf (env.register .afe0 (Amc7891.adcData gravAdcV1v8)
      (busTestWorld.didRead env .afe0 (Amc7891.adcData gravAdcV2v5))) .gain1x < 400

theorem busUnpowered_run (env : Env) : ∃ w', busUnpowered env busTestWorld = .ok (busOff env) w' ∧ Quiet busTestWorld w' := by
  have hi := busTest_step.idle
  have q1 := didRead_quiet hi env .afe0 (Amc7891.adcData gravAdcV2v5)
  have q2 := didRead_quiet q1.step.idle env .afe0 (Amc7891.adcData gravAdcV1v8)
  have r1 := getMv_run hi .afe0 env gravAdcV2v5 .gain1x
  have r2 := getMv_run q1.step.idle .afe0 env gravAdcV1v8 .gain1x
  unfold busUnpowered busOff
  rw [show v2v5 = getMv .afe0 gravAdcV2v5 .gain1x from rfl, run_bind_ok r1]
  by_cases h : mvOf (env.register .afe0 (Amc7891.adcData gravAdcV2v5) busTestWorld) .gain1x < 300
  · rw [if_pos h, show v1v8 = getMv .afe0 gravAdcV1v8 .gain1x from rfl, run_bind_ok r2, decide_eq_true h, Bool.true_and]
    exact ⟨_, rfl, q1.trans q2⟩
  · rw [if_neg h, decide_eq_false h, Bool.false_and]
    exact ⟨_, rfl, q1⟩

def railWrites (off : Bool) : List Write := if off then [gpioWrite .afe0 gravMainPowerOnTxOff] else []

theorem readOnly_printBus : ReadOnly printBus :=
  (readOnly_getMv _ _ _).bind fun _ => (readOnly_getMv _ _ _).bind fun _ => readOnly_printf _ _ _

/-- The rails are switched on if the busses were off; the mode says which. -/
theorem powerRails_run (off : Bool) (env : Env) {w : World} (h : w.Idle) (hg : w.mem.gravMode = .safe) :
    ∃ w', initPowerRails off env w = .ok () w' ∧ Step w w' (railWrites off) [] ∧
      w'.mem = { w.mem with gravMode := if off then .txDis else .safe } := by
  obtain ⟨_, w1, r1, q1⟩ := readOnly_printBus env w h
  unfold initPowerRails
  cases off with
  | true =>
    have hw := wroteAll_step q1.step.idle (show ∀ p ∈ railWrites true, p.1.2 < 0x80 by decide)
    have hg1 : w1.mem.gravMode ≠ .txDis := by rw [q1.mem, hg]; decide
    rw [if_pos rfl, run_bind_ok r1, configureGravOnWithTxOff_run q1.step.idle .afe0 env, if_neg hg1]
    refine ⟨_, rfl, q1.step.trans (hw.trans (withMem_step hw.idle _)), ?_⟩
    rw [withMem_mem, q1.mem]
    rfl
  | false =>
    have q2 := quiet_printf q1.step.idle .pc "ERROR: BUS IS POWERED. HALTING\r\n" []
    rw [if_neg (by decide), run_bind_ok r1]
    refine ⟨_, rfl, (q1.trans q2).step, ?_⟩
    show w1.mem = _
    rw [q1.mem, if_neg (by decide), ← hg]

/-! ## Bring-up -/

/-- `initBringUp` before and after the initialisations. -/
def bringUpFirst : Fw Unit := do
  printf .pc "LOG: checking everything...\r\n" []
  dumpTelemetry .pc

def bringUpLast : Fw Unit := do
  calibratePowerAmplifier .afeA
  calibratePowerAmplifier .afeB
  switchToSafe .afeA
  switchToSafe .afeB
  dumpTelemetry .pc
  printf .pc "LOG: Ready!\n\r" []

theorem initBringUp_eq : initBringUp = (do
    bringUpFirst
    Lmk04826b.init
    Lmk04133.init
    Ads42lb69.init
    Dac3484.init .pc
    bringUpLast) := by
  simp only [initBringUp, bringUpFirst, bringUpLast, bind_assoc]

theorem readOnly_bringUpFirst : ReadOnly bringUpFirst :=
  (readOnly_printf _ _ _).bind fun _ => readOnly_dumpTelemetry .pc

/-- The writes since the bus test inside one of the calibrations. -/
inductive BringingUp : List Write → Prop
  | first (k : Nat) : BringingUp (descent .afeA k)
  | second (k kA : Nat) (nA : UInt32) : BringingUp (descent .afeB k ++ calibrationWrites .afeA kA nA)

/-- The writes of `initBringUp`, newest first. -/
def bringUpWrites (kA : Nat) (nA : UInt32) (kB : Nat) (nB : UInt32) : List Write :=
  safeWrites .afeB ++ (safeWrites .afeA ++ (calibrationWrites .afeB kB nB ++ calibrationWrites .afeA kA nA))

theorem BringingUp.not_afe0 {n : List Write} (h : BringingUp n) : ∀ p ∈ n, p.1.1 ≠ .afe0 := by
  cases h with
  | first k => exact fun p hp => by rw [descent_chip _ _ p hp]; decide
  | second k kA nA =>
    intro p hp
    rcases List.mem_append.mp hp with hp | hp
    · rw [descent_chip _ _ p hp]; decide
    · rw [calibrationWrites_chip _ _ _ p hp]; decide

theorem BringingUp.begins {n : List Write} (h : BringingUp n) : descent .afeA 0 <:+ n := by
  cases h with
  | first k => exact descent_begins .afeA k
  | second k kA nA => exact List.suffix_append_of_suffix (calibration_begins .afeA kA nA)

theorem bringUp_begins (kA : Nat) (nA : UInt32) (kB : Nat) (nB : UInt32) :
    descent .afeA 0 <:+ bringUpWrites kA nA kB nB :=
  List.suffix_append_of_suffix (List.suffix_append_of_suffix (List.suffix_append_of_suffix
    (calibration_begins .afeA kA nA)))

/-- What a bring-up leaves in the variables. -/
def bringUpMem (m : Mem) (nA nB : UInt32) : Mem :=
  (((m.setVg .afeA nA).setVg .afeB nB).setMode .afeA .safe).setMode .afeB .safe

structure BroughtUp (w0 : World) (kA : Nat) (nA : UInt32) (kB : Nat) (nB : UInt32) (w : World) : Prop where
  storesA : Stores kA nA
  storesB : Stores kB nB
  step : Step w0 w (bringUpWrites kA nA kB nB) [0]
  mem : w.mem = bringUpMem w0.mem nA nB

theorem initBringUp_wp (env : Env) {w : World} (h : w.Idle) :
    wp initBringUp (fun _ w' => ∃ kA nA kB nB, BroughtUp w kA nA kB nB w')
      (Exit env fun w' => ∃ n, BringingUp n ∧ w'.writes = n ++ w.writes) env w := by
  have hopen := readOnly_bringUpFirst.bind fun _ => readOnly_lmk04826b.bind fun _ =>
    readOnly_lmk04133.bind fun _ => readOnly_ads42lb69
  have hclose := (readOnly_dumpTelemetry .pc).bind fun _ => readOnly_printf .pc "LOG: Ready!\n\r" []
  have he : initBringUp = (do
      (do bringUpFirst; Lmk04826b.init; Lmk04133.init; Ads42lb69.init)
      Dac3484.init .pc
      bringUpLast) := by
    simp only [initBringUp_eq, bind_assoc]
  rw [he]
  refine wp_bind.mpr (hopen.wp h fun _ w1 q1 => ?_)
  obtain ⟨w2, r2, s2, m2⟩ := dacInit_run .pc env q1.step.idle
  refine wp_bind.mpr (wp_of_ok r2 (wp_bind.mpr (wp_mono (calibrate_wp .afeA env s2.idle) ?_ ?_)))
  · rintro _ w3 ⟨kA, nA, hA⟩
    refine wp_bind.mpr (wp_mono (calibrate_wp .afeB env hA.step.idle) ?_ ?_)
    · rintro _ w4 ⟨kB, nB, hB⟩
      obtain ⟨w5, r5, s5, m5⟩ := switchToSafe_step .afeA env hB.step.idle
      obtain ⟨w6, r6, s6, m6⟩ := switchToSafe_step .afeB env s5.idle
      refine wp_bind.mpr (wp_of_ok r5 (wp_bind.mpr (wp_of_ok r6 (hclose.wp s6.idle fun _ w7 q7 => ?_))))
      refine ⟨kA, nA, kB, nB, hA.stores, hB.stores, ?_, ?_⟩
      · have hs := (q1.step.trans s2).trans (((hA.step.trans hB.step).trans (s5.trans s6)).trans q7.step)
        simpa only [bringUpWrites, List.nil_append, List.append_nil, List.append_assoc] using hs
      · rw [q7.mem, m6, m5, hB.mem, hA.mem, m2, q1.mem]
        rfl
    · intro e w4 hx
      refine hx.mono fun w5 ⟨k, _, _, hd⟩ => ⟨_, .second k kA nA, ?_⟩
      rw [hd.step.writes, hA.step.writes, s2.writes, q1.step.writes]
      simp only [List.nil_append, List.append_assoc]
  · intro e w3 hx
    refine hx.mono fun w4 ⟨k, _, _, hd⟩ => ⟨_, .first k, ?_⟩
    rw [hd.step.writes, s2.writes, q1.step.writes]
    rfl

/-! ## `init` -/

/-- The state `init` leaves when it returns. -/
structure Booted (env : Env) (w : World) : Prop where
  idle : w.Idle
  writes : ∃ kA nA kB nB, Stores kA nA ∧ Stores kB nB ∧
    w.writes = bringUpWrites kA nA kB nB ++ (railWrites (busOff env) ++ powerUpWrites)
  config3 : w.config3 = [0]
  received : w.received = []
  modes : ∀ c, (w.mem.afe c).mode = .safe
  biased : ∀ c, c ≠ .afe0 → Biased (w.mem.afe c)
  gravMode : w.mem.gravMode = if busOff env then .txDis else .safe
  soft : w.mem.soft = resetMem.soft

theorem Stores.biased {k : Nat} {n : UInt32} (h : Stores k n) (mode : AmcMode) : Biased ⟨n, n + 10, mode⟩ := by
  have hle := h.le
  have h10 : (10 : UInt32).toNat = 10 := rfl
  exact ⟨h.ge, hle, by rw [Exact.uint32_add (by rw [h10]; omega), h10]⟩

/-- How `init` ends early. -/
def InitExit (env : Env) (e : Stop) (w' : World) : Prop :=
  (e = .halted ∧ env.extOsc oscWorld.log = false ∧ w'.writes = []) ∨
    (env.extOsc oscWorld.log = true ∧
      Exit env (fun w => ∃ n, BringingUp n ∧ w.writes = n ++ (railWrites (busOff env) ++ powerUpWrites)) e w')

theorem init_wp (env : Env) : wp init (fun _ w' => env.extOsc oscWorld.log = true ∧ Booted env w') (InitExit env) env reset := by
  unfold init
  cases hosc : env.extOsc oscWorld.log with
  | false =>
    obtain ⟨w1, r1, h1⟩ := powerUp_halts hosc
    exact wp_bind.mpr (wp_of_error r1 (Or.inl ⟨rfl, hosc, h1⟩))
  | true =>
    obtain ⟨w2, r2, q2⟩ := busUnpowered_run env
    have hg : w2.mem.gravMode = .safe := by rw [q2.mem, busTest_mem]; rfl
    obtain ⟨w3, r3, s3, m3⟩ := powerRails_run (busOff env) env q2.step.idle hg
    have hw3 : w3.writes = railWrites (busOff env) ++ powerUpWrites := by
      rw [s3.writes, q2.step.writes, busTest_writes]
      rfl
    refine wp_bind.mpr (wp_of_ok (powerUp_run hosc) (wp_bind.mpr (wp_of_ok r2 (wp_bind.mpr (wp_of_ok r3 ?_)))))
    refine wp_mono (initBringUp_wp env s3.idle) ?_ ?_
    · rintro _ w4 ⟨kA, nA, kB, nB, h4⟩
      have hmem : w4.mem = bringUpMem { resetMem with gravMode := if busOff env then .txDis else .safe } nA nB := by
        rw [h4.mem, m3, q2.mem, busTest_mem]
      refine ⟨rfl, h4.step.idle, ⟨kA, nA, kB, nB, h4.storesA, h4.storesB, by rw [h4.step.writes, hw3]⟩, ?_, ?_, ?_, ?_,
        ?_, ?_⟩
      · rw [h4.step.config3, s3.config3, q2.step.config3, busTest_step.config3]
        rfl
      · rw [h4.step.received, s3.received, q2.step.received, busTest_step.received]
        rfl
      · intro c
        rw [hmem]
        cases c <;> rfl
      · intro c hc
        rw [hmem]
        cases c with
        | afeA => exact h4.storesA.biased .safe
        | afeB => exact h4.storesB.biased .safe
        | afe0 => exact absurd rfl hc
      · rw [hmem]
        rfl
      · rw [hmem]
        rfl
    · intro e w4 hx
      refine Or.inr ⟨hosc, hx.mono fun w5 ⟨n, hn, h5⟩ => ⟨n, hn, ?_⟩⟩
      rw [h5, hw3]

/-! ## A board -/

/-- The registers of a board with every reading in range, 532 mA in each amplifier, and the
    busses powered when they are tested. -/
def healthyRegister : Afe → UInt8 → UInt16
  | .afe0, addr =>
    if addr = Amc7891.adcData gravAdcV2v5 then 900
    else if addr = Amc7891.adcData gravAdcV1v8 then 738
    else if addr = Amc7891.adcData gravAdcV3v8 then 779
    else if addr = Amc7891.adcData gravAdcV5v5n then 942
    else if addr = Amc7891.adcData gravAdcV5v5 then 512
    else if addr = Amc7891.adcData gravAdcV29 then 508
    else if addr = Amc7891.adcData gravAdcAdcTemp then 615
    else 0
  | _, addr => if addr = amcTempData then 0 else 615

/-- Such a board: the second frame of a read carries the register the first one named. -/
def healthyEnv : Env where
  miso := fun l _ i =>
    match l with
    | .frame ⟨_, [.afe c], addr :: _⟩ _ :: _ =>
      if i = 1 then hiByte (healthyRegister c (addr &&& 0x7F))
      else if i = 2 then loByte (healthyRegister c (addr &&& 0x7F))
      else 0
    | _ => 0
  extOsc := fun _ => true
  intOsc := fun _ => true
  readable := fun _ => false
  getc := fun _ => 0
  devId := (0, 0, 0)
  lm5331 := fun _ => 0

set_option maxRecDepth 100000 in
theorem healthy_boots : ∃ w, init healthyEnv reset = .ok () w := by
  have h : returned (init healthyEnv reset) = true := by decide +kernel
  obtain ⟨_, w, hw⟩ := returned_ok h
  exact ⟨w, hw⟩

end Graviton
