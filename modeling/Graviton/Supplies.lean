/-
  Graviton.Supplies — an amplifier is on only while the board's supplies are.

  `Powered l`: after the writes `l`, a channel whose amplifier is on finds the supplies
  enabled on the main board. When the bus test reads its rails off, `init` enables them and
  every later moment is powered, the shutdown included. When it does not, `init` only prints
  that it halts: the calibration then runs with the supplies off. `powered_iff` is the exact
  condition on the environment.
-/
import Graviton.System

namespace Graviton

open Effects History

/-- The enables of the supplies: ETH, 1V8, 2V5 and ADC. -/
def supplyEnables : UInt16 := gravEnEth ||| gravEn1v8 ||| gravEn2v5 ||| gravEnAdc

def SuppliesOn (l : List Write) : Prop := ∃ g, held l .afe0 .gpioOut = some g ∧ g &&& supplyEnables = supplyEnables

/-- An amplifier is on only while the supplies are. -/
def Powered (l : List Write) : Prop := ∀ c, c ≠ .afe0 → held l c .paEn = some 0x3FF → SuppliesOn l

theorem SuppliesOn.powered {l : List Write} (h : SuppliesOn l) : Powered l := fun _ _ _ => h

theorem SuppliesOn.append {n l : List Write} (h : SuppliesOn l) (hn : ∀ p ∈ n, p.1.1 ≠ .afe0) : SuppliesOn (n ++ l) := by
  obtain ⟨g, hg, hs⟩ := h
  exact ⟨g, by rw [held_append_of_not hn]; exact hg, hs⟩

/-- With the supplies on, writes to the channels are powered at every moment. -/
theorem always_powered_append {n l : List Write} (hl : Always Powered l) (hs : SuppliesOn l)
    (hn : ∀ p ∈ n, p.1.1 ≠ .afe0) : Always Powered (n ++ l) :=
  always_append hl fun _ hk _ => (hs.append fun p hp => hn p (hk.subset hp)).powered

/-! ## Moves -/

theorem gravGpio_supplies {g : GravMode} (hg : g ≠ .safe) : gravGpio g &&& supplyEnables = supplyEnables := by
  cases g with
  | safe => exact absurd rfl hg
  | txEn => decide
  | txDis => decide

theorem gate_not_safe (m : Mem) : gate m ≠ .safe := by
  unfold gate
  split <;> decide

/-- The supplies are on and every moment so far was powered. -/
structure Supplied (w : World) : Prop where
  on : SuppliesOn w.writes
  always : Always Powered w.writes

theorem Supplied.aside {w w' : World} (h : Supplied w) (ha : Aside w w') : Supplied w' := by
  have hw : w'.writes = w.writes := ha.step.writes
  exact ⟨by rw [hw]; exact h.on, by rw [hw]; exact h.always⟩

theorem Supplied.ran {w w' : World} {msg : UInt8} (h : Supplied w) (hr : Ran msg w w') : Supplied w' := by
  have hcmd := commandWrites_not_afe0 w.mem msg
  have hon := h.on.append hcmd
  have halw := always_powered_append h.always h.on hcmd
  suffices hw : SuppliesOn w'.writes ∧ Always Powered w'.writes from ⟨hw.1, hw.2⟩
  rw [hr.writes]
  unfold gateWrites
  by_cases hg : (commandMem w.mem msg).gravMode = gate (commandMem w.mem msg)
  · rw [if_pos hg]
    exact ⟨hon, halw⟩
  · rw [if_neg hg]
    have hnew : SuppliesOn ([((.afe0, amcGpioOut), gravGpio (gate (commandMem w.mem msg)))] ++
        (commandWrites w.mem msg ++ w.writes)) :=
      ⟨_, List.lookup_cons_self, gravGpio_supplies (gate_not_safe _)⟩
    exact ⟨hnew, always_cons.mpr ⟨hnew.powered, halw⟩⟩

theorem Supplied.moves {w w' : World} (h : Supplied w) (hm : Moves w w') : Supplied w' := by
  cases hm with
  | aside ha => exact h.aside ha
  | ran msg ha hr ha' => exact ((h.aside ha).ran hr).aside ha'

/-- A shutdown switches both amplifiers off before it takes the supplies away. -/
theorem Supplied.shutdown {w w' : World} (h : Supplied w) (hs : Step w w' shutdownWrites []) :
    Always Powered w'.writes := by
  have hsafe : ∀ p ∈ safeWrites .afeB ++ safeWrites .afeA, p.1.1 ≠ .afe0 := by decide
  rw [hs.writes, shutdownWrites, List.append_assoc]
  refine always_append (always_powered_append h.always h.on hsafe) fun k hk _ c hc hon => ?_
  -- both amplifiers were just switched off
  have hk' : ∀ p ∈ k, p.1.1 ≠ c := fun p hp => by
    rw [(by decide : ∀ p ∈ gravSafeWrites .afe0, p.1.1 = .afe0) p (hk.subset hp)]
    exact Ne.symm hc
  rw [held_append_of_not hk'] at hon
  cases c with
  | afe0 => exact absurd rfl hc
  | afeA => cases hon
  | afeB => cases hon

/-! ## Boot -/

theorem powerUp_powered : Always Powered powerUpWrites := by
  have hall : ∀ k ∈ powerUpWrites.tails, ∀ c ∈ [Afe.afeA, .afeB], held k c .paEn ≠ some 0x3FF := by decide
  intro k hk c hc hon
  have hmem : c ∈ [Afe.afeA, .afeB] := by
    cases c with
    | afe0 => exact absurd rfl hc
    | afeA => decide
    | afeB => decide
  exact absurd hon (hall k ((List.mem_tails _ _).mpr hk) c hmem)

/-- The rails switched on, the supplies are. -/
theorem railed_supplied : SuppliesOn (railWrites true ++ powerUpWrites) ∧ Always Powered (railWrites true ++ powerUpWrites) := by
  have hon : SuppliesOn (railWrites true ++ powerUpWrites) := ⟨gravMainPowerOnTxOff, rfl, by decide⟩
  exact ⟨hon, always_cons.mpr ⟨hon.powered, powerUp_powered⟩⟩

theorem Booted.supplied {env : Env} {w : World} (h : Booted env w) (hoff : busOff env = true) : Supplied w := by
  obtain ⟨kA, nA, kB, nB, _, _, hw⟩ := h.writes
  have hn := bringUpWrites_not_afe0 kA nA kB nB
  suffices hs : SuppliesOn w.writes ∧ Always Powered w.writes from ⟨hs.1, hs.2⟩
  rw [hw, hoff]
  exact ⟨railed_supplied.1.append hn, always_powered_append railed_supplied.2 railed_supplied.1 hn⟩

theorem LoopRun.supplied {env : Env} {w0 w : World} (h : LoopRun env w0 w) (hoff : busOff env = true) : Supplied w := by
  have hboot := h.booted.2
  induction h with
  | start _ hp =>
    obtain ⟨w1, r1, a1, _⟩ := prologue_run env hboot.idle
    obtain rfl := (EStateM.Result.ok.inj (r1.symm.trans hp)).2
    exact (hboot.supplied hoff).aside a1
  | step hrun hs ih => exact ih.moves (hs.moves hrun.looped.idle)

/-! ## Runs of `main` -/

theorem powered_of_busOff {env : Env} (hoff : busOff env = true) (n : Nat) :
    Always Powered (final (mainRun n env reset)).writes := by
  have hwp := mainRun_wp env n
  cases hr : mainRun n env reset with
  | ok v w =>
    obtain ⟨_, w0, hrun⟩ := wp_ok hwp hr
    exact (hrun.supplied hoff).always
  | error e w =>
    have hexit := wp_error hwp hr
    rcases hexit with (⟨_, _, hw⟩ | ⟨_, he⟩) | he
    · show Always Powered w.writes
      rw [hw]
      exact always_nil.mpr fun c _ hon => by cases hon
    · obtain ⟨_, w1, _, ⟨m, hm, hw1⟩, hs⟩ := he.writes
      have hsup : Supplied w1 := by
        suffices h : SuppliesOn w1.writes ∧ Always Powered w1.writes from ⟨h.1, h.2⟩
        rw [hw1, hoff]
        exact ⟨railed_supplied.1.append hm.not_afe0,
          always_powered_append railed_supplied.2 railed_supplied.1 hm.not_afe0⟩
      exact hsup.shutdown hs
    · obtain ⟨_, w1, _, ⟨w0, w2, hrun, hm⟩, hs⟩ := he.writes
      exact ((hrun.supplied hoff).moves hm).shutdown hs

/-- With the busses powered and the oscillator running, the first calibration begins with
    the supplies off. -/
theorem unpowered_calibration {env : Env} (hosc : env.extOsc oscWorld.log = true) (hoff : busOff env = false) :
    descent .afeA 0 ++ powerUpWrites <:+ (final (mainRun 0 env reset)).writes := by
  have hwp := mainRun_wp env 0
  have hbegins : ∀ m l : List Write, descent .afeA 0 <:+ m → descent .afeA 0 ++ l <:+ m ++ l :=
    fun m l h => List.suffix_append_self_iff.mpr h
  have hloop : ∀ w0 w, LoopRun env w0 w → descent .afeA 0 ++ powerUpWrites <:+ w.writes := by
    intro w0 w hrun
    obtain ⟨kA, nA, kB, nB, _, _, hw⟩ := hrun.booted.2.writes
    rw [hoff] at hw
    have h0 : descent .afeA 0 ++ powerUpWrites <:+ w0.writes := by
      rw [hw]
      exact hbegins _ _ (bringUp_begins kA nA kB nB)
    exact h0.trans hrun.grows
  cases hr : mainRun 0 env reset with
  | ok v w =>
    obtain ⟨_, w0, hrun⟩ := wp_ok hwp hr
    exact hloop w0 w hrun
  | error e w =>
    have hexit := wp_error hwp hr
    rcases hexit with (⟨_, hh, _⟩ | ⟨_, he⟩) | he
    · rw [hosc] at hh; cases hh
    · obtain ⟨_, w1, _, ⟨m, hm, hw1⟩, hs⟩ := he.writes
      rw [hoff] at hw1
      rw [final_error, hs.writes, hw1]
      exact List.suffix_append_of_suffix (hbegins _ _ hm.begins)
    · obtain ⟨_, w1, _, ⟨w0, w2, hrun, hm⟩, hs⟩ := he.writes
      rw [final_error, hs.writes]
      exact List.suffix_append_of_suffix ((hloop w0 w2 hrun).trans hm.grows)

/-- Without an oscillator nothing is ever written. -/
theorem powered_of_halt {env : Env} (hosc : env.extOsc oscWorld.log = false) (n : Nat) :
    Always Powered (final (mainRun n env reset)).writes := by
  have hno : ¬ env.extOsc oscWorld.log = true := by rw [hosc]; decide
  have hwp := mainRun_wp env n
  cases hr : mainRun n env reset with
  | ok v w =>
    obtain ⟨_, w0, hrun⟩ := wp_ok hwp hr
    exact absurd hrun.booted.1 hno
  | error e w =>
    have hexit := wp_error hwp hr
    rcases hexit with (⟨_, _, hw⟩ | ⟨h, _⟩) | he
    · show Always Powered w.writes
      rw [hw]
      exact always_nil.mpr fun c _ hon => by cases hon
    · exact absurd h hno
    · obtain ⟨_, _, _, ⟨w0, w2, hrun, _⟩, _⟩ := he.writes
      exact absurd hrun.booted.1 hno

/-- Every moment of every run is powered exactly if the boot halts for want of an oscillator
    or the bus test reads its rails off. -/
theorem powered_iff (env : Env) :
    (∀ n, Always Powered (final (mainRun n env reset)).writes) ↔
      env.extOsc oscWorld.log = false ∨ busOff env = true := by
  constructor
  · intro h
    cases hosc : env.extOsc oscWorld.log with
    | false => exact Or.inl rfl
    | true =>
      cases hoff : busOff env with
      | true => exact Or.inr rfl
      | false =>
        have hp := h 0 _ (unpowered_calibration hosc hoff) .afeA (by decide) rfl
        obtain ⟨g, hg, hs⟩ := hp
        obtain rfl : (0 : UInt16) = g := Option.some.inj hg
        exact absurd hs (by decide)
  · rintro (hosc | hoff) n
    · exact powered_of_halt hosc n
    · exact powered_of_busOff hoff n

/-- On a board whose busses are powered at the test, the calibration begins unpowered. -/
theorem unpowered_healthy : ¬ Always Powered (final (mainRun 0 healthyEnv reset)).writes := by
  intro h
  have hosc : healthyEnv.extOsc oscWorld.log = true := rfl
  have hoff : busOff healthyEnv = false := by decide +kernel
  obtain ⟨g, hg, hs⟩ := h _ (unpowered_calibration hosc hoff) .afeA (by decide) rfl
  obtain rfl : (0 : UInt16) = g := Option.some.inj hg
  exact absurd hs (by decide)

end Graviton
