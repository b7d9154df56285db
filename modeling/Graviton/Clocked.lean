/-
  Graviton.Clocked — the oscillator behind every transfer.

  `Env.extOsc` and `Env.intOsc` only say whether a switch of oscillators succeeds. On a board
  whose clock tree is `hw` they are what the switches of `Graviton.Clock` answer, and its
  history of switches is read off the log (`clockLog`). Then no chip is sent a frame before
  the board was seen to run from the PLL of the external oscillator (`clocked`).
-/
import Graviton.ClockSwitch
import Graviton.Programming
import Graviton.Response

namespace Graviton

open Effects History Clock

/-- The oscillator an event switches to. -/
def Event.oscillator : Event → Option Bool
  | .osc external _ => some external
  | _ => none

section

variable (hw : Rcc) (stack : List RccEvent → OscInit) (fuel : Nat)

/-- What a log of `main` did to the clock tree. -/
def clockLog (l : List Event) : List RccEvent := switched hw stack fuel (l.filterMap Event.oscillator)

/-- The switches of `env` are those of the clock tree. -/
structure ClockedBy (env : Env) : Prop where
  ext : ∀ l, env.extOsc l =
    returned (switchTo fuel (stack (clockLog hw stack fuel l)) true hw (clockLog hw stack fuel l))
  int : ∀ l, env.intOsc l =
    returned (switchTo fuel (stack (clockLog hw stack fuel l)) false hw (clockLog hw stack fuel l))

end

variable {hw : Rcc} {stack : List RccEvent → OscInit} {fuel : Nat} {env : Env}

/-- The log up to the switch to the external oscillator. -/
def switchedLog : List Event := .osc true true :: oscWorld.log

/-- A run that goes through that switch. -/
theorem mainRun_switched (hosc : env.extOsc oscWorld.log = true) (n : Nat) :
    switchedLog <:+ (final (mainRun n env reset)).log := by
  have hgrows : ∀ P : Event → Prop, Stays P fun l => switchedLog <:+ l := fun P e l _ h =>
    h.trans (List.suffix_cons e l)
  have h0 : switchedLog <:+ busTestWorld.log := by decide +kernel
  rcases mainRun_keeps (hgrows _) h0 (hgrows _) (fun l h => h.trans (List.suffix_append _ l)) env n with h | h
  · exact h
  · have hexit := wp_error (mainRun_wp env n) h
    rcases hexit with (⟨_, hoff, _⟩ | ⟨_, he⟩) | he
    · rw [hosc] at hoff
      cases hoff
    · cases he.writes.1
    · cases he.writes.1

theorem mainRun_halted (hosc : env.extOsc oscWorld.log = false) (n : Nat) :
    mainRun n env reset = .error .halted haltedWorld := by
  have hinit : init env reset = .error .halted haltedWorld := by
    unfold init
    exact run_bind_error (powerUp_halted hosc) _
  exact mainRun_stays_error (mainRun_zero_error.mpr hinit) (Nat.zero_le n)

/-- Every frame of every run follows a successful switch to the external oscillator; and if
    that switch fails, `main` halts. -/
theorem clocked (hc : ClockedBy hw stack fuel env) (n : Nat) :
    Always (fun l => ∀ f rx, l.head? = some (.frame f rx) →
          ∃ k, k <:+ l ∧ Switched hw true (clockLog hw stack fuel k))
        (final (mainRun n env reset)).log ∧
      (returned (switchTo fuel (stack []) true hw []) = false → mainRun n env reset = .error .halted haltedWorld) := by
  have hquiet : ∀ {l l' : List Event}, (∀ e ∈ l', ∀ f rx, e ≠ .frame f rx) → l <:+ l' → ∀ f rx,
    l.head? ≠ some (.frame f rx) :=
    fun h hl f rx he => h _ (hl.subset (List.mem_of_mem_head? he)) f rx rfl
  have hext : env.extOsc oscWorld.log = returned (switchTo fuel (stack []) true hw []) := hc.ext oscWorld.log
  refine ⟨?_, fun hno => mainRun_halted (hext.trans hno) n⟩
  cases hosc : env.extOsc oscWorld.log with
  | false =>
    rw [mainRun_halted hosc n]
    have hnone : ∀ e ∈ haltedWorld.log, ∀ f rx, e ≠ .frame f rx := by
      simp [haltedWorld, oscWorld, World.push, reset]
    exact fun l hl f rx he => absurd he (hquiet hnone hl f rx)
  | true =>
    obtain ⟨v, l', hr⟩ := returned_ok (hext.symm.trans hosc)
    have hlog : clockLog hw stack fuel switchedLog = l' := by
      show final (switchTo fuel (stack []) true hw []) = l'
      rw [hr]
      rfl
    have hnone : ∀ e ∈ switchedLog, ∀ f rx, e ≠ .frame f rx := by
      simp [switchedLog, oscWorld, World.push, reset]
    intro l hl f rx he
    rcases List.suffix_or_suffix_of_suffix hl (mainRun_switched hosc n) with hs | hs
    · exact absurd he (hquiet hnone hs f rx)
    · refine ⟨switchedLog, hs, ?_⟩
      rw [hlog]
      exact (switch_done (always_nil.mpr trivial) hr).1

/-- A healthy board whose clock tree answers at once. -/
def promptEnv : Env :=
  { healthyEnv with
    extOsc := fun l => returned (switchTo 1 noStack true promptRcc (clockLog promptRcc (fun _ => noStack) 1 l))
    intOsc := fun l => returned (switchTo 1 noStack false promptRcc (clockLog promptRcc (fun _ => noStack) 1 l)) }

theorem clocked_prompt :
    Always (fun l => ∀ f rx, l.head? = some (.frame f rx) →
        ∃ k, k <:+ l ∧ Switched promptRcc true (clockLog promptRcc (fun _ => noStack) 1 k))
      (final (mainRun 3 promptEnv reset)).log ∧
    promptEnv.extOsc oscWorld.log = true :=
  ⟨(clocked ⟨fun _ => rfl, fun _ => rfl⟩ 3).1, by decide +kernel⟩

end Graviton
