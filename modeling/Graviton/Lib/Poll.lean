/-
  Graviton.Lib.Poll — waiting for a condition, with a deadline.

  `pollWhile` waits while `busy` says so and stops with `timeout` once `late` does. It makes
  `n` rounds at most, and then stops as `stuck`: that no run is stuck is for a clock to say.
  `pollWhile_wp` is its rule; the invariant `I` may count the rounds left.
-/
import Graviton.Lib.Effects

namespace Effects

variable {ρ σ ε : Type}

def pollWhile (busy late : Prog ρ σ ε Bool) (timeout stuck : ε) : Nat → Prog ρ σ ε Unit
  | 0 => stop stuck
  | n + 1 => do
    if ← busy then
      if ← late then stop timeout else pollWhile busy late timeout stuck n
    else pure ()

theorem wp_stop {α : Type} {Q : α → σ → Prop} {E : ε → σ → Prop} {r : ρ} {s : σ} {e : ε} :
    wp (stop e : Prog ρ σ ε α) Q E r s ↔ E e s := by
  unfold wp
  exact Iff.rfl

/-- From `I n`, with `n` rounds left, `busy` either leads to `Q`, or to `J n` and on to `I` or a timeout. -/
theorem pollWhile_wp {busy late : Prog ρ σ ε Bool} {timeout stuck : ε} {I J : Nat → σ → Prop} {Q : σ → Prop}
    {E : ε → σ → Prop} {r : ρ}
    (hbusy : ∀ n s, I (n + 1) s → wp busy (fun b t => (b = true → J n t) ∧ (b = false → Q t)) E r s)
    (hlate : ∀ n s, J n s → wp late (fun b t => (b = true → E timeout t) ∧ (b = false → I n t)) E r s)
    (hstuck : ∀ s, I 0 s → E stuck s) {n : Nat} {s : σ} (h : I n s) :
    wp (pollWhile busy late timeout stuck n) (fun _ => Q) E r s := by
  induction n generalizing s with
  | zero => exact wp_stop.mpr (hstuck s h)
  | succ n ih =>
    refine wp_bind.mpr (wp_mono (hbusy n s h) (fun b t ht => wp_ite.mpr ⟨fun hb => ?_, fun hb => ?_⟩) fun _ _ he => he)
    · refine wp_bind.mpr (wp_mono (hlate n t (ht.1 hb))
        (fun b' u hu => wp_ite.mpr ⟨fun hb' => ?_, fun hb' => ?_⟩) fun _ _ he => he)
      · exact wp_stop.mpr (hu.1 hb')
      · exact ih (hu.2 (Bool.eq_false_iff.mpr hb'))
    · exact wp_pure.mpr (ht.2 (Bool.eq_false_iff.mpr hb))

theorem Grows.pollWhile {τ : Type} {busy late : Prog ρ (List τ) ε Bool} {timeout stuck : ε} (hb : Grows busy)
    (hl : Grows late) (n : Nat) : Grows (pollWhile busy late timeout stuck n) := by
  intro r l
  refine pollWhile_wp (I := fun _ s => l <:+ s) (J := fun _ s => l <:+ s) (E := fun _ s => l <:+ s) ?_ ?_ (fun _ h => h)
    List.suffix_rfl
  · exact fun _ s h => wp_mono (hb r s) (fun _ _ h' => ⟨fun _ => h.trans h', fun _ => h.trans h'⟩) fun _ _ h' =>
      h.trans h'
  · exact fun _ s h => wp_mono (hl r s) (fun _ _ h' => ⟨fun _ => h.trans h', fun _ => h.trans h'⟩) fun _ _ h' =>
      h.trans h'

end Effects
