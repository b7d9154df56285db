/-
  Graviton.Lib.Effects — programs that read an environment, change a state and may stop
  early, and the rules their correctness proofs use.

  A program is a function of an environment `ρ` and a state `σ`; it returns a value or
  stops with an exit `ε`, and leaves a state behind either way. The environment answers
  what the program asks of the outside world, so a statement about every environment is
  a statement about every run.

  `wp x Q E r s` says: run from `s` in `r`, the program `x` either returns with `Q` or
  stops with `E`. Rules: one per construct (`wp_pure`, `wp_bind`, `wp_ite`), consequence
  (`wp_mono`, `wp_and`), and the two ways between `wp` and a known run (`wp_of_ok`, `wp_ok`).
  `Grows` is about programs whose state is a log.
-/
import Mathlib.Init

namespace Effects

abbrev Prog (ρ σ ε : Type) : Type → Type := ReaderT ρ (EStateM ε σ)

variable {ρ σ ε α β : Type}

/-! ## Runs -/

/-- End the run with exit `e`. -/
def stop (e : ε) : Prog ρ σ ε α := fun _ s => .error e s

/-- The state a run leaves behind, whether it returned or stopped. -/
def final : EStateM.Result ε σ α → σ
  | .ok _ s => s
  | .error _ s => s

/-- Did the run return? -/
def returned : EStateM.Result ε σ α → Bool
  | .ok _ _ => true
  | .error _ _ => false

theorem returned_ok {x : EStateM.Result ε σ α} (h : returned x = true) : ∃ a s, x = .ok a s := by
  cases x with
  | ok a s => exact ⟨a, s, rfl⟩
  | error e s => cases h

/-- What stopped the run, if anything did. -/
def stopped : EStateM.Result ε σ α → Option ε
  | .ok _ _ => none
  | .error e _ => some e

theorem stopped_error {x : EStateM.Result ε σ α} {e : ε} (h : stopped x = some e) : ∃ s, x = .error e s := by
  cases x with
  | ok a s => cases h
  | error e' s =>
    cases h
    exact ⟨s, rfl⟩

@[simp] theorem final_ok (a : α) (s : σ) : final (.ok a s : EStateM.Result ε σ α) = s := rfl
@[simp] theorem final_error (e : ε) (s : σ) : final (.error e s : EStateM.Result ε σ α) = s := rfl

@[simp] theorem run_pure (a : α) (r : ρ) (s : σ) : (pure a : Prog ρ σ ε α) r s = .ok a s := rfl

theorem run_bind (x : Prog ρ σ ε α) (f : α → Prog ρ σ ε β) (r : ρ) (s : σ) :
    (x >>= f) r s = match x r s with
      | .ok a t => f a r t
      | .error e t => .error e t := by
  show EStateM.bind (x r) (fun a => f a r) s = _
  unfold EStateM.bind
  cases x r s <;> rfl

/-- Go on from a part of the program whose run is known. -/
theorem run_bind_ok {x : Prog ρ σ ε α} {r : ρ} {s t : σ} {a : α} (h : x r s = .ok a t) (f : α → Prog ρ σ ε β) :
    (x >>= f) r s = f a r t := by
  rw [run_bind, h]

theorem run_bind_error {x : Prog ρ σ ε α} {r : ρ} {s t : σ} {e : ε} (h : x r s = .error e t)
    (f : α → Prog ρ σ ε β) : (x >>= f) r s = .error e t := by
  rw [run_bind, h]

/-- What a returning sequence did: its first part returned, and its second part
    returned from there. -/
theorem bind_ok_cases {x : Prog ρ σ ε α} {f : α → Prog ρ σ ε β} {r : ρ} {s u : σ} {b : β}
    (h : (x >>= f) r s = .ok b u) : ∃ a t, x r s = .ok a t ∧ f a r t = .ok b u := by
  rw [run_bind] at h
  cases hx : x r s with
  | ok a t => rw [hx] at h; exact ⟨a, t, rfl, h⟩
  | error e t => rw [hx] at h; cases h

/-! ## Weakest preconditions -/

/-- Run from `s`, `x` returns with `Q` or stops with `E`. It is irreducible: an elaborator
    that unfolds it would run the program. -/
@[irreducible] def wp (x : Prog ρ σ ε α) (Q : α → σ → Prop) (E : ε → σ → Prop) (r : ρ) (s : σ) : Prop :=
  match x r s with
  | .ok a t => Q a t
  | .error e t => E e t

variable {Q Q' : α → σ → Prop} {E E' : ε → σ → Prop} {r : ρ} {s t : σ}

theorem wp_of_ok {x : Prog ρ σ ε α} {a : α} (h : x r s = .ok a t) (hq : Q a t) : wp x Q E r s := by
  unfold wp; rw [h]; exact hq

theorem wp_of_error {x : Prog ρ σ ε α} {e : ε} (h : x r s = .error e t) (he : E e t) : wp x Q E r s := by
  unfold wp; rw [h]; exact he

theorem wp_ok {x : Prog ρ σ ε α} {a : α} (h : wp x Q E r s) (hx : x r s = .ok a t) : Q a t := by
  unfold wp at h; rw [hx] at h; exact h

theorem wp_error {x : Prog ρ σ ε α} {e : ε} (h : wp x Q E r s) (hx : x r s = .error e t) : E e t := by
  unfold wp at h; rw [hx] at h; exact h

theorem wp_pure {a : α} : wp (pure a : Prog ρ σ ε α) Q E r s ↔ Q a s := by
  unfold wp; exact Iff.rfl

theorem wp_bind {x : Prog ρ σ ε α} {f : α → Prog ρ σ ε β} {Q : β → σ → Prop} :
    wp (x >>= f) Q E r s ↔ wp x (fun a => wp (f a) Q E r) E r s := by
  unfold wp
  rw [run_bind]
  cases x r s <;> exact Iff.rfl

theorem wp_ite {c : Prop} [Decidable c] {x y : Prog ρ σ ε α} :
    wp (if c then x else y) Q E r s ↔ (c → wp x Q E r s) ∧ (¬ c → wp y Q E r s) := by
  by_cases h : c <;> simp [h]

theorem wp_mono {x : Prog ρ σ ε α} (h : wp x Q E r s) (hq : ∀ a t, Q a t → Q' a t) (he : ∀ e t, E e t → E' e t) :
    wp x Q' E' r s := by
  unfold wp at h ⊢
  cases hx : x r s with
  | ok a t => rw [hx] at h; exact hq a t h
  | error e t => rw [hx] at h; exact he e t h

theorem wp_and {x : Prog ρ σ ε α} (h : wp x Q E r s) (h' : wp x Q' E' r s) :
    wp x (fun a t => Q a t ∧ Q' a t) (fun e t => E e t ∧ E' e t) r s := by
  unfold wp at h h' ⊢
  cases hx : x r s with
  | ok a t => rw [hx] at h h'; exact ⟨h, h'⟩
  | error e t => rw [hx] at h h'; exact ⟨h, h'⟩

/-- Whatever the run does, the state it leaves satisfies what both exits share. -/
theorem wp_final {x : Prog ρ σ ε α} {P : σ → Prop} (h : wp x (fun _ => P) (fun _ => P) r s) : P (final (x r s)) := by
  unfold wp at h
  cases hx : x r s with
  | ok a t => rw [hx] at h; exact h
  | error e t => rw [hx] at h; exact h

/-! ## Loops -/

/-- `step` taken `n` times, each time from the value the time before returned. -/
def iterate (step : α → Prog ρ σ ε α) : Nat → α → Prog ρ σ ε α
  | 0, a => pure a
  | n + 1, a => do
    let b ← iterate step n a
    step b

theorem iterate_add (step : α → Prog ρ σ ε α) (n m : Nat) (a : α) :
    iterate step (n + m) a = iterate step n a >>= iterate step m := by
  induction m with
  | zero => exact (bind_pure (iterate step n a)).symm
  | succ m ih =>
    show iterate step (n + m) a >>= step = _
    rw [ih, bind_assoc]
    rfl

/-! ## Logs -/

/-- A program whose state is a log, newest entry first, only adds to it. -/
def Grows {τ : Type} (x : Prog ρ (List τ) ε α) : Prop :=
  ∀ r l, wp x (fun _ l' => l <:+ l') (fun _ l' => l <:+ l') r l

section

variable {τ : Type}

theorem grows_pure (a : α) : Grows (pure a : Prog ρ (List τ) ε α) := fun _ _ => wp_pure.mpr List.suffix_rfl

theorem grows_stop (e : ε) : Grows (stop e : Prog ρ (List τ) ε α) := fun _ _ => wp_of_error rfl List.suffix_rfl

theorem Grows.bind {x : Prog ρ (List τ) ε α} {f : α → Prog ρ (List τ) ε β} (hx : Grows x) (hf : ∀ a, Grows (f a)) :
    Grows (x >>= f) := by
  intro r l
  refine wp_bind.mpr (wp_mono (hx r l) (fun a k hk => ?_) fun _ _ he => he)
  exact wp_mono (hf a r k) (fun _ _ h => hk.trans h) fun _ _ h => hk.trans h

theorem Grows.ite {c : Prop} [Decidable c] {x y : Prog ρ (List τ) ε α} (hx : Grows x) (hy : Grows y) :
    Grows (if c then x else y) := fun r l => wp_ite.mpr ⟨fun _ => hx r l, fun _ => hy r l⟩

end

end Effects
