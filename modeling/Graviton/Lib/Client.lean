/-
  Graviton.Lib.Client — programs over operations, and two implementations of the operations.

  A client calls operations `o : ο` and goes on with their answers in `ρ o`. `Client.run`
  runs it on an implementation, `Client.calls` are the operations such a run calls, and an
  invariant over them holds at its end if each operation keeps it (`Client.run_wp`). `Runs`
  says which programs are clients (they compose).
  `Refines` is a simulation: the concrete program, from a related state, returns what the
  abstract one returns or ends as it ends, in related states again, unless it stops for a
  reason of its own. If each operation refines its abstract one, so does every client
  (`Client.refines`).
-/
import Graviton.Lib.Effects

namespace Effects

/-! ## Clients -/

inductive Client (ο : Type) (ρ : ο → Type) (α : Type) where
  | done (a : α)
  | op (o : ο) (k : ρ o → Client ο ρ α)

variable {ο : Type} {ρ : ο → Type} {α β : Type}

def Client.bind : Client ο ρ α → (α → Client ο ρ β) → Client ο ρ β
  | .done a, f => f a
  | .op o k, f => .op o fun x => (k x).bind f

section

variable {r s e : Type} (impl : ∀ o, Prog r s e (ρ o))

def Client.run : Client ο ρ α → Prog r s e α
  | .done a => pure a
  | .op o k => impl o >>= fun x => (k x).run

theorem Client.run_bind (c : Client ο ρ α) (f : α → Client ο ρ β) :
    (c.bind f).run impl = c.run impl >>= fun a => (f a).run impl := by
  induction c with
  | done a => rfl
  | op o k ih =>
    show (impl o >>= fun x => ((k x).bind f).run impl) = (impl o >>= fun x => (k x).run impl) >>= _
    rw [bind_assoc]
    exact congrArg _ (funext ih)

/-- The operations a run calls, oldest first, up to the one that ends it. -/
def Client.calls : Client ο ρ α → r → s → List ο
  | .done _, _, _ => []
  | .op o k, env, w => o :: match impl o env w with
    | .ok x w' => (k x).calls env w'
    | .error _ _ => []

/-- What each operation keeps, with `upd` of what was called, a run keeps with all of its calls. -/
theorem Client.run_wp {γ : Type} (upd : γ → ο → γ) {I : γ → s → Prop} {E : γ → e → s → Prop} {env : r}
    (h : ∀ o g w, I g w → wp (impl o) (fun _ w' => I (upd g o) w') (fun x w' => E (upd g o) x w') env w)
    (c : Client ο ρ α) {g : γ} {w : s} (hi : I g w) :
    wp (c.run impl) (fun _ w' => I ((c.calls impl env w).foldl upd g) w')
      (fun x w' => E ((c.calls impl env w).foldl upd g) x w') env w := by
  induction c generalizing g w with
  | done a => exact wp_pure.mpr hi
  | op o k ih =>
    have ho := h o g w hi
    unfold Client.run Client.calls
    rw [List.foldl_cons]
    cases hr : impl o env w with
    | ok x w' =>
      have hi' := wp_ok ho hr
      exact wp_bind.mpr (wp_of_ok hr (ih x hi'))
    | error x w' => exact wp_bind.mpr (wp_of_error hr (wp_error ho hr))

/-- `x` is a client of the operations. -/
def Runs (x : Prog r s e α) : Prop := ∃ c : Client ο ρ α, c.run impl = x

variable {impl}

theorem runs_pure (a : α) : Runs impl (pure a : Prog r s e α) := ⟨.done a, rfl⟩

theorem runs_op (o : ο) : Runs impl (impl o) := ⟨.op o .done, bind_pure _⟩

/-- An operation that never answers. -/
theorem runs_never {x : Prog r s e α} (o : ο) (f : ρ o → Prog r s e α) (hx : impl o >>= f = x) (hn : ρ o → False) :
    Runs impl x := by
  refine ⟨.op o fun y => (hn y).elim, ?_⟩
  rw [← hx]
  exact congrArg _ (funext fun y => (hn y).elim)

theorem Runs.bind {x : Prog r s e α} {f : α → Prog r s e β} (hx : Runs impl x) (hf : ∀ a, Runs impl (f a)) :
    Runs impl (x >>= f) := by
  obtain ⟨c, rfl⟩ := hx
  obtain ⟨d, hd⟩ := Classical.axiomOfChoice hf
  exact ⟨c.bind d, by rw [Client.run_bind, funext hd]⟩

theorem Runs.ite {x y : Prog r s e α} (hx : Runs impl x) (hy : Runs impl y) (p : Prop) [Decidable p] :
    Runs impl (if p then x else y) := by
  by_cases h : p
  · rw [if_pos h]; exact hx
  · rw [if_neg h]; exact hy

theorem Runs.forM {γ : Type} {f : γ → Prog r s e PUnit} {l : List γ} (hf : ∀ a ∈ l, Runs impl (f a)) :
    Runs impl (forM l f) := by
  induction l with
  | nil => exact runs_pure _
  | cons a l ih =>
    rw [List.forM_cons]
    exact (hf a List.mem_cons_self).bind fun _ => ih fun b hb => hf b (List.mem_cons_of_mem a hb)

theorem Runs.iterate {step : α → Prog r s e α} (hs : ∀ a, Runs impl (step a)) (n : Nat) (a : α) :
    Runs impl (iterate step n a) := by
  induction n with
  | zero => exact runs_pure a
  | succ n ih => exact ih.bind hs

end

/-! ## Refinement -/

section

variable {r s e r' t e' : Type} (R : s → t → Prop) (E : e → e' → Prop) (S : e' → t → Prop)

/-- From related states, the concrete `y` returns or ends as the abstract `x` does, or stops by itself. -/
def Refines (env : r) (x : Prog r s e α) (hw : r') (y : Prog r' t e' α) : Prop :=
  ∀ w d, R w d → wp y (fun a d' => ∃ w', x env w = .ok a w' ∧ R w' d')
    (fun x' d' => S x' d' ∨ ∃ e w', x env w = .error e w' ∧ E e x' ∧ R w' d') hw d

variable {R E S} {env : r} {hw : r'}

theorem refines_pure (a : α) : Refines R E S env (pure a) hw (pure a) :=
  fun w _ h => wp_pure.mpr ⟨w, rfl, h⟩

theorem Refines.bind {x : Prog r s e α} {y : Prog r' t e' α} {f : α → Prog r s e β} {g : α → Prog r' t e' β}
    (h : Refines R E S env x hw y) (hf : ∀ a, Refines R E S env (f a) hw (g a)) :
    Refines R E S env (x >>= f) hw (y >>= g) := by
  intro w d hR
  refine wp_bind.mpr (wp_mono (h w d hR) (fun a d1 h1 => ?_) fun _ d1 h1 => ?_)
  · obtain ⟨w1, r1, hR1⟩ := h1
    rw [run_bind_ok r1]
    exact hf a w1 d1 hR1
  · rcases h1 with hs | ⟨e, w1, r1, he⟩
    · exact Or.inl hs
    · exact Or.inr ⟨e, w1, run_bind_error r1 f, he⟩

/-- What refines operation by operation, refines. -/
theorem Client.refines {abs : ∀ o, Prog r s e (ρ o)} {con : ∀ o, Prog r' t e' (ρ o)}
    (h : ∀ o, Refines R E S env (abs o) hw (con o)) (c : Client ο ρ α) :
    Refines R E S env (c.run abs) hw (c.run con) := by
  induction c with
  | done a => exact refines_pure a
  | op o k ih => exact (h o).bind ih

end

end Effects
