/-
  Graviton.Lib.Monitor — safety monitors over histories.

  A monitor reads a history one entry at a time, oldest first, and may object to an entry.
  A history is a list with its newest entry first; `state l` is where the monitor stands
  after it, `none` once it has objected. Accepted histories are closed under going back in
  time (`state_suffix`), entries a monitor ignores leave it where it stands
  (`state_ignored`), and a relation between state and history that every step keeps holds of
  every accepted history (`invariant`).
-/
import Graviton.Lib.History

namespace History

structure Monitor (σ α : Type) where
  start : σ
  step : σ → α → Option σ

namespace Monitor

variable {σ α : Type} (m : Monitor σ α)

/-- Where the monitor stands after a history. -/
def state : List α → Option σ
  | [] => some m.start
  | a :: l => (state l).bind fun s => m.step s a

variable {m} {l : List α} {s t : σ} {a : α}

theorem state_cons (h : m.state l = some s) : m.state (a :: l) = m.step s a := by
  rw [state, h]
  rfl

/-- What the newest entry did. -/
theorem state_cons_inv (h : m.state (a :: l) = some t) : ∃ s, m.state l = some s ∧ m.step s a = some t := by
  rw [state] at h
  exact Option.bind_eq_some_iff.mp h

/-- Entries ignored in state `s` leave the monitor there. -/
theorem state_ignored {es : List α} (h : m.state l = some s) (he : ∀ e ∈ es, m.step s e = some s) :
    m.state (es ++ l) = some s := by
  induction es with
  | nil => exact h
  | cons e es ih =>
    have hs := ih fun x hx => he x (List.mem_cons_of_mem e hx)
    rw [List.cons_append, state_cons hs]
    exact he e List.mem_cons_self

/-- An accepted history was accepted at every earlier moment. -/
theorem state_suffix {k : List α} (hk : k <:+ l) (h : m.state l = some t) : ∃ s, m.state k = some s := by
  induction l generalizing t with
  | nil =>
    rw [List.suffix_nil.mp hk]
    exact ⟨_, rfl⟩
  | cons a l ih =>
    rcases List.suffix_cons_iff.mp hk with rfl | hk
    · exact ⟨t, h⟩
    · obtain ⟨s, hs, _⟩ := state_cons_inv h
      exact ih hk hs

/-- What the start and every step keep holds of every accepted history. -/
theorem invariant {I : σ → List α → Prop} (h0 : I m.start [])
    (hstep : ∀ s a t l, I s l → m.step s a = some t → I t (a :: l)) (h : m.state l = some s) : I s l := by
  induction l generalizing s with
  | nil =>
    obtain rfl := Option.some.inj h
    exact h0
  | cons a l ih =>
    obtain ⟨s', hs', ha⟩ := state_cons_inv h
    exact hstep s' a s l (ih hs') ha

end Monitor

end History
