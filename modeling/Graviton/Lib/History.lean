/-
  Graviton.Lib.History — properties of every moment of a history.

  A history is a list with its newest entry first, so the moments it went through are its
  suffixes. `Always P l` says that `P` held at every one of them, `streak p l` how many of the
  newest entries satisfy `p` in a row. Where the entries are writes `(key, value)`,
  `l.lookup k` is the value last written to `k`; `lookup_append_of_not` and `lookup_cons_ne`
  are its frame rules.
-/
import Mathlib.Data.List.Infix

namespace History

variable {α κ ν : Type}

/-- `P` at every moment of the history `l`. -/
def Always (P : List α → Prop) (l : List α) : Prop := ∀ h, h <:+ l → P h

variable {P P' : List α → Prop}

theorem always_nil : Always P [] ↔ P [] := by
  constructor
  · intro h; exact h [] List.nil_suffix
  · intro h l hl; rw [List.suffix_nil.mp hl]; exact h

theorem always_cons {a : α} {l : List α} : Always P (a :: l) ↔ P (a :: l) ∧ Always P l := by
  constructor
  · intro h
    exact ⟨h _ List.suffix_rfl, fun k hk => h k (hk.trans (List.suffix_cons a l))⟩
  · rintro ⟨h, ht⟩ k hk
    rcases List.suffix_cons_iff.mp hk with rfl | hk
    · exact h
    · exact ht k hk

/-- A history that grew: the old moments keep `P`, so only the new ones are left. -/
theorem always_append {n l : List α} (hl : Always P l) (hn : ∀ k, k <:+ n → k ≠ [] → P (k ++ l)) :
    Always P (n ++ l) := by
  induction n with
  | nil => exact hl
  | cons a n ih =>
    refine always_cons.mpr ⟨hn (a :: n) List.suffix_rfl (List.cons_ne_nil a n), ih fun k hk hne => ?_⟩
    exact hn k (hk.trans (List.suffix_cons a n)) hne

/-- A moment of a history that grew is an old one, or a moment of what is new. -/
theorem suffix_append_cases {k n l : List α} (h : k <:+ n ++ l) : k <:+ l ∨ ∃ m, m <:+ n ∧ m ≠ [] ∧ k = m ++ l := by
  induction n with
  | nil => exact Or.inl h
  | cons a n ih =>
    rcases List.suffix_cons_iff.mp h with he | h
    · exact Or.inr ⟨a :: n, List.suffix_rfl, List.cons_ne_nil a n, he⟩
    · rcases ih h with h | ⟨m, hm, hne, he⟩
      · exact Or.inl h
      · exact Or.inr ⟨m, hm.trans (List.suffix_cons a n), hne, he⟩

/-! ## Streaks -/

section

variable (p : α → Prop) [DecidablePred p]

/-- How many of the newest entries satisfy `p` in a row. -/
def streak (l : List α) : Nat := (l.takeWhile fun a => decide (p a)).length

variable {p} {a : α} {l : List α} {n : Nat}

theorem streak_cons_pos (h : p a) : streak p (a :: l) = streak p l + 1 := by
  unfold streak
  rw [List.takeWhile_cons, if_pos (decide_eq_true h), List.length_cons]

theorem streak_cons_neg (h : ¬ p a) : streak p (a :: l) = 0 := by
  unfold streak
  rw [List.takeWhile_cons, if_neg (by rw [decide_eq_true_iff]; exact h), List.length_nil]

/-- A streak of `n`: there are `n` entries, and the newest `n` satisfy `p`. -/
theorem le_streak_iff : n ≤ streak p l ↔ n ≤ l.length ∧ ∀ a ∈ l.take n, p a := by
  induction l generalizing n with
  | nil =>
    rw [List.take_nil]
    exact ⟨fun h => ⟨h, fun a ha => absurd ha List.not_mem_nil⟩, And.left⟩
  | cons a l ih =>
    cases n with
    | zero => exact ⟨fun _ => ⟨Nat.zero_le _, fun a ha => absurd ha List.not_mem_nil⟩, fun _ => Nat.zero_le _⟩
    | succ n =>
      rw [List.take_succ_cons, List.length_cons, List.forall_mem_cons]
      by_cases ha : p a
      · rw [streak_cons_pos ha, Nat.add_le_add_iff_right, ih, Nat.add_le_add_iff_right]
        exact ⟨fun h => ⟨h.1, ha, h.2⟩, fun h => ⟨h.1, h.2.2⟩⟩
      · rw [streak_cons_neg ha]
        exact ⟨fun h => by omega, fun h => absurd h.2.1 ha⟩

end

/-! ## Last writes -/

variable [BEq κ]

/-- A key written by the newer part holds what that part wrote. -/
theorem lookup_append_some {k : κ} {v : ν} {n l : List (κ × ν)} (h : n.lookup k = some v) :
    (n ++ l).lookup k = some v := by
  rw [List.lookup_append, h]
  rfl

variable [LawfulBEq κ]

theorem lookup_cons_ne {k k' : κ} {v : ν} {l : List (κ × ν)} (h : k ≠ k') :
    ((k', v) :: l).lookup k = l.lookup k := by
  rw [List.lookup_cons]
  have : (k == k') = false := by simpa using h
  rw [this]

/-- Writes to other keys leave the value last written to `k`. -/
theorem lookup_append_of_not {k : κ} {n l : List (κ × ν)} (h : ∀ p ∈ n, p.1 ≠ k) :
    (n ++ l).lookup k = l.lookup k := by
  induction n with
  | nil => rfl
  | cons p n ih =>
    have hp : k ≠ p.1 := Ne.symm (h p List.mem_cons_self)
    rw [List.cons_append, lookup_cons_ne hp]
    exact ih fun q hq => h q (List.mem_cons_of_mem p hq)

end History
