/-
  Graviton.Lib.Scan — a cursor that moves on while the item under it is live and starts
  over at 0 when it is not.

  `reached_live`: everything below a position the cursor reaches is live. So an item that is
  not live hides all items above it, and `covers_iff` is the consequence: among `N` items
  every live one is visited again within `N + 1` moves, from every reachable position, if
  and only if no live item lies above one that is not.
-/
import Mathlib.Logic.Function.Iterate

namespace Scan

variable (live : Nat → Prop) [DecidablePred live]

def next (k : Nat) : Nat := if live k then k + 1 else 0

variable {live}

/-- Counting round a circle of `c + 1` passes each of its numbers in every turn. -/
theorem visit_within {c k : Nat} (hk : k ≤ c) (n : Nat) : ∃ m, n ≤ m ∧ m ≤ n + c ∧ m % (c + 1) = k := by
  have hn := Nat.mod_add_div n (c + 1)
  have hlt : n % (c + 1) < c + 1 := Nat.mod_lt n (Nat.succ_pos c)
  by_cases hle : n % (c + 1) ≤ k
  · refine ⟨k + (c + 1) * (n / (c + 1)), by omega, by omega, ?_⟩
    rw [Nat.add_mul_mod_self_left, Nat.mod_eq_of_lt (by omega)]
  · refine ⟨k + (c + 1) * (n / (c + 1) + 1), by rw [Nat.mul_succ]; omega, by rw [Nat.mul_succ]; omega, ?_⟩
    rw [Nat.add_mul_mod_self_left, Nat.mod_eq_of_lt (by omega)]

theorem next_live {k : Nat} (h : live k) : next live k = k + 1 := if_pos h

theorem next_dead {k : Nat} (h : ¬ live k) : next live k = 0 := if_neg h

/-- Over live items the cursor climbs. -/
theorem climb {k : Nat} (m : Nat) (h : ∀ i, k ≤ i → i < k + m → live i) : (next live)^[m] k = k + m := by
  induction m with
  | zero => rfl
  | succ m ih =>
    rw [Function.iterate_succ_apply', ih fun i h1 h2 => h i h1 (by omega), next_live (h _ (by omega) (by omega))]
    omega

/-- Everything below a reached position is live. -/
theorem reached_live (n : Nat) : ∀ i, i < (next live)^[n] 0 → live i := by
  induction n with
  | zero => intro i hi; exact absurd hi (Nat.not_lt_zero i)
  | succ n ih =>
    intro i hi
    rw [Function.iterate_succ_apply'] at hi
    by_cases hl : live ((next live)^[n] 0)
    · rw [next_live hl] at hi
      by_cases he : i = (next live)^[n] 0
      · rw [he]; exact hl
      · exact ih i (by omega)
    · rw [next_dead hl] at hi
      exact absurd hi (Nat.not_lt_zero i)

section

variable {N : Nat} (hN : ∀ k, live k → k < N)

include hN

/-- The cursor climbs to the first item that is not live, and starts over. -/
theorem restarts {k : Nat} (hk : k ≤ N) : ∃ r, k + r ≤ N ∧ (next live)^[r + 1] k = 0 := by
  induction hd : N - k generalizing k with
  | zero =>
    have hdead : ¬ live k := fun h => by have := hN k h; omega
    exact ⟨0, by omega, next_dead hdead⟩
  | succ d ih =>
    by_cases hl : live k
    · obtain ⟨r, hr, h0⟩ := ih (k := k + 1) (by omega) (by omega)
      refine ⟨r + 1, by omega, ?_⟩
      rw [Function.iterate_succ_apply, next_live hl]
      exact h0
    · exact ⟨0, by omega, next_dead hl⟩

theorem reached_le (n : Nat) : (next live)^[n] 0 ≤ N := by
  by_cases h0 : (next live)^[n] 0 = 0
  · omega
  · have := hN _ (reached_live n ((next live)^[n] 0 - 1) (by omega))
    omega

/-- With every item below a live one live, each live item is visited within `N + 1` moves. -/
theorem covers (hdown : ∀ j k, j < k → live k → live j) (n : Nat) {j : Nat} (hj : live j) :
    ∃ m, m ≤ N ∧ (next live)^[m] ((next live)^[n] 0) = j := by
  have hle := reached_le hN n
  have hjN := hN j hj
  have hlow : ∀ i, i ≤ j → live i := fun i hi => by
    by_cases he : i = j
    · rw [he]; exact hj
    · exact hdown i j (by omega) hj
  by_cases hx : (next live)^[n] 0 ≤ j
  · refine ⟨j - (next live)^[n] 0, by omega, ?_⟩
    rw [climb _ fun i _ hi => hlow i (by omega)]
    omega
  · obtain ⟨r, hr, h0⟩ := restarts hN hle
    refine ⟨j + (r + 1), by omega, ?_⟩
    rw [Function.iterate_add_apply, h0, climb j fun i _ hi => hlow i (by omega)]
    omega

/-- Every live item is visited again and again exactly if no live item lies above a dead one. -/
theorem covers_iff : (∀ n j, live j → ∃ m, m ≤ N ∧ (next live)^[m] ((next live)^[n] 0) = j) ↔
    ∀ j k, j < k → live k → live j := by
  constructor
  · intro h j k hjk hk
    obtain ⟨m, _, hm⟩ := h 0 k hk
    exact reached_live (m + 0) j (by rw [Function.iterate_add_apply, hm]; exact hjk)
  · intro h n j hj
    exact covers hN h n hj

end

end Scan
