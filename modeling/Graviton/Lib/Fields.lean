/-
  Graviton.Lib.Fields — bit fields of a word.

  A field is a mask `m`, and what it holds in the word `x` is `x &&& m`. A read-modify-write
  clears the bits of `c` and sets those of `s`; a word read back from a device takes the bits
  of `f` from the device. What `x` holds of the bits `c` and `y` does not is `x &&& ~~~y &&& c`.
-/
import Mathlib.Init

namespace Fields

variable {w : Nat} {x y c s f m : BitVec w}

theorem not_and_of_disjoint (h : m &&& c = 0) : ~~~c &&& m = m := by
  apply BitVec.eq_of_getElem_eq
  intro i hi
  have hb := congrArg (fun v => v.getLsbD i) h
  simp [BitVec.getLsbD_eq_getElem, hi] at hb ⊢
  grind

/-- A field inside the cleared bits holds what was set. -/
theorem modify_in (h : m &&& c = m) : (x &&& ~~~c ||| s) &&& m = s &&& m := by
  have hm : ~~~c &&& m = 0 := by
    rw [← h, BitVec.and_comm m c, ← BitVec.and_assoc, BitVec.not_and_self]
    simp
  rw [BitVec.and_or_distrib_right, BitVec.and_assoc, hm]
  simp

/-- A field apart from the bits cleared and set holds what it held. -/
theorem modify_out (hc : m &&& c = 0) (hs : s &&& m = 0) : (x &&& ~~~c ||| s) &&& m = x &&& m := by
  rw [BitVec.and_or_distrib_right, BitVec.and_assoc, not_and_of_disjoint hc, hs]
  simp

/-- A field apart from the bits the device answers for reads as written. -/
theorem read_out (h : m &&& f = 0) : (x &&& ~~~f ||| y &&& f) &&& m = x &&& m :=
  modify_out h (by rw [BitVec.and_assoc, BitVec.and_comm f m, h]; simp)

/-- A field inside them reads as the device answers. -/
theorem read_in (h : f &&& m = m) : (x &&& ~~~f ||| y &&& f) &&& m = y &&& m := by
  rw [modify_in (by rw [BitVec.and_comm, h]), BitVec.and_assoc, h]

/-- A field apart from what a word lost is kept. -/
theorem kept_of_lost (h : x &&& ~~~y &&& c = 0) (hm : c &&& m = m) (hx : x &&& m ≠ 0) : y &&& m ≠ 0 := by
  intro hy
  refine hx ?_
  apply BitVec.eq_of_getElem_eq
  intro i hi
  have h1 := congrArg (fun v => v.getLsbD i) h
  have h2 := congrArg (fun v => v.getLsbD i) hm
  have h3 := congrArg (fun v => v.getLsbD i) hy
  simp [BitVec.getLsbD_eq_getElem, hi] at h1 h2 h3 ⊢
  grind

/-- What a word lost shows in its fields. -/
theorem lost_fields (h : f &&& m = m) : x &&& f &&& ~~~(y &&& f) &&& m = x &&& ~~~y &&& m := by
  apply BitVec.eq_of_getElem_eq
  intro i hi
  have h1 := congrArg (fun v => v.getLsbD i) h
  simp [BitVec.getLsbD_eq_getElem, hi] at h1 ⊢
  cases hm : m[i] with
  | false => simp
  | true => simp [h1 hm]

/-- Masked, a word loses the bits outside the mask. -/
theorem lost_and (x : BitVec w) (h : c &&& m = c) : x &&& ~~~(x &&& m) &&& c = 0 := by
  apply BitVec.eq_of_getElem_eq
  intro i hi
  have h1 := congrArg (fun v => v.getLsbD i) h
  simp [BitVec.getLsbD_eq_getElem, hi] at h1 ⊢
  grind

theorem lost_or (x m c : BitVec w) : x &&& ~~~(x ||| m) &&& c = 0 := by
  apply BitVec.eq_of_getElem_eq
  intro i hi
  simp
  grind

/-! ## Masks -/

theorem and_mask (x : BitVec w) {m k k' : BitVec w} (h : m &&& k = k') : x &&& m &&& k = x &&& k' := by
  rw [BitVec.and_assoc, h]

theorem and_clears (x : BitVec w) {m k : BitVec w} (h : m &&& k = 0) : x &&& m &&& k = 0 :=
  (and_mask x h).trans BitVec.and_zero

theorem or_keeps (x : BitVec w) {m k : BitVec w} (h : m &&& k = k) : (x ||| m) &&& k = k := by
  rw [BitVec.and_or_distrib_right, h]
  apply BitVec.eq_of_getElem_eq
  simp

theorem and_or_self (x : BitVec w) {m : BitVec w} : x &&& m ||| m = m := by
  apply BitVec.eq_of_getElem_eq
  intro i hi
  simp

end Fields
