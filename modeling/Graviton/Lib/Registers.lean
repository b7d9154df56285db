/-
  Graviton.Lib.Registers — independent register files, some of whose registers change on
  their own.

  A `Files` holds one file of registers for each device. `Run volatile f as g` says that
  the stores and loads `as`, in this order, took `f` to `g`, every load returning what its
  register held; between two of them a volatile register may change to anything.

  What a client relies on: a register that is not volatile holds what was last stored in it
  (`Run.holds`), and a load returns that (`Run.loads`).
-/
import Mathlib.Init

namespace Registers

variable {κ α ν : Type} [DecidableEq κ] [DecidableEq α]

abbrev Files (κ α ν : Type) := κ → α → ν

inductive Action (κ α ν : Type) where
  | store (c : κ) (a : α) (v : ν)
  | load (c : κ) (a : α) (v : ν)
  deriving DecidableEq

def put (f : Files κ α ν) (c : κ) (a : α) (v : ν) : Files κ α ν := fun d b => if d = c ∧ b = a then v else f d b

@[simp] theorem put_same (f : Files κ α ν) (c : κ) (a : α) (v : ν) : put f c a v c a = v := if_pos ⟨rfl, rfl⟩

theorem put_of_not (f : Files κ α ν) {c d : κ} {a b : α} (v : ν) (h : ¬ (d = c ∧ b = a)) : put f c a v d b = f d b :=
  if_neg h

/-- `g` is `f` but for volatile registers. -/
def Drift (volatile : κ → α → Prop) (f g : Files κ α ν) : Prop := ∀ c a, ¬ volatile c a → g c a = f c a

inductive Run (volatile : κ → α → Prop) : Files κ α ν → List (Action κ α ν) → Files κ α ν → Prop
  | done (f : Files κ α ν) : Run volatile f [] f
  | drift {f g h : Files κ α ν} {as : List (Action κ α ν)} :
      Drift volatile f g → Run volatile g as h → Run volatile f as h
  | store {f h : Files κ α ν} {as : List (Action κ α ν)} (c : κ) (a : α) (v : ν) :
      Run volatile (put f c a v) as h → Run volatile f (.store c a v :: as) h
  | load {f h : Files κ α ν} {as : List (Action κ α ν)} (c : κ) (a : α) :
      Run volatile f as h → Run volatile f (.load c a (f c a) :: as) h

variable {volatile : κ → α → Prop} {f g h : Files κ α ν} {as bs : List (Action κ α ν)}

theorem Run.append (hf : Run volatile f as g) (hg : Run volatile g bs h) : Run volatile f (as ++ bs) h := by
  induction hf with
  | done f => exact hg
  | drift hd _ ih => exact .drift hd (ih hg)
  | store c a v _ ih => exact .store c a v (ih hg)
  | load c a _ ih => exact .load c a (ih hg)

theorem Run.of_drift (hd : Drift volatile f g) : Run volatile f [] g := .drift hd (.done g)

/-- What `as` leaves in register `a` of `c`, if it held `d` before. -/
def last (as : List (Action κ α ν)) (c : κ) (a : α) (d : ν) : ν :=
  match as with
  | [] => d
  | .store c' a' v :: as => last as c a (if c = c' ∧ a = a' then v else d)
  | .load _ _ _ :: as => last as c a d

/-- A register that is not volatile holds what was last stored in it. -/
theorem Run.holds (hr : Run volatile f as g) {c : κ} {a : α} (hv : ¬ volatile c a) : g c a = last as c a (f c a) := by
  induction hr with
  | done f => rfl
  | drift hd _ ih => rw [ih, hd c a hv]
  | store c' a' v _ ih => exact ih
  | load c' a' _ ih => exact ih

/-- A run can be cut between two of its actions. -/
theorem Run.split (hr : Run volatile f (as ++ bs) h) : ∃ g, Run volatile f as g ∧ Run volatile g bs h := by
  generalize hcs : as ++ bs = cs at hr
  induction hr generalizing as with
  | done f =>
    obtain ⟨rfl, rfl⟩ := List.append_eq_nil_iff.mp hcs
    exact ⟨f, .done f, .done f⟩
  | drift hd _ ih =>
    obtain ⟨g, h1, h2⟩ := ih hcs
    exact ⟨g, .drift hd h1, h2⟩
  | @store f h cs c a v hr ih =>
    rcases List.append_eq_cons_iff.mp hcs with ⟨rfl, rfl⟩ | ⟨as', rfl, rfl⟩
    · exact ⟨f, .done f, .store c a v hr⟩
    · obtain ⟨g, h1, h2⟩ := ih rfl
      exact ⟨g, .store c a v h1, h2⟩
  | @load f h cs c a hr ih =>
    rcases List.append_eq_cons_iff.mp hcs with ⟨rfl, rfl⟩ | ⟨as', rfl, rfl⟩
    · exact ⟨f, .done f, .load c a hr⟩
    · obtain ⟨g, h1, h2⟩ := ih rfl
      exact ⟨g, .load c a h1, h2⟩

/-- A load of a register that is not volatile returns what was last stored in it. -/
theorem Run.loads {c : κ} {a : α} {v : ν} (hr : Run volatile f (as ++ .load c a v :: bs) h) (hv : ¬ volatile c a) :
    v = last as c a (f c a) := by
  obtain ⟨g, h1, h2⟩ := hr.split
  rw [← h1.holds hv]
  clear h1 hr
  generalize hcs : Action.load c a v :: bs = cs at h2
  induction h2 with
  | done f => cases hcs
  | drift hd _ ih => rw [ih hcs, hd c a hv]
  | store => cases hcs
  | load c' a' _ _ => cases hcs; rfl

end Registers
