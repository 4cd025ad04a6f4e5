import Mathlib.Algebra.BigOperators.Group.Finset.Piecewise
import Mathlib.Algebra.BigOperators.Group.List.Basic
import Mathlib.Tactic.SplitIfs

/-!
# Journals of signed lines

A journal is a list of lines, each adding a signed amount to one account. The amounts live in any
commutative group, and nothing is assumed of the accounts. The net of an account is the sum of its
lines, and an entry that moves an amount from one account to another changes exactly those two
nets (`net_move`). The nets of a set of accounts add up to the lines on them (`sum_net`).
-/

set_option autoImplicit false

namespace Lib

universe u v

/-- A signed amount on an account. -/
structure Line (α : Type u) (M : Type v) where
  account : α
  amount : M

variable {α : Type u} {M : Type v} [AddCommGroup M]

/-- The lines that move `m` out of `source` into `target`. -/
def move (target source : α) (m : M) : List (Line α M) := [⟨target, m⟩, ⟨source, -m⟩]

variable [DecidableEq α]

/-- The sum of the lines of an account. -/
def net (ls : List (Line α M)) (a : α) : M :=
  ((ls.filter fun l => l.account = a).map Line.amount).sum

@[simp] theorem net_nil (a : α) : net ([] : List (Line α M)) a = 0 := rfl

theorem net_cons (l : Line α M) (ls : List (Line α M)) (a : α) :
    net (l :: ls) a = (if l.account = a then l.amount else 0) + net ls a := by
  unfold net
  by_cases h : l.account = a <;> simp [h]

theorem net_append (ls ls' : List (Line α M)) (a : α) : net (ls ++ ls') a = net ls a + net ls' a := by
  simp [net]

theorem net_move (target source : α) (m : M) (a : α) :
    net (move target source m) a =
      (if target = a then m else 0) - (if source = a then m else 0) := by
  unfold move
  rw [net_cons, net_cons, net_nil, add_zero, sub_eq_add_neg]
  congr 1
  split_ifs <;> simp

/-- The nets of a set of accounts add up to the lines on these accounts. -/
theorem sum_net (ls : List (Line α M)) (s : Finset α) :
    ∑ a ∈ s, net ls a = ((ls.filter fun l => l.account ∈ s).map Line.amount).sum := by
  induction ls with
  | nil => simp
  | cons l ls ih =>
    simp only [net_cons, Finset.sum_add_distrib, ih, Finset.sum_ite_eq]
    by_cases h : l.account ∈ s <;> simp [h]

/-- An account no line is on has net zero. -/
theorem net_eq_zero {ls : List (Line α M)} {a : α} (h : ∀ l ∈ ls, l.account ≠ a) : net ls a = 0 := by
  have hnil : ls.filter (fun l => l.account = a) = [] := by
    rw [List.filter_eq_nil_iff]
    intro l hl
    simpa using h l hl
  rw [net, hnil, List.map_nil, List.sum_nil]

end Lib
