import Mathlib.Algebra.BigOperators.Group.List.Basic
import Mathlib.Algebra.Ring.Int.Defs
import TrusteeBank.Lib.Run

/-!
# Tallies of a log

A log is a list of records, each with a signed amount. The tally of some of them is the sum of
their amounts. It adds up over parts of the log (`tally_append`), splits by a further test
(`tally_split`), and is determined by the records it counts (`tally_congr`).

A machine that logs records as it runs moves a quantity by their tally as soon as every step does
(`tally_run`).
-/

set_option autoImplicit false

namespace Lib

universe u

section

variable {α : Type u} {amount : α → ℤ} {p q : α → Bool}

/-- The sum of the amounts of the records that pass the test. -/
def tally (amount : α → ℤ) (p : α → Bool) (log : List α) : ℤ := ((log.filter p).map amount).sum

@[simp] theorem tally_nil : tally amount p [] = 0 := rfl

theorem tally_cons (a : α) (log : List α) :
    tally amount p (a :: log) = (if p a then amount a else 0) + tally amount p log := by
  unfold tally
  by_cases h : p a <;> simp [h]

theorem tally_append (log log' : List α) :
    tally amount p (log ++ log') = tally amount p log + tally amount p log' := by
  unfold tally
  rw [List.filter_append, List.map_append, List.sum_append]

/-- Tests that agree on the log have the same tally. -/
theorem tally_congr {log : List α} (hp : ∀ a ∈ log, p a = q a) :
    tally amount p log = tally amount q log := by
  unfold tally
  rw [List.filter_congr hp]

/-- A tally is split by a further test. -/
theorem tally_split (q : α → Bool) (log : List α) :
    tally amount p log =
      tally amount (fun a => p a && q a) log + tally amount (fun a => p a && !q a) log := by
  induction log with
  | nil => rfl
  | cons a log ih =>
    rw [tally_cons, tally_cons, tally_cons, ih]
    by_cases hp : p a <;> by_cases hq : q a <;> simp [hp, hq] <;> omega

end

/-! ## Logs of a machine -/

section

variable {σ ο α : Type} {step : σ → ο → σ} {record : σ → ο → List α}

/-- **The tally rule.** What every step moves by the tally of its records, a run moves by the tally
of its log. -/
theorem tally_run {amount : α → ℤ} {p : α → Bool} (x : σ → ℤ)
    (hstep : ∀ s o, x (step s o) = x s + tally amount p (record s o)) (s : σ) (os : List ο) :
    x (os.foldl step s) = x s + tally amount p (logged step record s os) := by
  induction os generalizing s with
  | nil => exact (add_zero _).symm
  | cons o os ih =>
    calc x (os.foldl step (step s o))
        = x (step s o) + tally amount p (logged step record (step s o) os) := ih (step s o)
      _ = x s + (tally amount p (record s o) +
            tally amount p (logged step record (step s o) os)) := by rw [hstep, add_assoc]
      _ = x s + tally amount p (logged step record s (o :: os)) := by rw [← tally_append]; rfl

end

end Lib
