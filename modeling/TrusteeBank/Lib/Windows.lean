import Mathlib.Data.List.Basic
import Mathlib.Logic.Function.Basic

/-!
# Counters that are dropped after their window

A store counts hits by key. Each key has a window in which it is hit, and the store may drop what it
has counted of a key once the window is over: on a clock of its own, or when it comes across the
counter again. As long as it drops nothing earlier, no one who hits keys in their windows can tell
it from counters that are never dropped.

* `WindowCounter`: a store, and what it has to keep while the window of a key is open;
* `counts_eq`: at times that do not decrease, its answers are those of plain counters;
* `getElem?_ordinals`: the answer of a plain counter is the number of hits so far.
-/

set_option autoImplicit false

namespace Lib

section

variable {κ : Type} [DecidableEq κ]

/-- One more hit of a key. -/
def counted (n : κ → Nat) (k : κ) : κ → Nat := Function.update n k (n k + 1)

theorem counted_self (n : κ → Nat) (k : κ) : counted n k k = n k + 1 :=
  Function.update_self ..

theorem counted_of_ne {n : κ → Nat} {k j : κ} (h : j ≠ k) : counted n k j = n j :=
  Function.update_of_ne h ..

/-- The answers of counters that are never dropped. -/
def ordinals (n : κ → Nat) : List κ → List Nat
  | [] => []
  | k :: hits => (n k + 1) :: ordinals (counted n k) hits

/-- **A hit is answered with the number of hits of its key so far.** -/
theorem getElem?_ordinals (n : κ → Nat) (hits : List κ) (i : Nat) :
    (ordinals n hits)[i]? = hits[i]?.map fun k =>
      n k + ((hits.take i).countP fun j => j = k) + 1 := by
  induction hits generalizing n i with
  | nil => simp [ordinals]
  | cons k hits ih =>
    cases i with
    | zero => simp [ordinals]
    | succ i =>
      rw [ordinals, List.getElem?_cons_succ, List.getElem?_cons_succ, ih]
      refine congrArg (fun f => hits[i]?.map f) (funext fun j => ?_)
      rw [List.take_succ_cons, List.countP_cons]
      by_cases hj : j = k
      · rw [hj, counted_self, if_pos (decide_eq_true rfl)]
        omega
      · rw [counted_of_ne hj, if_neg fun h => hj (of_decide_eq_true h).symm]
        rfl

end

/-- A store of counters. `Counts t n s` says that at the time `t` the state `s` has counted `n k`
hits of every key `k` whose window is not over. -/
structure WindowCounter (κ τ σ : Type) [DecidableEq κ] [LE τ] where
  /-- The window of a key. -/
  Open : κ → τ → Prop
  /-- The hit of a key, with the count that is answered. -/
  hit : κ → τ → σ → Nat × σ
  Counts : τ → (κ → Nat) → σ → Prop
  hit_count {k : κ} {t t' : τ} {n : κ → Nat} {s : σ} (h : Counts t n s) (hle : t ≤ t')
    (hopen : Open k t') : (hit k t' s).1 = n k + 1
  counts_hit {k : κ} {t t' : τ} {n : κ → Nat} {s : σ} (h : Counts t n s) (hle : t ≤ t')
    (hopen : Open k t') : Counts t' (counted n k) (hit k t' s).2

namespace WindowCounter

variable {κ τ σ : Type} [DecidableEq κ] [LE τ] (W : WindowCounter κ τ σ)

/-- The counts that are answered. -/
def counts (s : σ) : List (κ × τ) → List Nat
  | [] => []
  | (k, t) :: hits => (W.hit k t s).1 :: counts (W.hit k t s).2 hits

/-- **No one can tell the store from counters that are never dropped**, who hits every key in its
window at times that do not decrease. -/
theorem counts_eq {t : τ} {n : κ → Nat} {s : σ} (h : W.Counts t n s) {hits : List (κ × τ)}
    (hfrom : ∀ hit ∈ hits, t ≤ hit.2) (hsorted : hits.Pairwise fun a b => a.2 ≤ b.2)
    (hopen : ∀ hit ∈ hits, W.Open hit.1 hit.2) :
    W.counts s hits = ordinals n (hits.map Prod.fst) := by
  induction hits generalizing t n s with
  | nil => rfl
  | cons hit hits ih =>
    obtain ⟨k, t'⟩ := hit
    obtain ⟨hle, -⟩ := List.forall_mem_cons.mp hfrom
    obtain ⟨hnext, hsorted⟩ := List.pairwise_cons.mp hsorted
    obtain ⟨hhit, hopen⟩ := List.forall_mem_cons.mp hopen
    rw [counts, W.hit_count h hle hhit, List.map_cons, ordinals,
      ih (W.counts_hit h hle hhit) hnext hsorted hopen]

end WindowCounter

end Lib
