import Mathlib.Data.List.Forall2

/-!
# Systems that answer alike

A system answers a request and goes on in another state. If related states answer alike and stay
related, two systems answer every run of requests alike (`serve_simulates`).

Rows that correspond one to one are `List.Forall₂`. A search finds corresponding rows
(`forall₂_find?`), and rewriting both sides keeps the correspondence (`forall₂_map`).
-/

set_option autoImplicit false

universe u v w x

namespace Lib

section

variable {σ : Type u} {τ : Type v} {ι : Type w} {β : Type x}

/-- The answers to some requests, and the last state. -/
def serve (step : σ → ι → β × σ) (s : σ) : List ι → List β × σ
  | [] => ([], s)
  | i :: is =>
    let (b, s) := step s i
    let (bs, s) := serve step s is
    (b :: bs, s)

theorem serve_cons (step : σ → ι → β × σ) (s : σ) (i : ι) (is : List ι) :
    serve step s (i :: is) =
      ((step s i).1 :: (serve step (step s i).2 is).1, (serve step (step s i).2 is).2) := rfl

/-- One request, answered alike in related states. -/
def Alike (R : τ → σ → Prop) (spec : β × τ) (out : β × σ) : Prop :=
  out.1 = spec.1 ∧ R spec.2 out.2

theorem serve_simulates {R : τ → σ → Prop} {P : ι → Prop} {spec : τ → ι → β × τ}
    {step : σ → ι → β × σ} (hstep : ∀ t s i, R t s → P i → Alike R (spec t i) (step s i))
    {t : τ} {s : σ} (h : R t s) {is : List ι} (his : ∀ i ∈ is, P i) :
    Alike R (serve spec t is) (serve step s is) := by
  induction is generalizing t s with
  | nil => exact ⟨rfl, h⟩
  | cons i is ih =>
    obtain ⟨hi, hrest⟩ := List.forall_mem_cons.mp his
    obtain ⟨hanswer, hnext⟩ := hstep t s i h hi
    obtain ⟨hanswers, hlast⟩ := ih hnext hrest
    rw [serve_cons, serve_cons]
    exact ⟨congrArg₂ List.cons hanswer hanswers, hlast⟩

end

section

variable {α : Type u} {β : Type v} {R : α → β → Prop} {as : List α} {bs : List β}

theorem forall₂_find? (h : List.Forall₂ R as bs) {p : α → Bool} {q : β → Bool}
    (hpq : ∀ a b, R a b → p a = q b) : Option.Rel R (as.find? p) (bs.find? q) := by
  induction h with
  | nil => exact .none
  | @cons a b as bs hab _ ih =>
    rw [List.find?_cons, List.find?_cons, hpq a b hab]
    cases q b with
    | true => exact .some hab
    | false => exact ih

theorem forall₂_any (h : List.Forall₂ R as bs) {p : α → Bool} {q : β → Bool}
    (hpq : ∀ a b, R a b → p a = q b) : as.any p = bs.any q := by
  induction h with
  | nil => rfl
  | @cons a b as bs hab _ ih => rw [List.any_cons, List.any_cons, hpq a b hab, ih]

theorem forall₂_map {f : α → α} {g : β → β} (h : List.Forall₂ R as bs)
    (hfg : ∀ a b, R a b → R (f a) (g b)) : List.Forall₂ R (as.map f) (bs.map g) := by
  rw [List.forall₂_map_left_iff, List.forall₂_map_right_iff]
  exact h.imp hfg

end

end Lib
