import Mathlib.Init

/-!
# Transducers

A transducer reads the symbols of a text one by one, and writes some symbols for each. What it
writes for a text is determined piece by piece (`Reads`).

* `Reads.append`: one part is read after the other;
* `Reads.run`: what is written for the whole text.
-/

set_option autoImplicit false

namespace Lib

/-- A deterministic machine with states `σ`, from symbols `α` to symbols `β`. -/
structure Transducer (σ α β : Type) where
  /-- What is written for a symbol, and the state it leads to. -/
  feed : σ → α → List β × σ
  /-- What is written at the end of the text. -/
  finish : σ → List β

namespace Transducer

variable {σ α β : Type} {T : Transducer σ α β}

/-- What is written for a text, and the state it leads to. -/
def feedAll (T : Transducer σ α β) : σ → List α → List β × σ
  | s, [] => ([], s)
  | s, x :: xs =>
    let (ys, s') := T.feed s x
    let (zs, s'') := T.feedAll s' xs
    (ys ++ zs, s'')

/-- What is written for a text up to its end. -/
def run (T : Transducer σ α β) (s : σ) (xs : List α) : List β :=
  let (ys, s') := T.feedAll s xs
  ys ++ T.finish s'

/-- The text `xs` is written as `ys`, and leads from `s` to `s'`. -/
def Reads (T : Transducer σ α β) (s : σ) (xs : List α) (ys : List β) (s' : σ) : Prop :=
  T.feedAll s xs = (ys, s')

theorem feedAll_append (s : σ) (xs xs' : List α) :
    T.feedAll s (xs ++ xs') =
      ((T.feedAll s xs).1 ++ (T.feedAll (T.feedAll s xs).2 xs').1,
        (T.feedAll (T.feedAll s xs).2 xs').2) := by
  induction xs generalizing s with
  | nil => rfl
  | cons x xs ih =>
    simp only [List.cons_append, feedAll, ih, List.append_assoc]

theorem Reads.nil (s : σ) : T.Reads s [] [] s := rfl

theorem Reads.cons {s s' s'' : σ} {x : α} {xs : List α} {ys zs : List β}
    (hx : T.feed s x = (ys, s')) (hxs : T.Reads s' xs zs s'') :
    T.Reads s (x :: xs) (ys ++ zs) s'' := by
  unfold Reads at hxs ⊢
  simp only [feedAll, hx, hxs]

/-- A symbol for which nothing is written. -/
theorem Reads.skip {s s' s'' : σ} {x : α} {xs : List α} {zs : List β}
    (hx : T.feed s x = ([], s')) (hxs : T.Reads s' xs zs s'') : T.Reads s (x :: xs) zs s'' :=
  Reads.cons hx hxs

theorem Reads.single {s s' : σ} {x : α} {ys : List β} (hx : T.feed s x = (ys, s')) :
    T.Reads s [x] ys s' := by
  have h := Reads.cons hx (Reads.nil s')
  rwa [List.append_nil] at h

/-- **One part after the other.** -/
theorem Reads.append {s s' s'' : σ} {xs xs' : List α} {ys ys' : List β}
    (h : T.Reads s xs ys s') (h' : T.Reads s' xs' ys' s'') :
    T.Reads s (xs ++ xs') (ys ++ ys') s'' := by
  unfold Reads at h h' ⊢
  rw [feedAll_append, h, h']

theorem Reads.run {s s' : σ} {xs : List α} {ys : List β} (h : T.Reads s xs ys s') :
    T.run s xs = ys ++ T.finish s' := by
  unfold Reads at h
  simp only [Transducer.run, h]

end Transducer

end Lib
