import Mathlib.Tactic.SplitIfs

/-!
# Calls: programs made of atomic steps on a shared state

A `Call` is one request being served. It is a sequence of atomic steps on a state `σ`, each with
a label in `κ`, and between two steps the call holds only what it has read so far. A step is a
state change together with a continuation that sees the state *before* the change, so a read, a
write and a whole transaction are all one step. A call ends in `Except ε α`.

The same call has two meanings. `Call.run` serves it alone. In `Lib.Interleave` several calls
share the state and their steps alternate.

* `run_bind`, `run_read`, `run_query`: what a call does when it runs alone;
* `run_onFst`: a call on a part of the state leaves the rest as it is;
* `Keeps.run`: a view that no step changes is not changed by the run.
-/

set_option autoImplicit false

namespace Lib

/-- A request being served: finished, or about to take one atomic step. -/
inductive Call (κ σ ε α : Type) where
  | done (r : Except ε α)
  | step (q : κ) (eff : σ → σ) (next : σ → Call κ σ ε α)

namespace Call

variable {κ σ ε α β τ : Type}

/-- Sequencing: an error ends the call. -/
def bind : Call κ σ ε α → (α → Call κ σ ε β) → Call κ σ ε β
  | done (.ok a), f => f a
  | done (.error e), _ => done (.error e)
  | step q eff next, f => step q eff fun s => (next s).bind f

/-- Handle the error a call ends in. -/
def tryCatch : Call κ σ ε α → (ε → Call κ σ ε α) → Call κ σ ε α
  | done (.ok a), _ => done (.ok a)
  | done (.error e), h => h e
  | step q eff next, h => step q eff fun s => (next s).tryCatch h

instance : Monad (Call κ σ ε) where
  pure a := done (.ok a)
  bind := bind

instance : MonadExceptOf ε (Call κ σ ε) where
  throw e := done (.error e)
  tryCatch := tryCatch

instance : MonadLift (Except ε) (Call κ σ ε) := ⟨done⟩

/-- One step that only reads. -/
def read (q : κ) (g : σ → α) : Call κ σ ε α := step q id fun s => done (.ok (g s))

/-- One step that runs `f` as a transaction: on an error the state is left as it was. -/
def query (q : κ) (f : StateT σ (Except ε) α) : Call κ σ ε α :=
  step q (fun s => match f s with | .ok (_, s') => s' | .error _ => s)
    fun s => done ((f s).map Prod.fst)

/-- Throw `e` if `c` holds. -/
def throwIf (c : Prop) [Decidable c] (e : ε) : Call κ σ ε Unit :=
  if c then done (.error e) else done (.ok ())

/-- Forget what a call returns. -/
def void (x : Call κ σ ε α) : Call κ σ ε Unit := x >>= fun _ => pure ()

@[simp] theorem done_ok_bind (a : α) (f : α → Call κ σ ε β) : (done (.ok a) >>= f) = f a := rfl

@[simp] theorem done_error_bind (e : ε) (f : α → Call κ σ ε β) :
    (done (.error e) >>= f) = done (.error e) := rfl

@[simp] theorem step_bind (q : κ) (eff : σ → σ) (next : σ → Call κ σ ε α)
    (f : α → Call κ σ ε β) : (step q eff next >>= f) = step q eff fun s => next s >>= f := rfl

@[simp] theorem lift_ok_bind (a : α) (f : α → Call κ σ ε β) :
    ((MonadLiftT.monadLift (Except.ok a : Except ε α) : Call κ σ ε α) >>= f) = f a := rfl

theorem bind_pure' (x : Call κ σ ε α) : (x >>= fun a => (done (.ok a) : Call κ σ ε α)) = x := by
  induction x with
  | done r => cases r <;> rfl
  | step q eff next ih => rw [step_bind, funext ih]

theorem bind_assoc' {γ : Type} (x : Call κ σ ε α) (f : α → Call κ σ ε β)
    (g : β → Call κ σ ε γ) : (x >>= f) >>= g = x >>= fun a => f a >>= g := by
  induction x with
  | done r => cases r <;> rfl
  | step q eff next ih => simp only [step_bind, ih]

instance : LawfulMonad (Call κ σ ε) :=
  LawfulMonad.mk' _ bind_pure' (fun _ _ => rfl) bind_assoc'

/-! ## Running alone -/

/-- Serve a call with no other call in between: its result and the state it leaves. -/
def run : Call κ σ ε α → σ → Except ε α × σ
  | done r, s => (r, s)
  | step _ eff next, s => (next s).run (eff s)

@[simp] theorem run_done (r : Except ε α) (s : σ) :
    (done r : Call κ σ ε α).run s = (r, s) := rfl

@[simp] theorem run_pure (a : α) (s : σ) :
    (pure a : Call κ σ ε α).run s = (.ok a, s) := rfl

@[simp] theorem run_throw (e : ε) (s : σ) :
    (throw e : Call κ σ ε α).run s = (.error e, s) := rfl

@[simp] theorem run_lift (r : Except ε α) (s : σ) :
    (MonadLiftT.monadLift r : Call κ σ ε α).run s = (r, s) := rfl

@[simp] theorem run_read (q : κ) (g : σ → α) (s : σ) :
    (read q g : Call κ σ ε α).run s = (.ok (g s), s) := rfl

theorem run_query (q : κ) (f : StateT σ (Except ε) α) (s : σ) :
    (query q f).run s = match f s with
      | .ok (a, s') => (.ok a, s')
      | .error e => (.error e, s) := by
  simp only [query, run]
  cases f s <;> rfl

theorem run_bind (x : Call κ σ ε α) (f : α → Call κ σ ε β) (s : σ) :
    (x >>= f).run s = match x.run s with
      | (.ok a, s') => (f a).run s'
      | (.error e, s') => (.error e, s') := by
  induction x generalizing s with
  | done r => cases r <;> rfl
  | step q eff next ih => exact ih s (eff s)

theorem run_tryCatch (x : Call κ σ ε α) (h : ε → Call κ σ ε α) (s : σ) :
    (x.tryCatch h).run s = match x.run s with
      | (.ok a, s') => (.ok a, s')
      | (.error e, s') => (h e).run s' := by
  induction x generalizing s with
  | done r => cases r <;> rfl
  | step q eff next ih => exact ih s (eff s)

@[simp] theorem run_throwIf (c : Prop) [Decidable c] (e : ε) (s : σ) :
    (throwIf c e : Call κ σ ε Unit).run s = (if c then .error e else .ok (), s) := by
  unfold throwIf
  split_ifs <;> rfl

@[simp] theorem run_void_snd (x : Call κ σ ε α) (s : σ) : (x.void.run s).2 = (x.run s).2 := by
  unfold void
  rw [run_bind]
  rcases x.run s with ⟨_ | _, _⟩ <;> rfl

/-- A call whose result is forgotten succeeds only if it does. -/
theorem void_ok {x : Call κ σ ε α} {s : σ} (h : (x.void.run s).1 = .ok ()) :
    ∃ a, (x.run s).1 = .ok a := by
  unfold void at h
  rw [run_bind] at h
  rcases hx : x.run s with ⟨e | a, s'⟩
  · rw [hx] at h
    cases h
  · exact ⟨a, rfl⟩

theorem void_ok_iff {x : Call κ σ ε α} {s : σ} :
    (x.void.run s).1 = .ok () ↔ ∃ a, (x.run s).1 = .ok a := by
  refine ⟨void_ok, fun ⟨a, ha⟩ => ?_⟩
  unfold void
  rw [run_bind]
  rcases hx : x.run s with ⟨e | a', s'⟩
  · rw [hx] at ha
    cases ha
  · rfl

theorem run_read_bind (q : κ) (g : σ → α) (f : α → Call κ σ ε β) (s : σ) :
    (read q g >>= f).run s = (f (g s)).run s := rfl

theorem run_throwIf_bind (c : Prop) [Decidable c] (e : ε) (f : Unit → Call κ σ ε β) (s : σ) :
    (throwIf c e >>= f).run s = if c then (.error e, s) else (f ()).run s := by
  unfold throwIf
  split_ifs <;> rfl

theorem run_lift_bind (r : Except ε α) (f : α → Call κ σ ε β) (s : σ) :
    ((MonadLiftT.monadLift r : Call κ σ ε α) >>= f).run s = match r with
      | .ok a => (f a).run s
      | .error e => (.error e, s) := by
  cases r <;> rfl

/-! ## A part of the state -/

/-- A call on the first component of the state, its steps relabelled. -/
def onFst {κ' ρ : Type} (label : κ → κ') : Call κ σ ε α → Call κ' (σ × ρ) ε α
  | done r => done r
  | step q eff next => step (label q) (fun s => (eff s.1, s.2)) fun s => (next s.1).onFst label

theorem run_onFst {κ' ρ : Type} (label : κ → κ') (x : Call κ σ ε α) (s : σ) (t : ρ) :
    (x.onFst label).run (s, t) = ((x.run s).1, (x.run s).2, t) := by
  induction x generalizing s with
  | done r => rfl
  | step q eff next ih => exact ih s (eff s)

/-! ## Views no step changes -/

/-- No step of the call changes the view `g` of the state. -/
def Keeps (g : σ → τ) : Call κ σ ε α → Prop
  | done _ => True
  | step _ eff next => (∀ s, g (eff s) = g s) ∧ ∀ s, (next s).Keeps g

/-- No step of the call writes. -/
abbrev ReadOnly (x : Call κ σ ε α) : Prop := x.Keeps (id : σ → σ)

theorem Keeps.run {g : σ → τ} {x : Call κ σ ε α} (h : x.Keeps g) (s : σ) :
    g (x.run s).2 = g s := by
  induction x generalizing s with
  | done r => rfl
  | step q eff next ih => exact (ih s (h.2 s) (eff s)).trans (h.1 s)

theorem ReadOnly.run {x : Call κ σ ε α} (h : x.ReadOnly) (s : σ) : (x.run s).2 = s :=
  Keeps.run h s

theorem ReadOnly.keeps {x : Call κ σ ε α} (h : x.ReadOnly) (g : σ → τ) : x.Keeps g := by
  induction x with
  | done r => trivial
  | step q eff next ih => exact ⟨fun s => congrArg g (h.1 s), fun s => ih s (h.2 s)⟩

theorem Keeps.bind {g : σ → τ} {x : Call κ σ ε α} {f : α → Call κ σ ε β} (hx : x.Keeps g)
    (hf : ∀ a, (f a).Keeps g) : (x >>= f).Keeps g := by
  induction x with
  | done r =>
    cases r with
    | error e => trivial
    | ok a => exact hf a
  | step q eff next ih => exact ⟨hx.1, fun s => ih s (hx.2 s)⟩

theorem Keeps.tryCatch {g : σ → τ} {x : Call κ σ ε α} {h : ε → Call κ σ ε α} (hx : x.Keeps g)
    (hh : ∀ e, (h e).Keeps g) : (x.tryCatch h).Keeps g := by
  induction x with
  | done r =>
    cases r with
    | error e => exact hh e
    | ok a => trivial
  | step q eff next ih => exact ⟨hx.1, fun s => ih s (hx.2 s)⟩

/-- A view of the first component is kept by a call on it that keeps the view. -/
theorem Keeps.onFst {κ' ρ : Type} {g : σ → τ} {x : Call κ σ ε α} (h : x.Keeps g) (label : κ → κ') :
    (x.onFst label : Call κ' (σ × ρ) ε α).Keeps fun s => g s.1 := by
  induction x with
  | done r => trivial
  | step q eff next ih => exact ⟨fun s => h.1 s.1, fun s => ih s.1 (h.2 s.1)⟩

@[simp] theorem keeps_done (g : σ → τ) (r : Except ε α) : (done r : Call κ σ ε α).Keeps g :=
  trivial

@[simp] theorem keeps_pure (g : σ → τ) (a : α) : (pure a : Call κ σ ε α).Keeps g := trivial

@[simp] theorem keeps_throw (g : σ → τ) (e : ε) : (throw e : Call κ σ ε α).Keeps g := trivial

@[simp] theorem keeps_lift (g : σ → τ) (r : Except ε α) :
    (MonadLiftT.monadLift r : Call κ σ ε α).Keeps g := trivial

@[simp] theorem keeps_read (g : σ → τ) (q : κ) (f : σ → α) :
    (read q f : Call κ σ ε α).Keeps g := ⟨fun _ => rfl, fun _ => trivial⟩

@[simp] theorem keeps_throwIf (g : σ → τ) (c : Prop) [Decidable c] (e : ε) :
    (throwIf c e : Call κ σ ε Unit).Keeps g := by
  unfold throwIf
  split_ifs <;> trivial

theorem keeps_query {g : σ → τ} {q : κ} {f : StateT σ (Except ε) α}
    (h : ∀ s a s', f s = .ok (a, s') → g s' = g s) : (query q f : Call κ σ ε α).Keeps g := by
  refine ⟨fun s => ?_, fun _ => trivial⟩
  dsimp only
  split
  · next a s' hs => exact h s a s' hs
  · rfl

end Call

end Lib
