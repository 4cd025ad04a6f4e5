import TrusteeBank.Lib.Interleave
import Mathlib.Data.List.Induction

/-!
# A reader and a writer

A reader takes many atomic steps, changes nothing, and looks at one view of the state. A writer
changes this view in at most one of its steps, its commit. However their steps alternate, the
reader finds the view as it was in its first steps and as it is after the commit in the others.

* `Call.Reads`, `Call.ChangesOnce`: the two parties, with their sequencing rules;
* `Call.rest`: what is left of a reader after some steps;
* `Pool.crossing`: the commit comes after a number of the reader's steps, or not at all;
* `Pool.commit`: a step that changes the view is the commit;
* `Uncommitted.reply`, `Committed.reply`: what the reader returns.
-/

set_option autoImplicit false

namespace Lib

variable {κ σ τ ε α β : Type}

namespace Call

/-! ## Readers -/

/-- Every step leaves the state as it is and depends on the view `g` of it only. -/
def Reads (g : σ → τ) : Call κ σ ε α → Prop
  | done _ => True
  | step _ eff next =>
    (∀ s, eff s = s) ∧ (∀ s s', g s = g s' → next s = next s') ∧ ∀ s, (next s).Reads g

theorem Reads.bind {g : σ → τ} {x : Call κ σ ε α} {f : α → Call κ σ ε β} (hx : x.Reads g)
    (hf : ∀ a, (f a).Reads g) : (x >>= f).Reads g := by
  induction x with
  | done r =>
    cases r with
    | error e => trivial
    | ok a => exact hf a
  | step q eff next ih =>
    obtain ⟨heff, hnext, hrest⟩ := hx
    exact ⟨heff, fun s s' hs => congrArg (· >>= f) (hnext s s' hs), fun s => ih s (hrest s)⟩

theorem reads_lift (g : σ → τ) (r : Except ε α) :
    (MonadLiftT.monadLift r : Call κ σ ε α).Reads g := trivial

theorem reads_pure (g : σ → τ) (a : α) : (pure a : Call κ σ ε α).Reads g := trivial

theorem reads_read {g : σ → τ} {q : κ} {f : σ → α} (h : ∀ s s', g s = g s' → f s = f s') :
    (read q f : Call κ σ ε α).Reads g := by
  exact ⟨fun _ => rfl, fun s s' hs => congrArg (fun a => done (.ok a)) (h s s' hs),
    fun _ => trivial⟩

theorem Reads.run_congr {g : σ → τ} {x : Call κ σ ε α} (h : x.Reads g) {s s' : σ}
    (hs : g s = g s') : (x.run s).1 = (x.run s').1 := by
  induction x generalizing s s' with
  | done r => rfl
  | step q eff next ih =>
    obtain ⟨heff, hnext, hrest⟩ := h
    have hrun := ih s (hrest s) hs
    simp only [run, heff]
    rw [hrun, hnext s s' hs]

/-! ## What is left of a reader -/

/-- What is left after `n` steps in a state that does not change. -/
def rest : Call κ σ ε α → Nat → σ → Call κ σ ε α
  | x, 0, _ => x
  | done r, _ + 1, _ => done r
  | step _ _ next, n + 1, s => (next s).rest n s

/-- The labels of these steps. -/
def labels : Call κ σ ε α → Nat → σ → List κ
  | _, 0, _ => []
  | done _, _ + 1, _ => []
  | step q _ next, n + 1, s => q :: (next s).labels n s

@[simp] theorem rest_zero (x : Call κ σ ε α) (s : σ) : x.rest 0 s = x := by
  cases x <;> rfl

@[simp] theorem labels_zero (x : Call κ σ ε α) (s : σ) : x.labels 0 s = [] := by
  cases x <;> rfl

theorem Reads.rest {g : σ → τ} {x : Call κ σ ε α} (h : x.Reads g) (n : Nat) (s : σ) :
    (x.rest n s).Reads g := by
  induction n generalizing x with
  | zero => rwa [rest_zero]
  | succ n ih =>
    cases x with
    | done r => trivial
    | step q eff next => exact ih (h.2.2 s)

/-- A reader that goes on in the same state returns what it returns alone. -/
theorem Reads.run_rest {g : σ → τ} {x : Call κ σ ε α} (h : x.Reads g) (n : Nat) (s : σ) :
    ((x.rest n s).run s).1 = (x.run s).1 := by
  induction n generalizing x with
  | zero => rw [rest_zero]
  | succ n ih =>
    cases x with
    | done r => rfl
    | step q eff next =>
      refine (ih (h.2.2 s)).trans ?_
      simp only [run, h.1]

/-- What is left depends on the view only. -/
theorem Reads.rest_congr {g : σ → τ} {x : Call κ σ ε α} (h : x.Reads g) (n : Nat) {s s' : σ}
    (hs : g s = g s') : x.rest n s = x.rest n s' := by
  induction n generalizing x with
  | zero => rw [rest_zero, rest_zero]
  | succ n ih =>
    cases x with
    | done r => rfl
    | step q eff next =>
      simp only [Call.rest]
      rw [ih (h.2.2 s), h.2.1 s s' hs]

theorem rest_succ_of_step {x : Call κ σ ε α} {n : Nat} {s : σ} {q : κ} {eff : σ → σ}
    {next : σ → Call κ σ ε α} (h : x.rest n s = step q eff next) :
    x.rest (n + 1) s = next s ∧ x.labels (n + 1) s = x.labels n s ++ [q] := by
  induction n generalizing x with
  | zero =>
    rw [rest_zero] at h
    subst h
    simp [rest, labels]
  | succ n ih =>
    cases x with
    | done r => cases h
    | step q' eff' next' =>
      obtain ⟨hrest, hlabels⟩ := ih h
      exact ⟨hrest, by simp only [labels] at hlabels ⊢; rw [hlabels]; rfl⟩

/-- What is left of a reader whose first step reads `f`, run in another state: the step sees the
first state if it is one of the `n` taken there. -/
theorem run_rest_read_bind (q : κ) (f : σ → α) (h : α → Call κ σ ε β) (n : Nat) (s s' : σ) :
    ((read q f >>= h).rest n s).run s' =
      ((h (f (if 0 < n then s else s'))).rest (n - 1) s).run s' := by
  cases n with
  | zero =>
    rw [rest_zero, rest_zero, run_read_bind, if_neg (Nat.lt_irrefl 0)]
  | succ n =>
    rw [if_pos n.succ_pos]
    rfl

theorem labels_read_bind (q : κ) (f : σ → α) (h : α → Call κ σ ε β) (n : Nat) (s : σ) :
    (read q f >>= h).labels (n + 1) s = q :: (h (f s)).labels n s := rfl

/-! ## Writers -/

/-- At most one step changes the view `g`. -/
def ChangesOnce (g : σ → τ) : Call κ σ ε α → Prop
  | done _ => True
  | step _ eff next => ∀ s, g (eff s) = g s ∧ (next s).ChangesOnce g ∨ (next s).Keeps g

theorem Keeps.changesOnce {g : σ → τ} {x : Call κ σ ε α} (h : x.Keeps g) : x.ChangesOnce g := by
  cases x with
  | done r => trivial
  | step q eff next => exact fun s => .inr (h.2 s)

theorem changesOnce_query (g : σ → τ) (q : κ) (f : StateT σ (Except ε) α) :
    (query q f : Call κ σ ε α).ChangesOnce g := fun _ => .inr trivial

/-- The commit comes in the second part. -/
theorem Keeps.bind_changesOnce {g : σ → τ} {x : Call κ σ ε α} {f : α → Call κ σ ε β}
    (hx : x.Keeps g) (hf : ∀ a, (f a).ChangesOnce g) : (x >>= f).ChangesOnce g := by
  induction x with
  | done r =>
    cases r with
    | error e => trivial
    | ok a => exact hf a
  | step q eff next ih => exact fun s => .inl ⟨hx.1 s, ih s (hx.2 s)⟩

/-- The commit comes in the first part. -/
theorem ChangesOnce.bind_keeps {g : σ → τ} {x : Call κ σ ε α} {f : α → Call κ σ ε β}
    (hx : x.ChangesOnce g) (hf : ∀ a, (f a).Keeps g) : (x >>= f).ChangesOnce g := by
  induction x with
  | done r =>
    cases r with
    | error e => trivial
    | ok a => exact (hf a).changesOnce
  | step q eff next ih =>
    intro s
    rcases hx s with ⟨hkept, hnext⟩ | hkeeps
    · exact .inl ⟨hkept, ih s hnext⟩
    · exact .inr (hkeeps.bind hf)

end Call

/-! ## Together -/

open Call (Reads ChangesOnce)

/-- The reader and the writer. -/
def pair (x y : Call κ σ ε α) : Bool → Call κ σ ε α
  | false => x
  | true => y

/-- The view is as it was, and the reader has taken `n` steps. -/
structure Uncommitted (g : σ → τ) (x y : Call κ σ ε α) (s : σ) (p : Pool Bool κ σ ε α) (n : Nat) :
    Prop where
  reader : p.calls false = x.rest n s
  labels : ∀ q, (false, q) ∈ p.history ↔ q ∈ x.labels n s
  writer : (p.calls true).ChangesOnce g
  outcome : ((p.calls true).run p.state).2 = (y.run s).2
  view : g p.state = g s

/-- The writer has committed, after `n` steps of the reader. -/
structure Committed (g : σ → τ) (x y : Call κ σ ε α) (s : σ) (p : Pool Bool κ σ ε α) (n : Nat) :
    Prop where
  reader : ∃ m, p.calls false = (x.rest n s).rest m p.state
  writer : (p.calls true).Keeps g
  outcome : ((p.calls true).run p.state).2 = (y.run s).2

section

variable {g : σ → τ} {x y : Call κ σ ε α} {s : σ} {p : Pool Bool κ σ ε α} {n : Nat}

/-- After the commit the view is the one the writer leaves. -/
theorem Committed.view (h : Committed g x y s p n) : g p.state = g (y.run s).2 := by
  rw [← h.outcome]
  exact (h.writer.run p.state).symm

theorem Uncommitted.reply (hx : x.Reads g) (h : Uncommitted g x y s p n) {r : Except ε α}
    (hr : p.calls false = .done r) : r = (x.run s).1 := by
  have hrun := hx.run_rest n s
  rw [← h.reader, hr] at hrun
  exact hrun

theorem Committed.reply (hx : x.Reads g) (h : Committed g x y s p n) {r : Except ε α}
    (hr : p.calls false = .done r) : r = ((x.rest n s).run (y.run s).2).1 := by
  obtain ⟨m, hm⟩ := h.reader
  have hrun := (hx.rest n s).run_rest m p.state
  rw [← hm, hr] at hrun
  exact hrun.trans ((hx.rest n s).run_congr h.view)

/-- A step before the commit, or the commit. -/
theorem Uncommitted.step (hx : x.Reads g) (h : Uncommitted g x y s p n) (i : Bool) :
    (∃ n', Uncommitted g x y s (p.step i) n') ∨
      i = true ∧ g (p.step i).state ≠ g s ∧ Committed g x y s (p.step i) n := by
  cases hi : p.calls i with
  | done r =>
    rw [Pool.step_of_done hi]
    exact .inl ⟨n, h⟩
  | step q eff next =>
    rw [Pool.step_of_step hi]
    cases i with
    | false =>
      have hread := hx.rest n s
      rw [h.reader] at hi
      rw [hi] at hread
      obtain ⟨hrest, hlabels⟩ := Call.rest_succ_of_step hi
      refine .inl ⟨n + 1, ?_, ?_, ?_, ?_, ?_⟩
      · simp only [Function.update_self]
        rw [hread.2.1 p.state s h.view, hrest]
      · intro q'
        simp [hlabels, ← h.labels q', or_comm]
      · simpa using h.writer
      · simpa [hread.1] using h.outcome
      · simpa [hread.1] using h.view
    | true =>
      have hwriter := h.writer
      have houtcome := h.outcome
      rw [hi] at hwriter houtcome
      by_cases hview : g (eff p.state) = g p.state
      · have hnext : (next p.state).ChangesOnce g := by
          rcases hwriter p.state with ⟨-, hnext⟩ | hkeeps
          · exact hnext
          · exact hkeeps.changesOnce
        refine .inl ⟨n, ?_, ?_, ?_, ?_, hview.trans h.view⟩
        · simpa using h.reader
        · intro q'
          simpa using h.labels q'
        · simpa using hnext
        · simpa [Call.run] using houtcome
      · have hkeeps := (hwriter p.state).resolve_left fun hleft => hview hleft.1
        refine .inr ⟨rfl, fun hs => hview (hs.trans h.view.symm), ⟨0, ?_⟩, ?_, ?_⟩
        · simpa using h.reader
        · simpa using hkeeps
        · simpa [Call.run] using houtcome

theorem Committed.step (hx : x.Reads g) (h : Committed g x y s p n) (i : Bool) :
    Committed g x y s (p.step i) n := by
  obtain ⟨m, hm⟩ := h.reader
  cases hi : p.calls i with
  | done r =>
    rw [Pool.step_of_done hi]
    exact h
  | step q eff next =>
    rw [Pool.step_of_step hi]
    cases i with
    | false =>
      have hread := (hx.rest n s).rest m p.state
      rw [hm] at hi
      rw [hi] at hread
      obtain ⟨hrest, -⟩ := Call.rest_succ_of_step hi
      refine ⟨⟨m + 1, ?_⟩, ?_, ?_⟩
      · simp only [Function.update_self, hread.1]
        exact hrest.symm
      · simpa using h.writer
      · simpa [hread.1] using h.outcome
    | true =>
      have hwriter := h.writer
      have houtcome := h.outcome
      rw [hi] at hwriter houtcome
      refine ⟨⟨m, ?_⟩, ?_, ?_⟩
      · have hcongr := (hx.rest n s).rest_congr m (hwriter.1 p.state).symm
        simpa [hm] using hcongr
      · simpa using hwriter.2 p.state
      · simpa [Call.run] using houtcome

theorem Committed.exec (hx : x.Reads g) (h : Committed g x y s p n) (schedule : List Bool) :
    Committed g x y s (p.exec schedule) n := by
  induction schedule generalizing p with
  | nil => exact h
  | cons i schedule ih => exact ih (h.step hx i)

end

theorem Pool.exec_cut (p : Pool Bool κ σ ε α) (before after : List Bool) (i : Bool) :
    p.exec (before ++ i :: after) = ((p.exec before).step i).exec after := by
  simp [Pool.exec]

/-- **The commit comes after a number of the reader's steps, or not at all.** -/
theorem Pool.crossing {g : σ → τ} {x y : Call κ σ ε α} (hx : x.Reads g) (hy : y.ChangesOnce g)
    (s : σ) (schedule : List Bool) :
    (∃ n, Uncommitted g x y s ((Pool.start s (pair x y)).exec schedule) n) ∨
      ∃ before after n, schedule = before ++ true :: after ∧
        Uncommitted g x y s ((Pool.start s (pair x y)).exec before) n ∧
        g (((Pool.start s (pair x y)).exec before).step true).state ≠ g s ∧
        Committed g x y s ((Pool.start s (pair x y)).exec schedule) n := by
  induction schedule using List.reverseRecOn with
  | nil =>
    refine .inl ⟨0, ?_, ?_, hy, rfl, rfl⟩
    · rw [Call.rest_zero]
      rfl
    · intro q
      simp [Pool.exec, Pool.start]
  | append_singleton schedule i ih =>
    have hexec : (Pool.start s (pair x y)).exec (schedule ++ [i]) =
        ((Pool.start s (pair x y)).exec schedule).step i := by
      simp [Pool.exec]
    rw [hexec]
    rcases ih with ⟨n, h⟩ | ⟨before, after, n, rfl, hbefore, hview, h⟩
    · rcases h.step hx i with hnext | ⟨rfl, hview, hcommitted⟩
      · exact .inl hnext
      · exact .inr ⟨schedule, [], n, rfl, h, hview, hcommitted⟩
    · exact .inr ⟨before, after ++ [i], n, by simp, hbefore, hview, h.step hx i⟩

/-- **Where the commit comes**: a step that changes the view is the commit. -/
theorem Pool.commit {g : σ → τ} {x y : Call κ σ ε α} (hx : x.Reads g) (hy : y.ChangesOnce g)
    (s : σ) (before : List Bool) {i : Bool}
    (hchange : g (((Pool.start s (pair x y)).exec before).step i).state ≠
      g ((Pool.start s (pair x y)).exec before).state) :
    ∃ n, Uncommitted g x y s ((Pool.start s (pair x y)).exec before) n ∧
      Committed g x y s (((Pool.start s (pair x y)).exec before).step i) n := by
  rcases Pool.crossing hx hy s before with ⟨n, h⟩ | ⟨-, -, n, -, -, -, h⟩
  · rcases h.step hx i with ⟨n', h'⟩ | ⟨-, -, h'⟩
    · exact absurd (h'.view.trans h.view.symm) hchange
    · exact ⟨n, h, h'⟩
  · exact absurd ((h.step hx i).view.trans h.view.symm) hchange

end Lib
