import TrusteeBank.Lib.Call

/-!
# Calls that keep a trail

A system that accounts for what it does appends to a trail and leaves alone what is already there.
Below, `g : σ → List τ` reads the trail off the state.

* `Grows`: no step of the call changes or removes a row;
* `Yields`: what every value the call can return satisfies;
* `Records`: on every way to success some step appends a row of one kind.

**Theorem (`Records.run`).** A call that records a kind of rows and succeeds has extended the trail
by some rows, one of them of this kind.

All three are properties of the steps, each taken in any state, so they hold however the steps of
other calls fall in between. Which step records may depend on the state it is taken in; a step that
fails need not. The rules follow the sequencing: a part that grows the trail may stand before or
after the part that records.
-/

set_option autoImplicit false

namespace Lib

namespace Call

variable {κ σ ε α β τ : Type}

/-! ## Growing -/

/-- No step of the call changes or removes a row of the trail. -/
def Grows (g : σ → List τ) : Call κ σ ε α → Prop
  | done _ => True
  | step _ eff next => (∀ s, g s <+: g (eff s)) ∧ ∀ s, (next s).Grows g

theorem Grows.run {g : σ → List τ} {x : Call κ σ ε α} (h : x.Grows g) (s : σ) :
    g s <+: g (x.run s).2 := by
  induction x generalizing s with
  | done r => exact List.prefix_refl _
  | step q eff next ih => exact (h.1 s).trans (ih s (h.2 s) (eff s))

theorem Keeps.grows {g : σ → List τ} {x : Call κ σ ε α} (h : x.Keeps g) : x.Grows g := by
  induction x with
  | done r => trivial
  | step q eff next ih =>
    exact ⟨fun s => ⟨[], (List.append_nil _).trans (h.1 s).symm⟩, fun s => ih s (h.2 s)⟩

theorem Grows.bind {g : σ → List τ} {x : Call κ σ ε α} {f : α → Call κ σ ε β} (hx : x.Grows g)
    (hf : ∀ a, (f a).Grows g) : (x >>= f).Grows g := by
  induction x with
  | done r =>
    cases r with
    | error e => trivial
    | ok a => exact hf a
  | step q eff next ih => exact ⟨hx.1, fun s => ih s (hx.2 s)⟩

/-- A query that extends the trail where it succeeds. -/
theorem grows_query {g : σ → List τ} {q : κ} {f : StateT σ (Except ε) α}
    (h : ∀ s a s', f s = .ok (a, s') → g s <+: g s') : (query q f : Call κ σ ε α).Grows g := by
  refine ⟨fun s => ?_, fun _ => trivial⟩
  cases hs : f s with
  | error e =>
    simp only [hs]
    exact List.prefix_refl _
  | ok r =>
    simp only [hs]
    exact h s r.1 r.2 hs

/-! ## Results -/

/-- Every value the call can return satisfies `R`. -/
def Yields (R : α → Prop) : Call κ σ ε α → Prop
  | done (.ok a) => R a
  | done (.error _) => True
  | step _ _ next => ∀ s, (next s).Yields R

theorem Yields.bind {R : α → Prop} {S : β → Prop} {x : Call κ σ ε α} {f : α → Call κ σ ε β}
    (hx : x.Yields R) (hf : ∀ a, R a → (f a).Yields S) : (x >>= f).Yields S := by
  induction x with
  | done r =>
    cases r with
    | error e => trivial
    | ok a => exact hf a hx
  | step q eff next ih => exact fun s => ih s (hx s)

theorem yields_query {R : α → Prop} {q : κ} {f : StateT σ (Except ε) α}
    (h : ∀ s a s', f s = .ok (a, s') → R a) : (query q f : Call κ σ ε α).Yields R := by
  intro s
  show Yields R (done ((f s).map Prod.fst))
  cases hs : f s with
  | error e => exact trivial
  | ok r => exact h s r.1 r.2 hs

/-! ## Recording -/

/-- Every way to success passes a step that appends one row of the kind `P`. -/
def Records (g : σ → List τ) (P : τ → Prop) : Call κ σ ε α → Prop
  | done (.ok _) => False
  | done (.error _) => True
  | step _ eff next => ∀ s,
    (∃ row, P row ∧ g (eff s) = g s ++ [row]) ∧ (next s).Grows g ∨
      g s <+: g (eff s) ∧ (next s).Records g P

theorem Records.grows {g : σ → List τ} {P : τ → Prop} {x : Call κ σ ε α} (h : x.Records g P) :
    x.Grows g := by
  induction x with
  | done r => trivial
  | step q eff next ih =>
    refine ⟨fun s => ?_, fun s => ?_⟩
    · rcases h s with ⟨⟨row, -, hrow⟩, -⟩ | ⟨hgrow, -⟩
      · exact ⟨[row], hrow.symm⟩
      · exact hgrow
    · rcases h s with ⟨-, hnext⟩ | ⟨-, hnext⟩
      · exact hnext
      · exact ih s hnext

/-- **A call that records and succeeds has appended a row of the kind.** -/
theorem Records.run {g : σ → List τ} {P : τ → Prop} {x : Call κ σ ε α} (h : x.Records g P)
    {s s' : σ} {a : α} (hrun : x.run s = (.ok a, s')) :
    ∃ rows, (∃ row ∈ rows, P row) ∧ g s' = g s ++ rows := by
  induction x generalizing s with
  | done r =>
    obtain ⟨rfl, -⟩ := Prod.mk.inj hrun
    exact h.elim
  | step q eff next ih =>
    rcases h s with ⟨⟨row, hP, hrow⟩, hnext⟩ | ⟨hgrow, hnext⟩
    · obtain ⟨rest, hrest⟩ := hnext.run (eff s)
      rw [show ((next s).run (eff s)).2 = s' from congrArg Prod.snd hrun, hrow] at hrest
      exact ⟨row :: rest, ⟨row, List.mem_cons_self, hP⟩, by rw [← hrest, List.append_assoc]; rfl⟩
    · obtain ⟨before, hbefore⟩ := hgrow
      obtain ⟨rows, ⟨row, hmem, hP⟩, hrows⟩ := ih s hnext hrun
      refine ⟨before ++ rows, ⟨row, List.mem_append_right _ hmem, hP⟩, ?_⟩
      rw [hrows, ← hbefore, List.append_assoc]

/-- The row is appended in the first part. -/
theorem Records.first {g : σ → List τ} {P : τ → Prop} {x : Call κ σ ε α} {f : α → Call κ σ ε β}
    (hx : x.Records g P) (hf : ∀ a, (f a).Grows g) : (x >>= f).Records g P := by
  induction x with
  | done r =>
    cases r with
    | error e => trivial
    | ok a => exact hx.elim
  | step q eff next ih =>
    intro s
    rcases hx s with ⟨happend, hnext⟩ | ⟨hgrow, hnext⟩
    · exact .inl ⟨happend, hnext.bind hf⟩
    · exact .inr ⟨hgrow, ih s hnext⟩

/-- The row is appended in the second part, which may rely on what the first one returns. -/
theorem Records.second {g : σ → List τ} {P : τ → Prop} {R : α → Prop} {x : Call κ σ ε α}
    {f : α → Call κ σ ε β} (hx : x.Grows g) (hR : x.Yields R)
    (hf : ∀ a, R a → (f a).Records g P) : (x >>= f).Records g P := by
  induction x with
  | done r =>
    cases r with
    | error e => trivial
    | ok a => exact hf a hR
  | step q eff next ih => exact fun s => .inr ⟨hx.1 s, ih s (hx.2 s) (hR s)⟩

theorem yields_true (x : Call κ σ ε α) : x.Yields fun _ => True := by
  induction x with
  | done r => cases r <;> trivial
  | step q eff next ih => exact ih

theorem Records.after {g : σ → List τ} {P : τ → Prop} {x : Call κ σ ε α} {f : α → Call κ σ ε β}
    (hx : x.Keeps g) (hf : ∀ a, (f a).Records g P) : (x >>= f).Records g P :=
  .second hx.grows x.yields_true fun a _ => hf a

/-- A query that appends a row of the kind where it succeeds. -/
theorem records_query {g : σ → List τ} {P : τ → Prop} {q : κ} {f : StateT σ (Except ε) α}
    (h : ∀ s a s', f s = .ok (a, s') → ∃ row, P row ∧ g s' = g s ++ [row]) :
    (query q f : Call κ σ ε α).Records g P := by
  intro s
  cases hs : f s with
  | error e =>
    refine .inr ⟨?_, ?_⟩
    · simp only [hs]
      exact List.prefix_refl _
    · simp only [hs]
      trivial
  | ok r =>
    refine .inl ⟨?_, ?_⟩
    · simp only [hs]
      exact h s r.1 r.2 hs
    · trivial

theorem Records.void {g : σ → List τ} {P : τ → Prop} {x : Call κ σ ε α} (h : x.Records g P) :
    x.void.Records g P :=
  h.first fun _ => trivial

end Call

end Lib
