import TrusteeBank.Lib.Interleave

/-!
# What a call knows

A call acts on what it has read, and others may write before it does. It can still rely on a fact
that no step of anyone destroys.

**Facts** (`Fact R`). A property of the state that every step in the relation `R` keeps.

**Calls** (`Call.Relies`). From a state where the fact `P` holds, each step of the call is in `R`,
whatever steps in `R` others take in between, and the fact `Q a` holds where the call returns `a`.
What a call learns on the way is written nowhere in it: a read establishes a fact (`relies_read`),
and `Relies.bind` passes it on.

**Theorem (`Pool.relies_exec`).** If every call relies on a fact that holds at the start, then the
states before and after any schedule are related by `R`, provided `R` is reflexive and transitive.
-/

set_option autoImplicit false

namespace Lib

variable {ι κ σ ε α β : Type}

/-- What is true of a state and stays true after every step in `R`. -/
structure Fact (R : σ → σ → Prop) where
  holds : σ → Prop
  stable : ∀ s s', R s s' → holds s → holds s'

namespace Fact

variable {R : σ → σ → Prop}

/-- A fact that does not look at the state. -/
def always (R : σ → σ → Prop) (p : Prop) : Fact R := ⟨fun _ => p, fun _ _ _ h => h⟩

def and (P P' : Fact R) : Fact R where
  holds s := P.holds s ∧ P'.holds s
  stable s s' hR hs := ⟨P.stable s s' hR hs.1, P'.stable s s' hR hs.2⟩

end Fact

namespace Call

variable {R : σ → σ → Prop}

/-- Where `P` holds every step is in `R`, and `Q a` holds where the call returns `a`, if others take
only steps in `R`. -/
def Relies (Q : α → Fact R) : Call κ σ ε α → Fact R → Prop
  | done (.ok a), P => ∀ s, P.holds s → (Q a).holds s
  | done (.error _), _ => True
  | step _ eff next, P =>
    ∀ s, P.holds s → R s (eff s) ∧ ∃ P' : Fact R, P'.holds (eff s) ∧ (next s).Relies Q P'

variable {P : Fact R}

theorem Relies.mono {P' : Fact R} {Q : α → Fact R} {x : Call κ σ ε α} (h : x.Relies Q P)
    (hP : ∀ s, P'.holds s → P.holds s) : x.Relies Q P' := by
  match x with
  | done (.ok a) => exact fun s hs => h s (hP s hs)
  | done (.error e) => trivial
  | step q eff next => exact fun s hs => h s (hP s hs)

/-- A part of what is known that is not about the state may be used outright. -/
theorem Relies.of_always {p : Prop} {Q : α → Fact R} {x : Call κ σ ε α} (h : p → x.Relies Q P) :
    x.Relies Q ((Fact.always R p).and P) := by
  match x with
  | done (.ok a) => exact fun s hs => h hs.1 s hs.2
  | done (.error e) => trivial
  | step q eff next => exact fun s hs => h hs.1 s hs.2

/-- **The sequencing rule.** What holds where the first part returns is known to the second. -/
theorem Relies.bind {Q : α → Fact R} {Q' : β → Fact R} {x : Call κ σ ε α} {f : α → Call κ σ ε β}
    (hx : x.Relies Q P) (hf : ∀ a, (f a).Relies Q' (Q a)) : (x >>= f).Relies Q' P := by
  induction x generalizing P with
  | done r =>
    cases r with
    | error e => trivial
    | ok a => exact (hf a).mono hx
  | step q eff next ih =>
    intro s hs
    obtain ⟨hR, P', hP', hnext⟩ := hx s hs
    exact ⟨hR, P', hP', ih s hnext⟩

/-- A call whose steps are in `R` in any state keeps every fact. -/
theorem Within.relies {x : Call κ σ ε α} (hx : x.Within R) : x.Relies (fun _ => P) P := by
  induction x with
  | done r =>
    cases r with
    | error e => trivial
    | ok a => exact fun s hs => hs
  | step q eff next ih =>
    exact fun s hs => ⟨(hx s).1, P, P.stable s (eff s) (hx s).1 hs, ih s (hx s).2⟩

/-- Such a call may stand in front. -/
theorem Relies.after {Q : β → Fact R} {x : Call κ σ ε α} {f : α → Call κ σ ε β} (hx : x.Within R)
    (hf : ∀ a, (f a).Relies Q P) : (x >>= f).Relies Q P :=
  Relies.bind (hx.relies (P := P)) hf

/-- A read establishes a fact. -/
theorem relies_read {Q : α → Fact R} (hrefl : ∀ s, R s s) (q : κ) {g : σ → α}
    (h : ∀ s, P.holds s → (Q (g s)).holds s) : (read q g : Call κ σ ε α).Relies Q P :=
  fun s hs => ⟨hrefl s, Q (g s), h s hs, fun _ h => h⟩

/-- A transaction is one step, in `R` because of what is known, and establishes a fact. -/
theorem relies_query {Q : α → Fact R} (hrefl : ∀ s, R s s) {q : κ} {f : StateT σ (Except ε) α}
    (h : ∀ s a s', P.holds s → f s = .ok (a, s') → R s s' ∧ (Q a).holds s') :
    (query q f : Call κ σ ε α).Relies Q P := by
  intro s hs
  dsimp only
  cases hf : f s with
  | error e => exact ⟨hrefl s, .always R True, trivial, trivial⟩
  | ok r =>
    obtain ⟨hR, hq⟩ := h s r.1 r.2 hs hf
    exact ⟨hR, Q r.1, hq, fun _ h => h⟩

theorem Relies.lift_bind {Q : β → Fact R} {r : Except ε α} {f : α → Call κ σ ε β}
    (h : ∀ a, r = .ok a → (f a).Relies Q P) :
    ((MonadLiftT.monadLift r : Call κ σ ε α) >>= f).Relies Q P := by
  cases r with
  | error e => trivial
  | ok a => exact h a rfl

theorem Relies.throwIf_bind {Q : β → Fact R} {c : Prop} [Decidable c] {e : ε}
    {f : Unit → Call κ σ ε β} (h : ¬c → (f ()).Relies Q P) : (throwIf c e >>= f).Relies Q P := by
  unfold throwIf
  split_ifs with hc
  · trivial
  · exact h hc

end Call

namespace Pool

variable [DecidableEq ι] {R : σ → σ → Prop}

/-- Every call relies on something that holds now. -/
def Reliant (R : σ → σ → Prop) (p : Pool ι κ σ ε α) : Prop :=
  ∀ i, ∃ P : Fact R, P.holds p.state ∧ (p.calls i).Relies (fun _ => .always R True) P

theorem reliant_step (hrefl : ∀ s, R s s) {p : Pool ι κ σ ε α} (hp : p.Reliant R) (i : ι) :
    (p.step i).Reliant R ∧ R p.state (p.step i).state := by
  cases hi : p.calls i with
  | done r =>
    rw [step_of_done hi]
    exact ⟨hp, hrefl p.state⟩
  | step q eff next =>
    obtain ⟨P, hP, hx⟩ := hp i
    rw [hi] at hx
    obtain ⟨hR, P', hP', hnext⟩ := hx p.state hP
    rw [step_of_step hi]
    refine ⟨fun j => ?_, hR⟩
    rcases update_cases p.calls i (next p.state) j with ⟨-, h⟩ | ⟨-, h⟩ <;> simp only [h]
    · exact ⟨P', hP', hnext⟩
    · obtain ⟨Pj, hPj, hxj⟩ := hp j
      exact ⟨Pj, Pj.stable _ _ hR hPj, hxj⟩

/-- **The rely-guarantee rule.** -/
theorem relies_exec (hrefl : ∀ s, R s s) (htrans : ∀ s s' s'', R s s' → R s' s'' → R s s'')
    {p : Pool ι κ σ ε α} (hp : p.Reliant R) (schedule : List ι) :
    (p.exec schedule).Reliant R ∧ R p.state (p.exec schedule).state := by
  induction schedule generalizing p with
  | nil => exact ⟨hp, hrefl p.state⟩
  | cons i schedule ih =>
    obtain ⟨hstep, hR⟩ := reliant_step hrefl hp i
    obtain ⟨hcalls, hrest⟩ := ih hstep
    exact ⟨hcalls, htrans _ _ _ hR hrest⟩

end Pool

end Lib
