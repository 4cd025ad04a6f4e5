import Mathlib.Logic.Function.Basic
import TrusteeBank.Lib.Call
import TrusteeBank.Lib.Run

/-!
# Interleaved calls

Calls indexed by `ι` share a state, and a schedule says which call takes its next atomic step. A
`Pool` records the state, what is left of every call, and the steps taken so far.

To reason about every schedule, a call is given *phases*: what it has established so far, which
the code itself does not store. `Obeys δ J Q x φ` says that from phase `φ` every step of `x`,
taken in any state satisfying `J`, is a move of the protocol `δ`, and that `x` ends in a phase
satisfying `Q`. It is proved call by call with no mention of the others (`Obeys.bind`).

Where no phases are needed, `Call.Within R` says that every step is in the relation `R`, and
`Pool.rel_exec` that a schedule then stays within its reflexive and transitive closure.

**Theorem (`Pool.inv_exec`).** If every call obeys the protocol, and an invariant of the pool and
the phases is kept by every move of the protocol that a schedule condition `C` admits, then it
holds after every schedule whose steps meet `C`. `Pool.inv_logged` is the rule for an invariant that
also speaks of what the steps recorded of the states they were taken in (`Pool.logged`).
-/

set_option autoImplicit false

namespace Lib

variable {ι κ σ ε α β φ : Type}

/-- Calls on a shared state, and the steps taken so far, the last one first. -/
structure Pool (ι κ σ ε α : Type) where
  state : σ
  calls : ι → Call κ σ ε α
  history : List (ι × κ)

/-- The label of the next step. -/
def Call.next? : Call κ σ ε α → Option κ
  | .done _ => none
  | .step q _ _ => some q

/-- After a step of call `i`, either `j` is that call or nothing changed for `j`. -/
theorem update_cases [DecidableEq ι] (f : ι → α) (i : ι) (a : α) (j : ι) :
    (j = i ∧ Function.update f i a j = a) ∨ (j ≠ i ∧ Function.update f i a j = f j) := by
  by_cases hj : j = i
  · subst hj
    exact .inl ⟨rfl, Function.update_self ..⟩
  · exact .inr ⟨hj, Function.update_of_ne hj ..⟩

namespace Pool

variable [DecidableEq ι]

/-- No call has taken a step. -/
def start (s : σ) (calls : ι → Call κ σ ε α) : Pool ι κ σ ε α := ⟨s, calls, []⟩

/-- Call `i` takes its next step, if it has one. -/
def step (p : Pool ι κ σ ε α) (i : ι) : Pool ι κ σ ε α :=
  match p.calls i with
  | .done _ => p
  | .step q eff next =>
    { state := eff p.state
      calls := Function.update p.calls i (next p.state)
      history := (i, q) :: p.history }

/-- Follow a schedule. -/
def exec (p : Pool ι κ σ ε α) (schedule : List ι) : Pool ι κ σ ε α := schedule.foldl step p

/-- The steps taken since the last step `e`, the last one first. -/
def since [DecidableEq κ] (p : Pool ι κ σ ε α) (e : ι × κ) : List (ι × κ) :=
  p.history.takeWhile (· ≠ e)

/-- The steps up to the last step `e`, the last one first. -/
def upTo [DecidableEq κ] (p : Pool ι κ σ ε α) (e : ι × κ) : List (ι × κ) :=
  p.history.dropWhile (· ≠ e)

theorem since_append_upTo [DecidableEq κ] (p : Pool ι κ σ ε α) (e : ι × κ) :
    p.since e ++ p.upTo e = p.history :=
  List.takeWhile_append_dropWhile

theorem mem_history_of_upTo [DecidableEq κ] {p : Pool ι κ σ ε α} {e e' : ι × κ}
    (h : e' ∈ p.upTo e) : e' ∈ p.history :=
  List.dropWhile_subset _ h

theorem since_cons [DecidableEq κ] (s : σ) (calls : ι → Call κ σ ε α) (h : List (ι × κ))
    (e' e : ι × κ) :
    (Pool.mk s calls (e' :: h)).since e =
      if e' = e then [] else e' :: (Pool.mk s calls h).since e := by
  unfold since
  rw [List.takeWhile_cons]
  by_cases he : e' = e <;> simp [he]

theorem upTo_cons [DecidableEq κ] (s : σ) (calls : ι → Call κ σ ε α) (h : List (ι × κ))
    (e' e : ι × κ) :
    (Pool.mk s calls (e' :: h)).upTo e =
      if e' = e then e' :: h else (Pool.mk s calls h).upTo e := by
  unfold upTo
  rw [List.dropWhile_cons]
  by_cases he : e' = e <;> simp [he]

theorem step_of_done {p : Pool ι κ σ ε α} {i : ι} {r : Except ε α} (h : p.calls i = .done r) :
    p.step i = p := by
  simp [step, h]

theorem step_of_step {p : Pool ι κ σ ε α} {i : ι} {q : κ} {eff : σ → σ}
    {next : σ → Call κ σ ε α} (h : p.calls i = .step q eff next) :
    p.step i =
      { state := eff p.state
        calls := Function.update p.calls i (next p.state)
        history := (i, q) :: p.history } := by
  simp [step, h]

/-- A call that reads goes on with what it read. -/
theorem step_read_bind {p : Pool ι κ σ ε α} {i : ι} {q : κ} {g : σ → β} {f : β → Call κ σ ε α}
    (h : p.calls i = Call.read q g >>= f) :
    p.step i = ⟨p.state, Function.update p.calls i (f (g p.state)), (i, q) :: p.history⟩ :=
  step_of_step h

/-- A transaction is stored, or its error ends the call. -/
theorem step_query_bind {p : Pool ι κ σ ε α} {i : ι} {q : κ} {g : StateT σ (Except ε) β}
    {f : β → Call κ σ ε α} (h : p.calls i = Call.query q g >>= f) :
    p.step i = match g p.state with
      | .ok (b, s) => ⟨s, Function.update p.calls i (f b), (i, q) :: p.history⟩
      | .error e => ⟨p.state, Function.update p.calls i (.done (.error e)), (i, q) :: p.history⟩ := by
  rw [step_of_step h]
  cases hg : g p.state with
  | error e =>
    simp only [hg, Except.map]
    rfl
  | ok result =>
    simp only [hg, Except.map]
    rfl

/-! ### What a step does to the history -/

section

variable {p : Pool ι κ σ ε α} {i : ι} {q : κ} {eff : σ → σ} {next : σ → Call κ σ ε α}

theorem state_step (h : p.calls i = .step q eff next) : (p.step i).state = eff p.state := by
  rw [step_of_step h]

theorem history_step (h : p.calls i = .step q eff next) :
    (p.step i).history = (i, q) :: p.history := by
  rw [step_of_step h]

variable [DecidableEq κ]

theorem since_step_of_ne (h : p.calls i = .step q eff next) {e : ι × κ} (he : (i, q) ≠ e) :
    (p.step i).since e = (i, q) :: p.since e := by
  rw [step_of_step h, since_cons, if_neg he]
  rfl

theorem upTo_step_self (h : p.calls i = .step q eff next) :
    (p.step i).upTo (i, q) = (i, q) :: p.history := by
  rw [step_of_step h, upTo_cons, if_pos rfl]

theorem upTo_step_of_ne (h : p.calls i = .step q eff next) {e : ι × κ} (he : (i, q) ≠ e) :
    (p.step i).upTo e = p.upTo e := by
  rw [step_of_step h, upTo_cons, if_neg he]
  rfl

end

end Pool

/-! ## Protocols -/

/-- Every step of the call, from phase `φ` and in any state satisfying `J`, is a move of `δ`, and
the call ends in a phase satisfying `Q`. -/
def Call.Obeys (δ : φ → κ → σ → σ → φ → Prop) (J : σ → Prop) (Q : φ → Except ε α → Prop) :
    Call κ σ ε α → φ → Prop
  | .done r, p => Q p r
  | .step q eff next, p =>
    ∀ s, J s → ∃ p', δ p q s (eff s) p' ∧ (next s).Obeys δ J Q p'

namespace Call

variable {δ : φ → κ → σ → σ → φ → Prop} {J : σ → Prop}

theorem Obeys.mono {Q Q' : φ → Except ε α → Prop} (hQ : ∀ p r, Q p r → Q' p r)
    {x : Call κ σ ε α} {p : φ} (h : x.Obeys δ J Q p) : x.Obeys δ J Q' p := by
  induction x generalizing p with
  | done r => exact hQ p r h
  | step q eff next ih =>
    intro s hs
    obtain ⟨p', hδ, hp'⟩ := h s hs
    exact ⟨p', hδ, ih s hp'⟩

/-- **The sequencing rule.** -/
theorem Obeys.bind {Q : φ → Except ε β → Prop} {R : φ → Except ε α → Prop} {x : Call κ σ ε α}
    {f : α → Call κ σ ε β} {p : φ} (hx : x.Obeys δ J R p)
    (hok : ∀ p' a, R p' (.ok a) → (f a).Obeys δ J Q p')
    (herr : ∀ p' e, R p' (.error e) → Q p' (.error e)) : (x >>= f).Obeys δ J Q p := by
  induction x generalizing p with
  | done r =>
    cases r with
    | ok a => exact hok p a hx
    | error e => exact herr p e hx
  | step q eff next ih =>
    intro s hs
    obtain ⟨p', hδ, hp'⟩ := hx s hs
    exact ⟨p', hδ, ih s hp'⟩

/-- A call that handles the error of another goes on from where that one ended. -/
theorem Obeys.tryCatch {Q R : φ → Except ε α → Prop} {x : Call κ σ ε α} {h : ε → Call κ σ ε α}
    {p : φ} (hx : x.Obeys δ J R p) (hok : ∀ p' a, R p' (.ok a) → Q p' (.ok a))
    (herr : ∀ p' e, R p' (.error e) → (h e).Obeys δ J Q p') :
    (x.tryCatch h).Obeys δ J Q p := by
  induction x generalizing p with
  | done r =>
    cases r with
    | ok a => exact hok p a hx
    | error e => exact herr p e hx
  | step q eff next ih =>
    intro s hs
    obtain ⟨p', hδ, hp'⟩ := hx s hs
    exact ⟨p', hδ, ih s hp'⟩

/-- A call that forgets its result ends in the same phase. -/
theorem Obeys.void {Q : φ → Prop} {x : Call κ σ ε α} {p : φ}
    (hx : x.Obeys δ J (fun p _ => Q p) p) : x.void.Obeys δ J (fun p _ => Q p) p :=
  hx.bind (fun _ _ h => h) fun _ _ h => h

/-- **The simulation rule**: what obeys one protocol obeys another that simulates its moves. -/
theorem Obeys.sim {ψ : Type} {δ' : ψ → κ → σ → σ → ψ → Prop} {J' : σ → Prop}
    {Q : φ → Except ε α → Prop} {Q' : ψ → Except ε α → Prop} {R : φ → ψ → Prop}
    (hJ : ∀ s, J' s → J s)
    (hδ : ∀ p r q s s' p', J' s → R p r → δ p q s s' p' → ∃ r', δ' r q s s' r' ∧ R p' r')
    (hQ : ∀ p r a, R p r → Q p a → Q' r a) {x : Call κ σ ε α} {p : φ} {r : ψ}
    (hx : x.Obeys δ J Q p) (hr : R p r) : x.Obeys δ' J' Q' r := by
  induction x generalizing p r with
  | done a => exact hQ p r a hr hx
  | step q eff next ih =>
    intro s hs
    obtain ⟨p', hp', hnext⟩ := hx s (hJ s hs)
    obtain ⟨r', hr', hR⟩ := hδ p r q s (eff s) p' hs hr hp'
    exact ⟨r', hr', ih s hnext hR⟩

section Rules

variable {Q : φ → Except ε β → Prop} {p : φ}

/-- A read is one move that leaves the state as it is. -/
theorem Obeys.read_bind {q : κ} {g : σ → α} {f : α → Call κ σ ε β}
    (h : ∀ s, J s → ∃ p', δ p q s s p' ∧ (f (g s)).Obeys δ J Q p') :
    (read q g >>= f).Obeys δ J Q p :=
  fun s hs => h s hs

/-- A transaction is one move: it succeeds, or it leaves the state as it is. -/
theorem Obeys.query {q : κ} {g : StateT σ (Except ε) β}
    (hok : ∀ s b s', J s → g s = .ok (b, s') → ∃ p', δ p q s s' p' ∧ Q p' (.ok b))
    (herr : ∀ s e, J s → g s = .error e → ∃ p', δ p q s s p' ∧ Q p' (.error e)) :
    (query q g : Call κ σ ε β).Obeys δ J Q p := by
  intro s hs
  cases hg : g s with
  | error e =>
    obtain ⟨p', hδ, hQ⟩ := herr s e hs hg
    refine ⟨p', ?_, ?_⟩ <;> simp only [hg]
    · exact hδ
    · exact hQ
  | ok r =>
    obtain ⟨b, s'⟩ := r
    obtain ⟨p', hδ, hQ⟩ := hok s b s' hs hg
    refine ⟨p', ?_, ?_⟩ <;> simp only [hg]
    · exact hδ
    · exact hQ

theorem Obeys.query_bind {q : κ} {g : StateT σ (Except ε) α} {f : α → Call κ σ ε β}
    (hok : ∀ s a s', J s → g s = .ok (a, s') → ∃ p', δ p q s s' p' ∧ (f a).Obeys δ J Q p')
    (herr : ∀ s e, J s → g s = .error e → ∃ p', δ p q s s p' ∧ Q p' (.error e)) :
    (Call.query q g >>= f).Obeys δ J Q p := by
  have hmove : (Call.query q g).Obeys δ J (fun p' r =>
      (∀ a, r = .ok a → (f a).Obeys δ J Q p') ∧ ∀ e, r = .error e → Q p' (.error e)) p := by
    refine Obeys.query (fun s a s' hs hg => ?_) fun s e hs hg => ?_
    · obtain ⟨p', hδ, hf⟩ := hok s a s' hs hg
      exact ⟨p', hδ, fun b hb => Except.ok.inj hb ▸ hf, nofun⟩
    · obtain ⟨p', hδ, hQ⟩ := herr s e hs hg
      exact ⟨p', hδ, nofun, fun e' he => Except.error.inj he ▸ hQ⟩
  exact hmove.bind (fun p' a h => h.1 a rfl) fun p' e h => h.2 e rfl

theorem Obeys.throwIf_bind {c : Prop} [Decidable c] {e : ε} {f : Unit → Call κ σ ε β}
    (herr : c → Q p (.error e)) (hok : ¬c → (f ()).Obeys δ J Q p) :
    (throwIf c e >>= f).Obeys δ J Q p := by
  unfold throwIf
  split_ifs with hc
  · exact herr hc
  · exact hok hc

theorem Obeys.lift_bind {r : Except ε α} {f : α → Call κ σ ε β}
    (herr : ∀ e, r = .error e → Q p (.error e)) (hok : ∀ a, r = .ok a → (f a).Obeys δ J Q p) :
    ((MonadLiftT.monadLift r : Call κ σ ε α) >>= f).Obeys δ J Q p := by
  cases r with
  | error e => exact herr e rfl
  | ok a => exact hok a rfl

end Rules

end Call

namespace Pool

variable [DecidableEq ι] {δ : ι → φ → κ → σ → σ → φ → Prop} {J : σ → Prop}
  {Q : φ → Except ε α → Prop}

/-- Every call obeys the protocol from its phase. -/
def Obey (δ : ι → φ → κ → σ → σ → φ → Prop) (J : σ → Prop) (Q : φ → Except ε α → Prop)
    (p : Pool ι κ σ ε α) (ph : ι → φ) : Prop :=
  ∀ i, (p.calls i).Obeys (δ i) J Q (ph i)

theorem Obey.step {p : Pool ι κ σ ε α} {ph : ι → φ} (h : p.Obey δ J Q ph) {i : ι} {q : κ}
    {eff : σ → σ} {next : σ → Call κ σ ε α} (hi : p.calls i = .step q eff next) {p' : φ}
    (hp' : (next p.state).Obeys (δ i) J Q p') :
    (p.step i).Obey δ J Q (Function.update ph i p') := by
  intro j
  rw [step_of_step hi]
  by_cases hj : j = i
  · subst hj
    simpa using hp'
  · simpa [Function.update_of_ne hj] using h j

/-- What the next step of a call records of the state it is taken in. -/
def recorded (record : ι → κ → σ → List β) (p : Pool ι κ σ ε α) (i : ι) : List β :=
  match (p.calls i).next? with
  | none => []
  | some q => record i q p.state

/-- What the steps of a schedule record. -/
def logged (record : ι → κ → σ → List β) (p : Pool ι κ σ ε α) (schedule : List ι) : List β :=
  Lib.logged step (recorded record) p schedule

/-- **The interleaving rule, with a log.** -/
theorem inv_logged {Inv : List β → Pool ι κ σ ε α → (ι → φ) → Prop}
    {C : Pool ι κ σ ε α → ι → Prop} (record : ι → κ → σ → List β)
    (hJ : ∀ log p ph, Inv log p ph → J p.state)
    (hstep : ∀ log p ph i q eff next φ', Inv log p ph → p.Obey δ J Q ph → C p i →
      p.calls i = .step q eff next → δ i (ph i) q p.state (eff p.state) φ' →
      (next p.state).Obeys (δ i) J Q φ' →
      Inv (log ++ record i q p.state) (p.step i) (Function.update ph i φ'))
    {p : Pool ι κ σ ε α} {ph : ι → φ} (hinv : Inv [] p ph) (hobey : p.Obey δ J Q ph)
    {schedule : List ι} (hC : Meets step C p schedule) :
    ∃ ph', Inv (p.logged record schedule) (p.exec schedule) ph' ∧
      (p.exec schedule).Obey δ J Q ph' := by
  refine Lib.inv_logged (J := fun log p => ∃ ph, Inv log p ph ∧ p.Obey δ J Q ph) ?_
    ⟨ph, hinv, hobey⟩ hC
  rintro log p i ⟨ph, hinv, hobey⟩ hCi
  unfold recorded
  cases hi : p.calls i with
  | done r =>
    rw [step_of_done hi]
    exact ⟨ph, by simpa [Call.next?] using hinv, hobey⟩
  | step q eff next =>
    have h := hobey i
    rw [hi] at h
    obtain ⟨φ', hδ, hφ'⟩ := h p.state (hJ log p ph hinv)
    exact ⟨_, hstep log p ph i q eff next φ' hinv hobey hCi hi hδ hφ', hobey.step hi hφ'⟩

/-- **The interleaving rule.** -/
theorem inv_exec {Inv : Pool ι κ σ ε α → (ι → φ) → Prop} {C : Pool ι κ σ ε α → ι → Prop}
    (hJ : ∀ p ph, Inv p ph → J p.state)
    (hstep : ∀ p ph i q eff next φ', Inv p ph → p.Obey δ J Q ph → C p i →
      p.calls i = .step q eff next → δ i (ph i) q p.state (eff p.state) φ' →
      (next p.state).Obeys (δ i) J Q φ' → Inv (p.step i) (Function.update ph i φ'))
    {p : Pool ι κ σ ε α} {ph : ι → φ} (hinv : Inv p ph) (hobey : p.Obey δ J Q ph)
    {schedule : List ι} (hC : Meets step C p schedule) :
    ∃ ph', Inv (p.exec schedule) ph' ∧ (p.exec schedule).Obey δ J Q ph' :=
  -- Nothing is recorded.
  inv_logged (fun _ _ _ => ([] : List Unit)) (fun _ => hJ) (fun _ => hstep) hinv hobey hC

end Pool

/-! ## Steps within a relation -/

/-- Every step of the call, taken in any state, is in the relation. -/
def Call.Within (R : σ → σ → Prop) : Call κ σ ε α → Prop
  | .done _ => True
  | .step _ eff next => ∀ s, R s (eff s) ∧ (next s).Within R

namespace Call

variable {R : σ → σ → Prop}

theorem Within.bind {x : Call κ σ ε α} {f : α → Call κ σ ε β} (hx : x.Within R)
    (hf : ∀ a, (f a).Within R) : (x >>= f).Within R := by
  induction x with
  | done r =>
    cases r with
    | error e => trivial
    | ok a => exact hf a
  | step q eff next ih => exact fun s => ⟨(hx s).1, ih s (hx s).2⟩

theorem Within.tryCatch {x : Call κ σ ε α} {h : ε → Call κ σ ε α} (hx : x.Within R)
    (hh : ∀ e, (h e).Within R) : (x.tryCatch h).Within R := by
  induction x with
  | done r =>
    cases r with
    | error e => exact hh e
    | ok a => trivial
  | step q eff next ih => exact fun s => ⟨(hx s).1, ih s (hx s).2⟩

/-- A call that runs alone stays within a reflexive and transitive relation of its steps. -/
theorem Within.run (hrefl : ∀ s, R s s) (htrans : ∀ s s' s'', R s s' → R s' s'' → R s s'')
    {x : Call κ σ ε α} (hx : x.Within R) (s : σ) : R s (x.run s).2 := by
  induction x generalizing s with
  | done r => exact hrefl s
  | step q eff next ih => exact htrans _ _ _ (hx s).1 (ih s (hx s).2 (eff s))

/-- A call that leaves a view alone makes steps that leave it alone. -/
theorem Keeps.within {τ : Type} {g : σ → τ} {x : Call κ σ ε α} (h : x.Keeps g)
    (hR : ∀ s s', g s' = g s → R s s') : x.Within R := by
  induction x with
  | done r => trivial
  | step q eff next ih => exact fun s => ⟨hR s (eff s) (h.1 s), ih s (h.2 s)⟩

/-- A transaction is one step: what it writes, or nothing. -/
theorem within_query {q : κ} {f : StateT σ (Except ε) α} (hrefl : ∀ s, R s s)
    (h : ∀ s a s', f s = .ok (a, s') → R s s') : (query q f : Call κ σ ε α).Within R := by
  refine fun s => ⟨?_, trivial⟩
  dsimp only
  split
  · next a s' hs => exact h s a s' hs
  · exact hrefl s

end Call

namespace Pool

variable [DecidableEq ι] {R : σ → σ → Prop}

/-- **The relational rule.** The steps of a schedule are related by whatever reflexive and
transitive relation contains those of the calls. -/
theorem rel_exec {S : σ → σ → Prop} (hrefl : ∀ s, S s s)
    (htrans : ∀ s s' s'', S s s' → S s' s'' → S s s'') (hR : ∀ s s', R s s' → S s s')
    {p : Pool ι κ σ ε α} (hp : ∀ i, (p.calls i).Within R) (schedule : List ι) :
    (∀ i, ((p.exec schedule).calls i).Within R) ∧ S p.state (p.exec schedule).state := by
  induction schedule generalizing p with
  | nil => exact ⟨hp, hrefl p.state⟩
  | cons i schedule ih =>
    have hstep : (∀ j, ((p.step i).calls j).Within R) ∧ S p.state (p.step i).state := by
      cases hi : p.calls i with
      | done r =>
        rw [step_of_done hi]
        exact ⟨hp, hrefl p.state⟩
      | step q eff next =>
        have hmove := hp i
        rw [hi] at hmove
        rw [step_of_step hi]
        refine ⟨fun j => ?_, hR _ _ (hmove p.state).1⟩
        rcases update_cases p.calls i (next p.state) j with ⟨-, h⟩ | ⟨-, h⟩ <;> simp only [h]
        · exact (hmove p.state).2
        · exact hp j
    obtain ⟨hcalls, hrest⟩ := ih hstep.1
    exact ⟨hcalls, htrans _ _ _ hstep.2 hrest⟩

end Pool

end Lib
