import Mathlib.Init

/-!
# Runs of a machine

A machine is a function `step : σ → ο → σ` that performs one operation; a run is the fold of
`step` over a list of operations. The rules here lift what one operation does to whole runs.

* `inv_run`: an invariant of every step that meets a condition holds after every run whose steps
  all meet it;
* `meets_inv`: and each step then has what the invariant gives it;
* `measure_run`: what every step lowers is used up by a run that is long enough;
* `rel_run`: the same for a reflexive and transitive relation between the first and the last
  state;
* `history_run`: the same for an invariant of the states gone through and the last of them;
* `inv_history`: an invariant holds in every state a run goes through;
* `history_iff`, `history_meets_iff`: what holds in every state holds exactly while the steps meet a
  condition;
* `inv_logged`: an invariant of the state and of what the run has logged so far.
-/

set_option autoImplicit false

namespace Lib

variable {σ ο : Type} {step : σ → ο → σ}

/-- Every operation of the run satisfies `C` in the state it is performed in. -/
def Meets (step : σ → ο → σ) (C : σ → ο → Prop) : σ → List ο → Prop
  | _, [] => True
  | s, o :: os => C s o ∧ Meets step C (step s o) os

instance Meets.decidable {C : σ → ο → Prop} [∀ s o, Decidable (C s o)] :
    (s : σ) → (os : List ο) → Decidable (Meets step C s os)
  | _, [] => isTrue trivial
  | s, o :: os => @instDecidableAnd _ _ _ (Meets.decidable (step s o) os)

theorem Meets.mono {C D : σ → ο → Prop} (hCD : ∀ s o, C s o → D s o) {s : σ} {os : List ο}
    (h : Meets step C s os) : Meets step D s os := by
  induction os generalizing s with
  | nil => trivial
  | cons o os ih => exact ⟨hCD s o h.1, ih h.2⟩

theorem Meets.of_forall {C : σ → ο → Prop} (hC : ∀ s o, C s o) (s : σ) (os : List ο) :
    Meets step C s os := by
  induction os generalizing s with
  | nil => trivial
  | cons o os ih => exact ⟨hC s o, ih (step s o)⟩

theorem Meets.and {C D : σ → ο → Prop} {s : σ} {os : List ο} (hC : Meets step C s os)
    (hD : Meets step D s os) : Meets step (fun s o => C s o ∧ D s o) s os := by
  induction os generalizing s with
  | nil => trivial
  | cons o os ih => exact ⟨⟨hC.1, hD.1⟩, ih hC.2 hD.2⟩

theorem meets_append {C : σ → ο → Prop} {s : σ} {os os' : List ο} :
    Meets step C s (os ++ os') ↔ Meets step C s os ∧ Meets step C (os.foldl step s) os' := by
  induction os generalizing s with
  | nil => exact ⟨fun h => ⟨trivial, h⟩, And.right⟩
  | cons o os ih =>
    show C s o ∧ Meets step C (step s o) (os ++ os') ↔ _
    rw [ih, ← and_assoc]
    rfl

/-- Each operation of a run is one of the run's. -/
theorem Meets.of_mem {C : ο → Prop} {os : List ο} (h : ∀ o ∈ os, C o) (s : σ) :
    Meets step (fun _ o => C o) s os := by
  induction os generalizing s with
  | nil => trivial
  | cons o os ih =>
    exact ⟨h o List.mem_cons_self, ih (fun p hp => h p (List.mem_cons_of_mem o hp)) (step s o)⟩

/-- **The invariant rule.** -/
theorem inv_run {Inv : σ → Prop} {C : σ → ο → Prop}
    (hstep : ∀ s o, Inv s → C s o → Inv (step s o)) {s : σ} {os : List ο} (hs : Inv s)
    (hC : Meets step C s os) : Inv (os.foldl step s) := by
  induction os generalizing s with
  | nil => exact hs
  | cons o os ih => exact ih (hstep s o hs hC.1) hC.2

/-- **The invariant rule**, for what each operation satisfies where the invariant holds. -/
theorem meets_inv {Inv : σ → Prop} {C D : σ → ο → Prop}
    (hstep : ∀ s o, Inv s → C s o → Inv (step s o)) (hD : ∀ s o, Inv s → C s o → D s o) {s : σ}
    {os : List ο} (hs : Inv s) (hC : Meets step C s os) : Meets step D s os := by
  induction os generalizing s with
  | nil => trivial
  | cons o os ih => exact ⟨hD s o hs hC.1, ih (hstep s o hs hC.1) hC.2⟩

/-- **The relational rule.** -/
theorem rel_run {R : σ → σ → Prop} (hrefl : ∀ s, R s s)
    (htrans : ∀ s s' s'', R s s' → R s' s'' → R s s'') {C : σ → ο → Prop}
    (hstep : ∀ s o, C s o → R s (step s o)) {s : σ} {os : List ο} (hC : Meets step C s os) :
    R s (os.foldl step s) := by
  induction os generalizing s with
  | nil => exact hrefl s
  | cons o os ih => exact htrans _ _ _ (hstep s o hC.1) (ih hC.2)

/-- **The measure rule.** What every step lowers until nothing is left has gone down by the length
of the run. -/
theorem measure_run (μ : σ → Nat) {Inv : σ → Prop} {C : σ → ο → Prop}
    (hstep : ∀ s o, Inv s → C s o → Inv (step s o) ∧ μ (step s o) ≤ μ s - 1) {s : σ} {os : List ο}
    (hs : Inv s) (hC : Meets step C s os) : μ (os.foldl step s) ≤ μ s - os.length := by
  induction os generalizing s with
  | nil => exact Nat.le_refl _
  | cons o os ih =>
    obtain ⟨hinv, hle⟩ := hstep s o hs hC.1
    have hrest := ih hinv hC.2
    rw [List.foldl_cons, List.length_cons]
    omega

/-! ## Histories -/

/-- The states a run goes through, from the first to the last. -/
def history (step : σ → ο → σ) : σ → List ο → List σ
  | s, [] => [s]
  | s, o :: os => s :: history step (step s o) os

/-- **The history rule.** -/
theorem history_run {J : List σ → σ → Prop} {C : σ → ο → Prop}
    (hstep : ∀ past s o, J past s → C s o → J (past ++ [step s o]) (step s o)) {s : σ}
    {os : List ο} (hs : J [s] s) (hC : Meets step C s os) :
    J (history step s os) (os.foldl step s) := by
  have hpast : ∀ past : List σ, J (past ++ [s]) s →
      J (past ++ history step s os) (os.foldl step s) := by
    clear hs
    induction os generalizing s with
    | nil =>
      intro past h
      exact h
    | cons o os ih =>
      intro past h
      have h' := hstep _ _ _ h hC.1
      have hrest := ih hC.2 (past ++ [s]) h'
      rwa [List.append_assoc] at hrest
  exact hpast [] hs

theorem last_mem_history (s : σ) (os : List ο) : os.foldl step s ∈ history step s os := by
  induction os generalizing s with
  | nil => exact List.mem_singleton_self s
  | cons o os ih => exact List.mem_cons_of_mem _ (ih (step s o))

/-- **The invariant rule**, for every state a run goes through. -/
theorem inv_history {Inv : σ → Prop} {C : σ → ο → Prop}
    (hstep : ∀ s o, Inv s → C s o → Inv (step s o)) {s : σ} {os : List ο} (hs : Inv s)
    (hC : Meets step C s os) : ∀ s' ∈ history step s os, Inv s' := by
  induction os generalizing s with
  | nil =>
    intro s' hs'
    rw [List.mem_singleton.mp hs']
    exact hs
  | cons o os ih =>
    intro s' hs'
    rcases List.mem_cons.mp hs' with rfl | hs'
    · exact hs
    · exact ih (hstep s o hs hC.1) hC.2 s' hs'

/-- **The condition rule.** Steps that meet the condition keep the invariant, and one that does not
breaks what the invariant gives. -/
theorem history_iff {Inv P : σ → Prop} {C : σ → ο → Prop}
    (hstep : ∀ s o, Inv s → C s o → Inv (step s o)) (hP : ∀ s, Inv s → P s)
    (hC : ∀ s o, Inv s → P (step s o) → C s o) {s : σ} {os : List ο} (hs : Inv s) :
    (∀ s' ∈ history step s os, P s') ↔ Meets step C s os := by
  constructor
  · intro h
    induction os generalizing s with
    | nil => trivial
    | cons o os ih =>
      have hfirst : step s o ∈ history step (step s o) os := by
        cases os with
        | nil => exact List.mem_singleton_self _
        | cons => exact List.mem_cons_self
      have hmeets := hC s o hs (h _ (List.mem_cons_of_mem s hfirst))
      exact ⟨hmeets, ih (hstep s o hs hmeets) fun s' hs' => h s' (List.mem_cons_of_mem s hs')⟩
  · intro h s' hs'
    exact hP s' (inv_history hstep hs h s' hs')

/-- **The condition rule**, for an invariant and what every step does. -/
theorem history_meets_iff {Inv : σ → Prop} {C D : σ → ο → Prop}
    (hstep : ∀ s o, Inv s → (Inv (step s o) ∧ D s o ↔ C s o)) {s : σ} {os : List ο} (hs : Inv s) :
    ((∀ s' ∈ history step s os, Inv s') ∧ Meets step D s os) ↔ Meets step C s os := by
  induction os generalizing s with
  | nil => exact iff_of_true ⟨fun s' hs' => List.mem_singleton.mp hs' ▸ hs, trivial⟩ trivial
  | cons o os ih =>
    constructor
    · rintro ⟨hall, hD, hrest⟩
      have hall' : ∀ s' ∈ history step (step s o) os, Inv s' := fun s' hs' =>
        hall s' (List.mem_cons_of_mem s hs')
      have hnext : Inv (step s o) := by
        cases os with
        | nil => exact hall' _ (List.mem_singleton_self _)
        | cons => exact hall' _ List.mem_cons_self
      exact ⟨(hstep s o hs).mp ⟨hnext, hD⟩, (ih hnext).mp ⟨hall', hrest⟩⟩
    · rintro ⟨hC, hrest⟩
      obtain ⟨hnext, hD⟩ := (hstep s o hs).mpr hC
      obtain ⟨hall, hrest⟩ := (ih hnext).mpr hrest
      exact ⟨List.forall_mem_cons.mpr ⟨hs, hall⟩, hD, hrest⟩

/-! ## Logs -/

section

variable {α : Type} {record : σ → ο → List α}

/-- What a run logs. -/
def logged (step : σ → ο → σ) (record : σ → ο → List α) : σ → List ο → List α
  | _, [] => []
  | s, o :: os => record s o ++ logged step record (step s o) os

/-- **The log rule.** -/
theorem inv_logged {J : List α → σ → Prop} {C : σ → ο → Prop}
    (hstep : ∀ log s o, J log s → C s o → J (log ++ record s o) (step s o)) {s : σ} {os : List ο}
    (hs : J [] s) (hC : Meets step C s os) : J (logged step record s os) (os.foldl step s) := by
  have hfrom : ∀ log, J log s → J (log ++ logged step record s os) (os.foldl step s) := by
    clear hs
    induction os generalizing s with
    | nil =>
      intro log h
      rwa [logged, List.append_nil]
    | cons o os ih =>
      intro log h
      rw [logged, ← List.append_assoc]
      exact ih hC.2 _ (hstep log s o h hC.1)
  exact hfrom [] hs

/-- What a step makes true of its records, and every later step keeps, is true in the last state. -/
theorem forall_logged {P : σ → α → Prop} {C : σ → ο → Prop}
    (hrecord : ∀ s o, C s o → ∀ a ∈ record s o, P (step s o) a)
    (hkept : ∀ s o a, P s a → P (step s o) a) {s : σ} {os : List ο} (hC : Meets step C s os) :
    ∀ a ∈ logged step record s os, P (os.foldl step s) a := by
  refine inv_logged (J := fun log s => ∀ a ∈ log, P s a) (fun log s o hlog hC a ha => ?_)
    (fun a ha => absurd ha List.not_mem_nil) hC
  rcases List.mem_append.mp ha with hbefore | hnow
  · exact hkept s o a (hlog a hbefore)
  · exact hrecord s o hC a hnow

end

end Lib
