import TrusteeBank.Lib.Interleave

/-!
# Check, post, write

Many services move value the same way: read the status of a record, check it, append an entry to a
ledger, and write the new status. A `Station` is one such record with the calls that visit it. The
three steps of a visit are separate, so two calls may both check before either writes.

* `Station.posted_once`: if every status a call acts on was read after the writes of the calls that
  posted before, at most one entry is posted;
* `Station.posted_final`: if in addition no call overwrites a status that was settled behind its
  back, a record with an entry ends in a final status.
-/

set_option autoImplicit false

namespace Lib

variable {ι κ σ ε α : Type}

/-- A record: its status as predicates on the state, how many entries it has, the calls that post,
and the labels of the steps of a visit. -/
structure Station (ι κ σ : Type) where
  /-- A call that reads such a status may post. -/
  pending : σ → Prop
  /-- The status a call writes after it posted. -/
  final : σ → Prop
  posted : σ → Nat
  /-- What is true of the record all the time. -/
  valid : σ → Prop
  poster : ι → Prop
  read : κ
  write : κ
  post : κ → Prop
  read_ne_write : read ≠ write
  post_ne : ∀ q, post q → q ≠ read ∧ q ≠ write

/-- How far a call has come. -/
inductive Visit (σ : Type)
  | outside
  /-- It has read the status in this state. -/
  | inside (s : σ)
  | posted
  | left

/-- The call has posted, or will not. -/
def Visit.Past (φ : Visit σ) : Prop := φ = .posted ∨ φ = .left

namespace Station

/-- What a step may do to the record. -/
inductive Move (X : Station ι κ σ) (i : ι) : Visit σ → κ → σ → σ → Visit σ → Prop
  | other {φ : Visit σ} {q : κ} {s s' : σ} (hread : q ≠ X.read) (hwrite : q ≠ X.write)
      (hpending : X.pending s' ↔ X.pending s) (hfinal : X.final s' ↔ X.final s)
      (hposted : X.posted s' = X.posted s) : Move X i φ q s s' φ
  | enter {φ : Visit σ} {s : σ} (hφ : φ = .outside ∨ ∃ t, φ = .inside t) :
      Move X i φ X.read s s (.inside s)
  | post {t : σ} {q : κ} {s s' : σ} (hpost : X.post q) (hposter : X.poster i) (ht : X.pending t)
      (hpending : X.pending s' ↔ X.pending s) (hfinal : X.final s' ↔ X.final s)
      (hposted : X.posted s' = X.posted s + 1) : Move X i (.inside t) q s s' .posted
  | settle {s s' : σ} (hposter : X.poster i) (hpending : ¬X.pending s') (hfinal : X.final s')
      (hposted : X.posted s' = X.posted s) : Move X i .posted X.write s s' .left
  | overwrite {t s s' : σ} (hposter : ¬X.poster i) (ht : ¬X.final t) (hpending : ¬X.pending s')
      (hfinal : ¬X.final s') (hposted : X.posted s' = X.posted s) :
      Move X i (.inside t) X.write s s' .left

theorem Move.past {X : Station ι κ σ} {i : ι} {φ φ' : Visit σ} {q : κ} {s s' : σ}
    (h : X.Move i φ q s s' φ') (hφ : φ.Past) : φ'.Past := by
  cases h with
  | other hread hwrite hpending hfinal hposted => exact hφ
  | enter henter => rcases henter with rfl | ⟨t, rfl⟩ <;> rcases hφ with hφ | hφ <;> cases hφ
  | post hpost hposter ht hpending hfinal hposted => exact .inl rfl
  | settle hposter hpending hfinal hposted => exact .inr rfl
  | overwrite hposter ht hpending hfinal hposted => exact .inr rfl

/-- The moves of the calls, in states where the record is what it is. -/
def protocol (X : Station ι κ σ) (i : ι) (φ : Visit σ) (q : κ) (s s' : σ) (φ' : Visit σ) : Prop :=
  X.Move i φ q s s' φ' ∧ X.valid s'

/-- A call does not end between its entry and its status. -/
def closes (φ : Visit σ) (_ : Except ε α) : Prop := φ ≠ .posted

theorem closes_outside (r : Except ε α) : closes (.outside : Visit σ) r := by
  intro h
  cases h

theorem closes_inside (t : σ) (r : Except ε α) : closes (.inside t) r := by
  intro h
  cases h

theorem closes_left (r : Except ε α) : closes (.left : Visit σ) r := by
  intro h
  cases h

/-! ## One call -/

/-- The steps of a call are moves at the station. -/
abbrev Visits (X : Station ι κ σ) (i : ι) (Q : Visit σ → Except ε α → Prop) (x : Call κ σ ε α)
    (φ : Visit σ) : Prop :=
  x.Obeys (X.protocol i) X.valid Q φ

/-- The record is as it was. -/
structure Same (X : Station ι κ σ) (s s' : σ) : Prop where
  pending : X.pending s' ↔ X.pending s
  final : X.final s' ↔ X.final s
  posted : X.posted s' = X.posted s
  valid : X.valid s → X.valid s'

/-- A step that is not seen at the station. -/
theorem Same.other {X : Station ι κ σ} {i : ι} {q : κ} {s s' : σ} (h : X.Same s s')
    (hread : q ≠ X.read) (hwrite : q ≠ X.write) (hs : X.valid s) (φ : Visit σ) :
    X.protocol i φ q s s' φ :=
  ⟨.other hread hwrite h.pending h.final h.posted, h.valid hs⟩

theorem Same.refl (X : Station ι κ σ) (s : σ) : X.Same s s := ⟨Iff.rfl, Iff.rfl, rfl, id⟩

section

variable {β : Type} {X : Station ι κ σ} {i : ι} {Q : Visit σ → Except ε β → Prop} {φ : Visit σ}

/-- A read of something else. -/
theorem Visits.read_bind {q : κ} {g : σ → α} {f : α → Call κ σ ε β} (hread : q ≠ X.read)
    (hwrite : q ≠ X.write) (h : ∀ s, X.valid s → X.Visits i Q (f (g s)) φ) :
    X.Visits i Q (Call.read q g >>= f) φ :=
  Call.Obeys.read_bind fun s hs => ⟨φ, (Same.refl X s).other hread hwrite hs φ, h s hs⟩

/-- The read of the status. -/
theorem Visits.enter_bind {g : σ → α} {f : α → Call κ σ ε β}
    (hφ : φ = .outside ∨ ∃ t, φ = .inside t)
    (h : ∀ s, X.valid s → X.Visits i Q (f (g s)) (.inside s)) :
    X.Visits i Q (Call.read X.read g >>= f) φ :=
  Call.Obeys.read_bind fun s hs => ⟨.inside s, ⟨.enter hφ, hs⟩, h s hs⟩

/-- A transaction that leaves the record as it is. -/
theorem Visits.query_bind {q : κ} {g : StateT σ (Except ε) α} {f : α → Call κ σ ε β}
    (hread : q ≠ X.read) (hwrite : q ≠ X.write)
    (hg : ∀ s a s', g s = .ok (a, s') → X.Same s s') (herr : ∀ e, Q φ (.error e))
    (h : ∀ a, X.Visits i Q (f a) φ) : X.Visits i Q (Call.query q g >>= f) φ := by
  refine Call.Obeys.query_bind (fun s a s' hs hs' => ?_) fun s e hs _ => ?_
  · exact ⟨φ, (hg s a s' hs').other hread hwrite hs φ, h a⟩
  · exact ⟨φ, (Same.refl X s).other hread hwrite hs φ, herr e⟩

end

/-! ## Schedules -/

section

variable [DecidableEq ι] [DecidableEq κ] (X : Station ι κ σ)

/-- Whoever posts has read the status after everyone who posted before wrote it. -/
def PostsFresh (p : Pool ι κ σ ε α) (i : ι) : Prop :=
  X.poster i → (∃ q, (p.calls i).next? = some q ∧ X.post q) →
    ∀ e ∈ p.history, e.1 ≠ i → X.poster e.1 → X.post e.2 → (e.1, X.write) ∈ p.upTo (i, X.read)

/-- Whoever writes a status without posting has read it after everyone who posted wrote it. -/
def WritesFresh (p : Pool ι κ σ ε α) (i : ι) : Prop :=
  ¬X.poster i → (p.calls i).next? = some X.write →
    ∀ e ∈ p.since (i, X.read), X.poster e.1 → e.2 ≠ X.write

end

variable [DecidableEq ι] [DecidableEq κ] {X : Station ι κ σ}

/-! ## One entry -/

/-- Entries come from calls that are past their check, and a status written is not pending. -/
structure Sound (X : Station ι κ σ) (n : Nat) (p : Pool ι κ σ ε α) (ph : ι → Visit σ) : Prop where
  valid : X.valid p.state
  once : X.posted p.state ≤ 1
  origin : X.posted p.state ≠ n → ∃ e ∈ p.history, X.poster e.1 ∧ X.post e.2 ∧ (ph e.1).Past
  written : (n ≠ 0 ∨ ∃ j, (j, X.write) ∈ p.history) → ¬X.pending p.state
  stale : ∀ i t, ph i = .inside t → (n ≠ 0 ∨ ∃ j, (j, X.write) ∈ p.upTo (i, X.read)) →
    ¬X.pending t

section

variable {n : Nat} {p : Pool ι κ σ ε α} {ph : ι → Visit σ} {i : ι} {q : κ} {eff : σ → σ}
  {next : σ → Call κ σ ε α} {φ' : Visit σ}

/-- The entries are still those of calls past their check. -/
theorem Sound.origin_step (h : X.Sound n p ph) (hi : p.calls i = .step q eff next)
    (hpast : (ph i).Past → φ'.Past) (hne : X.posted p.state ≠ n) :
    ∃ e ∈ (p.step i).history, X.poster e.1 ∧ X.post e.2 ∧ (Function.update ph i φ' e.1).Past := by
  obtain ⟨e, he, hposter, hpost, hphase⟩ := h.origin hne
  refine ⟨e, ?_, hposter, hpost, ?_⟩
  · rw [Pool.history_step hi]
    exact List.mem_cons_of_mem _ he
  · by_cases hei : e.1 = i
    · rw [hei, Function.update_self]
      exact hpast (hei ▸ hphase)
    · rw [Function.update_of_ne hei]
      exact hphase

/-- What a call has read stays as stale as it was, unless it reads again. -/
theorem Sound.stale_step (h : X.Sound n p ph) (hi : p.calls i = .step q eff next)
    (hq : q ≠ X.read) (hstay : ∀ t, φ' = .inside t → ph i = .inside t) (j : ι) (t : σ)
    (hj : Function.update ph i φ' j = .inside t)
    (hwritten : n ≠ 0 ∨ ∃ k, (k, X.write) ∈ (p.step i).upTo (j, X.read)) : ¬X.pending t := by
  rw [Pool.upTo_step_of_ne hi (by simp [hq])] at hwritten
  refine h.stale j t ?_ hwritten
  by_cases hji : j = i
  · subst hji
    rw [Function.update_self] at hj
    exact hstay t hj
  · rwa [Function.update_of_ne hji] at hj

omit [DecidableEq κ] in
/-- Another step than a write leaves the writes as they are. -/
theorem written_step (hi : p.calls i = .step q eff next) (hq : q ≠ X.write)
    (h : n ≠ 0 ∨ ∃ j, (j, X.write) ∈ (p.step i).history) :
    n ≠ 0 ∨ ∃ j, (j, X.write) ∈ p.history := by
  refine h.imp_right ?_
  rintro ⟨j, hj⟩
  rw [Pool.history_step hi, List.mem_cons] at hj
  rcases hj with hj | hj
  · cases hj
    exact absurd rfl hq
  · exact ⟨j, hj⟩

/-- A call that posts from a fresh status finds no entry. -/
theorem Sound.unposted (h : X.Sound n p ph) (hfresh : X.PostsFresh p i)
    (hi : p.calls i = .step q eff next) (hpost : X.post q) (hposter : X.poster i) {t : σ}
    (hphase : ph i = .inside t) (ht : X.pending t) : X.posted p.state = 0 := by
  by_contra hne
  by_cases hn : X.posted p.state = n
  · exact h.stale i t hphase (.inl (hn ▸ hne)) ht
  · obtain ⟨e, he, heposter, hepost, hepast⟩ := h.origin hn
    have hei : e.1 ≠ i := by
      intro hei
      rw [hei, hphase] at hepast
      rcases hepast with hepast | hepast <;> cases hepast
    have hnext : (p.calls i).next? = some q := by
      rw [hi]
      rfl
    have hwrite := hfresh hposter ⟨q, hnext, hpost⟩ e he hei heposter hepost
    exact h.stale i t hphase (.inr ⟨e.1, hwrite⟩) ht

/-- **One step.** -/
theorem Sound.step (h : X.Sound n p ph) (hfresh : X.PostsFresh p i)
    (hi : p.calls i = .step q eff next) (hδ : X.protocol i (ph i) q p.state (eff p.state) φ') :
    X.Sound n (p.step i) (Function.update ph i φ') := by
  obtain ⟨hmove, hvalid⟩ := hδ
  have hpast : (ph i).Past → φ'.Past := hmove.past
  have hstate : (p.step i).state = eff p.state := Pool.state_step hi
  generalize hφ : ph i = φ at hmove
  generalize eff p.state = s' at hmove hvalid hstate
  cases hmove with
  | other hread hwrite hpending hfinal hposted =>
    refine ⟨hstate ▸ hvalid, ?_, ?_, ?_, h.stale_step hi hread fun t ht => hφ.trans ht⟩
    · rw [hstate, hposted]
      exact h.once
    · rw [hstate, hposted]
      exact h.origin_step hi hpast
    · rw [hstate, hpending]
      exact fun hwritten => h.written (written_step hi hwrite hwritten)
  | enter henter =>
    refine ⟨hstate ▸ hvalid, ?_, ?_, ?_, ?_⟩
    · rw [hstate]
      exact h.once
    · rw [hstate]
      exact h.origin_step hi hpast
    · rw [hstate]
      exact fun hwritten => h.written (written_step hi X.read_ne_write hwritten)
    · intro j t hj hwritten
      by_cases hji : j = i
      · subst hji
        rw [Function.update_self] at hj
        cases hj
        rw [Pool.upTo_step_self hi, ← Pool.history_step hi] at hwritten
        exact h.written (written_step hi X.read_ne_write hwritten)
      · rw [Function.update_of_ne hji] at hj
        rw [Pool.upTo_step_of_ne hi (by simp [Ne.symm hji])] at hwritten
        exact h.stale j t hj hwritten
  | @post t _ _ _ hpost hposter ht hpending hfinal hposted =>
    have hnone : X.posted p.state = 0 := h.unposted hfresh hi hpost hposter hφ ht
    obtain ⟨hread, hwrite⟩ := X.post_ne q hpost
    refine ⟨hstate ▸ hvalid, ?_, ?_, ?_, h.stale_step hi hread fun t ht => by cases ht⟩
    · have hone : X.posted (p.step i).state = 1 := by rw [hstate, hposted, hnone, Nat.zero_add]
      exact Nat.le_of_eq hone
    · intro _
      refine ⟨(i, q), ?_, hposter, hpost, ?_⟩
      · rw [Pool.history_step hi]
        exact List.mem_cons_self
      · rw [Function.update_self]
        exact .inl rfl
    · rw [hstate, hpending]
      exact fun hwritten => h.written (written_step hi hwrite hwritten)
  | settle hposter hpending hfinal hposted =>
    refine ⟨hstate ▸ hvalid, ?_, ?_, ?_,
      h.stale_step hi X.read_ne_write.symm fun t ht => by cases ht⟩
    · rw [hstate, hposted]
      exact h.once
    · rw [hstate, hposted]
      exact h.origin_step hi hpast
    · rw [hstate]
      exact fun _ => hpending
  | overwrite hposter ht hpending hfinal hposted =>
    refine ⟨hstate ▸ hvalid, ?_, ?_, ?_,
      h.stale_step hi X.read_ne_write.symm fun t ht => by cases ht⟩
    · rw [hstate, hposted]
      exact h.once
    · rw [hstate, hposted]
      exact h.origin_step hi hpast
    · rw [hstate]
      exact fun _ => hpending

/-! ## The last status -/

/-- A record with an entry is final, or a call is about to make it final; and a call that has read
a status that is not final will notice if a poster writes. -/
structure Backed (X : Station ι κ σ) (p : Pool ι κ σ ε α) (ph : ι → Visit σ) : Prop where
  valid : X.valid p.state
  backed : X.posted p.state ≠ 0 → X.final p.state ∨ ∃ i, ph i = .posted
  seen : ∀ i t, ph i = .inside t → (∀ e ∈ p.since (i, X.read), X.poster e.1 → e.2 ≠ X.write) →
    X.final p.state → X.final t

/-- The calls inside still notice, if no poster wrote and the status did not become final. -/
theorem Backed.seen_step (h : X.Backed p ph) (hi : p.calls i = .step q eff next)
    (φ' : Visit σ) (hq : q ≠ X.read) (hstay : ∀ t, φ' = .inside t → ph i = .inside t)
    (hless : (X.poster i → q ≠ X.write) → X.final (eff p.state) → X.final p.state) (j : ι) (t : σ)
    (hj : Function.update ph i φ' j = .inside t)
    (hunseen : ∀ e ∈ (p.step i).since (j, X.read), X.poster e.1 → e.2 ≠ X.write)
    (hfinal : X.final (eff p.state)) : X.final t := by
  rw [Pool.since_step_of_ne hi (by simp [hq]), List.forall_mem_cons] at hunseen
  refine h.seen j t ?_ hunseen.2 (hless hunseen.1 hfinal)
  by_cases hji : j = i
  · subst hji
    rw [Function.update_self] at hj
    exact hstay t hj
  · rwa [Function.update_of_ne hji] at hj

omit [DecidableEq κ] in
/-- A call that has posted and does not step still has its status to write. -/
theorem posted_step (h : ∃ j, ph j = .posted) (hi : ph i ≠ .posted) :
    ∃ j, Function.update ph i φ' j = .posted := by
  obtain ⟨j, hj⟩ := h
  have hji : j ≠ i := by
    rintro rfl
    exact hi hj
  refine ⟨j, ?_⟩
  rw [Function.update_of_ne hji]
  exact hj

/-- **One step.** -/
theorem Backed.step (h : X.Backed p ph) (hfresh : X.WritesFresh p i)
    (hi : p.calls i = .step q eff next) (hδ : X.protocol i (ph i) q p.state (eff p.state) φ') :
    X.Backed (p.step i) (Function.update ph i φ') := by
  obtain ⟨hmove, hvalid⟩ := hδ
  have hstate : (p.step i).state = eff p.state := Pool.state_step hi
  have hseen := h.seen_step hi φ'
  generalize hφ : ph i = φ at hmove
  generalize eff p.state = s' at hmove hvalid hstate hseen
  cases hmove with
  | other hread hwrite hpending hfinal hposted =>
    refine ⟨hstate ▸ hvalid, ?_, ?_⟩
    · rw [hstate, hposted, hfinal]
      intro hne
      rcases h.backed hne with hdone | hopen
      · exact .inl hdone
      · right
        rw [← hφ, Function.update_eq_self]
        exact hopen
    · rw [hstate]
      exact hseen hread (fun t ht => hφ.trans ht) fun _ => hfinal.mp
  | enter henter =>
    have hnot : ph i ≠ .posted := by
      intro hposted
      rw [← hφ, hposted] at henter
      rcases henter with henter | ⟨t, henter⟩ <;> cases henter
    refine ⟨hstate ▸ hvalid, ?_, ?_⟩
    · rw [hstate]
      exact fun hne => (h.backed hne).imp_right fun hopen => posted_step hopen hnot
    · rw [hstate]
      intro j t hj hunseen hfinal
      by_cases hji : j = i
      · subst hji
        rw [Function.update_self] at hj
        cases hj
        exact hfinal
      · rw [Function.update_of_ne hji] at hj
        rw [Pool.since_step_of_ne hi (by simp [Ne.symm hji]), List.forall_mem_cons] at hunseen
        exact h.seen j t hj hunseen.2 hfinal
  | post hpost hposter ht hpending hfinal hposted =>
    refine ⟨hstate ▸ hvalid, ?_, ?_⟩
    · intro _
      refine .inr ⟨i, ?_⟩
      rw [Function.update_self]
    · rw [hstate]
      exact hseen (X.post_ne q hpost).1 (fun t ht => by cases ht) fun _ => hfinal.mp
  | settle hposter hpending hfinal hposted =>
    refine ⟨hstate ▸ hvalid, ?_, ?_⟩
    · rw [hstate]
      exact fun _ => .inl hfinal
    · rw [hstate]
      exact hseen X.read_ne_write.symm (fun t ht => by cases ht)
        fun hnot => absurd rfl (hnot hposter)
  | @overwrite t _ _ hposter ht hpending hfinal hposted =>
    have hnot : ph i ≠ .posted := by
      rw [hφ]
      intro h
      cases h
    refine ⟨hstate ▸ hvalid, ?_, ?_⟩
    · rw [hstate, hposted]
      intro hne
      -- The status this call read was not final, so no poster wrote one before.
      rcases h.backed hne with hdone | hopen
      · have hnext : (p.calls i).next? = some X.write := by
          rw [hi]
          rfl
        exact absurd (h.seen i t hφ (hfresh hposter hnext) hdone) ht
      · exact .inr (posted_step hopen hnot)
    · rw [hstate]
      exact hseen X.read_ne_write.symm (fun t ht => by cases ht) fun _ h => absurd h hfinal

end

/-! ## Every schedule -/

section

variable {Q : Visit σ → Except ε α → Prop} {s : σ} {calls : ι → Call κ σ ε α}

/-- **At most one entry.** -/
theorem posted_once (hcalls : ∀ i, X.Visits i Q (calls i) .outside)
    (hvalid : X.valid s) (honce : X.posted s ≤ 1) (hpending : X.pending s → X.posted s = 0)
    {schedule : List ι} (hfresh : Meets Pool.step X.PostsFresh (Pool.start s calls) schedule) :
    X.posted ((Pool.start s calls).exec schedule).state ≤ 1 ∧
      X.valid ((Pool.start s calls).exec schedule).state := by
  have hstart : X.Sound (X.posted s) (Pool.start s calls) fun _ => .outside := by
    refine ⟨hvalid, honce, fun hne => absurd rfl hne, ?_, fun i t h => by cases h⟩
    rintro (hne | ⟨j, hj⟩)
    · exact fun h => hne (hpending h)
    · cases hj
  obtain ⟨ph, hsound, -⟩ := Pool.inv_exec (fun p ph (h : X.Sound (X.posted s) p ph) => h.valid)
    (fun p ph i q eff next φ' hinv _ hC hi hδ _ => hinv.step hC hi hδ) hstart hcalls hfresh
  exact ⟨hsound.once, hsound.valid⟩

/-- **A record with an entry ends final.** -/
theorem posted_final (hcalls : ∀ i, X.Visits i closes (calls i) .outside)
    (hvalid : X.valid s) (hfinal : X.posted s ≠ 0 → X.final s) {schedule : List ι}
    (hfresh : Meets Pool.step X.WritesFresh (Pool.start s calls) schedule)
    (hdone : ∀ i, (((Pool.start s calls).exec schedule).calls i).next? = none)
    (hposted : X.posted ((Pool.start s calls).exec schedule).state ≠ 0) :
    X.final ((Pool.start s calls).exec schedule).state := by
  have hstart : X.Backed (Pool.start s calls) fun _ => .outside :=
    ⟨hvalid, fun hne => .inl (hfinal hne), fun i t h => by cases h⟩
  obtain ⟨ph, hbacked, hobey⟩ := Pool.inv_exec (fun p ph (h : X.Backed p ph) => h.valid)
    (fun p ph i q eff next φ' hinv _ hC hi hδ _ => hinv.step hC hi hδ) hstart hcalls hfresh
  rcases hbacked.backed hposted with h | ⟨i, hi⟩
  · exact h
  · have hcall := hobey i
    have hnext := hdone i
    cases hr : ((Pool.start s calls).exec schedule).calls i with
    | done r =>
      rw [hr] at hcall
      exact absurd hi hcall
    | step q eff next =>
      rw [hr] at hnext
      cases hnext

end

end Station

end Lib
