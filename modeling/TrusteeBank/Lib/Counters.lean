import Mathlib.Algebra.BigOperators.Group.Finset.Piecewise
import TrusteeBank.Lib.Interleave

/-!
# Read, add, write back

Calls share counters. A call reads some of them, adds its change to what it has read, and writes
the sums back in one step. The write is absolute, so it undoes what another call has written since
the read.

A call can still fail when it has written: what it wrote stays, though it reports no success.

**Theorem (`Counters.no_lost_update`).** If no counter that a call writes was written by another
call since it was read, and no call that writes fails afterwards, then, when all calls have ended,
every counter is what it was plus the changes of the calls that succeeded.
-/

set_option autoImplicit false

namespace Lib

variable {ι κ σ γ M ε α β : Type}

/-- Counters `γ` with values in `M`, and the calls that change them. -/
structure Counters (ι κ σ γ M : Type) [AddCommMonoid M] where
  value : σ → γ → M
  /-- What is true of the state all the time. -/
  valid : σ → Prop
  /-- The call writes the counter. -/
  touches : ι → γ → Prop
  change : ι → γ → M
  /-- The label of the read of a counter. -/
  read : γ → κ
  write : ι → κ
  /-- Once it has written, the call does not fail. -/
  commits : ι → Prop
  read_ne_write : ∀ c i, read c ≠ write i
  change_untouched : ∀ i c, ¬touches i c → change i c = 0

/-- How far a call has come. -/
inductive Update (γ M : Type)
  /-- The values it has read. -/
  | reading (seen : γ → Option M)
  | written
  /-- It failed after its write. -/
  | failed

/-- What the call has contributed. -/
def Update.contribution [Zero M] (m : M) : Update γ M → M
  | reading _ => 0
  | written | failed => m

@[simp] theorem Update.contribution_reading [Zero M] (seen : γ → Option M) (m : M) :
    (Update.reading seen).contribution m = 0 := rfl

@[simp] theorem Update.contribution_written [Zero M] (m : M) :
    (Update.written : Update γ M).contribution m = m := rfl

/-- The call has ended well. -/
def Call.succeeded : Call κ σ ε α → Bool
  | .done (.ok _) => true
  | _ => false

namespace Counters

variable [DecidableEq κ] [AddCommMonoid M] {X : Counters ι κ σ γ M} {i : ι}

/-! ## One call -/

/-- What is seen after a step labelled `q` in the state `s`. -/
def look (X : Counters ι κ σ γ M) (s : σ) (q : κ) (seen : γ → Option M) (c : γ) : Option M :=
  if X.read c = q then some (X.value s c) else seen c

/-- What a step may do to the counters. -/
inductive Move (X : Counters ι κ σ γ M) (i : ι) : Update γ M → κ → σ → σ → Update γ M → Prop
  | quiet {seen : γ → Option M} {q : κ} {s s' : σ} (hvalue : ∀ c, X.value s' c = X.value s c) :
      Move X i (.reading seen) q s s' (.reading (X.look s q seen))
  | after {q : κ} {s s' : σ} (hvalue : ∀ c, X.value s' c = X.value s c) :
      Move X i .written q s s' .written
  | fail {q : κ} {s : σ} (hfail : ¬X.commits i) : Move X i .written q s s .failed
  | write {seen : γ → Option M} {s s' : σ}
      (htouched : ∀ c, X.touches i c → ∃ m, seen c = some m ∧ X.value s' c = m + X.change i c)
      (huntouched : ∀ c, ¬X.touches i c → X.value s' c = X.value s c) :
      Move X i (.reading seen) (X.write i) s s' .written

/-- The moves of the calls, in valid states. -/
def protocol (X : Counters ι κ σ γ M) (i : ι) (φ : Update γ M) (q : κ) (s s' : σ)
    (φ' : Update γ M) : Prop :=
  X.Move i φ q s s' φ' ∧ X.valid s'

/-- A call that succeeds has written, and one that fails has not, or has failed since. -/
def closes : Update γ M → Except ε α → Prop
  | .written, .ok _ => True
  | .written, .error _ => False
  | _, .ok _ => False
  | _, .error _ => True

/-- The steps of a call are moves on the counters. -/
abbrev Updates (X : Counters ι κ σ γ M) (i : ι) (x : Call κ σ ε α) (φ : Update γ M) : Prop :=
  x.Obeys (X.protocol i) X.valid closes φ

theorem look_of_ne {s : σ} {q : κ} (hq : ∀ c, X.read c ≠ q) (seen : γ → Option M) :
    X.look s q seen = seen := by
  funext c
  exact if_neg (hq c)

section

variable {seen : γ → Option M} {q : κ}

/-- A read of something else. -/
theorem Updates.skip_bind {g : σ → α} {f : α → Call κ σ ε β} (hq : ∀ c, X.read c ≠ q)
    (h : ∀ s, X.valid s → X.Updates i (f (g s)) (.reading seen)) :
    X.Updates i (Call.read q g >>= f) (.reading seen) := by
  refine Call.Obeys.read_bind fun s hs => ⟨_, ⟨.quiet fun _ => rfl, hs⟩, ?_⟩
  rw [look_of_ne hq]
  exact h s hs

/-- A read of counters. -/
theorem Updates.look_bind {g : σ → α} {f : α → Call κ σ ε β}
    (h : ∀ s, X.valid s → X.Updates i (f (g s)) (.reading (X.look s q seen))) :
    X.Updates i (Call.read q g >>= f) (.reading seen) :=
  Call.Obeys.read_bind fun s hs => ⟨_, ⟨.quiet fun _ => rfl, hs⟩, h s hs⟩

/-- A transaction that leaves the counters as they are. -/
theorem Updates.quiet_bind {g : StateT σ (Except ε) α} {f : α → Call κ σ ε β}
    (hq : ∀ c, X.read c ≠ q)
    (hg : ∀ s a s', X.valid s → g s = .ok (a, s') →
      (∀ c, X.value s' c = X.value s c) ∧ X.valid s' ∧ X.Updates i (f a) (.reading seen)) :
    X.Updates i (Call.query q g >>= f) (.reading seen) := by
  refine Call.Obeys.query_bind (fun s a s' hs hs' => ?_) fun s e hs _ => ?_
  · obtain ⟨hvalue, hvalid, h⟩ := hg s a s' hs hs'
    refine ⟨_, ⟨.quiet hvalue, hvalid⟩, ?_⟩
    rwa [look_of_ne hq]
  · exact ⟨_, ⟨.quiet fun _ => rfl, hs⟩, trivial⟩

/-- A transaction after the counters are written, which fails only if the call does not commit. -/
theorem Updates.after_bind {g : StateT σ (Except ε) α} {f : α → Call κ σ ε β}
    (hg : ∀ s a s', X.valid s → g s = .ok (a, s') →
      (∀ c, X.value s' c = X.value s c) ∧ X.valid s')
    (herr : ∀ s e, X.valid s → g s = .error e → ¬X.commits i)
    (h : ∀ a, X.Updates i (f a) .written) : X.Updates i (Call.query q g >>= f) .written := by
  refine Call.Obeys.query_bind (fun s a s' hs hs' => ?_) fun s e hs he => ?_
  · obtain ⟨hvalue, hvalid⟩ := hg s a s' hs hs'
    exact ⟨.written, ⟨.after hvalue, hvalid⟩, h a⟩
  · exact ⟨.failed, ⟨.fail (herr s e hs he), hs⟩, trivial⟩

/-- The write. -/
theorem Updates.write_bind {g : StateT σ (Except ε) α} {f : α → Call κ σ ε β}
    (hg : ∀ s a s', X.valid s → g s = .ok (a, s') →
      (∀ c, X.touches i c → ∃ m, seen c = some m ∧ X.value s' c = m + X.change i c) ∧
      (∀ c, ¬X.touches i c → X.value s' c = X.value s c) ∧ X.valid s')
    (h : ∀ a, X.Updates i (f a) .written) :
    X.Updates i (Call.query (X.write i) g >>= f) (.reading seen) := by
  refine Call.Obeys.query_bind (fun s a s' hs hs' => ?_) fun s e hs _ => ?_
  · obtain ⟨htouched, huntouched, hvalid⟩ := hg s a s' hs hs'
    exact ⟨.written, ⟨.write htouched huntouched, hvalid⟩, h a⟩
  · exact ⟨_, ⟨.quiet fun _ => rfl, hs⟩, trivial⟩

/-- A call that forgets its result. -/
theorem Updates.void {x : Call κ σ ε α} {φ : Update γ M} (hx : X.Updates i x φ) :
    X.Updates i x.void φ := by
  refine Call.Obeys.bind hx ?_ ?_
  · intro φ' a h
    cases φ' with
    | reading seen => exact h.elim
    | written => exact trivial
    | failed => exact h.elim
  · intro φ' e h
    cases φ' with
    | reading seen => exact trivial
    | written => exact h.elim
    | failed => exact trivial

end

/-! ## Every schedule -/

variable [DecidableEq ι]

/-- Whoever writes counters has read them after everyone else's write of them, and does not fail
any more. -/
def WritesFresh (X : Counters ι κ σ γ M) (p : Pool ι κ σ ε α) (i : ι) : Prop :=
  (p.calls i).next? = some (X.write i) → X.commits i ∧ ∀ c, X.touches i c →
    ∀ e ∈ p.since (i, X.read c), X.touches e.1 c → e.2 ≠ X.write e.1

/-- The call has not failed after its write, and will not. -/
def Reliable (X : Counters ι κ σ γ M) (i : ι) : Update γ M → Prop
  | .reading _ => True
  | .written => X.commits i
  | .failed => False

/-- The counters add up, and a call that would notice a write has seen the current value. -/
structure AddsUp [Fintype ι] (X : Counters ι κ σ γ M) (s₀ : σ) (p : Pool ι κ σ ε α)
    (ph : ι → Update γ M) : Prop where
  valid : X.valid p.state
  reliable : ∀ j, X.Reliable j (ph j)
  total : ∀ c, X.value p.state c =
    X.value s₀ c + ∑ j, (ph j).contribution (X.change j c)
  seen : ∀ j seen c m, ph j = .reading seen → seen c = some m →
    (∀ e ∈ p.since (j, X.read c), X.touches e.1 c → e.2 ≠ X.write e.1) → X.value p.state c = m

section

variable [Fintype ι] {s₀ : σ} {p : Pool ι κ σ ε α} {ph : ι → Update γ M} {q : κ} {eff : σ → σ}
  {next : σ → Call κ σ ε α} {φ' : Update γ M}

omit [DecidableEq κ] in
/-- The contributions after one call has moved on. -/
theorem sum_update (X : Counters ι κ σ γ M) (ph : ι → Update γ M) (i : ι) (φ' : Update γ M)
    (c : γ) : ∑ j, (Function.update ph i φ' j).contribution (X.change j c) =
    φ'.contribution (X.change i c) +
      ∑ j ∈ Finset.univ \ {i}, (ph j).contribution (X.change j c) := by
  have h : (fun j => (Function.update ph i φ' j).contribution (X.change j c)) =
      Function.update (fun j => (ph j).contribution (X.change j c)) i
        (φ'.contribution (X.change i c)) := by
    funext j
    by_cases hj : j = i
    · subst hj
      rw [Function.update_self, Function.update_self]
    · rw [Function.update_of_ne hj, Function.update_of_ne hj]
  rw [h]
  exact Finset.sum_update_of_mem (Finset.mem_univ i) _ _

/-- What another call has seen is still current, if this step did not write it unnoticed. -/
theorem AddsUp.seen_other (h : X.AddsUp s₀ p ph) (hi : p.calls i = .step q eff next)
    (φ' : Update γ M) {j : ι} (hj : j ≠ i) (c : γ) (hvalue : (X.touches i c → q ≠ X.write i) →
      X.value (eff p.state) c = X.value p.state c) {seen : γ → Option M} {m : M}
    (hphase : Function.update ph i φ' j = .reading seen) (hm : seen c = some m)
    (hunseen : ∀ e ∈ (p.step i).since (j, X.read c), X.touches e.1 c → e.2 ≠ X.write e.1) :
    X.value (eff p.state) c = m := by
  rw [Function.update_of_ne hj] at hphase
  rw [Pool.since_step_of_ne hi (by simp [Ne.symm hj]), List.forall_mem_cons] at hunseen
  exact (hvalue hunseen.1).trans (h.seen j seen c m hphase hm hunseen.2)

/-- **One step.** -/
theorem AddsUp.step (h : X.AddsUp s₀ p ph) (hfresh : X.WritesFresh p i)
    (hi : p.calls i = .step q eff next) (hδ : X.protocol i (ph i) q p.state (eff p.state) φ') :
    X.AddsUp s₀ (p.step i) (Function.update ph i φ') := by
  obtain ⟨hmove, hvalid⟩ := hδ
  have hstate : (p.step i).state = eff p.state := Pool.state_step hi
  have hother (j : ι) (hj : j ≠ i) := h.seen_other hi φ' hj
  have hreliable (hφ' : X.Reliable i φ') (j : ι) : X.Reliable j (Function.update ph i φ' j) :=
    (Function.forall_update_iff ph (p := X.Reliable)).mpr ⟨hφ', fun j _ => h.reliable j⟩ j
  have hi' := h.reliable i
  have hsum := sum_update X ph i φ'
  have hsame (c : γ) : ∑ j, (ph j).contribution (X.change j c) =
      (ph i).contribution (X.change i c) +
        ∑ j ∈ Finset.univ \ {i}, (ph j).contribution (X.change j c) := by
    rw [← sum_update, Function.update_eq_self]
  generalize hφ : ph i = φ at hmove hsame hi'
  generalize heff : eff p.state = s' at hmove hvalid hstate hother
  cases hmove with
  | @quiet seen q s s' hvalue =>
    refine ⟨hstate ▸ hvalid, hreliable trivial, ?_, ?_⟩
    · intro c
      rw [hstate, hvalue, h.total, hsum, hsame]
      rfl
    · intro j seen' c m hphase hm hunseen
      rw [hstate]
      by_cases hj : j = i
      · subst hj
        rw [Function.update_self] at hphase
        obtain rfl := Update.reading.inj hphase
        unfold look at hm
        split_ifs at hm with hq
        · rw [hvalue]
          exact Option.some.inj hm
        · rw [Pool.since_step_of_ne hi (by simp [Ne.symm hq]), List.forall_mem_cons] at hunseen
          exact (hvalue c).trans (h.seen j seen c m hφ hm hunseen.2)
      · exact hother j hj c (fun _ => hvalue c) hphase hm hunseen
  | after hvalue =>
    refine ⟨hstate ▸ hvalid, hreliable hi', ?_, ?_⟩
    · intro c
      rw [hstate, hvalue, h.total, hsum, hsame]
    · intro j seen' c m hphase hm hunseen
      rw [hstate]
      by_cases hj : j = i
      · subst hj
        rw [Function.update_self] at hphase
        cases hphase
      · exact hother j hj c (fun _ => hvalue c) hphase hm hunseen
  | fail hfail => exact absurd hi' hfail
  | @write seen s s' htouched huntouched =>
    have hnext : (p.calls i).next? = some (X.write i) := by
      rw [hi]
      rfl
    obtain ⟨hcommits, hread⟩ := hfresh hnext
    refine ⟨hstate ▸ hvalid, hreliable hcommits, ?_, ?_⟩
    · intro c
      rw [hstate, hsum]
      -- A counter it writes is still the one it has read.
      by_cases hc : X.touches i c
      · obtain ⟨m, hm, hvalue⟩ := htouched c hc
        have hcurrent := h.seen i seen c m hφ hm (hread c hc)
        rw [hvalue, ← hcurrent, h.total, hsame, Update.contribution_reading,
          Update.contribution_written, zero_add, add_right_comm, add_assoc]
      · rw [huntouched c hc, h.total, hsame, Update.contribution_reading,
          Update.contribution_written, X.change_untouched i c hc]
    · intro j seen' c m hphase hm hunseen
      rw [hstate]
      by_cases hj : j = i
      · subst hj
        rw [Function.update_self] at hphase
        cases hphase
      · refine hother j hj c (fun hnot => huntouched c fun hc => hnot hc rfl) hphase hm hunseen

/-- **No update is lost.** -/
theorem no_lost_update {s : σ} {calls : ι → Call κ σ ε α}
    (hcalls : ∀ i, X.Updates i (calls i) (.reading fun _ => none)) (hvalid : X.valid s)
    {schedule : List ι} (hfresh : Meets Pool.step X.WritesFresh (Pool.start s calls) schedule)
    (hdone : ∀ i, (((Pool.start s calls).exec schedule).calls i).next? = none) :
    X.valid ((Pool.start s calls).exec schedule).state ∧
      ∀ c, X.value ((Pool.start s calls).exec schedule).state c = X.value s c +
        ∑ i, if (((Pool.start s calls).exec schedule).calls i).succeeded then X.change i c
          else 0 := by
  have hstart : X.AddsUp s (Pool.start s calls) fun _ => .reading fun _ => none := by
    refine ⟨hvalid, fun _ => trivial, ?_, ?_⟩
    · intro c
      simp [Update.contribution, Pool.start]
    · intro j seen c m hphase hm
      cases hphase
      cases hm
  obtain ⟨ph, hsum, hobey⟩ := Pool.inv_exec (fun p ph (h : X.AddsUp s p ph) => h.valid)
    (fun p ph i q eff next φ' hinv _ hC hi hδ _ => hinv.step hC hi hδ) hstart hcalls hfresh
  refine ⟨hsum.valid, fun c => ?_⟩
  rw [hsum.total]
  congr 1
  refine Finset.sum_congr rfl fun i _ => ?_
  have hcall := hobey i
  have hnext := hdone i
  cases hr : ((Pool.start s calls).exec schedule).calls i with
  | step q eff next =>
    rw [hr] at hnext
    cases hnext
  | done r =>
    rw [hr] at hcall
    cases hφ : ph i with
    | reading seen =>
      rw [hφ] at hcall
      cases r with
      | error e => rfl
      | ok a => exact hcall.elim
    | written =>
      rw [hφ] at hcall
      cases r with
      | error e => exact hcall.elim
      | ok a => rfl
    | failed => exact (hφ ▸ hsum.reliable i).elim

end

end Counters

end Lib
