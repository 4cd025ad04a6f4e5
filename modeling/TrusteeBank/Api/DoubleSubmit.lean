import TrusteeBank.Api.Controllers
import TrusteeBank.Lib.Interleave
import TrusteeBank.Paykh.LoyaltyBooks

/-!
# Double submission

The same request is submitted several times under one key. Its submissions interleave at every
step, and `IdempotencyService.run` looks the key up before it runs the request and inserts the key
after. A submission that looks the key up in between finds nothing and runs the request as well;
its insertion then fails on the primary key, when the value has already moved.

**Theorem (`runs_once`).** If no submission looks the key up while another has looked it up and is
not over, the request runs in one submission at most, and all answers are equal as JSON. The
application, the request and the number of submissions are arbitrary.
-/

set_option autoImplicit false

namespace TrusteeBank

open Lib (Call Pool Table update_cases)
open IdempotencyService (requestHashOf)

section

variable {κ σ ι : Type}

/-! ## Phases of a submission -/

/-- Where a submission is: before its lookup, running the request, or over. -/
inductive KeyPhase
  | waiting
  | running
  | ran (value : JsValue)
  | replayed (body : JsValue)
  | failed

/-- The submission runs the request, or ran it. -/
def KeyPhase.Ran : KeyPhase → Prop
  | running | ran _ => True
  | waiting | replayed _ | failed => False

/-- What a step of a submission does. -/
inductive KeyMove (key : String) : KeyPhase → KeyedStep κ → σ × IdempotencyKeys →
    σ × IdempotencyKeys → KeyPhase → Prop
  | miss {s : σ × IdempotencyKeys} (hfree : s.2.find? key = none) :
      KeyMove key .waiting (.findKey key) s s .running
  | hit {s : σ × IdempotencyKeys} {row : IdempotencyKey} (hrow : s.2.find? key = some row) :
      KeyMove key .waiting (.findKey key) s s (.replayed row.responseBody)
  | giveUp {s : σ × IdempotencyKeys} : KeyMove key .waiting (.findKey key) s s .failed
  | work (q : κ) (s s' : σ) (keys : IdempotencyKeys) :
      KeyMove key .running (.request q) (s, keys) (s', keys) .running
  | abort (q : κ) (s s' : σ) (keys : IdempotencyKeys) :
      KeyMove key .running (.request q) (s, keys) (s', keys) .failed
  | store {s : σ} {keys keys' : IdempotencyKeys} {row : IdempotencyKey} {value : JsValue}
      (hkey : row.key = key) (hbody : storedJson value = some row.responseBody)
      (hkeys : keys.insert? row = some keys') :
      KeyMove key .running (.createKey key) (s, keys) (s, keys') (.ran value)
  | refuse {s : σ × IdempotencyKeys} (htaken : s.2.find? key ≠ none) :
      KeyMove key .running (.createKey key) s s .failed

/-- How a submission ends in a phase. -/
def KeyPhase.Ends : KeyPhase → Except ApiError IdempotentResult → Prop
  | waiting, r | failed, r => ∃ e, r = .error e
  | running, _ => False
  | ran value, r => r = .ok ⟨false, value⟩
  | replayed body, r => r = .ok ⟨true, body⟩

/-- Every step of the submission is a move. -/
abbrev Submits (key : String) (x : Call (KeyedStep κ) (σ × IdempotencyKeys) ApiError
    IdempotentResult) (φ : KeyPhase) : Prop :=
  x.Obeys (KeyMove key) (fun _ => True) KeyPhase.Ends φ

/-- What is left of a submission has failed, or it goes on with steps that are moves. -/
def Continues (key : String) (x : Call (KeyedStep κ) (σ × IdempotencyKeys) ApiError
    IdempotentResult) : Prop :=
  (∃ e, x = .done (.error e)) ∨ Submits key x .running

/-- A move after which the submission continues, or is over. -/
theorem Continues.move {key : String} {x : Call (KeyedStep κ) (σ × IdempotencyKeys) ApiError
    IdempotentResult} (h : Continues key x) {φ : KeyPhase} {q : KeyedStep κ}
    {s s' : σ × IdempotencyKeys} (hgo : KeyMove key φ q s s' .running)
    (hfail : KeyMove key φ q s s' .failed) :
    ∃ φ', KeyMove key φ q s s' φ' ∧ Submits key x φ' := by
  rcases h with ⟨e, rfl⟩ | h
  · exact ⟨.failed, hfail, e, rfl⟩
  · exact ⟨.running, hgo, h⟩

/-- Storing a response is one move. -/
theorem storeResponse_continues (key route requestHash : String) (value : JsValue) :
    Continues (κ := κ) (σ := σ) key (IdempotencyService.storeResponse key route requestHash value >>=
      fun _ => pure ⟨false, value⟩) := by
  unfold IdempotencyService.storeResponse
  split
  · exact .inl ⟨_, rfl⟩
  · exact .inl ⟨_, rfl⟩
  · next body _ hbody =>
    refine .inr (Call.Obeys.query_bind ?_ ?_)
    · rintro ⟨s, keys⟩ u ⟨s', keys'⟩ - hstore
      obtain ⟨t, ht, hresult⟩ := bind_eq_ok.mp hstore
      cases hresult
      exact ⟨.ran value, .store rfl hbody (orThrow_eq_ok.mp ht), rfl⟩
    · rintro ⟨s, keys⟩ e - hstore
      refine ⟨.failed, .refuse ?_, e, rfl⟩
      intro hfree
      obtain ⟨t, ht⟩ := Table.exists_insert? (t := keys)
        (r := ⟨key, route, requestHash, 200, body, storedJson_stored value body hbody⟩) hfree
      simp [ht, orThrow, bind, Except.bind, pure, Except.pure] at hstore

/-- Running a request and storing its response. -/
theorem execute_continues (key route requestHash : String) (fn : Call κ σ ApiError JsValue) :
    Continues key (IdempotencyService.execute key route requestHash fn) := by
  unfold IdempotencyService.execute
  induction fn with
  | done r =>
    cases r with
    | error e => exact .inl ⟨e, rfl⟩
    | ok value => exact storeResponse_continues key route requestHash value
  | step q eff next ih =>
    refine .inr fun s _ => ?_
    exact (ih s.1).move (.work q s.1 (eff s.1) s.2) (.abort q s.1 (eff s.1) s.2)

/-- **Every step of a submission is a move.** -/
theorem run_submits (sha256Hex : String → String) {key : String} (hkey : key ≠ "") (route : String)
    (body : JsValue) (fn : Call κ σ ApiError JsValue) :
    Submits key (IdempotencyService.run sha256Hex (some key) route body fn) .waiting := by
  have hgiven : LoyaltyService.given (some key) = some key := by
    simp [LoyaltyService.given, hkey]
  unfold IdempotencyService.run
  rw [hgiven]
  refine Call.Obeys.lift_bind (fun e _ => ⟨e, rfl⟩) fun requestHash _ => ?_
  refine Call.Obeys.read_bind fun s _ => ?_
  cases hrow : s.2.find? key with
  | some row =>
    simp only [IdempotencyService.replay]
    split_ifs
    · exact ⟨.failed, .giveUp, _, rfl⟩
    · exact ⟨.replayed row.responseBody, .hit hrow, rfl⟩
  | none => exact (execute_continues key route requestHash fn).move (.miss hrow) .giveUp

/-! ## The condition -/

/-- The submission that is about to look the key up is alone: every other one that has is over. -/
def LooksUpAlone (key : String) [DecidableEq ι] (p : Pool ι (KeyedStep κ) (σ × IdempotencyKeys)
    ApiError IdempotentResult) (i : ι) : Prop :=
  (p.calls i).next? = some (.findKey key) →
    ∀ j, j ≠ i → (j, .findKey key) ∈ p.history → (p.calls j).next? = none

/-- The request does not fail: after a step of it, the submission goes on. -/
def RequestSucceeds [DecidableEq ι] (p : Pool ι (KeyedStep κ) (σ × IdempotencyKeys) ApiError
    IdempotentResult) (i : ι) : Prop :=
  match (p.calls i).next? with
  | some (.request _) => ((p.step i).calls i).next? ≠ none
  | _ => True

/-! ## The invariant -/

variable [DecidableEq ι]

/-- What holds of the submissions of one request in their phases. -/
structure OnceInv (key : String) (p : Pool ι (KeyedStep κ) (σ × IdempotencyKeys) ApiError
    IdempotentResult) (ph : ι → KeyPhase) : Prop where
  looked : ∀ i, ph i ≠ .waiting → (i, .findKey key) ∈ p.history
  worked : ∀ i q, (i, .request q) ∈ p.history → (ph i).Ran
  one : ∀ i j, (ph i).Ran → (ph j).Ran → i = j
  free : ∀ i, ph i = .running → p.state.2.find? key = none
  stored : ∀ i value, ph i = .ran value →
    ∃ row, p.state.2.find? key = some row ∧ storedJson value = some row.responseBody
  answered : ∀ i body, ph i = .replayed body →
    ∃ row, p.state.2.find? key = some row ∧ row.responseBody = body

/-- A submission that is over takes no step. -/
theorem Submits.next?_failed {key : String} {x : Call (KeyedStep κ) (σ × IdempotencyKeys) ApiError
    IdempotentResult} (h : Submits key x .failed) (s : σ × IdempotencyKeys) : x.next? = none := by
  cases x with
  | done r => rfl
  | step q eff next =>
    obtain ⟨φ', hmove, -⟩ := h s trivial
    cases hmove

/-- A submission that runs the request is not over. -/
theorem Submits.next?_running {key : String} {x : Call (KeyedStep κ) (σ × IdempotencyKeys) ApiError
    IdempotentResult} (h : Submits key x .running) : x.next? ≠ none := by
  cases x with
  | done r => exact h.elim
  | step q eff next => simp [Call.next?]

section

variable {key : String} {p : Pool ι (KeyedStep κ) (σ × IdempotencyKeys) ApiError IdempotentResult}
  {ph : ι → KeyPhase} {i : ι}

/-- A submission whose lookup ends it leaves the others where they are. -/
theorem OnceInv.leave (h : OnceInv key p ph) (hwaiting : ph i = .waiting)
    {calls : ι → Call (KeyedStep κ) (σ × IdempotencyKeys) ApiError IdempotentResult}
    {φ : KeyPhase} (hran : ¬φ.Ran)
    (hanswered : ∀ body, φ = .replayed body →
      ∃ row, p.state.2.find? key = some row ∧ row.responseBody = body) :
    OnceInv key ⟨p.state, calls, (i, .findKey key) :: p.history⟩ (Function.update ph i φ) where
  looked j hj := by
    rcases update_cases ph i φ j with ⟨rfl, -⟩ | ⟨-, hφ⟩
    · exact List.mem_cons_self
    · exact List.mem_cons_of_mem _ (h.looked j (hφ ▸ hj))
  worked j q hj := by
    have hold : (ph j).Ran := h.worked j q (by simpa using hj)
    rcases update_cases ph i φ j with ⟨rfl, -⟩ | ⟨-, hφ⟩
    · rw [hwaiting] at hold
      exact hold.elim
    · rwa [hφ]
  one j k hj hk := by
    rcases update_cases ph i φ j with ⟨-, hφ⟩ | ⟨-, hφ⟩
    · exact absurd (hφ ▸ hj) hran
    · rcases update_cases ph i φ k with ⟨-, hψ⟩ | ⟨-, hψ⟩
      · exact absurd (hψ ▸ hk) hran
      · exact h.one j k (hφ ▸ hj) (hψ ▸ hk)
  free j hj := by
    rcases update_cases ph i φ j with ⟨-, hφ⟩ | ⟨-, hφ⟩
    · exact absurd (by rw [← hφ, hj]; trivial) hran
    · exact h.free j (hφ ▸ hj)
  stored j value hj := by
    rcases update_cases ph i φ j with ⟨-, hφ⟩ | ⟨-, hφ⟩
    · exact absurd (by rw [← hφ, hj]; trivial) hran
    · exact h.stored j value (hφ ▸ hj)
  answered j body hj := by
    rcases update_cases ph i φ j with ⟨-, hφ⟩ | ⟨-, hφ⟩
    · exact hanswered body (hφ ▸ hj)
    · exact h.answered j body (hφ ▸ hj)

/-- A submission that finds nothing is the only one to run the request. -/
theorem OnceInv.miss (h : OnceInv key p ph) (hwaiting : ph i = .waiting)
    {calls : ι → Call (KeyedStep κ) (σ × IdempotencyKeys) ApiError IdempotentResult}
    (hfree : p.state.2.find? key = none) (hrunning : ∀ j, j ≠ i → ph j ≠ .running) :
    OnceInv key ⟨p.state, calls, (i, .findKey key) :: p.history⟩
      (Function.update ph i .running) := by
  have hnone (j : ι) (hran : (ph j).Ran) : False := by
    cases hph : ph j with
    | running =>
      refine hrunning j ?_ hph
      rintro rfl
      rw [hwaiting] at hph
      cases hph
    | ran value =>
      obtain ⟨row, hrow, -⟩ := h.stored j value hph
      rw [hfree] at hrow
      cases hrow
    | waiting | replayed body | failed =>
      rw [hph] at hran
      exact hran
  have hself (j : ι) (hj : (Function.update ph i KeyPhase.running j).Ran) : j = i := by
    rcases update_cases ph i .running j with ⟨rfl, -⟩ | ⟨-, hφ⟩
    · rfl
    · exact (hnone j (hφ ▸ hj)).elim
  refine ⟨fun j hj => ?_, fun j q hj => ?_, fun j k hj hk => by rw [hself j hj, hself k hk],
    fun _ _ => hfree, fun j value hj => ?_, fun j body hj => ?_⟩
  · rcases update_cases ph i .running j with ⟨rfl, -⟩ | ⟨-, hφ⟩
    · exact List.mem_cons_self
    · exact List.mem_cons_of_mem _ (h.looked j (hφ ▸ hj))
  · exact (hnone j (h.worked j q (by simpa using hj))).elim
  · rcases update_cases ph i .running j with ⟨-, hφ⟩ | ⟨-, hφ⟩
    · cases hφ.symm.trans hj
    · exact h.stored j value (hφ ▸ hj)
  · rcases update_cases ph i .running j with ⟨-, hφ⟩ | ⟨-, hφ⟩
    · cases hφ.symm.trans hj
    · exact h.answered j body (hφ ▸ hj)

omit [DecidableEq ι] in
/-- A step of the request itself. -/
theorem OnceInv.work (h : OnceInv key p ph) (hrunning : ph i = .running) (q : κ) (s : σ)
    {calls : ι → Call (KeyedStep κ) (σ × IdempotencyKeys) ApiError IdempotentResult} :
    OnceInv key ⟨(s, p.state.2), calls, (i, .request q) :: p.history⟩ ph where
  looked j hj := List.mem_cons_of_mem _ (h.looked j hj)
  worked j q' hj := by
    rcases List.mem_cons.mp hj with hj | hj
    · cases hj
      rw [hrunning]
      trivial
    · exact h.worked j q' hj
  one := h.one
  free := h.free
  stored := h.stored
  answered := h.answered

/-- The response is stored. -/
theorem OnceInv.store (h : OnceInv key p ph) (hrunning : ph i = .running) {row : IdempotencyKey}
    {keys' : IdempotencyKeys} {value : JsValue} (hkey : row.key = key)
    (hbody : storedJson value = some row.responseBody) (hkeys : p.state.2.insert? row = some keys')
    {calls : ι → Call (KeyedStep κ) (σ × IdempotencyKeys) ApiError IdempotentResult} :
    OnceInv key ⟨(p.state.1, keys'), calls, (i, .createKey key) :: p.history⟩
      (Function.update ph i (.ran value)) := by
  have hfree := h.free i hrunning
  have hran : (ph i).Ran := by
    rw [hrunning]
    trivial
  have hfound : keys'.find? key = some row := by
    rw [Table.find?_insert? hkeys, if_pos hkey]
  have hold (j : ι) (hj : (ph j).Ran) : j = i := h.one j i hj hran
  have hself (j : ι) (hj : (Function.update ph i (.ran value) j).Ran) : j = i := by
    rcases update_cases ph i (.ran value) j with ⟨rfl, -⟩ | ⟨-, hφ⟩
    · rfl
    · exact hold j (hφ ▸ hj)
  refine ⟨fun j hj => ?_, fun j q hj => ?_, fun j k hj hk => by rw [hself j hj, hself k hk],
    fun j hj => ?_, fun j v hj => ?_, fun j body hj => ?_⟩
  · refine List.mem_cons_of_mem _ (h.looked j ?_)
    rcases update_cases ph i (.ran value) j with ⟨rfl, -⟩ | ⟨-, hφ⟩
    · simp [hrunning]
    · exact hφ ▸ hj
  · obtain rfl := hold j (h.worked j q (by simpa using hj))
    rw [Function.update_self]
    trivial
  · obtain rfl := hself j (by rw [hj]; trivial)
    rw [Function.update_self] at hj
    cases hj
  · obtain rfl := hself j (by rw [hj]; trivial)
    rw [Function.update_self] at hj
    cases hj
    exact ⟨row, hfound, hbody⟩
  · rcases update_cases ph i (.ran value) j with ⟨-, hφ⟩ | ⟨-, hφ⟩
    · cases hφ.symm.trans hj
    · obtain ⟨row', hrow', -⟩ := h.answered j body (hφ ▸ hj)
      rw [hfree] at hrow'
      cases hrow'

/-- **Every step keeps the invariant**, if lookups are alone and the request does not fail. -/
theorem OnceInv.step {q : KeyedStep κ} {eff : σ × IdempotencyKeys → σ × IdempotencyKeys}
    {next : σ × IdempotencyKeys → Call (KeyedStep κ) (σ × IdempotencyKeys) ApiError
      IdempotentResult} {φ' : KeyPhase} (h : OnceInv key p ph)
    (hobey : p.Obey (fun _ => KeyMove key) (fun _ => True) KeyPhase.Ends ph)
    (halone : LooksUpAlone key p i) (hsucceeds : RequestSucceeds p i)
    (hi : p.calls i = .step q eff next)
    (hmove : KeyMove key (ph i) q p.state (eff p.state) φ')
    (hnext : Submits key (next p.state) φ') :
    OnceInv key (p.step i) (Function.update ph i φ') := by
  have hlabel : (p.calls i).next? = some q := by rw [hi]; rfl
  have hover : ((p.step i).calls i).next? = (next p.state).next? := by
    rw [Pool.step_of_step hi]
    simp only [Function.update_self]
  unfold RequestSucceeds at hsucceeds
  rw [hlabel, hover] at hsucceeds
  unfold LooksUpAlone at halone
  rw [hlabel] at halone
  rw [Pool.step_of_step hi]
  generalize hphase : ph i = φ at hmove
  generalize hafter : eff p.state = after at hmove
  obtain ⟨state, calls, history⟩ := p
  simp only at *
  cases hmove with
  | miss hfree =>
    refine h.miss hphase hfree fun j hji hrunning => ?_
    have hj := hobey j
    rw [hrunning] at hj
    exact Submits.next?_running hj (halone rfl j hji (h.looked j (by rw [hrunning]; simp)))
  | hit hrow =>
    refine h.leave hphase id fun body hbody => ?_
    cases hbody
    exact ⟨_, hrow, rfl⟩
  | giveUp => exact h.leave hphase id fun body hbody => by cases hbody
  | work q s s' keys =>
    rw [← hphase, Function.update_eq_self]
    exact h.work hphase q s'
  | abort q s s' keys => exact absurd (Submits.next?_failed hnext (s, keys)) hsucceeds
  | store hkey hbody hkeys => exact h.store hphase hkey hbody hkeys
  | refuse htaken => exact absurd (h.free i hphase) htaken

end

/-! ## Once -/

/-- One request, submitted by every `i` under one key. -/
def submissions (sha256Hex : String → String) (key route : String) (body : JsValue)
    (fn : ι → Call κ σ ApiError JsValue) (i : ι) :
    Call (KeyedStep κ) (σ × IdempotencyKeys) ApiError IdempotentResult :=
  IdempotencyService.run sha256Hex (some key) route body (fn i)

/-- The request ran in one submission at most, and all answers are the same JSON. -/
structure ServedOnce (p : Pool ι (KeyedStep κ) (σ × IdempotencyKeys) ApiError IdempotentResult) :
    Prop where
  once : ∀ i j q q', (i, .request q) ∈ p.history → (j, .request q') ∈ p.history → i = j
  equal : ∀ i j r r', p.calls i = .done (.ok r) → p.calls j = .done (.ok r') →
    storedJson r.value = storedJson r'.value

omit [DecidableEq ι] in
/-- No submission was looked at. -/
theorem OnceInv.start (key : String) (s : σ × IdempotencyKeys)
    (calls : ι → Call (KeyedStep κ) (σ × IdempotencyKeys) ApiError IdempotentResult) :
    OnceInv key (Pool.start s calls) fun _ => .waiting where
  looked _ h := absurd rfl h
  worked _ _ h := by cases h
  one _ _ h := h.elim
  free _ h := by cases h
  stored _ _ h := by cases h
  answered _ _ h := by cases h

omit [DecidableEq ι] in
/-- An answer is what is stored under the key. -/
theorem OnceInv.answer {key : String}
    {p : Pool ι (KeyedStep κ) (σ × IdempotencyKeys) ApiError IdempotentResult} {ph : ι → KeyPhase}
    (h : OnceInv key p ph)
    (hobey : p.Obey (fun _ => KeyMove key) (fun _ => True) KeyPhase.Ends ph) {i : ι}
    {r : IdempotentResult} (hr : p.calls i = .done (.ok r)) :
    ∃ row, p.state.2.find? key = some row ∧ storedJson r.value = some row.responseBody := by
  have hends := hobey i
  rw [hr] at hends
  have hends : (ph i).Ends (.ok r) := hends
  cases hph : ph i with
  | waiting | failed =>
    rw [hph] at hends
    obtain ⟨e, he⟩ := hends
    cases he
  | running =>
    rw [hph] at hends
    exact hends.elim
  | ran value =>
    rw [hph] at hends
    obtain rfl := Except.ok.inj hends
    exact h.stored i value hph
  | replayed body =>
    rw [hph] at hends
    obtain rfl := Except.ok.inj hends
    obtain ⟨row, hrow, rfl⟩ := h.answered i body hph
    exact ⟨row, hrow, row.json⟩

/-- **A request runs once**, whatever the interleaving of its submissions, if every lookup is
alone and the request does not fail. -/
theorem runs_once (sha256Hex : String → String) {key : String} (hkey : key ≠ "") (route : String)
    (body : JsValue) (fn : ι → Call κ σ ApiError JsValue) (s : σ × IdempotencyKeys)
    {schedule : List ι}
    (halone : Lib.Meets Pool.step (fun p i => LooksUpAlone key p i ∧ RequestSucceeds p i)
      (Pool.start s (submissions sha256Hex key route body fn)) schedule) :
    ServedOnce ((Pool.start s (submissions sha256Hex key route body fn)).exec schedule) := by
  obtain ⟨ph, hinv, hobey⟩ := Pool.inv_exec (δ := fun _ => KeyMove key) (J := fun _ => True)
    (Q := KeyPhase.Ends) (fun _ _ _ => trivial)
    (fun p ph i q eff next φ' h ho hC hi hmove hnext => h.step ho hC.1 hC.2 hi hmove hnext)
    (OnceInv.start key s _) (fun i => run_submits sha256Hex hkey route body (fn i)) halone
  refine ⟨fun i j q q' hq hq' => hinv.one i j (hinv.worked i q hq) (hinv.worked j q' hq'), ?_⟩
  intro i j r r' hr hr'
  obtain ⟨row, hrow, hbody⟩ := hinv.answer hobey hr
  obtain ⟨row', hrow', hbody'⟩ := hinv.answer hobey hr'
  obtain rfl := Option.some.inj (hrow.symm.trans hrow')
  rw [hbody, hbody']

instance LooksUpAlone.decidable [DecidableEq κ] [Fintype ι] (key : String)
    (p : Pool ι (KeyedStep κ) (σ × IdempotencyKeys) ApiError IdempotentResult) (i : ι) :
    Decidable (LooksUpAlone key p i) :=
  inferInstanceAs (Decidable (_ → ∀ _, _ → _ → _ = none))

instance RequestSucceeds.decidable
    (p : Pool ι (KeyedStep κ) (σ × IdempotencyKeys) ApiError IdempotentResult) (i : ι) :
    Decidable (RequestSucceeds p i) := by
  unfold RequestSucceeds
  split <;> infer_instance

end

/-! ## An issuance, twice -/

attribute [local instance] Runtime.ascii

namespace Sample

/-- A loyalty liability backed by a fund of 100. -/
def boundFund100 : World :=
  [createFund, fundWith "100", bindFund].foldl SafeguardOp.step loyaltyWorld

def issue40 : IssueLoyaltyInput where
  liabilityId := "L1"
  customerRef := "customer"
  amountMinor := some "40"
  units := none
  actor := "tenant"

/-- The issuance of 40, with the identifier each submission would give it. -/
def issuances (i : Bool) : Service JsValue :=
  (ControllerRequest.issueLoyalty unconfigured "uuid" (if i then "I2" else "I1") issue40).fn

/-- It is submitted twice under the key K. -/
def issueTwice : Pool Bool (KeyedStep Query) (World × IdempotencyKeys) ApiError IdempotentResult :=
  Pool.start (boundFund100, .empty _)
    (submissions (fun _ => "digest") "K" "POST /paykh/loyalty/L1/issue" issue40.body issuances)

/-- One submission is served, and the other finds its key. -/
def servedThenReplayed : List Bool := List.replicate 9 false ++ [true]

/-- Both look the key up, and then both go on. -/
def bothLookUp : List Bool := [false, true] ++ List.replicate 8 false ++ List.replicate 8 true

end Sample

theorem servedThenReplayed_alone : Lib.Meets Pool.step
    (fun p i => LooksUpAlone "K" p i ∧ RequestSucceeds p i) Sample.issueTwice
    Sample.servedThenReplayed := by
  decide +kernel

/-- The second submission of an issuance is answered with the first. -/
theorem runs_once_issued : ServedOnce (Sample.issueTwice.exec Sample.servedThenReplayed) :=
  runs_once (fun _ => "digest") (by decide) "POST /paykh/loyalty/L1/issue" Sample.issue40.body
    Sample.issuances (Sample.boundFund100, .empty _) servedThenReplayed_alone

theorem bothLookUp_succeeds : Lib.Meets Pool.step (fun p i => RequestSucceeds p i)
    Sample.issueTwice Sample.bothLookUp := by
  decide +kernel

theorem bothLookUp_ran : (false, KeyedStep.request ⟨.paykhLoyaltyIssuance, .transaction, "L1"⟩) ∈
      (Sample.issueTwice.exec Sample.bothLookUp).history ∧
    (true, KeyedStep.request ⟨.paykhLoyaltyIssuance, .transaction, "L1"⟩) ∈
      (Sample.issueTwice.exec Sample.bothLookUp).history := by
  decide +kernel

/-- Two submissions of an issuance that both look the key up first both issue. -/
theorem issued_twice : ¬∀ [Runtime] (sha256Hex : String → String) (key route : String)
    (body : JsValue) (fn : Bool → Service JsValue) (s : World × IdempotencyKeys)
    (schedule : List Bool), key ≠ "" →
    Lib.Meets Pool.step (fun p i => RequestSucceeds p i)
      (Pool.start s (submissions sha256Hex key route body fn)) schedule →
    ServedOnce ((Pool.start s (submissions sha256Hex key route body fn)).exec schedule) := by
  intro h
  have honce := (h (fun _ => "digest") "K" "POST /paykh/loyalty/L1/issue" Sample.issue40.body
    Sample.issuances (Sample.boundFund100, .empty _) Sample.bothLookUp (by decide)
    bothLookUp_succeeds).once
  obtain ⟨hfalse, htrue⟩ := bothLookUp_ran
  cases honce false true _ _ hfalse htrue

end TrusteeBank
