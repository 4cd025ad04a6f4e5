import TrusteeBank.Api.Controllers
import TrusteeBank.Lib.Run

/-!
# Replayed responses

A key stands for one request, but the lookup compares only the hash of the body with what is
stored. The path identifier is in the route and not in the body, so a key that is used again for
another record, or on another route with the same body, is answered with the stored response of
the first and nothing happens.

**Theorem (`replays_own`).** In a history in which no request meets its key stored under another
route, and no two bodies collide, every replayed response was produced by an earlier request on
the same route with an equal body.
-/

set_option autoImplicit false

namespace TrusteeBank

open Lib (Call)
open IdempotencyService (requestHashOf)

/-! ## Histories -/

section

variable {κ σ : Type}

/-- A request, and what it was answered. -/
structure Answered (κ σ : Type) where
  call : IdempotentCall κ σ
  result : Except ApiError IdempotentResult

/-- The application, its keys, and the requests answered so far, the last one first. -/
structure AnsweredHistory (κ σ : Type) where
  state : σ
  keys : IdempotencyKeys
  log : List (Answered κ σ)

/-- No request was made. -/
def AnsweredHistory.start (s : σ) : AnsweredHistory κ σ := ⟨s, .empty _, []⟩

/-- Serve one more request. -/
def AnsweredHistory.answer (sha256Hex : String → String) (p : AnsweredHistory κ σ)
    (c : IdempotentCall κ σ) : AnsweredHistory κ σ :=
  let out := (c.call sha256Hex).run (p.state, p.keys)
  { state := out.2.1, keys := out.2.2, log := ⟨c, out.1⟩ :: p.log }

/-- The same route, and the same JSON body up to the order of keys. -/
def SameRequest (c c' : IdempotentCall κ σ) : Prop :=
  c.route = c'.route ∧ stringifySorted c.body = stringifySorted c'.body

/-- The answer is what an earlier request, the same as this one, was answered when it ran. -/
def ProducedBy (older : List (Answered κ σ)) (c : IdempotentCall κ σ) (body : JsValue) : Prop :=
  ∃ a ∈ older, ∃ value, a.result = .ok ⟨false, value⟩ ∧ storedJson value = some body ∧
    SameRequest c a.call

/-- Every replayed answer was produced by an earlier request, the same as the one answered. -/
def ReplaysOwn : List (Answered κ σ) → Prop
  | [] => True
  | a :: older =>
    (∀ r, a.result = .ok r → r.replayed = true → ProducedBy older a.call r.value) ∧ ReplaysOwn older

/-! ## The condition -/

/-- A row stored under the key of the request with its hash is of its route. -/
def KeyOfRoute (sha256Hex : String → String) (p : AnsweredHistory κ σ) (c : IdempotentCall κ σ) :
    Prop :=
  ∀ row ∈ p.keys.rows, c.key = some row.key →
    requestHashOf sha256Hex c.body = .ok row.requestHash → row.route = c.route

/-- No earlier body has the hash of this one without being equal to it. -/
def NoCollision (sha256Hex : String → String) (p : AnsweredHistory κ σ) (c : IdempotentCall κ σ) :
    Prop :=
  ∀ a ∈ p.log, requestHashOf sha256Hex a.call.body = requestHashOf sha256Hex c.body →
    stringifySorted a.call.body = stringifySorted c.body

/-! ## The invariant -/

/-- Every stored row is the response of a request that ran. -/
def KeysProduced (sha256Hex : String → String) (p : AnsweredHistory κ σ) : Prop :=
  ∀ row ∈ p.keys.rows, ∃ a ∈ p.log, ∃ value,
    a.result = .ok ⟨false, value⟩ ∧ a.call.Stores sha256Hex value row

/-- Rows stay produced when the log grows. -/
theorem KeysProduced.cons {sha256Hex : String → String} {p : AnsweredHistory κ σ}
    (h : KeysProduced sha256Hex p) (s : σ) (a : Answered κ σ) :
    KeysProduced sha256Hex ⟨s, p.keys, a :: p.log⟩ := by
  intro row hrow
  obtain ⟨b, hb, hproduced⟩ := h row hrow
  exact ⟨b, List.mem_cons_of_mem _ hb, hproduced⟩

structure ReplayInv (sha256Hex : String → String) (p : AnsweredHistory κ σ) : Prop where
  produced : KeysProduced sha256Hex p
  own : ReplaysOwn p.log

/-- An answer that is not replayed keeps the history right. -/
theorem ReplaysOwn.cons {older : List (Answered κ σ)} (h : ReplaysOwn older)
    (c : IdempotentCall κ σ) {result : Except ApiError IdempotentResult}
    (hresult : ∀ r, result = .ok r → r.replayed = false) : ReplaysOwn (⟨c, result⟩ :: older) := by
  refine ⟨fun r hr hreplayed => ?_, h⟩
  rw [hresult r hr] at hreplayed
  cases hreplayed

/-- **One more request keeps the history right.** -/
theorem ReplayInv.answer {sha256Hex : String → String} {p : AnsweredHistory κ σ}
    (h : ReplayInv sha256Hex p) {c : IdempotentCall κ σ} (hkey : KeyOfRoute sha256Hex p c)
    (hcollision : NoCollision sha256Hex p c) : ReplayInv sha256Hex (p.answer sha256Hex c) := by
  unfold AnsweredHistory.answer
  have houtcome := c.outcome sha256Hex p.state p.keys
  generalize (c.call sha256Hex).run (p.state, p.keys) = out at houtcome ⊢
  cases houtcome with
  | failed e s =>
    refine ⟨h.produced.cons s _, h.own.cons c ?_⟩
    intro r hr
    cases hr
  | unprotected value s =>
    refine ⟨h.produced.cons s _, h.own.cons c ?_⟩
    intro r hr
    cases hr
    rfl
  | @replayed row s hc hrow hhash =>
    have hmem := Lib.Table.mem_of_find? hrow
    obtain ⟨a, ha, value, hresult, hstores⟩ := h.produced row hmem
    have hroute : c.route = a.call.route := (hkey row hmem hc hhash).symm.trans hstores.route
    have hbody := hcollision a ha (hstores.requestHash.trans hhash.symm)
    refine ⟨h.produced.cons s _, ?_, h.own⟩
    intro r hr _
    cases hr
    exact ⟨a, ha, value, hresult, hstores.responseBody, hroute, hbody.symm⟩
  | @executed row keys' value s hstores hkeys =>
    refine ⟨?_, h.own.cons c ?_⟩
    · intro row' hrow'
      rw [(Lib.Table.insert?_eq_some hkeys).1] at hrow'
      rcases List.mem_append.mp hrow' with hrow' | hrow'
      · exact h.produced.cons s _ row' hrow'
      · obtain rfl := List.mem_singleton.mp hrow'
        exact ⟨_, List.mem_cons_self, value, rfl, hstores⟩
    · intro r hr
      cases hr
      rfl

/-- A request that was made before meets the condition. -/
theorem ReplayInv.repeated {sha256Hex : String → String} {p : AnsweredHistory κ σ}
    (h : ReplayInv sha256Hex p) {c : IdempotentCall κ σ} (hlog : ∀ a ∈ p.log, SameRequest a.call c) :
    KeyOfRoute sha256Hex p c ∧ NoCollision sha256Hex p c := by
  refine ⟨?_, fun a ha _ => (hlog a ha).2⟩
  intro row hrow _ _
  obtain ⟨a, ha, value, -, hstores⟩ := h.produced row hrow
  exact hstores.route.trans (hlog a ha).1

theorem ReplayInv.start (sha256Hex : String → String) (s : σ) :
    ReplayInv sha256Hex (AnsweredHistory.start (κ := κ) s) where
  produced row hrow := by cases hrow
  own := trivial

end

section

variable [Runtime]

/-! ## The controllers -/

/-- Serve a request of a controller under its key. -/
def serveKeyed (sha256Hex : String → String) (p : AnsweredHistory Query World)
    (r : ControllerRequest × Option String) : AnsweredHistory Query World :=
  p.answer sha256Hex (r.1.call r.2)

/-- The request does not meet its key under another route, nor an unequal body with its hash. -/
def OwnKey (sha256Hex : String → String) (p : AnsweredHistory Query World)
    (r : ControllerRequest × Option String) : Prop :=
  KeyOfRoute sha256Hex p (r.1.call r.2) ∧ NoCollision sha256Hex p (r.1.call r.2)

/-- **A replay answers the same request, in every history whose keys are each used on one
route.** -/
theorem replays_own {sha256Hex : String → String} {w : World}
    {requests : List (ControllerRequest × Option String)}
    (hown : Lib.Meets (serveKeyed sha256Hex) (OwnKey sha256Hex) (.start w) requests) :
    ReplaysOwn (requests.foldl (serveKeyed sha256Hex) (.start w)).log :=
  (Lib.inv_run (fun _ _ h hC => h.answer hC.1 hC.2) (ReplayInv.start sha256Hex w) hown).own

end

/-! ## Two confirmations -/

attribute [local instance] Runtime.ascii

namespace Sample

/-- Two authorizations of 50 are issued. -/
def twoIssued : World := (mint "M1" "50" ++ mint "M2" "50").foldl MintOp.step world

/-- The confirmation of an authorization, under the key K. -/
def keyedConfirm (authId : String) : ControllerRequest × Option String :=
  (.confirmMint clock authId (confirmation "50" none), some "K")

/-- The first of them, twice. -/
def repeatedConfirm : List (ControllerRequest × Option String) :=
  [keyedConfirm "M1", keyedConfirm "M1"]

theorem repeatedConfirm_own (sha256Hex : String → String) :
    Lib.Meets (serveKeyed sha256Hex) (OwnKey sha256Hex) (.start twoIssued) repeatedConfirm := by
  have hfirst := (ReplayInv.start sha256Hex twoIssued).repeated
    (c := (keyedConfirm "M1").1.call (keyedConfirm "M1").2) fun a ha => by cases ha
  have hsecond := ((ReplayInv.start sha256Hex twoIssued).answer hfirst.1 hfirst.2).repeated
    (c := (keyedConfirm "M1").1.call (keyedConfirm "M1").2) fun a ha => by
      rw [List.mem_singleton.mp ha]
      exact ⟨rfl, rfl⟩
  exact ⟨hfirst, hsecond, trivial⟩

/-- What the first confirmation answers. -/
theorem confirmed_first : ((MintService.confirm clock "M1" (confirmation "50" none)).run
    twoIssued).1 = .ok ⟨"M1", .consumed⟩ := by
  decide +kernel

theorem keyedConfirm_answers : ∃ fields w', ((keyedConfirm "M1").1.call (some "K")).fn.run
    twoIssued = (.ok (.object fields), w') := by
  have hfirst := confirmed_first
  show ∃ fields w', ((MintService.confirm clock "M1" (confirmation "50" none) >>= fun r =>
    pure r.json : Service JsValue)).run twoIssued = (.ok (.object fields), w')
  rw [Call.run_bind]
  generalize (MintService.confirm clock "M1" (confirmation "50" none)).run twoIssued = out at hfirst
  obtain ⟨r, w'⟩ := out
  obtain rfl : r = .ok ⟨"M1", .consumed⟩ := hfirst
  exact ⟨_, w', rfl⟩

theorem keyedConfirm_hash (authId : String) : ∃ hash,
    requestHashOf id ((keyedConfirm authId).1.call (some "K")).body = .ok hash := by
  simp [requestHashOf, ControllerRequest.call, ControllerRequest.body, keyedConfirm,
    ConfirmMint.body, stringifySorted, orThrow, bind, Except.bind, pure, Except.pure]

end Sample

/-- A confirmation that is repeated is answered with its own response. -/
theorem replays_own_repeated : ReplaysOwn (Sample.repeatedConfirm.foldl (serveKeyed id)
    (.start Sample.twoIssued)).log :=
  replays_own (Sample.repeatedConfirm_own id)

/-- The confirmation of a second authorization under the key of the first is answered with the
response of the first. -/
theorem confirm_replays_other : ¬∀ [Runtime] (sha256Hex : String → String) (w : World)
    (requests : List (ControllerRequest × Option String)),
    ReplaysOwn (requests.foldl (serveKeyed sha256Hex) (.start w)).log := by
  intro h
  have hown := h id Sample.twoIssued [Sample.keyedConfirm "M1", Sample.keyedConfirm "M2"]
  obtain ⟨fields, w', hfn⟩ := Sample.keyedConfirm_answers
  obtain ⟨hash, hhash⟩ := Sample.keyedConfirm_hash "M1"
  have hgiven : LoyaltyService.given ((Sample.keyedConfirm "M1").1.call (some "K")).key =
      some "K" := rfl
  have hfree : (Lib.Table.empty IdempotencyKey.key).find? "K" = none := rfl
  obtain ⟨row, keys', hkey, rfl, -, hrow, hfirst⟩ :=
    IdempotentCall.run_of_free hgiven hhash hfree hfn
  have hgivenRow : LoyaltyService.given ((Sample.keyedConfirm "M2").1.call (some "K")).key =
      some row.key := by
    rw [hkey]
    rfl
  have hsecond := IdempotentCall.run_of_stored hgivenRow hhash (by rw [hkey]; exact hrow) w'
  have hlog : ([Sample.keyedConfirm "M1", Sample.keyedConfirm "M2"].foldl (serveKeyed id)
      (.start Sample.twoIssued)).log =
        [⟨(Sample.keyedConfirm "M2").1.call (some "K"), .ok ⟨true, row.responseBody⟩⟩,
          ⟨(Sample.keyedConfirm "M1").1.call (some "K"), .ok ⟨false, .object fields⟩⟩] := by
    show ((AnsweredHistory.answer id (AnsweredHistory.answer id (.start Sample.twoIssued)
      ((Sample.keyedConfirm "M1").1.call (some "K")))
        ((Sample.keyedConfirm "M2").1.call (some "K")))).log = _
    unfold AnsweredHistory.answer AnsweredHistory.start
    simp only [hfirst, hsecond]
  rw [hlog] at hown
  obtain ⟨a, ha, -, -, -, hroute, -⟩ := hown.1 _ rfl rfl
  rw [List.mem_singleton.mp ha] at hroute
  have hne : (Sample.keyedConfirm "M2").1.route ≠ (Sample.keyedConfirm "M1").1.route := by decide
  exact hne hroute

end TrusteeBank
