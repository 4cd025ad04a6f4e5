import TrusteeBank.Services.Loyalty
import TrusteeBank.Services.Mint
import TrusteeBank.Services.PaymentOrders

/-!
# Idempotency keys

`IdempotencyService.run` serves a request under a key: a key that was used before is answered with
the stored response, if the body hashes as it did then, and any other key runs the request and
stores its response. The lookup, the request and the insertion of the key are separate steps.

The request is any call on the application's state, which the table of keys stands beside. The
controllers of the mint workflow and of PayKH that take a key are `ControllerRequest`.
-/

set_option autoImplicit false

namespace TrusteeBank

open Lib (Call Table)

/-! ## Stored responses -/

/-- A stored response. Its column holds JSON. -/
structure IdempotencyKey where
  key : String
  route : String
  requestHash : String
  responseCode : Nat
  responseBody : JsValue
  json : storedJson responseBody = some responseBody

abbrev IdempotencyKeys := Table IdempotencyKey.key

mutual

/-- What was stored is stored as it is. -/
theorem storedJson_stored : ∀ v w : JsValue, storedJson v = some w → storedJson w = some w
  | .undefined, _, h => by simp [storedJson] at h
  | .null, _, h => by
    simp only [storedJson, Option.some.injEq] at h
    subst h
    rfl
  | .bool _, _, h => by
    simp only [storedJson, Option.some.injEq] at h
    subst h
    rfl
  | .number _, _, h => by
    simp only [storedJson, Option.some.injEq] at h
    subst h
    rfl
  | .decimal _, _, h => by
    simp only [storedJson, Option.some.injEq] at h
    subst h
    rfl
  | .bigint _, _, h => by
    simp only [storedJson, Option.some.injEq] at h
    subst h
    rfl
  | .string _, _, h => by
    simp only [storedJson, Option.some.injEq] at h
    subst h
    rfl
  | .array items, _, h => by
    simp only [storedJson, Option.some.injEq] at h
    subst h
    rw [storedJson, storedItems_stored items]
  | .object fields, _, h => by
    simp only [storedJson, Option.some.injEq] at h
    subst h
    rw [storedJson, storedFields_stored fields]

theorem storedItems_stored : ∀ vs : List JsValue, storedItems (storedItems vs) = storedItems vs
  | [] => rfl
  | v :: vs => by
    have hitem : (storedJson ((storedJson v).getD .null)).getD .null = (storedJson v).getD .null := by
      cases hv : storedJson v with
      | none => rfl
      | some w =>
        rw [Option.getD_some, storedJson_stored v w hv]
        rfl
    rw [storedItems, storedItems, storedItems_stored vs, hitem]

theorem storedFields_stored : ∀ fields : List (String × JsValue),
    storedFields (storedFields fields) = storedFields fields
  | [] => rfl
  | (key, v) :: fields => by
    rw [storedFields]
    cases hv : storedJson v with
    | none => exact storedFields_stored fields
    | some w =>
      simp only [storedFields, storedJson_stored v w hv, storedFields_stored fields]

end

/-! ## The service -/

/-- `{ replayed, value }`. -/
structure IdempotentResult where
  replayed : Bool
  value : JsValue

/-- The label of a step: on the table of keys, or of the request itself. -/
inductive KeyedStep (κ : Type)
  | findKey (key : String)
  | createKey (key : String)
  | request (q : κ)
deriving DecidableEq

def idempotencyConflictError (key : String) : ApiError :=
  .thrown "IdempotencyConflictError"
    ("Idempotency key \"" ++ key ++ "\" was reused with a different request body")

namespace IdempotencyService

/-- `sha256Hex(stableStringify(body))`. -/
def requestHashOf (sha256Hex : String → String) (body : JsValue) : Except ApiError String := do
  let text ← orThrow (stringifySorted body) (.thrown "TypeError"
    "The \"data\" argument must be of type string or an instance of Buffer")
  return sha256Hex text

variable {κ σ : Type}

/-- Insert the key of a request with its response, as JSON. A required JSON column refuses
`null`. -/
def storeResponse (key route requestHash : String) (value : JsValue) :
    Call (KeyedStep κ) (σ × IdempotencyKeys) ApiError Unit :=
  match h : storedJson value with
  | none => throw (.thrown "SyntaxError" "\"undefined\" is not valid JSON")
  | some .null => throw (.prisma "Argument responseBody must not be null")
  | some body => Call.query (.createKey key) fun (s, keys) => do
    let row : IdempotencyKey :=
      ⟨key, route, requestHash, 200, body, storedJson_stored value body h⟩
    let keys ← orThrow (keys.insert? row) (.prisma "P2002")
    return ((), s, keys)

/-- Run the request and store its response. -/
def execute (key route requestHash : String) (fn : Call κ σ ApiError JsValue) :
    Call (KeyedStep κ) (σ × IdempotencyKeys) ApiError IdempotentResult := do
  let value ← fn.onFst .request
  storeResponse key route requestHash value
  return { replayed := false, value }

/-- Answer with what is stored. -/
def replay (key requestHash : String) (existing : IdempotencyKey) :
    Except ApiError IdempotentResult :=
  if existing.requestHash ≠ requestHash then .error (idempotencyConflictError key)
  else .ok { replayed := true, value := existing.responseBody }

/-- A key that is absent or empty leaves the request unprotected. -/
def run (sha256Hex : String → String) (key : Option String) (route : String) (body : JsValue)
    (fn : Call κ σ ApiError JsValue) :
    Call (KeyedStep κ) (σ × IdempotencyKeys) ApiError IdempotentResult :=
  match LoyaltyService.given key with
  | none => do
    let value ← fn.onFst .request
    return { replayed := false, value }
  | some key => do
    let requestHash ← requestHashOf sha256Hex body
    let existing ← Call.read (.findKey key) fun s => s.2.find? key
    match existing with
    | some existing => replay key requestHash existing
    | none => execute key route requestHash fn

end IdempotencyService

/-! ## What a request alone does -/

/-- A request with its key, its route and its body. -/
structure IdempotentCall (κ σ : Type) where
  key : Option String
  route : String
  body : JsValue
  fn : Call κ σ ApiError JsValue

namespace IdempotentCall

variable {κ σ : Type}

/-- Serve the request under its key. -/
def call (sha256Hex : String → String) (c : IdempotentCall κ σ) :
    Call (KeyedStep κ) (σ × IdempotencyKeys) ApiError IdempotentResult :=
  IdempotencyService.run sha256Hex c.key c.route c.body c.fn

/-- The row stores the response of the request. -/
structure Stores (sha256Hex : String → String) (c : IdempotentCall κ σ) (value : JsValue)
    (row : IdempotencyKey) : Prop where
  key : c.key = some row.key
  route : row.route = c.route
  requestHash : IdempotencyService.requestHashOf sha256Hex c.body = .ok row.requestHash
  responseBody : storedJson value = some row.responseBody

/-- What came of a request. -/
inductive Outcome (sha256Hex : String → String) (c : IdempotentCall κ σ) (keys : IdempotencyKeys) :
    Except ApiError IdempotentResult × σ × IdempotencyKeys → Prop
  | failed (e : ApiError) (s : σ) : Outcome sha256Hex c keys (.error e, s, keys)
  | unprotected (value : JsValue) (s : σ) :
      Outcome sha256Hex c keys (.ok ⟨false, value⟩, s, keys)
  | replayed {row : IdempotencyKey} (s : σ) (hkey : c.key = some row.key)
      (hrow : keys.find? row.key = some row)
      (hhash : IdempotencyService.requestHashOf sha256Hex c.body = .ok row.requestHash) :
      Outcome sha256Hex c keys (.ok ⟨true, row.responseBody⟩, s, keys)
  | executed {row : IdempotencyKey} {keys' : IdempotencyKeys} (value : JsValue) (s : σ)
      (hrow : Stores sha256Hex c value row) (hkeys : keys.insert? row = some keys') :
      Outcome sha256Hex c keys (.ok ⟨false, value⟩, s, keys')

end IdempotentCall

namespace IdempotencyService

variable {κ σ : Type}

/-- Storing a response alone. -/
theorem run_storeResponse_cases (key route requestHash : String) (value : JsValue) (s : σ)
    (keys : IdempotencyKeys) :
    (∃ e, (storeResponse (κ := κ) key route requestHash value).run (s, keys) = (.error e, s, keys)) ∨
      ∃ row keys', row.key = key ∧ row.route = route ∧ row.requestHash = requestHash ∧
        storedJson value = some row.responseBody ∧ keys.insert? row = some keys' ∧
        (storeResponse (κ := κ) key route requestHash value).run (s, keys) = (.ok (), s, keys') := by
  unfold storeResponse
  split
  · exact .inl ⟨_, rfl⟩
  · exact .inl ⟨_, rfl⟩
  · next body _ hbody =>
    rw [Call.run_query]
    cases hkeys : keys.insert? ⟨key, route, requestHash, 200, body, storedJson_stored value body hbody⟩ with
    | none => exact .inl ⟨.prisma "P2002", by simp [hkeys, orThrow, bind, Except.bind]⟩
    | some keys' =>
      refine .inr ⟨_, keys', rfl, rfl, rfl, hbody, hkeys, ?_⟩
      simp [hkeys, orThrow, bind, Except.bind, pure, Except.pure]

/-- Running a request and storing its response alone. -/
theorem run_execute_cases (sha256Hex : String → String) {c : IdempotentCall κ σ} {key : String}
    {requestHash : String} (hkey : c.key = some key)
    (hhash : requestHashOf sha256Hex c.body = .ok requestHash) (s : σ) (keys : IdempotencyKeys) :
    c.Outcome sha256Hex keys ((execute key c.route requestHash c.fn).run (s, keys)) := by
  unfold execute
  rw [Call.run_bind, Call.run_onFst]
  rcases c.fn.run s with ⟨e | value, s'⟩
  · exact .failed e s'
  · simp only
    rw [Call.run_bind]
    rcases run_storeResponse_cases (κ := κ) key c.route requestHash value s' keys with
      ⟨e, h⟩ | ⟨row, keys', rfl, hroute, rfl, hbody, hkeys, h⟩
    · rw [h]
      exact .failed e s'
    · rw [h]
      exact .executed value s' ⟨hkey, hroute, hhash, hbody⟩ hkeys

end IdempotencyService

open IdempotencyService in
/-- **What a request served alone comes to.** -/
theorem IdempotentCall.outcome {κ σ : Type} (sha256Hex : String → String)
    (c : IdempotentCall κ σ) (s : σ) (keys : IdempotencyKeys) :
    c.Outcome sha256Hex keys ((c.call sha256Hex).run (s, keys)) := by
  unfold IdempotentCall.call run
  cases hkey : LoyaltyService.given c.key with
  | none =>
    simp only
    rw [Call.run_bind, Call.run_onFst]
    rcases c.fn.run s with ⟨e | value, s'⟩
    · exact .failed e s'
    · exact .unprotected value s'
  | some key =>
    have hgiven : c.key = some key := (Option.filter_eq_some_iff.mp hkey).1
    simp only
    rw [Call.run_lift_bind]
    cases hhash : requestHashOf sha256Hex c.body with
    | error e => exact .failed e s
    | ok requestHash =>
      simp only
      rw [Call.run_read_bind]
      cases hrow : keys.find? key with
      | none => exact run_execute_cases sha256Hex hgiven hhash s keys
      | some row =>
        have hid := Table.key_of_find? hrow
        simp only [Call.run_lift, replay]
        split_ifs with hconflict
        · exact .failed _ s
        · rw [not_not] at hconflict
          exact .replayed s (by rw [hgiven, hid]) (by rw [hid, hrow]) (by rw [hhash, hconflict])

open IdempotencyService in
/-- A key that is stored with the hash of a body answers the body, whatever the route. -/
theorem IdempotentCall.run_of_stored {κ σ : Type} {sha256Hex : String → String}
    {c : IdempotentCall κ σ} {row : IdempotencyKey}
    (hkey : LoyaltyService.given c.key = some row.key)
    (hhash : requestHashOf sha256Hex c.body = .ok row.requestHash) {keys : IdempotencyKeys}
    (hrow : keys.find? row.key = some row) (s : σ) :
    (c.call sha256Hex).run (s, keys) = (.ok ⟨true, row.responseBody⟩, s, keys) := by
  unfold IdempotentCall.call run
  simp only [hkey]
  rw [Call.run_lift_bind, hhash]
  simp only
  rw [Call.run_read_bind, hrow]
  simp [replay]

open IdempotencyService in
/-- A free key runs the request and stores its response. -/
theorem IdempotentCall.run_of_free {κ σ : Type} {sha256Hex : String → String}
    {c : IdempotentCall κ σ} {key requestHash : String}
    (hkey : LoyaltyService.given c.key = some key)
    (hhash : requestHashOf sha256Hex c.body = .ok requestHash) {keys : IdempotencyKeys}
    (hfree : keys.find? key = none) {s s' : σ} {fields : List (String × JsValue)}
    (hfn : c.fn.run s = (.ok (.object fields), s')) :
    ∃ row keys', row.key = key ∧ row.requestHash = requestHash ∧
      row.responseBody = .object (storedFields fields) ∧ keys'.find? key = some row ∧
      (c.call sha256Hex).run (s, keys) = (.ok ⟨false, .object fields⟩, s', keys') := by
  let row : IdempotencyKey := ⟨key, c.route, requestHash, 200, .object (storedFields fields),
    storedJson_stored (.object fields) _ rfl⟩
  obtain ⟨keys', hkeys⟩ := Table.exists_insert? (r := row) hfree
  refine ⟨row, keys', rfl, rfl, rfl, by rw [Table.find?_insert? hkeys, if_pos rfl], ?_⟩
  unfold IdempotentCall.call run
  simp only [hkey]
  rw [Call.run_lift_bind, hhash]
  simp only
  rw [Call.run_read_bind, hfree]
  simp only [execute]
  rw [Call.run_bind, Call.run_onFst, hfn]
  simp only
  rw [Call.run_bind]
  have hstore : (storeResponse (κ := κ) key c.route requestHash (.object fields)).run (s', keys) =
      (.ok (), s', keys') := by
    unfold storeResponse
    simp only [storedJson]
    rw [Call.run_query]
    simp [row, hkeys, orThrow, bind, Except.bind, pure, Except.pure]
  rw [hstore]
  rfl

end TrusteeBank
