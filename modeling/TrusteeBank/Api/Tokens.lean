import TrusteeBank.Api.ClientSeparation
import TrusteeBank.JsonValues
import TrusteeBank.Lib.Base64Url
import TrusteeBank.Lib.Utf8

/-!
# Session tokens of code units

`issueToken` writes the claims of a session as JSON, and puts the base64url of the text, a dot and
the HMAC of the base64url one after the other. `verifyToken` takes a token apart at its last dot,
and compares the HMAC with the one it computes. The lengths it compares first are those of the
strings, in code units; `timingSafeEqual` compares those of the bytes, and throws when they differ.

**Theorem (`verify_token_iff`).** A token is verified without an exception, and is rejected when its
HMAC is wrong, unless what stands after its last dot is as long as an HMAC and not ASCII. A token
that was issued is verified, with the fields of the principal, up to the instant of its expiry.

* `timingSafeEqual_of_ascii`, `timingSafeEqual_of_wide`: the comparison;
* `verifyToken_issueToken`: the second half.
-/

set_option autoImplicit false

namespace TrusteeBank

open Lib (CodeUnit Utf16 Json)
open Lib.Utf16

namespace Tokens

/-! ## The source -/

/-- A time value: a clock has a valid date. -/
abbrev TimeValue := { ms : Int // IsTimeValue ms }

/-- The base64url of 32 bytes. -/
structure Mac where
  text : Utf16
  length : text.length = 43
  digits : ∀ u ∈ text, Lib.Base64Url.IsDigit u

/-- A property of what `JSON.parse` returned. A string has a method `sub`. -/
inductive Member
  | undefined
  | method
  | value (v : Json JsonNumber)

/-- What the tokens take from the platform and from the environment. -/
class TokenRuntime extends NumberRuntime where
  /-- The base64url HMAC-SHA256 of a string under `SESSION_SECRET`. -/
  sign : Utf16 → Mac
  /-- `Buffer.from(text, 'base64url')`, of a text with other units than the digits. -/
  decodeLenient : Utf16 → List UInt8
  /-- `exp * 1000 < now`, of an `exp` that is there and no integer; `none` when it throws. -/
  before : Member → TimeValue → Option Bool
  /-- `SESSION_TTL_SECONDS`, 3600 when unset: whole seconds, or `NaN` as `none`. -/
  sessionTtlSeconds : Option { n : Int // -2 ^ 52 ≤ n ∧ n ≤ 2 ^ 52 }

structure UserPrincipal where
  userId : Utf16
  email : Utf16
  institution : Utf16
  roles : List Utf16
  mfaPending : Option Bool

/-- What `verifyToken` returns; the fields are whatever the token carries. -/
structure VerifiedPrincipal where
  userId : Member
  email : Member
  institution : Member
  roles : Member
  mfaPending : Bool

/-- The parts of a string before and after the last unit `u`. -/
def splitLast (u : CodeUnit) : Utf16 → Option (Utf16 × Utf16)
  | [] => none
  | v :: s =>
    match splitLast u s with
    | some (before, after) => some (v :: before, after)
    | none => if v = u then some ([], s) else none

/-- `timingSafeEqual`. -/
def timingSafeEqual (a b : List UInt8) : Except ApiError Bool :=
  if a.length ≠ b.length then
    .error (.thrown "RangeError" "Input buffers must have the same byte length")
  else .ok (a = b)

/-- `p[key]`; `none` when it throws. -/
def member (p : Json JsonNumber) (key : String) : Option Member :=
  match p with
  | .null => none
  | .object fields =>
    match fields.find? fun f => f.1 = ofString key with
    | some f => some (.value f.2)
    | none => some .undefined
  | .string _ => some (if key = "sub" then .method else .undefined)
  | _ => some .undefined

section

variable [TokenRuntime]

/-- The seconds at which a token issued now expires. -/
def expiry (now : TimeValue) : Option Int :=
  TokenRuntime.sessionTtlSeconds.map fun ttl => now.val / 1000 + ttl.val

/-- The claims of a token issued now. -/
def payload (now : TimeValue) (p : UserPrincipal) : Json JsonNumber :=
  .object
    [(ofString "sub", .string p.userId),
      (ofString "email", .string p.email),
      (ofString "inst", .string p.institution),
      (ofString "roles", .array (p.roles.map .string)),
      (ofString "mfp", .number (.ofInt (if p.mfaPending = some true then 1 else 0))),
      (ofString "exp", (expiry now).elim .null fun exp => .number (.ofInt exp))]

def sign (body : Utf16) : Utf16 := (TokenRuntime.sign body).text

def issueToken (now : TimeValue) (p : UserPrincipal) : Utf16 :=
  let body := Lib.Base64Url.encode (utf8 (jsonText (payload now p)))
  body ++ unit '.' :: sign body

/-- `Buffer.from(body, 'base64url')`. -/
def decodeBody (body : Utf16) : List UInt8 :=
  (Lib.Base64Url.decode body).getD (TokenRuntime.decodeLenient body)

/-- `p.exp * 1000 < now`. The product may be rounded, but not across a time value. -/
def expired (exp : Member) (now : TimeValue) : Option Bool :=
  match exp with
  | .undefined => some false
  | .value .null => some (0 < now.val)
  | .value (.number (.integer n _)) => some (n * 1000 < now.val)
  | _ => TokenRuntime.before exp now

/-- The body of the `try` block, where `none` is an exception. -/
def readPayload (now : TimeValue) (body : Utf16) : Option (Option VerifiedPrincipal) := do
  let p ← jsonParse (utf8Decode (decodeBody body))
  let exp ← member p "exp"
  if ← expired exp now then return none
  let userId ← member p "sub"
  let email ← member p "email"
  let institution ← member p "inst"
  let roles ← member p "roles"
  let mfp ← member p "mfp"
  let mfaPending := match mfp with
    | .value (.number (.integer 1 _)) => true
    | _ => false
  return some { userId, email, institution, roles, mfaPending }

def verifyToken (now : TimeValue) (token : Utf16) : Except ApiError (Option VerifiedPrincipal) :=
  match splitLast (unit '.') token with
  | none => .ok none
  | some (body, sig) =>
    if body = [] then .ok none
    else do
      let expected := sign body
      if sig.length ≠ expected.length then return none
      let same ← timingSafeEqual (utf8 sig) (utf8 expected)
      if same then return (readPayload now body).getD none
      else return none

/-! ## The comparison -/

omit [TokenRuntime] in
/-- A string has a last `u` where no `u` follows. -/
theorem splitLast_append {u : CodeUnit} {before after : Utf16} (h : u ∉ after) :
    splitLast u (before ++ u :: after) = some (before, after) := by
  have hafter : splitLast u after = none := by
    induction after with
    | nil => rfl
    | cons v s ih =>
      obtain ⟨hv, hs⟩ := not_or.mp fun hmem => h (List.mem_cons.mpr hmem)
      rw [splitLast, ih hs]
      exact if_neg (Ne.symm hv)
  induction before with
  | nil =>
    rw [List.nil_append, splitLast, hafter]
    exact if_pos rfl
  | cons v before ih =>
    rw [List.cons_append, splitLast, ih]

omit [TokenRuntime] in
theorem Mac.ascii (mac : Mac) : ∀ u ∈ mac.text, u.val < 0x80 :=
  fun u hu => (mac.digits u hu).lt.1

omit [TokenRuntime] in
theorem Mac.length_utf8 (mac : Mac) : (utf8 mac.text).length = 43 :=
  ((utf8_length mac.text).2.mpr mac.ascii).trans mac.length

omit [TokenRuntime] in
/-- ASCII of the length of an HMAC is compared with it. -/
theorem timingSafeEqual_of_ascii {sig : Utf16} {mac : Mac} (hlength : sig.length = 43)
    (hascii : ∀ u ∈ sig, u.val < 0x80) :
    timingSafeEqual (utf8 sig) (utf8 mac.text) = .ok (decide (sig = mac.text)) := by
  have hbytes : (utf8 sig).length = 43 := ((utf8_length sig).2.mpr hascii).trans hlength
  have hsame : utf8 sig = utf8 mac.text ↔ sig = mac.text := by
    refine ⟨fun h => ?_, fun h => by rw [h]⟩
    rw [← utf8Decode_utf8 (wellFormed_of_ascii hascii), h,
      utf8Decode_utf8 (wellFormed_of_ascii mac.ascii)]
  unfold timingSafeEqual
  rw [if_neg (not_not.mpr (hbytes.trans mac.length_utf8.symm))]
  simp only [hsame]

omit [TokenRuntime] in
/-- Anything else of that length has more bytes. -/
theorem timingSafeEqual_of_wide {sig : Utf16} {mac : Mac} (hlength : sig.length = 43)
    (hwide : ¬∀ u ∈ sig, u.val < 0x80) :
    timingSafeEqual (utf8 sig) (utf8 mac.text) =
      .error (.thrown "RangeError" "Input buffers must have the same byte length") := by
  unfold timingSafeEqual
  refine if_pos fun h => hwide ((utf8_length sig).2.mp ?_)
  rw [h, mac.length_utf8, hlength]

/-! ## Any token -/

omit [TokenRuntime] in
/-- What stands after the last dot is as long as an HMAC, and not ASCII. -/
def WideSignature (token : Utf16) : Prop :=
  ∃ body sig, splitLast (unit '.') token = some (body, sig) ∧ body ≠ [] ∧ sig.length = 43 ∧
    ¬∀ u ∈ sig, u.val < 0x80

/-- No exception is thrown, and a wrong HMAC is rejected. -/
structure Verifies (now : TimeValue) (token : Utf16) : Prop where
  total : ∃ result, verifyToken now token = .ok result
  rejects : ∀ body sig, splitLast (unit '.') token = some (body, sig) → sig ≠ sign body →
    verifyToken now token = .ok none

/-- **What `verifyToken` does with a token**, by what stands after its last dot. -/
theorem verifyToken_eq (now : TimeValue) {token body sig : Utf16}
    (hsplit : splitLast (unit '.') token = some (body, sig)) (hbody : body ≠ [])
    [Decidable (∀ u ∈ sig, u.val < 0x80)] :
    verifyToken now token =
      if sig.length ≠ 43 then .ok none
      else if ∀ u ∈ sig, u.val < 0x80 then
        .ok (if sig = sign body then (readPayload now body).getD none else none)
      else .error (.thrown "RangeError" "Input buffers must have the same byte length") := by
  have hmac : (sign body).length = 43 := (TokenRuntime.sign body).length
  unfold verifyToken
  rw [hsplit]
  simp only [hbody, if_false, hmac]
  by_cases hlength : sig.length = 43
  · rw [if_neg (not_not.mpr hlength), if_neg (not_not.mpr hlength)]
    by_cases hascii : ∀ u ∈ sig, u.val < 0x80
    · rw [if_pos hascii, sign, timingSafeEqual_of_ascii hlength hascii]
      by_cases hsame : sig = (TokenRuntime.sign body).text
      · simp only [hsame, decide_true, if_true]
        rfl
      · simp only [hsame, decide_false, if_false]
        rfl
    · rw [if_neg hascii, sign, timingSafeEqual_of_wide hlength hascii]
      rfl
  · rw [if_pos hlength, if_pos hlength]
    rfl

/-- **Totality.** -/
theorem verifies_iff (now : TimeValue) (token : Utf16) :
    Verifies now token ↔ ¬WideSignature token := by
  cases hsplit : splitLast (unit '.') token with
  | none =>
    have hnone : verifyToken now token = .ok none := by
      unfold verifyToken
      rw [hsplit]
    refine iff_of_true ⟨⟨none, hnone⟩, fun body sig h => ?_⟩ ?_
    · rw [hsplit] at h
      cases h
    · rintro ⟨body, sig, h, -⟩
      rw [hsplit] at h
      cases h
  | some parts =>
    obtain ⟨body, sig⟩ := parts
    by_cases hbody : body = []
    · have hnone : verifyToken now token = .ok none := by
        unfold verifyToken
        rw [hsplit]
        exact if_pos hbody
      refine iff_of_true ⟨⟨none, hnone⟩, fun _ _ _ _ => hnone⟩ ?_
      rintro ⟨body', sig', h, hbody', -⟩
      cases hsplit.symm.trans h
      exact hbody' hbody
    · have hverify := verifyToken_eq now hsplit hbody
      by_cases hlength : sig.length = 43
      · by_cases hascii : ∀ u ∈ sig, u.val < 0x80
        · rw [if_neg (not_not.mpr hlength), if_pos hascii] at hverify
          refine iff_of_true ⟨⟨_, hverify⟩, fun body' sig' h hne => ?_⟩ ?_
          · cases hsplit.symm.trans h
            rw [hverify, if_neg hne]
          · rintro ⟨body', sig', h, -, -, hwide⟩
            cases hsplit.symm.trans h
            exact hwide hascii
        · rw [if_neg (not_not.mpr hlength), if_neg hascii] at hverify
          refine iff_of_false (fun h => ?_) fun h => h ⟨body, sig, hsplit, hbody, hlength, hascii⟩
          obtain ⟨result, hresult⟩ := h.total
          cases hverify.symm.trans hresult
      · rw [if_pos hlength] at hverify
        refine iff_of_true ⟨⟨none, hverify⟩, fun _ _ _ _ => hverify⟩ ?_
        rintro ⟨body', sig', h, -, hlength', -⟩
        cases hsplit.symm.trans h
        exact hlength hlength'

/-! ## An issued token -/

/-- The instant of expiry, in milliseconds. -/
def expiryInstant (now : TimeValue) : Int := (expiry now).getD 0 * 1000

omit [TokenRuntime] in
/-- What is verified of a principal. -/
def verified (p : UserPrincipal) : VerifiedPrincipal where
  userId := .value (.string p.userId)
  email := .value (.string p.email)
  institution := .value (.string p.institution)
  roles := .value (.array (p.roles.map .string))
  mfaPending := p.mfaPending = some true

/-- The expiry is a safe integer. -/
theorem safe_expiry {now : TimeValue} {exp : Int} (h : expiry now = some exp) :
    IsSafeInteger exp := by
  obtain ⟨ttl, -, rfl⟩ := Option.map_eq_some_iff.mp h
  obtain ⟨hlower, hupper⟩ := ttl.property
  obtain ⟨hfirst, hlast⟩ := now.property
  unfold IsSafeInteger maxSafeInteger
  omega

omit [TokenRuntime] in
theorem ofInt_of_safe {n : Int} (safe : IsSafeInteger n) :
    JsonNumber.ofInt n = .integer n safe := dif_pos safe

omit [TokenRuntime] in
theorem safe_flag (c : Prop) [Decidable c] : IsSafeInteger (if c then 1 else 0) := by
  split_ifs <;> decide

omit [TokenRuntime] in
/-- The keys of the claims are distinct, and none of them is an integer. -/
theorem claimKeys_plain :
    (["sub", "email", "inst", "roles", "mfp", "exp"].map ofString).Nodup ∧
      ∀ key ∈ ["sub", "email", "inst", "roles", "mfp", "exp"].map ofString, index? key = none := by
  decide

/-- The numbers of the claims are safe integers. -/
theorem payload_integers (now : TimeValue) (p : UserPrincipal) :
    (payload now p).Forall (fun n => ∃ (k : Int) (safe : IsSafeInteger k), n = .integer k safe)
      List.Nodup := by
  refine .object claimKeys_plain.1 ?_
  simp only [List.forall_mem_cons, List.not_mem_nil, false_implies, implies_true, and_true]
  refine ⟨.string _, .string _, .string _, ?_, .number ⟨_, _, ofInt_of_safe (safe_flag _)⟩, ?_⟩
  · exact .array (List.forall_mem_map.mpr fun role _ => .string role)
  · cases hexp : expiry now with
    | none => exact .null
    | some exp => exact .number ⟨exp, safe_expiry hexp, ofInt_of_safe (safe_expiry hexp)⟩

/-- No key of the claims is an integer. -/
theorem inOwnOrder_payload (now : TimeValue) (p : UserPrincipal) :
    inOwnOrder (payload now p) = payload now p := by
  have hroles : inOwnOrder (.array (p.roles.map .string)) = .array (p.roles.map .string) := by
    rw [inOwnOrder_array, List.map_map]
    rfl
  have hexp : inOwnOrder ((expiry now).elim .null fun exp => .number (.ofInt exp)) =
      (expiry now).elim .null fun exp => .number (.ofInt exp) := by
    cases expiry now <;> rfl
  rw [payload, inOwnOrder_object, ownOrder_of_names]
  · simp only [List.map_cons, List.map_nil, Json.onValues, hroles, hexp]
    rfl
  · intro f hf
    exact claimKeys_plain.2 f.1 (List.mem_map_of_mem hf)

/-- **The claims are read back.** -/
theorem jsonParse_payload (now : TimeValue) (p : UserPrincipal) :
    jsonParse (jsonText (payload now p)) = some (payload now p) := by
  have hintegers := payload_integers now p
  have hsafe : SafeData (payload now p) := by
    refine hintegers.mono ?_ fun _ => id
    rintro n ⟨k, safe, rfl⟩
    trivial
  have hself : (payload now p).map (fun n => JsonNumber.literal n.text) = payload now p := by
    refine Json.Forall.map_eq_self (hintegers.mono ?_ fun _ => id)
    rintro n ⟨k, safe, rfl⟩
    exact JsonNumber.literal_toString k safe
  rw [jsonParse_jsonText hsafe, hself, inOwnOrder_payload]

theorem expired_payload (now now' : TimeValue) :
    expired (.value ((expiry now).elim .null fun exp => .number (.ofInt exp))) now' =
      some (decide (expiryInstant now < now'.val)) := by
  unfold expiryInstant
  cases hexp : expiry now with
  | none =>
    simp only [Option.elim_none, expired, Option.getD_none, Int.zero_mul]
  | some exp =>
    simp only [Option.elim_some, ofInt_of_safe (safe_expiry hexp), expired, Option.getD_some]

/-- The text of the claims is well-formed, so that its bytes are read back as the text. -/
theorem utf8Decode_payload (now : TimeValue) (p : UserPrincipal) :
    utf8Decode (utf8 (jsonText (payload now p))) = jsonText (payload now p) := by
  apply utf8Decode_utf8
  apply Json.wellFormed_write
  refine (payload_integers now p).mono ?_ fun _ => id
  rintro n ⟨k, safe, rfl⟩
  exact ⟨_, rfl⟩

/-- The claims are read back as those of the principal, before the expiry. -/
theorem readPayload_issued (now now' : TimeValue) (p : UserPrincipal) :
    readPayload now' (Lib.Base64Url.encode (utf8 (jsonText (payload now p)))) =
      some (if expiryInstant now < now'.val then none else some (verified p)) := by
  have hdecode : decodeBody (Lib.Base64Url.encode (utf8 (jsonText (payload now p)))) =
      utf8 (jsonText (payload now p)) := by
    unfold decodeBody
    rw [Lib.Base64Url.decode_encode]
    rfl
  have hexp : member (payload now p) "exp" =
      some (.value ((expiry now).elim .null fun exp => .number (.ofInt exp))) := rfl
  have hmfp : member (payload now p) "mfp" =
      some (.value (.number (.ofInt (if p.mfaPending = some true then 1 else 0)))) := rfl
  have hsub : member (payload now p) "sub" = some (.value (.string p.userId)) := rfl
  have hemail : member (payload now p) "email" = some (.value (.string p.email)) := rfl
  have hinst : member (payload now p) "inst" = some (.value (.string p.institution)) := rfl
  have hroles : member (payload now p) "roles" =
      some (.value (.array (p.roles.map .string))) := rfl
  unfold readPayload
  rw [hdecode, utf8Decode_payload, jsonParse_payload]
  simp only [Option.bind_eq_bind, Option.bind_some, hexp, expired_payload, hsub, hemail, hinst,
    hroles, hmfp]
  by_cases hlate : expiryInstant now < now'.val
  · simp only [hlate, decide_true, if_true]
    rfl
  · simp only [hlate, decide_false, if_false]
    by_cases hpending : p.mfaPending = some true
    · simp only [hpending, if_true, verified]
      rfl
    · simp only [hpending, if_false, verified]
      rfl

/-- **A token that was issued is verified up to its expiry.** -/
theorem verifyToken_issueToken (now now' : TimeValue) (p : UserPrincipal) :
    verifyToken now' (issueToken now p) =
      .ok (if expiryInstant now < now'.val then none else some (verified p)) := by
  generalize hbody : Lib.Base64Url.encode (utf8 (jsonText (payload now p))) = body
  have hdot : unit '.' ∉ sign body := by
    intro hmem
    exact ((TokenRuntime.sign body).digits _ hmem).lt.2 (by decide)
  have hne : body ≠ [] := by
    rintro rfl
    have hbytes := Lib.Base64Url.decode_encode (utf8 (jsonText (payload now p)))
    rw [hbody] at hbytes
    have hnil : utf8 (jsonText (payload now p)) = [] := (Option.some.inj hbytes).symm
    have htext := utf8Decode_payload now p
    rw [hnil] at htext
    cases htext
  have hlength : (sign body).length = 43 := (TokenRuntime.sign body).length
  have hascii : ∀ u ∈ sign body, u.val < 0x80 := (TokenRuntime.sign body).ascii
  have hissue : issueToken now p = body ++ unit '.' :: sign body := by
    rw [← hbody]
    rfl
  rw [hissue, verifyToken_eq now' (splitLast_append hdot) hne, if_neg (not_not.mpr hlength),
    if_pos hascii, if_pos rfl, ← hbody, readPayload_issued]
  rfl

/-- **Tokens.** A token is verified without an exception, and rejected when its HMAC is wrong,
exactly when what stands after its last dot is ASCII or not as long as an HMAC. A token that was
issued is verified up to the instant of its expiry, and rejected after it. -/
theorem verify_token_iff :
    (∀ now token, Verifies now token ↔ ¬WideSignature token) ∧
      ∀ (now now' : TimeValue) (p : UserPrincipal), verifyToken now' (issueToken now p) =
        .ok (if expiryInstant now < now'.val then none else some (verified p)) :=
  ⟨verifies_iff, verifyToken_issueToken⟩

end

end Tokens

/-! ## A signature that is not ASCII -/

namespace Sample

open Tokens

/-- Every HMAC is the same text. -/
def mac : Mac where
  text := List.replicate 43 (unit 'A')
  length := List.length_replicate
  digits u hu := by
    rw [List.eq_of_mem_replicate hu]
    decide

@[reducible] def tokenRuntime : TokenRuntime where
  literal s := .other s
  sign _ := mac
  decodeLenient _ := []
  before _ _ := some false
  sessionTtlSeconds := some ⟨3600, by decide⟩

/-- The beginning of the epoch. -/
def epoch : TimeValue := ⟨0, by decide⟩

/-- As long as an HMAC, with one unit that is not ASCII. -/
def wideToken : Utf16 := unit 'a' :: unit '.' :: unit 'é' :: List.replicate 42 (unit 'A')

end Sample

attribute [local instance] Sample.tokenRuntime

/-- A signature of 43 units that is not ASCII makes `verifyToken` throw. -/
theorem wide_signature_throws : ¬∀ [Tokens.TokenRuntime] (now : Tokens.TimeValue) (token : Utf16),
    Tokens.Verifies now token := by
  intro h
  obtain ⟨result, hresult⟩ := (h Sample.epoch Sample.wideToken).total
  have hsplit : Tokens.splitLast (unit '.') Sample.wideToken =
      some ([unit 'a'], unit 'é' :: List.replicate 42 (unit 'A')) := by decide
  have hthrows := Tokens.verifyToken_eq Sample.epoch hsplit (List.cons_ne_nil _ _)
  have hwide : ¬∀ u ∈ unit 'é' :: List.replicate 42 (unit 'A'), u.val < 0x80 :=
    fun h => absurd (h _ List.mem_cons_self) (by decide)
  rw [if_neg (by decide), if_neg hwide] at hthrows
  cases hthrows.symm.trans hresult

end TrusteeBank
