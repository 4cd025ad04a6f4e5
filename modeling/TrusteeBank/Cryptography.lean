import TrusteeBank.Js

/-!
# Canonical payloads and the platform

`canonicalize` turns a payload into the text that is signed: object keys sorted at every depth,
bigints as decimal strings, no white space. The signature scheme itself (Ed25519), Unicode
upper-casing, `Date.parse` and the environment variables come from outside the repository; they
are the fields of `Runtime`, and every result holds for all of them.
-/

set_option autoImplicit false

namespace TrusteeBank

/-! ## Canonical JSON -/

/-- The UTF-16 code units of a character. -/
def codeUnits (c : Char) : List Nat :=
  let n := c.toNat
  if n < 0x10000 then [n] else [0xd800 + (n - 0x10000) / 0x400, 0xdc00 + (n - 0x10000) % 0x400]

/-- The order of `Array.prototype.sort` on strings. -/
def codeUnitsLe (s t : String) : Bool :=
  decide (s.toList.flatMap codeUnits ≤ t.toList.flatMap codeUnits)

/-- An integer key of an object: it is listed before the other keys. -/
def arrayIndex? (key : String) : Option Nat :=
  match digitsValue 10 key.toList with
  | some n => if toString n = key ∧ n < 2 ^ 32 - 1 then some n else none
  | none => none

/-- The order `Object.keys(..).sort()` leaves in the copy `sortValue` builds. -/
def canonicalKeyLe (s t : String) : Bool :=
  match arrayIndex? s, arrayIndex? t with
  | some m, some n => m ≤ n
  | some _, none => true
  | none, some _ => false
  | none, none => codeUnitsLe s t

/-- One lower-case hexadecimal digit. -/
def hexDigit (n : Nat) : Char := Nat.digitChar (n % 16)

/-- A string in quotes, as `JSON.stringify` writes it. -/
def quoteJson (s : String) : String :=
  let escape (c : Char) : List Char :=
    if c = '"' then ['\\', '"']
    else if c = '\\' then ['\\', '\\']
    else if c.toNat = 8 then ['\\', 'b']
    else if c.toNat = 9 then ['\\', 't']
    else if c.toNat = 10 then ['\\', 'n']
    else if c.toNat = 12 then ['\\', 'f']
    else if c.toNat = 13 then ['\\', 'r']
    else if c.toNat < 32 then ['\\', 'u', '0', '0', hexDigit (c.toNat / 16), hexDigit c.toNat]
    else [c]
  String.ofList (['"'] ++ s.toList.flatMap escape ++ ['"'])

mutual

/-- `JSON.stringify(sortValue(v))`; `none` is `undefined`. The key `__proto__` of an object is
not copied by `sortValue`. -/
def stringifySorted : JsValue → Option String
  | .undefined => none
  | .null => some "null"
  | .bool b => some (if b then "true" else "false")
  | .number n => some (toString n)
  | .decimal text => some text
  | .bigint n => some (quoteJson (toString n))
  | .string s => some (quoteJson s)
  | .array items => some ("[" ++ ",".intercalate (stringifyItems items) ++ "]")
  | .object fields =>
    let written := (stringifyFields fields).mergeSort fun a b => canonicalKeyLe a.1 b.1
    some ("\x7b" ++ ",".intercalate (written.map fun f => quoteJson f.1 ++ ":" ++ f.2) ++ "\x7d")

def stringifyItems : List JsValue → List String
  | [] => []
  | v :: vs => (stringifySorted v).getD "null" :: stringifyItems vs

def stringifyFields : List (String × JsValue) → List (String × String)
  | [] => []
  | (key, v) :: fields =>
    match stringifySorted v with
    | some text => if key = "__proto__" then stringifyFields fields
        else (key, text) :: stringifyFields fields
    | none => stringifyFields fields

end

/-- `canonicalize` of a payload object. -/
def canonicalize (payload : JsValue) : String := (stringifySorted payload).getD "undefined"

/-! ## Keys and signatures -/

inductive SigningPurpose
  | apiAuth
  | requestSigning
  | responseSigning
  | mintAuthorization
  | reserveSnapshot
  | attestation
  | webhook
  | documentHash
deriving DecidableEq, Repr

structure Signature where
  keyId : String
  algorithm : String
  value : String
deriving DecidableEq, Repr

/-! ## The platform -/

/-- What the code takes from outside the repository. -/
class Runtime where
  /-- `String.prototype.toUpperCase`. -/
  toUpperCase : String → String
  /-- Upper-casing an upper-cased string changes nothing. -/
  toUpperCase_toUpperCase : ∀ s, toUpperCase (toUpperCase s) = toUpperCase s
  /-- `Date.parse`, `none` being `NaN`. -/
  dateParse : String → JsNumber
  /-- The key identifier and the Ed25519 signature of a text, by purpose. -/
  edSign : SigningPurpose → String → String × String
  /-- Ed25519 verification under a public key; `false` when it throws. -/
  edVerify : String → String → String → Bool
  /-- `PAYCHAIN_LIABILITY_PUBLIC_KEY`. -/
  paychainLiabilityPublicKey : Option String
  /-- `MAX_RESERVE_SNAPSHOT_AGE_S`, 900 when unset. -/
  maxReserveSnapshotAgeS : JsNumber
  /-- `MAX_BANK_CONNECTIVITY_AGE_S`, 300 when unset. -/
  maxBankConnectivityAgeS : JsNumber
  /-- `MAX_LIABILITY_FEED_AGE_S`, 900 when unset. -/
  maxLiabilityFeedAgeS : JsNumber
  /-- `MAX_PROOF_OF_RESERVE_AGE_S`, `none` when unset. -/
  maxProofOfReserveAgeS : Option JsNumber
  /-- `MINT_AUTH_TTL_S`, 900 when unset. -/
  mintAuthTtlS : JsNumber

/-! ### A platform -/

theorem toUpper_toUpper (c : Char) : c.toUpper.toUpper = c.toUpper := by
  have hupper : ¬('a'.val ≤ c.toUpper.val ∧ c.toUpper.val ≤ 'z'.val) := by
    unfold Char.toUpper
    split_ifs with h
    · simp only [UInt32.le_iff_toNat_le, UInt32.toNat_add] at h ⊢
      have hshift : ('A'.val - 'a'.val).toNat = 4294967264 := by decide
      have ha : 'a'.val.toNat = 97 := by decide
      have hz : 'z'.val.toNat = 122 := by decide
      omega
    · exact h
  exact dif_neg hupper

def upperAscii (s : String) : String := String.ofList (s.toList.map Char.toUpper)

theorem upperAscii_upperAscii (s : String) : upperAscii (upperAscii s) = upperAscii s := by
  simp only [upperAscii, String.toList_ofList, List.map_map, Function.comp_def, toUpper_toUpper]

/-- A platform for ASCII texts, with the default settings; every signature is the same text. -/
@[reducible] def Runtime.ascii : Runtime where
  toUpperCase := upperAscii
  toUpperCase_toUpperCase := upperAscii_upperAscii
  dateParse text := if text = "2026-01-01T00:00:00Z" then some 1767225600000 else none
  edSign _ _ := ("key-1", "signature")
  edVerify _ _ _ := true
  paychainLiabilityPublicKey := none
  maxReserveSnapshotAgeS := some 900
  maxBankConnectivityAgeS := some 300
  maxLiabilityFeedAgeS := some 900
  maxProofOfReserveAgeS := none
  mintAuthTtlS := some 900

variable [Runtime]

/-- `new Date(text)`. -/
def newDateOf (text : String) : Option Int := newDate (Runtime.dateParse text)

/-- `signPayload` under the active key of a purpose. -/
def signPayload (purpose : SigningPurpose) (payload : JsValue) : Signature :=
  let (keyId, value) := Runtime.edSign purpose (canonicalize payload)
  { keyId, algorithm := "ed25519", value }

/-- `verifyPayload`. -/
def verifyPayload (publicKeyPem : String) (payload : JsValue) (signature : Signature) : Bool :=
  signature.algorithm = "ed25519" &&
    Runtime.edVerify publicKeyPem (canonicalize payload) signature.value

end TrusteeBank
