import TrusteeBank.Cryptography

/-!
# Passwords and one-time codes

A password is stored as the text `scrypt$N$salthex$hashhex`. The second factor is a TOTP code
over a secret written in base 32: six digits, a new code every thirty seconds, and a verification
accepts the code of the period before and of the one after.

HMAC-SHA1 and scrypt are the fields of `HashRuntime`.
-/

set_option autoImplicit false

namespace TrusteeBank

/-- The hash functions of `node:crypto`. -/
class HashRuntime where
  /-- `createHmac('sha1', key).update(data).digest()`. -/
  hmacSha1 : List UInt8 → List UInt8 → List UInt8
  /-- `scryptSync(password, salt, keylen, { N: Number(n) })`. -/
  scryptSync : String → List UInt8 → Nat → String → Except ApiError (List UInt8)

/-! ## Base 32 -/

/-- `B32`, by character. -/
def b32 : List Char :=
  ['A', 'B', 'C', 'D', 'E', 'F', 'G', 'H', 'I', 'J', 'K', 'L', 'M', 'N', 'O', 'P', 'Q', 'R', 'S',
    'T', 'U', 'V', 'W', 'X', 'Y', 'Z', '2', '3', '4', '5', '6', '7']

/-- `B32[index & 31]`. -/
def b32Char (index : BitVec 32) : Char := b32.getD (index &&& 31).toNat 'A'

/-- `while (bits >= 5)`: the characters written, and the bits left. -/
def writeQuintets (value : BitVec 32) : Nat → List Char × Nat
  | bits + 5 =>
    let (out, left) := writeQuintets value bits
    (b32Char (value >>> bits) :: out, left)
  | bits => ([], bits)

/-- The loop over the bytes, with the bits held back so far. -/
def encodeBytes (bits : Nat) (value : BitVec 32) : List UInt8 → List Char
  | [] => if bits > 0 then [b32Char (value <<< (5 - bits))] else []
  | byte :: bytes =>
    let value := value <<< 8 ||| BitVec.ofNat 32 byte.toNat
    let (out, bits) := writeQuintets value (bits + 8)
    out ++ encodeBytes bits value bytes

def base32Encode (buf : List UInt8) : String := String.ofList (encodeBytes 0 0 buf)

/-- The loop over the characters. A character outside the alphabet is skipped. -/
def decodeChars (bits : Nat) (value : BitVec 32) : List Char → List UInt8
  | [] => []
  | ch :: chars =>
    match b32.idxOf? ch with
    | none => decodeChars bits value chars
    | some idx =>
      let value := value <<< 5 ||| BitVec.ofNat 32 idx
      let bits := bits + 5
      if bits ≥ 8 then UInt8.ofNat (value >>> (bits - 8)).toNat :: decodeChars (bits - 8) value chars
      else decodeChars bits value chars

/-- `s.replace(/=+$/, '')`. -/
def stripPadding (s : String) : String :=
  String.ofList (s.toList.reverse.dropWhile fun c => c = '=').reverse

def base32Decode [Runtime] (s : String) : List UInt8 :=
  decodeChars 0 0 (Runtime.toUpperCase (stripPadding s)).toList

/-! ## One-time codes -/

/-- `generateTotpSecret`, of the random bytes it draws. -/
def generateTotpSecret (random : List UInt8) : String := base32Encode random

/-- `buf.writeBigUInt64BE(BigInt(counter))`. -/
def writeBigUInt64BE (counter : Int) : Except ApiError (List UInt8) :=
  if 0 ≤ counter ∧ counter < 2 ^ 64 then
    .ok ([7, 6, 5, 4, 3, 2, 1, 0].map fun i => UInt8.ofNat (counter.toNat / 256 ^ i))
  else .error (.thrown "RangeError" "The value of \"value\" is out of range")

/-- The 31 bits of a digest that its last byte points to. -/
def truncateDigest (hmac : List UInt8) : Nat :=
  let byte (i : Nat) : BitVec 32 := BitVec.ofNat 32 (hmac.getD i 0).toNat
  let offset := (byte (hmac.length - 1) &&& 0xf).toNat
  ((byte offset &&& 0x7f) <<< 24 ||| (byte (offset + 1) &&& 0xff) <<< 16 |||
    (byte (offset + 2) &&& 0xff) <<< 8 ||| (byte (offset + 3) &&& 0xff)).toNat

section

variable [Runtime] [HashRuntime]

def totpCode (secret : String) (forTime : Int) : Except ApiError String := do
  let counter := forTime / 1000 / 30
  let key := base32Decode secret
  let buf ← writeBigUInt64BE counter
  return padZeros 6 (truncateDigest (HashRuntime.hmacSha1 key buf) % 1000000)

/-- `for (const drift of drifts)`: whether one of the codes is `c`. -/
def matchesCode (secret c : String) (nowMs : Int) : List Int → Except ApiError Bool
  | [] => .ok false
  | drift :: drifts => do
    let code ← totpCode secret (nowMs + drift * 30000)
    if code = c then return true else matchesCode secret c nowMs drifts

def verifyTotp (secret code : String) (nowMs : Int) : Except ApiError Bool :=
  matchesCode secret (String.ofList (jsTrim code.toList)) nowMs [-1, 0, 1]

end

/-! ## Passwords -/

/-- `Buffer.from(text, 'hex')`: the bytes before the first pair that is not hexadecimal. -/
def hexBytes : List Char → List UInt8
  | c :: d :: cs =>
    match (digitValue c).filter (· < 16), (digitValue d).filter (· < 16) with
    | some high, some low => UInt8.ofNat (high * 16 + low) :: hexBytes cs
    | _, _ => []
  | _ => []

/-- `buffer.toString('hex')`. -/
def hexText (bytes : List UInt8) : String :=
  String.ofList (bytes.flatMap fun b => [hexDigit (b.toNat / 16), hexDigit b.toNat])

/-- `hashPassword`, with the salt it draws. -/
def hashPassword [HashRuntime] (password : String) (salt : List UInt8) : Except ApiError String := do
  let hash ← HashRuntime.scryptSync password salt 64 "16384"
  return .join ["scrypt$16384$", hexText salt, "$", hexText hash]

def verifyPassword [HashRuntime] (password stored : String) : Except ApiError Bool :=
  match stored.toList.splitOn '$' with
  | [scheme, n, salt, hash] =>
    if String.ofList scheme ≠ "scrypt" then .ok false
    else do
      let expected := hexBytes hash
      let actual ← HashRuntime.scryptSync password (hexBytes salt) expected.length (String.ofList n)
      return actual = expected
  | _ => .ok false

end TrusteeBank
