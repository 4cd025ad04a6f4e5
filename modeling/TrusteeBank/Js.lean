import Mathlib.Algebra.Order.Ring.Int
import Mathlib.Data.List.Lex
import Mathlib.Tactic.Ring
import Mathlib.Tactic.Tauto
import TrusteeBank.Lib.Rounding

/-!
# JavaScript values and built-ins

The parts of the language the services lean on: the values a payload is made of, `BigInt` of a
string, the signed 64-bit range of a `BigInt` column, numbers that may be `NaN`, and dates as
time values in milliseconds. An exception of the language or of NestJS is an `ApiError`.
-/

set_option autoImplicit false

namespace TrusteeBank

/-- What a request can fail with. `thrown` is an error that is not an HTTP exception, by its
`name`; `prisma` is a database error by its code. -/
inductive ApiError
  | badRequest (message : String)
  | badRequestBody (message key : String) (items : List String)
  | unauthorized (message : String)
  | forbidden (message : String)
  | notFound (message : String)
  | conflict (message : String)
  | thrown (name message : String)
  | prisma (code : String)
deriving DecidableEq, Repr

instance exceptDecidableEq {ε α : Type} [DecidableEq ε] [DecidableEq α] :
    DecidableEq (Except ε α)
  | .ok a, .ok b => decidable_of_iff (a = b) ⟨congrArg _, Except.ok.inj⟩
  | .error d, .error e => decidable_of_iff (d = e) ⟨congrArg _, Except.error.inj⟩
  | .ok _, .error _ => isFalse nofun
  | .error _, .ok _ => isFalse nofun

/-- `x ?? throw e`. -/
def orThrow {α : Type} (x : Option α) (e : ApiError) : Except ApiError α :=
  match x with
  | some a => .ok a
  | none => .error e

/-- The values payloads are made of. A `number` is an integer; any other number is a `decimal`, the
text `JSON.stringify` writes of it. An object is its own properties in order. -/
inductive JsValue
  | undefined
  | null
  | bool (b : Bool)
  | number (n : Int)
  | decimal (text : String)
  | bigint (n : Int)
  | string (s : String)
  | array (items : List JsValue)
  | object (fields : List (String × JsValue))
deriving Inhabited

namespace JsValue

/-- `s ?? null`. -/
def ofOption : Option String → JsValue
  | some s => .string s
  | none => .null

/-- A string property that may be absent. -/
def orUndefined : Option String → JsValue
  | some s => .string s
  | none => .undefined

/-- An array of strings. -/
def strings (items : List String) : JsValue := .array (items.map .string)

end JsValue

/-! ## `BigInt` of a string -/

/-- White space and line terminators, which `BigInt` trims. -/
def isJsSpace (c : Char) : Bool :=
  let n := c.toNat
  (9 ≤ n && n ≤ 13) || n = 0x20 || n = 0xa0 || n = 0x1680 || (0x2000 ≤ n && n ≤ 0x200a) ||
    n = 0x2028 || n = 0x2029 || n = 0x202f || n = 0x205f || n = 0x3000 || n = 0xfeff

def jsTrim (cs : List Char) : List Char :=
  ((cs.dropWhile isJsSpace).reverse.dropWhile isJsSpace).reverse

/-- A text without white space is trimmed to itself. -/
theorem jsTrim_of_noSpace {cs : List Char} (hcs : ∀ c ∈ cs, isJsSpace c = false) :
    jsTrim cs = cs := by
  have hdrop (ds : List Char) (hds : ∀ c ∈ ds, isJsSpace c = false) :
      ds.dropWhile isJsSpace = ds := by
    cases ds with
    | nil => rfl
    | cons d ds =>
      apply List.dropWhile_cons_of_neg
      rw [hds d List.mem_cons_self]
      exact Bool.false_ne_true
  unfold jsTrim
  rw [hdrop cs hcs, hdrop cs.reverse (by simpa using hcs), List.reverse_reverse]

def digitValue (c : Char) : Option Nat :=
  let n := c.toNat
  if 48 ≤ n ∧ n ≤ 57 then some (n - 48)
  else if 97 ≤ n ∧ n ≤ 122 then some (n - 87)
  else if 65 ≤ n ∧ n ≤ 90 then some (n - 55)
  else none

/-- The value of a non-empty list of digits in a base. -/
def digitsValue (base : Nat) (cs : List Char) : Option Nat :=
  if cs = [] then none
  else cs.foldl (fun acc c =>
    match acc, digitValue c with
    | some a, some d => if d < base then some (a * base + d) else none
    | _, _ => none) (some 0)

/-- `StringToBigInt`: empty text is zero, a sign is allowed before decimal digits only. -/
def stringToBigInt (s : String) : Option Int :=
  match jsTrim s.toList with
  | [] => some 0
  | '0' :: 'x' :: ds | '0' :: 'X' :: ds => (digitsValue 16 ds).map Int.ofNat
  | '0' :: 'o' :: ds | '0' :: 'O' :: ds => (digitsValue 8 ds).map Int.ofNat
  | '0' :: 'b' :: ds | '0' :: 'B' :: ds => (digitsValue 2 ds).map Int.ofNat
  | '+' :: ds => (digitsValue 10 ds).map Int.ofNat
  | '-' :: ds => (digitsValue 10 ds).map fun n => -Int.ofNat n
  | ds => (digitsValue 10 ds).map Int.ofNat

/-- `BigInt(s)`. -/
def bigInt (s : String) : Except ApiError Int :=
  orThrow (stringToBigInt s) (.thrown "SyntaxError" ("Cannot convert " ++ s ++ " to a BigInt"))

/-- The range of a `BigInt` column. -/
def FitsInt8 (n : Int) : Prop := -2 ^ 63 ≤ n ∧ n < 2 ^ 63

instance (n : Int) : Decidable (FitsInt8 n) := inferInstanceAs (Decidable (_ ∧ _))

/-- The range of an `Int` column. -/
def FitsInt4 (n : Int) : Prop := -2 ^ 31 ≤ n ∧ n < 2 ^ 31

instance (n : Int) : Decidable (FitsInt4 n) := inferInstanceAs (Decidable (_ ∧ _))

/-! ## Numbers -/

/-- A number read from the environment: `none` is `NaN`. -/
abbrev JsNumber := Option Int

/-- `x > bound`, false when the bound is `NaN`. -/
def exceeds (x : Int) (bound : JsNumber) : Bool :=
  match bound with
  | some b => x > b
  | none => false

/-- `Number.MAX_SAFE_INTEGER`. -/
def maxSafeInteger : Int := 2 ^ 53 - 1

/-- `Number(n)` of a bigint: the nearest number. -/
def numberOfBigInt (n : Int) : Int := n.sign * Lib.nearest 53 n.natAbs

/-! ## Dates

A date is its time value in milliseconds. `Date.parse` is a parameter of the platform, see
`TrusteeBank.Runtime`.
-/

/-- The readings a call takes of the clock, in order. -/
abbrev Clock := Nat → Int

/-- The time values of a valid date. -/
def IsTimeValue (ms : Int) : Prop := -8640000000000000 ≤ ms ∧ ms ≤ 8640000000000000

instance (ms : Int) : Decidable (IsTimeValue ms) := inferInstanceAs (Decidable (_ ∧ _))

/-- `new Date(ms)`: `none` is an invalid date. -/
def newDate (ms : JsNumber) : Option Int := ms.filter fun t => IsTimeValue t

/-- Year, month and day of a day number, day 0 being 1970-01-01. -/
def civilOfDays (z : Int) : Int × Int × Int :=
  let z := z + 719468
  let era := z / 146097
  let doe := z % 146097
  let yoe := (doe - doe / 1460 + doe / 36524 - doe / 146096) / 365
  let doy := doe - (365 * yoe + yoe / 4 - yoe / 100)
  let mp := (5 * doy + 2) / 153
  let d := doy - (153 * mp + 2) / 5 + 1
  let m := if mp < 10 then mp + 3 else mp - 9
  (yoe + era * 400 + (if m ≤ 2 then 1 else 0), m, d)

/-- A natural number with leading zeros. -/
def padZeros (width n : Nat) : String :=
  let ds := toString n
  String.ofList (List.replicate (width - ds.length) '0') ++ ds

/-- `date.toISOString()` of a valid date. -/
def isoString (ms : Int) : String :=
  let (y, m, d) := civilOfDays (ms / 86400000)
  let t := ms % 86400000
  let year :=
    if 0 ≤ y ∧ y ≤ 9999 then padZeros 4 y.toNat
    else (if y < 0 then "-" else "+") ++ padZeros 6 y.natAbs
  year ++ "-" ++ padZeros 2 m.toNat ++ "-" ++ padZeros 2 d.toNat ++ "T" ++
    padZeros 2 (t / 3600000).toNat ++ ":" ++ padZeros 2 (t / 60000 % 60).toNat ++ ":" ++
    padZeros 2 (t / 1000 % 60).toNat ++ "." ++ padZeros 3 (t % 1000).toNat ++ "Z"

/-- `date.toISOString()`. -/
def toISOString (date : Option Int) : Except ApiError String := do
  let ms ← orThrow date (.thrown "RangeError" "Invalid time value")
  return isoString ms

/-- `ClockService.ageSeconds`. -/
def ageSeconds (now since : Int) : Int := max 0 ((now - since) / 1000)

theorem orThrow_eq_ok {α : Type} {x : Option α} {e : ApiError} {a : α} :
    orThrow x e = .ok a ↔ x = some a := by
  cases x <;> simp [orThrow]

/-- A sequence of fallible steps succeeds when each of them does. -/
theorem bind_eq_ok {α β : Type} {x : Except ApiError α} {f : α → Except ApiError β} {b : β} :
    (x >>= f) = .ok b ↔ ∃ a, x = .ok a ∧ f a = .ok b := by
  cases x <;> simp [bind, Except.bind]

theorem map_eq_ok {α β : Type} {x : Except ApiError α} {f : α → β} {b : β} :
    x.map f = .ok b ↔ ∃ a, x = .ok a ∧ f a = b := by
  cases x <;> simp [Except.map]

theorem toOption_eq_some {α : Type} {x : Except ApiError α} {a : α} :
    x.toOption = some a ↔ x = .ok a := by
  cases x <;> simp [Except.toOption]

theorem toOption_map_eq_some {α β : Type} {x : Except ApiError α} {f : α → β} {b : β} :
    x.toOption.map f = some b ↔ ∃ a, x = .ok a ∧ f a = b := by
  cases x <;> simp [Except.toOption]

theorem error_ne_ok {α : Type} {e : ApiError} {a : α} : Except.error e ≠ Except.ok a := by
  intro h
  cases h

/-- The number of an integer below `2 ^ 53` is the integer. -/
theorem numberOfBigInt_of_lt {n : Int} (hn : 0 ≤ n) (h : n < 2 ^ 53) : numberOfBigInt n = n := by
  unfold numberOfBigInt
  rw [Lib.nearest_of_lt (by decide) (by omega), Int.sign_mul_natAbs]

theorem numberOfBigInt_of_nonneg {n : Int} (hn : 0 ≤ n) :
    numberOfBigInt n = Lib.nearest 53 n.natAbs := by
  unfold numberOfBigInt
  rcases Int.lt_or_eq_of_le hn with hpos | rfl
  · rw [Int.sign_eq_one_of_pos hpos, Int.one_mul]
  · decide

theorem numberOfBigInt_mono {m n : Int} (hm : 0 ≤ m) (hmn : m ≤ n) :
    numberOfBigInt m ≤ numberOfBigInt n := by
  rw [numberOfBigInt_of_nonneg hm, numberOfBigInt_of_nonneg (by omega)]
  exact Int.ofNat_le.mpr (Lib.nearest_mono (by decide) (by omega))

end TrusteeBank
