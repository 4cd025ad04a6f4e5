import TrusteeBank.Canonical
import TrusteeBank.Decimals
import TrusteeBank.Lib.JsonParse

/-!
# JSON values of JavaScript

The strings of a program are lists of UTF-16 code units, and a string need not be well-formed. The
values here have such strings; the rest of the development has texts of characters, which are the
well-formed strings.

A number is a safe integer, negative zero, or any other number, of which only the text that
`JSON.stringify` writes is kept; what number a literal denotes that is not the text of a safe
integer comes from outside. The properties of an object are in the order in which they are
enumerated: integer keys first, in the order of the integers, and then the others in the order in
which they were created.

* `isNumber_toString`: the text of an integer is a number literal;
* `JsonNumber.literal_toString`: that of a safe integer is read as the integer;
* `jsonParse_jsonText`: `JSON.parse` reads the text of a value whose numbers are safe integers.
-/

set_option autoImplicit false

namespace TrusteeBank

open Lib (CodeUnit Utf16 Json)
open Lib.Utf16

/-! ## Texts of characters -/

theorem units_of_lt {cs : List Char} (h : ∀ c ∈ cs, c.toNat < 0x10000) :
    units cs = cs.map unit := by
  induction cs with
  | nil => rfl
  | cons c cs ih =>
    obtain ⟨hc, hcs⟩ := List.forall_mem_cons.mp h
    rw [units_cons, ih hcs, charUnits]
    simp only [hc, if_true]
    rfl

theorem val_unit {c : Char} (h : c.toNat < 0x10000) : (unit c).val = c.toNat := Nat.mod_eq_of_lt h

theorem ofString_ofList (cs : List Char) : ofString (String.ofList cs) = units cs := by
  rw [ofString, String.toList_ofList]

theorem chars_ofString (s : String) : String.ofList (chars (ofString s)) = s := by
  rw [ofString, chars_units, String.ofList_toList]

theorem ofString_injective {s t : String} (h : ofString s = ofString t) : s = t := by
  rw [← chars_ofString s, h, chars_ofString]

/-! ## Number literals -/

theorem toNat_of_isDigit {c : Char} (hc : c.isDigit) : 48 ≤ c.toNat ∧ c.toNat ≤ 57 :=
  Char.isDigit_iff_toNat.mp hc

theorem isDigit_unit {c : Char} (hc : c.isDigit) : Json.isDigit (unit c) = true := by
  have hrange := toNat_of_isDigit hc
  have hval : (unit c).val = c.toNat := val_unit (by omega)
  simp only [Json.isDigit, hval, Bool.and_eq_true, decide_eq_true_eq]
  exact hrange

theorem units_of_allDigits {cs : List Char} (h : AllDigits cs) : units cs = cs.map unit := by
  refine units_of_lt fun c hc => ?_
  have hrange := toNat_of_isDigit (h c hc)
  omega

theorem all_isDigit_units {cs : List Char} (h : AllDigits cs) :
    ∀ u ∈ cs.map unit, Json.isDigit u = true :=
  List.forall_mem_map.mpr fun c hc => isDigit_unit (h c hc)

/-- The digits of a number are a literal. -/
theorem isUnsigned_toDigits (k : Nat) :
    Json.isUnsigned ((Nat.toDigits 10 k).map unit) = true := by
  have hdigits := all_isDigit_units (allDigits_toDigits k)
  have hne : Nat.toDigits 10 k ≠ [] := Nat.toDigits_ne_nil
  unfold Json.isUnsigned
  rw [List.takeWhile_eq_self_iff.mpr hdigits, List.dropWhile_eq_nil_iff.mpr hdigits]
  simp only [Json.isFraction, Bool.and_true, Bool.or_eq_true, Bool.and_eq_true, decide_eq_true_eq,
    List.length_map, ne_eq, List.map_eq_nil_iff, hne, not_false_iff, true_and, List.head?_map]
  refine (toDigits_head k).imp_right fun hhead => ?_
  cases hfirst : (Nat.toDigits 10 k).head? with
  | none => simp
  | some c =>
    have hc := toNat_of_isDigit (allDigits_toDigits k c (List.mem_of_mem_head? hfirst))
    intro h
    have hunit : unit c = unit '0' := Option.some.inj h
    have hval := congrArg Fin.val hunit
    rw [val_unit (by omega), val_unit (by decide)] at hval
    exact hhead (hfirst.trans (congrArg some (Char.toNat_inj.mp hval)))

/-- **The text of an integer is a number literal.** -/
theorem isNumber_toString (n : Int) : Json.isNumber (ofString (toString n)) = true := by
  cases n with
  | ofNat k =>
    have hunsigned := isUnsigned_toDigits k
    have hdigits := all_isDigit_units (allDigits_toDigits k)
    rw [toString_ofNat, ofString_ofList, units_of_allDigits (allDigits_toDigits k)]
    cases hunits : (Nat.toDigits 10 k).map unit with
    | nil =>
      rw [hunits] at hunsigned
      cases hunsigned
    | cons u us =>
      rw [hunits] at hunsigned hdigits
      have hu : u ≠ unit '-' := by
        rintro rfl
        exact absurd (hdigits _ List.mem_cons_self) (by decide)
      rw [Json.isNumber, if_neg hu]
      exact hunsigned
  | negSucc k =>
    have hunits : units ('-' :: Nat.toDigits 10 (k + 1)) =
        unit '-' :: (Nat.toDigits 10 (k + 1)).map unit := by
      rw [units_cons, units_of_allDigits (allDigits_toDigits (k + 1))]
      rfl
    rw [toString_negSucc, ofString_ofList, hunits, Json.isNumber, if_pos rfl]
    exact isUnsigned_toDigits (k + 1)

/-! ## Numbers -/

/-- `Number.isSafeInteger`. -/
def IsSafeInteger (n : Int) : Prop := -maxSafeInteger ≤ n ∧ n ≤ maxSafeInteger

instance (n : Int) : Decidable (IsSafeInteger n) := inferInstanceAs (Decidable (_ ∧ _))

/-- A number. One that is no safe integer is the text `JSON.stringify` writes of it. -/
inductive JsonNumber
  | integer (n : Int) (safe : IsSafeInteger n)
  | negativeZero
  | other (text : Utf16)
deriving DecidableEq

/-- What reading a number takes from the platform. -/
class NumberRuntime where
  /-- The number of a literal that is not the text of a safe integer. -/
  literal : Utf16 → JsonNumber

namespace JsonNumber

/-- What `JSON.stringify` writes. -/
def text : JsonNumber → Utf16
  | .integer n _ => ofString (toString n)
  | .negativeZero => ofString "0"
  | .other text => text

/-- What `JSON.parse` makes of a number literal. -/
def literal [NumberRuntime] (s : Utf16) : JsonNumber :=
  if s = ofString "-0" then .negativeZero
  else match stringToBigInt (String.ofList (chars s)) with
    | some n =>
      if h : IsSafeInteger n ∧ ofString (toString n) = s then .integer n h.1
      else NumberRuntime.literal s
    | none => NumberRuntime.literal s

/-- `Number.isSafeInteger`. -/
def IsSafe : JsonNumber → Prop
  | .integer _ _ => True
  | .negativeZero => True
  | .other _ => False

instance (n : JsonNumber) : Decidable n.IsSafe :=
  match n with
  | .integer _ _ => isTrue trivial
  | .negativeZero => isTrue trivial
  | .other _ => isFalse id

theorem stringToBigInt_toString (n : Int) : stringToBigInt (toString n) = some n :=
  orThrow_eq_ok.mp (bigInt_toString n)

/-- The text of a safe integer is read as the integer. -/
theorem literal_toString [NumberRuntime] (n : Int) (safe : IsSafeInteger n) :
    literal (ofString (toString n)) = .integer n safe := by
  have hzero : ofString (toString n) ≠ ofString "-0" := by
    intro h
    have htext := ofString_injective h
    have hn := stringToBigInt_toString n
    rw [htext] at hn
    obtain rfl : (0 : Int) = n := Option.some.inj hn
    revert htext
    decide
  rw [literal, if_neg hzero, chars_ofString, stringToBigInt_toString]
  exact dif_pos ⟨safe, rfl⟩

theorem isNumber_text {n : JsonNumber} (hn : n.IsSafe) : Json.isNumber n.text = true := by
  cases n with
  | integer n safe => exact isNumber_toString n
  | negativeZero => exact isNumber_toString 0
  | other text => cases hn

/-- A safe integer is read back, but for the sign of zero. -/
theorem text_literal_text [NumberRuntime] {n : JsonNumber} (hn : n.IsSafe) :
    (literal n.text).text = n.text := by
  cases n with
  | integer n safe => rw [text, literal_toString n safe, text]
  | negativeZero =>
    have hzero := literal_toString 0 (by decide)
    show (literal (ofString (toString (0 : Int)))).text = _
    rw [hzero]
    rfl
  | other text => cases hn

end JsonNumber

/-- An integer, as a number. -/
def JsonNumber.ofInt (n : Int) : JsonNumber :=
  if safe : IsSafeInteger n then .integer n safe else .other (ofString (toString n))

theorem JsonNumber.text_ofInt (n : Int) : (ofInt n).text = ofString (toString n) := by
  unfold ofInt
  split_ifs <;> rfl

/-! ## The order of the properties -/

/-- The integer of an integer key. -/
def index? (key : Utf16) : Option Nat := arrayIndex? (String.ofList (chars key))

section

variable {α β : Type}

def IsIndex (field : Utf16 × α) : Bool := (index? field.1).isSome

/-- The order of integer keys. -/
def indexLe (f g : Utf16 × α) : Bool := (index? f.1).getD 0 ≤ (index? g.1).getD 0

/-- The properties of an object, created one after the other, as they are enumerated. -/
def ownOrder (created : List (Utf16 × α)) : List (Utf16 × α) :=
  (created.filter IsIndex).mergeSort indexLe ++ created.filter fun f => !IsIndex f

theorem ownOrder_perm (created : List (Utf16 × α)) : (ownOrder created).Perm created :=
  ((List.mergeSort_perm _ _).append_right _).trans (List.filter_append_perm IsIndex created)

/-- The order is that of the keys. -/
theorem ownOrder_map (f : α → β) (created : List (Utf16 × α)) :
    ownOrder (created.map (Json.onValues f)) = (ownOrder created).map (Json.onValues f) := by
  have hindex : IsIndex ∘ Json.onValues f = IsIndex := rfl
  have hname : (fun g => !IsIndex g) ∘ Json.onValues f = fun g => !IsIndex g := rfl
  have hsort : ((created.filter IsIndex).mergeSort indexLe).map (Json.onValues f) =
      ((created.filter IsIndex).map (Json.onValues f)).mergeSort indexLe :=
    List.map_mergeSort fun _ _ _ _ => rfl
  unfold ownOrder
  rw [List.filter_map, List.filter_map, hindex, hname, List.map_append, hsort]

/-- Without integer keys the order is that of creation. -/
theorem ownOrder_of_names {created : List (Utf16 × α)} (h : ∀ f ∈ created, index? f.1 = none) :
    ownOrder created = created := by
  have hname : ∀ f ∈ created, IsIndex f = false := fun f hf => by rw [IsIndex, h f hf]; rfl
  unfold ownOrder
  rw [List.filter_eq_nil_iff.mpr fun f hf => by simp [hname f hf],
    List.filter_eq_self.mpr fun f hf => by simp [hname f hf], List.mergeSort_nil, List.nil_append]

end

/-- The objects of a value, created field by field. -/
def orderer : Json.Algebra JsonNumber (Json JsonNumber) where
  null := .null
  bool := .bool
  number := .number
  string := .string
  array := .array
  object fields := .object (ownOrder fields)

def inOwnOrder : Json JsonNumber → Json JsonNumber := Json.fold orderer

theorem inOwnOrder_array (items : List (Json JsonNumber)) :
    inOwnOrder (.array items) = .array (items.map inOwnOrder) := Json.fold_array _ items

theorem inOwnOrder_object (fields : List (Utf16 × Json JsonNumber)) :
    inOwnOrder (.object fields) = .object (ownOrder (fields.map (Json.onValues inOwnOrder))) :=
  Json.fold_object _ fields

/-! ## The text of a value -/

/-- `JSON.stringify(v)`. -/
def jsonText (v : Json JsonNumber) : Utf16 := v.write JsonNumber.text

/-- `JSON.parse(s)`, `none` when it throws. -/
def jsonParse [NumberRuntime] (s : Utf16) : Option (Json JsonNumber) :=
  (Json.parse JsonNumber.literal s).map inOwnOrder

/-- Every number is a safe integer, and every object has distinct keys. -/
def SafeData (v : Json JsonNumber) : Prop := v.Forall JsonNumber.IsSafe List.Nodup

/-- **The text of a value is read as the value**, its properties in their order. -/
theorem jsonParse_jsonText [NumberRuntime] {v : Json JsonNumber} (hv : SafeData v) :
    jsonParse (jsonText v) =
      some (inOwnOrder (v.map fun n => JsonNumber.literal n.text)) := by
  unfold jsonParse jsonText
  rw [Json.parse_write JsonNumber.literal (hv.mono (fun _ => JsonNumber.isNumber_text) fun _ => id)]
  rfl

end TrusteeBank
