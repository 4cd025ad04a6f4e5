import Mathlib.Data.List.Basic
import Mathlib.Tactic.SplitIfs
import TrusteeBank.Lib.Utf16

/-!
# JSON values and their text

A JSON value has numbers of any type `ν`, and objects that are lists of fields. Every function on
values is a `fold`: it combines what it computes of the items of an array, or of the fields of an
object. `write` is the text of a value, without white space, when the text of a number is known.
A string is written with the escapes of JSON, and a lone surrogate as an escape too, so that the
text is well-formed.

* `Json.induction`: induction on the items and the fields;
* `wellFormed_write`: the text of a value has no lone surrogate.
-/

set_option autoImplicit false

namespace Lib

inductive Json (ν : Type)
  | null
  | bool (b : Bool)
  | number (n : ν)
  | string (s : Utf16)
  | array (items : List (Json ν))
  | object (fields : List (Utf16 × Json ν))

namespace Json

variable {ν ξ β γ : Type}

/-- Induction on the items and the fields. -/
@[elab_as_elim]
theorem induction {P : Json ν → Prop} (null : P .null) (bool : ∀ b, P (.bool b))
    (number : ∀ n, P (.number n)) (string : ∀ s, P (.string s))
    (array : ∀ items, (∀ v ∈ items, P v) → P (.array items))
    (object : ∀ fields : List (Utf16 × Json ν), (∀ f ∈ fields, P f.2) → P (.object fields))
    (v : Json ν) : P v :=
  Json.rec null bool number string (fun items h => array items h)
    (fun fields h => object fields h) (motive_2 := fun items => ∀ v ∈ items, P v)
    (motive_3 := fun fields => ∀ f ∈ fields, P f.2) (motive_4 := fun f => P f.2)
    (fun _ h => absurd h List.not_mem_nil)
    (fun _ _ hhead htail => List.forall_mem_cons.mpr ⟨hhead, htail⟩)
    (fun _ h => absurd h List.not_mem_nil)
    (fun _ _ hhead htail => List.forall_mem_cons.mpr ⟨hhead, htail⟩) (fun _ _ h => h) v

/-- Every number satisfies `P`, and the keys of every object satisfy `Q`. -/
inductive Forall (P : ν → Prop) (Q : List Utf16 → Prop) : Json ν → Prop
  | null : Forall P Q .null
  | bool (b : Bool) : Forall P Q (.bool b)
  | number {n : ν} (h : P n) : Forall P Q (.number n)
  | string (s : Utf16) : Forall P Q (.string s)
  | array {items : List (Json ν)} (h : ∀ v ∈ items, Forall P Q v) : Forall P Q (.array items)
  | object {fields : List (Utf16 × Json ν)} (hkeys : Q (fields.map Prod.fst))
      (h : ∀ f ∈ fields, Forall P Q f.2) : Forall P Q (.object fields)

theorem forall_array {P : ν → Prop} {Q : List Utf16 → Prop} {items : List (Json ν)} :
    (Json.array items).Forall P Q ↔ ∀ v ∈ items, v.Forall P Q := by
  refine ⟨fun h => ?_, .array⟩
  cases h with
  | array h => exact h

theorem forall_object {P : ν → Prop} {Q : List Utf16 → Prop} {fields : List (Utf16 × Json ν)} :
    (Json.object fields).Forall P Q ↔
      Q (fields.map Prod.fst) ∧ ∀ f ∈ fields, f.2.Forall P Q := by
  refine ⟨fun h => ?_, fun h => .object h.1 h.2⟩
  cases h with
  | object hkeys h => exact ⟨hkeys, h⟩

theorem Forall.mono {P P' : ν → Prop} {Q Q' : List Utf16 → Prop} (hP : ∀ n, P n → P' n)
    (hQ : ∀ keys, Q keys → Q' keys) {v : Json ν} (h : v.Forall P Q) : v.Forall P' Q' := by
  induction h with
  | null => exact .null
  | bool b => exact .bool b
  | number h => exact .number (hP _ h)
  | string s => exact .string s
  | array _ ih => exact .array ih
  | object hkeys _ ih => exact .object (hQ _ hkeys) ih

theorem Forall.and {P P' : ν → Prop} {Q Q' : List Utf16 → Prop} {v : Json ν} (h : v.Forall P Q)
    (h' : v.Forall P' Q') : v.Forall (fun n => P n ∧ P' n) fun keys => Q keys ∧ Q' keys := by
  induction h with
  | null => exact .null
  | bool b => exact .bool b
  | number h =>
    cases h' with
    | number h' => exact .number ⟨h, h'⟩
  | string s => exact .string s
  | array _ ih => exact .array fun v hv => ih v hv (forall_array.mp h' v hv)
  | object hkeys _ ih =>
    obtain ⟨hkeys', h'⟩ := forall_object.mp h'
    exact .object ⟨hkeys, hkeys'⟩ fun f hf => ih f hf (h' f hf)

/-- What a fold computes in each case. -/
structure Algebra (ν β : Type) where
  null : β
  bool : Bool → β
  number : ν → β
  string : Utf16 → β
  array : List β → β
  object : List (Utf16 × β) → β

mutual

def fold (A : Algebra ν β) : Json ν → β
  | .null => A.null
  | .bool b => A.bool b
  | .number n => A.number n
  | .string s => A.string s
  | .array items => A.array (foldItems A items)
  | .object fields => A.object (foldFields A fields)

def foldItems (A : Algebra ν β) : List (Json ν) → List β
  | [] => []
  | v :: vs => fold A v :: foldItems A vs

def foldFields (A : Algebra ν β) : List (Utf16 × Json ν) → List (Utf16 × β)
  | [] => []
  | (key, v) :: fields => (key, fold A v) :: foldFields A fields

end

/-- A function on the values of the fields. -/
def onValues (f : β → γ) (field : Utf16 × β) : Utf16 × γ := (field.1, f field.2)

theorem foldItems_eq (A : Algebra ν β) (items : List (Json ν)) :
    foldItems A items = items.map (fold A) := by
  induction items with
  | nil => rfl
  | cons v items ih => rw [foldItems, ih, List.map_cons]

theorem foldFields_eq (A : Algebra ν β) (fields : List (Utf16 × Json ν)) :
    foldFields A fields = fields.map (onValues (fold A)) := by
  induction fields with
  | nil => rfl
  | cons field fields ih =>
    rw [foldFields, ih, List.map_cons]
    rfl

theorem fold_array (A : Algebra ν β) (items : List (Json ν)) :
    fold A (.array items) = A.array (items.map (fold A)) := by
  rw [fold, foldItems_eq]

theorem fold_object (A : Algebra ν β) (fields : List (Utf16 × Json ν)) :
    fold A (.object fields) = A.object (fields.map (onValues (fold A))) := by
  rw [fold, foldFields_eq]

theorem onValues_comp (f : β → γ) (g : ξ → β) : onValues f ∘ onValues g = onValues (f ∘ g) := rfl

theorem keys_map_onValues (f : β → γ) (fields : List (Utf16 × β)) :
    (fields.map (onValues f)).map Prod.fst = fields.map Prod.fst := by
  rw [List.map_map]
  rfl

/-! ### Replacing the numbers -/

def replacer (f : ν → ξ) : Algebra ν (Json ξ) where
  null := .null
  bool := .bool
  number n := .number (f n)
  string := .string
  array := .array
  object := .object

/-- The value with other numbers. -/
def map (f : ν → ξ) : Json ν → Json ξ := fold (replacer f)

theorem map_array (f : ν → ξ) (items : List (Json ν)) :
    map f (.array items) = .array (items.map (map f)) := fold_array _ items

theorem map_object (f : ν → ξ) (fields : List (Utf16 × Json ν)) :
    map f (.object fields) = .object (fields.map (onValues (map f))) := fold_object _ fields

theorem Forall.map {P : ν → Prop} {P' : ξ → Prop} {Q : List Utf16 → Prop} {f : ν → ξ}
    (hf : ∀ n, P n → P' (f n)) {v : Json ν} (h : v.Forall P Q) : (v.map f).Forall P' Q := by
  induction h with
  | null => exact .null
  | bool b => exact .bool b
  | number h => exact .number (hf _ h)
  | string s => exact .string s
  | array _ ih =>
    rw [map_array]
    exact .array (List.forall_mem_map.mpr ih)
  | object hkeys _ ih =>
    rw [map_object]
    refine .object ?_ (List.forall_mem_map.mpr ih)
    rwa [keys_map_onValues]

/-- Numbers that are replaced by themselves. -/
theorem Forall.map_eq_self {f : ν → ν} {Q : List Utf16 → Prop} {v : Json ν}
    (h : v.Forall (fun n => f n = n) Q) : v.map f = v := by
  induction h with
  | null => rfl
  | bool => rfl
  | number h => exact congrArg Json.number h
  | string => rfl
  | @array items _ ih =>
    rw [map_array, List.map_congr_left ih, List.map_id']
  | @object fields _ _ ih =>
    have hfields : fields.map (onValues (Json.map f)) = fields.map id := by
      apply List.map_congr_left
      intro field hfield
      rw [onValues, ih field hfield]
      rfl
    rw [map_object, hfields, List.map_id]

/-! ### Strings -/

open Utf16

/-- The letter of a short escape. -/
def shortEscape (u : CodeUnit) : Option CodeUnit :=
  if u.val = 0x08 then some (unit 'b')
  else if u.val = 0x09 then some (unit 't')
  else if u.val = 0x0a then some (unit 'n')
  else if u.val = 0x0c then some (unit 'f')
  else if u.val = 0x0d then some (unit 'r')
  else if u.val = 0x22 ∨ u.val = 0x5c then some u
  else none

/-- One lower-case hexadecimal digit. -/
def hexUnit (n : Nat) : CodeUnit := unit (Nat.digitChar (n % 16))

/-- The escape with four hexadecimal digits. -/
def longEscape (u : CodeUnit) : Utf16 :=
  [unit '\\', unit 'u', hexUnit (u.val / 0x1000), hexUnit (u.val / 0x100), hexUnit (u.val / 0x10),
    hexUnit u.val]

/-- A unit of a string that is not in a pair. -/
def quoteUnit (u : CodeUnit) : Utf16 :=
  match shortEscape u with
  | some letter => [unit '\\', letter]
  | none => if u.val < 0x20 ∨ u.IsHigh ∨ u.IsLow then longEscape u else [u]

/-- The units of a string, between the quotes. -/
def escaped : Utf16 → Utf16
  | [] => []
  | [u] => quoteUnit u
  | u :: v :: us =>
    if u.IsHigh ∧ v.IsLow then u :: v :: escaped us else quoteUnit u ++ escaped (v :: us)

def quote (s : Utf16) : Utf16 := unit '"' :: (escaped s ++ [unit '"'])

/-! ### The text -/

/-- Texts with commas between them. -/
def commas (texts : List Utf16) : Utf16 := [unit ','].intercalate texts

theorem commas_singleton (t : Utf16) : commas [t] = t := List.intercalate_singleton

theorem commas_cons_cons (t t' : Utf16) (texts : List Utf16) :
    commas (t :: t' :: texts) = t ++ [unit ','] ++ commas (t' :: texts) :=
  List.intercalate_cons_cons

/-- A field, by the text of its value. -/
def writeField (field : Utf16 × Utf16) : Utf16 := quote field.1 ++ unit ':' :: field.2

/-- The text of a value, by those of its parts. -/
def writer (text : ν → Utf16) : Algebra ν Utf16 where
  null := ofString "null"
  bool b := ofString (if b then "true" else "false")
  number := text
  string := quote
  array texts := unit '[' :: (commas texts ++ [unit ']'])
  object fields := unit '\x7b' :: (commas (fields.map writeField) ++ [unit '\x7d'])

/-- The text of a value. -/
def write (text : ν → Utf16) : Json ν → Utf16 := fold (writer text)

theorem write_array (text : ν → Utf16) (items : List (Json ν)) :
    write text (.array items) = unit '[' :: (commas (items.map (write text)) ++ [unit ']']) :=
  fold_array _ items

theorem write_object (text : ν → Utf16) (fields : List (Utf16 × Json ν)) :
    write text (.object fields) = unit '\x7b' ::
      (commas (fields.map fun f => writeField (f.1, write text f.2)) ++ [unit '\x7d']) := by
  unfold write
  rw [fold_object]
  show unit '\x7b' ::
    (commas ((fields.map (onValues (fold (writer text)))).map writeField) ++ _) = _
  rw [List.map_map]
  rfl

/-! ### No lone surrogate -/

theorem hexUnit_lt (n : Nat) : (hexUnit n).val < 0x80 := by
  have h : ∀ m : Fin 16, (unit (Nat.digitChar m)).val < 0x80 := by decide
  exact h ⟨n % 16, Nat.mod_lt n (by decide)⟩

theorem quoteUnit_ascii_or (u : CodeUnit) :
    (∀ v ∈ quoteUnit u, v.val < 0x80) ∨ quoteUnit u = [u] ∧ ¬u.IsHigh ∧ ¬u.IsLow := by
  unfold quoteUnit
  cases hshort : shortEscape u with
  | some letter =>
    left
    have hletter : letter.val < 0x80 := by
      unfold shortEscape at hshort
      split_ifs at hshort with h1 h2 h3 h4 h5 h6
      all_goals obtain rfl := Option.some.inj hshort
      all_goals first | decide | omega
    simp only [List.mem_cons, List.not_mem_nil, or_false, forall_eq_or_imp, forall_eq]
    exact ⟨by decide, hletter⟩
  | none =>
    by_cases hescape : u.val < 0x20 ∨ u.IsHigh ∨ u.IsLow
    · left
      simp only [hescape, if_true, longEscape, List.mem_cons, List.not_mem_nil, or_false,
        forall_eq_or_imp, forall_eq]
      exact ⟨by decide, by decide, hexUnit_lt _, hexUnit_lt _, hexUnit_lt _, hexUnit_lt _⟩
    · right
      simp only [hescape, if_false, true_and]
      exact not_or.mp (not_or.mp hescape).2

theorem wellFormed_quoteUnit (u : CodeUnit) : WellFormed (quoteUnit u) := by
  rcases quoteUnit_ascii_or u with hascii | ⟨hself, hhigh, hlow⟩
  · exact wellFormed_of_ascii hascii
  · rw [hself]
    exact wellFormed_single hhigh hlow

theorem wellFormed_unit {c : Char} (hc : (unit c).val < 0x80) : WellFormed [unit c] :=
  wellFormed_of_ascii fun u hu => by rwa [List.mem_singleton.mp hu]

theorem wellFormed_escaped (s : Utf16) : WellFormed (escaped s) := by
  induction s using escaped.induct with
  | case1 => exact wellFormed_nil
  | case2 u => exact wellFormed_quoteUnit u
  | case3 u v us hpair ih =>
    rw [escaped, if_pos hpair]
    exact (wellFormed_ofPair hpair.1 hpair.2).append ih
  | case4 u v us hpair ih =>
    rw [escaped, if_neg hpair]
    exact (wellFormed_quoteUnit u).append ih

theorem wellFormed_quote (s : Utf16) : WellFormed (quote s) := by
  have hmark : WellFormed [unit '"'] := wellFormed_unit (by decide)
  exact hmark.append ((wellFormed_escaped s).append hmark)

theorem wellFormed_commas {texts : List Utf16} (h : ∀ t ∈ texts, WellFormed t) :
    WellFormed (commas texts) := by
  induction texts with
  | nil => exact wellFormed_nil
  | cons t texts ih =>
    obtain ⟨ht, htexts⟩ := List.forall_mem_cons.mp h
    cases texts with
    | nil =>
      rw [commas_singleton]
      exact ht
    | cons t' texts =>
      rw [commas_cons_cons, List.append_assoc]
      exact ht.append ((wellFormed_unit (by decide)).append (ih htexts))

theorem WellFormed.enclosed {s : Utf16} (hs : WellFormed s) {first last : Char}
    (hfirst : (unit first).val < 0x80) (hlast : (unit last).val < 0x80) :
    WellFormed (unit first :: (s ++ [unit last])) :=
  (wellFormed_unit hfirst).append (hs.append (wellFormed_unit hlast))

/-- **The text of a value has no lone surrogate.** -/
theorem wellFormed_write {text : ν → Utf16} {Q : List Utf16 → Prop} {v : Json ν}
    (hv : v.Forall (fun n => WellFormed (text n)) Q) : WellFormed (write text v) := by
  induction hv with
  | null => exact ⟨_, rfl⟩
  | bool => exact ⟨_, rfl⟩
  | number h => exact h
  | string s => exact wellFormed_quote s
  | array _ ih =>
    rw [write_array]
    exact WellFormed.enclosed (wellFormed_commas (List.forall_mem_map.mpr ih)) (by decide)
      (by decide)
  | object _ _ ih =>
    rw [write_object]
    refine WellFormed.enclosed (wellFormed_commas (List.forall_mem_map.mpr fun f hf => ?_))
      (by decide) (by decide)
    exact (wellFormed_quote f.1).append ((wellFormed_unit (by decide)).append (ih f hf))

end Json

end Lib
