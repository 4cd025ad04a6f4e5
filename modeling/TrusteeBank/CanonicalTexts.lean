import TrusteeBank.CanonicalForm

/-!
# The canonical text of payloads

The payloads of the services are made of texts of characters (`JsValue`), and so is their canonical
text. It is that of the values whose strings are the code units of the texts: the escapes are the
same, and the keys of an object are sorted into the same order.

* `canonicalKeyLe_iff`: the order of the keys;
* `ofString_quoteJson`: the text of a string;
* `canonicalize_ofJsValue`: the canonical text of a payload.
-/

set_option autoImplicit false

namespace TrusteeBank

open Lib (CodeUnit Utf16 Json)
open Lib.Utf16

namespace Canonical

/-! ## The value of a payload -/

mutual

/-- A payload, as a value; `none` is `undefined`. -/
def ofJsValue : JsValue → Option Value
  | .undefined => none
  | .null => some .null
  | .bool b => some (.bool b)
  | .number n => some (.number (.number (JsonNumber.ofInt n)))
  | .decimal text => some (.number (.number (.other (ofString text))))
  | .bigint n => some (.number (.bigint n))
  | .string s => some (.string (ofString s))
  | .array items => some (.array (ofItems items))
  | .object fields => some (.object (ofFields fields))

def ofItems : List JsValue → List Value
  | [] => []
  | v :: vs => (ofJsValue v).getD .null :: ofItems vs

def ofFields : List (String × JsValue) → List (Utf16 × Value)
  | [] => []
  | (key, v) :: fields =>
    match ofJsValue v with
    | some w => (ofString key, w) :: ofFields fields
    | none => ofFields fields

end

theorem ofString_append (s t : String) : ofString (s ++ t) = ofString s ++ ofString t := by
  rw [ofString, String.toList_append, units_append]
  rfl

/-- Texts with commas between them. -/
theorem ofString_intercalate (texts : List String) :
    ofString (",".intercalate texts) = Json.commas (texts.map ofString) := by
  induction texts with
  | nil => rfl
  | cons t texts ih =>
    cases texts with
    | nil =>
      rw [String.intercalate_singleton, List.map_singleton, Json.commas_singleton]
    | cons t' texts =>
      rw [String.intercalate_cons_cons, ofString_append, ofString_append, ih, List.map_cons,
        List.map_cons, List.map_cons, Json.commas_cons_cons]
      rfl

/-! ### The order of the keys -/

theorem val_charUnits (c : Char) : (charUnits c).map Fin.val = codeUnits c := by
  by_cases hlt : c.toNat < 0x10000
  · obtain ⟨u, hunits, hu⟩ := charUnits_of_lt hlt
    rw [hunits, List.map_singleton, hu]
    simp only [codeUnits, hlt, if_true]
  · obtain ⟨high, low, hunits, hhigh, hlow⟩ := charUnits_of_ge hlt
    rw [hunits, List.map_cons, List.map_singleton, hhigh, hlow]
    simp only [codeUnits, hlt, if_false]

theorem val_ofString (s : String) : (ofString s).map Fin.val = s.toList.flatMap codeUnits := by
  unfold ofString units
  rw [List.map_flatMap]
  simp only [val_charUnits]

theorem map_val_lt_iff {s t : Utf16} : s.map Fin.val < t.map Fin.val ↔ s < t := by
  induction s generalizing t with
  | nil =>
    cases t with
    | nil => simp
    | cons v t => simp
  | cons u s ih =>
    cases t with
    | nil => simp
    | cons v t =>
      rw [List.map_cons, List.map_cons, List.cons_lt_cons_iff, List.cons_lt_cons_iff, ih,
        Fin.val_inj, Fin.lt_def]

theorem codeUnitsLe_iff (s t : String) : codeUnitsLe s t = true ↔ ofString s ≤ ofString t := by
  unfold codeUnitsLe
  rw [decide_eq_true_iff, ← val_ofString, ← val_ofString, ← not_lt, ← not_lt, map_val_lt_iff]

theorem index?_ofString (s : String) : index? (ofString s) = arrayIndex? s := by
  unfold index?
  rw [chars_ofString]

theorem canonicalKeyLe_iff (s t : String) :
    canonicalKeyLe s t = true ↔ keyLe (ofString s) (ofString t) := by
  unfold canonicalKeyLe keyLe
  rw [index?_ofString, index?_ofString]
  cases arrayIndex? s with
  | some m =>
    cases arrayIndex? t with
    | some n => exact decide_eq_true_iff
    | none => simp
  | none =>
    cases arrayIndex? t with
    | some n => simp
    | none => exact codeUnitsLe_iff s t

/-! ### The text -/

/-- A character between the quotes. -/
def escapeChar (c : Char) : List Char :=
  if c = '"' then ['\\', '"']
  else if c = '\\' then ['\\', '\\']
  else if c.toNat = 8 then ['\\', 'b']
  else if c.toNat = 9 then ['\\', 't']
  else if c.toNat = 10 then ['\\', 'n']
  else if c.toNat = 12 then ['\\', 'f']
  else if c.toNat = 13 then ['\\', 'r']
  else if c.toNat < 32 then ['\\', 'u', '0', '0', hexDigit (c.toNat / 16), hexDigit c.toNat]
  else [c]

theorem quoteJson_eq (s : String) :
    quoteJson s = String.ofList (['"'] ++ s.toList.flatMap escapeChar ++ ['"']) := rfl

theorem units_digitChar (n : Nat) : charUnits (hexDigit n) = [Json.hexUnit n] := by
  have h : ∀ m : Fin 16, charUnits (Nat.digitChar m) = [unit (Nat.digitChar m)] := by decide
  exact h ⟨n % 16, Nat.mod_lt n (by decide)⟩

/-- A character below U+10000 is escaped as its unit is. -/
theorem units_escapeChar {c : Char} {u : CodeUnit} (hunits : charUnits c = [u])
    (hu : u.val = c.toNat) (hhigh : ¬u.IsHigh) (hlow : ¬u.IsLow) :
    units (escapeChar c) = Json.quoteUnit u := by
  have hchar {d : Char} (hd : c.toNat = d.toNat) : c = d := Char.toNat_inj.mp hd
  have hspecial {d : Char} (hd : c.toNat = d.toNat) (hlt : d.toNat < 0x10000) :
      c = d ∧ u = unit d :=
    ⟨hchar hd, Fin.ext (hu.trans (hd.trans (val_unit hlt).symm))⟩
  by_cases h1 : c.toNat = '"'.toNat
  · obtain ⟨rfl, rfl⟩ := hspecial h1 (by decide)
    decide
  by_cases h2 : c.toNat = '\\'.toNat
  · obtain ⟨rfl, rfl⟩ := hspecial h2 (by decide)
    decide
  by_cases h3 : c.toNat = '\x08'.toNat
  · obtain ⟨rfl, rfl⟩ := hspecial h3 (by decide)
    decide
  by_cases h4 : c.toNat = '\t'.toNat
  · obtain ⟨rfl, rfl⟩ := hspecial h4 (by decide)
    decide
  by_cases h5 : c.toNat = '\n'.toNat
  · obtain ⟨rfl, rfl⟩ := hspecial h5 (by decide)
    decide
  by_cases h6 : c.toNat = '\x0c'.toNat
  · obtain ⟨rfl, rfl⟩ := hspecial h6 (by decide)
    decide
  by_cases h7 : c.toNat = '\r'.toNat
  · obtain ⟨rfl, rfl⟩ := hspecial h7 (by decide)
    decide
  have hquote : c ≠ '"' := fun h => h1 (congrArg Char.toNat h)
  have hslash : c ≠ '\\' := fun h => h2 (congrArg Char.toNat h)
  have hshort : Json.shortEscape u = none := by
    simp only [Json.shortEscape, hu]
    simp only [Char.reduceToNat] at h1 h2 h3 h4 h5 h6 h7
    simp [h1, h2, h3, h4, h5, h6, h7]
  simp only [Char.reduceToNat] at h3 h4 h5 h6 h7
  simp only [escapeChar, hquote, hslash, h3, h4, h5, h6, h7, if_false, Json.quoteUnit, hshort, hu,
    hhigh, hlow, or_false]
  split_ifs with hlt
  · have hzero : Json.hexUnit (c.toNat / 0x1000) = unit '0' ∧
        Json.hexUnit (c.toNat / 0x100) = unit '0' := by
      have h1 : c.toNat / 0x1000 = 0 := by omega
      have h2 : c.toNat / 0x100 = 0 := by omega
      rw [h1, h2]
      decide
    simp only [units_cons, units_digitChar, Json.longEscape, hu, hzero]
    rfl
  · rw [units_singleton, hunits]

theorem escaped_of_not_high {u : CodeUnit} (hu : ¬u.IsHigh) (s : Utf16) :
    Json.escaped (u :: s) = Json.quoteUnit u ++ Json.escaped s := by
  cases s with
  | nil =>
    rw [Json.escaped, Json.escaped, List.append_nil]
  | cons v s => rw [Json.escaped, if_neg fun h => hu h.1]

theorem escaped_units (cs : List Char) :
    Json.escaped (units cs) = units (cs.flatMap escapeChar) := by
  induction cs with
  | nil => rfl
  | cons c cs ih =>
    have hc := toNat_lt c
    rw [units_cons, List.flatMap_cons, units_append, ← ih]
    by_cases hlt : c.toNat < 0x10000
    · obtain ⟨u, hunits, hu⟩ := charUnits_of_lt hlt
      have hhigh : ¬u.IsHigh := by
        unfold CodeUnit.IsHigh
        omega
      have hlow : ¬u.IsLow := by
        unfold CodeUnit.IsLow
        omega
      rw [units_escapeChar hunits hu hhigh hlow, hunits, List.singleton_append,
        escaped_of_not_high hhigh]
    · obtain ⟨high, low, hunits, hhigh, hlow⟩ := charUnits_of_ge hlt
      have hpair : high.IsHigh ∧ low.IsLow := by
        unfold CodeUnit.IsHigh CodeUnit.IsLow
        omega
      have hplain : escapeChar c = [c] := by
        have hquote : c ≠ '"' := by
          rintro rfl
          exact hlt (by decide)
        have hslash : c ≠ '\\' := by
          rintro rfl
          exact hlt (by decide)
        simp only [escapeChar, hquote, hslash, if_false]
        rw [if_neg (by omega), if_neg (by omega), if_neg (by omega), if_neg (by omega),
          if_neg (by omega), if_neg (by omega)]
      rw [hplain, units_singleton, hunits]
      show Json.escaped (high :: low :: units cs) = _
      rw [Json.escaped, if_pos hpair]
      rfl

theorem ofString_quoteJson (s : String) : ofString (quoteJson s) = Json.quote (ofString s) := by
  rw [quoteJson_eq, ofString_ofList, units_append, units_append, ← escaped_units]
  rfl

/-- A key and a text, as strings of code units. -/
def wide (field : String × String) : Utf16 × Utf16 := (ofString field.1, ofString field.2)

/-- The fields are sorted into the same order. -/
theorem map_wide_mergeSort {written : List (String × String)}
    (hnodup : (written.map Prod.fst).Nodup) (hproto : "__proto__" ∉ written.map Prod.fst) :
    (written.mergeSort fun a b => canonicalKeyLe a.1 b.1).map wide =
      copySorted (written.map wide) := by
  have hkeys : (written.map wide).map Prod.fst = (written.map Prod.fst).map ofString := by
    rw [List.map_map, List.map_map]
    rfl
  have hmergeSort := List.mergeSort_perm written fun a b => canonicalKeyLe a.1 b.1
  have hfresh : proto ∉ (written.map wide).map Prod.fst := by
    rw [hkeys]
    rintro hmem
    obtain ⟨key, hkey, heq⟩ := List.mem_map.mp hmem
    exact hproto (ofString_injective heq ▸ hkey)
  have hsorted := Lib.Object.pairwise_mergeSort_keys canonicalKeyLe canonicalKeyLe_trans
    canonicalKeyLe_total written
  have hperm := (hmergeSort.map wide).trans (copySorted_perm hfresh).symm
  have hdistinct : (((written.mergeSort fun a b => canonicalKeyLe a.1 b.1).map wide).map
      Prod.fst).Nodup := by
    rw [((hmergeSort.map wide).map Prod.fst).nodup_iff, hkeys]
    exact hnodup.map fun _ _ => ofString_injective
  have hwide : ((written.mergeSort fun a b => canonicalKeyLe a.1 b.1).map wide).Pairwise
      fun f g => keyLe f.1 g.1 :=
    List.pairwise_map.mpr (hsorted.imp fun h => (canonicalKeyLe_iff _ _).mp h)
  exact Lib.Object.eq_of_sorted_keys keyLe_antisymm hperm hdistinct hwide
    (copySorted_sorted (written.map wide))

/-- A text between two marks. -/
theorem ofString_enclosed {first last : String} {u v : CodeUnit} (hfirst : ofString first = [u])
    (hlast : ofString last = [v]) (text : String) :
    ofString (first ++ text ++ last) = u :: (ofString text ++ [v]) := by
  rw [ofString_append, ofString_append, hfirst, hlast, List.singleton_append, List.cons_append]

theorem ofString_field (f : String × String) :
    ofString (quoteJson f.1 ++ ":" ++ f.2) = Json.writeField (wide f) := by
  have hcolon : ofString ":" = [unit ':'] := by decide
  rw [ofString_append, ofString_append, ofString_quoteJson, hcolon, List.append_assoc,
    List.singleton_append, Json.writeField, wide]

/-- What is left of a value that may be `undefined`, as JSON writes it in an array. -/
theorem canonicalize_getD {v : JsValue}
    (h : (ofJsValue v).map canonicalize = (stringifySorted v).map ofString) :
    canonicalize ((ofJsValue v).getD .null) = ofString ((stringifySorted v).getD "null") := by
  cases hw : ofJsValue v with
  | none =>
    rw [hw, Option.map_none] at h
    rw [Option.map_eq_none_iff.mp h.symm]
    rfl
  | some w =>
    rw [hw, Option.map_some] at h
    obtain ⟨text, htext, heq⟩ := Option.map_eq_some_iff.mp h.symm
    rw [htext]
    exact heq.symm

mutual

/-- **The canonical text of a payload is that of the value.** -/
theorem canonicalize_ofJsValue {v : JsValue} (hv : v.Keyed) :
    (ofJsValue v).map canonicalize = (stringifySorted v).map ofString := by
  cases v with
  | undefined => rfl
  | null => rfl
  | bool b => rfl
  | number n =>
    rw [ofJsValue, stringifySorted, Option.map_some, Option.map_some, ← JsonNumber.text_ofInt]
    rfl
  | decimal text => rfl
  | bigint n =>
    rw [ofJsValue, stringifySorted, Option.map_some, Option.map_some, ofString_quoteJson]
    rfl
  | string s =>
    rw [ofJsValue, stringifySorted, Option.map_some, Option.map_some, ofString_quoteJson]
    rfl
  | array items =>
    rw [JsValue.Keyed] at hv
    rw [ofJsValue, stringifySorted, Option.map_some, Option.map_some, canonicalize_array,
      map_canonicalize_ofItems hv, ← ofString_intercalate,
      ofString_enclosed (u := unit '[') (v := unit ']') (by decide) (by decide)]
  | object fields =>
    rw [JsValue.Keyed] at hv
    have hnodup := (keys_stringifyFields fields).nodup hv.1
    have hproto : "__proto__" ∉ (stringifyFields fields).map Prod.fst :=
      fun h => hv.2.1 ((keys_stringifyFields fields).subset h)
    have hsort := map_wide_mergeSort hnodup hproto
    rw [ofJsValue, stringifySorted, Option.map_some, Option.map_some, canonicalize_object,
      map_canonicalize_ofFields hv.2.2 hv.2.1, ← hsort, List.map_map,
      ofString_enclosed (u := unit '\x7b') (v := unit '\x7d') (by decide) (by decide),
      ofString_intercalate, List.map_map]
    simp only [Function.comp_def, ofString_field]

theorem map_canonicalize_ofItems {items : List JsValue} (hv : KeyedItems items) :
    (ofItems items).map canonicalize = (stringifyItems items).map ofString := by
  cases items with
  | nil => rfl
  | cons v items =>
    rw [KeyedItems] at hv
    rw [ofItems, stringifyItems, List.map_cons, List.map_cons,
      canonicalize_getD (canonicalize_ofJsValue hv.1), map_canonicalize_ofItems hv.2]

theorem map_canonicalize_ofFields {fields : List (String × JsValue)} (hv : KeyedFields fields)
    (hproto : "__proto__" ∉ fields.map Prod.fst) :
    (ofFields fields).map (Json.onValues canonicalize) = (stringifyFields fields).map wide := by
  cases fields with
  | nil => rfl
  | cons field fields =>
    obtain ⟨key, v⟩ := field
    rw [KeyedFields] at hv
    rw [List.map_cons, List.mem_cons, not_or] at hproto
    have hrest := map_canonicalize_ofFields hv.2 hproto.2
    have hv := canonicalize_ofJsValue hv.1
    rw [ofFields, stringifyFields]
    cases hw : ofJsValue v with
    | none =>
      rw [hw, Option.map_none] at hv
      rw [Option.map_eq_none_iff.mp hv.symm]
      exact hrest
    | some w =>
      rw [hw, Option.map_some] at hv
      obtain ⟨text, htext, heq⟩ := Option.map_eq_some_iff.mp hv.symm
      rw [htext]
      simp only [Ne.symm hproto.1, if_false, List.map_cons, hrest]
      rw [Json.onValues, wide, heq]

end

end Canonical

end TrusteeBank
