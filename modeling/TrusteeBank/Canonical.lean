import TrusteeBank.Cryptography
import TrusteeBank.Lib.Object

/-!
# The canonical text

Two payloads that differ in the order of the keys of their objects, at any depth, have the same
canonical text. Keys are compared by their UTF-16 code units, except that integer keys come first
and in the order of the integers; the comparison is a linear order on strings, so that an object
whose keys are distinct is sorted in one way only.

**Well-formed values** (`JsValue.Keyed`). The keys of an object are distinct, and none of them is
`__proto__`, which `sortValue` does not copy.

* `canonicalKeyLe_antisymm`, `canonicalKeyLe_trans`, `canonicalKeyLe_total`: the order of the keys;
* `Reorders.canonicalize_eq`: the canonical text does not depend on the order of the keys.
-/

set_option autoImplicit false

namespace TrusteeBank

open Lib (Object)

/-! ## The order of the keys -/

theorem codeUnits_ne_nil (c : Char) : codeUnits c ≠ [] := by
  unfold codeUnits
  simp only
  split <;> simp

/-- No character's code units begin another's. -/
theorem codeUnits_append_inj {c d : Char} {xs ys : List Nat}
    (h : codeUnits c ++ xs = codeUnits d ++ ys) : c = d ∧ xs = ys := by
  have hc : c.toNat < 0xd800 ∨ 0xdfff < c.toNat ∧ c.toNat < 0x110000 := c.valid
  have hd : d.toNat < 0xd800 ∨ 0xdfff < d.toNat ∧ d.toNat < 0x110000 := d.valid
  have hinj : c.toNat = d.toNat → c = d := Char.toNat_inj.mp
  unfold codeUnits at h
  simp only at h
  split at h <;> split at h <;>
    simp only [List.cons_append, List.nil_append, List.cons.injEq] at h
  · exact ⟨hinj h.1, h.2⟩
  · omega
  · omega
  · exact ⟨hinj (by omega), h.2.2⟩

theorem flatMap_codeUnits_inj {cs ds : List Char}
    (h : cs.flatMap codeUnits = ds.flatMap codeUnits) : cs = ds := by
  induction cs generalizing ds with
  | nil =>
    cases ds with
    | nil => rfl
    | cons d ds =>
      rw [List.flatMap_nil, List.flatMap_cons] at h
      exact absurd (List.append_eq_nil_iff.mp h.symm).1 (codeUnits_ne_nil d)
  | cons c cs ih =>
    cases ds with
    | nil =>
      rw [List.flatMap_nil, List.flatMap_cons] at h
      exact absurd (List.append_eq_nil_iff.mp h).1 (codeUnits_ne_nil c)
    | cons d ds =>
      rw [List.flatMap_cons, List.flatMap_cons] at h
      obtain ⟨rfl, hrest⟩ := codeUnits_append_inj h
      rw [ih hrest]

theorem codeUnitsLe_antisymm {s t : String} (hst : codeUnitsLe s t = true)
    (hts : codeUnitsLe t s = true) : s = t := by
  have h := le_antisymm (of_decide_eq_true hst) (of_decide_eq_true hts)
  exact String.toList_inj.mp (flatMap_codeUnits_inj h)

theorem codeUnitsLe_trans {s t u : String} (hst : codeUnitsLe s t = true)
    (htu : codeUnitsLe t u = true) : codeUnitsLe s u = true :=
  decide_eq_true (le_trans (of_decide_eq_true hst) (of_decide_eq_true htu))

theorem codeUnitsLe_total (s t : String) : codeUnitsLe s t = true ∨ codeUnitsLe t s = true :=
  (le_total (s.toList.flatMap codeUnits) (t.toList.flatMap codeUnits)).imp decide_eq_true
    decide_eq_true

theorem toString_of_arrayIndex {key : String} {n : Nat} (h : arrayIndex? key = some n) :
    toString n = key := by
  unfold arrayIndex? at h
  split at h
  · split_ifs at h with hn
    cases h
    exact hn.1
  · cases h

theorem canonicalKeyLe_antisymm {s t : String} (hst : canonicalKeyLe s t = true)
    (hts : canonicalKeyLe t s = true) : s = t := by
  unfold canonicalKeyLe at hst hts
  cases hs : arrayIndex? s with
  | some m =>
    cases ht : arrayIndex? t with
    | some n =>
      rw [hs, ht] at hst hts
      have hmn : m = n := le_antisymm (of_decide_eq_true hst) (of_decide_eq_true hts)
      rw [← toString_of_arrayIndex hs, ← toString_of_arrayIndex ht, hmn]
    | none =>
      rw [hs, ht] at hts
      cases hts
  | none =>
    cases ht : arrayIndex? t with
    | some n =>
      rw [hs, ht] at hst
      cases hst
    | none =>
      rw [hs, ht] at hst hts
      exact codeUnitsLe_antisymm hst hts

theorem canonicalKeyLe_trans {s t u : String} (hst : canonicalKeyLe s t = true)
    (htu : canonicalKeyLe t u = true) : canonicalKeyLe s u = true := by
  unfold canonicalKeyLe at hst htu ⊢
  cases hs : arrayIndex? s with
  | none =>
    cases ht : arrayIndex? t with
    | none =>
      rw [hs, ht] at hst
      rw [ht] at htu
      cases hu : arrayIndex? u with
      | none =>
        rw [hu] at htu
        exact codeUnitsLe_trans hst htu
      | some k =>
        rw [hu] at htu
        cases htu
    | some n =>
      rw [hs, ht] at hst
      cases hst
  | some m =>
    cases hu : arrayIndex? u with
    | none => rfl
    | some k =>
      rw [hu] at htu
      cases ht : arrayIndex? t with
      | none =>
        rw [ht] at htu
        cases htu
      | some n =>
        rw [hs, ht] at hst
        rw [ht] at htu
        exact decide_eq_true (le_trans (of_decide_eq_true hst) (of_decide_eq_true htu))

theorem canonicalKeyLe_total (s t : String) :
    (canonicalKeyLe s t || canonicalKeyLe t s) = true := by
  unfold canonicalKeyLe
  cases arrayIndex? s with
  | some m =>
    cases arrayIndex? t with
    | some n =>
      rw [Bool.or_eq_true]
      exact (le_total m n).imp decide_eq_true decide_eq_true
    | none => rfl
  | none =>
    cases arrayIndex? t with
    | some n => rfl
    | none =>
      rw [Bool.or_eq_true]
      exact codeUnitsLe_total s t

/-! ## Values -/

mutual

/-- The keys of an object are distinct at every depth, and none of them is `__proto__`. -/
def JsValue.Keyed : JsValue → Prop
  | .array items => KeyedItems items
  | .object fields =>
    (fields.map Prod.fst).Nodup ∧ "__proto__" ∉ fields.map Prod.fst ∧ KeyedFields fields
  | _ => True

def KeyedItems : List JsValue → Prop
  | [] => True
  | v :: vs => v.Keyed ∧ KeyedItems vs

def KeyedFields : List (String × JsValue) → Prop
  | [] => True
  | (_, v) :: fields => v.Keyed ∧ KeyedFields fields

end

mutual

/-- The second value is the first with the keys of its objects in another order. -/
inductive Reorders : JsValue → JsValue → Prop
  | same (v : JsValue) : Reorders v v
  | array {items items' : List JsValue} (h : ReordersItems items items') :
      Reorders (.array items) (.array items')
  | object {fields fields' fields'' : List (String × JsValue)} (h : ReordersFields fields fields')
      (hperm : fields'.Perm fields'') : Reorders (.object fields) (.object fields'')

inductive ReordersItems : List JsValue → List JsValue → Prop
  | nil : ReordersItems [] []
  | cons {v v' : JsValue} {vs vs' : List JsValue} (h : Reorders v v') (hs : ReordersItems vs vs') :
      ReordersItems (v :: vs) (v' :: vs')

inductive ReordersFields : List (String × JsValue) → List (String × JsValue) → Prop
  | nil : ReordersFields [] []
  | cons {key : String} {v v' : JsValue} {fields fields' : List (String × JsValue)}
      (h : Reorders v v') (hs : ReordersFields fields fields') :
      ReordersFields ((key, v) :: fields) ((key, v') :: fields')

end

/-! ## The text of an object -/

/-- What a property contributes to the text of its object. -/
def stringifyField (field : String × JsValue) : Option (String × String) :=
  (stringifySorted field.2).bind fun text =>
    if field.1 = "__proto__" then none else some (field.1, text)

theorem stringifyFields_eq (fields : List (String × JsValue)) :
    stringifyFields fields = fields.filterMap stringifyField := by
  induction fields with
  | nil => rfl
  | cons field fields ih =>
    obtain ⟨key, v⟩ := field
    rw [stringifyFields, List.filterMap_cons, stringifyField]
    cases stringifySorted v with
    | none => exact ih
    | some text =>
      simp only [Option.bind_some]
      split <;> simp only [ih]

theorem keys_stringifyFields (fields : List (String × JsValue)) :
    (stringifyFields fields).map Prod.fst |>.Sublist (fields.map Prod.fst) := by
  induction fields with
  | nil => exact List.Sublist.refl _
  | cons field fields ih =>
    obtain ⟨key, v⟩ := field
    rw [stringifyFields, List.map_cons]
    split
    · split
      · exact ih.cons _
      · exact ih.cons_cons _
    · exact ih.cons _

/-- The properties in any order are sorted into the same text. -/
theorem stringifySorted_object_perm {fields fields' : List (String × JsValue)}
    (hnodup : (fields.map Prod.fst).Nodup) (hperm : fields.Perm fields') :
    stringifySorted (.object fields) = stringifySorted (.object fields') := by
  have hsorted : ((stringifyFields fields).mergeSort fun a b => canonicalKeyLe a.1 b.1) =
      (stringifyFields fields').mergeSort fun a b => canonicalKeyLe a.1 b.1 := by
    have hfields : (stringifyFields fields).Perm (stringifyFields fields') := by
      rw [stringifyFields_eq, stringifyFields_eq]
      exact hperm.filterMap _
    exact Object.mergeSort_keys_eq canonicalKeyLe canonicalKeyLe_trans canonicalKeyLe_total
      canonicalKeyLe_antisymm hfields ((keys_stringifyFields fields).nodup hnodup)
  rw [stringifySorted, stringifySorted, hsorted]

theorem ReordersFields.keys {fields fields' : List (String × JsValue)}
    (h : ReordersFields fields fields') : fields'.map Prod.fst = fields.map Prod.fst := by
  cases h with
  | nil => rfl
  | cons _ hs => rw [List.map_cons, List.map_cons, hs.keys]

mutual

/-- **The canonical text does not depend on the order of the keys.** -/
theorem Reorders.stringifySorted_eq {v v' : JsValue} (h : Reorders v v') (hkeyed : v.Keyed) :
    stringifySorted v' = stringifySorted v := by
  cases h with
  | same => rfl
  | array h =>
    rw [JsValue.Keyed] at hkeyed
    rw [stringifySorted, stringifySorted, h.stringifyItems_eq hkeyed]
  | @object fields fields' _ h hperm =>
    rw [JsValue.Keyed] at hkeyed
    have hnodup : (fields'.map Prod.fst).Nodup := by
      rw [h.keys]
      exact hkeyed.1
    rw [← stringifySorted_object_perm hnodup hperm, stringifySorted, stringifySorted,
      h.stringifyFields_eq hkeyed.2.2]

theorem ReordersItems.stringifyItems_eq {vs vs' : List JsValue} (h : ReordersItems vs vs')
    (hkeyed : KeyedItems vs) : stringifyItems vs' = stringifyItems vs := by
  cases h with
  | nil => rfl
  | cons h hs =>
    rw [KeyedItems] at hkeyed
    rw [stringifyItems, stringifyItems, h.stringifySorted_eq hkeyed.1,
      hs.stringifyItems_eq hkeyed.2]

theorem ReordersFields.stringifyFields_eq {fields fields' : List (String × JsValue)}
    (h : ReordersFields fields fields') (hkeyed : KeyedFields fields) :
    stringifyFields fields' = stringifyFields fields := by
  cases h with
  | nil => rfl
  | cons h hs =>
    rw [KeyedFields] at hkeyed
    rw [stringifyFields, stringifyFields, h.stringifySorted_eq hkeyed.1,
      hs.stringifyFields_eq hkeyed.2]

end

theorem Reorders.canonicalize_eq {v v' : JsValue} (h : Reorders v v') (hkeyed : v.Keyed) :
    canonicalize v' = canonicalize v := by
  unfold canonicalize
  rw [h.stringifySorted_eq hkeyed]

end TrusteeBank
