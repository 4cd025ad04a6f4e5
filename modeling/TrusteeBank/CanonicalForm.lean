import Mathlib.Order.Fin.Basic
import TrusteeBank.JsonValues

/-!
# The canonical form of a value

`canonicalize` of values whose strings are code units. `sortValue` copies an object key by key, in
the order of `sort`; the copy enumerates its integer keys first all the same, so that the text has
the fields in the order of `keyLe`, which is a linear order.

**Theorem (`canonicalize_content`).** Values with the same content have the same canonical text:
the keys of their objects may be in another order at any depth, and a bigint may be its decimal
string. The canonical text of a value whose numbers are safe integers is JSON, and what `JSON.parse`
makes of it has the same canonical text.

* `copySorted_sorted`, `copySorted_perm`: the copy of an object is sorted by `keyLe`;
* `SameContent.canonicalize_eq`: the first half;
* `canonicalize_reread`: the second half.
-/

set_option autoImplicit false

namespace TrusteeBank

open Lib (CodeUnit Utf16 Json)
open Lib.Utf16

namespace Canonical

/-! ## The source -/

/-- A number or a bigint. -/
inductive Numeric
  | number (n : JsonNumber)
  | bigint (n : Int)
deriving DecidableEq

/-- A value made of `null`, booleans, numbers, bigints, strings, arrays and objects. -/
abbrev Value := Json Numeric

def proto : Utf16 := ofString "__proto__"

/-- The copy of an object: its keys are sorted by their code units, and set one after the other.
Assigning to `__proto__` sets no property. -/
def copySorted {α : Type} (fields : List (Utf16 × α)) : List (Utf16 × α) :=
  ownOrder ((fields.mergeSort fun f g => decide (f.1 ≤ g.1)).filter fun f => f.1 ≠ proto)

def sorter : Json.Algebra Numeric (Json JsonNumber) where
  null := .null
  bool := .bool
  number
    | .number n => .number n
    | .bigint n => .string (ofString (toString n))
  string := .string
  array := .array
  object fields := .object (copySorted fields)

def sortValue : Value → Json JsonNumber := Json.fold sorter

def canonicalize (v : Value) : Utf16 := jsonText (sortValue v)

/-- What `JSON.parse` returns, as a value. -/
def ofJson : Json JsonNumber → Value := Json.map .number

/-! ## The order of the keys -/

/-- Integer keys first, and then the others by their code units. -/
def keyLe (s t : Utf16) : Prop :=
  match index? s, index? t with
  | some m, some n => m ≤ n
  | some _, none => True
  | none, some _ => False
  | none, none => s ≤ t

/-- An integer key is the text of its integer. -/
theorem eq_of_index? {key : Utf16} {n : Nat} (h : index? key = some n) :
    key = ofString (toString n) := by
  have htext : toString n = String.ofList (chars key) := toString_of_arrayIndex h
  have hchars : chars key = (toString n).toList := by rw [htext, String.toList_ofList]
  have hwf : WellFormed key := by
    apply wellFormed_of_chars
    intro c hc
    rw [hchars, show toString n = String.ofList (Nat.toDigits 10 n) from
      Nat.repr_eq_ofList_toDigits, String.toList_ofList] at hc
    rintro rfl
    exact absurd (allDigits_toDigits n _ hc) (by decide)
  rw [ofString, ← hchars, hwf.units_chars]

theorem keyLe_antisymm {s t : Utf16} (hst : keyLe s t) (hts : keyLe t s) : s = t := by
  unfold keyLe at hst hts
  cases hs : index? s with
  | some m =>
    cases ht : index? t with
    | some n =>
      rw [hs, ht] at hst hts
      obtain rfl : m = n := le_antisymm hst hts
      rw [eq_of_index? hs, eq_of_index? ht]
    | none =>
      rw [hs, ht] at hts
      cases hts
  | none =>
    cases ht : index? t with
    | some n =>
      rw [hs, ht] at hst
      cases hst
    | none =>
      rw [hs, ht] at hst hts
      exact le_antisymm hst hts

section

variable {α β : Type}

/-- **The properties of an object that was built in the order of the code units are in order.** -/
theorem ownOrder_sorted {created : List (Utf16 × α)} (h : created.Pairwise fun f g => f.1 ≤ g.1) :
    (ownOrder created).Pairwise fun f g => keyLe f.1 g.1 := by
  have hindices : ((created.filter IsIndex).mergeSort indexLe).Pairwise fun f g =>
      indexLe f g = true := by
    apply List.pairwise_mergeSort
    · intro f g k hfg hgk
      exact decide_eq_true (le_trans (of_decide_eq_true hfg) (of_decide_eq_true hgk))
    · intro f g
      rw [Bool.or_eq_true]
      exact (le_total ((index? f.1).getD 0) ((index? g.1).getD 0)).imp decide_eq_true decide_eq_true
  have hindex {f : Utf16 × α} (hf : f ∈ (created.filter IsIndex).mergeSort indexLe) :
      ∃ n, index? f.1 = some n := by
    rw [List.mem_mergeSort] at hf
    have h := List.of_mem_filter hf
    exact Option.isSome_iff_exists.mp h
  have hname {f : Utf16 × α} (hf : f ∈ created.filter fun g => !IsIndex g) : index? f.1 = none := by
    have h := List.of_mem_filter hf
    simpa [IsIndex] using h
  refine List.pairwise_append.mpr ⟨?_, ?_, ?_⟩
  · refine hindices.imp_of_mem fun {f g} hf hg hle => ?_
    obtain ⟨m, hm⟩ := hindex hf
    obtain ⟨n, hn⟩ := hindex hg
    have hmn := of_decide_eq_true hle
    rw [hm, hn] at hmn
    unfold keyLe
    rw [hm, hn]
    exact hmn
  · refine (h.filter _).imp_of_mem fun {f g} hf hg hle => ?_
    unfold keyLe
    rw [hname hf, hname hg]
    exact hle
  · intro f hf g hg
    obtain ⟨m, hm⟩ := hindex hf
    unfold keyLe
    rw [hm, hname hg]
    trivial

theorem copySorted_sorted (fields : List (Utf16 × α)) :
    (copySorted fields).Pairwise fun f g => keyLe f.1 g.1 := by
  apply ownOrder_sorted
  apply List.Pairwise.filter
  have h := Lib.Object.pairwise_mergeSort_keys (fun s t : Utf16 => decide (s ≤ t))
    (fun hst htu => decide_eq_true (le_trans (of_decide_eq_true hst) (of_decide_eq_true htu)))
    (fun s t => by
      rw [Bool.or_eq_true]
      exact (le_total s t).imp decide_eq_true decide_eq_true) fields
  exact h.imp of_decide_eq_true

theorem copySorted_perm {fields : List (Utf16 × α)} (hproto : proto ∉ fields.map Prod.fst) :
    (copySorted fields).Perm fields := by
  refine (ownOrder_perm _).trans ?_
  rw [List.filter_eq_self.mpr]
  · exact List.mergeSort_perm _ _
  · intro f hf
    rw [List.mem_mergeSort] at hf
    refine decide_eq_true ?_
    rintro hkey
    exact hproto (hkey ▸ List.mem_map_of_mem hf)

theorem copySorted_map (f : α → β) (fields : List (Utf16 × α)) :
    copySorted (fields.map (Json.onValues f)) = (copySorted fields).map (Json.onValues f) := by
  have hsort : (fields.mergeSort fun g h => decide (g.1 ≤ h.1)).map (Json.onValues f) =
      (fields.map (Json.onValues f)).mergeSort fun g h => decide (g.1 ≤ h.1) :=
    List.map_mergeSort fun _ _ _ _ => rfl
  have hfilter : (fun g : Utf16 × β => decide (g.1 ≠ proto)) ∘ Json.onValues f =
      fun g => decide (g.1 ≠ proto) := rfl
  unfold copySorted
  rw [← ownOrder_map, ← hsort, List.filter_map, hfilter]

/-- The keys of an object: distinct, and none of them `__proto__`. -/
def PlainKeys (keys : List Utf16) : Prop := keys.Nodup ∧ proto ∉ keys

/-- **An object is copied in one way only**, in whatever order its keys are. -/
theorem copySorted_eq {fields fields' : List (Utf16 × α)} (hkeys : PlainKeys (fields.map Prod.fst))
    (hperm : fields.Perm fields') : copySorted fields = copySorted fields' := by
  have hproto' : proto ∉ fields'.map Prod.fst := fun h =>
    hkeys.2 ((hperm.map Prod.fst).mem_iff.mpr h)
  have hcopy := copySorted_perm hkeys.2
  refine Lib.Object.eq_of_sorted_keys (R := keyLe) keyLe_antisymm
    (hcopy.trans (hperm.trans (copySorted_perm hproto').symm)) ?_ (copySorted_sorted fields)
    (copySorted_sorted fields')
  exact (hcopy.map Prod.fst).nodup_iff.mpr hkeys.1

end

/-! ## The text of an object -/

theorem sortValue_array (items : List Value) :
    sortValue (.array items) = .array (items.map sortValue) := Json.fold_array _ items

theorem sortValue_object (fields : List (Utf16 × Value)) :
    sortValue (.object fields) = .object (copySorted (fields.map (Json.onValues sortValue))) :=
  Json.fold_object _ fields

theorem canonicalize_array (items : List Value) :
    canonicalize (.array items) =
      unit '[' :: (Json.commas (items.map canonicalize) ++ [unit ']']) := by
  unfold canonicalize jsonText
  rw [sortValue_array, Json.write_array, List.map_map]
  rfl

theorem canonicalize_object (fields : List (Utf16 × Value)) :
    canonicalize (.object fields) = unit '\x7b' ::
      (Json.commas ((copySorted (fields.map (Json.onValues canonicalize))).map Json.writeField) ++
        [unit '\x7d']) := by
  have hmap : copySorted (fields.map (Json.onValues canonicalize)) =
      (copySorted (fields.map (Json.onValues sortValue))).map (Json.onValues jsonText) := by
    rw [← copySorted_map, List.map_map]
    rfl
  rw [hmap, List.map_map]
  unfold canonicalize jsonText
  rw [sortValue_object, Json.write_object]
  rfl

/-! ## Content -/

/-- The keys of every object are distinct, and none of them is `__proto__`. -/
def Keyed (v : Value) : Prop := v.Forall (fun _ => True) PlainKeys

/-- The same value up to the order of the keys of its objects, at any depth, and up to bigints that
are written as their decimal strings. -/
inductive SameContent : Value → Value → Prop
  | refl (v : Value) : SameContent v v
  | symm {v w : Value} (h : SameContent v w) : SameContent w v
  | trans {u v w : Value} (h : SameContent u v) (h' : SameContent v w) : SameContent u w
  | bigint (n : Int) : SameContent (.number (.bigint n)) (.string (ofString (toString n)))
  | zero :
      SameContent (.number (.number (.integer 0 (by decide)))) (.number (.number .negativeZero))
  | item {v w : Value} (before after : List Value) (h : SameContent v w) :
      SameContent (.array (before ++ v :: after)) (.array (before ++ w :: after))
  | field {v w : Value} (before after : List (Utf16 × Value)) (key : Utf16) (h : SameContent v w) :
      SameContent (.object (before ++ (key, v) :: after)) (.object (before ++ (key, w) :: after))
  | order {fields fields' : List (Utf16 × Value)} (h : fields.Perm fields') :
      SameContent (.object fields) (.object fields')

theorem PlainKeys.perm {keys keys' : List Utf16} (h : keys.Perm keys') :
    PlainKeys keys ↔ PlainKeys keys' := by
  unfold PlainKeys
  rw [h.nodup_iff, h.mem_iff]

theorem SameContent.keyed_iff {v w : Value} (h : SameContent v w) : Keyed v ↔ Keyed w := by
  unfold Keyed
  induction h with
  | refl => rfl
  | symm _ ih => exact ih.symm
  | trans _ _ ih ih' => exact ih.trans ih'
  | bigint n => exact iff_of_true (.number trivial) (.string _)
  | zero => exact iff_of_true (.number trivial) (.number trivial)
  | item before after _ ih => simp only [Json.forall_array, List.forall_mem_append,
      List.forall_mem_cons, ih]
  | field before after key _ ih => simp only [Json.forall_object, List.forall_mem_append,
      List.forall_mem_cons, ih, List.map_append, List.map_cons]
  | order h =>
    rw [Json.forall_object, Json.forall_object, PlainKeys.perm (h.map Prod.fst)]
    simp only [h.mem_iff]

/-- **Values with the same content have the same canonical text.** -/
theorem SameContent.canonicalize_eq {v w : Value} (h : SameContent v w) (hv : Keyed v) :
    canonicalize v = canonicalize w := by
  induction h with
  | refl => rfl
  | symm h ih => exact (ih (h.keyed_iff.mpr hv)).symm
  | trans h _ ih ih' => exact (ih hv).trans (ih' (h.keyed_iff.mp hv))
  | bigint n => rfl
  | zero => rfl
  | item before after _ ih =>
    have hitem := Json.forall_array.mp hv _ (List.mem_append_right before List.mem_cons_self)
    rw [canonicalize_array, canonicalize_array, List.map_append, List.map_append, List.map_cons,
      List.map_cons, ih hitem]
  | field before after key _ ih =>
    have hfield := (Json.forall_object.mp hv).2 _
      (List.mem_append_right before List.mem_cons_self)
    have heq := ih hfield
    rw [canonicalize_object, canonicalize_object, List.map_append, List.map_append, List.map_cons,
      List.map_cons]
    simp only [Json.onValues, heq]
  | order h =>
    have hkeys := (Json.forall_object.mp hv).1
    rw [canonicalize_object, canonicalize_object]
    rw [copySorted_eq _ (h.map (Json.onValues canonicalize))]
    rwa [Json.keys_map_onValues]

/-! ## Reading it back -/

/-- A bigint, or a number that is a safe integer. -/
def Numeric.IsSafe : Numeric → Prop
  | .number n => n.IsSafe
  | .bigint _ => True

/-- The numbers of a value are safe integers. -/
def SafeNumbers (v : Value) : Prop := v.Forall Numeric.IsSafe fun _ => True

/-- The copy of a value is data, its numbers safe integers. -/
theorem safeData_sortValue {v : Value} (hv : Keyed v) (hsafe : SafeNumbers v) :
    SafeData (sortValue v) := by
  have h := hv.and hsafe
  clear hv hsafe
  induction h with
  | null => exact .null
  | bool b => exact .bool b
  | @number n h =>
    cases n with
    | number x => exact .number h.2
    | bigint n => exact .string _
  | string s => exact .string s
  | array _ ih =>
    rw [sortValue_array]
    exact .array (List.forall_mem_map.mpr ih)
  | @object fields hkeys _ ih =>
    have hperm := @copySorted_perm _ (fields.map (Json.onValues sortValue))
      (by rw [Json.keys_map_onValues]; exact hkeys.1.2)
    rw [sortValue_object]
    refine .object ?_ fun f hf => ?_
    · rw [(hperm.map Prod.fst).nodup_iff, Json.keys_map_onValues]
      exact hkeys.1.1
    · obtain ⟨g, hg, rfl⟩ := List.mem_map.mp (hperm.mem_iff.mp hf)
      exact ih g hg

section

variable [NumberRuntime]

/-- What `JSON.parse` makes of the canonical text. -/
def reread (v : Value) : Value :=
  ofJson (inOwnOrder ((sortValue v).map fun n => JsonNumber.literal n.text))

theorem jsonParse_canonicalize {v : Value} (hv : Keyed v) (hsafe : SafeNumbers v) :
    (jsonParse (canonicalize v)).map ofJson = some (reread v) := by
  unfold canonicalize
  rw [jsonParse_jsonText (safeData_sortValue hv hsafe)]
  rfl

theorem reread_array (items : List Value) : reread (.array items) = .array (items.map reread) := by
  unfold reread ofJson
  rw [sortValue_array, Json.map_array, inOwnOrder_array, Json.map_array, List.map_map,
    List.map_map, List.map_map]
  rfl

theorem reread_object (fields : List (Utf16 × Value)) :
    reread (.object fields) =
      .object (ownOrder (copySorted (fields.map (Json.onValues reread)))) := by
  have hmap (f : Json JsonNumber → Value) :
      ownOrder (copySorted (fields.map (Json.onValues (f ∘ sortValue)))) =
        (ownOrder (copySorted (fields.map (Json.onValues sortValue)))).map (Json.onValues f) := by
    rw [← ownOrder_map, ← copySorted_map, List.map_map]
    rfl
  have hreread : reread =
      (fun x => ofJson (inOwnOrder (x.map fun n => JsonNumber.literal n.text))) ∘ sortValue := rfl
  rw [hreread, hmap]
  show ofJson (inOwnOrder ((sortValue (.object fields)).map _)) = _
  unfold ofJson
  rw [sortValue_object, Json.map_object, inOwnOrder_object, Json.map_object, List.map_map,
    Json.onValues_comp, ownOrder_map, List.map_map]
  rfl

/-- **The canonical text of what is read back is the canonical text.** -/
theorem canonicalize_reread {v : Value} (hv : Keyed v) (hsafe : SafeNumbers v) :
    canonicalize (reread v) = canonicalize v := by
  have h := hv.and hsafe
  clear hv hsafe
  induction h with
  | null => rfl
  | bool => rfl
  | @number n h =>
    cases n with
    | number x => exact JsonNumber.text_literal_text h.2
    | bigint n => rfl
  | string => rfl
  | @array items _ ih =>
    have hitems : (items.map reread).map canonicalize = items.map canonicalize := by
      rw [List.map_map]
      exact List.map_congr_left ih
    rw [reread_array, canonicalize_array, canonicalize_array, hitems]
  | @object fields hkeys _ ih =>
    have hfields : (fields.map (Json.onValues reread)).map (Json.onValues canonicalize) =
        fields.map (Json.onValues canonicalize) := by
      rw [List.map_map]
      exact List.map_congr_left fun f hf => congrArg (Prod.mk f.1) (ih f hf)
    have hplain : PlainKeys ((fields.map (Json.onValues canonicalize)).map Prod.fst) := by
      rw [Json.keys_map_onValues]
      exact hkeys.1
    have hperm := (copySorted_perm hplain.2).symm.trans (ownOrder_perm _).symm
    rw [reread_object, canonicalize_object, canonicalize_object, ← ownOrder_map, ← copySorted_map,
      hfields, ← copySorted_eq hplain hperm]

/-- **The canonical text depends on the content only**, and is read back as a value with the same
canonical text. -/
theorem canonicalize_content :
    (∀ v w : Value, Keyed v → SameContent v w → canonicalize v = canonicalize w) ∧
      ∀ v : Value, Keyed v → SafeNumbers v →
        ((jsonParse (canonicalize v)).map fun w => canonicalize (ofJson w)) =
          some (canonicalize v) := by
  refine ⟨fun v w hv h => h.canonicalize_eq hv, fun v hv hsafe => ?_⟩
  have h := congrArg (Option.map canonicalize) (jsonParse_canonicalize hv hsafe)
  rw [Option.map_map, Option.map_some, canonicalize_reread hv hsafe] at h
  exact h

end

end Canonical

/-! ## Two payloads -/

namespace Sample

open Canonical

/-- Every literal that is not the text of a safe integer is kept as it is. -/
@[reducible] def numberRuntime : NumberRuntime where
  literal s := .other s

/-- An amount as a bigint. -/
def payload : Value :=
  .object [(ofString "b", .number (.bigint 10)), (ofString "1", .null)]

/-- The amount as its decimal string, and the keys in another order. -/
def reordered : Value :=
  .object [(ofString "1", .null), (ofString "b", .string (ofString "10"))]

theorem payload_keyed : Keyed payload := by
  refine .object ⟨by decide, by decide⟩ ?_
  simp only [List.forall_mem_cons, List.not_mem_nil, false_implies, implies_true, and_true]
  exact ⟨.number trivial, .null⟩

theorem payload_safe : SafeNumbers payload := by
  refine .object trivial ?_
  simp only [List.forall_mem_cons, List.not_mem_nil, false_implies, implies_true, and_true]
  exact ⟨.number trivial, .null⟩

theorem payload_reordered : SameContent payload reordered :=
  .trans (.field [] [(ofString "1", .null)] (ofString "b") (.bigint 10))
    (.order (List.Perm.swap _ _ _))

end Sample

/-- The two payloads have the same canonical text, and it is read back. -/
theorem canonicalize_content_reordered :
    Canonical.canonicalize Sample.payload = Canonical.canonicalize Sample.reordered ∧
      ((@jsonParse Sample.numberRuntime (Canonical.canonicalize Sample.payload)).map fun w =>
        Canonical.canonicalize (Canonical.ofJson w)) =
          some (Canonical.canonicalize Sample.payload) :=
  ⟨(@Canonical.canonicalize_content Sample.numberRuntime).1 _ _ Sample.payload_keyed
      Sample.payload_reordered,
    (@Canonical.canonicalize_content Sample.numberRuntime).2 _ Sample.payload_keyed
      Sample.payload_safe⟩

end TrusteeBank
