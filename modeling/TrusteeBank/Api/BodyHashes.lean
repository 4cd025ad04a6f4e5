import TrusteeBank.CanonicalForm

/-!
# The hash of a request body

A client signs the hash of the canonical text of its request's body, and an idempotency key is
stored with that of the body it was used with. Assigning to the key `__proto__` of a copy sets its
prototype and no property, so a field of that name is not in the text, at any depth.

**Theorem (`body_identified_iff`).** The text identifies a body up to the order of its keys exactly
when the body does not differ from another in such fields only.

* `sameBody_sortValue`: without such fields the copy of a body is the body;
* `canonicalize_eq_iff`: the bodies that have the same text.
-/

set_option autoImplicit false

namespace TrusteeBank

open Lib (Utf16 Json)
open Lib.Utf16

namespace Canonical

/-! ## The source -/

/-- A canonical text, as a string of characters: it has no lone surrogate. -/
def canonicalText (v : Value) : String := String.ofList (chars (canonicalize v))

/-- `req.body ?? {}`. -/
def bodyOrEmpty : Json JsonNumber → Value
  | .null => .object []
  | body => ofJson body

/-- The body hash that `RequestSignatureGuard` verifies the signature of. -/
def signedBodyHash (sha256Hex : String → String) (body : Json JsonNumber) : String :=
  sha256Hex (canonicalText (bodyOrEmpty body))

/-- The request hash of `IdempotencyService`; its `stableStringify` is `canonicalize`. -/
def storedRequestHash (sha256Hex : String → String) (body : Json JsonNumber) : String :=
  sha256Hex (canonicalText (ofJson body))

/-! ## The same body -/

/-- The same body up to the order of the keys of its objects, at any depth. The two zeros are one
number. -/
inductive SameBody : Json JsonNumber → Json JsonNumber → Prop
  | refl (v : Json JsonNumber) : SameBody v v
  | symm {v w : Json JsonNumber} (h : SameBody v w) : SameBody w v
  | trans {u v w : Json JsonNumber} (h : SameBody u v) (h' : SameBody v w) : SameBody u w
  | zero : SameBody (.number (.integer 0 (by decide))) (.number .negativeZero)
  | item {v w : Json JsonNumber} (before after : List (Json JsonNumber)) (h : SameBody v w) :
      SameBody (.array (before ++ v :: after)) (.array (before ++ w :: after))
  | field {v w : Json JsonNumber} (before after : List (Utf16 × Json JsonNumber)) (key : Utf16)
      (h : SameBody v w) :
      SameBody (.object (before ++ (key, v) :: after)) (.object (before ++ (key, w) :: after))
  | order {fields fields' : List (Utf16 × Json JsonNumber)} (h : fields.Perm fields') :
      SameBody (.object fields) (.object fields')

theorem SameBody.sameContent {v w : Json JsonNumber} (h : SameBody v w) :
    SameContent (ofJson v) (ofJson w) := by
  unfold ofJson
  induction h with
  | refl => exact .refl _
  | symm _ ih => exact ih.symm
  | trans _ _ ih ih' => exact ih.trans ih'
  | zero => exact .zero
  | item before after _ ih =>
    rw [Json.map_array, Json.map_array, List.map_append, List.map_append, List.map_cons,
      List.map_cons]
    exact .item _ _ ih
  | field before after key _ ih =>
    rw [Json.map_object, Json.map_object, List.map_append, List.map_append, List.map_cons,
      List.map_cons]
    exact .field _ _ key ih
  | order h =>
    rw [Json.map_object, Json.map_object]
    exact .order (h.map _)

/-- The items of an array may be replaced one after the other. -/
theorem SameBody.items {f : Json JsonNumber → Json JsonNumber} {items : List (Json JsonNumber)}
    (h : ∀ v ∈ items, SameBody v (f v)) (before : List (Json JsonNumber)) :
    SameBody (.array (before ++ items)) (.array (before ++ items.map f)) := by
  induction items generalizing before with
  | nil => exact .refl _
  | cons v items ih =>
    obtain ⟨hv, hitems⟩ := List.forall_mem_cons.mp h
    have hrest := ih hitems (before ++ [f v])
    rw [List.append_assoc, List.append_assoc] at hrest
    exact .trans (.item before items hv) hrest

/-- So may the values of the fields of an object. -/
theorem SameBody.fields {f : Json JsonNumber → Json JsonNumber}
    {fields : List (Utf16 × Json JsonNumber)} (h : ∀ field ∈ fields, SameBody field.2 (f field.2))
    (before : List (Utf16 × Json JsonNumber)) :
    SameBody (.object (before ++ fields)) (.object (before ++ fields.map (Json.onValues f))) := by
  induction fields generalizing before with
  | nil => exact .refl _
  | cons field fields ih =>
    obtain ⟨hfield, hfields⟩ := List.forall_mem_cons.mp h
    have hrest := ih hfields (before ++ [Json.onValues f field])
    rw [List.append_assoc, List.append_assoc] at hrest
    exact .trans (.field before fields field.1 hfield) hrest

/-! ## Fields named `__proto__` -/

/-- The fields an assignment stores. -/
def withoutProto {α : Type} (fields : List (Utf16 × α)) : List (Utf16 × α) :=
  fields.filter fun f => f.1 ≠ proto

def dropper : Json.Algebra JsonNumber (Json JsonNumber) where
  null := .null
  bool := .bool
  number := .number
  string := .string
  array := .array
  object fields := .object (withoutProto fields)

/-- The body without its fields named `__proto__`, at any depth. -/
def dropProto : Json JsonNumber → Json JsonNumber := Json.fold dropper

theorem dropProto_array (items : List (Json JsonNumber)) :
    dropProto (.array items) = .array (items.map dropProto) := Json.fold_array _ items

theorem dropProto_object (fields : List (Utf16 × Json JsonNumber)) :
    dropProto (.object fields) = .object (withoutProto (fields.map (Json.onValues dropProto))) :=
  Json.fold_object _ fields

section

variable {α β : Type}

theorem withoutProto_map (f : α → β) (fields : List (Utf16 × α)) :
    withoutProto (fields.map (Json.onValues f)) = (withoutProto fields).map (Json.onValues f) := by
  unfold withoutProto
  rw [List.filter_map]
  rfl

/-- The keys that are left. -/
theorem plainKeys_withoutProto {fields : List (Utf16 × α)}
    (hnodup : (fields.map Prod.fst).Nodup) : PlainKeys ((withoutProto fields).map Prod.fst) := by
  refine ⟨hnodup.sublist (List.filter_sublist.map Prod.fst), fun hmem => ?_⟩
  obtain ⟨f, hf, hkey⟩ := List.mem_map.mp hmem
  unfold withoutProto at hf
  obtain ⟨-, hne⟩ := List.mem_filter.mp hf
  exact of_decide_eq_true hne hkey

/-- **The copy of an object has the fields that are left.** -/
theorem copySorted_perm_withoutProto (fields : List (Utf16 × α)) :
    (copySorted fields).Perm (withoutProto fields) :=
  (ownOrder_perm _).trans ((List.mergeSort_perm _ _).filter _)

/-- Leaving the fields out beforehand changes nothing. -/
theorem copySorted_withoutProto {fields : List (Utf16 × α)}
    (hnodup : (fields.map Prod.fst).Nodup) :
    copySorted (withoutProto fields) = copySorted fields := by
  have hplain := plainKeys_withoutProto hnodup
  have hperm := copySorted_perm hplain.2
  refine Lib.Object.eq_of_sorted_keys keyLe_antisymm
    (hperm.trans (copySorted_perm_withoutProto fields).symm) ?_ (copySorted_sorted _)
    (copySorted_sorted fields)
  exact (hperm.map Prod.fst).nodup_iff.mpr hplain.1

end

/-- A body without such fields. -/
def PlainBody (v : Json JsonNumber) : Prop := v.Forall JsonNumber.IsSafe PlainKeys

theorem plainBody_dropProto {v : Json JsonNumber} (hv : SafeData v) : PlainBody (dropProto v) := by
  induction hv with
  | null => exact .null
  | bool b => exact .bool b
  | number h => exact .number h
  | string s => exact .string s
  | array _ ih =>
    rw [dropProto_array]
    exact .array (List.forall_mem_map.mpr ih)
  | @object fields hnodup _ ih =>
    have hkeys : ((fields.map (Json.onValues dropProto)).map Prod.fst).Nodup := by
      rw [Json.keys_map_onValues]
      exact hnodup
    rw [dropProto_object]
    refine .object (plainKeys_withoutProto hkeys) fun f hf => ?_
    obtain ⟨g, hg, rfl⟩ := List.mem_map.mp (List.mem_of_mem_filter hf)
    exact ih g hg

theorem PlainBody.keyed {v : Json JsonNumber} (h : PlainBody v) : Keyed (ofJson v) := by
  unfold Keyed ofJson
  exact h.map fun _ _ => trivial

theorem PlainBody.safeNumbers {v : Json JsonNumber} (h : PlainBody v) : SafeNumbers (ofJson v) := by
  have hnumbers : (ofJson v).Forall Numeric.IsSafe PlainKeys := by
    unfold ofJson
    refine Json.Forall.map (fun n hn => ?_) h
    exact hn
  exact hnumbers.mono (fun _ => id) fun _ _ => trivial

/-! ## The copy of a body -/

theorem sortValue_ofJson_array (items : List (Json JsonNumber)) :
    sortValue (ofJson (.array items)) = .array (items.map fun v => sortValue (ofJson v)) := by
  unfold ofJson
  rw [Json.map_array, sortValue_array, List.map_map]
  rfl

theorem sortValue_ofJson_object (fields : List (Utf16 × Json JsonNumber)) :
    sortValue (ofJson (.object fields)) =
      .object (copySorted (fields.map (Json.onValues fun v => sortValue (ofJson v)))) := by
  unfold ofJson
  rw [Json.map_object, sortValue_object, List.map_map]
  rfl

/-- **Without such fields the copy of a body is the body**, in another order. -/
theorem sameBody_sortValue {v : Json JsonNumber} (hv : PlainBody v) :
    SameBody v (sortValue (ofJson v)) := by
  induction hv with
  | null => exact .refl _
  | bool => exact .refl _
  | number => exact .refl _
  | string => exact .refl _
  | array _ ih =>
    rw [sortValue_ofJson_array]
    exact .items ih []
  | @object fields hkeys _ ih =>
    have hproto : proto ∉
        (fields.map (Json.onValues fun v => sortValue (ofJson v))).map Prod.fst := by
      rw [Json.keys_map_onValues]
      exact hkeys.2
    rw [sortValue_ofJson_object]
    exact .trans (.fields ih []) (.order (copySorted_perm hproto).symm)

/-- **Such fields are not copied.** -/
theorem sortValue_dropProto {v : Json JsonNumber} (hv : SafeData v) :
    sortValue (ofJson (dropProto v)) = sortValue (ofJson v) := by
  induction hv with
  | null => rfl
  | bool => rfl
  | number => rfl
  | string => rfl
  | array _ ih =>
    rw [dropProto_array, sortValue_ofJson_array, sortValue_ofJson_array, List.map_map]
    exact congrArg Json.array (List.map_congr_left ih)
  | @object fields hnodup _ ih =>
    have hfields : (fields.map (Json.onValues dropProto)).map
        (Json.onValues fun v => sortValue (ofJson v)) =
          fields.map (Json.onValues fun v => sortValue (ofJson v)) := by
      rw [List.map_map]
      exact List.map_congr_left fun f hf => congrArg (Prod.mk f.1) (ih f hf)
    rw [dropProto_object, sortValue_ofJson_object, sortValue_ofJson_object, ← withoutProto_map,
      hfields, copySorted_withoutProto]
    rwa [Json.keys_map_onValues]

theorem canonicalize_dropProto {v : Json JsonNumber} (hv : SafeData v) :
    canonicalize (ofJson (dropProto v)) = canonicalize (ofJson v) :=
  congrArg jsonText (sortValue_dropProto hv)

/-! ## Bodies with the same text -/

/-- A body whose numbers are read back from their texts. -/
theorem sameBody_literal [NumberRuntime] {v : Json JsonNumber} (hv : SafeData v) :
    SameBody v (v.map fun n => JsonNumber.literal n.text) := by
  induction hv with
  | null => exact .refl _
  | bool => exact .refl _
  | @number n h =>
    show SameBody (.number n) (.number (JsonNumber.literal n.text))
    cases n with
    | integer n safe =>
      rw [JsonNumber.text, JsonNumber.literal_toString n safe]
      exact .refl _
    | negativeZero =>
      have hzero := JsonNumber.literal_toString 0 (by decide)
      show SameBody _ (.number (JsonNumber.literal (ofString (toString (0 : Int)))))
      rw [hzero]
      exact .symm .zero
    | other text => cases h
  | string => exact .refl _
  | array _ ih =>
    rw [Json.map_array]
    exact .items ih []
  | object _ _ ih =>
    rw [Json.map_object]
    exact .fields ih []

/-- What can be read back from one text is one body. -/
theorem sameBody_of_jsonText [NumberRuntime] {v w : Json JsonNumber} (hv : SafeData v)
    (hw : SafeData w) (h : jsonText v = jsonText w) : SameBody v w := by
  have hparse {u : Json JsonNumber} (hu : SafeData u) :
      Json.parse JsonNumber.literal (jsonText u) =
        some (u.map fun n => JsonNumber.literal n.text) :=
    Json.parse_write JsonNumber.literal (hu.mono (fun _ => JsonNumber.isNumber_text) fun _ => id)
  have hread := hparse hv
  rw [h, hparse hw] at hread
  have hsame := sameBody_literal hw
  rw [Option.some.inj hread] at hsame
  exact .trans (sameBody_literal hv) hsame.symm

/-- **Two bodies have the same text** exactly when they are the same but for such fields. -/
theorem canonicalize_eq_iff {v w : Json JsonNumber} (hv : SafeData v) (hw : SafeData w) :
    canonicalize (ofJson v) = canonicalize (ofJson w) ↔
      SameBody (dropProto v) (dropProto w) := by
  have hplain := plainBody_dropProto hv
  have hplain' := plainBody_dropProto hw
  rw [← canonicalize_dropProto hv, ← canonicalize_dropProto hw]
  constructor
  · intro h
    have : NumberRuntime := ⟨JsonNumber.other⟩
    have hcopies := sameBody_of_jsonText (safeData_sortValue hplain.keyed hplain.safeNumbers)
      (safeData_sortValue hplain'.keyed hplain'.safeNumbers) h
    exact (sameBody_sortValue hplain).trans (hcopies.trans (sameBody_sortValue hplain').symm)
  · intro h
    exact h.sameContent.canonicalize_eq hplain.keyed

/-- A canonical text is determined by its characters. -/
theorem canonicalText_eq_iff {v w : Json JsonNumber} (hv : SafeData v) (hw : SafeData w) :
    canonicalText (ofJson v) = canonicalText (ofJson w) ↔
      canonicalize (ofJson v) = canonicalize (ofJson w) := by
  have hunits {u : Json JsonNumber} (hu : SafeData u) :
      units (chars (canonicalize (ofJson u))) = canonicalize (ofJson u) := by
    have hplain := plainBody_dropProto hu
    have hsafe := safeData_sortValue hplain.keyed hplain.safeNumbers
    rw [sortValue_dropProto hu] at hsafe
    apply WellFormed.units_chars
    apply Json.wellFormed_write
    exact hsafe.mono (fun n hn => by
      cases n with
      | integer n safe => exact ⟨_, rfl⟩
      | negativeZero => exact ⟨_, rfl⟩
      | other text => cases hn) fun _ => id
  unfold canonicalText
  constructor
  · intro h
    rw [← hunits hv, ← hunits hw, String.ofList_inj.mp h]
  · intro h
    rw [h]

/-- The hash separates two texts, as far as it matters. -/
def HashesApart (sha256Hex : String → String) (s t : String) : Prop :=
  sha256Hex s = sha256Hex t → s = t

/-- A body that a request can have: the parser takes objects and arrays only. -/
theorem bodyOrEmpty_of_ne {body : Json JsonNumber} (h : body ≠ .null) :
    bodyOrEmpty body = ofJson body := by
  cases body with
  | null => exact absurd rfl h
  | bool => rfl
  | number => rfl
  | string => rfl
  | array => rfl
  | object => rfl

/-- Under a hash that separates the two texts, the hashes are as good as the texts. -/
theorem storedRequestHash_eq_iff {sha256Hex : String → String} {v w : Json JsonNumber}
    (hv : SafeData v) (hw : SafeData w)
    (hapart : HashesApart sha256Hex (canonicalText (ofJson v)) (canonicalText (ofJson w))) :
    storedRequestHash sha256Hex v = storedRequestHash sha256Hex w ↔
      SameBody (dropProto v) (dropProto w) := by
  rw [← canonicalize_eq_iff hv hw, ← canonicalText_eq_iff hv hw]
  constructor
  · intro h
    exact hapart h
  · intro h
    exact congrArg sha256Hex h

/-- **A canonical text identifies a body** up to the order of its keys exactly when the other body
differs in more than fields named `__proto__`, and so do the body hash of a signed request and the
request hash of an idempotency key. -/
theorem body_identified_iff {v w : Json JsonNumber} (hv : SafeData v) (hw : SafeData w) :
    ((canonicalize (ofJson v) = canonicalize (ofJson w) → SameBody v w) ↔
      (SameBody (dropProto v) (dropProto w) → SameBody v w)) ∧
    ∀ sha256Hex : String → String,
      HashesApart sha256Hex (canonicalText (ofJson v)) (canonicalText (ofJson w)) →
        ((storedRequestHash sha256Hex v = storedRequestHash sha256Hex w → SameBody v w) ↔
          (SameBody (dropProto v) (dropProto w) → SameBody v w)) ∧
        (v ≠ .null → w ≠ .null →
          ((signedBodyHash sha256Hex v = signedBodyHash sha256Hex w → SameBody v w) ↔
            (SameBody (dropProto v) (dropProto w) → SameBody v w))) := by
  refine ⟨by rw [canonicalize_eq_iff hv hw], fun sha256Hex hapart => ?_⟩
  have hstored := storedRequestHash_eq_iff hv hw hapart
  refine ⟨by rw [hstored], fun hne hne' => ?_⟩
  have hsigned {u : Json JsonNumber} (hu : u ≠ .null) :
      signedBodyHash sha256Hex u = storedRequestHash sha256Hex u := by
    rw [signedBodyHash, storedRequestHash, bodyOrEmpty_of_ne hu]
  rw [hsigned hne, hsigned hne', hstored]

end Canonical

/-! ## A field that is not signed -/

namespace Sample

open Canonical

/-- What `JSON.parse` makes of `{"__proto__":1}`. -/
def protoBody : Json JsonNumber := .object [(proto, .number (.ofInt 1))]

def emptyBody : Json JsonNumber := .object []

theorem protoBody_safe : SafeData protoBody := by
  refine .object (List.nodup_singleton proto) ?_
  simp only [List.forall_mem_cons, List.not_mem_nil, false_implies, implies_true, and_true]
  exact .number trivial

theorem emptyBody_safe : SafeData emptyBody :=
  .object List.nodup_nil fun _ hf => absurd hf List.not_mem_nil

/-- The text of the body is read as the body. -/
theorem jsonParse_protoBody :
    @jsonParse numberRuntime (ofString "\x7b\"__proto__\":1\x7d") = some protoBody := by
  have htext : ofString "\x7b\"__proto__\":1\x7d" = jsonText protoBody := by decide +kernel
  have hone : @JsonNumber.literal numberRuntime (JsonNumber.ofInt 1).text = .ofInt 1 :=
    @JsonNumber.literal_toString numberRuntime 1 (by decide)
  have hname : index? proto = none := by decide +kernel
  rw [htext, @jsonParse_jsonText numberRuntime _ protoBody_safe]
  show some (inOwnOrder (.object
    [(proto, .number (@JsonNumber.literal numberRuntime (JsonNumber.ofInt 1).text))])) = _
  rw [hone, inOwnOrder_object, ownOrder_of_names]
  · rfl
  · intro f hf
    rw [List.mem_singleton.mp hf]
    exact hname

theorem protoBody_ne_emptyBody : ¬SameBody protoBody emptyBody := by
  intro h
  have hkeyed : Keyed (ofJson emptyBody) :=
    .object ⟨List.nodup_nil, List.not_mem_nil⟩ fun _ hf => absurd hf List.not_mem_nil
  have hproto := (Json.forall_object.mp (h.sameContent.keyed_iff.mpr hkeyed)).1
  exact hproto.2 (List.mem_singleton_self proto)

theorem protoBody_ne_null : protoBody ≠ .null := fun h => by cases h

theorem emptyBody_ne_null : emptyBody ≠ .null := fun h => by cases h

/-- The hash of the text `{}`. -/
def sha256OfEmpty (text : String) : String :=
  if text = "\x7b\x7d" then "44136fa355b3678a1146ad16f7e8649e94fb4fc21fe77e8310c060f61caaff8a" else ""

theorem sha256OfEmpty_apart : HashesApart sha256OfEmpty (canonicalText (ofJson protoBody))
    (canonicalText (ofJson emptyBody)) :=
  fun _ => (canonicalText_eq_iff protoBody_safe emptyBody_safe).mpr
    ((canonicalize_eq_iff protoBody_safe emptyBody_safe).mpr (.refl _))

end Sample

/-- The texts of two bodies are read as bodies that have the same text, and are not the same. -/
theorem proto_field_unsigned :
    @jsonParse Sample.numberRuntime (ofString "\x7b\"__proto__\":1\x7d") =
        some Sample.protoBody ∧
      SafeData Sample.protoBody ∧ SafeData Sample.emptyBody ∧
      Canonical.canonicalize (Canonical.ofJson Sample.protoBody) =
        Canonical.canonicalize (Canonical.ofJson Sample.emptyBody) ∧
      ¬Canonical.SameBody Sample.protoBody Sample.emptyBody :=
  ⟨Sample.jsonParse_protoBody, Sample.protoBody_safe, Sample.emptyBody_safe,
    (Canonical.canonicalize_eq_iff Sample.protoBody_safe Sample.emptyBody_safe).mpr (.refl _),
    Sample.protoBody_ne_emptyBody⟩

/-- The text of the empty body does not identify it, and its hash does not. -/
theorem body_identified_iff_proto :
    ((Canonical.canonicalize (Canonical.ofJson Sample.protoBody) =
          Canonical.canonicalize (Canonical.ofJson Sample.emptyBody) →
        Canonical.SameBody Sample.protoBody Sample.emptyBody) ↔
      (Canonical.SameBody (Canonical.dropProto Sample.protoBody)
          (Canonical.dropProto Sample.emptyBody) →
        Canonical.SameBody Sample.protoBody Sample.emptyBody)) ∧
    ((Canonical.signedBodyHash Sample.sha256OfEmpty Sample.protoBody =
          Canonical.signedBodyHash Sample.sha256OfEmpty Sample.emptyBody →
        Canonical.SameBody Sample.protoBody Sample.emptyBody) ↔
      (Canonical.SameBody (Canonical.dropProto Sample.protoBody)
          (Canonical.dropProto Sample.emptyBody) →
        Canonical.SameBody Sample.protoBody Sample.emptyBody)) :=
  have h := Canonical.body_identified_iff Sample.protoBody_safe Sample.emptyBody_safe
  ⟨h.1, (h.2 Sample.sha256OfEmpty Sample.sha256OfEmpty_apart).2 Sample.protoBody_ne_null
    Sample.emptyBody_ne_null⟩

end TrusteeBank
