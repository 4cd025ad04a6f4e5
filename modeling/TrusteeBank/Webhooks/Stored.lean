import TrusteeBank.Canonical
import TrusteeBank.Infra

/-!
# Signatures over stored payloads

An event is signed over its payload as the service has it, and stored as JSON: bigints have become
strings, what is `undefined` has become `null` in an array and has gone from an object, and the
database returns the keys of an object in an order of its own. A receiver that sorts what it
receives has the text that was signed.

* `stringifySorted_stored`: storing a value does not change its sorted text;
* `storedJson_keyed`: and keeps its keys distinct;
* `signature_survives_storage`: the text that is signed can be recomputed from the row.
-/

set_option autoImplicit false

namespace TrusteeBank

/-! ## Storing a value -/

mutual

/-- **The sorted text of what is stored is the sorted text of the value.** -/
theorem stringifySorted_stored : ∀ v : JsValue,
    (storedJson v).bind stringifySorted = stringifySorted v
  | .undefined | .null | .bool _ | .number _ | .decimal _ | .bigint _ | .string _ => rfl
  | .array items => by
    rw [storedJson, Option.bind_some, stringifySorted, stringifySorted,
      stringifyItems_stored items]
  | .object fields => by
    rw [storedJson, Option.bind_some, stringifySorted, stringifySorted,
      stringifyFields_stored fields]

theorem stringifyItems_stored : ∀ vs : List JsValue,
    stringifyItems (storedItems vs) = stringifyItems vs
  | [] => rfl
  | v :: vs => by
    have hitem : (stringifySorted ((storedJson v).getD .null)).getD "null" =
        (stringifySorted v).getD "null" := by
      rw [← stringifySorted_stored v]
      cases storedJson v with
      | none => rfl
      | some w => rfl
    rw [storedItems, stringifyItems, stringifyItems, hitem, stringifyItems_stored vs]

theorem stringifyFields_stored : ∀ fields : List (String × JsValue),
    stringifyFields (storedFields fields) = stringifyFields fields
  | [] => rfl
  | (key, v) :: fields => by
    have hfield := stringifySorted_stored v
    rw [storedFields, stringifyFields]
    cases hv : storedJson v with
    | none =>
      rw [hv] at hfield
      rw [← hfield]
      exact stringifyFields_stored fields
    | some w =>
      rw [hv, Option.bind_some] at hfield
      rw [stringifyFields, hfield, stringifyFields_stored fields]

end

theorem keys_storedFields (fields : List (String × JsValue)) :
    (storedFields fields).map Prod.fst |>.Sublist (fields.map Prod.fst) := by
  induction fields with
  | nil => exact List.Sublist.refl _
  | cons field fields ih =>
    obtain ⟨key, v⟩ := field
    rw [storedFields, List.map_cons]
    split
    · exact ih.cons_cons _
    · exact ih.cons _

mutual

/-- What is stored has distinct keys when the value has. -/
theorem storedJson_keyed : ∀ {v w : JsValue}, v.Keyed → storedJson v = some w → w.Keyed
  | .undefined, _, _, h => by simp [storedJson] at h
  | .null, _, _, h | .bool _, _, _, h | .number _, _, _, h | .decimal _, _, _, h
  | .bigint _, _, _, h | .string _, _, _, h => by
    simp only [storedJson, Option.some.injEq] at h
    subst h
    trivial
  | .array items, _, hv, h => by
    simp only [storedJson, Option.some.injEq] at h
    subst h
    rw [JsValue.Keyed] at hv ⊢
    exact storedItems_keyed hv
  | .object fields, _, hv, h => by
    simp only [storedJson, Option.some.injEq] at h
    subst h
    rw [JsValue.Keyed] at hv ⊢
    have hkeys := keys_storedFields fields
    exact ⟨hkeys.nodup hv.1, fun hmem => hv.2.1 (hkeys.subset hmem), storedFields_keyed hv.2.2⟩

theorem storedItems_keyed : ∀ {vs : List JsValue}, KeyedItems vs → KeyedItems (storedItems vs)
  | [], _ => trivial
  | v :: vs, h => by
    rw [KeyedItems] at h
    rw [storedItems, KeyedItems]
    refine ⟨?_, storedItems_keyed h.2⟩
    cases hv : storedJson v with
    | none => trivial
    | some w => exact storedJson_keyed h.1 hv

theorem storedFields_keyed : ∀ {fields : List (String × JsValue)},
    KeyedFields fields → KeyedFields (storedFields fields)
  | [], _ => trivial
  | (key, v) :: fields, h => by
    rw [KeyedFields] at h
    rw [storedFields]
    cases hv : storedJson v with
    | none => exact storedFields_keyed h.2
    | some w => exact ⟨storedJson_keyed h.1 hv, storedFields_keyed h.2⟩

end

/-! ## The subject of an event -/

/-- `{ eventType, targetPlatform, payload }`, which the signature of an event is over. -/
def eventSubject (eventType targetPlatform : String) (payload : JsValue) : JsValue :=
  .object [("eventType", .string eventType), ("targetPlatform", .string targetPlatform),
    ("payload", payload)]

theorem eventSubject_keyed {payload : JsValue} (h : payload.Keyed)
    (eventType targetPlatform : String) : (eventSubject eventType targetPlatform payload).Keyed := by
  have hkeys : ["eventType", "targetPlatform", "payload"].Nodup ∧
      "__proto__" ∉ ["eventType", "targetPlatform", "payload"] := by decide
  rw [eventSubject, JsValue.Keyed]
  exact ⟨hkeys.1, hkeys.2, trivial, trivial, h, trivial⟩

theorem eventSubject_reorders {payload read : JsValue} (h : Reorders payload read)
    (eventType targetPlatform : String) :
    Reorders (eventSubject eventType targetPlatform payload)
      (eventSubject eventType targetPlatform read) :=
  .object (.cons (.same _) (.cons (.same _) (.cons h .nil))) (List.Perm.refl _)

theorem canonicalize_eventSubject_stored {payload stored : JsValue}
    (h : storedJson payload = some stored) (eventType targetPlatform : String) :
    canonicalize (eventSubject eventType targetPlatform stored) =
      canonicalize (eventSubject eventType targetPlatform payload) := by
  have hpayload : stringifySorted stored = stringifySorted payload := by
    rw [← stringifySorted_stored payload, h, Option.bind_some]
  unfold canonicalize eventSubject
  simp only [stringifySorted, stringifyFields, hpayload]

section

variable [Runtime]

/-- **The signature of an event survives storage.** -/
theorem signature_survives_storage (eventType targetPlatform : String)
    {payload stored read : JsValue} (hkeyed : payload.Keyed)
    (hstored : storedJson payload = some stored) (hread : Reorders stored read) :
    let event := EventsService.signedEvent eventType payload targetPlatform
    event.payload = stored ∧
      canonicalize (eventSubject eventType targetPlatform read) =
        canonicalize (eventSubject eventType targetPlatform payload) ∧
      (event.signatureKeyId, event.signatureValue) =
        Runtime.edSign .webhook (canonicalize (eventSubject eventType targetPlatform read)) := by
  intro event
  have hpayload : event.payload = stored := by
    show (storedJson payload).getD .null = stored
    rw [hstored, Option.getD_some]
  have htext : canonicalize (eventSubject eventType targetPlatform read) =
      canonicalize (eventSubject eventType targetPlatform payload) := by
    have hsubject := eventSubject_keyed (storedJson_keyed hkeyed hstored) eventType targetPlatform
    rw [(eventSubject_reorders hread eventType targetPlatform).canonicalize_eq hsubject,
      canonicalize_eventSubject_stored hstored]
  refine ⟨hpayload, htext, ?_⟩
  rw [htext]
  rfl

end

/-! ## An event -/

namespace Sample

/-- A payload with a bigint, and with `undefined` in an object and in an array. -/
def settledPayload : JsValue :=
  .object [("settlementId", .string "S1"), ("netMinor", .bigint 5000), ("memo", .undefined),
    ("lines", .array [.undefined, .object [("paid", .bool true), ("fee", .null)]]),
    ("count", .number 2)]

def storedSettledPayload : JsValue :=
  .object [("settlementId", .string "S1"), ("netMinor", .string "5000"),
    ("lines", .array [.null, .object [("paid", .bool true), ("fee", .null)]]),
    ("count", .number 2)]

/-- The payload as the database returns it. -/
def readSettledPayload : JsValue :=
  .object [("lines", .array [.null, .object [("fee", .null), ("paid", .bool true)]]),
    ("count", .number 2), ("settlementId", .string "S1"), ("netMinor", .string "5000")]

theorem settledPayload_keyed : settledPayload.Keyed := by
  simp [settledPayload, JsValue.Keyed, KeyedItems, KeyedFields]

theorem settledPayload_stored : storedJson settledPayload = some storedSettledPayload := rfl

theorem settledPayload_read : Reorders storedSettledPayload readSettledPayload :=
  have hline : Reorders (.object [("paid", .bool true), ("fee", .null)])
      (.object [("fee", .null), ("paid", .bool true)]) :=
    .object (.cons (.same _) (.cons (.same _) .nil)) (List.Perm.swap _ _ _)
  .object
    (.cons (.same _) (.cons (.same _)
      (.cons (.array (.cons (.same _) (.cons hline .nil))) (.cons (.same _) .nil))))
    (@List.perm_append_comm _ [_, _] [_, _])

theorem signature_survives_storage_settled :
    canonicalize (eventSubject "paykh.settlement.confirmed" "PAYKH" readSettledPayload) =
      canonicalize (eventSubject "paykh.settlement.confirmed" "PAYKH" settledPayload) :=
  (@signature_survives_storage Runtime.ascii "paykh.settlement.confirmed" "PAYKH" _ _ _
    settledPayload_keyed settledPayload_stored settledPayload_read).2.1

end Sample

end TrusteeBank
