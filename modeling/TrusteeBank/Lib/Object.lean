import Mathlib.Data.List.Nodup
import Mathlib.Tactic.Tauto

/-!
# Objects as ordered fields

An object is the list of its own properties in the order they were first set. Assigning to a key
that is there keeps its place, and a new key comes last.

* `without_set`: assigning to a key and leaving it out afterwards is leaving it out;
* `without_of_keys`: leaving out keys that are not there changes nothing;
* `get?_set_self`, `get?_set_of_ne`: what is read after an assignment;
* `eq_of_sorted_keys`: an object with distinct keys is in order in one way only.
-/

set_option autoImplicit false

namespace Lib

/-- The properties of an object, in order. -/
abbrev Object (α : Type) := List (String × α)

namespace Object

variable {α : Type}

/-- `obj[key]`. -/
def get? (obj : Object α) (key : String) : Option α := (obj.find? fun f => f.1 = key).map (·.2)

/-- `obj[key] = value`. -/
def set (key : String) (value : α) : Object α → Object α
  | [] => [(key, value)]
  | f :: obj => if f.1 = key then (key, value) :: obj else f :: set key value obj

/-- `{ ...obj, ...fields }`. -/
def spread (obj fields : Object α) : Object α := fields.foldl (fun acc f => acc.set f.1 f.2) obj

/-- `const { [keys]: _, ...rest } = obj`. -/
def without (keys : List String) (obj : Object α) : Object α := obj.filter fun f => f.1 ∉ keys

def keys (obj : Object α) : List String := obj.map (·.1)

/-- **What is left out may have been assigned.** -/
theorem without_set {keys : List String} {key : String} (hkey : key ∈ keys) (value : α)
    (obj : Object α) : (obj.set key value).without keys = obj.without keys := by
  induction obj with
  | nil => simp [set, without, hkey]
  | cons f obj ih =>
    unfold set
    by_cases hf : f.1 = key
    · rw [if_pos hf]
      simp [without, hf, hkey]
    · rw [if_neg hf]
      unfold without at ih ⊢
      rw [List.filter_cons, List.filter_cons, ih]

/-- **Leaving out keys that are not there changes nothing.** -/
theorem without_of_keys {keys : List String} {obj : Object α} (h : ∀ k ∈ obj.keys, k ∉ keys) :
    obj.without keys = obj := by
  unfold without
  rw [List.filter_eq_self]
  intro f hf
  exact decide_eq_true (h f.1 (List.mem_map_of_mem hf))

/-- The keys after an assignment. -/
theorem mem_keys_set {key : String} {value : α} {obj : Object α} {k : String} :
    k ∈ (obj.set key value).keys ↔ k = key ∨ k ∈ obj.keys := by
  induction obj with
  | nil => simp [set, keys]
  | cons f obj ih =>
    unfold set
    by_cases hf : f.1 = key
    · simp [keys, hf]
    · rw [if_neg hf]
      simp only [keys, List.map_cons, List.mem_cons] at ih ⊢
      rw [ih]
      tauto

@[simp] theorem get?_set_self (key : String) (value : α) (obj : Object α) :
    (obj.set key value).get? key = some value := by
  induction obj with
  | nil => simp [set, get?]
  | cons f obj ih =>
    unfold set
    by_cases hf : f.1 = key
    · rw [if_pos hf]
      simp [get?]
    · rw [if_neg hf]
      unfold get? at ih ⊢
      rw [List.find?_cons_of_neg (by simpa using hf)]
      exact ih

@[simp] theorem get?_set_of_ne {key other : String} (hne : other ≠ key) (value : α)
    (obj : Object α) : (obj.set key value).get? other = obj.get? other := by
  induction obj with
  | nil => simp [set, get?, hne.symm]
  | cons f obj ih =>
    unfold set
    by_cases hf : f.1 = key
    · rw [if_pos hf]
      have hother : f.1 ≠ other := fun h => hne (h.symm.trans hf)
      simp [get?, hne.symm, hother]
    · rw [if_neg hf]
      unfold get? at ih ⊢
      by_cases hother : f.1 = other
      · rw [List.find?_cons_of_pos (by simpa using hother),
          List.find?_cons_of_pos (by simpa using hother)]
      · rw [List.find?_cons_of_neg (by simpa using hother),
          List.find?_cons_of_neg (by simpa using hother)]
        exact ih

/-! ## Properties -/

theorem mem_set {obj : Object α} {key : String} {value : α} {f : String × α}
    (h : f ∈ obj.set key value) : f = (key, value) ∨ f ∈ obj := by
  induction obj with
  | nil => exact .inl (List.mem_singleton.mp h)
  | cons g obj ih =>
    unfold set at h
    by_cases hg : g.1 = key
    · rw [if_pos hg] at h
      rcases List.mem_cons.mp h with rfl | h
      · exact .inl rfl
      · exact .inr (List.mem_cons_of_mem g h)
    · rw [if_neg hg] at h
      rcases List.mem_cons.mp h with rfl | h
      · exact .inr List.mem_cons_self
      · exact (ih h).imp_right (List.mem_cons_of_mem g)

theorem mem_spread {obj fields : Object α} {f : String × α} (h : f ∈ obj.spread fields) :
    f ∈ fields ∨ f ∈ obj := by
  unfold spread at h
  induction fields generalizing obj with
  | nil => exact .inr h
  | cons g fields ih =>
    rcases ih h with h | h
    · exact .inl (List.mem_cons_of_mem g h)
    · rcases mem_set h with rfl | h
      · exact .inl List.mem_cons_self
      · exact .inr h

theorem mem_of_get? {obj : Object α} {key : String} {value : α} (h : obj.get? key = some value) :
    (key, value) ∈ obj := by
  unfold get? at h
  obtain ⟨f, hf, rfl⟩ := Option.map_eq_some_iff.mp h
  have hkey : f.1 = key := by simpa using List.find?_some hf
  exact hkey ▸ List.mem_of_find?_eq_some hf

theorem mem_keys_spread {obj fields : Object α} {k : String} :
    k ∈ (obj.spread fields).keys ↔ k ∈ fields.keys ∨ k ∈ obj.keys := by
  unfold spread
  induction fields generalizing obj with
  | nil => simp [keys]
  | cons f fields ih =>
    rw [List.foldl_cons, ih, mem_keys_set]
    simp only [keys, List.map_cons, List.mem_cons]
    tauto

/-- A property is there if and only if its key is. -/
theorem exists_get? {obj : Object α} {key : String} :
    (∃ value, obj.get? key = some value) ↔ key ∈ obj.keys := by
  constructor
  · rintro ⟨value, h⟩
    exact List.mem_map_of_mem (mem_of_get? h)
  · intro h
    obtain ⟨f, hf, hkey⟩ := List.mem_map.mp h
    have hfound : (obj.find? fun f => f.1 = key).isSome := by
      rw [List.find?_isSome]
      exact ⟨f, hf, by simpa using hkey⟩
    obtain ⟨g, hg⟩ := Option.isSome_iff_exists.mp hfound
    exact ⟨g.2, by simp [get?, hg]⟩

/-! ## Sorting the properties -/

/-- **Properties with distinct keys are in order in one way only.** -/
theorem eq_of_sorted_keys {κ : Type} {R : κ → κ → Prop}
    (hantisymm : ∀ {s t : κ}, R s t → R t s → s = t) {fields fields' : List (κ × α)}
    (hperm : fields.Perm fields') (hnodup : (fields.map Prod.fst).Nodup)
    (hsorted : fields.Pairwise fun f g => R f.1 g.1)
    (hsorted' : fields'.Pairwise fun f g => R f.1 g.1) : fields = fields' := by
  refine List.Perm.eq_of_pairwise (fun f g hf hg hfg hgf => ?_) hsorted hsorted' hperm
  exact List.inj_on_of_nodup_map hnodup hf (hperm.mem_iff.mpr hg) (hantisymm hfg hgf)

/-- Properties are sorted by their keys. -/
theorem pairwise_mergeSort_keys {κ : Type} (le : κ → κ → Bool)
    (htrans : ∀ {s t u : κ}, le s t = true → le t u = true → le s u = true)
    (htotal : ∀ s t : κ, (le s t || le t s) = true) (fields : List (κ × α)) :
    (fields.mergeSort fun f g => le f.1 g.1).Pairwise fun f g => le f.1 g.1 = true :=
  @List.pairwise_mergeSort _ (fun f g => le f.1 g.1) (fun _ _ _ => htrans)
    (fun f g => htotal f.1 g.1) fields

/-- **Properties with distinct keys are sorted in one way only.** -/
theorem mergeSort_keys_eq (le : String → String → Bool)
    (htrans : ∀ {s t u : String}, le s t = true → le t u = true → le s u = true)
    (htotal : ∀ s t : String, (le s t || le t s) = true)
    (hantisymm : ∀ {s t : String}, le s t = true → le t s = true → s = t) {obj obj' : Object α}
    (hperm : obj.Perm obj') (hnodup : obj.keys.Nodup) :
    (obj.mergeSort fun f g => le f.1 g.1) = obj'.mergeSort fun f g => le f.1 g.1 := by
  have hsorted := pairwise_mergeSort_keys (α := α) le htrans htotal
  have hleft := List.mergeSort_perm obj fun f g => le f.1 g.1
  have hright := List.mergeSort_perm obj' fun f g => le f.1 g.1
  have hkeys : ((obj.mergeSort fun f g => le f.1 g.1).map Prod.fst).Nodup :=
    (hleft.map Prod.fst).nodup_iff.mpr hnodup
  exact eq_of_sorted_keys hantisymm (hleft.trans (hperm.trans hright.symm)) hkeys (hsorted obj)
    (hsorted obj')

end Object

end Lib
