import Mathlib.Algebra.Order.BigOperators.Group.List
import Mathlib.Algebra.Order.Group.Int
import Mathlib.Data.List.Nodup
import Mathlib.Tactic.Abel

/-!
# Keyed tables

A table is a list of rows, oldest first, no two of which have the same key. That the keys are
distinct is part of the type, so a lookup is determined by membership and an update touches one
row.

The main results say what an insertion and an update do to lookups and to sums over the table:

* `find?_insert?`, `find?_modify`: lookups after a write;
* `sum_insert?`, `sum_modify`: a column's sum after a write, in any commutative group;
* `statusKept_modify`: an update of a row that is not terminal keeps the terminal rows;
* `rowsKept_insert?`, `rowsKept_modify`: rows stay in their places, with the columns no update writes;
* `sum_congr_off`: two columns that differ at one key differ by that row in their sums.
-/

set_option autoImplicit false

namespace Lib

universe u v w

/-- Rows in insertion order, no two of them with the same key. -/
structure Table {κ : Type u} {ρ : Type v} (key : ρ → κ) where
  rows : List ρ
  nodup : (rows.map key).Nodup

namespace Table

variable {κ : Type u} {ρ : Type v} {key : ρ → κ}

/-- The table with no rows. -/
def empty (key : ρ → κ) : Table key := ⟨[], List.nodup_nil⟩

@[simp] theorem rows_empty : (empty key).rows = [] := rfl

/-- The table with one row. -/
def singleton (key : ρ → κ) (row : ρ) : Table key := ⟨[row], List.nodup_singleton _⟩

/-- What `f` shows of every row; it shows the key. -/
def mapRows {ρ' : Type*} {key' : ρ' → κ} (t : Table key) (f : ρ → ρ')
    (hf : ∀ r, key' (f r) = key r) : Table key' where
  rows := t.rows.map f
  nodup := by
    have h : key' ∘ f = key := funext hf
    rw [List.map_map, h]
    exact t.nodup

/-! ## Sums -/

/-- The sum of a column. -/
def sum {M : Type w} [Zero M] [Add M] (t : Table key) (g : ρ → M) : M := (t.rows.map g).sum

@[simp] theorem sum_empty {M : Type w} [AddMonoid M] (g : ρ → M) : (empty key).sum g = 0 := rfl

theorem sum_congr {M : Type w} [AddMonoid M] {t : Table key} {g g' : ρ → M}
    (h : ∀ r ∈ t.rows, g r = g' r) : t.sum g = t.sum g' := by
  unfold sum
  rw [List.map_congr_left h]

theorem sum_add {M : Type w} [AddCommMonoid M] (t : Table key) (g g' : ρ → M) :
    (t.sum fun r => g r + g' r) = t.sum g + t.sum g' :=
  List.sum_map_add

theorem sum_le_sum {t : Table key} {g g' : ρ → ℤ} (h : ∀ r ∈ t.rows, g r ≤ g' r) :
    t.sum g ≤ t.sum g' :=
  List.sum_le_sum h

theorem sum_nonneg {t : Table key} {g : ρ → ℤ} (h : ∀ r ∈ t.rows, 0 ≤ g r) : 0 ≤ t.sum g := by
  refine List.sum_nonneg fun x hx => ?_
  obtain ⟨r, hr, rfl⟩ := List.mem_map.mp hx
  exact h r hr

/-- A column that is no larger anywhere is no larger without one of the rows. -/
theorem sum_sub_le_sum_sub {t : Table key} {r : ρ} (hr : r ∈ t.rows) {g g' : ρ → ℤ}
    (h : ∀ a ∈ t.rows, g' a ≤ g a) : t.sum g' - g' r ≤ t.sum g - g r := by
  have hsum : t.sum g = t.sum fun a => g' a + (g a - g' a) := sum_congr fun a _ => by omega
  rw [sum_add] at hsum
  have hsingle : g r - g' r ≤ t.sum fun a => g a - g' a := by
    refine List.single_le_sum (fun x hx => ?_) _ (List.mem_map_of_mem hr)
    obtain ⟨a, ha, rfl⟩ := List.mem_map.mp hx
    exact Int.sub_nonneg_of_le (h a ha)
  omega

/-- A list that names rows, none of them twice, adds up to no more than the column. -/
theorem sum_map_le_sum {β : Type w} {t : Table key} {items : List β} {name : β → Option κ}
    {h : β → ℤ} {g : ρ → ℤ} (hnodup : (items.map name).Nodup) (hg : ∀ r ∈ t.rows, 0 ≤ g r)
    (hitems : ∀ i ∈ items, ∃ r ∈ t.rows, name i = some (key r) ∧ h i ≤ g r) :
    (items.map h).sum ≤ t.sum g := by
  classical
  unfold sum
  generalize t.rows = rows at hg hitems ⊢
  induction items generalizing rows with
  | nil =>
    refine List.sum_nonneg fun x hx => ?_
    obtain ⟨r, hr, rfl⟩ := List.mem_map.mp hx
    exact hg r hr
  | cons i items ih =>
    obtain ⟨hfresh, hnodup⟩ := List.nodup_cons.mp hnodup
    obtain ⟨r, hr, hkey, hle⟩ := hitems i List.mem_cons_self
    have hrest := ih hnodup (rows.erase r) (fun r' hr' => hg r' (List.mem_of_mem_erase hr'))
      fun j hj => by
        obtain ⟨r', hr', hkey', hle'⟩ := hitems j (List.mem_cons_of_mem i hj)
        have hne : r' ≠ r := by
          rintro rfl
          exact hfresh (hkey.trans hkey'.symm ▸ List.mem_map_of_mem hj)
        exact ⟨r', (List.mem_erase_of_ne hne).mpr hr', hkey', hle'⟩
    have hperm := ((List.perm_cons_erase hr).map g).sum_eq
    rw [hperm]
    exact add_le_add hle hrest

/-! ## Writes -/

variable [DecidableEq κ]

/-- The row with key `k`. -/
def find? (t : Table key) (k : κ) : Option ρ := t.rows.find? fun r => key r = k

/-- Append a row, unless its key is taken. -/
def insert? (t : Table key) (r : ρ) : Option (Table key) :=
  if h : key r ∈ t.rows.map key then none
  else some ⟨t.rows ++ [r], by
    rw [List.map_append, List.map_singleton]
    refine List.nodup_append.mpr ⟨t.nodup, by simp, fun a ha b hb hab => ?_⟩
    rw [List.mem_singleton] at hb
    exact h (hb ▸ hab ▸ ha)⟩

/-- Apply `f` to the row with key `k`; `f` may not change keys. -/
def modify (t : Table key) (k : κ) (f : ρ → ρ) (hf : ∀ r, key (f r) = key r) : Table key where
  rows := t.rows.map fun r => if key r = k then f r else r
  nodup := by
    have h : (key ∘ fun r => if key r = k then f r else r) = key := by
      funext r
      simp only [Function.comp_apply]
      split_ifs with hr
      · exact hf r
      · rfl
    rw [List.map_map, h]
    exact t.nodup

/-- Remove the row with key `k`. -/
def erase (t : Table key) (k : κ) : Table key where
  rows := t.rows.filter fun r => key r ≠ k
  nodup := t.nodup.sublist (List.filter_sublist.map key)

/-! ## Lookups -/

theorem find?_eq_some {t : Table key} {k : κ} {r : ρ} :
    t.find? k = some r ↔ r ∈ t.rows ∧ key r = k := by
  unfold find?
  constructor
  · intro h
    exact ⟨List.mem_of_find?_eq_some h, by simpa using List.find?_some h⟩
  · rintro ⟨hr, rfl⟩
    cases h : t.rows.find? fun a => key a = key r with
    | none => simpa using List.find?_eq_none.mp h r hr
    | some a =>
      have hk : key a = key r := by simpa using List.find?_some h
      rw [List.inj_on_of_nodup_map t.nodup (List.mem_of_find?_eq_some h) hr hk]

theorem find?_eq_none {t : Table key} {k : κ} : t.find? k = none ↔ ∀ r ∈ t.rows, key r ≠ k := by
  simp [find?]

theorem key_of_find? {t : Table key} {k : κ} {r : ρ} (h : t.find? k = some r) : key r = k :=
  (find?_eq_some.mp h).2

theorem mem_of_find? {t : Table key} {k : κ} {r : ρ} (h : t.find? k = some r) : r ∈ t.rows :=
  (find?_eq_some.mp h).1

theorem find?_key_of_mem {t : Table key} {r : ρ} (h : r ∈ t.rows) : t.find? (key r) = some r :=
  find?_eq_some.mpr ⟨h, rfl⟩

@[simp] theorem find?_empty (k : κ) : (empty key).find? k = none := rfl

theorem insert?_eq_some {t t' : Table key} {r : ρ} (h : t.insert? r = some t') :
    t'.rows = t.rows ++ [r] ∧ t.find? (key r) = none := by
  unfold insert? at h
  split_ifs at h with hk
  simp only [Option.some.injEq] at h
  subst h
  refine ⟨rfl, find?_eq_none.mpr fun a ha hak => hk (hak ▸ List.mem_map_of_mem ha)⟩

/-- A key is refused because a row has it. -/
theorem insert?_eq_none {t : Table key} {r : ρ} (h : t.insert? r = none) :
    ∃ a ∈ t.rows, key a = key r := by
  unfold insert? at h
  split_ifs at h with hk
  exact List.mem_map.mp hk

theorem exists_insert? {t : Table key} {r : ρ} (h : t.find? (key r) = none) :
    ∃ t', t.insert? r = some t' := by
  have hk : key r ∉ t.rows.map key := fun hmem => by
    obtain ⟨a, ha, hak⟩ := List.mem_map.mp hmem
    exact find?_eq_none.mp h a ha hak
  exact ⟨_, dif_neg hk⟩

theorem find?_insert? {t t' : Table key} {r : ρ} (h : t.insert? r = some t') (k : κ) :
    t'.find? k = if key r = k then some r else t.find? k := by
  obtain ⟨hrows, hnone⟩ := insert?_eq_some h
  split_ifs with hk
  · exact find?_eq_some.mpr ⟨by simp [hrows], hk⟩
  · simp [find?, hrows, List.find?_append, hk]

/-- A row stays where it is when another is inserted. -/
theorem find?_insert?_of_some {t t' : Table key} {r a : ρ} (h : t.insert? r = some t') {k : κ}
    (ha : t.find? k = some a) : t'.find? k = some a := by
  rw [find?_insert? h, if_neg, ha]
  rintro rfl
  rw [(insert?_eq_some h).2] at ha
  cases ha

theorem find?_modify (t : Table key) (k : κ) (f : ρ → ρ) (hf : ∀ r, key (f r) = key r) (j : κ) :
    (t.modify k f hf).find? j = if j = k then (t.find? k).map f else t.find? j := by
  have hcomp : ((fun r => decide (key r = j)) ∘ fun r => if key r = k then f r else r) =
      fun r => decide (key r = j) := by
    funext r
    simp only [Function.comp_apply]
    split_ifs <;> simp [hf]
  unfold find? modify
  rw [List.find?_map, hcomp]
  split_ifs with hj
  · subst hj
    cases h : t.rows.find? (fun r => decide (key r = j)) with
    | none => rfl
    | some r =>
      have hr : key r = j := by simpa using List.find?_some h
      simp [hr]
  · cases h : t.rows.find? (fun r => decide (key r = j)) with
    | none => rfl
    | some r =>
      have hr : key r = j := by simpa using List.find?_some h
      have hne : key r ≠ k := hr ▸ hj
      simp [hne]

theorem find?_mapRows {ρ' : Type*} {key' : ρ' → κ} (t : Table key) (f : ρ → ρ')
    (hf : ∀ r, key' (f r) = key r) (k : κ) : (t.mapRows f hf).find? k = (t.find? k).map f := by
  have h : (fun r => decide (key' r = k)) ∘ f = fun r => decide (key r = k) :=
    funext fun r => by simp [hf r]
  unfold find? mapRows
  rw [List.find?_map, h]

/-- A search that the update cannot influence finds the same row, as updated. -/
theorem find?_rows_modify (t : Table key) (k : κ) (f : ρ → ρ) (hf : ∀ r, key (f r) = key r)
    {p : ρ → Bool} (hp : ∀ r, p (f r) = p r) :
    (t.modify k f hf).rows.find? p = (t.rows.find? p).map fun r => if key r = k then f r else r := by
  have hcomp : (p ∘ fun r => if key r = k then f r else r) = p := by
    funext r
    simp only [Function.comp_apply]
    split_ifs
    · exact hp r
    · rfl
  rw [modify, List.find?_map, hcomp]

/-- A search that finds the row neither before nor after its update is not affected by it. -/
theorem find?_rows_modify_of_not (t : Table key) (f : ρ → ρ) (hf : ∀ r, key (f r) = key r) {r : ρ}
    (hr : r ∈ t.rows) {p : ρ → Bool} (hp : p r = false) (hp' : p (f r) = false) :
    (t.modify (key r) f hf).rows.find? p = t.rows.find? p := by
  have hrow {a : ρ} (ha : a ∈ t.rows) (hk : key a = key r) : a = r :=
    List.inj_on_of_nodup_map t.nodup ha hr hk
  unfold modify
  simp only
  generalize t.rows = rows at hrow
  induction rows with
  | nil => rfl
  | cons a rows ih =>
    have ih := ih fun ha hk => hrow (List.mem_cons_of_mem _ ha) hk
    rw [List.map_cons, List.find?_cons, List.find?_cons, ih]
    by_cases hk : key a = key r
    · obtain rfl := hrow List.mem_cons_self hk
      simp [hp, hp']
    · rw [if_neg hk]

theorem mem_modify {t : Table key} {k : κ} {f : ρ → ρ} {hf : ∀ r, key (f r) = key r} {a : ρ} :
    a ∈ (t.modify k f hf).rows ↔
      (a ∈ t.rows ∧ key a ≠ k) ∨ ∃ r, t.find? k = some r ∧ a = f r := by
  simp only [modify, List.mem_map]
  constructor
  · rintro ⟨r, hr, rfl⟩
    by_cases hk : key r = k
    · exact .inr ⟨r, find?_eq_some.mpr ⟨hr, hk⟩, by simp [hk]⟩
    · exact .inl ⟨by simpa [hk] using hr, by simp [hk]⟩
  · rintro (⟨ha, hk⟩ | ⟨r, hr, rfl⟩)
    · exact ⟨a, ha, by simp [hk]⟩
    · exact ⟨r, mem_of_find? hr, by simp [key_of_find? hr]⟩

/-- A property of all rows is kept when the rewritten row has it. -/
theorem forall_modify {t : Table key} {k : κ} {f : ρ → ρ} (hf : ∀ r, key (f r) = key r) {r : ρ}
    {P : ρ → Prop} (h : ∀ a ∈ t.rows, P a) (hr : t.find? k = some r) (hP : P (f r)) :
    ∀ a ∈ (t.modify k f hf).rows, P a := by
  intro a ha
  rcases mem_modify.mp ha with ⟨ha, -⟩ | ⟨b, hb, rfl⟩
  · exact h a ha
  · rw [hr] at hb
    cases hb
    exact hP

/-- A property of all rows is kept when the new row has it. -/
theorem forall_insert? {t t' : Table key} {r : ρ} {P : ρ → Prop} (h : ∀ a ∈ t.rows, P a)
    (ht : t.insert? r = some t') (hP : P r) : ∀ a ∈ t'.rows, P a := by
  intro a ha
  rw [(insert?_eq_some ht).1] at ha
  rcases List.mem_append.mp ha with ha | ha
  · exact h a ha
  · rw [List.mem_singleton.mp ha]
    exact hP

/-- A row with a property stays, or is rewritten to one. -/
theorem exists_modify {t : Table key} {k : κ} {f : ρ → ρ} (hf : ∀ r, key (f r) = key r)
    {P : ρ → Prop} (hP : ∀ r, P r → P (f r)) (h : ∃ a ∈ t.rows, P a) :
    ∃ a ∈ (t.modify k f hf).rows, P a := by
  obtain ⟨a, ha, hPa⟩ := h
  refine ⟨if key a = k then f a else a, List.mem_map_of_mem ha, ?_⟩
  split_ifs
  · exact hP a hPa
  · exact hPa

/-- A row with a property stays when another is inserted. -/
theorem exists_insert {t t' : Table key} {r : ρ} {P : ρ → Prop} (ht : t.insert? r = some t')
    (h : ∃ a ∈ t.rows, P a) : ∃ a ∈ t'.rows, P a := by
  obtain ⟨a, ha, hPa⟩ := h
  rw [(insert?_eq_some ht).1]
  exact ⟨a, List.mem_append_left _ ha, hPa⟩

/-! ## Sums after a write -/

theorem sum_insert? {M : Type w} [AddCommMonoid M] {t t' : Table key} {r : ρ}
    (h : t.insert? r = some t') (g : ρ → M) : t'.sum g = t.sum g + g r := by
  unfold sum
  rw [(insert?_eq_some h).1]
  simp

/-- Two columns that agree off the key `k` differ in their sums by the row with key `k`. -/
theorem sum_congr_off {M : Type w} [AddCommGroup M] {t : Table key} {k : κ} {r : ρ}
    (h : t.find? k = some r) {g g' : ρ → M} (hg : ∀ a ∈ t.rows, key a ≠ k → g' a = g a) :
    t.sum g' = t.sum g - g r + g' r := by
  obtain ⟨hr, rfl⟩ := find?_eq_some.mp h
  obtain ⟨rows, nodup⟩ := t
  unfold sum
  simp only at hr hg ⊢
  clear h
  induction rows with
  | nil => simp at hr
  | cons a rows ih =>
    rw [List.map_cons, List.nodup_cons] at nodup
    rw [List.map_cons, List.map_cons, List.sum_cons, List.sum_cons]
    rcases List.mem_cons.mp hr with rfl | hr
    · have hrest : rows.map g' = rows.map g := List.map_congr_left fun b hb =>
        hg b (List.mem_cons_of_mem _ hb) fun hk => nodup.1 (hk ▸ List.mem_map_of_mem hb)
      rw [hrest]
      abel
    · have hne : key a ≠ key r := fun hk => nodup.1 (hk ▸ List.mem_map_of_mem hr)
      rw [ih nodup.2 hr (fun b hb => hg b (List.mem_cons_of_mem _ hb)),
        hg a List.mem_cons_self hne]
      abel

theorem sum_modify_eq {M : Type w} [AddCommMonoid M] (t : Table key) (k : κ) (f : ρ → ρ)
    (hf : ∀ r, key (f r) = key r) (g : ρ → M) :
    (t.modify k f hf).sum g = t.sum fun r => g (if key r = k then f r else r) := by
  simp [sum, modify, List.map_map, Function.comp_def]

theorem sum_modify {M : Type w} [AddCommGroup M] {t : Table key} {k : κ} {r : ρ}
    (h : t.find? k = some r) (f : ρ → ρ) (hf : ∀ r, key (f r) = key r) (g : ρ → M) :
    (t.modify k f hf).sum g = t.sum g - g r + g (f r) := by
  rw [sum_modify_eq, sum_congr_off h (g := g) fun a _ ha => by simp [ha]]
  simp [key_of_find? h]

/-- An update that leaves a column as it is leaves its sum as it is. -/
theorem sum_modify_of_eq {M : Type w} [AddCommMonoid M] (t : Table key) (k : κ) (f : ρ → ρ)
    (hf : ∀ r, key (f r) = key r) {g : ρ → M} (hg : ∀ r, g (f r) = g r) :
    (t.modify k f hf).sum g = t.sum g := by
  rw [sum_modify_eq]
  refine sum_congr fun r _ => ?_
  split_ifs
  · exact hg r
  · rfl

/-! ## Terminal rows -/

/-- A row whose status is terminal is still there, with the same status. -/
def StatusKept {τ : Type w} (status : ρ → τ) (terminal : τ → Prop) (t t' : Table key) : Prop :=
  ∀ k r, t.find? k = some r → terminal (status r) →
    ∃ r', t'.find? k = some r' ∧ status r' = status r

section

variable {τ : Type w} {status : ρ → τ} {terminal : τ → Prop} {t t' t'' : Table key}

theorem StatusKept.refl (t : Table key) : StatusKept status terminal t t :=
  fun _ r hr _ => ⟨r, hr, rfl⟩

theorem StatusKept.trans (h : StatusKept status terminal t t')
    (h' : StatusKept status terminal t' t'') : StatusKept status terminal t t'' := by
  intro k r hr hterminal
  obtain ⟨r', hr', hstatus⟩ := h k r hr hterminal
  obtain ⟨r'', hr'', hstatus'⟩ := h' k r' hr' (hstatus.symm ▸ hterminal)
  exact ⟨r'', hr'', hstatus'.trans hstatus⟩

theorem statusKept_insert? {r : ρ} (h : t.insert? r = some t') : StatusKept status terminal t t' :=
  fun _ a ha _ => ⟨a, find?_insert?_of_some h ha, rfl⟩

/-- An update keeps the terminal rows unless its own row is one and gets another status. -/
theorem statusKept_modify {k : κ} {f : ρ → ρ} (hf : ∀ r, key (f r) = key r)
    (h : ∀ r, t.find? k = some r → terminal (status r) → status (f r) = status r) :
    StatusKept status terminal t (t.modify k f hf) := by
  intro j r hr hterminal
  rw [find?_modify]
  by_cases hj : j = k
  · subst hj
    rw [if_pos rfl, hr]
    exact ⟨f r, rfl, h r hr hterminal⟩
  · rw [if_neg hj]
    exact ⟨r, hr, rfl⟩

end

/-! ## Statuses that no row comes to have -/

/-- A row whose status is of the kind had that status before. -/
def NoneBecomes {τ : Type w} (status : ρ → τ) (kind : τ → Prop) (t t' : Table key) : Prop :=
  ∀ k r, t'.find? k = some r → kind (status r) → ∃ a, t.find? k = some a ∧ status a = status r

section

variable {τ : Type w} {status : ρ → τ} {kind : τ → Prop} {t t' t'' : Table key}

theorem NoneBecomes.refl (t : Table key) : NoneBecomes status kind t t :=
  fun _ r hr _ => ⟨r, hr, rfl⟩

theorem NoneBecomes.trans (h : NoneBecomes status kind t t') (h' : NoneBecomes status kind t' t'') :
    NoneBecomes status kind t t'' := by
  intro k r hr hkind
  obtain ⟨a, ha, hstatus⟩ := h' k r hr hkind
  obtain ⟨b, hb, hstatus'⟩ := h k a ha (hstatus.symm ▸ hkind)
  exact ⟨b, hb, hstatus'.trans hstatus⟩

theorem noneBecomes_insert? {r : ρ} (h : t.insert? r = some t') (hr : ¬kind (status r)) :
    NoneBecomes status kind t t' := by
  intro k a ha hkind
  rw [find?_insert? h] at ha
  split_ifs at ha
  · rw [Option.some.injEq] at ha
    exact absurd (ha ▸ hkind) hr
  · exact ⟨a, ha, rfl⟩

/-- An update that writes a status of the kind wrote the status its row had. -/
theorem noneBecomes_modify {k : κ} {f : ρ → ρ} (hf : ∀ r, key (f r) = key r)
    (h : ∀ r, t.find? k = some r → kind (status (f r)) → status r = status (f r)) :
    NoneBecomes status kind t (t.modify k f hf) := by
  intro j r hr hkind
  rw [find?_modify] at hr
  split_ifs at hr with hj
  · subst hj
    obtain ⟨a, ha, rfl⟩ := Option.map_eq_some_iff.mp hr
    exact ⟨a, ha, h a ha hkind⟩
  · exact ⟨r, hr, rfl⟩

end

/-! ## Rows that stay -/

/-- The rows are still there, in their places and with the same columns. Others may follow. -/
def RowsKept {τ : Type w} (columns : ρ → τ) (t t' : Table key) : Prop :=
  t.rows.map columns <+: t'.rows.map columns

section

variable {τ : Type w} {columns : ρ → τ} {t t' t'' : Table key}

omit [DecidableEq κ]

theorem RowsKept.refl (t : Table key) : RowsKept columns t t := List.prefix_refl _

theorem RowsKept.trans (h : RowsKept columns t t') (h' : RowsKept columns t' t'') :
    RowsKept columns t t'' :=
  List.IsPrefix.trans h h'

/-- A property of the columns that some row has, some row still has. -/
theorem RowsKept.exists {P : τ → Prop} (h : RowsKept columns t t')
    (hr : ∃ r ∈ t.rows, P (columns r)) : ∃ r ∈ t'.rows, P (columns r) := by
  obtain ⟨r, hr, hP⟩ := hr
  obtain ⟨a, ha, heq⟩ := List.mem_map.mp (h.subset (List.mem_map_of_mem hr))
  exact ⟨a, ha, heq ▸ hP⟩

end

theorem rowsKept_insert? {τ : Type w} {columns : ρ → τ} {t t' : Table key} {r : ρ}
    (h : t.insert? r = some t') : RowsKept columns t t' := by
  unfold RowsKept
  rw [(insert?_eq_some h).1, List.map_append]
  exact List.prefix_append _ _

theorem rowsKept_modify {τ : Type w} {columns : ρ → τ} (t : Table key) (k : κ) {f : ρ → ρ}
    (hf : ∀ r, key (f r) = key r) (h : ∀ r, columns (f r) = columns r) :
    RowsKept columns t (t.modify k f hf) := by
  have hcolumns : (columns ∘ fun r => if key r = k then f r else r) = columns := by
    funext r
    simp only [Function.comp_apply]
    split_ifs
    · exact h r
    · rfl
  have hrows : (t.modify k f hf).rows.map columns = t.rows.map columns := by
    unfold modify
    rw [List.map_map, hcolumns]
  unfold RowsKept
  exact hrows.symm ▸ List.prefix_refl _

/-! ## Columns that no update writes -/

/-- Every row has the columns of an earlier one. -/
def ColumnsFrom {τ : Type w} (columns : ρ → τ) (t t' : Table key) : Prop :=
  ∀ r ∈ t'.rows, ∃ a ∈ t.rows, columns a = columns r

section

variable {τ : Type w} {columns : ρ → τ} {t : Table key}

omit [DecidableEq κ] in
theorem ColumnsFrom.refl (t : Table key) : ColumnsFrom columns t t := fun r hr => ⟨r, hr, rfl⟩

theorem columnsFrom_modify {k : κ} {f : ρ → ρ} (hf : ∀ r, key (f r) = key r)
    (h : ∀ r, columns (f r) = columns r) : ColumnsFrom columns t (t.modify k f hf) := by
  intro a ha
  rcases mem_modify.mp ha with ⟨ha, -⟩ | ⟨r, hr, rfl⟩
  · exact ⟨a, ha, rfl⟩
  · exact ⟨r, mem_of_find? hr, (h r).symm⟩

end

end Table

end Lib
