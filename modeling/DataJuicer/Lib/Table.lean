import Mathlib.Data.List.Basic
import Mathlib.Data.List.Nodup
import Mathlib.Data.List.Perm.Lattice

/-! # Tables with a primary key

A table is a list of rows in insertion order whose keys are pairwise distinct. The
operations are those of a relational statement: select, update and delete by a predicate,
and an insert that fails when the key is taken.
-/

universe u v

namespace DataJuicer

/-- Rows of type `ρ` carry a primary key in `κ`. -/
class Keyed (ρ : Type u) (κ : outParam (Type v)) where
  key : ρ → κ

export Keyed (key)

/-- A finite set of rows with distinct keys, in insertion order. -/
structure Table (ρ : Type u) {κ : Type v} [Keyed ρ κ] where
  rows : List ρ
  nodup_keys : (rows.map key).Nodup

namespace Table

variable {ρ : Type u} {κ : Type v} [Keyed ρ κ]

instance : Membership ρ (Table ρ) := ⟨fun t r => r ∈ t.rows⟩

instance (t : Table ρ) (p : ρ → Prop) [DecidablePred p] : Decidable (∃ r ∈ t, p r) :=
  inferInstanceAs (Decidable (∃ r ∈ t.rows, p r))

instance (t : Table ρ) (p : ρ → Prop) [DecidablePred p] : Decidable (∀ r ∈ t, p r) :=
  inferInstanceAs (Decidable (∀ r ∈ t.rows, p r))

@[simp] theorem mem_rows {t : Table ρ} {r : ρ} : r ∈ t.rows ↔ r ∈ t := Iff.rfl

theorem eq_of_key {t : Table ρ} {r s : ρ} (hr : r ∈ t) (hs : s ∈ t) (h : key r = key s) :
    r = s :=
  List.inj_on_of_nodup_map t.nodup_keys hr hs h

def empty : Table ρ := ⟨[], by simp⟩

@[simp] theorem not_mem_empty (r : ρ) : r ∉ (empty : Table ρ) := List.not_mem_nil

/-- The rows a `WHERE` clause selects. -/
def select (t : Table ρ) (p : ρ → Prop) [DecidablePred p] : List ρ := t.rows.filter p

@[simp] theorem mem_select {t : Table ρ} {p : ρ → Prop} [DecidablePred p] {r : ρ} :
    r ∈ t.select p ↔ r ∈ t ∧ p r := by
  simp [select]

/-- How many rows a statement with this `WHERE` clause touches. -/
def rowcount (t : Table ρ) (p : ρ → Prop) [DecidablePred p] : ℕ := (t.select p).length

theorem select_eq_singleton {t : Table ρ} {p : ρ → Prop} [DecidablePred p] {r : ρ}
    (hr : r ∈ t) (hp : p r) (hk : ∀ s ∈ t, p s → key s = key r) : t.select p = [r] := by
  have hsub : (t.select p).Nodup := (List.Nodup.of_map _ t.nodup_keys).filter _
  refine List.perm_singleton.1 ((List.perm_ext_iff_of_nodup hsub (by simp)).2 fun s => ?_)
  rw [mem_select, List.mem_singleton]
  refine ⟨fun h => eq_of_key h.1 hr (hk s h.1 h.2), ?_⟩
  rintro rfl
  exact ⟨hr, hp⟩

/-- A statement that fixes the key touches one row exactly when some row meets its clause. -/
theorem rowcount_eq_one_iff {t : Table ρ} {p : ρ → Prop} [DecidablePred p] {k : κ}
    (hk : ∀ s ∈ t, p s → key s = k) : t.rowcount p = 1 ↔ ∃ r ∈ t, p r := by
  refine ⟨fun h => ?_, fun ⟨r, hr, hp⟩ => ?_⟩
  · obtain ⟨r, hr⟩ := List.length_eq_one_iff.1 h
    exact ⟨r, mem_select.1 (hr ▸ List.mem_singleton_self r)⟩
  · have hs := select_eq_singleton hr hp fun s hs h => (hk s hs h).trans (hk r hr hp).symm
    simp [rowcount, hs]

/-- `SELECT` by primary key. -/
def find? [DecidableEq κ] (t : Table ρ) (k : κ) : Option ρ := t.rows.find? fun r => key r = k

theorem find?_eq_some_iff [DecidableEq κ] {t : Table ρ} {k : κ} {r : ρ} :
    t.find? k = some r ↔ r ∈ t ∧ key r = k := by
  refine ⟨fun h => ⟨List.mem_of_find?_eq_some h, by simpa using List.find?_some h⟩, ?_⟩
  rintro ⟨hr, rfl⟩
  cases hf : t.find? (key r) with
  | none => exact absurd hr fun hr => by simpa using List.find?_eq_none.1 hf r hr
  | some s =>
    have hs : key s = key r := by simpa using List.find?_some hf
    rw [eq_of_key (List.mem_of_find?_eq_some hf) hr hs]

theorem find?_eq_none_iff [DecidableEq κ] {t : Table ρ} {k : κ} :
    t.find? k = none ↔ ∀ r ∈ t, key r ≠ k := by
  simp [find?, List.find?_eq_none]

/-- The key is kept by a function that writes only other columns. -/
theorem key_self (r : ρ) : key r = key r := rfl

/-- `UPDATE` of the rows that meet `p`; an update never changes a key. -/
def update (t : Table ρ) (p : ρ → Prop) [DecidablePred p] (f : ρ → ρ)
    (hf : ∀ r, key (f r) = key r := by exact fun _ => rfl) : Table ρ where
  rows := t.rows.map fun r => if p r then f r else r
  nodup_keys := by
    have h : ((t.rows.map fun r => if p r then f r else r).map key) = t.rows.map key := by
      rw [List.map_map]
      refine List.map_congr_left fun r _ => ?_
      by_cases hp : p r <;> simp [hp, hf]
    exact h ▸ t.nodup_keys

section Update

variable {t : Table ρ} {p : ρ → Prop} [DecidablePred p] {f : ρ → ρ}
  {hf : ∀ r, key (f r) = key r}

theorem mem_update {s : ρ} :
    s ∈ t.update p f hf ↔ ∃ r ∈ t, (if p r then f r else r) = s :=
  List.mem_map

theorem mem_update_cases {s : ρ} (h : s ∈ t.update p f hf) :
    s ∈ t ∧ ¬ p s ∨ ∃ r ∈ t, p r ∧ s = f r := by
  obtain ⟨r, hr, rfl⟩ := mem_update.1 h
  by_cases hp : p r
  · exact .inr ⟨r, hr, hp, by simp [hp]⟩
  · exact .inl (by simpa [hp] using hr)

/-- The rows of an update, as they are computed. -/
theorem mem_of_rows_map {t' : Table ρ} {s : ρ}
    (h : t'.rows = t.rows.map fun r => if p r then f r else r) (hs : s ∈ t') :
    s ∈ t ∧ ¬ p s ∨ ∃ r ∈ t, p r ∧ s = f r := by
  change s ∈ t'.rows at hs
  rw [h] at hs
  obtain ⟨r, hr, rfl⟩ := List.mem_map.1 hs
  by_cases hp : p r
  · exact .inr ⟨r, hr, hp, if_pos hp⟩
  · exact .inl (by rw [if_neg hp]; exact ⟨hr, hp⟩)

theorem mem_of_map_mem {t' : Table ρ} {g : ρ → ρ} {r : ρ} (h : t'.rows = t.rows.map g)
    (hr : r ∈ t) : g r ∈ t' := by
  change g r ∈ t'.rows
  rw [h]
  exact List.mem_map_of_mem hr

theorem forall_mem_update {q : ρ → Prop} :
    (∀ s ∈ t.update p f hf, q s) ↔ ∀ r ∈ t, q (if p r then f r else r) := by
  simp [mem_update]

theorem mem_update_of_not {r : ρ} (hr : r ∈ t) (hp : ¬ p r) : r ∈ t.update p f hf :=
  mem_update.2 ⟨r, hr, by simp [hp]⟩

theorem mem_update_of {r : ρ} (hr : r ∈ t) (hp : p r) : f r ∈ t.update p f hf :=
  mem_update.2 ⟨r, hr, by simp [hp]⟩

/-- An update depends on its clause only as far as the rows of the table go. -/
theorem update_congr {q : ρ → Prop} [DecidablePred q] (h : ∀ r ∈ t, p r ↔ q r) :
    t.update p f hf = t.update q f hf := by
  have hrows : (t.rows.map fun r => if p r then f r else r) =
      t.rows.map fun r => if q r then f r else r := by
    refine List.map_congr_left fun r hr => ?_
    simp only [h r hr]
  unfold update
  congr 1

theorem update_eq_self (h : ∀ r ∈ t, ¬ p r) : t.update p f hf = t := by
  have hrows : (t.rows.map fun r => if p r then f r else r) = t.rows := by
    conv_rhs => rw [← List.map_id t.rows]
    exact List.map_congr_left fun r hr => by simp [h r hr]
  cases t
  simpa [update] using hrows

/-- Two updates of different rows are one. -/
theorem update_update {q : ρ → Prop} [DecidablePred q] (h : ∀ r ∈ t, p r → ¬ q (f r)) :
    (t.update p f hf).update q f hf = t.update (fun r => p r ∨ q r) f hf := by
  have hrows : (t.rows.map fun r => if p r then f r else r).map (fun r => if q r then f r else r) =
      t.rows.map fun r => if p r ∨ q r then f r else r := by
    rw [List.map_map]
    refine List.map_congr_left fun r hr => ?_
    by_cases hp : p r
    · simp [hp, h r hr hp]
    · simp [hp]
  simp only [update, hrows]

theorem find?_update [DecidableEq κ] (k : κ) :
    (t.update p f hf).find? k = (t.find? k).map fun r => if p r then f r else r := by
  cases h : t.find? k with
  | none =>
    refine find?_eq_none_iff.2 (forall_mem_update.2 fun r hr => ?_)
    have := find?_eq_none_iff.1 h r hr
    by_cases hp : p r <;> simpa [hp, hf] using this
  | some r =>
    obtain ⟨hr, rfl⟩ := find?_eq_some_iff.1 h
    refine find?_eq_some_iff.2 ⟨mem_update.2 ⟨r, hr, rfl⟩, ?_⟩
    by_cases hp : p r <;> simp [hp, hf]

theorem select_update {q : ρ → Prop} [DecidablePred q] (hq : ∀ r, q (f r) ↔ q r) :
    (t.update p f hf).select q = (t.select q).map fun r => if p r then f r else r := by
  simp only [select, update, List.filter_map]
  congr 1
  refine List.filter_congr fun r _ => ?_
  by_cases hp : p r <;> simp [hp, hq]

theorem map_select_update {α : Type*} {q : ρ → Prop} [DecidablePred q] {g : ρ → α} {F : α → α}
    (hq : ∀ r, q (f r) ↔ q r) (h : ∀ r ∈ t, q r → g (if p r then f r else r) = F (g r)) :
    ((t.update p f hf).select q).map g = ((t.select q).map g).map F := by
  rw [select_update hq, List.map_map, List.map_map]
  refine List.map_congr_left fun r hr => ?_
  obtain ⟨hr, hqr⟩ := mem_select.1 hr
  exact h r hr hqr

/-- An update of other rows, or of columns that the projection leaves out. -/
theorem map_select_update_eq {α : Type*} {q : ρ → Prop} [DecidablePred q] {g : ρ → α}
    (hq : ∀ r, q (f r) ↔ q r) (h : ∀ r ∈ t, q r → p r → g (f r) = g r) :
    ((t.update p f hf).select q).map g = (t.select q).map g := by
  have hid : ∀ r ∈ t, q r → g (if p r then f r else r) = id (g r) := by
    intro r hr hqr
    by_cases hp : p r
    · simp [hp, h r hr hqr hp]
    · simp [hp]
  rw [map_select_update hq hid, List.map_id]

/-- An update of rows that refer to `k` is seen in the rows that refer to `k` only. -/
theorem map_select_update_ref {α β : Type*} [DecidableEq β] {ref : ρ → β} {g : ρ → α}
    {F : α → α} {k : β} (href : ∀ x, ref (f x) = ref x) (hp : ∀ x ∈ t, p x → ref x = k)
    (h : ∀ x ∈ t, ref x = k → g (if p x then f x else x) = F (g x)) (b : β) :
    ((t.update p f hf).select fun x => ref x = b).map g =
      if b = k then ((t.select fun x => ref x = b).map g).map F
      else (t.select fun x => ref x = b).map g := by
  have hq : ∀ x, ref (f x) = b ↔ ref x = b := fun x => by rw [href]
  by_cases hb : b = k
  · rw [if_pos hb]
    exact map_select_update hq fun x hx hxb => h x hx (hxb.trans hb)
  · rw [if_neg hb]
    exact map_select_update_eq hq fun x hx hxb hpx => absurd (hxb.symm.trans (hp x hx hpx)) hb

theorem map_find?_update [DecidableEq κ] {α : Type*} {g : ρ → α} {F : α → α} {k : κ}
    (h : ∀ r ∈ t, key r = k → g (if p r then f r else r) = F (g r)) :
    ((t.update p f hf).find? k).map g = ((t.find? k).map g).map F := by
  rw [find?_update]
  cases hr : t.find? k with
  | none => rfl
  | some r =>
    obtain ⟨hmem, hk⟩ := find?_eq_some_iff.1 hr
    exact congrArg some (h r hmem hk)

theorem map_find?_update_ref [DecidableEq κ] {α : Type*} {g : ρ → α} {F : α → α} {k : κ}
    (hp : ∀ x ∈ t, p x → key x = k)
    (h : ∀ x ∈ t, key x = k → g (if p x then f x else x) = F (g x)) (b : κ) :
    ((t.update p f hf).find? b).map g =
      if b = k then ((t.find? b).map g).map F else (t.find? b).map g := by
  by_cases hb : b = k
  · rw [if_pos hb]
    exact map_find?_update fun x hx hxb => h x hx (hxb.trans hb)
  · rw [if_neg hb, find?_update]
    cases hx : t.find? b with
    | none => rfl
    | some x =>
      obtain ⟨hmem, rfl⟩ := find?_eq_some_iff.1 hx
      have hnot : ¬ p x := fun hpx => hb (hp x hmem hpx)
      simp [hnot]

theorem find?_update_cases [DecidableEq κ] (k : κ) (hf : ∀ r, key (f r) = key r) :
    (t.update p f hf).find? k = t.find? k ∨
      ∃ r, t.find? k = some r ∧ p r ∧ (t.update p f hf).find? k = some (f r) := by
  rw [find?_update]
  cases h : t.find? k with
  | none => exact .inl rfl
  | some r =>
    by_cases hp : p r
    · exact .inr ⟨r, rfl, hp, by simp [hp]⟩
    · exact .inl (by simp [hp])

end Update

def map {σ : Type*} [Keyed σ κ] (t : Table ρ) (f : ρ → σ) (hf : ∀ r, key (f r) = key r) :
    Table σ where
  rows := t.rows.map f
  nodup_keys := by
    have h : (t.rows.map f).map key = t.rows.map key := by
      rw [List.map_map]
      exact List.map_congr_left fun r _ => hf r
    exact h ▸ t.nodup_keys

/-- Row by row, `t'` is `t` with each row changed as `R` allows. -/
structure Rowwise (R : ρ → ρ → Prop) (t t' : Table ρ) : Prop where
  exists_pre : ∀ r' ∈ t', ∃ r ∈ t, R r r'
  exists_post : ∀ r ∈ t, ∃ r' ∈ t', R r r'

namespace Rowwise

variable {R S Q : ρ → ρ → Prop} {t t' t'' : Table ρ}

theorem refl (h : ∀ r ∈ t, R r r) : Rowwise R t t :=
  ⟨fun r hr => ⟨r, hr, h r hr⟩, fun r hr => ⟨r, hr, h r hr⟩⟩

theorem mono (h : Rowwise R t t') (hRS : ∀ r ∈ t, ∀ r', R r r' → S r r') : Rowwise S t t' := by
  constructor
  · intro r' hr'
    obtain ⟨r, hr, hR⟩ := h.exists_pre r' hr'
    exact ⟨r, hr, hRS r hr r' hR⟩
  · intro r hr
    obtain ⟨r', hr', hR⟩ := h.exists_post r hr
    exact ⟨r', hr', hRS r hr r' hR⟩

theorem trans (h : Rowwise R t t') (h' : Rowwise S t' t'')
    (hQ : ∀ r ∈ t, ∀ r' r'', R r r' → S r' r'' → Q r r'') : Rowwise Q t t'' := by
  constructor
  · intro r'' hr''
    obtain ⟨r', hr', hS⟩ := h'.exists_pre r'' hr''
    obtain ⟨r, hr, hR⟩ := h.exists_pre r' hr'
    exact ⟨r, hr, hQ r hr r' r'' hR hS⟩
  · intro r hr
    obtain ⟨r', hr', hR⟩ := h.exists_post r hr
    obtain ⟨r'', hr'', hS⟩ := h'.exists_post r' hr'
    exact ⟨r'', hr'', hQ r hr r' r'' hR hS⟩

theorem of_map {f : ρ → ρ} (ht : t'.rows = t.rows.map f) (h : ∀ r ∈ t, R r (f r)) :
    Rowwise R t t' := by
  have hmem : ∀ r', r' ∈ t' ↔ ∃ r ∈ t, f r = r' := by
    intro r'
    rw [← mem_rows, ht, List.mem_map]
    rfl
  constructor
  · intro r' hr'
    obtain ⟨r, hr, rfl⟩ := (hmem r').1 hr'
    exact ⟨r, hr, h r hr⟩
  · exact fun r hr => ⟨_, (hmem _).2 ⟨r, hr, rfl⟩, h r hr⟩

theorem of_update {p : ρ → Prop} [DecidablePred p] {f : ρ → ρ} (hf : ∀ r, key (f r) = key r)
    (h : ∀ r ∈ t, R r (if p r then f r else r)) : Rowwise R t (t.update p f hf) :=
  of_map rfl h

end Rowwise

/-- `DELETE` of the rows that meet `p`. -/
def delete (t : Table ρ) (p : ρ → Prop) [DecidablePred p] : Table ρ where
  rows := t.rows.filter fun r => ¬ p r
  nodup_keys := t.nodup_keys.sublist (List.filter_sublist.map key)

@[simp] theorem mem_delete {t : Table ρ} {p : ρ → Prop} [DecidablePred p] {r : ρ} :
    r ∈ t.delete p ↔ r ∈ t ∧ ¬ p r := by
  change r ∈ List.filter _ _ ↔ _
  simp

theorem select_delete {t : Table ρ} {p q : ρ → Prop} [DecidablePred p] [DecidablePred q] :
    (t.delete p).select q = (t.select q).filter fun r => ¬ p r := by
  simp only [select, delete, List.filter_filter]
  exact List.filter_congr fun r _ => by simp [Bool.and_comm]

theorem eq_of_rows {t t' : Table ρ} (h : t.rows = t'.rows) : t = t' := by
  cases t
  cases t'
  simp only at h
  subst h
  rfl

section Delete

variable {t : Table ρ} {p q : ρ → Prop} [DecidablePred p] [DecidablePred q]

theorem delete_eq_self (h : ∀ r ∈ t, ¬ p r) : t.delete p = t := by
  apply eq_of_rows
  exact List.filter_eq_self.2 fun r hr => by simpa using h r hr

/-- Rows that are deleted anyway may be deleted before. -/
theorem delete_delete (h : ∀ r ∈ t, q r → p r) : (t.delete q).delete p = t.delete p := by
  apply eq_of_rows
  change (t.rows.filter _).filter _ = t.rows.filter _
  rw [List.filter_filter]
  refine List.filter_congr fun r hr => ?_
  by_cases hp : p r
  · simp [hp]
  · have hq : ¬ q r := fun hq => hp (h r hr hq)
    simp [hp, hq]

/-- Rows that are deleted anyway may be changed before. -/
theorem delete_update {f : ρ → ρ} (hf : ∀ r, key (f r) = key r) (h : ∀ r ∈ t, q r → p r)
    (hp : ∀ r, p (f r) ↔ p r) : (t.update q f hf).delete p = t.delete p := by
  apply eq_of_rows
  change (t.rows.map _).filter _ = t.rows.filter _
  rw [List.filter_map]
  have hfilter : t.rows.filter ((fun r => decide ¬ p r) ∘ fun r => if q r then f r else r) =
      t.rows.filter fun r => ¬ p r := by
    refine List.filter_congr fun r _ => ?_
    by_cases hq : q r <;> simp [hq, hp]
  rw [hfilter]
  conv_rhs => rw [← List.map_id (t.rows.filter _)]
  refine List.map_congr_left fun r hr => ?_
  obtain ⟨hr, hpr⟩ := List.mem_filter.1 hr
  have hq : ¬ q r := fun hq => by simp [h r hr hq] at hpr
  simp [hq]

end Delete

/-- A deletion of the rows that refer to `k`. -/
theorem map_select_delete_ref {α β : Type*} [DecidableEq β] {t : Table ρ} {ref : ρ → β}
    {g : ρ → α} (k b : β) :
    ((t.delete fun x => ref x = k).select fun x => ref x = b).map g =
      if b = k then [] else (t.select fun x => ref x = b).map g := by
  rw [select_delete]
  by_cases hb : b = k
  · rw [if_pos hb, List.filter_eq_nil_iff.2, List.map_nil]
    intro x hx
    simp [(mem_select.1 hx).2.trans hb]
  · rw [if_neg hb, List.filter_eq_self.2]
    intro x hx
    simp [(mem_select.1 hx).2, hb]

theorem find?_delete_cases [DecidableEq κ] {t : Table ρ} {p : ρ → Prop} [DecidablePred p] (k : κ) :
    (t.delete p).find? k = t.find? k ∨
      ∃ r, t.find? k = some r ∧ p r ∧ (t.delete p).find? k = none := by
  cases h : t.find? k with
  | none =>
    refine .inl (find?_eq_none_iff.2 fun r hr => ?_)
    exact find?_eq_none_iff.1 h r (mem_delete.1 hr).1
  | some r =>
    obtain ⟨hr, hk⟩ := find?_eq_some_iff.1 h
    by_cases hp : p r
    · refine .inr ⟨r, rfl, hp, find?_eq_none_iff.2 fun s hs hsk => ?_⟩
      obtain ⟨hs, hps⟩ := mem_delete.1 hs
      exact hps (eq_of_key hr hs (hk.trans hsk.symm) ▸ hp)
    · exact .inl (find?_eq_some_iff.2 ⟨mem_delete.2 ⟨hr, hp⟩, hk⟩)

/-- `INSERT`; none when the key is taken. -/
def insert? [DecidableEq κ] (t : Table ρ) (r : ρ) : Option (Table ρ) :=
  if h : key r ∈ t.rows.map key then none
  else some ⟨t.rows ++ [r], by
    rw [List.map_append, List.nodup_append]
    refine ⟨t.nodup_keys, by simp, fun a ha b hb hab => ?_⟩
    obtain rfl : b = key r := by simpa using hb
    exact h (hab ▸ ha)⟩

section Insert

variable [DecidableEq κ] {t t' : Table ρ} {r : ρ}

theorem mem_insert? (h : t.insert? r = some t') {s : ρ} : s ∈ t' ↔ s ∈ t ∨ s = r := by
  unfold insert? at h
  split at h
  · cases h
  · cases h
    change s ∈ t.rows ++ [r] ↔ _
    simp

theorem insert?_fresh (h : t.insert? r = some t') : ∀ s ∈ t, key s ≠ key r := by
  unfold insert? at h
  split at h
  · cases h
  · rename_i hk
    exact fun s hs he => hk (he ▸ List.mem_map_of_mem hs)

theorem find?_insert?_cases (h : t.insert? r = some t') (k : κ) :
    t'.find? k = t.find? k ∨ key r = k ∧ t.find? k = none ∧ t'.find? k = some r := by
  by_cases hk : key r = k
  · refine .inr ⟨hk, find?_eq_none_iff.2 fun s hs => ?_, ?_⟩
    · exact hk ▸ insert?_fresh h s hs
    · exact find?_eq_some_iff.2 ⟨(mem_insert? h).2 (.inr rfl), hk⟩
  · refine .inl ?_
    cases hf : t.find? k with
    | none =>
      refine find?_eq_none_iff.2 fun s hs => ?_
      rcases (mem_insert? h).1 hs with hs | rfl
      · exact find?_eq_none_iff.1 hf s hs
      · exact hk
    | some s =>
      obtain ⟨hs, hsk⟩ := find?_eq_some_iff.1 hf
      exact find?_eq_some_iff.2 ⟨(mem_insert? h).2 (.inl hs), hsk⟩

theorem find?_insert? (h : t.insert? r = some t') (k : κ) :
    t'.find? k = if k = key r then some r else t.find? k := by
  by_cases hk : k = key r
  · rw [if_pos hk, hk]
    exact find?_eq_some_iff.2 ⟨(mem_insert? h).2 (.inr rfl), rfl⟩
  · rw [if_neg hk]
    rcases find?_insert?_cases h k with he | ⟨he, -⟩
    · exact he
    · exact absurd he.symm hk

theorem select_insert? (h : t.insert? r = some t') (q : ρ → Prop) [DecidablePred q] :
    t'.select q = t.select q ++ if q r then [r] else [] := by
  unfold insert? at h
  split at h
  · cases h
  · cases h
    by_cases hq : q r <;> simp [select, List.filter_append, hq]

/-- A row that is deleted anyway may be inserted before. -/
theorem delete_insert? (h : t.insert? r = some t') {p : ρ → Prop} [DecidablePred p] (hp : p r) :
    t'.delete p = t.delete p := by
  unfold insert? at h
  split at h
  · cases h
  · cases h
    apply eq_of_rows
    change (t.rows ++ [r]).filter _ = t.rows.filter _
    simp [List.filter_append, hp]

theorem insert?_isSome (h : ∀ s ∈ t, key s ≠ key r) : ∃ t', t.insert? r = some t' := by
  have hk : key r ∉ t.rows.map key := by
    intro hm
    obtain ⟨s, hs, he⟩ := List.mem_map.1 hm
    exact h s hs he
  exact ⟨_, dif_neg hk⟩

end Insert

/-- Of two rows that the table holds, the later one is related to the earlier one. -/
def Ordered (t : Table ρ) (R : ρ → ρ → Prop) : Prop := t.rows.Pairwise R

theorem Ordered.empty {R : ρ → ρ → Prop} : Ordered (ρ := ρ) .empty R := List.Pairwise.nil

theorem Ordered.update {t : Table ρ} {R : ρ → ρ → Prop} {p : ρ → Prop} [DecidablePred p]
    {f : ρ → ρ} (hf : ∀ r, key (f r) = key r) (h : t.Ordered R)
    (hR : ∀ r ∈ t, ∀ s ∈ t, R r s → R (if p r then f r else r) (if p s then f s else s)) :
    (t.update p f hf).Ordered R :=
  List.pairwise_map.2 (h.imp_of_mem fun hr hs => hR _ hr _ hs)

theorem Ordered.insert [DecidableEq κ] {t t' : Table ρ} {R : ρ → ρ → Prop} {r : ρ}
    (h : t.Ordered R) (hr : t.insert? r = some t') (hR : ∀ s ∈ t, R s r) : t'.Ordered R := by
  unfold insert? at hr
  split at hr
  · cases hr
  · cases hr
    refine List.pairwise_append.2 ⟨h, List.pairwise_singleton _ _, fun s hs x hx => ?_⟩
    rw [List.mem_singleton.1 hx]
    exact hR s hs

/-- A selected row that no later row may follow is the last one. -/
theorem Ordered.getLast?_select {t : Table ρ} {R : ρ → ρ → Prop} {p : ρ → Prop}
    [DecidablePred p] {r : ρ} (h : t.Ordered R) (hr : r ∈ t) (hp : p r)
    (hlast : ∀ s ∈ t, p s → ¬ R r s) : (t.select p).getLast? = some r := by
  have hmem : r ∈ t.select p := mem_select.2 ⟨hr, hp⟩
  have hpair : (t.select p).Pairwise R := h.sublist List.filter_sublist
  rcases List.eq_nil_or_concat (t.select p) with hnil | ⟨rs, s, hrs⟩
  · rw [hnil] at hmem
    cases hmem
  · rw [List.concat_eq_append] at hrs
    rw [hrs] at hmem hpair ⊢
    rw [List.getLast?_concat]
    rcases List.mem_append.1 hmem with hmem | hmem
    · obtain ⟨hs, hps⟩ := mem_select.1 (hrs ▸ List.mem_concat_self : s ∈ t.select p)
      exact absurd ((List.pairwise_append.1 hpair).2.2 r hmem s (List.mem_singleton_self s))
        (hlast s hs hps)
    · rw [List.mem_singleton.1 hmem]

def insertOrIgnore [DecidableEq κ] (t : Table ρ) (r : ρ) : Table ρ := (t.insert? r).getD t

def keys (t : Table ρ) : List κ := t.rows.map key

@[simp] theorem keys_update {t : Table ρ} {p : ρ → Prop} [DecidablePred p] {f : ρ → ρ}
    (hf : ∀ r, key (f r) = key r) : (t.update p f hf).keys = t.keys := by
  unfold keys update
  rw [List.map_map]
  refine List.map_congr_left fun r _ => ?_
  by_cases hp : p r <;> simp [hp, hf]

theorem key_mem_keys {t : Table ρ} {r : ρ} (hr : r ∈ t) : key r ∈ t.keys :=
  List.mem_map_of_mem hr

theorem exists_find? [DecidableEq κ] {t : Table ρ} {k : κ} (h : k ∈ t.keys) :
    ∃ r, t.find? k = some r := by
  obtain ⟨r, hr, hk⟩ := List.mem_map.1 h
  exact ⟨r, find?_eq_some_iff.2 ⟨hr, hk⟩⟩

theorem exists_insert? [DecidableEq κ] {t : Table ρ} {r : ρ} (h : key r ∉ t.keys) :
    ∃ t', t.insert? r = some t' ∧ t'.keys = t.keys ++ [key r] := by
  refine ⟨_, dif_neg h, ?_⟩
  simp [keys]

end Table

end DataJuicer
