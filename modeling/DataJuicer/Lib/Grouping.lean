import Mathlib.Data.List.Count
import Mathlib.Data.List.Lookmap
import Mathlib.Data.List.Nodup
import Mathlib.Data.List.Perm.Basic
import Mathlib.Data.List.Sort

/-! # Grouping

A dict is a list of its entries, with different keys and in the order of the first writes. Values
are grouped and counted by writing entries, and the entries are sorted by their keys.
-/

universe u v

namespace DataJuicer

variable {κ : Type u} {α β : Type v} [DecidableEq κ]

/-- The entry of a key is written anew, from the value that it has. -/
def upsert (d : List (κ × β)) (key : κ) (f : Option β → β) : List (κ × β) :=
  match d with
  | [] => [(key, f none)]
  | (k, b) :: d => if k = key then (k, f (some b)) :: d else (k, b) :: upsert d key f

def collect (key : α → κ) (l : List α) : List (κ × List α) :=
  l.foldl (fun d a => upsert d (key a) fun group => group.getD [] ++ [a]) []

/-- A dict of the number of occurrences. -/
def tally (l : List κ) : List (κ × ℕ) :=
  l.foldl (fun d a => upsert d a fun n => n.getD 0 + 1) []

/-- The entries of a dict, sorted by key. -/
def sortedItems [LinearOrder κ] (d : List (κ × β)) : List (κ × β) :=
  d.insertionSort fun x y => x.1 ≤ y.1

section

variable {d d' : List (κ × β)} {key k : κ} {f : Option β → β} {b : β}

@[simp] theorem upsert_nil (key : κ) (f : Option β → β) : upsert [] key f = [(key, f none)] := rfl

theorem upsert_cons (k : κ) (b : β) (d : List (κ × β)) (key : κ) (f : Option β → β) :
    upsert ((k, b) :: d) key f =
      if k = key then (k, f (some b)) :: d else (k, b) :: upsert d key f := rfl

theorem lookup_upsert (d : List (κ × β)) (key : κ) (f : Option β → β) (k : κ) :
    (upsert d key f).lookup k = if k = key then some (f (d.lookup key)) else d.lookup k := by
  induction d with
  | nil =>
    by_cases h : k = key
    · simp [h]
    · have hbeq : (k == key) = false := by simpa using h
      simp [List.lookup_cons, hbeq, h]
  | cons entry d ih =>
    obtain ⟨k', b⟩ := entry
    rw [upsert_cons]
    by_cases hkey : k' = key
    · subst hkey
      rw [if_pos rfl, List.lookup_cons, List.lookup_cons, List.lookup_cons]
      by_cases h : k = k'
      · simp [h]
      · have hbeq : (k == k') = false := by simpa using h
        simp [hbeq, h]
    · rw [if_neg hkey, List.lookup_cons, List.lookup_cons, List.lookup_cons, ih]
      have hbeq' : (key == k') = false := by simpa using fun h => hkey h.symm
      by_cases h : k = k'
      · subst h
        simp [hkey]
      · have hbeq : (k == k') = false := by simpa using h
        simp [hbeq, hbeq']

theorem mem_keys_upsert :
    k ∈ (upsert d key f).map Prod.fst ↔ k = key ∨ k ∈ d.map Prod.fst := by
  induction d with
  | nil => simp
  | cons entry d ih =>
    obtain ⟨k', b⟩ := entry
    rw [upsert_cons]
    by_cases hkey : k' = key
    · subst hkey
      simp
    · rw [if_neg hkey, List.map_cons, List.mem_cons, ih, List.map_cons, List.mem_cons]
      exact or_left_comm

theorem nodup_keys_upsert (h : (d.map Prod.fst).Nodup) :
    ((upsert d key f).map Prod.fst).Nodup := by
  induction d with
  | nil => simp
  | cons entry d ih =>
    obtain ⟨k', b⟩ := entry
    rw [List.map_cons, List.nodup_cons] at h
    rw [upsert_cons]
    by_cases hkey : k' = key
    · rw [if_pos hkey, List.map_cons, List.nodup_cons]
      exact h
    · rw [if_neg hkey, List.map_cons, List.nodup_cons, mem_keys_upsert, not_or]
      exact ⟨⟨hkey, h.1⟩, ih h.2⟩

theorem lookup_eq_none : d.lookup k = none ↔ k ∉ d.map Prod.fst := by
  induction d with
  | nil => simp
  | cons entry d ih =>
    rw [List.lookup_cons, List.map_cons, List.mem_cons, not_or, ← ih]
    by_cases h : k = entry.1
    · simp [h]
    · have hbeq : (k == entry.1) = false := by simpa using h
      simp [hbeq, h]

theorem exists_lookup (h : k ∈ d.map Prod.fst) : ∃ b, d.lookup k = some b := by
  cases hb : d.lookup k with
  | none => exact absurd h (lookup_eq_none.1 hb)
  | some b => exact ⟨b, rfl⟩

theorem mem_of_lookup (h : d.lookup k = some b) : (k, b) ∈ d := by
  induction d with
  | nil => cases h
  | cons entry d ih =>
    rw [List.lookup_cons] at h
    by_cases hkey : k = entry.1
    · rw [show (k == entry.1) = true by simpa using hkey] at h
      obtain rfl : entry.2 = b := Option.some.inj h
      rw [hkey]
      exact List.mem_cons_self
    · rw [show (k == entry.1) = false by simpa using hkey] at h
      exact List.mem_cons_of_mem _ (ih h)

theorem lookup_filter_key {p : κ → Bool} (h : p k = true) :
    (d.filter fun e => p e.1).lookup k = d.lookup k := by
  induction d with
  | nil => rfl
  | cons entry d ih =>
    by_cases hkey : k = entry.1
    · have hbeq : (k == entry.1) = true := by simpa using hkey
      rw [List.filter_cons_of_pos (hkey ▸ h), List.lookup_cons, List.lookup_cons, hbeq]
    · have hbeq : (k == entry.1) = false := by simpa using hkey
      rw [List.lookup_cons, hbeq, ← ih, List.filter_cons]
      split
      · rw [List.lookup_cons, hbeq]
      · rfl

/-- With different keys the entries are what is looked up. -/
theorem lookup_eq_some (h : (d.map Prod.fst).Nodup) : d.lookup k = some b ↔ (k, b) ∈ d := by
  refine ⟨mem_of_lookup, fun hmem => ?_⟩
  cases hfound : d.lookup k with
  | none => exact absurd (List.mem_map_of_mem hmem) (lookup_eq_none.1 hfound)
  | some b' =>
    have hsame := List.inj_on_of_nodup_map h (mem_of_lookup hfound) hmem rfl
    exact congrArg some (congrArg Prod.snd hsame)

theorem upsert_of_new (h : key ∉ d.map Prod.fst) : upsert d key f = d ++ [(key, f none)] := by
  induction d with
  | nil => rfl
  | cons entry d ih =>
    obtain ⟨k', b⟩ := entry
    rw [List.map_cons, List.mem_cons, not_or] at h
    rw [upsert_cons, if_neg (Ne.symm h.1), ih h.2, List.cons_append]

theorem lookup_map_values {γ : Type*} (g : κ → β → γ) (d : List (κ × β)) (k : κ) :
    (d.map fun e => (e.1, g e.1 e.2)).lookup k = (d.lookup k).map (g k) := by
  induction d with
  | nil => rfl
  | cons entry d ih =>
    rw [List.map_cons, List.lookup_cons, List.lookup_cons]
    by_cases h : k = entry.1
    · simp [h]
    · have hbeq : (k == entry.1) = false := by simpa using h
      rw [hbeq]
      exact ih

/-- Dicts that look up the same have the same entries. -/
theorem perm_of_lookup (h : (d.map Prod.fst).Nodup) (h' : (d'.map Prod.fst).Nodup)
    (hsame : ∀ k, d.lookup k = d'.lookup k) : d.Perm d' := by
  rw [List.perm_ext_iff_of_nodup h.of_map h'.of_map]
  rintro ⟨k, b⟩
  rw [← lookup_eq_some h, ← lookup_eq_some h', hsame]

end

theorem nodup_foldl_upsert {γ : Type*} (key : γ → κ) (f : γ → Option β → β) (l : List γ)
    {d : List (κ × β)} (h : (d.map Prod.fst).Nodup) :
    ((l.foldl (fun d c => upsert d (key c) (f c)) d).map Prod.fst).Nodup := by
  induction l generalizing d with
  | nil => exact h
  | cons c l ih => exact ih (nodup_keys_upsert h)

theorem collect_foldl (key : α → κ) (l : List α) (d : List (κ × List α)) (k : κ) :
    (l.foldl (fun d a => upsert d (key a) fun group => group.getD [] ++ [a]) d).lookup k =
      if l.filter (fun a => key a = k) = [] then d.lookup k
      else some ((d.lookup k).getD [] ++ l.filter fun a => key a = k) := by
  induction l generalizing d with
  | nil => simp
  | cons a l ih =>
    rw [List.foldl_cons, ih, lookup_upsert]
    by_cases ha : key a = k
    · subst ha
      rw [List.filter_cons_of_pos (by simp)]
      by_cases hrest : l.filter (fun b => key b = key a) = []
      · simp [hrest]
      · simp [hrest]
    · rw [List.filter_cons_of_neg (by simpa using ha), if_neg (Ne.symm ha)]

theorem lookup_collect (key : α → κ) (l : List α) (k : κ) : (collect key l).lookup k =
    if l.filter (fun a => key a = k) = [] then none else some (l.filter fun a => key a = k) :=
  collect_foldl key l [] k

theorem nodup_collect (key : α → κ) (l : List α) : ((collect key l).map Prod.fst).Nodup :=
  nodup_foldl_upsert key (fun a group => group.getD [] ++ [a]) l List.nodup_nil

theorem mem_collect {key : α → κ} {l : List α} {k : κ} {group : List α} :
    (k, group) ∈ collect key l ↔ group = l.filter (fun a => key a = k) ∧ group ≠ [] := by
  rw [← lookup_eq_some (nodup_collect key l), lookup_collect]
  split
  · next hnone => simp_all
  · next hsome =>
    constructor
    · rintro ⟨⟩
      exact ⟨rfl, hsome⟩
    · rintro ⟨rfl, -⟩
      rfl

theorem tally_foldl (l : List κ) (d : List (κ × ℕ)) (k : κ) :
    (l.foldl (fun d a => upsert d a fun n => n.getD 0 + 1) d).lookup k =
      if l.count k = 0 then d.lookup k else some ((d.lookup k).getD 0 + l.count k) := by
  induction l generalizing d with
  | nil => simp
  | cons a l ih =>
    rw [List.foldl_cons, ih, lookup_upsert]
    by_cases ha : k = a
    · subst ha
      rw [List.count_cons_self]
      by_cases hrest : l.count k = 0
      · simp [hrest]
      · simp [hrest]
        omega
    · rw [List.count_cons_of_ne (Ne.symm ha), if_neg ha]

theorem lookup_tally (l : List κ) (k : κ) :
    (tally l).lookup k = if l.count k = 0 then none else some (l.count k) := by
  refine (tally_foldl l [] k).trans ?_
  simp

theorem nodup_tally (l : List κ) : ((tally l).map Prod.fst).Nodup :=
  nodup_foldl_upsert id (fun _ n => n.getD 0 + 1) l List.nodup_nil

section

variable {κ : Type u} [LinearOrder κ] {d d' : List (κ × β)}

theorem perm_sortedItems (d : List (κ × β)) : (sortedItems d).Perm d :=
  List.perm_insertionSort _ d

theorem nodup_sortedItems (h : (d.map Prod.fst).Nodup) : ((sortedItems d).map Prod.fst).Nodup :=
  ((perm_sortedItems d).map _).nodup_iff.2 h

theorem pairwise_sortedItems (d : List (κ × β)) :
    (sortedItems d).Pairwise fun x y => x.1 ≤ y.1 := by
  have : Std.Total fun x y : κ × β => x.1 ≤ y.1 := ⟨fun x y => le_total x.1 y.1⟩
  have : IsTrans (κ × β) fun x y => x.1 ≤ y.1 := ⟨fun _ _ _ h h' => h.trans h'⟩
  exact List.pairwise_insertionSort _ d

/-- The sorted entries depend on what is looked up alone. -/
theorem sortedItems_congr (h : (d.map Prod.fst).Nodup) (h' : (d'.map Prod.fst).Nodup)
    (hsame : ∀ k, d.lookup k = d'.lookup k) : sortedItems d = sortedItems d' := by
  have hperm : (sortedItems d).Perm (sortedItems d') :=
    ((perm_sortedItems d).trans (perm_of_lookup h h' hsame)).trans (perm_sortedItems d').symm
  refine hperm.eq_of_pairwise ?_ (pairwise_sortedItems d) (pairwise_sortedItems d')
  intro x y hx hy hle hge
  exact List.inj_on_of_nodup_map (nodup_sortedItems h) hx (hperm.mem_iff.2 hy) (le_antisymm hle hge)

theorem sortedItems_sortedItems (d : List (κ × β)) : sortedItems (sortedItems d) = sortedItems d :=
  (pairwise_sortedItems d).insertionSort_eq

/-- The counts do not depend on the order. -/
theorem sortedItems_tally_congr {l l' : List κ} (h : l.Perm l') :
    sortedItems (tally l) = sortedItems (tally l') := by
  apply sortedItems_congr (nodup_tally l) (nodup_tally l')
  intro k
  rw [lookup_tally, lookup_tally, h.count_eq]

end

end DataJuicer
