import DataJuicer.Lib.Transaction
import Mathlib.Data.List.Forall2

/-! # Lists related element by element

A loop that makes one value of each element, or raises, relates the two lists element by element.
-/

universe u v w

namespace DataJuicer

variable {α : Type u} {β : Type v}

theorem exists_of_forall₂_left {R : α → β → Prop} {l : List α} {m : List β}
    (h : List.Forall₂ R l m) {a : α} (ha : a ∈ l) : ∃ b ∈ m, R a b := by
  induction h with
  | nil => simp at ha
  | cons hab _ ih =>
    rcases List.mem_cons.1 ha with rfl | ha
    · exact ⟨_, List.mem_cons_self, hab⟩
    · obtain ⟨b, hb, hr⟩ := ih ha
      exact ⟨b, List.mem_cons_of_mem _ hb, hr⟩

theorem exists_of_forall₂_right {R : α → β → Prop} {l : List α} {m : List β}
    (h : List.Forall₂ R l m) {b : β} (hb : b ∈ m) : ∃ a ∈ l, R a b := by
  obtain ⟨a, ha, hr⟩ := exists_of_forall₂_left h.flip hb
  exact ⟨a, ha, hr⟩

theorem map_eq_of_forall₂ {γ : Type w} {R : α → β → Prop} {l : List α} {m : List β} {f : α → γ}
    {g : β → γ} (h : List.Forall₂ R l m) (hr : ∀ a b, R a b → g b = f a) : m.map g = l.map f := by
  induction h with
  | nil => rfl
  | cons hab _ ih => rw [List.map_cons, List.map_cons, hr _ _ hab, ih]

/-- The relation holds with the element it starts from. -/
theorem forall₂_with_mem {R : α → β → Prop} {l : List α} {m : List β} (h : List.Forall₂ R l m) :
    List.Forall₂ (fun a b => a ∈ l ∧ R a b) l m :=
  (List.forall₂_and_left (p := (· ∈ l)) l m).2 ⟨fun _ ha => ha, h⟩

section

open Transaction

variable {ε : Type w} {α β : Type v} {f : α → Except ε β} {l : List α} {m : List β}

theorem mapM_eq_ok : l.mapM f = .ok m ↔ List.Forall₂ (fun a b => f a = .ok b) l m := by
  induction l generalizing m with
  | nil =>
    rw [List.mapM_nil, List.forall₂_nil_left_iff]
    exact ⟨fun h => (Except.ok.inj h).symm, fun h => congrArg Except.ok h.symm⟩
  | cons a l ih =>
    rw [List.mapM_cons, bind_eq_ok, List.forall₂_cons_left_iff]
    constructor
    · rintro ⟨b, hb, h⟩
      obtain ⟨bs, hbs, h⟩ := bind_eq_ok.1 h
      cases h
      exact ⟨b, bs, hb, ih.1 hbs, rfl⟩
    · rintro ⟨b, bs, hb, hbs, rfl⟩
      refine ⟨b, hb, ?_⟩
      rw [ih.2 hbs]
      rfl

theorem exists_mapM_ok (h : ∀ a ∈ l, ∃ b, f a = .ok b) : ∃ m, l.mapM f = .ok m := by
  induction l with
  | nil => exact ⟨[], rfl⟩
  | cons a l ih =>
    rw [List.forall_mem_cons] at h
    obtain ⟨b, hb⟩ := h.1
    obtain ⟨bs, hbs⟩ := ih h.2
    rw [List.mapM_cons, hb, hbs]
    exact ⟨_, rfl⟩

/-- What each step keeps is kept by the loop. -/
theorem foldlM_keeps {σ : Type v} {f : σ → α → Except ε σ} {p : σ → Prop} {s t : σ}
    (h : l.foldlM f s = .ok t) (hs : p s) (hstep : ∀ s a t, p s → f s a = .ok t → p t) : p t := by
  induction l generalizing s with
  | nil =>
    obtain rfl := Except.ok.inj h
    exact hs
  | cons a l ih =>
    rw [List.foldlM_cons] at h
    obtain ⟨m, hm, ht⟩ := bind_eq_ok.1 h
    exact ih ht (hstep s a m hs hm)

end

end DataJuicer
