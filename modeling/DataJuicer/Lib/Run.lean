import Mathlib.Data.List.Induction

/-! # Runs of a labelled step relation

A run records the transitions it takes, so that a property of every step and a property of
every state reached are both statements about the elements of one list. The invariant rule
and the condition rule below are the inductions that the developments on top use.
-/

universe u v w

namespace DataJuicer

/-- What holds of each element with those before it, when one more is put at the end. -/
theorem forall_split_concat {α : Type u} {P : List α → α → Prop} {l : List α} {x : α} :
    (∀ l₁ y l₂, l ++ [x] = l₁ ++ y :: l₂ → P l₁ y) ↔
      (∀ l₁ y l₂, l = l₁ ++ y :: l₂ → P l₁ y) ∧ P l x := by
  constructor
  · intro h
    constructor
    · intro l₁ y l₂ hl
      exact h l₁ y (l₂ ++ [x]) (by rw [hl, List.append_assoc, List.cons_append])
    · exact h l x [] rfl
  · rintro ⟨hall, hlast⟩ l₁ y l₂ hl
    rcases List.eq_nil_or_concat l₂ with rfl | ⟨m, z, rfl⟩
    · obtain ⟨rfl, hx⟩ := List.append_inj' hl rfl
      obtain rfl := List.singleton_inj.1 hx
      exact hlast
    · have hl' : l ++ [x] = (l₁ ++ y :: m) ++ [z] := by simpa using hl
      exact hall l₁ y m (List.append_inj' hl' rfl).1

/-- One step taken: the state before it, its label and the state after it. -/
structure Transition (σ : Type u) (ι : Type v) where
  pre : σ
  label : ι
  post : σ

variable {σ : Type u} {ι : Type v}

/-- A finite run of `step`, with its transitions in the order they are taken. -/
inductive Run (step : σ → ι → σ → Prop) : σ → List (Transition σ ι) → σ → Prop
  | nil (s : σ) : Run step s [] s
  | snoc {s t u : σ} {l : List (Transition σ ι)} {a : ι} :
      Run step s l t → step t a u → Run step s (l ++ [⟨t, a, u⟩]) u

namespace Run

variable {step : σ → ι → σ → Prop} {s t u : σ} {l m : List (Transition σ ι)}

theorem append (h : Run step s l t) (h' : Run step t m u) : Run step s (l ++ m) u := by
  induction h' with
  | nil => simpa using h
  | snoc _ hs ih => simpa [← List.append_assoc] using ih.snoc hs

theorem single {a : ι} (h : step s a t) : Run step s [⟨s, a, t⟩] t := (nil s).snoc h

theorem eq_of_nil (h : Run step s [] t) : s = t := by
  generalize hl : ([] : List (Transition σ ι)) = l at h
  cases h with
  | nil => rfl
  | snoc => simp at hl

theorem of_snoc {x : Transition σ ι} (h : Run step s (l ++ [x]) u) :
    Run step s l x.pre ∧ step x.pre x.label x.post ∧ x.post = u := by
  generalize hm : l ++ [x] = m at h
  cases h with
  | nil => simp at hm
  | snoc hr hs =>
    obtain ⟨rfl, hx⟩ := List.append_inj' hm rfl
    obtain rfl := List.singleton_inj.1 hx
    exact ⟨hr, hs, rfl⟩

theorem of_append (h : Run step s (l ++ m) u) : ∃ t, Run step s l t ∧ Run step t m u := by
  induction m using List.reverseRecOn generalizing u with
  | nil => exact ⟨u, by simpa using h, nil u⟩
  | append_singleton m x ih =>
    rw [← List.append_assoc] at h
    obtain ⟨hr, hs, rfl⟩ := h.of_snoc
    obtain ⟨t, h₁, h₂⟩ := ih hr
    exact ⟨t, h₁, h₂.snoc hs⟩

theorem split {x : Transition σ ι} (h : Run step s (l ++ x :: m) u) :
    Run step s l x.pre ∧ step x.pre x.label x.post ∧ Run step x.post m u := by
  obtain ⟨t, h₁, h₂⟩ := of_append (l := l ++ [x]) (m := m) (by simpa using h)
  obtain ⟨hr, hs, rfl⟩ := h₁.of_snoc
  exact ⟨hr, hs, h₂⟩

theorem step_of_mem {x : Transition σ ι} (h : Run step s l u) (hx : x ∈ l) :
    step x.pre x.label x.post := by
  obtain ⟨l₁, l₂, rfl⟩ := List.append_of_mem hx
  exact h.split.2.1

/-- What every step that meets `ok` preserves holds at both ends of every transition. -/
theorem invariant {inv : σ → Prop} {ok : Transition σ ι → Prop} (h : Run step s l u)
    (hs : inv s) (hok : ∀ x ∈ l, ok x)
    (hstep : ∀ x, inv x.pre → ok x → step x.pre x.label x.post → inv x.post) :
    inv u ∧ ∀ x ∈ l, inv x.pre ∧ inv x.post := by
  induction h with
  | nil => exact ⟨hs, by simp⟩
  | snoc _ ht ih =>
    obtain ⟨hinv, hall⟩ := ih fun x hx => hok x (List.mem_append_left _ hx)
    have hnext := hstep _ hinv (hok _ (List.mem_concat_self)) ht
    refine ⟨hnext, fun x hx => ?_⟩
    rcases List.mem_append.1 hx with hx | hx
    · exact hall x hx
    · rw [List.mem_singleton.1 hx]
      exact ⟨hinv, hnext⟩

/-- What each step keeps may speak of the transitions that were taken. -/
theorem history {Q : List (Transition σ ι) → σ → Prop} (h : Run step s l u) (hs : Q [] s)
    (hstep : ∀ (m : List (Transition σ ι)) (x : Transition σ ι), Run step s m x.pre → Q m x.pre →
      step x.pre x.label x.post → Q (m ++ [x]) x.post) : Q l u := by
  induction h with
  | nil => exact hs
  | snoc hr ht ih => exact hstep _ ⟨_, _, _⟩ hr ih ht

/--
Along a run from a good state, all states reached are good exactly when all steps meet the
condition, provided this is so for each single step from a good state.
-/
theorem forall_post_iff {good : σ → Prop} {cond ok : Transition σ ι → Prop}
    (h : Run step s l u) (hs : good s) (hok : ∀ x ∈ l, ok x)
    (hiff : ∀ x, good x.pre → ok x → step x.pre x.label x.post → (good x.post ↔ cond x)) :
    (∀ x ∈ l, good x.post) ↔ ∀ x ∈ l, cond x := by
  have hgood : ∀ m, (∀ x ∈ m, good x.post) → ∀ {t}, Run step s m t → good t := by
    intro m hm t hr
    cases hr with
    | nil => exact hs
    | snoc => exact hm _ List.mem_concat_self
  induction h with
  | nil => simp
  | snoc hr ht ih =>
    have hx := hok _ List.mem_concat_self
    specialize ih fun x hx => hok x (List.mem_append_left _ hx)
    simp only [List.forall_mem_append, List.forall_mem_singleton]
    constructor
    · rintro ⟨hl, hlast⟩
      exact ⟨ih.1 hl, (hiff _ (hgood _ hl hr) hx ht).1 hlast⟩
    · rintro ⟨hl, hlast⟩
      have hl := ih.2 hl
      exact ⟨hl, (hiff _ (hgood _ hl hr) hx ht).2 hlast⟩

/-- What each step of a run keeps holds at its end when it holds at its start. -/
theorem keeps {Q : σ → Prop} (h : Run step s l u) (hs : Q s)
    (hstep : ∀ x ∈ l, Q x.pre → Q x.post) : Q u := by
  induction h with
  | nil => exact hs
  | snoc _ _ ih =>
    exact hstep _ List.mem_concat_self (ih fun x hx => hstep x (List.mem_append_left _ hx))

/-- What has come to hold was brought about by a step. -/
theorem caused {Q : σ → Prop} (h : Run step s l u) (hs : ¬ Q s) (hu : Q u) :
    ∃ x ∈ l, ¬ Q x.pre ∧ Q x.post := by
  by_contra hnone
  push Not at hnone
  exact h.keeps (Q := fun t => ¬ Q t) hs hnone hu

/--
When each step from a guarded state is good, or keeps the guard and is not bad, no bad step
comes before a good one.
-/
theorem first_good {p : σ → Prop} {good bad : Transition σ ι → Prop} (h : Run step s l u)
    (hs : p s)
    (hstep : ∀ x ∈ l, p x.pre → good x ∧ ¬ bad x ∨ p x.post ∧ ¬ bad x) :
    (∀ (l₁ : List (Transition σ ι)) (y : Transition σ ι) (l₂ : List (Transition σ ι)),
        l = l₁ ++ y :: l₂ → bad y → ∃ z ∈ l₁, good z) ∧
      (p u ∨ ∃ z ∈ l, good z) := by
  induction h with
  | nil => exact ⟨by simp, .inl hs⟩
  | @snoc t u l a hr ha ih =>
    obtain ⟨hall, hlast⟩ := ih fun x hx => hstep x (List.mem_append_left _ hx)
    have hstep := hstep _ List.mem_concat_self
    constructor
    · intro l₁ y l₂ hl hy
      rcases List.eq_nil_or_concat l₂ with rfl | ⟨m, z, rfl⟩
      · obtain ⟨rfl, hy'⟩ := List.append_inj' hl rfl
        obtain rfl := List.singleton_inj.1 hy'
        refine hlast.resolve_left fun hg => ?_
        rcases hstep hg with ⟨-, hnot⟩ | ⟨-, hnot⟩ <;> exact hnot hy
      · have hl' : l ++ [⟨t, a, u⟩] = (l₁ ++ y :: m) ++ [z] := by simpa using hl
        exact hall l₁ y m (List.append_inj' hl' rfl).1 hy
    · rcases hlast with hg | ⟨z, hz, hgood⟩
      · rcases hstep hg with ⟨hgood, -⟩ | ⟨hg, -⟩
        · exact .inr ⟨_, List.mem_concat_self, hgood⟩
        · exact .inl hg
      · exact .inr ⟨z, List.mem_append_left _ hz, hgood⟩

end Run

/-- A deterministic service answers every request and moves to a next state. -/
structure Service (σ : Type u) (ι : Type v) (ο : Type w) where
  exec : ι → σ → ο × σ

namespace Service

variable {ο : Type w} (S : Service σ ι ο)

/-- The step relation of a service; a label is a request with its reply. -/
def step (s : σ) (e : ι × ο) (t : σ) : Prop := S.exec e.1 s = (e.2, t)

def serve (s : σ) : List ι → List (Transition σ (ι × ο))
  | [] => []
  | i :: is => ⟨s, (i, (S.exec i s).1), (S.exec i s).2⟩ :: serve (S.exec i s).2 is

def final (s : σ) : List ι → σ
  | [] => s
  | i :: is => final (S.exec i s).2 is

theorem step_exec (s : σ) (i : ι) : S.step s (i, (S.exec i s).1) (S.exec i s).2 := rfl

theorem serve_run (s : σ) (is : List ι) : Run S.step s (S.serve s is) (S.final s is) := by
  induction is generalizing s with
  | nil => exact .nil s
  | cons i is ih => exact (Run.single (S.step_exec s i)).append (ih _)

end Service

end DataJuicer
