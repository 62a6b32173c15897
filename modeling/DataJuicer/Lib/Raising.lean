import DataJuicer.Lib.Transaction

/-! # Statements that keep what they have written

An object writes its fields as it goes, and what it has written stays when a later statement
raises. The rules say what a block returns or raises, and in which state.
-/

universe u

namespace DataJuicer

/-- A block over the fields `σ` that may raise `ε`. -/
abbrev Raising (σ ε α : Type u) := ExceptT ε (StateM σ) α

namespace Raising

variable {σ ε α β : Type u}

/-- The result of the block and the fields after it. -/
def exec (x : Raising σ ε α) (s : σ) : Except ε α × σ := StateT.run (ExceptT.run x) s

/-- A part that reads no fields. -/
def lift (x : Except ε α) : Raising σ ε α := ExceptT.mk (pure x)

def Returns (x : Raising σ ε α) (s : σ) (a : α) (t : σ) : Prop := x.exec s = (.ok a, t)

def Raises (x : Raising σ ε α) (s : σ) (e : ε) (t : σ) : Prop := x.exec s = (.error e, t)

variable {x : Raising σ ε α} {f : α → Raising σ ε β} {s t : σ} {a : α} {b : β} {e : ε}

theorem exec_bind (x : Raising σ ε α) (f : α → Raising σ ε β) (s : σ) :
    (x >>= f).exec s = match x.exec s with
      | (.ok a, t) => (f a).exec t
      | (.error e, t) => (.error e, t) := by
  rcases h : x.exec s with ⟨e | a, t⟩
  · unfold exec at h ⊢
    rw [ExceptT.run_bind, StateT.run_bind, h]
    rfl
  · unfold exec at h ⊢
    rw [ExceptT.run_bind, StateT.run_bind, h]
    rfl

@[simp] theorem exec_pure (a : α) (s : σ) : (pure a : Raising σ ε α).exec s = (.ok a, s) := rfl

@[simp] theorem exec_lift (y : Except ε α) (s : σ) :
    (lift y : Raising σ ε α).exec s = (y, s) := rfl

@[simp] theorem exec_get (s : σ) : (get : Raising σ ε σ).exec s = (.ok s, s) := rfl

@[simp] theorem exec_set (s t : σ) : (set t : Raising σ ε PUnit).exec s = (.ok ⟨⟩, t) := rfl

@[simp] theorem exec_modify (g : σ → σ) (s : σ) :
    (modify g : Raising σ ε PUnit).exec s = (.ok ⟨⟩, g s) := rfl

@[simp] theorem returns_pure {a' : α} :
    (pure a : Raising σ ε α).Returns s a' t ↔ a' = a ∧ t = s := by
  simp [Returns, eq_comm]

@[simp] theorem raises_pure : ¬ (pure a : Raising σ ε α).Raises s e t := by simp [Raises]

@[simp] theorem returns_lift {y : Except ε α} :
    (lift y : Raising σ ε α).Returns s a t ↔ y = .ok a ∧ t = s := by
  simp [Returns, eq_comm]

@[simp] theorem raises_lift {y : Except ε α} :
    (lift y : Raising σ ε α).Raises s e t ↔ y = .error e ∧ t = s := by
  simp [Raises, eq_comm]

theorem returns_bind : (x >>= f).Returns s b t ↔ ∃ a u, x.Returns s a u ∧ (f a).Returns u b t := by
  unfold Returns
  rw [exec_bind]
  rcases x.exec s with ⟨a | e, u⟩ <;> simp

theorem raises_bind : (x >>= f).Raises s e t ↔
    x.Raises s e t ∨ ∃ a u, x.Returns s a u ∧ (f a).Raises u e t := by
  unfold Raises Returns
  rw [exec_bind]
  rcases x.exec s with ⟨a | e, u⟩ <;> simp

@[simp] theorem returns_get_bind {f : σ → Raising σ ε β} :
    (get >>= f : Raising σ ε β).Returns s b t ↔ (f s).Returns s b t := Iff.rfl

@[simp] theorem raises_get_bind {f : σ → Raising σ ε β} :
    (get >>= f : Raising σ ε β).Raises s e t ↔ (f s).Raises s e t := Iff.rfl

@[simp] theorem returns_set_bind {u : σ} {f : PUnit → Raising σ ε β} :
    (set u >>= f : Raising σ ε β).Returns s b t ↔ (f ⟨⟩).Returns u b t := Iff.rfl

@[simp] theorem raises_set_bind {u : σ} {f : PUnit → Raising σ ε β} :
    (set u >>= f : Raising σ ε β).Raises s e t ↔ (f ⟨⟩).Raises u e t := Iff.rfl

@[simp] theorem returns_modify_bind {g : σ → σ} {f : PUnit → Raising σ ε β} :
    (modify g >>= f : Raising σ ε β).Returns s b t ↔ (f ⟨⟩).Returns (g s) b t :=
  Iff.rfl

@[simp] theorem raises_modify_bind {g : σ → σ} {f : PUnit → Raising σ ε β} :
    (modify g >>= f : Raising σ ε β).Raises s e t ↔ (f ⟨⟩).Raises (g s) e t :=
  Iff.rfl

theorem returns_lift_bind {y : Except ε α} :
    (lift y >>= f).Returns s b t ↔ ∃ a, y = .ok a ∧ (f a).Returns s b t := by
  simp [returns_bind]

theorem raises_lift_bind {y : Except ε α} :
    (lift y >>= f).Raises s e t ↔ y = .error e ∧ t = s ∨ ∃ a, y = .ok a ∧ (f a).Raises s e t := by
  simp [raises_bind]

/-- The block does not raise. -/
def Succeeds (x : Raising σ ε α) (s : σ) : Prop := ∃ a t, x.Returns s a t

theorem succeeds_bind : (x >>= f).Succeeds s ↔ ∃ a t, x.Returns s a t ∧ (f a).Succeeds t := by
  unfold Succeeds
  simp only [returns_bind]
  constructor
  · rintro ⟨b, u, a, t, hx, hf⟩
    exact ⟨a, t, hx, b, u, hf⟩
  · rintro ⟨a, t, hx, b, u, hf⟩
    exact ⟨b, u, a, t, hx, hf⟩

end Raising

end DataJuicer
