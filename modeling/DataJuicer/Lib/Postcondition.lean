import DataJuicer.Lib.Transaction

/-! # What a block ensures

A postcondition of a block speaks of what the block returns, and says nothing when the block
raises. Each rule is for one form of statement.
-/

universe u v w

namespace DataJuicer.Transaction

/-- Whatever the block returns meets the postcondition. -/
def Ensures {ε : Type u} {α : Type v} (x : Except ε α) (p : α → Prop) : Prop :=
  ∀ a, x = .ok a → p a

namespace Ensures

variable {ε : Type u} {α β : Type v} {p q : α → Prop} {r : β → Prop}

theorem ok {a : α} (h : p a) : Ensures (.ok a : Except ε α) p := by
  rintro _ ⟨⟩
  exact h

theorem ret {a : α} (h : p a) : Ensures (pure a : Except ε α) p := ok h

theorem error {e : ε} : Ensures (.error e : Except ε α) p := nofun

theorem mono {x : Except ε α} (h : Ensures x p) (hpq : ∀ a, p a → q a) : Ensures x q :=
  fun a ha => hpq a (h a ha)

/-- The statement after a block starts from what the block ensures. -/
theorem bind {x : Except ε α} {f : α → Except ε β} (h : Ensures x p)
    (hf : ∀ a, p a → Ensures (f a) r) : Ensures (x >>= f) r := by
  intro b hb
  obtain ⟨a, ha, hb⟩ := bind_eq_ok.1 hb
  exact hf a (h a ha) b hb

/-- A statement of which only its success matters. -/
theorem after {x : Except ε α} {f : α → Except ε β} (hf : ∀ a, Ensures (f a) r) :
    Ensures (x >>= f) r := by
  intro b hb
  obtain ⟨a, _, hb⟩ := bind_eq_ok.1 hb
  exact hf a b hb

theorem ite {c : Prop} [Decidable c] {x y : Except ε α} (hx : Ensures x p) (hy : Ensures y p) :
    Ensures (if c then x else y) p := by
  split
  · exact hx
  · exact hy

theorem map {x : Except ε α} {f : α → β} (h : Ensures x fun a => r (f a)) :
    Ensures (x.map f) r := by
  cases x with
  | error e => exact error
  | ok a => exact ok (h a rfl)

end Ensures

end DataJuicer.Transaction
