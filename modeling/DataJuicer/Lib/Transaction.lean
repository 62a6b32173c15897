import DataJuicer.Lib.Run

/-! # Transactions that may raise

An operation of a store reads and writes the state and either commits with a value or
raises, in which case the state is rolled back. The rules say what a committed block of
statements and a loop over a list of statements keep.
-/

universe u v w

namespace DataJuicer.Transaction

variable {σ : Type u} {ε : Type v} {α : Type w}

/-- `if … : raise error` -/
def raiseIf (p : Prop) [Decidable p] (e : ε) : Except ε PUnit :=
  if p then .error e else .ok ⟨⟩

@[simp] theorem raiseIf_eq_ok {p : Prop} [Decidable p] {e : ε} {x : PUnit} :
    raiseIf p e = .ok x ↔ ¬ p := by
  by_cases h : p <;> simp [raiseIf, h]

/-- A statement whose constraint may fail. -/
def orRaise (e : ε) : Option α → Except ε α
  | some a => .ok a
  | none => .error e

@[simp] theorem orRaise_eq_ok {e : ε} {x : Option α} {a : α} :
    orRaise e x = .ok a ↔ x = some a := by
  cases x <;> simp [orRaise]

theorem bind_eq_ok {β : Type w} {x : Except ε α} {f : α → Except ε β} {b : β} :
    x >>= f = .ok b ↔ ∃ a, x = .ok a ∧ f a = .ok b := by
  cases x with
  | ok a => simp [bind, Except.bind]
  | error e => simp [bind, Except.bind]

theorem unit_bind_eq_ok {β : Type} {x : Except ε Unit} {f : Unit → Except ε β} {b : β} :
    x >>= f = .ok b ↔ x = .ok () ∧ f () = .ok b := by
  cases x with
  | ok a => simp [bind, Except.bind]
  | error e => simp [bind, Except.bind]

theorem bind_eq_error {β : Type w} {x : Except ε α} {f : α → Except ε β} {e : ε} :
    x >>= f = .error e ↔ x = .error e ∨ ∃ a, x = .ok a ∧ f a = .error e := by
  cases x with
  | ok a => simp [bind, Except.bind]
  | error e => simp [bind, Except.bind]

@[simp] theorem raiseIf_eq_error {p : Prop} [Decidable p] {e e' : ε} :
    raiseIf p e = .error e' ↔ p ∧ e = e' := by
  by_cases h : p <;> simp [raiseIf, h]

@[simp] theorem orRaise_eq_error {e e' : ε} {x : Option α} :
    orRaise e x = .error e' ↔ x = none ∧ e = e' := by
  cases x <;> simp [orRaise]

/-- The block does not raise. -/
def Succeeds (x : Except ε α) : Prop := ∃ a, x = .ok a

@[simp] theorem succeeds_ok (a : α) : Succeeds (.ok a : Except ε α) := ⟨a, rfl⟩

@[simp] theorem not_succeeds_error (e : ε) : ¬ Succeeds (.error e : Except ε α) := by
  rintro ⟨a, ⟨⟩⟩

theorem succeeds_bind {β : Type w} {x : Except ε α} {f : α → Except ε β} :
    Succeeds (x >>= f) ↔ ∃ a, x = .ok a ∧ Succeeds (f a) := by
  unfold Succeeds
  simp only [bind_eq_ok]
  exact ⟨fun ⟨b, a, ha, hb⟩ => ⟨a, ha, b, hb⟩, fun ⟨a, ha, b, hb⟩ => ⟨b, a, ha, hb⟩⟩

theorem succeeds_raiseIf_bind {β : Type} {p : Prop} [Decidable p] {e : ε}
    {f : PUnit → Except ε β} : Succeeds (raiseIf p e >>= f) ↔ ¬ p ∧ Succeeds (f ⟨⟩) := by
  by_cases h : p <;> simp [raiseIf, h, bind, Except.bind]

theorem succeeds_raiseIf {p : Prop} [Decidable p] {e : ε} : Succeeds (raiseIf p e) ↔ ¬ p := by
  by_cases h : p <;> simp [raiseIf, h]

theorem succeeds_orRaise_bind {β : Type w} {x : Option α} {e : ε} {f : α → Except ε β} :
    Succeeds (orRaise e x >>= f) ↔ ∃ a, x = some a ∧ Succeeds (f a) := by
  simp [succeeds_bind]

/-- A block that raises leaves the state as it was. -/
def run (f : σ → Except ε (α × σ)) (s : σ) : Except ε α × σ :=
  match f s with
  | .ok (a, t) => (.ok a, t)
  | .error e => (.error e, s)

theorem run_eq {f : σ → Except ε (α × σ)} {s t : σ} {x : Except ε α} :
    run f s = (x, t) ↔ (∃ a, f s = .ok (a, t) ∧ x = .ok a) ∨
      ∃ e, f s = .error e ∧ x = .error e ∧ t = s := by
  unfold run
  cases f s with
  | ok r =>
    obtain ⟨a, d⟩ := r
    constructor
    · rintro ⟨⟩
      exact .inl ⟨a, rfl, rfl⟩
    · rintro (⟨_, ⟨⟩, rfl⟩ | ⟨_, ⟨⟩, _⟩)
      rfl
  | error e =>
    constructor
    · rintro ⟨⟩
      exact .inr ⟨e, rfl, rfl, rfl⟩
    · rintro (⟨_, ⟨⟩, _⟩ | ⟨_, ⟨⟩, rfl, rfl⟩)
      rfl

/-- A loop that executes one block for each item. -/
def forEach (f : α → σ → Except ε σ) : List α → σ → Except ε σ
  | [], s => .ok s
  | a :: as, s => f a s >>= forEach f as

/-- What each block of the loop keeps is kept by the loop. -/
theorem forEach_keeps {f : α → σ → Except ε σ} {p : σ → Prop} {as : List α} {s t : σ}
    (h : forEach f as s = .ok t) (hs : p s)
    (hstep : ∀ a ∈ as, ∀ s t, p s → f a s = .ok t → p t) : p t := by
  induction as generalizing s with
  | nil =>
    obtain rfl := Except.ok.inj h
    exact hs
  | cons a as ih =>
    obtain ⟨m, hm, ht⟩ := bind_eq_ok.1 h
    have hm' := hstep a (List.mem_cons_self ..) s m hs hm
    exact ih ht hm' fun b hb => hstep b (List.mem_cons_of_mem _ hb)

end DataJuicer.Transaction
