import DataJuicer.Lib.Run
import Mathlib.Logic.Function.Basic
import Mathlib.Logic.Relation

/-! # Interleaved programs

A program is a tree of atomic operations on a shared state. Threads run one operation at a
time in any order, between them the outside may act and end threads at any point. A
contract gives for one thread what the others may do, its rely, and what each of its own
operations has to meet, its guarantee.
-/

universe u v w

namespace DataJuicer

/-- A program returns or raises, or does one operation and goes on with its answer. -/
inductive Prog {ω : Type u} (Ans : ω → Type u) (ε α : Type u) : Type u
  | done (r : Except ε α) : Prog Ans ε α
  | act (op : ω) (next : Ans op → Prog Ans ε α) : Prog Ans ε α

namespace Prog

variable {ω : Type u} {Ans : ω → Type u} {ε α β : Type u}

def bind (p : Prog Ans ε α) (f : α → Prog Ans ε β) : Prog Ans ε β :=
  match p with
  | done (.ok a) => f a
  | done (.error e) => done (.error e)
  | act op next => act op fun a => (next a).bind f

instance : Monad (Prog Ans ε) where
  pure a := done (.ok a)
  bind := bind

def raise (e : ε) : Prog Ans ε α := done (.error e)

def raiseIf (p : Prop) [Decidable p] (e : ε) : Prog Ans ε PUnit :=
  if p then raise e else done (.ok ⟨⟩)

/-- Runs a program to its result, whether it returns or raises. -/
def attempt : Prog Ans ε α → Prog Ans ε (Except ε α)
  | done r => done (.ok r)
  | act op next => act op fun a => (next a).attempt

/-- The answer of one operation. -/
def perform (op : ω) : Prog Ans ε (Ans op) := act op fun a => done (.ok a)

/-- `try: p finally: cleanup`. -/
def finallyDo (p : Prog Ans ε α) (cleanup : Prog Ans ε PUnit) : Prog Ans ε α :=
  p.attempt.bind fun r => cleanup.bind fun _ => done r

@[simp] theorem bind_eq (p : Prog Ans ε α) (f : α → Prog Ans ε β) : p >>= f = p.bind f := rfl

@[simp] theorem pure_eq (a : α) : (pure a : Prog Ans ε α) = done (.ok a) := rfl

@[simp] theorem done_ok_bind (a : α) (f : α → Prog Ans ε β) : (done (.ok a)).bind f = f a := rfl

@[simp] theorem done_error_bind (e : ε) (f : α → Prog Ans ε β) :
    (done (.error e)).bind f = done (.error e) := rfl

@[simp] theorem raise_bind (e : ε) (f : α → Prog Ans ε β) : (raise e).bind f = raise e := rfl

@[simp] theorem perform_bind (op : ω) (f : Ans op → Prog Ans ε β) :
    (perform op).bind f = act op f := rfl

@[simp] theorem act_bind (op : ω) (next : Ans op → Prog Ans ε α) (f : α → Prog Ans ε β) :
    (act op next).bind f = act op fun a => (next a).bind f := rfl

theorem bind_assoc {γ : Type u} (p : Prog Ans ε α) (f : α → Prog Ans ε β)
    (g : β → Prog Ans ε γ) : (p.bind f).bind g = p.bind fun a => (f a).bind g := by
  induction p with
  | done r => cases r <;> rfl
  | act op next ih =>
    rw [act_bind, act_bind, act_bind]
    congr
    funext a
    exact ih a

/-- Runs a program alone: a state answers each operation, and the next one follows in another. -/
def runAlone {σ : Type v} (answer : σ → (op : ω) → Ans op) (after : σ → ω → σ) :
    Prog Ans ε α → σ → Except ε α × σ
  | done r, s => (r, s)
  | act op next, s => (next (answer s op)).runAlone answer after (after s op)

/-- Every operation the program may do satisfies `P`. -/
def AllOps (P : ω → Prop) : Prog Ans ε α → Prop
  | done _ => True
  | act op next => P op ∧ ∀ a, (next a).AllOps P

theorem AllOps.bind {P : ω → Prop} {p : Prog Ans ε α} {f : α → Prog Ans ε β}
    (hp : p.AllOps P) (hf : ∀ a, (f a).AllOps P) : (p.bind f).AllOps P := by
  induction p with
  | done r =>
    cases r with
    | ok a => exact hf a
    | error e => trivial
  | act op next ih =>
    obtain ⟨hop, hnext⟩ := hp
    exact ⟨hop, fun a => ih a (hnext a)⟩

end Prog

/-- What one thread relies on and guarantees while it runs operations. -/
structure Contract (σ : Type v) {ω : Type u} (Ans : ω → Type u) where
  exec : σ → (op : ω) → Ans op → Option σ
  rely : σ → σ → Prop
  guar : σ → (op : ω) → Ans op → σ → Prop

namespace Contract

variable {σ : Type v} {ω : Type u} {Ans : ω → Type u} {ε α β : Type u}

/-- An assertion that interference keeps. -/
def Stable (C : Contract σ Ans) (P : σ → Prop) : Prop := ∀ s s', P s → C.rely s s' → P s'

variable {C : Contract σ Ans}

theorem Stable.star {P : σ → Prop} (hP : C.Stable P) {s s' : σ}
    (hs : Relation.ReflTransGen C.rely s s') (h : P s) : P s' := by
  induction hs with
  | refl => exact h
  | tail _ hr ih => exact hP _ _ ih hr

theorem Stable.and {P Q : σ → Prop} (hP : C.Stable P) (hQ : C.Stable Q) :
    C.Stable fun s => P s ∧ Q s := by
  rintro s s' ⟨hp, hq⟩ hr
  exact ⟨hP s s' hp hr, hQ s s' hq hr⟩

end Contract

namespace Prog

section Ops

variable {ω : Type u} {Ans : ω → Type u} {ε α β : Type u} {P : ω → Prop}

theorem AllOps.attempt {p : Prog Ans ε α} (hp : p.AllOps P) : p.attempt.AllOps P := by
  induction p with
  | done r => trivial
  | act op next ih =>
    obtain ⟨hop, hnext⟩ := hp
    exact ⟨hop, fun a => ih a (hnext a)⟩

theorem AllOps.mono {Q : ω → Prop} {p : Prog Ans ε α} (hp : p.AllOps P) (hPQ : ∀ op, P op → Q op) :
    p.AllOps Q := by
  induction p with
  | done r => trivial
  | act op next ih =>
    obtain ⟨hop, hnext⟩ := hp
    exact ⟨hPQ op hop, fun a => ih a (hnext a)⟩

theorem AllOps.finallyDo {p : Prog Ans ε α} {cleanup : Prog Ans ε PUnit} (hp : p.AllOps P)
    (hc : cleanup.AllOps P) : (p.finallyDo cleanup).AllOps P :=
  hp.attempt.bind fun _ => hc.bind fun _ => trivial

/-- Every value the program may return satisfies `R`. -/
def Returns (R : α → Prop) : Prog Ans ε α → Prop
  | done r => ∀ a, r = .ok a → R a
  | act _ next => ∀ a, (next a).Returns R

theorem Returns.mono {R R' : α → Prop} {p : Prog Ans ε α} (h : p.Returns R)
    (hR : ∀ a, R a → R' a) : p.Returns R' := by
  induction p with
  | done r => exact fun a hr => hR a (h a hr)
  | act op next ih => exact fun a => ih a (h a)

theorem Returns.bind {R : β → Prop} (p : Prog Ans ε α) {f : α → Prog Ans ε β}
    (hf : ∀ a, (f a).Returns R) : (p.bind f).Returns R := by
  induction p with
  | done r =>
    cases r with
    | ok a => exact hf a
    | error e => exact fun _ h => nomatch h
  | act op next ih => exact fun a => ih a

end Ops

variable {σ : Type v} {ω : Type u} {Ans : ω → Type u} {ε α β : Type u} {C : Contract σ Ans}

/--
From a state the program meets its contract under any interference: each operation it does
is guaranteed, and it ends with `post`.
-/
def Meets (C : Contract σ Ans) (post : Except ε α → σ → Prop) : Prog Ans ε α → σ → Prop
  | done r, s => ∀ s', Relation.ReflTransGen C.rely s s' → post r s'
  | act op next, s => ∀ s', Relation.ReflTransGen C.rely s s' → ∀ a s'',
      C.exec s' op a = some s'' → C.guar s' op a s'' ∧ (next a).Meets C post s''

variable {post post' : Except ε α → σ → Prop}

theorem Meets.rely {p : Prog Ans ε α} {s s' : σ} (h : p.Meets C post s) (hr : C.rely s s') :
    p.Meets C post s' := by
  cases p with
  | done r => exact fun t ht => h t (.head hr ht)
  | act op next => exact fun t ht => h t (.head hr ht)

theorem Meets.mono {p : Prog Ans ε α} {s : σ} (h : p.Meets C post s)
    (hpost : ∀ r s, post r s → post' r s) : p.Meets C post' s := by
  induction p generalizing s with
  | done r => exact fun s' hs => hpost r s' (h s' hs)
  | act op next ih =>
    intro s' hs a s'' ha
    obtain ⟨hg, hn⟩ := h s' hs a s'' ha
    exact ⟨hg, ih a hn⟩

theorem meets_done {P : σ → Prop} {r : Except ε α} {s : σ} (hP : C.Stable P) (h : P s)
    (hpost : ∀ s, P s → post r s) : (done r : Prog Ans ε α).Meets C post s :=
  fun s' hs => hpost s' (hP.star hs h)

/-- The rule of one operation under a stable assertion. -/
theorem meets_act {P : σ → Prop} {op : ω} {next : Ans op → Prog Ans ε α} {s : σ}
    (hP : C.Stable P) (h : P s)
    (hstep : ∀ s a s', P s → C.exec s op a = some s' →
      C.guar s op a s' ∧ (next a).Meets C post s') :
    (act op next).Meets C post s :=
  fun s' hs a s'' ha => hstep s' a s'' (hP.star hs h) ha

/-- The rule of sequential composition. -/
theorem Meets.bind {p : Prog Ans ε α} {f : α → Prog Ans ε β} {post : Except ε β → σ → Prop}
    {mid : Except ε α → σ → Prop} {s : σ} (h : p.Meets C mid s)
    (hok : ∀ a s, mid (.ok a) s → (f a).Meets C post s)
    (herr : ∀ e s, mid (.error e) s → post (.error e) s) : (p.bind f).Meets C post s := by
  induction p generalizing s with
  | done r =>
    cases r with
    | ok a => exact hok a s (h s .refl)
    | error e => exact fun s' hs => herr e s' (h s' hs)
  | act op next ih =>
    intro s' hs a s'' ha
    obtain ⟨hg, hn⟩ := h s' hs a s'' ha
    exact ⟨hg, ih a hn⟩

theorem Meets.attempt {p : Prog Ans ε α} {s : σ} (h : p.Meets C post s) :
    p.attempt.Meets C (fun r s => ∃ q, r = .ok q ∧ post q s) s := by
  induction p generalizing s with
  | done r => exact fun s' hs => ⟨r, rfl, h s' hs⟩
  | act op next ih =>
    intro s' hs a s'' ha
    obtain ⟨hg, hn⟩ := h s' hs a s'' ha
    exact ⟨hg, ih a hn⟩

theorem Meets.returns {R : α → Prop} {p : Prog Ans ε α} {s : σ} (h : p.Meets C post s)
    (hR : p.Returns R) : p.Meets C (fun r s => post r s ∧ ∀ a, r = .ok a → R a) s := by
  induction p generalizing s with
  | done r => exact fun s' hs => ⟨h s' hs, hR⟩
  | act op next ih =>
    intro s' hs a s'' ha
    obtain ⟨hg, hn⟩ := h s' hs a s'' ha
    exact ⟨hg, ih a hn (hR a)⟩

theorem Meets.attempt_bind {p : Prog Ans ε α} {f : Except ε α → Prog Ans ε β}
    {post' : Except ε β → σ → Prop} {s : σ} (h : p.Meets C post s)
    (hf : ∀ r s, post r s → (f r).Meets C post' s) : (p.attempt.bind f).Meets C post' s := by
  refine h.attempt.bind (fun r s hr => ?_) fun e s hr => ?_
  · obtain ⟨q, hq, hpost⟩ := hr
    cases hq
    exact hf r s hpost
  · obtain ⟨q, hq, -⟩ := hr
    cases hq

/-- The frame rule: what every operation of a program keeps is kept by the program. -/
theorem Meets.frame {Q : ω → Prop} {F : σ → Prop} {p : Prog Ans ε α} {s : σ}
    (h : p.Meets C post s) (hp : p.AllOps Q)
    (hop : ∀ op, Q op → ∀ s a s', F s → C.exec s op a = some s' → F s') (hF : C.Stable F)
    (hs : F s) : p.Meets C (fun r s => post r s ∧ F s) s := by
  induction p generalizing s with
  | done r => exact fun s' hs' => ⟨h s' hs', hF.star hs' hs⟩
  | act op next ih =>
    obtain ⟨hq, hnext⟩ := hp
    intro s' hs' a s'' ha
    obtain ⟨hg, hn⟩ := h s' hs' a s'' ha
    exact ⟨hg, ih a hn (hnext a) (hop op hq s' a s'' (hF.star hs' hs) ha)⟩

/-- A program whose operations are guaranteed and keep an assertion keeps it. -/
theorem AllOps.keeps {Q : ω → Prop} {P : σ → Prop} {p : Prog Ans ε α} (hp : p.AllOps Q)
    (hop : ∀ op, Q op → ∀ s a s', P s → C.exec s op a = some s' → P s' ∧ C.guar s op a s')
    (hP : C.Stable P) {s : σ} (h : P s) : p.Meets C (fun _ s => P s) s := by
  induction p generalizing s with
  | done r => exact meets_done hP h fun _ h => h
  | act op next ih =>
    obtain ⟨hq, hnext⟩ := hp
    refine meets_act hP h fun s a s' hs ha => ?_
    obtain ⟨hs', hg⟩ := hop op hq s a s' hs ha
    exact ⟨hg, ih a (hnext a) hs'⟩

end Prog

/-- The operations of threads `τ`, and what the outside does to the state and the threads. -/
structure Machine (σ : Type v) (τ ν : Type w) {ω : Type u} (Ans : ω → Type u) where
  exec : τ → σ → (op : ω) → Ans op → Option σ
  outside : σ → ν → Option σ
  ends : ν → τ → Bool

/-- A shared state with what remains of each thread; a thread that has ended is `none`. -/
structure Pool (σ : Type v) (τ : Type w) {ω : Type u} (Ans : ω → Type u) (ε α : Type u) where
  shared : σ
  threads : τ → Option (Prog Ans ε α)

/-- A step of a pool: an operation of a thread with its answer, or a step of the outside. -/
inductive PoolEvent (τ ν : Type w) {ω : Type u} (Ans : ω → Type u)
  | act (t : τ) (op : ω) (answer : Ans op)
  | outside (n : ν)

namespace Machine

variable {σ : Type v} {τ ν : Type w} {ω : Type u} {Ans : ω → Type u} {ε α : Type u}
variable [DecidableEq τ] [DecidableEq ω]

def next? (M : Machine σ τ ν Ans) (p : Pool σ τ Ans ε α) :
    PoolEvent τ ν Ans → Option (Pool σ τ Ans ε α)
  | .act t op a =>
    match p.threads t with
    | some (.act op' next) =>
      if h : op = op' then
        (M.exec t p.shared op a).map fun s =>
          ⟨s, Function.update p.threads t (some (next (h ▸ a)))⟩
      else none
    | _ => none
  | .outside n =>
    (M.outside p.shared n).map fun s =>
      ⟨s, fun t => if M.ends n t then none else p.threads t⟩

def Step (M : Machine σ τ ν Ans) (p : Pool σ τ Ans ε α) (e : PoolEvent τ ν Ans)
    (q : Pool σ τ Ans ε α) : Prop := M.next? p e = some q

theorem step_act_iff {M : Machine σ τ ν Ans} {p q : Pool σ τ Ans ε α} {t : τ} {op : ω}
    {a : Ans op} : M.Step p (.act t op a) q ↔
      ∃ next, p.threads t = some (.act op next) ∧ M.exec t p.shared op a = some q.shared ∧
        q.threads = Function.update p.threads t (some (next a)) := by
  constructor
  · intro h
    simp only [Step, next?] at h
    split at h
    · next op' next ht =>
      split at h
      · next hop =>
        subst hop
        obtain ⟨s, hs, rfl⟩ := Option.map_eq_some_iff.1 h
        exact ⟨next, ht, hs, rfl⟩
      · cases h
    · cases h
  · rintro ⟨next, ht, hs, hq⟩
    obtain ⟨s, threads⟩ := q
    simp only at hs hq
    subst hq
    simp [Step, next?, ht, hs]

theorem step_outside_iff {M : Machine σ τ ν Ans} {p q : Pool σ τ Ans ε α} {n : ν} :
    M.Step p (.outside n) q ↔ M.outside p.shared n = some q.shared ∧
      q.threads = fun t => if M.ends n t then none else p.threads t := by
  constructor
  · intro h
    obtain ⟨s, hs, rfl⟩ := Option.map_eq_some_iff.1 h
    exact ⟨hs, rfl⟩
  · rintro ⟨hs, hq⟩
    obtain ⟨s, threads⟩ := q
    simp only at hs hq
    subst hq
    simp [Step, next?, hs]

def play (M : Machine σ τ ν Ans) (p : Pool σ τ Ans ε α) : List (PoolEvent τ ν Ans) →
    Option (List (Transition (Pool σ τ Ans ε α) (PoolEvent τ ν Ans)) × Pool σ τ Ans ε α)
  | [] => some ([], p)
  | e :: es => do
    let q ← M.next? p e
    let (xs, r) ← M.play q es
    return (⟨p, e, q⟩ :: xs, r)

theorem run_of_play {M : Machine σ τ ν Ans} {p r : Pool σ τ Ans ε α}
    {es : List (PoolEvent τ ν Ans)} {xs} (h : M.play p es = some (xs, r)) :
    Run M.Step p xs r := by
  induction es generalizing p xs with
  | nil =>
    obtain ⟨rfl, rfl⟩ : xs = [] ∧ r = p := by simpa [play, eq_comm] using h
    exact .nil _
  | cons e es ih =>
    obtain ⟨q, hq, hrest⟩ := Option.bind_eq_some_iff.1 h
    obtain ⟨⟨ys, r'⟩, hys, hout⟩ := Option.bind_eq_some_iff.1 hrest
    obtain ⟨rfl, rfl⟩ : ⟨p, e, q⟩ :: ys = xs ∧ r' = r := by simpa using hout
    have hstep : M.Step p e q := hq
    exact (Run.single hstep).append (ih hys)

/-- The threads of a pool meet their contracts. -/
def Sound (M : Machine σ τ ν Ans) (rely : τ → σ → σ → Prop)
    (guar : τ → σ → (op : ω) → Ans op → σ → Prop) (p : Pool σ τ Ans ε α) : Prop :=
  ∀ t q, p.threads t = some q →
    q.Meets ⟨M.exec t, rely t, guar t⟩ (fun _ _ => True) p.shared

/-- The threads of a pool meet their contracts, and end with their assertions. -/
def Correct (M : Machine σ τ ν Ans) (rely : τ → σ → σ → Prop)
    (guar : τ → σ → (op : ω) → Ans op → σ → Prop) (post : τ → Except ε α → σ → Prop)
    (p : Pool σ τ Ans ε α) : Prop :=
  ∀ t q, p.threads t = some q → q.Meets ⟨M.exec t, rely t, guar t⟩ (post t) p.shared

/-- A pool stays correct, and each operation it takes is guaranteed by its thread. -/
theorem Correct.step {M : Machine σ τ ν Ans} {rely : τ → σ → σ → Prop}
    {guar : τ → σ → (op : ω) → Ans op → σ → Prop} {post : τ → Except ε α → σ → Prop}
    {p q : Pool σ τ Ans ε α} {e : PoolEvent τ ν Ans} (hp : M.Correct rely guar post p)
    (h : M.Step p e q)
    (hthread : ∀ t u s op a s', t ≠ u → M.exec t s op a = some s' → guar t s op a s' →
      rely u s s')
    (houtside : ∀ n u s s', M.ends n u = false → M.outside s n = some s' → rely u s s') :
    M.Correct rely guar post q ∧
      ∀ t op a, e = .act t op a → guar t p.shared op a q.shared := by
  cases e with
  | act t op a =>
    obtain ⟨next, ht, hs, hq⟩ := step_act_iff.1 h
    obtain ⟨hg, hn⟩ := hp t _ ht p.shared .refl a q.shared hs
    constructor
    · intro u r hu
      rw [hq] at hu
      by_cases hut : u = t
      · subst hut
        rw [Function.update_self] at hu
        cases hu
        exact hn
      · rw [Function.update_of_ne hut] at hu
        exact (hp u r hu).rely (hthread t u _ _ _ _ (Ne.symm hut) hs hg)
    · intro t' op' a' he
      cases he
      exact hg
  | outside n =>
    obtain ⟨hs, hq⟩ := step_outside_iff.1 h
    constructor
    · intro u r hu
      rw [hq] at hu
      cases hend : M.ends n u with
      | true => simp [hend] at hu
      | false =>
        simp only [hend, Bool.false_eq_true, if_false] at hu
        exact (hp u r hu).rely (houtside n u _ _ hend hs)
    · intro t op a he
      cases he

theorem Correct.run {M : Machine σ τ ν Ans} {rely : τ → σ → σ → Prop}
    {guar : τ → σ → (op : ω) → Ans op → σ → Prop} {post : τ → Except ε α → σ → Prop}
    {p q : Pool σ τ Ans ε α}
    {xs : List (Transition (Pool σ τ Ans ε α) (PoolEvent τ ν Ans))}
    (hp : M.Correct rely guar post p) (h : Run M.Step p xs q)
    (hthread : ∀ t u s op a s', t ≠ u → M.exec t s op a = some s' → guar t s op a s' →
      rely u s s')
    (houtside : ∀ n u s s', M.ends n u = false → M.outside s n = some s' → rely u s s') :
    M.Correct rely guar post q ∧ ∀ x ∈ xs, ∀ t op a, x.label = .act t op a →
      guar t x.pre.shared op a x.post.shared := by
  have hok : ∀ x ∈ xs, True := fun _ _ => trivial
  have hinv := h.invariant hp hok fun x hx _ hs => (hx.step hs hthread houtside).1
  refine ⟨hinv.1, fun x hx => ?_⟩
  exact ((hinv.2 x hx).1.step (h.step_of_mem hx) hthread houtside).2

/-- Along every run from a sound pool each operation is guaranteed by its thread. -/
theorem Sound.run {M : Machine σ τ ν Ans} {rely : τ → σ → σ → Prop}
    {guar : τ → σ → (op : ω) → Ans op → σ → Prop} {p q : Pool σ τ Ans ε α}
    {xs : List (Transition (Pool σ τ Ans ε α) (PoolEvent τ ν Ans))}
    (hp : M.Sound rely guar p) (h : Run M.Step p xs q)
    (hthread : ∀ t u s op a s', t ≠ u → M.exec t s op a = some s' → guar t s op a s' →
      rely u s s')
    (houtside : ∀ n u s s', M.ends n u = false → M.outside s n = some s' → rely u s s') :
    ∀ x ∈ xs, ∀ t op a, x.label = .act t op a → guar t x.pre.shared op a x.post.shared := by
  have hcorrect : M.Correct rely guar (fun _ _ _ => True) p := hp
  exact (hcorrect.run h hthread houtside).2

end Machine

end DataJuicer
