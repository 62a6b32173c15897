import Mathlib.Data.List.Forall2
import Mathlib.Logic.Relation

/-! # Backtracking regular expressions

Patterns over characters, matched as a backtracking matcher does it: the places where a match can
end come in the order in which they are tried, and the first of them is taken.
-/

namespace DataJuicer

/-- A place in a text: the character before it and the characters after it. -/
abbrev Cursor := Option Char × List Char

inductive Regex
  | empty
  | char (p : Char → Bool)
  | seq (r s : Regex)
  | alt (r s : Regex)
  /-- As often as possible. -/
  | star (r : Regex)
  /-- A condition on the place, such as a word boundary. -/
  | assert (p : Option Char → List Char → Bool)

namespace Regex

/-- Steps that make progress, as many as possible first. -/
def iterate (step : Cursor → List Cursor) : ℕ → Cursor → List Cursor
  | 0, c => [c]
  | n + 1, c => ((step c).filter fun d => d.2.length < c.2.length).flatMap (iterate step n) ++ [c]

/-- The places where a match from here can end. -/
def ends : Regex → Cursor → List Cursor
  | empty, c => [c]
  | char p, (_, x :: xs) => if p x then [(some x, xs)] else []
  | char _, (_, []) => []
  | seq r s, c => (r.ends c).flatMap s.ends
  | alt r s, c => r.ends c ++ s.ends c
  | star r, c => iterate r.ends c.2.length c
  | assert p, c => if p c.1 c.2 then [c] else []

theorem mem_iterate_succ {step : Cursor → List Cursor} {n : ℕ} {c d : Cursor} :
    d ∈ iterate step (n + 1) c ↔
      (∃ e ∈ step c, e.2.length < c.2.length ∧ d ∈ iterate step n e) ∨ d = c := by
  simp only [iterate, List.mem_append, List.mem_flatMap, List.mem_filter, decide_eq_true_iff,
    List.mem_singleton, and_assoc]

theorem mem_ends_char {p : Char → Bool} {prev : Option Char} {x : Char} {xs : List Char}
    {d : Cursor} : d ∈ (char p).ends (prev, x :: xs) ↔ p x = true ∧ d = (some x, xs) :=
  List.mem_ite_nil_right.trans (and_congr_right' List.mem_singleton)

theorem mem_ends_assert {p : Option Char → List Char → Bool} {c d : Cursor} :
    d ∈ (assert p).ends c ↔ p c.1 c.2 = true ∧ d = c :=
  List.mem_ite_nil_right.trans (and_congr_right' List.mem_singleton)

theorem ends_seq (r s : Regex) (c : Cursor) : (seq r s).ends c = (r.ends c).flatMap s.ends := rfl

theorem ends_alt (r s : Regex) (c : Cursor) : (alt r s).ends c = r.ends c ++ s.ends c := rfl

/-- `r+` -/
def plus (r : Regex) : Regex := seq r (star r)

/-- `r?` -/
def opt (r : Regex) : Regex := alt r empty

/-- `r{n}` followed by `s`. -/
def times (r : Regex) : ℕ → Regex → Regex
  | 0, s => s
  | n + 1, s => seq r (times r n s)

/-- `r{0,n}` -/
def upTo (r : Regex) : ℕ → Regex
  | 0 => empty
  | n + 1 => opt (seq r (upTo r n))

/-- The text, character by character up to `same`. -/
def text (same : Char → Char → Bool) (cs : List Char) : Regex :=
  cs.foldr (fun c r => seq (char (same c)) r) empty

/-- One of the patterns, in this order. -/
def choice : List Regex → Regex
  | [] => char fun _ => false
  | [r] => r
  | r :: rs => alt r (choice rs)

/-- The patterns, one after the other. -/
def concat (rs : List Regex) : Regex := rs.foldr seq empty

/-- `\b`, where `word` are the characters of `\w`. -/
def boundary (word : Char → Bool) : Regex :=
  assert fun prev rest => prev.any word != rest.head?.any word

/-- `(?<![p])` -/
def notBehind (p : Char → Bool) : Regex := assert fun prev _ => !prev.any p

/-- `$`, the end or a last newline. -/
def endOfText : Regex := assert fun _ rest => rest = [] || rest = ['\n']

/-- There is a match from a place of the text on. -/
def searchFrom (r : Regex) (prev : Option Char) : List Char → Bool
  | [] => !(r.ends (prev, [])).isEmpty
  | x :: xs => !(r.ends (prev, x :: xs)).isEmpty || r.searchFrom (some x) xs

/-- `pattern.search(text) is not None` -/
def search (r : Regex) (s : List Char) : Bool := r.searchFrom none s

/-- The first match at a place that is not empty. -/
def matchAt (r : Regex) (c : Cursor) : Option Cursor :=
  (r.ends c).find? fun d => d.2.length < c.2.length

/-- The text, cut into single characters and the matches, from left to right. -/
def tokens (r : Regex) : ℕ → Cursor → List (Char ⊕ List Char)
  | _, (_, []) => []
  | 0, _ => []
  | n + 1, (prev, x :: xs) =>
    match r.matchAt (prev, x :: xs) with
    | some d => .inr ((x :: xs).take ((x :: xs).length - d.2.length)) :: r.tokens n d
    | none => .inl x :: r.tokens n (some x, xs)

/-- `pattern.sub(repl, text)` -/
def sub (r : Regex) (repl : List Char → List Char) (s : List Char) : List Char :=
  (r.tokens s.length (none, s)).flatMap (Sum.elim (fun c => [c]) repl)

/-- The matches that are not empty, from left to right. -/
def findAll (r : Regex) (s : List Char) : List (List Char) :=
  (r.tokens s.length (none, s)).filterMap Sum.getRight?

/-- `pattern.fullmatch(text) is not None` -/
def fullMatch (r : Regex) (s : List Char) : Bool := (r.ends (none, s)).any fun d => d.2.isEmpty

section Places

variable {r s t : Regex} {c d : Cursor}

/-- A step of a repetition. -/
def Progress (r : Regex) (c d : Cursor) : Prop := d ∈ r.ends c ∧ d.2.length < c.2.length

theorem mem_iterate {n : ℕ} (h : c.2.length ≤ n) :
    d ∈ iterate r.ends n c ↔ Relation.ReflTransGen r.Progress c d := by
  induction n generalizing c with
  | zero =>
    refine ⟨fun hd => ?_, fun hd => ?_⟩
    · rw [List.mem_singleton.1 hd]
    · rcases hd.cases_head with rfl | ⟨e, he, -⟩
      · exact List.mem_singleton_self _
      · exact absurd he.2 (by omega)
  | succ n ih =>
    have hstep : ∀ e ∈ r.ends c, e.2.length < c.2.length →
        (d ∈ iterate r.ends n e ↔ Relation.ReflTransGen r.Progress e d) :=
      fun e _ hlt => ih (by omega)
    rw [mem_iterate_succ]
    constructor
    · rintro (⟨e, he, hlt, hd⟩ | rfl)
      · exact .head ⟨he, hlt⟩ ((hstep e he hlt).1 hd)
      · exact .refl
    · intro hd
      rcases hd.cases_head with rfl | ⟨e, ⟨he, hlt⟩, hd⟩
      · exact .inr rfl
      · exact .inl ⟨e, he, hlt, (hstep e he hlt).2 hd⟩

theorem mem_ends_star : d ∈ (star r).ends c ↔ Relation.ReflTransGen r.Progress c d :=
  mem_iterate (Nat.le_refl _)

/-- One character further. -/
def Advance (c d : Cursor) : Prop := ∃ x, c.2 = x :: d.2 ∧ d.1 = some x

theorem advances_of_mem_ends (h : d ∈ r.ends c) : Relation.ReflTransGen Advance c d := by
  induction r generalizing c d with
  | empty => rw [List.mem_singleton.1 h]
  | char p =>
    obtain ⟨prev, _ | ⟨x, xs⟩⟩ := c
    · cases h
    · rw [(mem_ends_char.1 h).2]
      exact .single ⟨x, rfl, rfl⟩
  | seq r s ihr ihs =>
    obtain ⟨e, he, hd⟩ := List.mem_flatMap.1 h
    exact (ihr he).trans (ihs hd)
  | alt r s ihr ihs =>
    rcases List.mem_append.1 h with h | h
    · exact ihr h
    · exact ihs h
  | star r ih =>
    have hd := mem_ends_star.1 h
    clear h
    induction hd with
    | refl => exact .refl
    | tail _ hstep hbefore => exact hbefore.trans (ih hstep.1)
  | assert p => rw [(mem_ends_assert.1 h).2]

/-- The first pattern matches only where the second matches there or later. -/
def Leads (r s : Regex) : Prop :=
  ∀ c, (∀ d, Relation.ReflTransGen Advance c d → s.ends d = []) → r.ends c = []

theorem Leads.refl (r : Regex) : Leads r r := fun c h => h c .refl

theorem Leads.left (h : Leads r t) : Leads (seq r s) t := by
  intro c hnone
  rw [ends_seq, h c hnone, List.flatMap_nil]

theorem Leads.right (h : Leads s t) : Leads (seq r s) t := by
  intro c hnone
  rw [ends_seq, List.flatMap_eq_nil_iff]
  exact fun d hd => h d fun e he => hnone e ((advances_of_mem_ends hd).trans he)

theorem Leads.alt {r' s' : Regex} (hr : Leads r r') (hs : Leads s s') :
    Leads (alt r s) (alt r' s') := by
  intro c hnone
  have hends : ∀ d, Relation.ReflTransGen Advance c d → r'.ends d = [] ∧ s'.ends d = [] :=
    fun d hd => List.append_eq_nil_iff.1 (hnone d hd)
  rw [ends_alt, hr c fun d hd => (hends d hd).1, hs c fun d hd => (hends d hd).2, List.append_nil]

theorem Leads.times (n : ℕ) (h : Leads s t) : Leads (times r n s) t := by
  induction n with
  | zero => exact h
  | succ n ih => exact ih.right

/-- What follows the repetition is left out. -/
theorem leads_times (r : Regex) (n : ℕ) (s : Regex) : Leads (times r n s) (times r n empty) := by
  have hends : ∀ c, (times r n empty).ends c = [] → (times r n s).ends c = [] := by
    induction n with
    | zero => exact fun c h => absurd h (List.cons_ne_nil _ _)
    | succ n ih =>
      intro c h
      rw [times, ends_seq, List.flatMap_eq_nil_iff] at h ⊢
      exact fun d hd => ih d (h d hd)
  exact fun c hnone => hends c (hnone c .refl)

theorem searchFrom_eq_false {prev : Option Char} {text : List Char} :
    r.searchFrom prev text = false ↔
      ∀ d, Relation.ReflTransGen Advance (prev, text) d → r.ends d = [] := by
  induction text generalizing prev with
  | nil =>
    rw [searchFrom, Bool.not_eq_false', List.isEmpty_iff]
    refine ⟨fun h d hd => ?_, fun h => h _ .refl⟩
    rcases hd.cases_head with rfl | ⟨e, ⟨x, hx, -⟩, -⟩
    · exact h
    · cases hx
  | cons x xs ih =>
    rw [searchFrom, Bool.or_eq_false_iff, Bool.not_eq_false', List.isEmpty_iff, ih]
    constructor
    · rintro ⟨hhere, hlater⟩ d hd
      rcases hd.cases_head with rfl | ⟨⟨p, rest⟩, ⟨y, hy, hp⟩, hd⟩
      · exact hhere
      · obtain ⟨rfl, rfl⟩ := List.cons.inj hy
        obtain rfl : p = some x := hp
        exact hlater d hd
    · exact fun h => ⟨h _ .refl, fun d hd => h d (.head ⟨x, rfl, rfl⟩ hd)⟩

/-- Where the second pattern is not found, the first is not found either. -/
theorem search_of_leads (h : Leads r s) {text : List Char} (hs : s.search text = false) :
    r.search text = false := by
  have hnone := searchFrom_eq_false.1 hs
  exact searchFrom_eq_false.2 fun d hd => h d fun e he => hnone e (hd.trans he)

theorem any_search_of_leads {rs ss : List Regex} (h : List.Forall₂ Leads rs ss)
    {text : List Char} (hs : ∀ s ∈ ss, s.search text = false) :
    rs.any (fun r => r.search text) = false := by
  induction h with
  | nil => rfl
  | cons hlead _ ih =>
    rw [List.forall_mem_cons] at hs
    rw [List.any_cons, search_of_leads hlead hs.1, ih hs.2]
    rfl

end Places

end Regex

end DataJuicer
