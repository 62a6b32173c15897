import DataJuicer.Lib.Regex

/-! # What redaction leaves

Patterns are substituted in a text one after the other, and the result is closed up or cut. The
characters of the result are marked where the text was changed. A match of one of the patterns that
is left takes in such a place: everything else was replaced.
-/

namespace DataJuicer

namespace Regex

/-- Conditions on places look at the characters beside them only. -/
def Local : Regex → Prop
  | empty | char _ => True
  | seq r s | alt r s => r.Local ∧ s.Local
  | star r => r.Local
  | assert p => ∀ prev rest rest', rest.head? = rest'.head? → p prev rest = p prev rest'

/-- The pattern may match without a character. -/
def nullable : Regex → Bool
  | empty | star _ | assert _ => true
  | char _ => false
  | seq r s => r.nullable && s.nullable
  | alt r s => r.nullable || s.nullable

section Places

variable {r s : Regex} {c d : Cursor} {prev : Option Char}

theorem suffix_of_advances (h : Relation.ReflTransGen Advance c d) : d.2 <:+ c.2 := by
  induction h with
  | refl => exact List.suffix_rfl
  | @tail e d _ hstep ih =>
    obtain ⟨x, hx, -⟩ := hstep
    have hsuffix : d.2 <:+ e.2 := by
      rw [hx]
      exact List.suffix_cons x d.2
    exact hsuffix.trans ih

theorem eq_of_advances (h : Relation.ReflTransGen Advance c d) (hlen : d.2.length = c.2.length) :
    d = c := by
  rcases h.cases_head with rfl | ⟨e, ⟨x, hx, -⟩, hrest⟩
  · rfl
  · have hle := (suffix_of_advances hrest).length_le
    rw [hx, List.length_cons] at hlen
    omega

theorem suffix_of_mem_ends (h : d ∈ r.ends c) : d.2 <:+ c.2 :=
  suffix_of_advances (advances_of_mem_ends h)

theorem length_lt_of_mem_ends (hr : r.nullable = false) (h : d ∈ r.ends c) :
    d.2.length < c.2.length := by
  induction r generalizing c d with
  | empty => cases hr
  | star => cases hr
  | assert => cases hr
  | char p =>
    obtain ⟨prev, _ | ⟨x, xs⟩⟩ := c
    · cases h
    · rw [(mem_ends_char.1 h).2]
      exact Nat.lt_succ_self _
  | seq r s ihr ihs =>
    obtain ⟨e, he, hd⟩ := List.mem_flatMap.1 h
    have hle := (suffix_of_mem_ends hd).length_le
    have hle' := (suffix_of_mem_ends he).length_le
    rcases Bool.and_eq_false_iff.1 hr with hr | hr
    · have hlt := ihr hr he
      omega
    · have hlt := ihs hr hd
      omega
  | alt r s ihr ihs =>
    obtain ⟨hr, hs⟩ := Bool.or_eq_false_iff.1 hr
    rcases List.mem_append.1 h with h | h
    · exact ihr hr h
    · exact ihs hs h

theorem matchAt_eq_some (h : r.matchAt c = some d) : d ∈ r.ends c ∧ d.2.length < c.2.length := by
  unfold matchAt at h
  exact ⟨List.mem_of_find?_eq_some h, by simpa using List.find?_some h⟩

/-- What comes after the character behind a match does not matter. -/
theorem ends_of_same_head {b b' : List Char} (hb : b.head? = b'.head?) (hr : r.Local)
    {m : List Char} (h : d ∈ r.ends (prev, m ++ b)) (hlen : b.length ≤ d.2.length) :
    ∃ m', d.2 = m' ++ b ∧ (d.1, m' ++ b') ∈ r.ends (prev, m ++ b') := by
  induction r generalizing prev m d with
  | empty =>
    obtain rfl := List.mem_singleton.1 h
    exact ⟨m, rfl, List.mem_singleton_self _⟩
  | char p =>
    cases m with
    | nil =>
      have hlt : d.2.length < b.length := length_lt_of_mem_ends (r := char p) rfl h
      omega
    | cons x m =>
      rw [List.cons_append] at h ⊢
      obtain ⟨hp, rfl⟩ := mem_ends_char.1 h
      exact ⟨m, rfl, mem_ends_char.2 ⟨hp, rfl⟩⟩
  | seq r s ihr ihs =>
    obtain ⟨e, he, hd⟩ := List.mem_flatMap.1 h
    obtain ⟨m₁, he₁, hmem₁⟩ := ihr hr.1 he (Nat.le_trans hlen (suffix_of_mem_ends hd).length_le)
    obtain ⟨prev₁, rest₁⟩ := e
    obtain rfl : rest₁ = m₁ ++ b := he₁
    obtain ⟨m₂, hd₂, hmem₂⟩ := ihs hr.2 hd hlen
    exact ⟨m₂, hd₂, List.mem_flatMap.2 ⟨_, hmem₁, hmem₂⟩⟩
  | alt r s ihr ihs =>
    rcases List.mem_append.1 h with h | h
    · obtain ⟨m', hd, hmem⟩ := ihr hr.1 h hlen
      exact ⟨m', hd, List.mem_append_left _ hmem⟩
    · obtain ⟨m', hd, hmem⟩ := ihs hr.2 h hlen
      exact ⟨m', hd, List.mem_append_right _ hmem⟩
  | star r ih =>
    suffices hsteps : ∃ m', d.2 = m' ++ b ∧
        Relation.ReflTransGen r.Progress (prev, m ++ b') (d.1, m' ++ b') by
      obtain ⟨m', hd, hmem⟩ := hsteps
      exact ⟨m', hd, mem_ends_star.2 hmem⟩
    have hd := mem_ends_star.1 h
    clear h
    induction hd with
    | refl => exact ⟨m, rfl, .refl⟩
    | @tail e d _ hstep ihe =>
      obtain ⟨m₁, he₁, hsteps⟩ := ihe (Nat.le_trans hlen (Nat.le_of_lt hstep.2))
      obtain ⟨prev₁, rest₁⟩ := e
      obtain rfl : rest₁ = m₁ ++ b := he₁
      obtain ⟨m₂, hd₂, hmem₂⟩ := ih hr hstep.1 hlen
      refine ⟨m₂, hd₂, hsteps.tail ⟨hmem₂, ?_⟩⟩
      have hlt := hstep.2
      rw [hd₂] at hlt
      simp only [List.length_append] at hlt ⊢
      omega
  | assert p =>
    have hsame : p prev (m ++ b) = p prev (m ++ b') := by
      refine hr prev _ _ ?_
      cases m with
      | nil => exact hb
      | cons x m => rfl
    obtain ⟨hp, rfl⟩ := mem_ends_assert.1 h
    exact ⟨m, rfl, mem_ends_assert.2 ⟨hsame ▸ hp, rfl⟩⟩

end Places

end Regex

/-- A character, and whether the text was changed before it. -/
abbrev Cell := Char × Bool

/-- A text with marks where it was changed, and a mark of its end. -/
structure Marked where
  cells : List Cell
  last : Bool

namespace Marked

def chars (cells : List Cell) : List Char := cells.map Prod.fst

def ofText (s : List Char) : Marked := ⟨s.map fun c => (c, false), false⟩

def text (u : Marked) : List Char := chars u.cells

def changedBefore (last : Bool) : List Cell → Bool
  | [] => last
  | c :: _ => c.2

/-- Nothing was changed before, in or right behind the first characters. -/
def Clear (last : Bool) (k : ℕ) (cells : List Cell) : Prop :=
  (∀ c ∈ cells.take k, c.2 = false) ∧ changedBefore last (cells.drop k) = false

instance (last : Bool) (k : ℕ) : DecidablePred (Clear last k) :=
  fun cells => inferInstanceAs (Decidable ((∀ c ∈ cells.take k, c.2 = false) ∧ _))

/-- A match that starts at a place of this kind and takes in no place where the text was changed. -/
def StandsFrom (r : Regex) (K : Option Char → List Char → Prop) (last : Bool) :
    Option Char → List Cell → Prop
  | _, [] => False
  | prev, c :: cells =>
    (K prev (chars (c :: cells)) ∧ ∃ d ∈ r.ends (prev, chars (c :: cells)),
      Clear last ((c :: cells).length - d.2.length) (c :: cells)) ∨
        StandsFrom r K last (some c.1) cells

/-- The second text comes from the first: characters are kept at places of this kind, dropped, or
put in, and what comes next is marked. -/
inductive Edited (K : Option Char → List Char → Prop) (last last' : Bool) :
    Bool → Option Char → List Cell → List Cell → Prop
  | nil {changed : Bool} {prev : Option Char} (h : changed || last → last') :
    Edited K last last' changed prev [] []
  | keep {changed : Bool} {prev : Option Char} {x : Char} {b b' : Bool} {s s' : List Cell}
    (hplace : K prev (x :: chars s)) (hmark : changed || b → b')
    (h : Edited K last last' false (some x) s s') :
    Edited K last last' changed prev ((x, b) :: s) ((x, b') :: s')
  | drop {changed : Bool} {prev : Option Char} {c : Cell} {s s' : List Cell}
    (h : Edited K last last' true (some c.1) s s') : Edited K last last' changed prev (c :: s) s'
  | insert {changed : Bool} {prev : Option Char} {x : Char} {s s' : List Cell}
    (h : Edited K last last' true prev s s') : Edited K last last' changed prev s ((x, true) :: s')

/-- `pattern.sub`, where what is put in and what follows it are marked. -/
def substituteFrom (r : Regex) (repl : List Char) (last : Bool) :
    ℕ → Bool → Option Char → List Cell → Marked
  | _, changed, _, [] => ⟨[], changed || last⟩
  | 0, _, _, _ :: _ => ⟨[], true⟩
  | n + 1, changed, prev, c :: cells =>
    match r.matchAt (prev, chars (c :: cells)) with
    | some d =>
      let rest := substituteFrom r repl last n true d.1
        ((c :: cells).drop ((c :: cells).length - d.2.length))
      ⟨repl.map (fun x => (x, true)) ++ rest.cells, rest.last⟩
    | none =>
      let rest := substituteFrom r repl last n false (some c.1) cells
      ⟨(c.1, changed || c.2) :: rest.cells, rest.last⟩

def substitute (u : Marked) (r : Regex × List Char) : Marked :=
  substituteFrom r.1 r.2 u.last u.cells.length false none u.cells

def followFrom (last : Bool) : Bool → List Cell → List Char → Marked
  | changed, cells, [] => ⟨[], changed || last || !cells.isEmpty⟩
  | changed, cells, x :: out =>
    if x = ' ' ∧ cells.head?.map Prod.fst ≠ some ' ' then
      let rest := followFrom last true cells out
      ⟨(x, true) :: rest.cells, rest.last⟩
    else
      match cells.dropWhile fun c => c.1 != x with
      | [] =>
        let rest := followFrom last true [] out
        ⟨(x, true) :: rest.cells, rest.last⟩
      | c :: cells' =>
        let rest := followFrom last false cells' out
        ⟨(c.1, changed || c.2 || cells'.length + 1 != cells.length) :: rest.cells, rest.last⟩

/-- A text of which the first character is marked if `b`. -/
def markFirst (b : Bool) : List Char → List Cell
  | [] => []
  | x :: s => (x, b) :: s.map fun x => (x, false)

/-- The lines, put together; the ends of lines are marked. -/
def joinCells (sep : Char) : Bool → List (List Char) → List Cell
  | _, [] => []
  | b, [l] => markFirst b l
  | b, l :: ls => markFirst b l ++ (sep, true) :: joinCells sep true ls

def joinLines (sep : Char) (ls : List (List Char)) : Marked := ⟨joinCells sep false ls, false⟩

/-- What is shown of the text, read along it: characters are kept or left out, and spaces and what
cannot be found in the rest are put in. -/
def follow (u : Marked) (out : List Char) : Marked := followFrom u.last false u.cells out

section Edits

variable {r : Regex} {K K' : Option Char → List Char → Prop} {last last' changed : Bool}
  {prev prev' : Option Char} {s s' : List Cell} {k : ℕ}

theorem Edited.changedBefore (h : Edited K last last' changed prev s s') (hchanged : changed) :
    changedBefore last' s' = true := by
  induction h with
  | nil h => exact h (Bool.or_eq_true _ _ ▸ .inl hchanged)
  | keep _ hmark => exact hmark (Bool.or_eq_true _ _ ▸ .inl hchanged)
  | drop _ ih => exact ih rfl
  | insert => rfl

/-- Where the mark is missing, nothing was changed. -/
theorem Edited.inv (h : Edited K last last' changed prev s s')
    (hmark : Marked.changedBefore last' s' = false) : changed = false ∧
      (s = [] ∧ s' = [] ∧ last = false ∨ ∃ x t t', s = (x, false) :: t ∧ s' = (x, false) :: t' ∧
        K prev (x :: chars t) ∧ Edited K last last' false (some x) t t') := by
  cases h with
  | nil h =>
    have hnot : ¬ (changed || last) = true := fun htrue => by
      rw [show last' = false from hmark] at h
      exact Bool.false_ne_true (h htrue)
    rw [Bool.not_eq_true, Bool.or_eq_false_iff] at hnot
    exact ⟨hnot.1, .inl ⟨rfl, rfl, hnot.2⟩⟩
  | @keep _ _ x b b' t t' hplace hmark' h =>
    obtain rfl : b' = false := hmark
    have hnot : ¬ (changed || b) = true := fun htrue => Bool.false_ne_true (hmark' htrue)
    rw [Bool.not_eq_true, Bool.or_eq_false_iff] at hnot
    obtain ⟨hchanged, rfl⟩ := hnot
    exact ⟨hchanged, .inr ⟨x, t, t', rfl, rfl, hplace, h⟩⟩
  | drop h =>
    rw [h.changedBefore rfl] at hmark
    cases hmark
  | insert => cases hmark

theorem Clear.changedBefore (h : Clear last k s) : Marked.changedBefore last s = false := by
  cases k with
  | zero => exact h.2
  | succ k =>
    cases s with
    | nil => exact h.2
    | cons c s => exact h.1 c List.mem_cons_self

theorem length_chars : (chars s).length = s.length := List.length_map _

theorem exists_ends_of_window {m b b' : List Cell} {d : Cursor} (hlocal : r.Local)
    (hhead : (chars b).head? = (chars b').head?) (hd : d ∈ r.ends (prev, chars (m ++ b')))
    (hm : m.length = (m ++ b').length - d.2.length) (hle : d.2.length ≤ (m ++ b').length) :
    ∃ e ∈ r.ends (prev, chars (m ++ b)), (m ++ b).length - e.2.length = m.length := by
  rw [chars, List.map_append] at hd
  rw [List.length_append] at hm hle
  obtain ⟨m', hd', hmem⟩ := Regex.ends_of_same_head hhead.symm hlocal hd (by
    rw [length_chars]
    omega)
  have hm' : m' = [] := by
    have hlen := congrArg List.length hd'
    rw [List.length_append, length_chars] at hlen
    exact List.eq_nil_of_length_eq_zero (by omega)
  subst hm'
  refine ⟨(d.1, [] ++ chars b), ?_, ?_⟩
  · rw [chars, List.map_append]
    exact hmem
  · rw [List.nil_append, length_chars, List.length_append]
    omega

theorem StandsFrom.mono {K' : Option Char → List Char → Prop} (hK : ∀ p t, K p t → K' p t)
    (h : StandsFrom r K last prev s) : StandsFrom r K' last prev s := by
  induction s generalizing prev with
  | nil => exact h
  | cons c s ih =>
    refine Or.imp ?_ ih h
    rintro ⟨hplace, hmatch⟩
    exact ⟨hK _ _ hplace, hmatch⟩

theorem Clear.of_append {rest : List Cell} (hrest : Marked.changedBefore last rest = true)
    (h : Clear last k (s ++ rest)) : k < s.length ∧ Clear true k s := by
  obtain ⟨htake, hdrop⟩ := h
  have hlt : k < s.length := by
    by_contra hge
    obtain ⟨j, rfl⟩ := Nat.exists_eq_add_of_le (Nat.not_lt.1 hge)
    rw [List.drop_append, List.drop_of_length_le (Nat.le_add_right _ _), List.nil_append,
      Nat.add_sub_cancel_left] at hdrop
    rw [List.take_append, Nat.add_sub_cancel_left] at htake
    have hclear : Clear last j rest := ⟨fun c hc => htake c (List.mem_append_right _ hc), hdrop⟩
    rw [hclear.changedBefore] at hrest
    cases hrest
  have hle := Nat.le_of_lt hlt
  rw [List.take_append_of_le_length hle] at htake
  rw [List.drop_append_of_le_length hle] at hdrop
  obtain ⟨x, t, ht⟩ := List.exists_cons_of_length_pos (l := s.drop k) (by
    rw [List.length_drop]
    omega)
  rw [ht] at hdrop
  refine ⟨hlt, htake, ?_⟩
  rw [ht]
  exact hdrop

theorem exists_ends_of_append {rest : List Cell} {d : Cursor} (hlocal : r.Local)
    (hd : d ∈ r.ends (prev, chars (s ++ rest))) (hk : (s ++ rest).length - d.2.length = k)
    (hlt : k < s.length) : ∃ e ∈ r.ends (prev, chars s), s.length - e.2.length = k := by
  have hle : d.2.length ≤ (s ++ rest).length := by
    rw [← length_chars]
    exact (Regex.suffix_of_mem_ends hd).length_le
  have hsplit : s ++ rest = s.take k ++ (s.drop k ++ rest) := by
    rw [← List.append_assoc, List.take_append_drop]
  obtain ⟨x, t, ht⟩ := List.exists_cons_of_length_pos (l := s.drop k) (by
    rw [List.length_drop]
    omega)
  have hhead : (chars (s.drop k)).head? = (chars (s.drop k ++ rest)).head? := by
    rw [ht]
    rfl
  have hm : (s.take k).length = k := List.length_take_of_le (Nat.le_of_lt hlt)
  rw [hsplit] at hd hk hle
  obtain ⟨e, he, hlen⟩ := exists_ends_of_window hlocal hhead hd (hm.trans hk.symm) hle
  rw [List.take_append_drop] at he hlen
  exact ⟨e, he, hlen.trans hm⟩

/-- A match that takes in no change ends before a change. -/
theorem StandsFrom.of_append {rest : List Cell} (hlocal : r.Local)
    (hrest : Marked.changedBefore last rest = true)
    (h : StandsFrom r (fun _ _ => True) last prev (s ++ rest)) :
    StandsFrom r (fun _ _ => True) true prev s ∨
      ∃ prev, StandsFrom r (fun _ _ => True) last prev rest := by
  induction s generalizing prev with
  | nil => exact .inr ⟨prev, h⟩
  | cons c s ih =>
    rcases h with ⟨-, d, hd, hclear⟩ | h
    · obtain ⟨hlt, hclear⟩ := Clear.of_append (s := c :: s) hrest hclear
      obtain ⟨e, he, hlen⟩ := exists_ends_of_append (s := c :: s) hlocal hd rfl hlt
      exact .inl (Or.inl ⟨trivial, e, he, hlen ▸ hclear⟩)
    · exact (ih h).imp_left Or.inr

/-- A match is dropped as a whole. -/
theorem Edited.skip {d : Cursor} (hadvance : Relation.ReflTransGen Regex.Advance (prev, chars s) d)
    (hlt : d.2.length < s.length)
    (h : Edited K last last' true d.1 (s.drop (s.length - d.2.length)) s') :
    Edited K last last' changed prev s s' := by
  induction s generalizing prev changed with
  | nil => cases hlt
  | cons c s ih =>
    rcases hadvance.cases_head with rfl | ⟨e, ⟨x, hx, he⟩, hadvance⟩
    · rw [length_chars] at hlt
      exact absurd hlt (Nat.lt_irrefl _)
    · obtain ⟨prev', rest⟩ := e
      obtain ⟨rfl, rfl⟩ : c.1 = x ∧ chars s = rest := List.cons.inj hx
      obtain rfl : prev' = some c.1 := he
      have hle : d.2.length ≤ (chars s).length := (Regex.suffix_of_advances hadvance).length_le
      rw [length_chars] at hle
      rw [List.length_cons, Nat.succ_sub hle, List.drop_succ_cons] at h
      refine .drop ?_
      rcases Nat.lt_or_eq_of_le hle with hlt | heq
      · exact ih hadvance hlt h
      · have hd := Regex.eq_of_advances hadvance (heq.trans length_chars.symm)
        rw [heq, Nat.sub_self, List.drop_zero, hd] at h
        exact h

theorem chars_substituteFrom (repl : List Char) (n : ℕ) :
    chars (substituteFrom r repl last n changed prev s).cells =
      (r.tokens n (prev, chars s)).flatMap (Sum.elim (fun c => [c]) fun _ => repl) := by
  induction n generalizing changed prev s with
  | zero => cases s <;> rfl
  | succ n ih =>
    cases s with
    | nil => rfl
    | cons c s =>
      have htokens : r.tokens (n + 1) (prev, chars (c :: s)) =
          match r.matchAt (prev, chars (c :: s)) with
          | some d => .inr ((chars (c :: s)).take ((chars (c :: s)).length - d.2.length)) ::
            r.tokens n d
          | none => .inl c.1 :: r.tokens n (some c.1, chars s) := rfl
      rw [htokens]
      unfold substituteFrom
      split
      · next d hd =>
        have hsuffix := Regex.suffix_of_mem_ends (Regex.matchAt_eq_some hd).1
        have hrest : chars ((c :: s).drop ((c :: s).length - d.2.length)) = d.2 := by
          rw [chars, List.map_drop, ← length_chars]
          exact (List.suffix_iff_eq_drop.1 hsuffix).symm
        have hrepl : (repl.map fun x => (x, true)).map Prod.fst = repl := by
          rw [List.map_map]
          exact List.map_id repl
        dsimp only
        rw [List.flatMap_cons, chars, List.map_append, hrepl]
        exact congrArg _ (ih.trans (by rw [hrest]))
      · next hnone => exact congrArg _ ih

end Edits

theorem text_substitute (u : Marked) (r : Regex × List Char) :
    (u.substitute r).text = r.1.sub (fun _ => r.2) u.text := by
  unfold text substitute Regex.sub
  rw [chars_substituteFrom, length_chars]

/-- The text of the marks is the redacted one. -/
theorem text_foldl_substitute (rs : List (Regex × List Char)) (u : Marked) :
    (rs.foldl substitute u).text = rs.foldl (fun v r => r.1.sub (fun _ => r.2) v) u.text := by
  induction rs generalizing u with
  | nil => rfl
  | cons r rs ih => rw [List.foldl_cons, List.foldl_cons, ih, text_substitute]

end Marked

end DataJuicer
