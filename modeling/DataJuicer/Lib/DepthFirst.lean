import Mathlib.Data.Finset.Card
import Mathlib.Logic.Relation

/-! # Depth-first search for a cycle

The search marks the nodes on its path and the nodes that it is done with, and stops at the first
node that it meets on its own path. It stops there with the path still marked, so nothing may be
read from the marks of a search that has found a cycle.
-/

universe u

namespace DataJuicer.DepthFirst

open Relation

variable {α : Type u} (succ : α → List α)

/-- The nodes on the path of the search, and the nodes that it is done with. -/
structure Marks (α : Type u) where
  visiting : Finset α
  visited : Finset α

/-- Tries the nodes until a search from one of them finds a cycle. -/
def visitAny (f : α → Marks α → Option (Bool × Marks α)) :
    List α → Marks α → Option (Bool × Marks α)
  | [], m => some (false, m)
  | a :: as, m =>
    match f a m with
    | some (false, m) => visitAny f as m
    | r => r

section

variable [DecidableEq α]

/-- The search from a node; the first argument bounds the depth of the recursion. -/
def visit : ℕ → α → Marks α → Option (Bool × Marks α)
  | 0, _, _ => none
  | n + 1, a, m =>
    if a ∈ m.visiting then some (true, m)
    else if a ∈ m.visited then some (false, m)
    else match visitAny (visit n) (succ a) { m with visiting := insert a m.visiting } with
      | some (false, m) => some (false, ⟨m.visiting.erase a, insert a m.visited⟩)
      | r => r

def search (n : ℕ) : List α → Marks α → Option (Bool × Marks α) :=
  visitAny fun a m => if a ∈ m.visited then some (false, m) else visit succ n a m

def findsCycle (n : ℕ) (roots : List α) : Option Bool :=
  (search succ n roots ⟨∅, ∅⟩).map Prod.fst

end

def Edge (a b : α) : Prop := b ∈ succ a

/-- The node is on a cycle; a node that has an edge to itself is. -/
def OnCycle (a : α) : Prop := TransGen (Edge succ) a a

/-- The nodes that the search is done with are closed, and none of them is on a cycle. -/
structure Sound (m : Marks α) : Prop where
  closed : ∀ a ∈ m.visited, ∀ b ∈ succ a, b ∈ m.visited
  acyclic : ∀ a ∈ m.visited, ¬ OnCycle succ a
  disjoint : Disjoint m.visiting m.visited

/-- A search that finds no cycle leaves its path as it was and is done with more nodes. -/
structure Advances (m m' : Marks α) : Prop where
  visiting : m'.visiting = m.visiting
  visited : m.visited ⊆ m'.visited
  sound : Sound succ m'

def Answers (nodes : Finset α) (as : List α) (m : Marks α) (r : Option (Bool × Marks α)) : Prop :=
  (∃ m', r = some (true, m') ∧ ∃ c ∈ nodes, OnCycle succ c) ∨
    ∃ m', r = some (false, m') ∧ Advances succ m m' ∧ ∀ a ∈ as, a ∈ m'.visited

variable {succ} {nodes : Finset α} {m : Marks α}

theorem Advances.refl (h : Sound succ m) : Advances succ m m := ⟨rfl, Finset.Subset.refl _, h⟩

theorem Advances.trans {m' m'' : Marks α} (h : Advances succ m m') (h' : Advances succ m' m'') :
    Advances succ m m'' :=
  ⟨h'.visiting.trans h.visiting, h.visited.trans h'.visited, h'.sound⟩

theorem Sound.visited_of_transGen {a b : α} (h : Sound succ m) (ha : a ∈ m.visited)
    (hab : TransGen (Edge succ) a b) : b ∈ m.visited := by
  induction hab with
  | single hb => exact h.closed _ ha _ hb
  | tail _ hc ih => exact h.closed _ ih _ hc

/-- A loop answers as its searches do, when each may rely on the path it was started with. -/
theorem visitAny_answers {f : α → Marks α → Option (Bool × Marks α)} {as : List α}
    (hf : ∀ a ∈ as, ∀ m', Sound succ m' → m'.visiting = m.visiting →
      Answers succ nodes [a] m' (f a m')) (hm : Sound succ m) :
    Answers succ nodes as m (visitAny f as m) := by
  have hloop : ∀ bs : List α, (∀ b ∈ bs, b ∈ as) → ∀ m', Advances succ m m' →
      Answers succ nodes bs m' (visitAny f bs m') := by
    intro bs
    induction bs with
    | nil => exact fun _ m' hm' => .inr ⟨m', rfl, .refl hm'.sound, by simp⟩
    | cons b bs ih =>
      intro hbs m' hm'
      rw [List.forall_mem_cons] at hbs
      rcases hf b hbs.1 m' hm'.sound hm'.visiting with ⟨m₁, h₁, hc⟩ | ⟨m₁, h₁, hadv, hb⟩
      · refine .inl ⟨m₁, ?_, hc⟩
        unfold visitAny
        rw [h₁]
      · have hstep : visitAny f (b :: bs) m' = visitAny f bs m₁ := by
          conv_lhs => unfold visitAny
          rw [h₁]
        rw [hstep]
        rcases ih hbs.2 m₁ (hm'.trans hadv) with ⟨m₂, h₂, hc⟩ | ⟨m₂, h₂, hadv₂, hbs₂⟩
        · exact .inl ⟨m₂, h₂, hc⟩
        · refine .inr ⟨m₂, h₂, hadv.trans hadv₂, List.forall_mem_cons.2 ⟨?_, hbs₂⟩⟩
          exact hadv₂.visited (hb b (by simp))
  exact hloop as (fun _ h => h) m (.refl hm)

variable [DecidableEq α]

/-- A node all of whose successors are done is on no cycle, so the search is done with it. -/
theorem Sound.finish {a : α} (h : Sound succ m) (ha : a ∈ m.visiting)
    (hsucc : ∀ b ∈ succ a, b ∈ m.visited) :
    Sound succ ⟨m.visiting.erase a, insert a m.visited⟩ := by
  have hnot : a ∉ m.visited := Finset.disjoint_left.1 h.disjoint ha
  refine ⟨?_, ?_, ?_⟩
  · intro b hb c hc
    rcases Finset.mem_insert.1 hb with rfl | hb
    · exact Finset.mem_insert_of_mem (hsucc c hc)
    · exact Finset.mem_insert_of_mem (h.closed b hb c hc)
  · intro b hb hcycle
    rcases Finset.mem_insert.1 hb with rfl | hb
    · obtain ⟨c, hc, hrest⟩ := TransGen.head'_iff.1 hcycle
      have hdone : c ∈ m.visited := hsucc c hc
      rcases hrest.cases_head with rfl | ⟨d, hd, hrest⟩
      · exact hnot hdone
      · exact hnot (h.visited_of_transGen hdone (TransGen.head' hd hrest))
    · exact h.acyclic b hb hcycle
  · rw [Finset.disjoint_insert_right]
    exact ⟨Finset.notMem_erase a _, h.disjoint.mono_left (Finset.erase_subset a _)⟩

/-- A search whose path leads to its node answers when the bound exceeds the nodes off the path:
each recursive call has one node more on its path. -/
theorem visit_answers (hclosed : ∀ a ∈ nodes, ∀ b ∈ succ a, b ∈ nodes) (n : ℕ) {a : α}
    (ha : a ∈ nodes) (hpath : ∀ v ∈ m.visiting, v ∈ nodes ∧ TransGen (Edge succ) v a)
    (hn : (nodes \ m.visiting).card < n) (hm : Sound succ m) :
    Answers succ nodes [a] m (visit succ n a m) := by
  induction n generalizing a m with
  | zero => exact absurd hn (Nat.not_lt_zero _)
  | succ n ih =>
    unfold visit
    split
    · next hon => exact .inl ⟨m, rfl, a, ha, (hpath a hon).2⟩
    · next hoff =>
      split
      · next hdone => exact .inr ⟨m, rfl, .refl hm, by simpa using hdone⟩
      · next hnew =>
        have hsound : Sound succ { m with visiting := insert a m.visiting } :=
          ⟨hm.closed, hm.acyclic, Finset.disjoint_insert_left.2 ⟨hnew, hm.disjoint⟩⟩
        have hcard : (nodes \ insert a m.visiting).card < n := by
          have hlt : (nodes \ insert a m.visiting).card < (nodes \ m.visiting).card := by
            refine Finset.card_lt_card ((Finset.ssubset_iff_of_subset ?_).2 ⟨a, ?_, ?_⟩)
            · exact Finset.sdiff_subset_sdiff (Finset.Subset.refl _) (Finset.subset_insert a _)
            · exact Finset.mem_sdiff.2 ⟨ha, hoff⟩
            · simp
          omega
        have hloop : Answers succ nodes (succ a) { m with visiting := insert a m.visiting }
            (visitAny (visit succ n) (succ a) { m with visiting := insert a m.visiting }) := by
          refine visitAny_answers (fun b hb m' hm' hpath' => ih (hclosed a ha b hb) ?_
            ?_ hm') hsound
          · intro v hv
            rw [hpath'] at hv
            rcases Finset.mem_insert.1 hv with rfl | hv
            · exact ⟨ha, .single hb⟩
            · exact ⟨(hpath v hv).1, (hpath v hv).2.tail hb⟩
          · rw [hpath']
            exact hcard
        rcases hloop with ⟨m', h', hc⟩ | ⟨m', h', hadv, hsucc⟩
        · refine .inl ⟨m', ?_, hc⟩
          rw [h']
        · have hon : a ∈ m'.visiting := by
            rw [hadv.visiting]
            exact Finset.mem_insert_self a _
          refine .inr ⟨⟨m'.visiting.erase a, insert a m'.visited⟩, ?_, ⟨?_, ?_, ?_⟩, ?_⟩
          · rw [h']
          · rw [hadv.visiting]
            exact Finset.erase_insert hoff
          · exact hadv.visited.trans (Finset.subset_insert a _)
          · exact hadv.sound.finish hon hsucc
          · simp

/-- The search from every node returns, and it finds a cycle exactly when there is one. -/
theorem findsCycle_iff {roots : List α} (hclosed : ∀ a ∈ roots, ∀ b ∈ succ a, b ∈ roots) {n : ℕ}
    (hn : roots.length < n) :
    ∃ b, findsCycle succ n roots = some b ∧ (b = true ↔ ∃ a ∈ roots, OnCycle succ a) := by
  have hempty : Sound succ (⟨∅, ∅⟩ : Marks α) := ⟨by simp, by simp, Finset.disjoint_empty_left _⟩
  have hanswers : Answers succ roots.toFinset roots ⟨∅, ∅⟩ (search succ n roots ⟨∅, ∅⟩) := by
    refine visitAny_answers (fun a ha m' hm' hpath => ?_) hempty
    split
    · next hdone => exact .inr ⟨m', rfl, .refl hm', by simpa using hdone⟩
    · refine visit_answers ?_ n (List.mem_toFinset.2 ha) ?_ ?_ hm'
      · intro a ha b hb
        exact List.mem_toFinset.2 (hclosed a (List.mem_toFinset.1 ha) b hb)
      · rw [hpath]
        simp
      · exact (Finset.card_le_card Finset.sdiff_subset).trans_lt
          ((List.toFinset_card_le roots).trans_lt hn)
  unfold findsCycle
  rcases hanswers with ⟨m', h', c, hc, hcycle⟩ | ⟨m', h', hadv, hall⟩
  · refine ⟨true, by rw [h']; rfl, iff_of_true rfl ⟨c, List.mem_toFinset.1 hc, hcycle⟩⟩
  · refine ⟨false, by rw [h']; rfl, iff_of_false (by simp) ?_⟩
    rintro ⟨a, ha, hcycle⟩
    exact hadv.sound.acyclic a (hall a ha) hcycle

end DataJuicer.DepthFirst
