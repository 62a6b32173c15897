import Mathlib.Data.List.Basic
import Mathlib.Data.List.TakeWhile

/-! # Lines of a stream

A stream is cut behind each separator; the last line may lack one. Cutting is local: a part that
ends behind a separator is cut without regard to what follows.
-/

universe u

namespace DataJuicer.Lines

variable {α : Type u} [DecidableEq α] (sep : α)

/-- The stream up to and with its first separator, or all of it. -/
def first : List α → List α
  | [] => []
  | a :: s => if a = sep then [a] else a :: first s

/-- The lines of the stream, with their separators. -/
def cut : List α → List (List α)
  | [] => []
  | a :: s =>
    if a = sep then [a] :: cut s
    else match cut s with
      | [] => [[a]]
      | l :: ls => (a :: l) :: ls

def IsLine (l : List α) : Prop := ∃ body, sep ∉ body ∧ l = body ++ [sep]

theorem first_cons (a : α) (s : List α) :
    first sep (a :: s) = if a = sep then [a] else a :: first sep s := rfl

theorem cut_cons_of_ne {a : α} (h : a ≠ sep) (s : List α) : cut sep (a :: s) =
    match cut sep s with
    | [] => [[a]]
    | l :: ls => (a :: l) :: ls := if_neg h

variable (s : List α)

theorem first_isPrefix : first sep s <+: s := by
  induction s with
  | nil => exact List.prefix_rfl
  | cons a s ih =>
    rw [first_cons]
    split
    · exact List.prefix_append [a] s
    · exact (List.prefix_cons_inj a).2 ih

variable {sep s}

/-- The first line lacks its separator only when the stream has none. -/
theorem first_cases (sep : α) (s : List α) : IsLine sep (first sep s) ∨ sep ∉ s ∧
    first sep s = s := by
  induction s with
  | nil => exact .inr ⟨by simp, rfl⟩
  | cons a s ih =>
    rw [first_cons]
    split
    · next ha => exact .inl ⟨[], by simp, by simp [ha]⟩
    · next ha =>
      rcases ih with ⟨body, hbody, he⟩ | ⟨hs, he⟩
      · exact .inl ⟨a :: body, by simp [Ne.symm ha, hbody], by simp [he]⟩
      · exact .inr ⟨by simp [Ne.symm ha, hs], by rw [he]⟩

theorem cut_unterminated (hne : s ≠ []) (h : sep ∉ s) : cut sep s = [s] := by
  induction s with
  | nil => exact absurd rfl hne
  | cons a s ih =>
    rw [List.mem_cons, not_or] at h
    rw [cut_cons_of_ne sep (Ne.symm h.1)]
    cases s with
    | nil => rfl
    | cons b s => rw [ih (by simp) h.2]

theorem IsLine.cut_append {l : List α} (h : IsLine sep l) (t : List α) :
    cut sep (l ++ t) = l :: cut sep t := by
  obtain ⟨body, hbody, rfl⟩ := h
  induction body with
  | nil => simp [cut]
  | cons a body ih =>
    rw [List.mem_cons, not_or] at hbody
    rw [List.cons_append, List.cons_append, cut_cons_of_ne sep (Ne.symm hbody.1), ih hbody.2]

theorem cut_eq_first (h : s ≠ []) :
    cut sep s = first sep s :: cut sep (s.drop (first sep s).length) := by
  rcases first_cases sep s with hline | ⟨hs, he⟩
  · have hs := List.prefix_iff_eq_append.1 (first_isPrefix sep s)
    conv_lhs => rw [← hs]
    exact hline.cut_append _
  · rw [he, List.drop_length, cut_unterminated h hs]
    rfl

theorem takeWhile_first : (first sep s).takeWhile (· ≠ sep) = s.takeWhile (· ≠ sep) := by
  induction s with
  | nil => rfl
  | cons a s ih =>
    rw [first_cons]
    split
    · next ha => simp [ha]
    · next ha =>
        simp only [ne_eq, ha, not_false_eq_true, decide_true, List.takeWhile_cons_of_pos, ih]

theorem length_le_takeWhile {r : List α} (hr : r <+: s) (h : sep ∉ r) :
    r.length ≤ (s.takeWhile (· ≠ sep)).length := by
  obtain ⟨t, rfl⟩ := hr
  have hr : ∀ a ∈ r, decide (a ≠ sep) = true := by
    intro a ha
    rw [decide_eq_true_iff]
    rintro rfl
    exact h ha
  rw [List.takeWhile_append_of_pos hr, List.length_append]
  omega

end DataJuicer.Lines
