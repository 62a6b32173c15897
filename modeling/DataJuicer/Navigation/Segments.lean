import DataJuicer.Lib.PyText

/-! # Segment selections

A task names the segments it works on by a list of strings, or by nothing when it works on
the whole date. Items may themselves be JSON arrays of segment names.
-/

namespace DataJuicer.Navigation

open PyStr

/-- The values a caller may pass for segments. -/
inductive SegmentsArg
  | none
  | text (s : PyStr)
  | items (l : List PyStr)
  deriving DecidableEq

/--
The loop of `normalize_segments` over a list. The first argument bounds the nesting of JSON
arrays; `normalizeItems_stable` shows that the length of the longest item is enough.
-/
def normalizeItems : ℕ → List PyStr → List PyStr
  | 0, _ => []
  | n + 1, items => items.flatMap fun item =>
    let stripped := strip item
    if stripped = [] then []
    else match decodeJsonStringList stripped with
      | some decoded => normalizeItems n decoded
      | none => [stripped]

def nestingBound (items : List PyStr) : ℕ := items.foldr (fun s n => max s.length n) 0 + 1

def noneIfEmpty (l : List PyStr) : Option (List PyStr) := if l = [] then none else some l

def normalizeSegments : SegmentsArg → Option (List PyStr)
  | .none => none
  | .text s =>
    let stripped := strip s
    if stripped = [] then none
    else match decodeJsonStringList stripped with
      | some decoded => noneIfEmpty (normalizeItems (nestingBound decoded) decoded)
      | none => some [stripped]
  | .items l => noneIfEmpty (normalizeItems (nestingBound l) l)

/-- How a stored selection is passed back to `normalize_segments`. -/
def storedArg : Option (List PyStr) → SegmentsArg
  | none => .none
  | some l => .items l

theorem length_lt_nestingBound {items : List PyStr} {s : PyStr} (h : s ∈ items) :
    s.length < nestingBound items := by
  unfold nestingBound
  induction items with
  | nil => cases h
  | cons t items ih =>
    simp only [List.foldr_cons]
    rcases List.mem_cons.1 h with rfl | h
    · omega
    · have := ih h
      omega

/-- The nesting of JSON arrays is bounded by the length of the text that holds them. -/
theorem normalizeItems_stable {n : ℕ} {items : List PyStr} (h : ∀ s ∈ items, s.length < n) :
    normalizeItems (n + 1) items = normalizeItems n items := by
  induction n generalizing items with
  | zero =>
    cases items with
    | nil => rfl
    | cons s items => exact absurd (h s List.mem_cons_self) (Nat.not_lt_zero _)
  | succ n ih =>
    simp only [normalizeItems]
    refine List.flatMap_congr fun s hs => ?_
    split
    · rfl
    · split
      · rename_i decoded hd
        refine ih fun t ht => ?_
        have hlt := length_decode_lt hd ht
        have hle := length_strip_le s
        have := h s hs
        omega
      · rfl

theorem normalizeItems_eq {n : ℕ} {items : List PyStr} (h : ∀ s ∈ items, s.length < n)
    (k : ℕ) : normalizeItems (n + k) items = normalizeItems n items := by
  induction k with
  | zero => rfl
  | succ k ih =>
    have hk : ∀ s ∈ items, s.length < n + k := fun s hs => Nat.lt_add_right k (h s hs)
    rw [← ih, ← normalizeItems_stable hk]
    rfl

/-- A decoded item is normalized by the same function, as the recursive call has it. -/
theorem normalizeSegments_items (items : List PyStr) :
    normalizeSegments (.items items) = noneIfEmpty (items.flatMap fun item =>
      if strip item = [] then []
      else match decodeJsonStringList (strip item) with
        | some decoded => (normalizeSegments (.items decoded)).getD []
        | none => [strip item]) := by
  have hstep : normalizeItems (nestingBound items) items = normalizeItems
      (nestingBound items + 1) items :=
    (normalizeItems_stable fun s hs => length_lt_nestingBound hs).symm
  rw [normalizeSegments, hstep]
  congr 1
  refine List.flatMap_congr fun s hs => ?_
  simp only
  split
  · rfl
  · split
    · rename_i decoded hd
      have hlt : ∀ t ∈ decoded, t.length < nestingBound decoded := fun t ht =>
        length_lt_nestingBound ht
      have hbound : ∀ t ∈ decoded, t.length < nestingBound items := fun t ht =>
        ((length_decode_lt hd ht).trans_le (length_strip_le s)).trans
          (length_lt_nestingBound hs)
      have hsame : normalizeItems (nestingBound items) decoded =
          normalizeItems (nestingBound decoded) decoded := by
        rw [← normalizeItems_eq hlt (nestingBound items), ← normalizeItems_eq hbound
          (nestingBound decoded), Nat.add_comm]
      rw [hsame, normalizeSegments, noneIfEmpty]
      split
      · simp_all
      · rfl
    · rfl

def segmentsKey (segments : SegmentsArg) : PyStr :=
  match normalizeSegments segments with
  | none => ofString "__all__"
  | some l => encodeList (sorted l)

def navigationTargetsOverlap (leftDate : String) (leftSegments : SegmentsArg)
    (rightDate : String) (rightSegments : SegmentsArg) : Bool :=
  if leftDate ≠ rightDate then false
  else match normalizeSegments leftSegments, normalizeSegments rightSegments with
    | some l, some r => l.any fun s => r.contains s
    | _, _ => true

theorem navigationTargetsOverlap_iff {d e : String} {a b : SegmentsArg} :
    navigationTargetsOverlap d a e b = true ↔ d = e ∧
      ∀ l r, normalizeSegments a = some l → normalizeSegments b = some r → ∃ s ∈ l, s ∈ r := by
  unfold navigationTargetsOverlap
  by_cases hd : d = e
  · cases normalizeSegments a <;> cases normalizeSegments b <;> simp [hd]
  · simp [hd]

/-- Whether two targets overlap does not depend on which is asked about. -/
theorem navigationTargetsOverlap_comm (d e : String) (a b : SegmentsArg) :
    navigationTargetsOverlap d a e b = navigationTargetsOverlap e b d a := by
  rw [Bool.eq_iff_iff, navigationTargetsOverlap_iff, navigationTargetsOverlap_iff]
  constructor <;> rintro ⟨hd, h⟩ <;> refine ⟨hd.symm, fun l r hl hr => ?_⟩ <;>
    obtain ⟨s, hs, hs'⟩ := h r l hr hl <;> exact ⟨s, hs', hs⟩

end DataJuicer.Navigation
