import DataJuicer.Lib.PyText
import Mathlib.Data.List.TakeWhile

/-! # Encoded strings read back

The compact encoding of a list of strings decodes to that list, so two lists with the same
encoding are the same. Sorting forgets the order of a list and nothing else.
-/

namespace DataJuicer.PyStr

theorem strip_strip (s : PyStr) : strip (strip s) = strip s := by
  have hleft : (strip s).dropWhile isSpace = strip s := by
    rw [List.dropWhile_eq_self_iff]
    intro h
    have hpre : strip s <+: s.dropWhile isSpace := List.rdropWhile_prefix isSpace _
    rw [hpre.getElem h]
    exact List.dropWhile_get_zero_not _ _ (h.trans_le hpre.length_le)
  conv_lhs => rw [strip, hleft, strip]
  exact List.rdropWhile_idempotent isSpace _

theorem hexDigit?_hexChar {n : ℕ} (h : n < 16) : hexDigit? (hexChar n) = some n := by
  revert n
  decide

/-- A character is scanned as itself; only a control character is written by its code. -/
theorem scanString_encodeChar (c : ℕ) (rest : PyStr) :
    ∃ escaped : Bool, (escaped = true → c < 32) ∧ scanString (encodeChar c ++ rest) =
      (scanString rest).map fun r => ((c, escaped) :: r.1, r.2) := by
  have hshort : ∀ e u, shortEscape? e = some u → e ≠ 117 → scanString (92 :: e :: rest) =
      (scanString rest).map fun r => ((u, false) :: r.1, r.2) := by
    intro e u hu he
    rw [scanString, hu]
    · cases scanString rest <;> rfl
    · rintro _ _ _ _ _ rfl
      exact absurd rfl he
  unfold encodeChar
  by_cases h34 : c = 34
  · rw [if_pos h34]
    exact ⟨false, nofun, h34 ▸ hshort 34 34 rfl (by decide)⟩
  rw [if_neg h34]
  by_cases h92 : c = 92
  · rw [if_pos h92]
    exact ⟨false, nofun, h92 ▸ hshort 92 92 rfl (by decide)⟩
  rw [if_neg h92]
  by_cases h8 : c = 8
  · rw [if_pos h8]
    exact ⟨false, nofun, h8 ▸ hshort 98 8 rfl (by decide)⟩
  rw [if_neg h8]
  by_cases h9 : c = 9
  · rw [if_pos h9]
    exact ⟨false, nofun, h9 ▸ hshort 116 9 rfl (by decide)⟩
  rw [if_neg h9]
  by_cases h10 : c = 10
  · rw [if_pos h10]
    exact ⟨false, nofun, h10 ▸ hshort 110 10 rfl (by decide)⟩
  rw [if_neg h10]
  by_cases h12 : c = 12
  · rw [if_pos h12]
    exact ⟨false, nofun, h12 ▸ hshort 102 12 rfl (by decide)⟩
  rw [if_neg h12]
  by_cases h13 : c = 13
  · rw [if_pos h13]
    exact ⟨false, nofun, h13 ▸ hshort 114 13 rfl (by decide)⟩
  rw [if_neg h13]
  by_cases h32 : c < 32
  · have hhex : hex4? 48 48 (hexChar (c / 16)) (hexChar (c % 16)) = some c := by
      have hzero : hexDigit? 48 = some 0 := by decide
      have hhigh := hexDigit?_hexChar (n := c / 16) (by omega)
      have hlow := hexDigit?_hexChar (n := c % 16) (by omega)
      simp only [hex4?, hzero, hhigh, hlow, Option.bind_eq_bind, Option.bind_some, Option.pure_def,
        Option.some.injEq]
      omega
    rw [if_pos h32]
    refine ⟨true, fun _ => h32, ?_⟩
    simp only [List.cons_append, List.nil_append, scanString, hhex]
    cases scanString rest <;> rfl
  · rw [if_neg h32]
    refine ⟨false, nofun, ?_⟩
    have hraw : ¬ (c < 32 ∨ c = 92) := by omega
    rw [List.singleton_append, scanString]
    · rw [if_neg hraw]
      cases scanString rest <;> rfl
    · exact h34
    · rintro _ _ _ _ _ rfl
      exact absurd rfl h92
    · rintro _ _ rfl
      exact absurd rfl h92

theorem scanString_encoded (s rest : PyStr) :
    ∃ units, scanString (s.flatMap encodeChar ++ 34 :: rest) = some (units, rest) ∧
      units.map Prod.fst = s ∧ ∀ u ∈ units, u.2 = true → u.1 < 32 := by
  induction s with
  | nil => exact ⟨[], by simp [scanString]⟩
  | cons c s ih =>
    obtain ⟨units, hscan, hunits, hcontrol⟩ := ih
    obtain ⟨escaped, hescaped, hstep⟩ :=
      scanString_encodeChar c (s.flatMap encodeChar ++ 34 :: rest)
    refine ⟨(c, escaped) :: units, ?_, by simp [hunits], ?_⟩
    · rw [List.flatMap_cons, List.append_assoc, hstep, hscan]
      rfl
    · rintro u hu
      rcases List.mem_cons.1 hu with rfl | hu
      · exact hescaped
      · exact hcontrol u hu

theorem joinSurrogates_of_control {units : List JsonUnit}
    (h : ∀ u ∈ units, u.2 = true → u.1 < 32) : joinSurrogates units = units.map Prod.fst := by
  fun_induction joinSurrogates units with
  | case1 hi lo units hpair =>
    have := h (hi, true) (by simp) rfl
    omega
  | case2 hi lo units _ ih =>
    rw [ih fun u hu => h u (List.mem_cons_of_mem _ hu)]
    rfl
  | case3 c escaped units _ ih =>
    rw [ih fun u hu => h u (List.mem_cons_of_mem _ hu)]
    rfl
  | case4 => rfl

theorem scanString_encodeString (s rest : PyStr) :
    ∃ units, scanString (s.flatMap encodeChar ++ 34 :: rest) = some (units, rest) ∧
      joinSurrogates units = s := by
  obtain ⟨units, hscan, hunits, hcontrol⟩ := scanString_encoded s rest
  exact ⟨units, hscan, by rw [joinSurrogates_of_control hcontrol, hunits]⟩

/-- The text of the items after the opening bracket. -/
def encodeItems (items : List PyStr) : PyStr :=
  List.intercalate [44] (items.map encodeString) ++ [93]

theorem encodeItems_singleton (s : PyStr) :
    encodeItems [s] = 34 :: (s.flatMap encodeChar ++ 34 :: [93]) := by
  simp [encodeItems, encodeString, List.intercalate]

theorem encodeItems_cons_cons (s t : PyStr) (items : List PyStr) :
    encodeItems (s :: t :: items) =
      34 :: (s.flatMap encodeChar ++ 34 :: 44 :: encodeItems (t :: items)) := by
  simp [encodeItems, encodeString, List.intercalate]

theorem skipWs_encodeItems (s : PyStr) (items : List PyStr) :
    skipWs (encodeItems (s :: items)) = encodeItems (s :: items) := by
  cases items with
  | nil => rw [encodeItems_singleton]; rfl
  | cons t items => rw [encodeItems_cons_cons]; rfl

theorem scanItems_encodeItems {n : ℕ} (s : PyStr) (items : List PyStr) (h : items.length < n) :
    scanItems n (encodeItems (s :: items)) = some (s :: items) := by
  induction items generalizing s n with
  | nil =>
    obtain ⟨n, rfl⟩ := Nat.exists_eq_succ_of_ne_zero (Nat.ne_zero_of_lt h)
    obtain ⟨units, hscan, hunits⟩ := scanString_encodeString s [93]
    rw [encodeItems_singleton, scanItems, hscan]
    simp [skipWs, hunits]
  | cons t items ih =>
    obtain ⟨n, rfl⟩ := Nat.exists_eq_succ_of_ne_zero (Nat.ne_zero_of_lt h)
    obtain ⟨units, hscan, hunits⟩ :=
      scanString_encodeString s (44 :: encodeItems (t :: items))
    have hcomma : skipWs (44 :: encodeItems (t :: items)) = 44 :: encodeItems (t :: items) := rfl
    have htail := ih t (n := n) (by simpa using h)
    rw [encodeItems_cons_cons, scanItems, hscan]
    simp only [hcomma, skipWs_encodeItems, htail, Option.map_some, hunits]

theorem length_encodeItems (s : PyStr) (items : List PyStr) :
    items.length < (encodeItems (s :: items)).length := by
  induction items generalizing s with
  | nil => simp [encodeItems]
  | cons t items ih =>
    have := ih t
    rw [encodeItems_cons_cons]
    simp only [List.length_cons, List.length_append]
    omega

theorem decode_encodeList (items : List PyStr) :
    decodeJsonStringList (encodeList items) = some items := by
  have htext : encodeList items = 91 :: encodeItems items := by simp [encodeList, encodeItems]
  rw [htext, decodeJsonStringList]
  cases items with
  | nil => rfl
  | cons s items =>
    have hscan := scanItems_encodeItems s items (length_encodeItems s items)
    have hopen : ∃ rest, encodeItems (s :: items) = 34 :: rest := by
      cases items with
      | nil => exact ⟨_, encodeItems_singleton s⟩
      | cons t items => exact ⟨_, encodeItems_cons_cons s t items⟩
    obtain ⟨rest, hrest⟩ := hopen
    have hws := skipWs_encodeItems s items
    rw [hrest] at hscan hws ⊢
    simp only [hws, hscan]

theorem encodeList_injective : Function.Injective encodeList := by
  intro l r h
  have hdecode := congrArg decodeJsonStringList h
  rw [decode_encodeList, decode_encodeList] at hdecode
  exact Option.some_inj.1 hdecode

theorem encodeList_ne_ofString (items : List PyStr) : encodeList items ≠ ofString "__all__" := by
  intro h
  simp [encodeList, ofString] at h

theorem sorted_eq_iff {l r : List PyStr} : sorted l = sorted r ↔ l.Perm r := by
  constructor
  · intro h
    have hl : (sorted l).Perm l := List.perm_insertionSort _ l
    have hr : (sorted r).Perm r := List.perm_insertionSort _ r
    exact hl.symm.trans (h ▸ hr)
  · intro h
    have hperm : (sorted l).Perm (sorted r) :=
      (List.perm_insertionSort _ l).trans (h.trans (List.perm_insertionSort _ r).symm)
    exact hperm.eq_of_pairwise' (List.pairwise_insertionSort _ l) (List.pairwise_insertionSort _ r)

end DataJuicer.PyStr
