import DataJuicer.Lib.PyText
import Mathlib.Data.Nat.Digits.Lemmas
import Mathlib.Data.Rat.Defs

/-! # JSON values

The values that `json.dumps` writes and what a program reads of them: the entries of a dict,
whether a number is finite, and the size of the encoded text.
-/

namespace DataJuicer

/-- `len(s.encode("utf-8"))` -/
def utf8Size (s : String) : ℕ := (s.toList.map Char.utf8Size).sum

/-- A float by its value, unless it is infinite or not a number, with its `repr`. -/
structure PyFloat where
  value : Option ℚ
  repr : String
  repr_size : utf8Size repr ≤ 24
  deriving DecidableEq

inductive Json
  | null
  | bool (b : Bool)
  | int (n : ℤ)
  | float (x : PyFloat)
  | str (s : String)
  | arr (items : List Json)
  | obj (entries : List (String × Json))

abbrev Dict := List (String × Json)

namespace Json

mutual

def decEq (a b : Json) : Decidable (a = b) :=
  match a, b with
  | null, null => .isTrue rfl
  | bool x, bool y => decidable_of_iff (x = y) (by simp)
  | int x, int y => decidable_of_iff (x = y) (by simp)
  | float x, float y => decidable_of_iff (x = y) (by simp)
  | str x, str y => decidable_of_iff (x = y) (by simp)
  | arr x, arr y => @decidable_of_iff _ (x = y) (by simp) (decEqItems x y)
  | obj x, obj y => @decidable_of_iff _ (x = y) (by simp) (decEqEntries x y)
  | null, bool _ | null, int _ | null, float _ | null, str _ | null, arr _ | null, obj _
  | bool _, null | bool _, int _ | bool _, float _ | bool _, str _ | bool _, arr _ | bool _, obj _
  | int _, null | int _, bool _ | int _, float _ | int _, str _ | int _, arr _ | int _, obj _
  | float _, null | float _, bool _ | float _, int _ | float _, str _ | float _, arr _
  | float _, obj _
  | str _, null | str _, bool _ | str _, int _ | str _, float _ | str _, arr _ | str _, obj _
  | arr _, null | arr _, bool _ | arr _, int _ | arr _, float _ | arr _, str _ | arr _, obj _
  | obj _, null | obj _, bool _ | obj _, int _ | obj _, float _ | obj _, str _ | obj _, arr _ =>
    .isFalse nofun

def decEqItems (a b : List Json) : Decidable (a = b) :=
  match a, b with
  | [], [] => .isTrue rfl
  | x :: xs, y :: ys =>
    @decidable_of_iff _ (x = y ∧ xs = ys) (by simp)
      (@instDecidableAnd _ _ (decEq x y) (decEqItems xs ys))
  | [], _ :: _ | _ :: _, [] => .isFalse nofun

def decEqEntries (a b : Dict) : Decidable (a = b) :=
  match a, b with
  | [], [] => .isTrue rfl
  | (k, x) :: xs, (l, y) :: ys =>
    @decidable_of_iff _ (k = l ∧ x = y ∧ xs = ys) (by simp [and_assoc])
      (@instDecidableAnd _ _ inferInstance
        (@instDecidableAnd _ _ (decEq x y) (decEqEntries xs ys)))
  | [], _ :: _ | _ :: _, [] => .isFalse nofun

end

instance : DecidableEq Json := decEq

/-- `dict.get(key)`; a missing entry and `None` are read alike. -/
def get (d : Dict) (key : String) : Json := (d.lookup key).getD .null

@[simp] theorem get_nil (key : String) : get [] key = .null := rfl

def set (d : Dict) (key : String) (value : Json) : Dict :=
  if key ∈ d.map Prod.fst then d.map fun e => if e.1 = key then (key, value) else e
  else d ++ [(key, value)]

theorem get_cons (k : String) (v : Json) (d : Dict) (key : String) :
    get ((k, v) :: d) key = if key = k then v else get d key := by
  by_cases h : key = k
  · simp [get, h]
  · have hne : (key == k) = false := by simpa using h
    simp [get, List.lookup_cons, h, hne]

/-- From here on an integer is rounded to no finite double. -/
def floatLimit : ℕ := 2 ^ 1024 - 2 ^ 970

/-- `math.isfinite(float(value))` for a number; an integer beyond the limit raises. -/
def Finite : Json → Prop
  | int n => n.natAbs < floatLimit
  | float x => x.value ≠ none
  | _ => False

instance : DecidablePred Finite := by
  rintro (_ | _) <;> unfold Finite <;> infer_instance

def escapedSize (c : Char) : ℕ :=
  if c = '"' ∨ c = '\\' ∨ c = '\x08' ∨ c = '\t' ∨ c = '\n' ∨ c = '\x0c' ∨ c = '\r' then 2
  else if c.toNat < 32 then 6
  else c.utf8Size

def stringSize (s : String) : ℕ := 2 + (s.toList.map escapedSize).sum

def intSize (n : ℤ) : ℕ := (if n < 0 then 1 else 0) + max 1 (Nat.digits 10 n.natAbs).length

mutual

/-- The bytes of `json.dumps(value, ensure_ascii=False).encode("utf-8")`. -/
def encodedSize : Json → ℕ
  | null => 4
  | bool b => if b then 4 else 5
  | int n => intSize n
  | float x => utf8Size x.repr
  | str s => stringSize s
  | arr items => 2 + itemsSize items + 2 * (items.length - 1)
  | obj entries => 2 + entriesSize entries + 2 * (entries.length - 1)

def itemsSize : List Json → ℕ
  | [] => 0
  | v :: vs => encodedSize v + itemsSize vs

def entriesSize : Dict → ℕ
  | [] => 0
  | (k, v) :: es => stringSize k + 2 + encodedSize v + entriesSize es

end

def intText (n : ℤ) : String :=
  String.ofList ((if n < 0 then ['-'] else []) ++
    (if n = 0 then ['0'] else ((Nat.digits 10 n.natAbs).map fun d => Char.ofNat (48 + d)).reverse))

theorem length_intText (n : ℤ) : (intText n).toList.length = intSize n := by
  unfold intText intSize
  by_cases h0 : n = 0
  · simp [h0]
  · have hdigits : 0 < (Nat.digits 10 n.natAbs).length :=
      List.length_pos_iff.2 (Nat.digits_ne_nil_iff_ne_zero.2 (Int.natAbs_ne_zero.2 h0))
    by_cases hneg : n < 0
    · simp only [String.toList_ofList, if_pos hneg, if_neg h0, List.length_append,
        List.length_reverse, List.length_map, List.length_singleton]
      omega
    · simp only [String.toList_ofList, if_neg hneg, if_neg h0, List.length_append,
        List.length_reverse, List.length_map, List.length_nil]
      omega

theorem escapedSize_le (c : Char) : escapedSize c ≤ 6 * c.utf8Size := by
  have hpos := Char.utf8Size_pos c
  unfold escapedSize
  split_ifs <;> omega

theorem stringSize_le (s : String) : stringSize s ≤ 2 + 6 * utf8Size s := by
  have hsum : ∀ l : List Char, (l.map escapedSize).sum ≤ 6 * (l.map Char.utf8Size).sum := by
    intro l
    induction l with
    | nil => simp
    | cons c l ih =>
      have := escapedSize_le c
      simp only [List.map_cons, List.sum_cons]
      omega
  exact Nat.add_le_add_left (hsum s.toList) 2

theorem utf8Size_le (s : String) : utf8Size s ≤ 4 * s.toList.length := by
  unfold utf8Size
  induction s.toList with
  | nil => simp
  | cons c l ih =>
    have := Char.utf8Size_le_four c
    simp only [List.map_cons, List.sum_cons, List.length_cons]
    omega

theorem stringSize_le_length (s : String) : stringSize s ≤ 2 + 24 * s.toList.length := by
  have h₁ := stringSize_le s
  have h₂ := utf8Size_le s
  omega

theorem entriesSize_append (d e : Dict) : entriesSize (d ++ e) = entriesSize d + entriesSize e := by
  induction d with
  | nil => simp [entriesSize]
  | cons x d ih =>
    obtain ⟨k, v⟩ := x
    simp only [List.cons_append, entriesSize, ih]
    omega

theorem intSize_le {n : ℤ} {k : ℕ} (hk : 0 < k) (h : n.natAbs < 10 ^ k) : intSize n ≤ k + 1 := by
  have hdigits := (Nat.digits_length_le_iff (by decide : 1 < 10) n.natAbs).2 h
  unfold intSize
  split <;> omega

end Json

end DataJuicer
