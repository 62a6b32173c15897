import Mathlib.Data.List.DropRight
import Mathlib.Data.List.Sort
import Mathlib.Data.List.Lex

/-! # Python text

A Python string is a list of code points, lone surrogates included. This module has what
the program uses of it: `str.strip`, the decoding of a JSON array of strings, and the
compact encoding of one.
-/

namespace DataJuicer

/-- A Python string by its code points. -/
abbrev PyStr := List ℕ

namespace PyStr

def ofString (s : String) : PyStr := s.toList.map Char.toNat

/-- `str.isspace` for one character. -/
def isSpace (c : ℕ) : Bool :=
  (9 ≤ c && c ≤ 13) || (28 ≤ c && c ≤ 32) || c == 0x85 || c == 0xA0 || c == 0x1680 ||
    (0x2000 ≤ c && c ≤ 0x200A) || c == 0x2028 || c == 0x2029 || c == 0x202F ||
    c == 0x205F || c == 0x3000

/-- The characters of `str.isdigit`, as ranges. -/
def digitRanges : List (ℕ × ℕ) :=
  [(48, 57), (178, 179), (185, 185), (1632, 1641), (1776, 1785), (1984, 1993), (2406, 2415),
    (2534, 2543), (2662, 2671), (2790, 2799), (2918, 2927), (3046, 3055), (3174, 3183),
    (3302, 3311), (3430, 3439), (3558, 3567), (3664, 3673), (3792, 3801), (3872, 3881),
    (4160, 4169), (4240, 4249), (4969, 4977), (6112, 6121), (6160, 6169), (6470, 6479),
    (6608, 6618), (6784, 6793), (6800, 6809), (6992, 7001), (7088, 7097), (7232, 7241),
    (7248, 7257), (8304, 8304), (8308, 8313), (8320, 8329), (9312, 9320), (9332, 9340),
    (9352, 9360), (9450, 9450), (9461, 9469), (9471, 9471), (10102, 10110), (10112, 10120),
    (10122, 10130), (42528, 42537), (43216, 43225), (43264, 43273), (43472, 43481),
    (43504, 43513), (43600, 43609), (44016, 44025), (65296, 65305), (66720, 66729),
    (68160, 68163), (68912, 68921), (69216, 69224), (69714, 69722), (69734, 69743),
    (69872, 69881), (69942, 69951), (70096, 70105), (70384, 70393), (70736, 70745),
    (70864, 70873), (71248, 71257), (71360, 71369), (71472, 71481), (71904, 71913),
    (72016, 72025), (72784, 72793), (73040, 73049), (73120, 73129), (92768, 92777),
    (92864, 92873), (93008, 93017), (120782, 120831), (123200, 123209), (123632, 123641),
    (125264, 125273), (127232, 127242), (130032, 130041)]

/-- `str.isdigit` for one character. -/
def isDigit (c : ℕ) : Bool := digitRanges.any fun r => r.1 ≤ c && c ≤ r.2

def strip (s : PyStr) : PyStr := (s.dropWhile isSpace).rdropWhile isSpace

theorem length_strip_le (s : PyStr) : (strip s).length ≤ s.length :=
  (List.rdropWhile_prefix isSpace _).length_le.trans (List.dropWhile_suffix _).length_le

def skipWs (s : PyStr) : PyStr := s.dropWhile fun c => c == 32 || c == 9 || c == 10 || c == 13

theorem length_skipWs_le (s : PyStr) : (skipWs s).length ≤ s.length :=
  (List.dropWhile_suffix _).length_le

def hexDigit? (c : ℕ) : Option ℕ :=
  if 48 ≤ c ∧ c ≤ 57 then some (c - 48)
  else if 97 ≤ c ∧ c ≤ 102 then some (c - 87)
  else if 65 ≤ c ∧ c ≤ 70 then some (c - 55)
  else none

def hex4? (a b c d : ℕ) : Option ℕ := do
  return 4096 * (← hexDigit? a) + 256 * (← hexDigit? b) + 16 * (← hexDigit? c) + (← hexDigit? d)

/-- The one-letter escapes of a JSON string. -/
def shortEscape? (c : ℕ) : Option ℕ :=
  match c with
  | 34 => some 34
  | 92 => some 92
  | 47 => some 47
  | 98 => some 8
  | 102 => some 12
  | 110 => some 10
  | 114 => some 13
  | 116 => some 9
  | _ => none

/-- A code unit of a JSON string, and whether a `\u` escape wrote it. -/
abbrev JsonUnit := ℕ × Bool

/-- Scans a JSON string after its opening quote: its units and the text after it. -/
def scanString : PyStr → Option (List JsonUnit × PyStr)
  | [] => none
  | 34 :: rest => some ([], rest)
  | 92 :: 117 :: a :: b :: c :: d :: rest =>
    match hex4? a b c d, scanString rest with
    | some u, some (units, rest) => some ((u, true) :: units, rest)
    | _, _ => none
  | 92 :: e :: rest =>
    match shortEscape? e, scanString rest with
    | some u, some (units, rest) => some ((u, false) :: units, rest)
    | _, _ => none
  | c :: rest =>
    if c < 32 ∨ c = 92 then none
    else match scanString rest with
      | some (units, rest) => some ((c, false) :: units, rest)
      | none => none

/-- Two escapes that form a surrogate pair are one character. -/
def joinSurrogates : List JsonUnit → PyStr
  | (hi, true) :: (lo, true) :: units =>
    if 0xD800 ≤ hi ∧ hi ≤ 0xDBFF ∧ 0xDC00 ≤ lo ∧ lo ≤ 0xDFFF then
      (0x10000 + 0x400 * (hi - 0xD800) + (lo - 0xDC00)) :: joinSurrogates units
    else hi :: joinSurrogates ((lo, true) :: units)
  | (c, _) :: units => c :: joinSurrogates units
  | [] => []

/-- The items of a JSON array of strings, from the first item to the end of the text. -/
def scanItems : ℕ → PyStr → Option (List PyStr)
  | n + 1, 34 :: rest =>
    match scanString rest with
    | none => none
    | some (units, rest) =>
      match skipWs rest with
      | 44 :: rest => (scanItems n (skipWs rest)).map (joinSurrogates units :: ·)
      | 93 :: rest => if skipWs rest = [] then some [joinSurrogates units] else none
      | _ => none
  | _, _ => none

/-- `_decode_json_string_list`: the items when the text is a JSON array of strings. -/
def decodeJsonStringList (s : PyStr) : Option (List PyStr) :=
  match s with
  | 91 :: rest =>
    match skipWs rest with
    | 93 :: rest => if skipWs rest = [] then some [] else none
    | rest => scanItems rest.length rest
  | _ => none

theorem length_scanString {s rest : PyStr} {units : List JsonUnit}
    (h : scanString s = some (units, rest)) : units.length + rest.length < s.length := by
  fun_induction scanString s generalizing units rest with
  | case1 => cases h
  | case2 => simp_all
  | case3 a b c d tail u us r hs hu ih =>
    cases h
    have := ih hs
    simp only [List.length_cons]
    omega
  | case4 => cases h
  | case5 e tail _ u us r hs hu ih =>
    cases h
    have := ih hs
    simp only [List.length_cons]
    omega
  | case6 => cases h
  | case7 => cases h
  | case8 c tail _ _ _ _ us r hs ih =>
    cases h
    have := ih hs
    simp only [List.length_cons]
    omega
  | case9 => cases h

theorem length_joinSurrogates_le (units : List JsonUnit) :
    (joinSurrogates units).length ≤ units.length := by
  fun_induction joinSurrogates units with
  | case1 => simp only [List.length_cons]; omega
  | case2 => simp only [List.length_cons] at *; omega
  | case3 => simp only [List.length_cons]; omega
  | case4 => simp

/-- Every decoded item is shorter than the text it is decoded from. -/
theorem length_scanItems {n : ℕ} {s item : PyStr} {items : List PyStr}
    (h : scanItems n s = some items) (hi : item ∈ items) : item.length < s.length := by
  induction n generalizing s items with
  | zero => simp [scanItems] at h
  | succ n ih =>
    unfold scanItems at h
    split at h
    · rename_i m rest hm
      cases hm
      split at h
      · cases h
      · rename_i units tail hs
        have hlen := length_scanString hs
        have hjoin := length_joinSurrogates_le units
        have htail := length_skipWs_le tail
        split at h
        · rename_i after ha
          obtain ⟨more, hmore, rfl⟩ := Option.map_eq_some_iff.1 h
          have hafter := length_skipWs_le after
          rcases List.mem_cons.1 hi with rfl | hi
          · simp only [List.length_cons]; omega
          · have := ih hmore hi
            simp only [ha, List.length_cons] at htail ⊢
            omega
        · split at h
          · cases h
            obtain rfl := List.mem_singleton.1 hi
            simp only [List.length_cons]; omega
          · cases h
        · cases h
    · cases h

theorem length_decode_lt {s item : PyStr} {items : List PyStr}
    (h : decodeJsonStringList s = some items) (hi : item ∈ items) : item.length < s.length := by
  unfold decodeJsonStringList at h
  split at h
  · rename_i rest
    have hws := length_skipWs_le rest
    split at h
    · split at h
      · cases h; cases hi
      · cases h
    · have := length_scanItems h hi
      simp only [List.length_cons]
      omega
  · cases h

def hexChar (n : ℕ) : ℕ := if n < 10 then 48 + n else 87 + n

/-- One character of a JSON string, written with `ensure_ascii=False`. -/
def encodeChar (c : ℕ) : PyStr :=
  if c = 34 then [92, 34]
  else if c = 92 then [92, 92]
  else if c = 8 then [92, 98]
  else if c = 9 then [92, 116]
  else if c = 10 then [92, 110]
  else if c = 12 then [92, 102]
  else if c = 13 then [92, 114]
  else if c < 32 then [92, 117, 48, 48, hexChar (c / 16), hexChar (c % 16)]
  else [c]

def encodeString (s : PyStr) : PyStr := 34 :: s.flatMap encodeChar ++ [34]

/-- `json.dumps` of a list of strings with `separators=(",", ":")`. -/
def encodeList (items : List PyStr) : PyStr :=
  91 :: List.intercalate [44] (items.map encodeString) ++ [93]

def encodeUnit (u : ℕ) : PyStr :=
  [92, 117, hexChar (u / 4096), hexChar (u / 256 % 16), hexChar (u / 16 % 16), hexChar (u % 16)]

/-- `json.dumps` of a string with the default `ensure_ascii=True`. -/
def encodeAscii (s : PyStr) : PyStr :=
  34 :: s.flatMap (fun c =>
    if c < 127 then encodeChar c
    else if c < 0x10000 then encodeUnit c
    else encodeUnit (0xD800 + (c - 0x10000) / 0x400) ++ encodeUnit (0xDC00 + c % 0x400)) ++ [34]

/-- `sorted` on strings, which compare by code points. -/
def sorted (items : List PyStr) : List PyStr := items.insertionSort (· ≤ ·)

end PyStr

/-- `str.strip` of a text without lone surrogates. -/
def stripText (s : String) : String :=
  String.ofList ((s.toList.dropWhile fun c => PyStr.isSpace c.toNat).rdropWhile fun c =>
    PyStr.isSpace c.toNat)

end DataJuicer
