import DataJuicer.Lib.Grouping
import DataJuicer.Lib.Json
import Mathlib.Data.String.Basic

/-! # Values of a JSON document

What a program asks of a value of any type: whether it is true, whether it equals another value,
and its canonical text.
-/

namespace DataJuicer.Json

/-- `bool(value)` -/
def truthy : Json → Bool
  | null => false
  | bool b => b
  | int n => n ≠ 0
  | float x => x.value ≠ some 0
  | str s => s ≠ ""
  | arr items => items ≠ []
  | obj entries => entries ≠ []

/-- `a or b` -/
def or (a b : Json) : Json := if a.truthy then a else b

/-- The value as a number; `True` is one. -/
def number : Json → Option ℚ
  | bool b => some (if b then 1 else 0)
  | int n => some n
  | float x => x.value
  | _ => none

mutual

/-- `a == b` -/
def pyEq : Json → Json → Bool
  | null, b => b = null
  | str s, b => b = str s
  | bool x, b => b.number = some (if x then 1 else 0)
  | int n, b => b.number = some (n : ℚ)
  | float x, b =>
    match x.value, b with
    | some q, b => b.number = some q
    | none, float y => y.value = none ∧ x.repr = y.repr ∧ x.repr ≠ "nan"
    | none, _ => false
  | arr xs, arr ys => pyEqItems xs ys
  | arr _, _ => false
  | obj d, obj e => d.length = e.length && pyEqEntries d e
  | obj _, _ => false

def pyEqItems : List Json → List Json → Bool
  | [], [] => true
  | x :: xs, y :: ys => pyEq x y && pyEqItems xs ys
  | _, _ => false

def pyEqEntries : Dict → Dict → Bool
  | [], _ => true
  | (k, x) :: d, e =>
    match e.lookup k with
    | some y => pyEq x y && pyEqEntries d e
    | none => false

end

/-- The text of an integer of more digits is not made. -/
def maxDigits : ℕ := 4300

def floatText (x : PyFloat) : String :=
  if x.value ≠ none then x.repr
  else if x.repr = "nan" then "NaN"
  else if x.repr = "inf" then "Infinity"
  else "-Infinity"

def commaSeparated (texts : List PyStr) : PyStr := List.intercalate [44] texts

mutual

/-- `json.dumps(value, ensure_ascii=False, sort_keys=True, separators=(",", ":"))` -/
def canonical : Json → Option PyStr
  | null => some (PyStr.ofString "null")
  | bool b => some (PyStr.ofString (if b then "true" else "false"))
  | int n =>
    if (Nat.digits 10 n.natAbs).length ≤ maxDigits then some (PyStr.ofString (intText n)) else none
  | float x => some (PyStr.ofString (floatText x))
  | str s => some (PyStr.encodeString (PyStr.ofString s))
  | arr items => (canonicalItems items).map fun texts => 91 :: commaSeparated texts ++ [93]
  | obj entries => (canonicalEntries entries).map fun texts =>
    123 :: commaSeparated ((sortedItems texts).map fun e =>
      PyStr.encodeString (PyStr.ofString e.1) ++ 58 :: e.2) ++ [125]

def canonicalItems : List Json → Option (List PyStr)
  | [] => some []
  | v :: vs => do return (← canonical v) :: (← canonicalItems vs)

def canonicalEntries : Dict → Option (List (String × PyStr))
  | [] => some []
  | (k, v) :: es => do return (k, ← canonical v) :: (← canonicalEntries es)

end

example : canonical (.obj [("b", .arr [.int 1, .null]), ("a", .str "x")]) =
    some (PyStr.ofString "\x7b\"a\":\"x\",\"b\":[1,null]\x7d") := by
  decide +kernel

end DataJuicer.Json
