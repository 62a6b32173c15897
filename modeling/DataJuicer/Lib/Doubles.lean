import Mathlib.Algebra.Order.Field.Power
import Mathlib.Algebra.Order.Ring.Rat
import Mathlib.Data.Nat.Size
import Mathlib.Tactic.Positivity
import Mathlib.Tactic.Ring

/-! # Doubles

Values of the binary64 format, and the conversion of an integer to the nearest of them, to the one
with the even significand when two are near. The conversion keeps the order.
-/

namespace DataJuicer

/-- A value of the binary64 format, without the sign of zero. -/
inductive DoubleValue
  | finite (q : ℚ)
  | posInf
  | negInf
  | nan
  deriving DecidableEq

namespace DoubleValue

/-- `<` of IEEE 754 -/
def lt : DoubleValue → DoubleValue → Bool
  | .nan, _ => false
  | _, .nan => false
  | .finite p, .finite q => p < q
  | .negInf, .negInf => false
  | .negInf, _ => true
  | .posInf, _ => false
  | .finite _, .posInf => true
  | .finite _, .negInf => false

/-- `==` of IEEE 754 -/
def eq (x y : DoubleValue) : Bool := x = y ∧ x ≠ .nan

def isFinite : DoubleValue → Bool
  | .finite _ => true
  | _ => false

end DoubleValue

/-- A rational with a significand of 53 bits. -/
def Representable (q : ℚ) : Prop := ∃ m e : ℤ, |m| < 2 ^ 53 ∧ q = m * 2 ^ e

/-- A double, with its `repr`. -/
structure Double where
  value : DoubleValue
  repr : String
  representable : ∀ q, value = .finite q → Representable q
  bounded : ∀ q, value = .finite q → |q| < 2 ^ 1024
  deriving DecidableEq

/-- How many bits a natural number has too many. -/
def excessBits (n : ℕ) : ℕ := n.size - 53

def RoundsUp (unit n : ℕ) : Prop :=
  unit < 2 * (n % unit) ∨ unit = 2 * (n % unit) ∧ n / unit % 2 = 1

instance (unit n : ℕ) : Decidable (RoundsUp unit n) := inferInstanceAs (Decidable (_ ∨ _))

def roundTo (unit n : ℕ) : ℕ := (if RoundsUp unit n then n / unit + 1 else n / unit) * unit

/-- The nearest natural number with a significand of 53 bits. -/
def roundNat (n : ℕ) : ℕ := roundTo (2 ^ excessBits n) n

/-- The nearest integer with a significand of 53 bits. -/
def roundInt : ℤ → ℤ
  | .ofNat n => roundNat n
  | .negSucc n => -roundNat (n + 1)

/-- The value of `float(n)`; the conversion of a huge integer fails. -/
def doubleOfInt (n : ℤ) : Option ℤ := if |roundInt n| < 2 ^ 1024 then some (roundInt n) else none

section

variable {m n : ℕ}

theorem excessBits_of_lt (h : n < 2 ^ 53) : excessBits n = 0 := by
  unfold excessBits
  have := Nat.size_le.2 h
  omega

theorem roundTo_one (n : ℕ) : roundTo 1 n = n := by
  simp [roundTo, RoundsUp, Nat.mod_one]

theorem roundNat_of_lt (h : n < 2 ^ 53) : roundNat n = n := by
  unfold roundNat
  rw [excessBits_of_lt h]
  exact roundTo_one n

theorem lower_le_roundTo (unit n : ℕ) : n / unit * unit ≤ roundTo unit n := by
  unfold roundTo
  apply Nat.mul_le_mul_right
  split <;> omega

theorem roundTo_le_upper (unit n : ℕ) : roundTo unit n ≤ (n / unit + 1) * unit := by
  unfold roundTo
  apply Nat.mul_le_mul_right
  split <;> omega

theorem roundTo_mono (unit : ℕ) (h : m ≤ n) : roundTo unit m ≤ roundTo unit n := by
  have hq : m / unit ≤ n / unit := Nat.div_le_div_right h
  unfold roundTo
  apply Nat.mul_le_mul_right
  rcases hq.lt_or_eq with hq | hq
  · split <;> split <;> omega
  · -- The same quotient: the remainders are in order.
    have hm := Nat.div_add_mod m unit
    have hn := Nat.div_add_mod n unit
    rw [hq] at hm ⊢
    have hr : m % unit ≤ n % unit := by omega
    have hup : RoundsUp unit m → RoundsUp unit n := by
      unfold RoundsUp
      omega
    split
    · next h => rw [if_pos (hup h)]
    · split <;> omega

theorem roundTo_le_multiple {unit k : ℕ} (hunit : 0 < unit) (h : n ≤ k * unit) :
    roundTo unit n ≤ k * unit := by
  unfold roundTo
  apply Nat.mul_le_mul_right
  have hdiv := Nat.div_add_mod n unit
  have hle : n / unit ≤ k := Nat.div_le_of_le_mul (by rwa [Nat.mul_comm])
  split
  · next hup =>
    -- A remainder is left, so the quotient is smaller.
    have hrem : 0 < n % unit := by
      unfold RoundsUp at hup
      omega
    by_contra hcon
    obtain rfl : n / unit = k := by omega
    rw [Nat.mul_comm] at h
    omega
  · exact hle

theorem lt_two_pow_excess (n : ℕ) : n < 2 ^ (53 + excessBits n) := by
  rw [← Nat.size_le]
  unfold excessBits
  omega

theorem quotient_lt (n : ℕ) : n / 2 ^ excessBits n < 2 ^ 53 := by
  rw [Nat.div_lt_iff_lt_mul (by positivity), ← Nat.pow_add]
  exact lt_two_pow_excess n

theorem two_pow_le_of_excess (h : excessBits n ≠ 0) : 2 ^ (52 + excessBits n) ≤ n := by
  rw [← Nat.lt_size]
  unfold excessBits at h ⊢
  omega

theorem quotient_ge (h : excessBits n ≠ 0) : 2 ^ 52 ≤ n / 2 ^ excessBits n := by
  rw [Nat.le_div_iff_mul_le (by positivity), ← Nat.pow_add]
  exact two_pow_le_of_excess h

theorem roundNat_mono (h : m ≤ n) : roundNat m ≤ roundNat n := by
  have hsize := Nat.size_le_size h
  have hle : excessBits m ≤ excessBits n := Nat.sub_le_sub_right hsize 53
  unfold roundNat
  rcases hle.lt_or_eq with hlt | heq
  · have hpos : excessBits n ≠ 0 := by omega
    calc roundTo (2 ^ excessBits m) m
      _ ≤ (m / 2 ^ excessBits m + 1) * 2 ^ excessBits m := roundTo_le_upper _ m
      _ ≤ 2 ^ 53 * 2 ^ excessBits m := Nat.mul_le_mul_right _ (quotient_lt m)
      _ = 2 ^ (53 + excessBits m) := (Nat.pow_add 2 53 _).symm
      _ ≤ 2 ^ (52 + excessBits n) := Nat.pow_le_pow_right (by decide) (by omega)
      _ = 2 ^ 52 * 2 ^ excessBits n := Nat.pow_add 2 52 _
      _ ≤ n / 2 ^ excessBits n * 2 ^ excessBits n := Nat.mul_le_mul_right _ (quotient_ge hpos)
      _ ≤ roundTo (2 ^ excessBits n) n := lower_le_roundTo _ n
  · rw [heq]
    exact roundTo_mono _ h

/-- Large representable numbers are multiples of what is cut off. -/
theorem exists_multiple {q : ℚ} (hq : Representable q) {e : ℕ} (h : (2 : ℚ) ^ (52 + e) ≤ q) :
    ∃ k : ℕ, q = k * 2 ^ e := by
  obtain ⟨m, f, hm, rfl⟩ := hq
  have hpow : (0 : ℚ) < 2 ^ f := by positivity
  have hpos : (0 : ℚ) < (2 : ℚ) ^ (52 + e) := by positivity
  have hm0 : 0 < m := by
    by_contra hneg
    have hcast : (m : ℚ) ≤ 0 := by exact_mod_cast not_lt.1 hneg
    exact absurd (hpos.trans_le h) (not_lt.2 (mul_nonpos_of_nonpos_of_nonneg hcast hpow.le))
  have hlt : (m : ℚ) < 2 ^ 53 := by exact_mod_cast (abs_lt.1 hm).2
  have hf : (e : ℤ) ≤ f := by
    have hstrict : (2 : ℚ) ^ ((52 : ℤ) + e) < 2 ^ ((53 : ℤ) + f) := by
      rw [zpow_add₀ (by decide) 53 f]
      have hnat : (2 : ℚ) ^ ((52 : ℤ) + e) = 2 ^ (52 + e) := zpow_natCast 2 (52 + e)
      rw [hnat]
      exact h.trans_lt (mul_lt_mul_of_pos_right (by exact_mod_cast hlt) hpow)
    have := (zpow_lt_zpow_iff_right₀ (by decide : (1 : ℚ) < 2)).1 hstrict
    omega
  obtain ⟨d, rfl⟩ := Int.le.dest hf
  refine ⟨m.toNat * 2 ^ d, ?_⟩
  have hcast : ((m.toNat : ℕ) : ℚ) = m := by exact_mod_cast Int.toNat_of_nonneg hm0.le
  rw [zpow_add₀ (by decide), zpow_natCast, zpow_natCast]
  push_cast
  rw [hcast]
  ring

/-- No representable number lies between a number and the number it is rounded to. -/
theorem roundNat_le_of_le {q : ℚ} (hq : Representable q) (h : (n : ℚ) ≤ q) :
    (roundNat n : ℚ) ≤ q := by
  by_cases he : excessBits n = 0
  · have hn : n < 2 ^ 53 := by
      have := lt_two_pow_excess n
      rwa [he] at this
    rwa [roundNat_of_lt hn]
  · have hlarge : (2 : ℚ) ^ (52 + excessBits n) ≤ q :=
      le_trans (by exact_mod_cast two_pow_le_of_excess he) h
    obtain ⟨k, rfl⟩ := exists_multiple hq hlarge
    have hk : n ≤ k * 2 ^ excessBits n := by exact_mod_cast h
    exact_mod_cast roundTo_le_multiple (by positivity) hk

theorem le_roundNat_of_le {q : ℚ} (hq : Representable q) (h : q ≤ (n : ℚ)) :
    q ≤ (roundNat n : ℚ) := by
  by_cases he : excessBits n = 0
  · have hn : n < 2 ^ 53 := by
      have := lt_two_pow_excess n
      rwa [he] at this
    rwa [roundNat_of_lt hn]
  · refine le_trans ?_ (by exact_mod_cast lower_le_roundTo (2 ^ excessBits n) n :
      ((n / 2 ^ excessBits n * 2 ^ excessBits n : ℕ) : ℚ) ≤ roundNat n)
    by_cases hlarge : (2 : ℚ) ^ (52 + excessBits n) ≤ q
    · obtain ⟨k, rfl⟩ := exists_multiple hq hlarge
      have hk : k * 2 ^ excessBits n ≤ n := by exact_mod_cast h
      have hle : k ≤ n / 2 ^ excessBits n := (Nat.le_div_iff_mul_le (by positivity)).2 hk
      exact_mod_cast Nat.mul_le_mul_right _ hle
    · have hle : 2 ^ (52 + excessBits n) ≤ n / 2 ^ excessBits n * 2 ^ excessBits n := by
        rw [Nat.pow_add]
        exact Nat.mul_le_mul_right _ (quotient_ge he)
      exact (not_le.1 hlarge).le.trans (by exact_mod_cast hle)

end

section

variable {a b : ℤ} {q : ℚ}

@[simp]
theorem roundInt_ofNat (n : ℕ) : roundInt (Int.ofNat n) = roundNat n := rfl

@[simp]
theorem roundInt_negSucc (n : ℕ) : roundInt (Int.negSucc n) = -roundNat (n + 1) := rfl

theorem Representable.neg (hq : Representable q) : Representable (-q) := by
  obtain ⟨m, e, hm, rfl⟩ := hq
  refine ⟨-m, e, by rwa [abs_neg], ?_⟩
  push_cast
  ring

theorem representable_roundNat (n : ℕ) : Representable (roundNat n) := by
  have hq := quotient_lt n
  have hcast : ((2 ^ excessBits n : ℕ) : ℚ) = 2 ^ (excessBits n : ℤ) := by
    rw [zpow_natCast]
    push_cast
    rfl
  unfold roundNat roundTo
  split
  · rcases (Nat.succ_le_of_lt hq).lt_or_eq with hlt | heq
    · refine ⟨(n / 2 ^ excessBits n + 1 : ℕ), excessBits n, ?_, ?_⟩
      · rw [abs_of_nonneg (Int.natCast_nonneg _)]
        exact_mod_cast hlt
      · rw [Nat.cast_mul, hcast]
        rfl
    · -- The significand has become a power of two.
      refine ⟨1, 53 + excessBits n, by decide, ?_⟩
      change n / 2 ^ excessBits n + 1 = 2 ^ 53 at heq
      rw [heq, Nat.cast_mul, hcast, zpow_add₀ (by decide)]
      norm_num
  · refine ⟨(n / 2 ^ excessBits n : ℕ), excessBits n, ?_, ?_⟩
    · rw [abs_of_nonneg (Int.natCast_nonneg _)]
      exact_mod_cast hq
    · rw [Nat.cast_mul, hcast]
      rfl

theorem representable_roundInt (n : ℤ) : Representable (roundInt n) := by
  cases n with
  | ofNat n => exact_mod_cast representable_roundNat n
  | negSucc n =>
    rw [roundInt_negSucc]
    push_cast
    exact (representable_roundNat (n + 1)).neg

theorem roundInt_mono (h : a ≤ b) : roundInt a ≤ roundInt b := by
  cases a with
  | ofNat m =>
    cases b with
    | ofNat n =>
      rw [roundInt_ofNat, roundInt_ofNat]
      exact_mod_cast roundNat_mono (Int.ofNat_le.1 h)
    | negSucc n =>
      exact absurd (h.trans_lt (Int.negSucc_lt_zero n)) (not_lt.2 (Int.natCast_nonneg m))
  | negSucc m =>
    cases b with
    | ofNat n => exact (neg_nonpos.2 (Int.natCast_nonneg _)).trans (Int.natCast_nonneg _)
    | negSucc n =>
      have hle : n + 1 ≤ m + 1 := by omega
      exact neg_le_neg (by exact_mod_cast roundNat_mono hle)

theorem roundInt_le_of_le (hq : Representable q) (h : (a : ℚ) ≤ q) : (roundInt a : ℚ) ≤ q := by
  cases a with
  | ofNat m => exact_mod_cast roundNat_le_of_le hq (by exact_mod_cast h)
  | negSucc m =>
    have hneg : -q ≤ ((m + 1 : ℕ) : ℚ) := by
      have hcast : ((Int.negSucc m : ℤ) : ℚ) = -((m + 1 : ℕ) : ℚ) := by push_cast; ring
      rw [hcast] at h
      exact neg_le.1 h
    have hle := le_roundNat_of_le hq.neg hneg
    unfold roundInt
    push_cast
    exact neg_le.1 (by exact_mod_cast hle)

theorem le_roundInt_of_le (hq : Representable q) (h : q ≤ (a : ℚ)) : q ≤ (roundInt a : ℚ) := by
  cases a with
  | ofNat m => exact_mod_cast le_roundNat_of_le hq (by exact_mod_cast h)
  | negSucc m =>
    have hneg : ((m + 1 : ℕ) : ℚ) ≤ -q := by
      have hcast : ((Int.negSucc m : ℤ) : ℚ) = -((m + 1 : ℕ) : ℚ) := by push_cast; ring
      rw [hcast] at h
      exact le_neg.1 h
    have hle := roundNat_le_of_le hq.neg hneg
    unfold roundInt
    push_cast
    exact le_neg.1 (by exact_mod_cast hle)

theorem roundInt_of_abs_lt (h : |a| < 2 ^ 53) : roundInt a = a := by
  cases a with
  | ofNat m =>
    have hm : m < 2 ^ 53 := by simpa using h
    exact congrArg Int.ofNat (roundNat_of_lt hm)
  | negSucc m =>
    have hm : m + 1 < 2 ^ 53 := by
      have := (abs_lt.1 h).1
      omega
    rw [roundInt_negSucc, roundNat_of_lt hm]
    rfl

theorem doubleOfInt_of_abs_lt (h : |a| < 2 ^ 53) : doubleOfInt a = some a := by
  unfold doubleOfInt
  rw [roundInt_of_abs_lt h, if_pos (h.trans (pow_lt_pow_right₀ (by decide) (by decide)))]

theorem doubleOfInt_eq_some (h : doubleOfInt a = some b) : b = roundInt a := by
  unfold doubleOfInt at h
  split at h
  · exact (Option.some.inj h).symm
  · cases h

end

theorem representable_two_pow (k : ℕ) : Representable (2 ^ k) :=
  ⟨1, k, by norm_num, by simp⟩

theorem roundInt_of_representable {n : ℤ} (h : Representable n) : roundInt n = n := by
  have hle := roundInt_le_of_le h le_rfl
  have hge := le_roundInt_of_le h le_rfl
  exact_mod_cast le_antisymm hle hge

theorem roundInt_large {n : ℤ} (h : 2 ^ 53 ≤ |n|) : 2 ^ 53 ≤ |roundInt n| := by
  have hrepresentable : Representable (2 ^ 53) := representable_two_pow 53
  rcases le_abs.1 h with h | h
  · have hround := le_roundInt_of_le (a := n) hrepresentable (by exact_mod_cast h)
    exact le_abs.2 (.inl (by exact_mod_cast hround))
  · have hle : n ≤ -(2 ^ 53) := by omega
    have hround := roundInt_le_of_le (a := n) hrepresentable.neg (by exact_mod_cast hle)
    have hround' : roundInt n ≤ -(2 ^ 53) := by exact_mod_cast hround
    exact le_abs.2 (.inr (by omega))

/-- The double that an integer is converted to, with this `repr`. -/
def Double.ofInt (repr : ℤ → String) (n : ℤ) : Option Double :=
  if hbounded : |roundInt n| < 2 ^ 1024 then
    some {
      value := .finite (roundInt n)
      repr := repr (roundInt n)
      representable := fun q hq => by
        cases hq
        exact representable_roundInt n
      bounded := fun q hq => by
        cases hq
        exact_mod_cast hbounded }
  else none

end DataJuicer
