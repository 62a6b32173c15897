import Mathlib.Algebra.Order.Field.Power
import Mathlib.Algebra.Order.Ring.Rat
import Mathlib.Data.Int.Log
import Mathlib.Data.Rat.Floor
import Mathlib.Tactic.Linarith
import Mathlib.Tactic.Positivity
import Mathlib.Tactic.Ring
import Mathlib.Algebra.Ring.Int.Parity

/-! # Rounded rationals

A rational is rounded to the nearest double, to the one with the even significand when two are
near. Division and subtraction of doubles round their exact results this way.
-/

namespace DataJuicer

/-- The nearest integer, and the even one between two. -/
def roundHalfEven (q : ℚ) : ℤ :=
  if q - ⌊q⌋ < 1 / 2 ∨ q - ⌊q⌋ = 1 / 2 ∧ Even ⌊q⌋ then ⌊q⌋ else ⌊q⌋ + 1

/-- The exponent of the last bit of the significand. -/
def quantum (q : ℚ) : ℤ := max (Int.log 2 |q| - 52) (-1074)

def roundRat (q : ℚ) : ℚ := roundHalfEven (q / 2 ^ quantum q) * 2 ^ quantum q

section

variable {q : ℚ} {m : ℤ}

theorem roundHalfEven_le (h : q ≤ m) : roundHalfEven q ≤ m := by
  have hfloor : ⌊q⌋ ≤ m := Int.cast_le.1 ((Int.floor_le q).trans h)
  unfold roundHalfEven
  split
  · exact hfloor
  · next hup =>
    rcases hfloor.lt_or_eq with hlt | heq
    · exact hlt
    · -- At the bound itself nothing is left to round.
      have hle := Int.floor_le q
      rw [heq] at hle
      refine absurd (Or.inl ?_) hup
      rw [heq, le_antisymm h hle, sub_self]
      norm_num

theorem roundHalfEven_nonneg (h : 0 ≤ q) : 0 ≤ roundHalfEven q := by
  have hfloor := Int.floor_nonneg.2 h
  unfold roundHalfEven
  split <;> omega

theorem roundRat_nonneg (h : 0 ≤ q) : 0 ≤ roundRat q := by
  have hpow : (0 : ℚ) < 2 ^ quantum q := zpow_pos (by norm_num) _
  exact mul_nonneg (Int.cast_nonneg (roundHalfEven_nonneg (div_nonneg h hpow.le))) hpow.le

@[simp] theorem roundRat_zero : roundRat 0 = 0 := by
  simp [roundRat, roundHalfEven]

/-- Nothing below a power of two is rounded above it. -/
theorem roundRat_le_two_pow (k : ℕ) (h : 0 ≤ q) (h' : q ≤ 2 ^ k) : roundRat q ≤ 2 ^ k := by
  have hlog : Int.log 2 |q| ≤ k := by
    rw [abs_of_nonneg h]
    rcases h.eq_or_lt with rfl | hpos
    · simp
    · have hmono := Int.log_mono_right (b := 2) hpos h'
      have hpow : Int.log 2 ((2 : ℚ) ^ (k : ℤ)) = k := Int.log_zpow (b := 2) (by decide) k
      rw [zpow_natCast] at hpow
      exact hmono.trans_eq hpow
  obtain ⟨j, hj⟩ : ∃ j : ℕ, (k : ℤ) - quantum q = j := by
    have hquantum : quantum q ≤ k := by
      unfold quantum
      omega
    exact ⟨(k - quantum q).toNat, by omega⟩
  have hpow : (0 : ℚ) < 2 ^ quantum q := zpow_pos (by norm_num) _
  have hsplit : (2 : ℚ) ^ k = 2 ^ j * 2 ^ quantum q := by
    rw [← zpow_natCast, ← zpow_natCast, ← zpow_add₀ (by norm_num), ← hj, sub_add_cancel]
  have hle : roundHalfEven (q / 2 ^ quantum q) ≤ (2 : ℤ) ^ j := by
    apply roundHalfEven_le
    push_cast
    rw [div_le_iff₀ hpow, ← hsplit]
    exact h'
  have hcast : (roundHalfEven (q / 2 ^ quantum q) : ℚ) ≤ 2 ^ j := by exact_mod_cast hle
  unfold roundRat
  rw [hsplit]
  exact mul_le_mul_of_nonneg_right hcast hpow.le

theorem roundHalfEven_neg (q : ℚ) : roundHalfEven (-q) = -roundHalfEven q := by
  have hfloor := Int.floor_le q
  have hlt := Int.lt_floor_add_one q
  rcases hfloor.eq_or_lt with heq | hbetween
  · have hneg : ⌊-q⌋ = -⌊q⌋ := by rw [← heq, ← Int.cast_neg, Int.floor_intCast, Int.floor_intCast]
    unfold roundHalfEven
    rw [hneg, if_pos, if_pos]
    · exact .inl (by rw [heq, sub_self]; norm_num)
    · exact .inl (by rw [Int.cast_neg, heq, sub_self]; norm_num)
  · have hneg : ⌊-q⌋ = -⌊q⌋ - 1 := by
      rw [Int.floor_eq_iff]
      push_cast
      constructor <;> linarith
    have heven : Even (-⌊q⌋ - 1) ↔ ¬ Even ⌊q⌋ := by
      rw [Int.even_sub_one, even_neg]
    have hcast : ((-⌊q⌋ - 1 : ℤ) : ℚ) = -⌊q⌋ - 1 := by push_cast; ring
    unfold roundHalfEven
    simp only [hneg, heven, hcast]
    rcases lt_trichotomy (q - ⌊q⌋) (1 / 2) with hsmall | hhalf | hlarge
    · rw [if_pos (Or.inl hsmall), if_neg]
      · ring
      · rintro (h | ⟨h, -⟩) <;> linarith
    · by_cases hparity : Even ⌊q⌋
      · rw [if_pos (Or.inr (And.intro hhalf hparity)), if_neg]
        · ring
        · rintro (h | ⟨-, h⟩)
          · linarith
          · exact h hparity
      · have hhalf' : -q - (-⌊q⌋ - 1) = 1 / 2 := by linarith
        rw [if_pos (Or.inr (And.intro hhalf' hparity)), if_neg]
        · ring
        · rintro (h | ⟨-, h⟩)
          · linarith
          · exact hparity h
    · rw [if_pos (Or.inl (by linarith)), if_neg]
      · ring
      · rintro (h | ⟨h, -⟩) <;> linarith

/-- Rounding does not depend on the sign. -/
theorem roundRat_neg (q : ℚ) : roundRat (-q) = -roundRat q := by
  have hquantum : quantum (-q) = quantum q := by
    unfold quantum
    rw [abs_neg]
  unfold roundRat
  rw [hquantum, neg_div, roundHalfEven_neg, Int.cast_neg, neg_mul]

theorem abs_roundRat_le (k : ℕ) (h : |q| ≤ 2 ^ k) : |roundRat q| ≤ 2 ^ k := by
  rcases le_total 0 q with hpos | hneg
  · rw [abs_of_nonneg hpos] at h
    rw [abs_of_nonneg (roundRat_nonneg hpos)]
    exact roundRat_le_two_pow k hpos h
  · have hpos : 0 ≤ -q := neg_nonneg.2 hneg
    rw [abs_of_nonpos hneg] at h
    rw [← abs_neg, ← roundRat_neg, abs_of_nonneg (roundRat_nonneg hpos)]
    exact roundRat_le_two_pow k hpos h

/-- No quotient of the unit interval is rounded out of it. -/
theorem roundRat_le_one (h : 0 ≤ q) (h' : q ≤ 1) : roundRat q ≤ 1 := by
  simpa using roundRat_le_two_pow 0 h (by simpa using h')

end

end DataJuicer
