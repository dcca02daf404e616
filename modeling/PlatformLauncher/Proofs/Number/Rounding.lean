import Mathlib
import PlatformLauncher.Proofs.Number.Numerals

/-!
Large whole numbers as binary floating-point numbers. Rounding never takes a number below a power of
two that it reaches. Main statement: `twoTo_le_ofDecimal`.
-/
namespace PlatformLauncher

namespace Binary64

variable {n k most : Nat}

theorem le_nearestEven (num den : Nat) : num / den ≤ nearestEven num den := by
  unfold nearestEven
  dsimp only
  split
  · exact Nat.le_refl _
  · split
    · exact Nat.le_succ _
    · split
      · exact Nat.le_refl _
      · exact Nat.le_succ _

theorem scaled_down (n e : Nat) : scaled n 1 (-(e : Int)) = (n, twoTo e) := by
  cases e with
  | zero => simp [scaled, twoTo]
  | succ e =>
    have down : ¬ (0 : Int) ≤ -((e + 1 : Nat) : Int) := by omega
    rw [scaled, if_neg down, neg_neg, Int.toNat_natCast, Nat.one_mul]

theorem exponentOf_whole (large : 52 ≤ n.log2) : exponentOf n 1 = (n.log2 - 52 : Nat) := by
  have positive : n ≠ 0 := by
    rintro rfl
    simp at large
  have one : (1 : Nat).log2 = 0 := by decide
  have reaches : ¬ n < twoTo n.log2 := Nat.not_lt.2 (Nat.log2_self_le positive)
  simp only [exponentOf, one, Nat.cast_zero, sub_zero, scaled_down, if_neg reaches, leastExponent]
  omega

theorem ofFraction_whole (large : 52 ≤ n.log2) :
    ofFraction false n 1 = .infinite false ∨ ∃ significand exponent : Nat,
      ofFraction false n 1 = .finite false significand exponent ∧
        twoTo n.log2 ≤ significand * twoTo exponent := by
  have positive : n ≠ 0 := by
    rintro rfl
    simp at large
  obtain ⟨e, bits⟩ : ∃ e, n.log2 = 52 + e := ⟨n.log2 - 52, by omega⟩
  have exponent : exponentOf n 1 = e := by
    rw [exponentOf_whole large, bits, Nat.add_sub_cancel_left]
  have powers : twoTo n.log2 = twoTo 52 * twoTo e := by
    rw [bits]
    exact Nat.pow_add 2 52 e
  have leading : twoTo 52 ≤ nearestEven n (twoTo e) := by
    refine Nat.le_trans ?_ (le_nearestEven n (twoTo e))
    rw [Nat.le_div_iff_mul_le (twoTo_pos e), ← powers]
    exact Nat.log2_self_le positive
  by_cases carried : nearestEven n (twoTo e) = twoTo 53
  · simp only [ofFraction, if_neg positive, exponent, scaled_down, carried, if_true]
    split
    · exact .inl rfl
    · refine .inr ⟨twoTo 52, e + 1, rfl, ?_⟩
      rw [powers]
      exact Nat.mul_le_mul_left _ (by rw [twoTo_succ]; omega)
  · simp only [ofFraction, if_neg positive, exponent, scaled_down, carried, if_false]
    split
    · exact .inl rfl
    · refine .inr ⟨_, e, rfl, ?_⟩
      rw [powers]
      exact Nat.mul_le_mul_right _ leading

theorem toNatWithin_le (most : Nat) (x : Binary64) : x.toNatWithin most ≤ most := by
  cases x with
  | nan => exact Nat.zero_le _
  | infinite negative => cases negative <;> simp [toNatWithin]
  | finite negative significand exponent =>
    cases negative
    · exact Nat.min_le_left _ _
    · exact Nat.zero_le _

theorem toNatWithin_whole (significand exponent most : Nat) :
    (finite false significand exponent).toNatWithin most = min most (significand * twoTo exponent) := by
  have up : (0 : Int) ≤ exponent := Int.natCast_nonneg _
  simp only [toNatWithin, Bool.false_eq_true, if_false, scaled, if_pos up, Int.toNat_natCast]
  omega

theorem twoTo_le_ofFraction (h : 52 ≤ k) (reaches : twoTo k ≤ n) (within : twoTo k ≤ most) :
    twoTo k ≤ (ofFraction false n 1).toNatWithin most := by
  have positive : n ≠ 0 := by
    have := twoTo_pos k
    omega
  have bits : k ≤ n.log2 := (Nat.le_log2 positive).2 reaches
  rcases ofFraction_whole (Nat.le_trans h bits) with infinite | ⟨significand, exponent, finite, kept⟩
  · rw [infinite]
    exact within
  · have more : twoTo k ≤ twoTo n.log2 := Nat.pow_le_pow_right (by decide) bits
    rw [finite, toNatWithin_whole]
    exact Nat.le_min.2 ⟨within, Nat.le_trans more kept⟩

theorem twoTo_le_ofDecimal {digits : Text} (h : 52 ≤ k) (reaches : twoTo k ≤ Numeral.value digits)
    (within : twoTo k ≤ most) : twoTo k ≤ (ofDecimal false digits 0).toNatWithin most := by
  rw [← Numeral.value_dropWhile_zero] at reaches
  have notEmpty : (digits.dropWhile (· == '0')).isEmpty = false := by
    rw [List.isEmpty_eq_false_iff]
    intro none
    have small : twoTo k ≤ 0 := by rwa [none] at reaches
    exact absurd (twoTo_pos k) (Nat.not_lt.2 small)
  have notTiny : ¬ ((digits.dropWhile (· == '0')).length + 0 : Int) < -400 := by omega
  rw [ofDecimal]
  simp only [notEmpty, notTiny, decide_false, Bool.or_self, Bool.false_eq_true, if_false]
  split
  · exact within
  · rw [if_pos (Int.le_refl 0)]
    have whole : Numeral.value (digits.dropWhile (· == '0')) * tenTo (0 : Int).toNat =
        Numeral.value (digits.dropWhile (· == '0')) := Nat.mul_one _
    rw [whole]
    exact twoTo_le_ofFraction h reaches within

end Binary64

end PlatformLauncher
