import PlatformLauncher.Number.Binary64
import PlatformLauncher.PidRecord

/-!
Digits as a numeral. Main statements: `readInt?_numeral`, they read as the whole number they stand for
while that has no more than 63 bits, and `readInt?_ofInt`, a whole number that is written reads back.
-/
namespace PlatformLauncher

theorem Text.lowerChar_of_isDigit {c : Char} (h : c.isDigit = true) : lowerChar c = c := by
  have small : c.toNat ≤ 57 := by
    simp only [Char.isDigit, Bool.and_eq_true, decide_eq_true_eq] at h
    exact h.2
  have notKelvin : c ≠ '\u212A' := by
    rintro rfl
    exact absurd h (by decide)
  have notCapital : ¬ (c.val ≥ 'A'.val ∧ c.val ≤ 'Z'.val) := by
    rintro ⟨low, -⟩
    have : (65 : Nat) ≤ c.toNat := low
    omega
  have kept : c.toLower = c := dif_neg notCapital
  rw [lowerChar, if_neg notKelvin, kept]

namespace Numeral

def IsNumeral (s : Text) : Prop := s ≠ [] ∧ ∀ c ∈ s, c.isDigit = true

variable {s : Text}

theorem isNumeral_ofNat (n : Nat) : IsNumeral (ofNat n) :=
  ⟨Nat.toDigits_ne_nil, fun _ => isDigit_of_mem_ofNat⟩

theorem IsNumeral.exists_isDigit (h : IsNumeral s) : ∃ c ∈ s, c.isDigit = true := by
  obtain ⟨c, more, rfl⟩ := List.exists_cons_of_ne_nil h.1
  exact ⟨c, by simp, h.2 c (by simp)⟩

theorem IsNumeral.head?_ne (h : IsNumeral s) {c : Char} (other : c.isDigit = false) :
    s.head? ≠ some c := by
  intro first
  rw [h.2 c (List.mem_of_mem_head? first)] at other
  cases other

theorem IsNumeral.lower (h : IsNumeral s) : Text.lower s = s :=
  (List.map_congr_left fun c hc => Text.lowerChar_of_isDigit (h.2 c hc)).trans (List.map_id s)

theorem IsNumeral.lower_ne (h : IsNumeral s) {word : Text} {c : Char} (starts : word.head? = some c)
    (other : c.isDigit = false) : Text.lower s ≠ word := by
  rintro rfl
  rw [h.lower] at starts
  exact h.head?_ne other starts

theorem read_numeral (h : IsNumeral s) (most : Nat) :
    (read most s).toOption = if value s ≤ most then some (value s) else none := by
  split
  · next fits => rw [read_eq_ok_iff.2 ⟨h.1, h.2, rfl, fits⟩, Except.toOption]
  · next large =>
    cases hr : read most s with
    | error problem => rfl
    | ok n =>
      obtain ⟨-, -, rfl, fits⟩ := read_eq_ok_iff.1 hr
      exact absurd fits large

theorem readInt?_numeral (h : IsNumeral s) :
    readInt? s = if value s < twoTo 63 then some (value s : Int) else none := by
  have same : value s ≤ twoTo 63 - 1 ↔ value s < twoTo 63 := by
    have := twoTo_pos 63
    omega
  unfold readInt?
  split
  · exact absurd rfl (h.head?_ne (c := '-') (by decide))
  · rw [PidRecord.readSigned_eq_read (h.head?_ne (by decide)), read_numeral h]
    simp only [same]
    split <;> rfl

theorem value_dropWhile_zero (s : Text) : value (s.dropWhile (· == '0')) = value s := by
  induction s with
  | nil => rfl
  | cons c s ih =>
    by_cases zero : c = '0'
    · subst zero
      rw [List.dropWhile_cons_of_pos (by decide), ih]
      rfl
    · rw [List.dropWhile_cons_of_neg (by simpa using zero)]

theorem exists_isDigit_ofInt (n : Int) : ∃ c ∈ ofInt n, c.isDigit = true := by
  obtain ⟨c, hc, digit⟩ := (isNumeral_ofNat n.natAbs).exists_isDigit
  unfold ofInt
  split
  · exact ⟨c, List.mem_cons_of_mem _ hc, digit⟩
  · exact ⟨c, hc, digit⟩

theorem readInt?_ofInt {n : Int} (low : -(twoTo 63 : Int) ≤ n) (high : n < twoTo 63) :
    readInt? (ofInt n) = some n := by
  by_cases negative : n < 0
  · have few : n.natAbs ≤ twoTo 63 := by omega
    have back : -(n.natAbs : Int) = n := by omega
    rw [ofInt, if_pos negative, readInt?, read_ofNat few]
    exact congrArg some back
  · have few : n.natAbs < twoTo 63 := by omega
    have back : (n.natAbs : Int) = n := by omega
    rw [ofInt, if_neg negative, readInt?_numeral (isNumeral_ofNat _), value_ofNat, if_pos few, back]

end Numeral

namespace Binary64

theorem read?_numeral {s : Text} (h : Numeral.IsNumeral s) :
    read? s = some (ofDecimal false s 0) := by
  have sign : splitSign s = (false, s) := by
    unfold splitSign
    split
    · exact absurd rfl (h.head?_ne (c := '-') (by decide))
    · exact absurd rfl (h.head?_ne (c := '+') (by decide))
    · rfl
  have noInf : (Text.lower s == "inf".toList) = false :=
    beq_eq_false_iff_ne.2 (h.lower_ne rfl (by decide))
  have noInfinity : (Text.lower s == "infinity".toList) = false :=
    beq_eq_false_iff_ne.2 (h.lower_ne rfl (by decide))
  have noNan : (Text.lower s == "nan".toList) = false :=
    beq_eq_false_iff_ne.2 (h.lower_ne rfl (by decide))
  have whole : s.takeWhile Char.isDigit = s := by
    have all : (s ++ []).takeWhile Char.isDigit = s ++ [] := List.takeWhile_append_of_pos h.2
    rwa [List.append_nil] at all
  have nothing : s.dropWhile Char.isDigit = [] := by
    have all : (s ++ []).dropWhile Char.isDigit = [] := List.dropWhile_append_of_pos h.2
    rwa [List.append_nil] at all
  have notEmpty : s.isEmpty = false := List.isEmpty_eq_false_iff.2 h.1
  rw [read?, sign]
  simp only [noInf, noInfinity, noNan, Bool.or_self, Bool.false_eq_true, if_false, decimal?, whole,
    nothing, notEmpty, Bool.false_and, Option.map_some, List.append_nil, List.length_nil]
  rfl

end Binary64

end PlatformLauncher
