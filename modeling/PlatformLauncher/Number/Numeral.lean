import PlatformLauncher.Text

/-!
Decimal numerals. `ofNat` writes a number without leading zeros; `read` takes digits only and refuses
a value outside the range asked for. Main statements: `read_eq_ok_iff`, what is read is the value of
the digits, and `read_ofNat`, what is written reads back.
-/
namespace PlatformLauncher

def twoTo (digits : Nat) : Nat := Nat.pow 2 digits

def tenTo (digits : Nat) : Nat := Nat.pow 10 digits

theorem twoTo_succ (digits : Nat) : twoTo (digits + 1) = 2 * twoTo digits :=
  Nat.mul_comm ..

theorem twoTo_pos (digits : Nat) : 0 < twoTo digits := Nat.pow_pos (by decide)

namespace Numeral

def ofNat (n : Nat) : Text := Nat.toDigits 10 n

def ofInt (n : Int) : Text := if n < 0 then '-' :: ofNat n.natAbs else ofNat n.natAbs

def digit? (c : Char) : Option Nat := if c.isDigit then some (c.toNat - '0'.toNat) else none

def value (s : Text) : Nat := Nat.ofDigitChars 10 s 0

inductive Problem where
  | empty
  | invalidDigit
  | tooLarge
deriving DecidableEq, Repr

def Problem.message : Problem → Text
  | .empty => "cannot parse integer from empty string".toList
  | .invalidDigit => "invalid digit found in string".toList
  | .tooLarge => "number too large to fit in target type".toList

/-- From left to right, so that the first character at fault decides the problem. -/
def scan (most : Nat) : Nat → Text → Except Problem Nat
  | v, [] => .ok v
  | v, c :: s =>
    match digit? c with
    | none => .error .invalidDigit
    | some d => if 10 * v + d ≤ most then scan most (10 * v + d) s else .error .tooLarge

def read (most : Nat) (s : Text) : Except Problem Nat :=
  if s.isEmpty then .error .empty else scan most 0 s

def readSigned (most : Nat) : Text → Except Problem Nat
  | '+' :: c :: s => read most (c :: s)
  | s => read most s

def readInt? : Text → Option Int
  | '-' :: s => (read (twoTo 63) s).toOption.map fun n => -(n : Int)
  | s => (readSigned (twoTo 63 - 1) s).toOption.map fun n => (n : Int)

theorem digit?_eq_some_iff {c : Char} {d : Nat} :
    digit? c = some d ↔ c.isDigit = true ∧ d = c.toNat - '0'.toNat := by
  unfold digit?
  by_cases h : c.isDigit = true
  · rw [if_pos h, Option.some.injEq]
    exact ⟨fun e => ⟨h, e.symm⟩, fun e => e.2.symm⟩
  · simp [h]

theorem le_ofDigitChars (s : Text) (v : Nat) : v ≤ Nat.ofDigitChars 10 s v := by
  induction s generalizing v with
  | nil => exact Nat.le_refl v
  | cons c s ih =>
    rw [Nat.ofDigitChars_cons]
    exact Nat.le_trans (by omega) (ih _)

theorem scan_eq_ok_iff {most v n : Nat} {s : Text} (hv : v ≤ most) :
    scan most v s = .ok n ↔
      (∀ c ∈ s, c.isDigit = true) ∧ n = Nat.ofDigitChars 10 s v ∧ n ≤ most := by
  induction s generalizing v with
  | nil =>
    simp only [scan, Except.ok.injEq]
    constructor
    · rintro rfl
      exact ⟨by simp, rfl, hv⟩
    · rintro ⟨-, rfl, -⟩
      rfl
  | cons c s ih =>
    rw [scan]
    cases hd : digit? c with
    | none =>
      have hc : ¬ c.isDigit = true := fun h => by simp [digit?, h] at hd
      simp [hc]
    | some d =>
      obtain ⟨hc, rfl⟩ := digit?_eq_some_iff.1 hd
      simp only
      split
      · next h => rw [ih h]; simp [hc, Nat.ofDigitChars_cons]
      · next h =>
        constructor
        · simp
        · rintro ⟨-, rfl, hn⟩
          rw [Nat.ofDigitChars_cons] at hn
          exact absurd (Nat.le_trans (le_ofDigitChars s _) hn) h

theorem read_eq_ok_iff {most n : Nat} {s : Text} :
    read most s = .ok n ↔
      s ≠ [] ∧ (∀ c ∈ s, c.isDigit = true) ∧ n = value s ∧ n ≤ most := by
  unfold read
  cases s with
  | nil => simp
  | cons c s =>
    rw [if_neg (by simp), scan_eq_ok_iff (Nat.zero_le most)]
    simp [value]

theorem value_ofNat (n : Nat) : value (ofNat n) = n :=
  Nat.ofDigitChars_toDigits (by decide) (by decide)

theorem isDigit_of_mem_ofNat {n : Nat} {c : Char} (h : c ∈ ofNat n) : c.isDigit = true :=
  Nat.isDigit_of_mem_toDigits (by decide) (by decide) h

theorem read_ofNat {most n : Nat} (h : n ≤ most) : read most (ofNat n) = .ok n :=
  read_eq_ok_iff.2 ⟨Nat.toDigits_ne_nil, fun _ => isDigit_of_mem_ofNat, (value_ofNat n).symm, h⟩

end Numeral

end PlatformLauncher
