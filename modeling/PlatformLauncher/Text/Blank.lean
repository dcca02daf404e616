import PlatformLauncher.Text

/-!
Blank characters and the removal of them from both ends of a text. Main statement:
`trim_eq_nil_iff`, a text is blank throughout exactly when nothing of it is left.
-/
namespace PlatformLauncher.Text

def isBlank (c : Char) : Bool :=
  let n := c.toNat
  (9 ≤ n && n ≤ 13) || n == 0x20 || n == 0x85 || n == 0xA0 || n == 0x1680 ||
    (0x2000 ≤ n && n ≤ 0x200A) || n == 0x2028 || n == 0x2029 || n == 0x202F || n == 0x205F ||
    n == 0x3000

def trimLeft (s : Text) : Text := s.dropWhile isBlank

def trimRight (s : Text) : Text := (s.reverse.dropWhile isBlank).reverse

def trim (s : Text) : Text := trimRight (trimLeft s)

theorem trimLeft_eq_nil_iff {s : Text} : trimLeft s = [] ↔ ∀ c ∈ s, isBlank c = true := by
  induction s with
  | nil => simp [trimLeft]
  | cons c s ih =>
    rw [trimLeft] at ih ⊢
    cases h : isBlank c with
    | false => simp [h]
    | true =>
      rw [List.dropWhile_cons_of_pos h, ih]
      simp [h]

theorem trimRight_eq_nil_iff {s : Text} : trimRight s = [] ↔ ∀ c ∈ s, isBlank c = true := by
  rw [trimRight, List.reverse_eq_nil_iff, ← trimLeft, trimLeft_eq_nil_iff]
  simp

theorem trim_eq_nil_iff {s : Text} : trim s = [] ↔ ∀ c ∈ s, isBlank c = true := by
  constructor
  · intro h
    rw [trim, trimRight_eq_nil_iff] at h
    rw [← trimLeft_eq_nil_iff]
    cases hd : trimLeft s with
    | nil => rfl
    | cons c r =>
      have hc : isBlank c = true := h c (by rw [hd]; simp)
      have hn : isBlank c ≠ true := by
        have := List.head?_dropWhile_not isBlank s
        rw [show s.dropWhile isBlank = c :: r from hd] at this
        simpa using this
      exact absurd hc hn
  · intro h
    rw [trim, trimLeft_eq_nil_iff.2 h]
    rfl

def isBlankText (s : Text) : Bool := (trim s).isEmpty

end PlatformLauncher.Text
