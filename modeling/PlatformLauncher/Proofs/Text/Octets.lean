import PlatformLauncher.Text.Octets

/-!
Octets that decode are the encoding of what they decode to. The bounds on the second octet leave out
the longer spellings of a character, the surrogates and all numbers beyond the last character. Main
statement: `decode?_eq_some_iff`.
-/
namespace PlatformLauncher.Octets

def IsScalar (n : Nat) : Prop := n < 0xD800 ∨ 0xDFFF < n ∧ n < 0x110000

theorem toNat_ofNat {n : Nat} (scalar : IsScalar n) : (Char.ofNat n).toNat = n := by
  have valid : n.isValidChar := scalar
  unfold Char.ofNat
  rw [dif_pos valid]
  rfl

theorem lead_cases {b width low high : Nat} (leads : lead b = some (width, low, high)) :
    (width = 1 ∧ b < 0x80) ∨
      (width = 2 ∧ 0xC2 ≤ b ∧ b < 0xE0 ∧ low = 0x80 ∧ high = 0xBF) ∨
      (width = 3 ∧ 0xE0 ≤ b ∧ b < 0xF0 ∧ 0x80 ≤ low ∧ high ≤ 0xBF ∧ (b = 0xE0 → low = 0xA0) ∧
        (b = 0xED → high = 0x9F)) ∨
      (width = 4 ∧ 0xF0 ≤ b ∧ b < 0xF5 ∧ 0x80 ≤ low ∧ high ≤ 0xBF ∧ (b = 0xF0 → low = 0x90) ∧
        (b = 0xF4 → high = 0x8F)) := by
  unfold lead at leads
  repeat' split at leads
  all_goals cases leads
  all_goals omega

section Characters

variable {b0 b1 b2 b3 : UInt8}

theorem ofChar_one (first : b0.toNat < 0x80) : ofChar (Char.ofNat b0.toNat) = [b0] := by
  have number := toNat_ofNat (n := b0.toNat) (.inl (by omega))
  unfold ofChar
  simp only [number]
  rw [if_pos first, UInt8.ofNat_toNat]

theorem ofChar_two (first : 0xC2 ≤ b0.toNat ∧ b0.toNat < 0xE0)
    (second : 0x80 ≤ b1.toNat ∧ b1.toNat ≤ 0xBF) :
    ofChar (Char.ofNat ((b0.toNat - 0xC0) * 0x40 + (b1.toNat - 0x80))) = [b0, b1] := by
  generalize number : (b0.toNat - 0xC0) * 0x40 + (b1.toNat - 0x80) = n
  have n0 : 0xC0 + n / 0x40 = b0.toNat := by omega
  have n1 : 0x80 + n % 0x40 = b1.toNat := by omega
  unfold ofChar
  simp only [toNat_ofNat (n := n) (.inl (by omega))]
  rw [if_neg (by omega), if_pos (by omega), n0, n1, UInt8.ofNat_toNat, UInt8.ofNat_toNat]

theorem ofChar_three {low high : Nat} (leads : lead b0.toNat = some (3, low, high))
    (second : low ≤ b1.toNat ∧ b1.toNat ≤ high) (third : isTail b2.toNat = true) :
    ofChar (Char.ofNat ((b0.toNat - 0xE0) * 0x1000 + (b1.toNat - 0x80) * 0x40 +
      (b2.toNat - 0x80))) = [b0, b1, b2] := by
  have bounds := lead_cases leads
  have third : 0x80 ≤ b2.toNat ∧ b2.toNat ≤ 0xBF := by simpa [isTail] using third
  generalize number : (b0.toNat - 0xE0) * 0x1000 + (b1.toNat - 0x80) * 0x40 + (b2.toNat - 0x80) = n
  have n0 : 0xE0 + n / 0x1000 = b0.toNat := by omega
  have n1 : 0x80 + n / 0x40 % 0x40 = b1.toNat := by omega
  have n2 : 0x80 + n % 0x40 = b2.toNat := by omega
  have scalar : IsScalar n := by
    unfold IsScalar
    omega
  unfold ofChar
  simp only [toNat_ofNat scalar]
  rw [if_neg (by omega), if_neg (by omega), if_pos (by omega), n0, n1, n2, UInt8.ofNat_toNat,
    UInt8.ofNat_toNat, UInt8.ofNat_toNat]

theorem ofChar_four {low high : Nat} (leads : lead b0.toNat = some (4, low, high))
    (second : low ≤ b1.toNat ∧ b1.toNat ≤ high) (third : isTail b2.toNat = true)
    (fourth : isTail b3.toNat = true) :
    ofChar (Char.ofNat ((b0.toNat - 0xF0) * 0x40000 + (b1.toNat - 0x80) * 0x1000 +
      (b2.toNat - 0x80) * 0x40 + (b3.toNat - 0x80))) = [b0, b1, b2, b3] := by
  have bounds := lead_cases leads
  have third : 0x80 ≤ b2.toNat ∧ b2.toNat ≤ 0xBF := by simpa [isTail] using third
  have fourth : 0x80 ≤ b3.toNat ∧ b3.toNat ≤ 0xBF := by simpa [isTail] using fourth
  generalize number : (b0.toNat - 0xF0) * 0x40000 + (b1.toNat - 0x80) * 0x1000 +
    (b2.toNat - 0x80) * 0x40 + (b3.toNat - 0x80) = n
  have n0 : 0xF0 + n / 0x40000 = b0.toNat := by omega
  have n1 : 0x80 + n / 0x1000 % 0x40 = b1.toNat := by omega
  have n2 : 0x80 + n / 0x40 % 0x40 = b2.toNat := by omega
  have n3 : 0x80 + n % 0x40 = b3.toNat := by omega
  have scalar : IsScalar n := by
    unfold IsScalar
    omega
  unfold ofChar
  simp only [toNat_ofNat scalar]
  rw [if_neg (by omega), if_neg (by omega), if_neg (by omega), n0, n1, n2, n3, UInt8.ofNat_toNat,
    UInt8.ofNat_toNat, UInt8.ofNat_toNat, UInt8.ofNat_toNat]

end Characters

theorem eq_encode_cons {c : Char} {front rest : Octets} {s : Text} (first : ofChar c = front)
    (decoded : (decode? rest).map (c :: ·) = some s)
    (further : ∀ s, decode? rest = some s → rest = encode s) : front ++ rest = encode s := by
  obtain ⟨s', rest', rfl⟩ := Option.map_eq_some_iff.1 decoded
  rw [← first, further s' rest']
  rfl

theorem eq_encode_of_decode? {o : Octets} (s : Text) (decoded : decode? o = some s) :
    o = encode s := by
  fun_induction decode? o generalizing s with
  | case1 =>
    cases decoded
    rfl
  | case3 b0 s0 n0 low high leads =>
    rename_i further
    have bounds := lead_cases leads
    exact eq_encode_cons (ofChar_one (by omega)) decoded further
  | case5 b0 n0 low high b1 s1 n1 second leads _ =>
    rename_i further
    have bounds := lead_cases leads
    exact eq_encode_cons (ofChar_two (by omega) (by omega)) decoded further
  | case7 b0 n0 low high b1 n1 second b2 s2 n2 third leads _ _ =>
    rename_i further
    exact eq_encode_cons (ofChar_three leads second third) decoded further
  | case9 b0 n0 width low high leads one b1 n1 second two b2 n2 third three b3 s3 n3 fourth =>
    rename_i further
    have bounds := lead_cases leads
    obtain rfl : width = 4 := by omega
    exact eq_encode_cons (ofChar_four leads second third fourth) decoded further
  | _ => cases decoded

theorem decode?_eq_some_iff {o : Octets} {s : Text} : decode? o = some s ↔ o = encode s := by
  constructor
  · exact eq_encode_of_decode? s
  · rintro rfl
    exact decode?_encode s

end PlatformLauncher.Octets
