import PlatformLauncher.Text

/-!
Text as octets (UTF-8). `decode?` accepts the well-formed sequences only; `decodeLossy` puts the
replacement character for each longest stretch that starts like a character and breaks off. Main
statement: `decode?_encode`, what is written reads back.
-/
namespace PlatformLauncher

abbrev Octets := List UInt8

namespace Octets

def ofChar (c : Char) : Octets :=
  let n := c.toNat
  if n < 0x80 then [UInt8.ofNat n]
  else if n < 0x800 then [UInt8.ofNat (0xC0 + n / 0x40), UInt8.ofNat (0x80 + n % 0x40)]
  else if n < 0x10000 then
    [UInt8.ofNat (0xE0 + n / 0x1000), UInt8.ofNat (0x80 + n / 0x40 % 0x40),
      UInt8.ofNat (0x80 + n % 0x40)]
  else
    [UInt8.ofNat (0xF0 + n / 0x40000), UInt8.ofNat (0x80 + n / 0x1000 % 0x40),
      UInt8.ofNat (0x80 + n / 0x40 % 0x40), UInt8.ofNat (0x80 + n % 0x40)]

def encode (s : Text) : Octets := s.flatMap ofChar

@[simp] theorem encode_nil : encode [] = [] := rfl

@[simp] theorem encode_append (s t : Text) : encode (s ++ t) = encode s ++ encode t := by
  simp [encode]

/-- How many octets a character of this first octet has, with the least and greatest second octet. -/
def lead (b : Nat) : Option (Nat × Nat × Nat) :=
  if b < 0x80 then some (1, 0, 0)
  else if b < 0xC2 then none
  else if b < 0xE0 then some (2, 0x80, 0xBF)
  else if b = 0xE0 then some (3, 0xA0, 0xBF)
  else if b = 0xED then some (3, 0x80, 0x9F)
  else if b < 0xF0 then some (3, 0x80, 0xBF)
  else if b = 0xF0 then some (4, 0x90, 0xBF)
  else if b < 0xF4 then some (4, 0x80, 0xBF)
  else if b = 0xF4 then some (4, 0x80, 0x8F)
  else none

def isTail (b : Nat) : Bool := 0x80 ≤ b && b ≤ 0xBF

def decode? : Octets → Option Text
  | [] => some []
  | b0 :: s0 =>
    let n0 := b0.toNat
    match lead n0 with
    | none => none
    | some (width, low, high) =>
      if width = 1 then (decode? s0).map (Char.ofNat n0 :: ·)
      else match s0 with
        | [] => none
        | b1 :: s1 =>
          let n1 := b1.toNat
          if low ≤ n1 ∧ n1 ≤ high then
            if width = 2 then
              (decode? s1).map (Char.ofNat ((n0 - 0xC0) * 0x40 + (n1 - 0x80)) :: ·)
            else match s1 with
              | [] => none
              | b2 :: s2 =>
                let n2 := b2.toNat
                if isTail n2 then
                  if width = 3 then
                    (decode? s2).map (Char.ofNat
                      ((n0 - 0xE0) * 0x1000 + (n1 - 0x80) * 0x40 + (n2 - 0x80)) :: ·)
                  else match s2 with
                    | [] => none
                    | b3 :: s3 =>
                      let n3 := b3.toNat
                      if isTail n3 then
                        (decode? s3).map (Char.ofNat ((n0 - 0xF0) * 0x40000 +
                          (n1 - 0x80) * 0x1000 + (n2 - 0x80) * 0x40 + (n3 - 0x80)) :: ·)
                      else none
                else none
          else none

def replacement : Char := '\uFFFD'

def decodeLossy : Octets → Text
  | [] => []
  | b0 :: s0 =>
    let n0 := b0.toNat
    match lead n0 with
    | none => replacement :: decodeLossy s0
    | some (width, low, high) =>
      if width = 1 then Char.ofNat n0 :: decodeLossy s0
      else match s0 with
        | [] => [replacement]
        | b1 :: s1 =>
          let n1 := b1.toNat
          if low ≤ n1 ∧ n1 ≤ high then
            if width = 2 then Char.ofNat ((n0 - 0xC0) * 0x40 + (n1 - 0x80)) :: decodeLossy s1
            else match s1 with
              | [] => [replacement]
              | b2 :: s2 =>
                let n2 := b2.toNat
                if isTail n2 then
                  if width = 3 then
                    Char.ofNat ((n0 - 0xE0) * 0x1000 + (n1 - 0x80) * 0x40 + (n2 - 0x80)) ::
                      decodeLossy s2
                  else match s2 with
                    | [] => [replacement]
                    | b3 :: s3 =>
                      let n3 := b3.toNat
                      if isTail n3 then
                        Char.ofNat ((n0 - 0xF0) * 0x40000 + (n1 - 0x80) * 0x1000 +
                          (n2 - 0x80) * 0x40 + (n3 - 0x80)) :: decodeLossy s3
                      else replacement :: decodeLossy (b3 :: s3)
                else replacement :: decodeLossy (b2 :: s2)
          else replacement :: decodeLossy (b1 :: s1)

theorem octet_toNat {n : Nat} (h : n < 0x100) : (UInt8.ofNat n).toNat = n := by
  simpa using h

theorem le_of_mem_ofChar {c : Char} (beyond : 0x80 ≤ c.toNat) {octet : UInt8}
    (member : octet ∈ ofChar c) : 0x80 ≤ octet.toNat := by
  have bounded : c.toNat < 0x110000 := by
    have valid : c.toNat < 0xD800 ∨ 0xDFFF < c.toNat ∧ c.toNat < 0x110000 := c.valid
    omega
  unfold ofChar at member
  simp only [Nat.not_lt.2 beyond, if_false] at member
  split at member
  · simp only [List.mem_cons, List.not_mem_nil, or_false] at member
    rcases member with rfl | rfl <;> rw [octet_toNat] <;> omega
  split at member
  · simp only [List.mem_cons, List.not_mem_nil, or_false] at member
    rcases member with rfl | rfl | rfl <;> rw [octet_toNat] <;> omega
  · simp only [List.mem_cons, List.not_mem_nil, or_false] at member
    rcases member with rfl | rfl | rfl | rfl <;> rw [octet_toNat] <;> omega

theorem isTail_low (n : Nat) : isTail (0x80 + n % 0x40) = true := by
  simp [isTail]; omega

theorem decode?_one {a : Nat} (ha : a < 0x80) (rest : Octets) :
    decode? (UInt8.ofNat a :: rest) = (decode? rest).map (Char.ofNat a :: ·) := by
  rw [decode?]
  simp only [octet_toNat (show a < 0x100 by omega), lead, ha, if_true]

theorem decode?_two {n : Nat} (low : 0x80 ≤ n) (high : n < 0x800) (rest : Octets) :
    decode? (UInt8.ofNat (0xC0 + n / 0x40) :: UInt8.ofNat (0x80 + n % 0x40) :: rest) =
      (decode? rest).map (Char.ofNat n :: ·) := by
  have l : lead (0xC0 + n / 0x40) = some (2, 0x80, 0xBF) := by
    unfold lead; repeat' split
    all_goals first | omega | rfl
  have b : 0x80 ≤ 0x80 + n % 0x40 ∧ 0x80 + n % 0x40 ≤ 0xBF := by omega
  have v : (0xC0 + n / 0x40 - 0xC0) * 0x40 + (0x80 + n % 0x40 - 0x80) = n := by omega
  rw [decode?]
  simp only [octet_toNat (show 0xC0 + n / 0x40 < 0x100 by omega),
    octet_toNat (show 0x80 + n % 0x40 < 0x100 by omega), l]
  rw [if_neg (by decide), if_pos b, if_pos trivial, v]

theorem decode?_three {n : Nat} (low : 0x800 ≤ n) (high : n < 0x10000)
    (plain : n < 0xD800 ∨ 0xDFFF < n) (rest : Octets) :
    decode? (UInt8.ofNat (0xE0 + n / 0x1000) :: UInt8.ofNat (0x80 + n / 0x40 % 0x40) ::
      UInt8.ofNat (0x80 + n % 0x40) :: rest) = (decode? rest).map (Char.ofNat n :: ·) := by
  have l : ∃ least most, lead (0xE0 + n / 0x1000) = some (3, least, most) ∧
      least ≤ 0x80 + n / 0x40 % 0x40 ∧ 0x80 + n / 0x40 % 0x40 ≤ most := by
    unfold lead; repeat' split
    all_goals first | omega | (refine ⟨_, _, rfl, ?_, ?_⟩ <;> omega)
  obtain ⟨least, most, l, b⟩ := l
  have v : (0xE0 + n / 0x1000 - 0xE0) * 0x1000 + (0x80 + n / 0x40 % 0x40 - 0x80) * 0x40 +
      (0x80 + n % 0x40 - 0x80) = n := by omega
  rw [decode?]
  simp only [octet_toNat (show 0xE0 + n / 0x1000 < 0x100 by omega),
    octet_toNat (show 0x80 + n / 0x40 % 0x40 < 0x100 by omega),
    octet_toNat (show 0x80 + n % 0x40 < 0x100 by omega), l]
  rw [if_neg (by decide), if_pos b, if_neg (by decide), if_pos (isTail_low n), if_pos trivial, v]

theorem decode?_four {n : Nat} (low : 0x10000 ≤ n) (high : n < 0x110000) (rest : Octets) :
    decode? (UInt8.ofNat (0xF0 + n / 0x40000) :: UInt8.ofNat (0x80 + n / 0x1000 % 0x40) ::
      UInt8.ofNat (0x80 + n / 0x40 % 0x40) :: UInt8.ofNat (0x80 + n % 0x40) :: rest) =
      (decode? rest).map (Char.ofNat n :: ·) := by
  have l : ∃ least most, lead (0xF0 + n / 0x40000) = some (4, least, most) ∧
      least ≤ 0x80 + n / 0x1000 % 0x40 ∧ 0x80 + n / 0x1000 % 0x40 ≤ most := by
    unfold lead; repeat' split
    all_goals first | omega | (refine ⟨_, _, rfl, ?_, ?_⟩ <;> omega)
  obtain ⟨least, most, l, b⟩ := l
  have v : (0xF0 + n / 0x40000 - 0xF0) * 0x40000 + (0x80 + n / 0x1000 % 0x40 - 0x80) * 0x1000 +
      (0x80 + n / 0x40 % 0x40 - 0x80) * 0x40 + (0x80 + n % 0x40 - 0x80) = n := by omega
  rw [decode?]
  simp only [octet_toNat (show 0xF0 + n / 0x40000 < 0x100 by omega),
    octet_toNat (show 0x80 + n / 0x1000 % 0x40 < 0x100 by omega),
    octet_toNat (show 0x80 + n / 0x40 % 0x40 < 0x100 by omega),
    octet_toNat (show 0x80 + n % 0x40 < 0x100 by omega), l]
  rw [if_neg (by decide), if_pos b, if_neg (by decide), if_pos (isTail_low _),
    if_neg (by decide), if_pos (isTail_low n), v]

theorem decode?_ofChar_append (c : Char) (rest : Octets) :
    decode? (ofChar c ++ rest) = (decode? rest).map (c :: ·) := by
  have hv : c.toNat < 0xD800 ∨ 0xDFFF < c.toNat ∧ c.toNat < 0x110000 := c.valid
  have hc : Char.ofNat c.toNat = c := Char.ofNat_toNat c
  unfold ofChar
  simp only
  split
  · next h => rw [List.cons_append, List.nil_append, decode?_one h, hc]
  · split
    · next low high =>
      rw [List.cons_append, List.cons_append, List.nil_append,
        decode?_two (Nat.not_lt.1 low) high, hc]
    · split
      · next low high =>
        rw [List.cons_append, List.cons_append, List.cons_append, List.nil_append,
          decode?_three (Nat.not_lt.1 low) high (by omega), hc]
      · next low =>
        rw [List.cons_append, List.cons_append, List.cons_append, List.cons_append,
          List.nil_append, decode?_four (Nat.not_lt.1 low) (by omega), hc]

theorem decode?_encode (s : Text) : decode? (encode s) = some s := by
  induction s with
  | nil => rfl
  | cons c s ih =>
    rw [show encode (c :: s) = ofChar c ++ encode s by simp [encode], decode?_ofChar_append, ih]
    rfl

end Octets

end PlatformLauncher
