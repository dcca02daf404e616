import PlatformLauncher.Text

/-!
Reading Punycode, the form in which characters beyond ASCII stand in a label of letters, digits and
hyphens (RFC 3492).
-/
namespace PlatformLauncher.Host.Punycode

def digit? (c : Char) : Option Nat :=
  if c.isLower then some (c.toNat - 'a'.toNat)
  else if c.isUpper then some (c.toNat - 'A'.toNat)
  else if c.isDigit then some (26 + (c.toNat - '0'.toNat))
  else none

def threshold (k bias : Nat) : Nat := max 1 (min 26 (k - bias))

def delta? (bias : Nat) : Nat → Nat → Nat → Text → Option (Nat × Text)
  | _, _, _, [] => none
  | k, weight, value, c :: r =>
    match digit? c with
    | none => none
    | some d =>
      let t := threshold k bias
      if d < t then some (value + d * weight, r)
      else delta? bias (k + 36) (weight * (36 - t)) (value + d * weight) r

def shrink : Nat → Nat → Nat → Nat
  | 0, delta, k => k + 36 * delta / (delta + 38)
  | fuel + 1, delta, k =>
    if 455 < delta then shrink fuel (delta / 35) (k + 36) else k + 36 * delta / (delta + 38)

def adapt (delta points : Nat) (first : Bool) : Nat :=
  let delta := if first then delta / 700 else delta / 2
  let delta := delta + delta / points
  shrink delta.log2 delta 0

def insertions? : Nat → Nat → Nat → Nat → Text → Text → Option Text
  | _, _, _, _, out, [] => some out
  | 0, _, _, _, _, _ => none
  | fuel + 1, n, i, bias, out, s =>
    match delta? bias 36 1 i s with
    | none => none
    | some (j, rest) =>
      let points := out.length + 1
      let n := n + j / points
      if n.isValidChar then
        insertions? fuel n (j % points + 1) (adapt (j - i) points (i = 0))
          (out.insertIdx (j % points) (Char.ofNat n)) rest
      else none

def decode? (s : Text) : Option Text :=
  match Text.cutAt? '-' s.reverse with
  | some (tail, c :: front) => insertions? s.length 128 0 72 (c :: front).reverse tail.reverse
  | _ => insertions? s.length 128 0 72 [] s

end PlatformLauncher.Host.Punycode
