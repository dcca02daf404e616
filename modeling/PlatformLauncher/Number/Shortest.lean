import PlatformLauncher.Number.Binary64

/-!
The fewest decimal digits that read back as the same binary number, written out without a power of
ten. Of two texts of that length the nearer one is taken.
-/
namespace PlatformLauncher.Binary64

/-- The reals that round to a finite positive number: between two numerators over one denominator,
the ends included when the significand is even. The number itself is the middle one. -/
structure RoundingInterval where
  low : Nat
  middle : Nat
  high : Nat
  den : Nat
  closed : Bool

def RoundingInterval.ofFinite (significand : Nat) (exponent : Int) : RoundingInterval :=
  let narrow := significand = twoTo 52 ∧ leastExponent < exponent
  let (unit, den) := scaled 1 1 (exponent - 2)
  { low := (4 * significand - if narrow then 1 else 2) * unit
    middle := 4 * significand * unit
    high := (4 * significand + 2) * unit
    den
    closed := significand % 2 = 0 }

def RoundingInterval.contains (i : RoundingInterval) (num d : Nat) : Bool :=
  if i.closed then i.low * d ≤ num * i.den && num * i.den ≤ i.high * d
  else i.low * d < num * i.den && num * i.den < i.high * d

def decimalPower (num den : Nat) : Int :=
  if den ≤ num then ((Nat.toDigits 10 (num / den)).length : Int)
  else 1 - ((Nat.toDigits 10 ((den - 1) / num)).length : Int)

def RoundingInterval.atPlace? (i : RoundingInterval) (place : Int) : Option Nat :=
  let (up, down) := if 0 ≤ place then (tenTo place.toNat, 1) else (1, tenTo (-place).toNat)
  let below := i.middle * down / (i.den * up)
  let inside := fun n => i.contains (n * up) down
  match inside below, inside (below + 1) with
  | true, false => some below
  | false, true => some (below + 1)
  | false, false => none
  | true, true =>
    if 2 * (i.middle * down) < (2 * below + 1) * (i.den * up) then some below
    else some (below + 1)

def RoundingInterval.search (i : RoundingInterval) : Nat → Int → Nat × Int
  | 0, place => ((i.atPlace? place).getD 0, place)
  | tries + 1, place =>
    match i.atPlace? place with
    | some n => (n, place)
    | none => i.search tries (place - 1)

def positional (n : Nat) (place : Int) : Text :=
  if 0 ≤ place then Numeral.ofNat (n * tenTo place.toNat)
  else
    let width := (-place).toNat
    let digits := Numeral.ofNat (n % tenTo width)
    let places := List.replicate (width - digits.length) '0' ++ digits
    let kept := (places.reverse.dropWhile (· == '0')).reverse
    Numeral.ofNat (n / tenTo width) ++ if kept.isEmpty then [] else '.' :: kept

def magnitudeText (significand : Nat) (exponent : Int) : Text :=
  if significand = 0 then ['0']
  else
    let i := RoundingInterval.ofFinite significand exponent
    let (n, place) := i.search 17 (decimalPower i.middle i.den - 1)
    positional n place

def toText : Binary64 → Text
  | nan => "NaN".toList
  | infinite negative => if negative then "-inf".toList else "inf".toList
  | finite negative significand exponent =>
    let text := magnitudeText significand exponent
    if negative then '-' :: text else text

end PlatformLauncher.Binary64
