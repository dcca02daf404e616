import PlatformLauncher.Number.Numeral

/-!
Binary floating-point numbers with 53 significant bits, as exact data: a finite number is a whole
number times a power of two. A decimal is rounded to the nearest such number, a tie to the even one.
-/
namespace PlatformLauncher

inductive Binary64 where
  | nan
  | infinite (negative : Bool)
  | finite (negative : Bool) (significand : Nat) (exponent : Int)
deriving DecidableEq, Repr

namespace Binary64

def leastExponent : Int := -1074
def greatestExponent : Int := 971

def scaled (num den : Nat) (exponent : Int) : Nat × Nat :=
  if 0 ≤ exponent then (num * twoTo exponent.toNat, den) else (num, den * twoTo (-exponent).toNat)

def nearestEven (num den : Nat) : Nat :=
  let whole := num / den
  let twice := 2 * (num % den)
  if twice < den then whole
  else if den < twice then whole + 1
  else if whole % 2 = 0 then whole else whole + 1

def exponentOf (num den : Nat) : Int :=
  let guess : Int := (num.log2 : Int) - (den.log2 : Int)
  let (n, d) := scaled num den (-guess)
  let top := if n < d then guess - 1 else guess
  max (top - 52) leastExponent

def ofFraction (negative : Bool) (num den : Nat) : Binary64 :=
  if num = 0 then .finite negative 0 leastExponent
  else
    let exponent := exponentOf num den
    let (n, d) := scaled num den (-exponent)
    let significand := nearestEven n d
    let (significand, exponent) :=
      if significand = twoTo 53 then (twoTo 52, exponent + 1) else (significand, exponent)
    if greatestExponent < exponent then .infinite negative
    else .finite negative significand exponent

/-- The number nearest to `digits * 10 ^ power`. Powers far outside the range are decided by the
number of digits alone. -/
def ofDecimal (negative : Bool) (digits : Text) (power : Int) : Binary64 :=
  let significant := digits.dropWhile (· == '0')
  let magnitude : Int := significant.length + power
  if significant.isEmpty || magnitude < -400 then .finite negative 0 leastExponent
  else if 400 < magnitude then .infinite negative
  else
    let n := Numeral.value significant
    if 0 ≤ power then ofFraction negative (n * tenTo power.toNat) 1
    else ofFraction negative n (tenTo (-power).toNat)

def splitSign : Text → Bool × Text
  | '-' :: s => (true, s)
  | '+' :: s => (false, s)
  | s => (false, s)

def exponent? (s : Text) : Option Int :=
  let (negative, digits) := splitSign s
  if digits.isEmpty || !digits.all Char.isDigit then none
  else
    let n : Int := Numeral.value digits
    some (if negative then -n else n)

def decimal? (negative : Bool) (s : Text) : Option Binary64 :=
  let whole := s.takeWhile Char.isDigit
  let afterWhole := s.dropWhile Char.isDigit
  let (places, afterPlaces) :=
    match afterWhole with
    | '.' :: r => (r.takeWhile Char.isDigit, r.dropWhile Char.isDigit)
    | r => ([], r)
  if whole.isEmpty && places.isEmpty then none
  else
    let power? :=
      match afterPlaces with
      | [] => some 0
      | c :: r => if c == 'e' || c == 'E' then exponent? r else none
    power?.map fun power => ofDecimal negative (whole ++ places) (power - places.length)

def read? (s : Text) : Option Binary64 :=
  let (negative, body) := splitSign s
  let name := Text.lower body
  if name == "inf".toList || name == "infinity".toList then some (.infinite negative)
  else if name == "nan".toList then some .nan
  else decimal? negative body

def toNatWithin (most : Nat) : Binary64 → Nat
  | nan => 0
  | infinite negative => if negative then 0 else most
  | finite negative significand exponent =>
    if negative then 0
    else
      let (n, d) := scaled significand 1 exponent
      min most ((2 * n + d) / (2 * d))

end Binary64

end PlatformLauncher
