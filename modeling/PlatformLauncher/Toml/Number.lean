import PlatformLauncher.Number.Binary64
import PlatformLauncher.Text.RangeTable
import PlatformLauncher.Toml.Moment

/-!
The values of a TOML document, and among them the numbers. An underscore may stand between two digits
and counts for nothing; whole numbers have 64 bits; a float that would round to infinity is refused.
-/
namespace PlatformLauncher.Toml

inductive Value where
  | text (s : Text)
  | integer (n : Int)
  | float (x : Binary64)
  | boolean (b : Bool)
  | moment (m : Moment)
  | list (items : List Value)
  | table (entries : List (Text × Value))
deriving Repr

def moreDigits? (isDigit : Char → Bool) : Text → Option (Text × Text)
  | '_' :: d :: r =>
    if isDigit d then (moreDigits? isDigit r).map fun (s, rest) => (d :: s, rest) else none
  | c :: r =>
    if isDigit c then (moreDigits? isDigit r).map fun (s, rest) => (c :: s, rest)
    else if c = '_' then none
    else some ([], c :: r)
  | [] => some ([], [])

def digits? (isDigit : Char → Bool) : Text → Option (Text × Text)
  | c :: r => if isDigit c then moreDigits? isDigit (c :: r) else none
  | [] => none

def wholePart? : Text → Option (Text × Text)
  | '0' :: r => some (['0'], r)
  | s => digits? Char.isDigit s

def based? (base : Nat) (s : Text) : Option (Value × Text) :=
  let isDigit := fun c => match Text.hexDigit? c with
    | some d => decide (d < base)
    | none => false
  match digits? isDigit s with
  | none => none
  | some (digits, rest) =>
    let n := digits.foldl (fun v c => base * v + (Text.hexDigit? c).getD 0) 0
    if n < twoTo 63 then some (.integer n, rest) else none

def integer? (negative : Bool) (digits : Text) : Option Value :=
  let n := Numeral.value digits
  if negative then (if n ≤ twoTo 63 then some (.integer (-(n : Int))) else none)
  else if n < twoTo 63 then some (.integer n) else none

def float? (negative : Bool) (whole places : Text) (power : Int) : Option Value :=
  match Binary64.ofDecimal negative (whole ++ places) (power - places.length) with
  | .infinite false => none
  | x => some (.float x)

def power? (s : Text) : Option (Int × Text) :=
  let (negative, s) := Binary64.splitSign s
  (digits? Char.isDigit s).map fun (digits, rest) =>
    let n : Int := Numeral.value digits
    (if negative then -n else n, rest)

def isPowerLetter (c : Char) : Bool := c = 'e' || c = 'E'

def floatFrom? (negative : Bool) (whole places : Text) (s : Text) : Option (Value × Text) :=
  match s with
  | c :: r =>
    if isPowerLetter c then
      (power? r).bind fun (power, rest) =>
        (float? negative whole places power).map (·, rest)
    else (float? negative whole places 0).map (·, s)
  | [] => (float? negative whole places 0).map (·, [])

def decimal? (negative : Bool) (s : Text) : Option (Value × Text) :=
  match wholePart? s with
  | none => none
  | some (whole, rest) =>
    match rest with
    | '.' :: r =>
      (digits? Char.isDigit r).bind fun (places, r) => floatFrom? negative whole places r
    | c :: r =>
      if isPowerLetter c then floatFrom? negative whole [] (c :: r)
      else (integer? negative whole).map (·, c :: r)
    | [] => (integer? negative whole).map (·, [])

def number? (s : Text) : Option (Value × Text) :=
  let (negative, body) := Binary64.splitSign s
  match body with
  | 'i' :: 'n' :: 'f' :: r => some (.float (.infinite negative), r)
  | 'n' :: 'a' :: 'n' :: r => some (.float .nan, r)
  | _ =>
    match s with
    | '0' :: 'x' :: r => based? 16 r
    | '0' :: 'o' :: r => based? 8 r
    | '0' :: 'b' :: r => based? 2 r
    | _ => decimal? negative body

end PlatformLauncher.Toml
