import PlatformLauncher.Number.Numeral

/-!
Dates and times of day in a TOML document: a date, a time, or both, and with both perhaps an offset.
Days are checked against the month and the leap year.
-/
namespace PlatformLauncher.Toml

structure Date where
  year : Nat
  month : Nat
  day : Nat
deriving DecidableEq, Repr

structure TimeOfDay where
  hour : Nat
  minute : Nat
  second : Nat
  nanosecond : Nat
deriving DecidableEq, Repr

inductive Offset where
  | utc
  | minutes (m : Int)
deriving DecidableEq, Repr

inductive Moment where
  | date (d : Date)
  | time (t : TimeOfDay)
  | both (d : Date) (t : TimeOfDay) (offset : Option Offset)
deriving DecidableEq, Repr

def padded (width n : Nat) : Text :=
  let digits := Numeral.ofNat n
  List.replicate (width - digits.length) '0' ++ digits

def Date.toText (d : Date) : Text :=
  padded 4 d.year ++ '-' :: padded 2 d.month ++ '-' :: padded 2 d.day

def TimeOfDay.toText (t : TimeOfDay) : Text :=
  padded 2 t.hour ++ ':' :: padded 2 t.minute ++ ':' :: padded 2 t.second ++
    if t.nanosecond = 0 then []
    else '.' :: ((padded 9 t.nanosecond).reverse.dropWhile (· == '0')).reverse

def Offset.toText : Offset → Text
  | utc => ['Z']
  | minutes m =>
    (if m < 0 then '-' else '+') :: padded 2 (m.natAbs / 60) ++ ':' :: padded 2 (m.natAbs % 60)

def Moment.toText : Moment → Text
  | date d => d.toText
  | time t => t.toText
  | both d t offset => d.toText ++ 'T' :: t.toText ++ (offset.map Offset.toText).getD []

namespace Moment

def isLeap (year : Nat) : Bool := year % 4 = 0 && (year % 100 ≠ 0 || year % 400 = 0)

def daysIn (year month : Nat) : Nat :=
  if month = 2 then (if isLeap year then 29 else 28)
  else if month = 4 || month = 6 || month = 9 || month = 11 then 30
  else 31

def digits? (count : Nat) (s : Text) : Option (Nat × Text) :=
  let digits := s.take count
  if digits.length = count && digits.all Char.isDigit then
    some (Numeral.value digits, s.drop count)
  else none

def expect? (c : Char) : Text → Option Text
  | d :: r => if d = c then some r else none
  | [] => none

def date? (s : Text) : Option (Date × Text) := do
  let (year, s) ← digits? 4 s
  let (month, s) ← digits? 2 (← expect? '-' s)
  let (day, s) ← digits? 2 (← expect? '-' s)
  if 1 ≤ month && month ≤ 12 && 1 ≤ day && day ≤ daysIn year month then
    some (⟨year, month, day⟩, s)
  else none

def fraction? : Text → Option (Nat × Text)
  | '.' :: r =>
    let digits := r.takeWhile Char.isDigit
    if digits.isEmpty then none
    else
      let kept := digits.take 9
      some (Numeral.value kept * tenTo (9 - kept.length), r.dropWhile Char.isDigit)
  | s => some (0, s)

def time? (s : Text) : Option (TimeOfDay × Text) := do
  let (hour, s) ← digits? 2 s
  let (minute, s) ← digits? 2 (← expect? ':' s)
  let (second, s) ← digits? 2 (← expect? ':' s)
  let (nanosecond, s) ← fraction? s
  if hour ≤ 23 && minute ≤ 59 && second ≤ 60 then some (⟨hour, minute, second, nanosecond⟩, s)
  else none

/-- Nothing is read where no offset begins; an offset that breaks off is a fault. -/
def offset? : Text → Option (Option Offset × Text)
  | [] => some (none, [])
  | c :: r =>
    if c = 'Z' || c = 'z' then some (some .utc, r)
    else if c = '+' || c = '-' then do
      let (hours, r) ← digits? 2 r
      let (minutes, r) ← digits? 2 (← expect? ':' r)
      if hours ≤ 23 && minutes ≤ 59 then
        let total : Int := (hours * 60 + minutes : Nat)
        some (some (.minutes (if c = '-' then -total else total)), r)
      else none
    else some (none, c :: r)

def isSeparator (c : Char) : Bool := c = 'T' || c = 't' || c = ' '

def read? (s : Text) : Option (Moment × Text) :=
  match date? s with
  | none => (time? s).map fun (t, r) => (.time t, r)
  | some (d, r) =>
    match r with
    | c :: r' =>
      if isSeparator c then
        match time? r' with
        | some (t, r'') => (offset? r'').map fun (o, rest) => (.both d t o, rest)
        | none => some (.date d, r)
      else some (.date d, r)
    | [] => some (.date d, [])

end Moment

end PlatformLauncher.Toml
