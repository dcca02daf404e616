import PlatformLauncher.Settings.Layer

/-!
Keys that reach into tables and lists: names with points between them, and numbers in brackets.
-/
namespace PlatformLauncher

inductive KeyStep where
  | child (name : Text)
  | item (index : Int)
deriving DecidableEq, Repr

namespace KeyPath

def isNameChar (c : Char) : Bool := c.isAlphanum || c = '_' || c = '-' || c = ' '

def isPadding (c : Char) : Bool := c = ' ' || c = '\t'

def index? (s : Text) : Option (Int × Text) :=
  let s := s.dropWhile isPadding
  let (negative, s) := match s with
    | '-' :: r => (true, r)
    | _ => (false, s)
  let digits := s.takeWhile Char.isDigit
  match (s.dropWhile Char.isDigit).dropWhile isPadding with
  | ']' :: rest =>
    if digits.isEmpty then none
    else
      (Numeral.readInt? (if negative then '-' :: digits else digits)).map (·, rest)
  | _ => none

def steps? : Nat → Text → Option (List KeyStep)
  | _, [] => some []
  | 0, _ => none
  | fuel + 1, '.' :: r =>
    let name := r.takeWhile isNameChar
    if name.isEmpty then none
    else (steps? fuel (r.dropWhile isNameChar)).map (.child name :: ·)
  | fuel + 1, '[' :: r =>
    match index? r with
    | some (i, rest) => (steps? fuel rest).map (.item i :: ·)
    | none => none
  | _ + 1, _ => none

def parse? (key : Text) : Option (List KeyStep) :=
  let name := key.takeWhile isNameChar
  if name.isEmpty then none
  else (steps? key.length (key.dropWhile isNameChar)).map (.child name :: ·)

end KeyPath

namespace Layered

def items : Layered → List Layered
  | list _ xs => xs
  | _ => []

def listOrigin : Layered → Option Text
  | list o _ => o
  | _ => none

def position (length : Nat) (index : Int) : Nat :=
  if index < 0 then (length + index).toNat else index.toNat

/-- Changes one item; a list that is too short is filled up with nothing. -/
def putItem (t : Layered) (index : Int) (change : Layered → Layered) : Layered :=
  let n := position t.items.length index
  let xs := t.items ++ List.replicate (n + 1 - t.items.length) nothing
  list t.listOrigin (xs.set n (change (xs[n]?.getD nothing)))

/-- Lays a value over the place at the end of the steps. What stands in the way of a step becomes a
table or a list. -/
def place (v : Layered) : List KeyStep → Layered → Layered
  | [], _ => v
  | [.child name], t => t.assign name v
  | .child name :: rest, t => t.put name (place v rest ((t.get? name).getD nothing))
  | .item index :: rest, t => t.putItem index (place v rest)

def overlay (root : Layered) (entry : Text × Layered) : Layered :=
  match KeyPath.parse? entry.1 with
  | some steps => place entry.2 steps root
  | none => root.assign entry.1 entry.2

def overlayAll (root : Layered) (layer : List (Text × Layered)) : Layered :=
  layer.foldl overlay root

end Layered

end PlatformLauncher
