import PlatformLauncher.Text

/-!
Substitution by pattern, line by line: letters stand for themselves, a point for any character, and a
star behind either for as many of them as possible.
-/
namespace PlatformLauncher.Execution

structure PatternItem where
  char : Option Char
  many : Bool
deriving DecidableEq, Repr

def PatternItem.fits (p : PatternItem) (c : Char) : Bool :=
  match p.char with
  | none => true
  | some d => c = d

namespace Pattern

def ofText : Text → List PatternItem
  | c :: '*' :: r => ⟨if c = '.' then none else some c, true⟩ :: ofText r
  | '\\' :: c :: r => ⟨some c, false⟩ :: ofText r
  | c :: r => ⟨if c = '.' then none else some c, false⟩ :: ofText r
  | [] => []

def repeated (item : PatternItem) : Text → List Text
  | [] => [[]]
  | c :: s => if item.fits c then repeated item s ++ [c :: s] else [c :: s]

def matchFront? : List PatternItem → Text → Option Text
  | [], s => some s
  | item :: rest, s =>
    if item.many then (repeated item s).findSome? (matchFront? rest)
    else
      match s with
      | c :: s => if item.fits c then matchFront? rest s else none
      | [] => none

def substituteFirst (pattern : List PatternItem) (substitute : Text) : Text → Text
  | [] => ((matchFront? pattern []).map (substitute ++ ·)).getD []
  | c :: s =>
    match matchFront? pattern (c :: s) with
    | some rest => substitute ++ rest
    | none => c :: substituteFirst pattern substitute s

def substitution? (script : Text) : Option (Text → Text) :=
  match script with
  | 's' :: mark :: r =>
    match Text.pieces mark r with
    | [pattern, substitute, []] => some (substituteFirst (ofText pattern) substitute)
    | _ => none
  | _ => none

end Pattern

end PlatformLauncher.Execution
