import PlatformLauncher.Host.Punycode
import PlatformLauncher.Host.Tables

/-!
Host names in any script. A name is mapped to its plain form first; then every label must hold only
characters that may stand in a name, in an order that reads without doubt.
-/
namespace PlatformLauncher.Host

def isDenied (c : Char) : Bool :=
  c.toNat ≤ 0x20 || c.toNat = 0x7F || "%#/:<>?@[\\]^|".toList.contains c

def isAscii (c : Char) : Bool := c.toNat < 0x80

def plain? (c : Char) : Option Text :=
  if isAscii c then some [c.toLower]
  else if disallowed.contains c then none
  else if ignored.contains c then some []
  else some ((asciiMapping.find? c).getD [c])

def plainName? : Text → Option Text
  | [] => some []
  | c :: s => do pure ((← plain? c) ++ (← plainName? s))

def isPlainChar (c : Char) : Bool :=
  if isAscii c then !c.isUpper && !isDenied c
  else !disallowed.contains c && !ignored.contains c && !mapped.contains c

/-- A zero-width joiner follows a virama; the other one may also stand between letters that are
written together. The characters before it come nearest first. -/
def joinerFits (joiner : Char) (before after : Text) : Bool :=
  let afterVirama := match before with
    | c :: _ => virama.contains c
    | [] => false
  let skip := fun s : Text => s.dropWhile joinsThrough.contains
  let between := match skip before, skip after with
    | l :: _, r :: _ => joinsLeft.contains l && joinsRight.contains r
    | _, _ => false
  afterVirama || (joiner = '\u200c' && between)

def joinersFit : Text → Text → Bool
  | _, [] => true
  | before, c :: after =>
    (!(c = '\u200c' || c = '\u200d') || joinerFits c before after) && joinersFit (c :: before) after

def isSoundLabel (label : Text) : Bool :=
  !(match label with
    | c :: _ => mark.contains c
    | [] => false) && joinersFit [] label

def encodedMark : Text := "xn--".toList

def readLabel? (label : Text) : Option Text :=
  match Text.dropPrefix? encodedMark label with
  | none => if isSoundLabel label then some label else none
  | some code =>
    if !code.all isAscii then none
    else
      match Punycode.decode? code with
      | none => none
      | some s => if s.all isPlainChar && !s.all isAscii && isSoundLabel s then some s else none

inductive Bidi where
  | left
  | right
  | arabicNumber
  | europeanNumber
  | nonspacing
  | neutral
deriving DecidableEq

def bidi (c : Char) : Bidi :=
  if bidiLeft.contains c then .left
  else if bidiRight.contains c || bidiArabic.contains c then .right
  else if bidiArabicNumber.contains c then .arabicNumber
  else if bidiEuropeanNumber.contains c then .europeanNumber
  else if bidiNonspacing.contains c then .nonspacing
  else .neutral

def isRightToLeft (label : Text) : Bool :=
  label.any fun c => bidi c == .right || bidi c == .arabicNumber

/-- RFC 5893, section 2: a label keeps to one direction, and begins and ends in it. -/
def keepsDirection (label : Text) : Bool :=
  let classes := label.map bidi
  match classes, (classes.reverse.dropWhile (· == .nonspacing)).head? with
  | [], _ => true
  | .right :: _, some last =>
    !classes.contains .left &&
      (last == .right || last == .europeanNumber || last == .arabicNumber) &&
      !(classes.contains .europeanNumber && classes.contains .arabicNumber)
  | .left :: _, some last =>
    !classes.contains .right && !classes.contains .arabicNumber &&
      (last == .left || last == .europeanNumber)
  | _, _ => false

def accepted? (name : Text) : Option Text := do
  let plain ← plainName? name
  if plain.any fun c => isDenied c then none
  else
    let labels ← (Text.pieces '.' plain).mapM readLabel?
    if labels.any isRightToLeft && !labels.all keepsDirection then none else some plain

end PlatformLauncher.Host
