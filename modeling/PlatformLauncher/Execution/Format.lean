import PlatformLauncher.Text.Octets
import PlatformLauncher.Number.Numeral

/-!
Text with escapes behind backslashes, and formats whose directives stand for arguments. What comes out
are octets, for an escape may name any octet.
-/
namespace PlatformLauncher.Execution.Format

def letters : List (Char × UInt8) :=
  [('n', 10), ('t', 9), ('r', 13), ('a', 7), ('b', 8), ('f', 12), ('v', 11), ('\\', 92)]

def isOctal (c : Char) : Bool := '0' ≤ c && c ≤ '7'

def octal (s : Text) : Octets × Text :=
  let digits := (s.take 3).takeWhile isOctal
  ([UInt8.ofNat (Nat.ofDigitChars 8 digits 0)], s.drop digits.length)

def escape (zeroFirst : Bool) : Text → Octets × Text
  | [] => ([92], [])
  | c :: r =>
    match letters.lookup c with
    | some b => ([b], r)
    | none =>
      if zeroFirst && c = '0' then octal r
      else if !zeroFirst && isOctal c then octal (c :: r)
      else (92 :: Octets.ofChar c, r)

def unescapedFrom : Nat → Text → Octets
  | 0, _ => []
  | _, [] => []
  | fuel + 1, c :: r =>
    if c = '\\' then
      let (o, rest) := escape true r
      o ++ unescapedFrom fuel rest
    else Octets.ofChar c ++ unescapedFrom fuel r

def unescaped (s : Text) : Octets := unescapedFrom s.length s

def directive? (c : Char) (arg : Text) : Option Octets :=
  if c = 's' then some (Octets.encode arg)
  else if c = 'd' || c = 'i' then
    some (Octets.encode (Numeral.ofInt ((Numeral.readInt? arg).getD 0)))
  else if c = 'c' then some (Octets.encode (arg.take 1))
  else none

def once : Nat → Text → List Text → Octets × List Text
  | 0, _, args => ([], args)
  | _, [], args => ([], args)
  | fuel + 1, '\\' :: r, args =>
    let (o, r) := escape false r
    let (more, args) := once fuel r args
    (o ++ more, args)
  | fuel + 1, '%' :: '%' :: r, args =>
    let (more, args) := once fuel r args
    (37 :: more, args)
  | fuel + 1, '%' :: c :: r, args =>
    match directive? c (args.headD []) with
    | some o =>
      let (more, args) := once fuel r args.tail
      (o ++ more, args)
    | none =>
      let (more, args) := once fuel (c :: r) args
      (37 :: more, args)
  | fuel + 1, c :: r, args =>
    let (more, args) := once fuel r args
    (Octets.ofChar c ++ more, args)

def repeated (format : Text) : Nat → List Text → Octets
  | 0, _ => []
  | uses + 1, args =>
    let (o, rest) := once format.length format args
    if rest.isEmpty || rest.length = args.length then o else o ++ repeated format uses rest

def formatted (format : Text) (args : List Text) : Octets :=
  repeated format (args.length + 1) args

end PlatformLauncher.Execution.Format
