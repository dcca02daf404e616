import PlatformLauncher.Number.Numeral

/-!
Writing TOML. A string takes the plainest of the four kinds of quotes that can hold it; only when
none can hold it as it stands are characters escaped.
-/
namespace PlatformLauncher.Toml.Printer

def needsEscape (c : Char) : Bool :=
  (c.toNat < 0x20 && c ≠ '\t' && c ≠ '\n') || c.toNat = 0x7F

/-- The longest run of a character. The first number is the run that is open, the second the longest
before it. -/
def longestRun (mark : Char) : Nat → Nat → Text → Nat
  | run, longest, [] => max run longest
  | run, longest, c :: s =>
    if c = mark then longestRun mark (run + 1) longest s
    else longestRun mark 0 (max run longest) s

inductive Quotes where
  | basic
  | literal
  | basicLines
  | literalLines
deriving DecidableEq, Repr

def quotesFor (s : Text) : Quotes :=
  let controls := s.any needsEscape
  let backslash := s.contains '\\'
  let feed := s.contains '\n'
  let double := longestRun '"' 0 0 s
  let single := longestRun '\'' 0 0 s
  if !controls && !backslash && !feed && double = 0 then .basic
  else if !controls && !feed && single = 0 then .literal
  else if !controls && !backslash && double ≤ 2 then .basicLines
  else if !controls && single ≤ 2 then .literalLines
  else if feed then .basicLines
  else .basic

def hex4 (n : Nat) : Text :=
  [n / 4096, n / 256 % 16, n / 16 % 16, n % 16].map fun d =>
    if d < 10 then Char.ofNat (0x30 + d) else Char.ofNat (0x37 + d)

def escaped (c : Char) : Text :=
  match c with
  | '\x08' => ['\\', 'b']
  | '\t' => ['\\', 't']
  | '\n' => ['\\', 'n']
  | '\x0c' => ['\\', 'f']
  | '\r' => ['\\', 'r']
  | '"' => ['\\', '"']
  | '\\' => ['\\', '\\']
  | c => '\\' :: 'u' :: hex4 c.toNat

/-- The body between basic quotes. Over several lines line feeds stand as they are, and so do up to
two quotes in a row; the first number counts the quotes just written. -/
def basicBody (lines : Bool) : Nat → Text → Text
  | _, [] => []
  | run, c :: s =>
    if c = '"' then
      if lines && run < 2 then c :: basicBody lines (run + 1) s
      else escaped c ++ basicBody lines 0 s
    else if c = '\n' && lines then c :: basicBody lines 0 s
    else if c.toNat < 0x20 || c.toNat = 0x7F || c = '\\' then escaped c ++ basicBody lines 0 s
    else c :: basicBody lines 0 s

def opened (s : Text) : Text := if s.contains '\n' then ['\n'] else []

def string (s : Text) : Text :=
  match quotesFor s with
  | .basic => '"' :: basicBody false 0 s ++ ['"']
  | .literal => '\'' :: s ++ ['\'']
  | .basicLines => "\"\"\"".toList ++ opened s ++ basicBody true 0 s ++ "\"\"\"".toList
  | .literalLines => "'''".toList ++ opened s ++ s ++ "'''".toList

def strings (items : List Text) : Text :=
  match items with
  | [] => "[]".toList
  | [item] => '[' :: string item ++ [']']
  | _ =>
    "[\n".toList ++
      items.flatMap (fun item => List.replicate 4 ' ' ++ string item ++ ",\n".toList) ++ [']']

def entry (key value : Text) : Text := key ++ " = ".toList ++ value ++ ['\n']

def document (blocks : List Text) : Text := Text.joinWith ['\n'] blocks

end PlatformLauncher.Toml.Printer
