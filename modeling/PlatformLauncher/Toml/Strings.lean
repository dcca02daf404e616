import PlatformLauncher.Text.RangeTable

/-!
The four kinds of TOML strings. Each reader starts behind the opening quotes and gives the text and
what follows the closing quotes; nothing when the string is not well formed.
-/
namespace PlatformLauncher.Toml

def isPlain (c : Char) : Bool := c = '\t' || (0x20 ≤ c.toNat && c.toNat ≠ 0x7F)

def escape? : Char → Option Char
  | 'b' => some '\x08'
  | 't' => some '\t'
  | 'n' => some '\n'
  | 'f' => some '\x0c'
  | 'r' => some '\r'
  | '"' => some '"'
  | '\\' => some '\\'
  | _ => none

def scalar? (digits : Text) : Option Char :=
  (Text.hexValue? digits).bind fun n =>
    if n < 0xD800 ∨ (0xDFFF < n ∧ n < 0x110000) then some (Char.ofNat n) else none

def escaped? : Text → Option (Char × Nat)
  | 'u' :: r => if 4 ≤ r.length then (scalar? (r.take 4)).map (·, 5) else none
  | 'U' :: r => if 8 ≤ r.length then (scalar? (r.take 8)).map (·, 9) else none
  | c :: _ => (escape? c).map (·, 1)
  | [] => none

def putFront (c : Char) (x : Text × Text) : Text × Text := (c :: x.1, x.2)

/-- On one line, with escapes. The first number is how many characters still belong to an escape
that has been read. -/
def basic : Nat → Text → Option (Text × Text)
  | _, [] => none
  | k + 1, _ :: r => basic k r
  | 0, c :: r =>
    if c = '"' then some ([], r)
    else if c = '\\' then
      match escaped? r with
      | some (x, width) => (basic width r).map (putFront x)
      | none => none
    else if isPlain c then (basic 0 r).map (putFront c)
    else none

def literal : Text → Option (Text × Text)
  | [] => none
  | c :: r =>
    if c = '\'' then some ([], r)
    else if isPlain c then (literal r).map (putFront c)
    else none

def dropFeed : Text → Text
  | '\n' :: r => r
  | '\r' :: '\n' :: r => r
  | s => s

def startsFeed : Text → Bool
  | '\n' :: _ => true
  | '\r' :: '\n' :: _ => true
  | _ => false

def isSpace (c : Char) : Bool := c = ' ' || c = '\t'

/-- The quotes at the start: fewer than three are text, three to five close the string, and of these
the ones beyond three are text before the end. -/
def closing? (quote : Char) (s : Text) : Option (Text × Text) :=
  let run := s.takeWhile (· == quote)
  if run.length < 3 then none
  else
    let own := min (run.length - 3) 2
    some (List.replicate own quote, s.drop (own + 3))

inductive LineMode where
  | held (k : Nat)
  | joining

def basicLines : LineMode → Text → Option (Text × Text)
  | _, [] => none
  | .held (k + 1), _ :: r => basicLines (.held k) r
  | mode, c :: r =>
    if c = '\n' then
      match mode with
      | .joining => basicLines .joining r
      | _ => (basicLines (.held 0) r).map (putFront '\n')
    else if c = '\r' then
      match mode, r.head? with
      | .joining, some '\n' => basicLines .joining r
      | _, some '\n' => basicLines (.held 0) r
      | _, _ => none
    else if (match mode with | .joining => isSpace c | _ => false) then basicLines .joining r
    else if c = '"' then
      match closing? '"' (c :: r) with
      | some end_ => some end_
      | none => (basicLines (.held 0) r).map (putFront c)
    else if c = '\\' then
      if startsFeed (r.dropWhile isSpace) then basicLines .joining r
      else
        match escaped? r with
        | some (x, width) => (basicLines (.held width) r).map (putFront x)
        | none => none
    else if isPlain c then (basicLines (.held 0) r).map (putFront c)
    else none

def literalLines : Text → Option (Text × Text)
  | [] => none
  | c :: r =>
    if c = '\n' then (literalLines r).map (putFront c)
    else if c = '\r' then (if r.head? = some '\n' then literalLines r else none)
    else if c = '\'' then
      match closing? '\'' (c :: r) with
      | some end_ => some end_
      | none => (literalLines r).map (putFront c)
    else if isPlain c then (literalLines r).map (putFront c)
    else none

def string? : Text → Option (Text × Text)
  | '"' :: '"' :: '"' :: r => basicLines (.held 0) (dropFeed r)
  | '"' :: r => basic 0 r
  | '\'' :: '\'' :: '\'' :: r => literalLines (dropFeed r)
  | '\'' :: r => literal r
  | _ => none

end PlatformLauncher.Toml
