import PlatformLauncher.Toml.Document
import PlatformLauncher.Toml.Number
import PlatformLauncher.Toml.Strings

/-!
Reading a TOML document. `read` gives the entries of the root table, or the line at which the text is
no document or defines something twice.
-/
namespace PlatformLauncher.Toml

/-- Lists and tables written in each other may go this deep, and a dotted key may have this many
parts. -/
def nestingLimit : Nat := 79

def skipSpaces (s : Text) : Text := s.dropWhile isSpace

def skipBlanks? : Bool → Text → Option Text
  | _, [] => some []
  | inComment, c :: r =>
    if c = '\n' then skipBlanks? false r
    else if c = '\r' then (if r.head? = some '\n' then skipBlanks? false r else none)
    else if inComment then (if isPlain c then skipBlanks? true r else none)
    else if c = '#' then skipBlanks? true r
    else if isSpace c then skipBlanks? false r
    else some (c :: r)

def lineEnd? : Bool → Text → Option Text
  | _, [] => some []
  | inComment, c :: r =>
    if c = '\n' then some r
    else if c = '\r' then (if r.head? = some '\n' then lineEnd? inComment r else none)
    else if inComment then (if isPlain c then lineEnd? true r else none)
    else if c = '#' then lineEnd? true r
    else if isSpace c then lineEnd? false r
    else none

def isBareKeyChar (c : Char) : Bool := c.isAlphanum || c = '-' || c = '_'

def keyPart? (s : Text) : Option (Text × Text) :=
  match s with
  | '"' :: r => basic 0 r
  | '\'' :: r => literal r
  | _ =>
    let part := s.takeWhile isBareKeyChar
    if part.isEmpty then none else some (part, s.dropWhile isBareKeyChar)

def key? : Nat → Text → Option (List Text × Text)
  | 0, _ => none
  | parts + 1, s =>
    match keyPart? (skipSpaces s) with
    | none => none
    | some (part, rest) =>
      match skipSpaces rest with
      | '.' :: r => (key? parts r).map fun (more, rest) => (part :: more, rest)
      | r => some ([part], r)

def assignment? (s : Text) : Option (List Text × Text) :=
  match key? nestingLimit s with
  | some (key, '=' :: r) => some (key, skipSpaces r)
  | _ => none

def insertAt (key : List Text) (v : Value) (t : Table) : Option Table :=
  match key.getLast? with
  | none => none
  | some last => Table.insert v last key.dropLast t

mutual

/-- The value at the start of the text. The first number bounds the steps, the second the depth. -/
def value? : Nat → Nat → Text → Option (Value × Text)
  | 0, _, _ => none
  | fuel + 1, depth, s =>
    match s with
    | [] => none
    | '[' :: r =>
      if depth = 0 then none
      else
        (skipBlanks? false r).bind fun r =>
          (items? fuel (depth - 1) r).map fun (items, rest) => (.list items, rest)
    | '\x7b' :: r =>
      if depth = 0 then none
      else
        match skipSpaces r with
        | '\x7d' :: rest => some (.table [], rest)
        | r =>
          (pairs? fuel (depth - 1) [] r).map fun (t, rest) => (.table (entriesToValues t), rest)
    | 't' :: 'r' :: 'u' :: 'e' :: rest => some (.boolean true, rest)
    | 'f' :: 'a' :: 'l' :: 's' :: 'e' :: rest => some (.boolean false, rest)
    | c :: r =>
      if c = '"' || c = '\'' then (string? (c :: r)).map fun (s, rest) => (.text s, rest)
      else
        match Moment.read? (c :: r) with
        | some (m, rest) => some (.moment m, rest)
        | none => number? (c :: r)

def items? : Nat → Nat → Text → Option (List Value × Text)
  | 0, _, _ => none
  | fuel + 1, depth, s =>
    match s with
    | ']' :: rest => some ([], rest)
    | _ =>
      (value? fuel depth s).bind fun (v, r) =>
        (skipBlanks? false r).bind fun r =>
          match r with
          | ',' :: r =>
            (skipBlanks? false r).bind fun r =>
              (items? fuel depth r).map fun (more, rest) => (v :: more, rest)
          | ']' :: rest => some ([v], rest)
          | _ => none

def pairs? : Nat → Nat → Table → Text → Option (Table × Text)
  | 0, _, _, _ => none
  | fuel + 1, depth, t, s =>
    (assignment? s).bind fun (key, r) =>
      (value? fuel depth r).bind fun (v, r) =>
        (insertAt key v t).bind fun t =>
          match skipSpaces r with
          | ',' :: r => pairs? fuel depth t (skipSpaces r)
          | '\x7d' :: rest => some (t, rest)
          | _ => none

end

structure Document where
  root : Table
  header : List Text

namespace Document

def header? (s : Text) : Option (List Text × Text) :=
  match key? nestingLimit s with
  | some (key, ']' :: rest) => some (key, rest)
  | _ => none

def opened (d : Document) (key : List Text) (change : Text → Table → Option Table) :
    Option Document :=
  match key.getLast? with
  | none => none
  | some last => (Table.within (change last) key.dropLast d.root).map (⟨·, key⟩)

def line? (d : Document) (s : Text) : Option (Document × Text) :=
  match s with
  | '[' :: '[' :: r =>
    match header? r with
    | some (key, ']' :: rest) => (d.opened key Table.extend).map (·, rest)
    | _ => none
  | '[' :: r =>
    (header? r).bind fun (key, rest) => (d.opened key Table.declare).map (·, rest)
  | _ =>
    (assignment? s).bind fun (key, r) =>
      (value? (r.length + 1) nestingLimit r).bind fun (v, rest) =>
        (Table.within (insertAt key v) d.header d.root).map (⟨·, d.header⟩, rest)

/-- Line after line; the number bounds the lines. What is left in front of a line that cannot be read
tells where the fault is. -/
def readFrom : Nat → Document → Text → Except Text Document
  | 0, _, s => .error s
  | fuel + 1, d, s =>
    match skipBlanks? false s with
    | none => .error s
    | some [] => .ok d
    | some s =>
      match (d.line? s).bind fun (d, r) => (lineEnd? false r).map fun r => (d, r) with
      | none => .error s
      | some (d, r) => readFrom fuel d r

end Document

def dropOrderMark : Text → Text
  | '\uFEFF' :: s => s
  | s => s

def read (s : Text) : Except Nat (List (Text × Value)) :=
  let s := dropOrderMark s
  match Document.readFrom (s.length + 1) ⟨[], []⟩ s with
  | .ok d => .ok (entriesToValues d.root)
  | .error rest => .error (s.count '\n' - rest.count '\n' + 1)

end PlatformLauncher.Toml
