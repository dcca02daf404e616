import PlatformLauncher.Number.Numeral

/-!
Shell scripts: words with quotes and parameters in them, commands with redirections, pipelines, lists,
branches and loops.
-/
namespace PlatformLauncher.Execution

inductive Parameter where
  | named (name : Text)
  | position (n : Nat)
  | all
  | joined
  | count
  | status
  | self
  | length (name : Text)
  | ifSet (name : Text) (emptyCounts : Bool) (text : Text)
  | unlessSet (name : Text) (emptyCounts : Bool) (text : Text)
  | output (script : Text)
deriving DecidableEq, Repr

inductive WordPart where
  | literal (quoted : Bool) (text : Text)
  | parameter (quoted : Bool) (p : Parameter)
deriving DecidableEq, Repr

abbrev Word := List WordPart

inductive RedirectKind where
  | read
  | write
  | append
  | duplicate
deriving DecidableEq, Repr

structure Redirect where
  stream : Nat
  kind : RedirectKind
  target : Word
deriving DecidableEq, Repr

inductive Join where
  | always
  | onSuccess
  | onFailure
deriving DecidableEq, Repr

inductive ShellCommand where
  | simple (settings : List (Text × Word)) (words : List Word) (redirects : List Redirect)
  | forEach (name : Text) (items : List Word) (body : List (Join × List ShellCommand))
      (redirects : List Redirect)
  | while_ (holds : Bool) (condition body : List (Join × List ShellCommand))
      (redirects : List Redirect)
  | branch (condition body otherwise : List (Join × List ShellCommand))
      (redirects : List Redirect)
  | group (apart : Bool) (body : List (Join × List ShellCommand)) (redirects : List Redirect)
  | negated (pipeline : List ShellCommand)

abbrev Pipeline := List ShellCommand

abbrev Script := List (Join × Pipeline)

namespace Script

/-! Words -/

def isNameStart (c : Char) : Bool := c.isAlpha || c = '_'

def isNameChar (c : Char) : Bool := c.isAlphanum || c = '_'

def upToParenthesis? : Nat → Text → Option (Text × Text)
  | _, [] => none
  | depth, c :: s =>
    if c = ')' then
      match depth with
      | 0 => some ([], s)
      | depth + 1 => (upToParenthesis? depth s).map fun (a, b) => (c :: a, b)
    else
      (upToParenthesis? (if c = '(' then depth + 1 else depth) s).map fun (a, b) => (c :: a, b)

def bracedParameter? (s : Text) : Option (Parameter × Text) :=
  match Text.cutAt? '\x7d' s with
  | none => none
  | some (body, rest) =>
    let name := body.takeWhile isNameChar
    match body.dropWhile isNameChar with
    | [] => some (.named name, rest)
    | '+' :: text => some (.ifSet name true text, rest)
    | ':' :: '+' :: text => some (.ifSet name false text, rest)
    | '-' :: text => some (.unlessSet name true text, rest)
    | ':' :: '-' :: text => some (.unlessSet name false text, rest)
    | '#' :: name => some (.length name, rest)
    | _ => none

def parameter? (s : Text) : Option (Parameter × Text) :=
  match s with
  | '@' :: r => some (.all, r)
  | '*' :: r => some (.joined, r)
  | '#' :: r => some (.count, r)
  | '?' :: r => some (.status, r)
  | '$' :: r => some (.self, r)
  | '\x7b' :: r => bracedParameter? r
  | '(' :: r => (upToParenthesis? 0 r).map fun (script, rest) => (.output script, rest)
  | c :: r =>
    if c.isDigit then some (.position (c.toNat - '0'.toNat), r)
    else if isNameStart c then some (.named (s.takeWhile isNameChar), s.dropWhile isNameChar)
    else none
  | [] => none

def consChar (quoted : Bool) (c : Char) : Word → Word
  | .literal q text :: rest =>
    if q = quoted then .literal q (c :: text) :: rest
    else .literal quoted [c] :: .literal q text :: rest
  | w => .literal quoted [c] :: w

def endsWord (c : Char) : Bool := c = ' ' || c = '\t' || c = '\n' || ";|&<>()".toList.contains c

inductive Quoting where
  | bare
  | single
  | double
deriving DecidableEq

def word? : Nat → Quoting → Text → Option (Word × Text)
  | 0, _, _ => none
  | _ + 1, .bare, [] => some ([], [])
  | _ + 1, _, [] => none
  | fuel + 1, .single, c :: s =>
    if c = '\'' then word? fuel .bare s
    else (word? fuel .single s).map fun (w, r) => (consChar true c w, r)
  | fuel + 1, mode, c :: s =>
    let quoted := mode == .double
    if c = '"' then
      if quoted then word? fuel .bare s
      else (word? fuel .double s).map fun (w, r) => (.literal true [] :: w, r)
    else if c = '\'' && !quoted then
      (word? fuel .single s).map fun (w, r) => (.literal true [] :: w, r)
    else if c = '\\' then
      match s with
      | [] => none
      | d :: s =>
        if quoted && !"$\"\\`".toList.contains d then
          (word? fuel mode s).map fun (w, r) => (consChar true c (consChar true d w), r)
        else (word? fuel mode s).map fun (w, r) => (consChar true d w, r)
    else if c = '$' then
      match parameter? s with
      | some (p, s) => (word? fuel mode s).map fun (w, r) => (.parameter quoted p :: w, r)
      | none => (word? fuel mode s).map fun (w, r) => (consChar quoted c w, r)
    else if !quoted && endsWord c then some ([], c :: s)
    else (word? fuel mode s).map fun (w, r) => (consChar quoted c w, r)

/-! Tokens -/

inductive Token where
  | word (w : Word)
  | redirect (stream : Option Nat) (kind : RedirectKind)
  | pipe
  | andThen
  | orElse
  | separator
  | opening
  | closing
deriving DecidableEq

def redirectKind? : Text → Option (RedirectKind × Text)
  | '>' :: '>' :: r => some (.append, r)
  | '>' :: '&' :: r => some (.duplicate, r)
  | '>' :: r => some (.write, r)
  | '<' :: r => some (.read, r)
  | _ => none

def stream? : Word → Option Nat
  | [.literal false text] => (Numeral.read 9 text).toOption
  | _ => none

def tokens? : Nat → Text → Option (List Token)
  | _, [] => some []
  | 0, _ => none
  | fuel + 1, c :: s =>
    if c = ' ' || c = '\t' then tokens? fuel s
    else if c = '\n' || c = ';' then (tokens? fuel s).map (.separator :: ·)
    else if c = '#' then tokens? fuel (s.dropWhile (· != '\n'))
    else
      match redirectKind? (c :: s) with
      | some (kind, r) => (tokens? fuel r).map (.redirect none kind :: ·)
      | none =>
        match c :: s with
        | '|' :: '|' :: r => (tokens? fuel r).map (.orElse :: ·)
        | '|' :: r => (tokens? fuel r).map (.pipe :: ·)
        | '&' :: '&' :: r => (tokens? fuel r).map (.andThen :: ·)
        | '&' :: r => (tokens? fuel r).map (.separator :: ·)
        | '(' :: r => (tokens? fuel r).map (.opening :: ·)
        | ')' :: r => (tokens? fuel r).map (.closing :: ·)
        | _ =>
          if endsWord c then none
          else
            match word? (s.length + 2) .bare (c :: s) with
            | none => none
            | some (w, r) =>
              match stream? w, redirectKind? r with
              | some n, some (kind, r) => (tokens? fuel r).map (.redirect (some n) kind :: ·)
              | _, _ => (tokens? fuel r).map (.word w :: ·)

/-! Commands -/

def plain (s : String) : Token := .word [.literal false s.toList]

def expect? (token : Token) : List Token → Option (List Token)
  | first :: rest => if first = token then some rest else none
  | [] => none

def endsList (token : Token) : Bool :=
  token == .closing || ["then", "elif", "else", "fi", "do", "done", "\x7d"].any (plain · == token)

def items? : List Token → Option (List Word × List Token)
  | .word w :: rest => (items? rest).map fun (ws, r) => (w :: ws, r)
  | .separator :: rest => some ([], rest)
  | _ => none

def streamOf (stream : Option Nat) (kind : RedirectKind) : Nat :=
  stream.getD (if kind = .read then 0 else 1)

def simple? : List Token → Option (List Word × List Redirect × List Token)
  | .word w :: rest => (simple? rest).map fun (ws, rs, r) => (w :: ws, rs, r)
  | .redirect stream kind :: .word w :: rest =>
    (simple? rest).map fun (ws, rs, r) => (ws, ⟨streamOf stream kind, kind, w⟩ :: rs, r)
  | .redirect _ _ :: _ => none
  | rest => some ([], [], rest)

def setting? : Word → Option (Text × Word)
  | .literal false text :: parts =>
    match Text.cutAt? '=' text with
    | some (c :: name, value) =>
      if isNameStart c && name.all isNameChar then
        some (c :: name, if value.isEmpty then parts else .literal false value :: parts)
      else none
    | _ => none
  | _ => none

def settings : List Word → List (Text × Word) × List Word
  | [] => ([], [])
  | w :: rest =>
    match setting? w with
    | some s =>
      let (more, words) := settings rest
      (s :: more, words)
    | none => ([], w :: rest)

def ofWords (words : List Word) (redirects : List Redirect) : ShellCommand :=
  let (set, words) := settings words
  .simple set words redirects

def redirected? (command : List Redirect → ShellCommand) (tokens : List Token) :
    Option (ShellCommand × List Token) :=
  match simple? tokens with
  | some ([], redirects, rest) => some (command redirects, rest)
  | _ => none

mutual

def command? : Nat → List Token → Option (ShellCommand × List Token)
  | 0, _ => none
  | fuel + 1, tokens =>
    match tokens with
    | .opening :: rest => do
      let (body, rest) ← list? fuel .always rest
      redirected? (.group true body) (← expect? .closing rest)
    | .word w :: rest =>
      if .word w = plain "for" then forEach? fuel rest
      else if .word w = plain "if" then branch? fuel rest
      else if .word w = plain "while" then while? fuel true rest
      else if .word w = plain "until" then while? fuel false rest
      else if .word w = plain "\x7b" then do
        let (body, rest) ← list? fuel .always rest
        redirected? (.group false body) (← expect? (plain "\x7d") rest)
      else (simple? tokens).map fun (ws, rs, r) => (ofWords ws rs, r)
    | _ =>
      match simple? tokens with
      | some (ws, r :: rs, rest) => some (ofWords ws (r :: rs), rest)
      | _ => none

def forEach? : Nat → List Token → Option (ShellCommand × List Token)
  | 0, _ => none
  | fuel + 1, .word [.literal false name] :: rest => do
    let (items, rest) ← items? (← expect? (plain "in") rest)
    let (body, rest) ← list? fuel .always (← expect? (plain "do") rest)
    redirected? (.forEach name items body) (← expect? (plain "done") rest)
  | _, _ => none

def while? : Nat → Bool → List Token → Option (ShellCommand × List Token)
  | 0, _, _ => none
  | fuel + 1, holds, tokens => do
    let (condition, rest) ← list? fuel .always tokens
    let (body, rest) ← list? fuel .always (← expect? (plain "do") rest)
    redirected? (.while_ holds condition body) (← expect? (plain "done") rest)

def branch? : Nat → List Token → Option (ShellCommand × List Token)
  | 0, _ => none
  | fuel + 1, tokens => do
    let (condition, rest) ← list? fuel .always tokens
    let (body, rest) ← list? fuel .always (← expect? (plain "then") rest)
    match rest with
    | token :: rest =>
      if token = plain "fi" then redirected? (.branch condition body []) rest
      else if token = plain "else" then
        let (otherwise, rest) ← list? fuel .always rest
        redirected? (.branch condition body otherwise) (← expect? (plain "fi") rest)
      else if token = plain "elif" then
        let (inner, rest) ← branch? fuel rest
        pure (.branch condition body [(.always, [inner])] [], rest)
      else none
    | [] => none

def pipeline? : Nat → List Token → Option (Pipeline × List Token)
  | 0, _ => none
  | fuel + 1, tokens => do
    match tokens with
    | first :: rest =>
      if first = plain "!" then
        let (p, rest) ← pipeline? fuel rest
        pure ([.negated p], rest)
      else
        let (c, rest) ← command? fuel tokens
        match rest with
        | .pipe :: rest =>
          let (more, rest) ← pipeline? fuel rest
          pure (c :: more, rest)
        | rest => pure ([c], rest)
    | [] => none

def list? : Nat → Join → List Token → Option (Script × List Token)
  | 0, _, _ => none
  | fuel + 1, join, tokens =>
    match tokens with
    | [] => if join = .always then some ([], []) else none
    | .separator :: rest => list? fuel join rest
    | token :: rest =>
      if endsList token then (if join = .always then some ([], token :: rest) else none)
      else do
        let (p, rest) ← pipeline? fuel tokens
        let (more, rest) ← match rest with
          | .andThen :: rest => list? fuel .onSuccess rest
          | .orElse :: rest => list? fuel .onFailure rest
          | .separator :: rest => list? fuel .always rest
          | rest => some ([], rest)
        pure ((join, p) :: more, rest)

end

def parse? (s : Text) : Option Script := do
  let tokens ← tokens? (s.length + 1) s
  match ← list? (4 * tokens.length + 4) .always tokens with
  | (script, []) => some script
  | _ => none

end Script

end PlatformLauncher.Execution
