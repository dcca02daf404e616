import PlatformLauncher.Tree.Access

/-!
A shell while it runs a script: the tree it works on, its directory and environment, and where its
streams lead. What it prints is kept apart from what it complains about.
-/
namespace PlatformLauncher.Execution

inductive Stream where
  | printed
  | complained
  | discarded
  | file (place : Location)
deriving DecidableEq, Repr

inductive Ending where
  | exited (code : Nat)
  | signalled (signal : Nat)
deriving DecidableEq, Repr

def Ending.succeeded (e : Ending) : Bool := e == .exited 0

def Ending.code? : Ending → Option Int
  | exited code => some code
  | signalled _ => none

def Ending.status : Ending → Nat
  | exited code => code
  | signalled n => 128 + n

structure Shell where
  tree : Tree
  directory : Location
  environment : List (Text × Text)
  name : Text
  args : List Text
  status : Nat
  self : Nat
  input : Octets
  inputFrom : Stream
  output : Stream
  errors : Stream
  printed : Octets
  complained : Octets
  ending : Option Ending

namespace Shell

def emit (sh : Shell) (s : Stream) (o : Octets) : Shell :=
  match s with
  | .printed => { sh with printed := sh.printed ++ o }
  | .complained => { sh with complained := sh.complained ++ o }
  | .discarded => sh
  | .file place =>
    match sh.tree.get? place with
    | some (.file content) => { sh with tree := sh.tree.put place (.file (content ++ o)) }
    | _ => sh

def print (sh : Shell) (o : Octets) : Shell := sh.emit sh.output o

def say (sh : Shell) (line : Text) : Shell := sh.print (Octets.encode (line ++ ['\n']))

def complain (sh : Shell) (line : Text) : Shell :=
  sh.emit sh.errors (Octets.encode (line ++ ['\n']))

def finish (sh : Shell) (status : Nat) : Shell := { sh with status }

def succeedIf (sh : Shell) (b : Bool) : Shell := sh.finish (if b then 0 else 1)

def blame (sh : Shell) (text : Text) (status : Nat) : Shell :=
  (sh.complain (sh.name ++ ": 1: ".toList ++ text)).finish status

def setting? (sh : Shell) (name : Text) : Option Text := sh.environment.lookup name

def setVariable (sh : Shell) (name value : Text) : Shell :=
  { sh with environment := (name, value) :: sh.environment.filter fun v => v.1 != name }

def enter (sh : Shell) : Shell := sh.setVariable "PWD".toList sh.directory.path

/-! Streams -/

def setStream (sh : Shell) (n : Nat) (s : Stream) : Shell :=
  match n with
  | 1 => { sh with output := s }
  | 2 => { sh with errors := s }
  | _ => sh

def openForWriting (sh : Shell) (p : Path) (keep : Bool) : Except Fault (Tree × Stream) :=
  if p = "/dev/null".toList then .ok (sh.tree, .discarded)
  else
    let content := match keep, sh.tree.read sh.directory p with
      | true, .ok content => content
      | _, _ => []
    match sh.tree.write sh.directory p content with
    | .error fault => .error fault
    | .ok tree =>
      match tree.status sh.directory p with
      | .ok (place, _) => .ok (tree, .file place)
      | .error fault => .error fault

def openForReading (sh : Shell) (p : Path) : Except Fault (Octets × Stream) :=
  if p = "/dev/null".toList then .ok ([], .discarded)
  else
    match sh.tree.read sh.directory p, sh.tree.status sh.directory p with
    | .ok content, .ok (place, _) => .ok (content, .file place)
    | .error fault, _ | _, .error fault => .error fault

def cannotOpen (p : Path) (fault : Fault) : Text :=
  "cannot open ".toList ++ p ++ ": ".toList ++
    if fault = .notFound then "No such file".toList else fault.reason

def cannotCreate (p : Path) (fault : Fault) : Text :=
  "cannot create ".toList ++ p ++ ": ".toList ++
    if fault = .notFound then "Directory nonexistent".toList else fault.reason

def restoreStreams (sh old : Shell) (inputToo : Bool) : Shell :=
  let sh := { sh with output := old.output, errors := old.errors, inputFrom := old.inputFrom }
  if inputToo then { sh with input := old.input } else sh

/-! Shells within shells -/

def inner (sh : Shell) : Shell := { sh with output := .printed, printed := [] }

def adopt (sh inside : Shell) : Shell :=
  { sh with
    tree := inside.tree
    complained := inside.complained
    status := (inside.ending.map Ending.status).getD inside.status }

def returnFrom (sh inside : Shell) : Shell :=
  { sh.adopt inside with printed := inside.printed, input := inside.input }

end Shell

end PlatformLauncher.Execution
