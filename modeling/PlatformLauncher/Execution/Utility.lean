import PlatformLauncher.Execution.Format
import PlatformLauncher.Execution.Pattern
import PlatformLauncher.Execution.Shell
import PlatformLauncher.Text.Lines
import PlatformLauncher.Tree.Listing

/-!
The utilities that the scripts of an installer, a daemon or a probe use, each as a change of the shell
that calls it.
-/
namespace PlatformLauncher.Execution.Shell

/-! Tests -/

def number? (s : Text) : Option Int := Numeral.readInt? (s.dropWhile (· == ' '))

def unary? (sh : Shell) (op s : Text) : Option Bool :=
  match String.ofList op with
  | "-n" => some !s.isEmpty
  | "-z" => some s.isEmpty
  | "-e" | "-r" | "-w" => some (sh.tree.exists_ sh.directory s)
  | "-d" | "-x" => some (sh.tree.isDirectory sh.directory s)
  | "-f" => some (sh.tree.isFile sh.directory s)
  | "-s" =>
    match sh.tree.status sh.directory s with
    | .ok (_, .file content) => some !content.isEmpty
    | .ok _ => some true
    | .error _ => some false
  | "-L" | "-h" =>
    match sh.tree.locate false sh.directory s with
    | (.found _ (.link _), _) => some true
    | _ => some false
  | _ => none

def binary? (a op b : Text) : Option Bool :=
  let compare := fun (holds : Int → Int → Bool) =>
    match number? a, number? b with
    | some x, some y => some (holds x y)
    | _, _ => none
  match String.ofList op with
  | "=" => some (a == b)
  | "!=" => some (a != b)
  | "-eq" => compare fun x y => x == y
  | "-ne" => compare fun x y => x != y
  | "-gt" => compare fun x y => y < x
  | "-ge" => compare fun x y => y ≤ x
  | "-lt" => compare fun x y => x < y
  | "-le" => compare fun x y => x ≤ y
  | _ => none

def condition? (sh : Shell) : List Text → Option Bool
  | [] => some false
  | [s] => some !s.isEmpty
  | [op, s] => if op = ['!'] then some s.isEmpty else sh.unary? op s
  | [a, op, b] =>
    if a = ['!'] then (sh.unary? op b).map (!·) else binary? a op b
  | not :: rest => if not = ['!'] then (condition? sh rest).map (!·) else none

def test (sh : Shell) (args : List Text) : Shell :=
  match sh.condition? args with
  | some b => sh.succeedIf b
  | none => sh.finish 2

/-! Input and output -/

def echo (sh : Shell) (args : List Text) : Shell :=
  let (args, feed) := match args with
    | first :: rest => if first = "-n".toList then (rest, []) else (first :: rest, ['\n'])
    | [] => ([], ['\n'])
  (sh.print (Format.unescaped (Text.joinWith [' '] args) ++ Octets.encode feed)).finish 0

/-- The first line of the input goes into the variable; at the end of the input that fails. -/
def readLine (sh : Shell) (names : List Text) : Shell :=
  let line := sh.input.takeWhile (· != 10)
  let rest := sh.input.dropWhile (· != 10)
  let sh := { sh with input := rest.tail }
  let sh := match names with
    | name :: _ => sh.setVariable name (Octets.decodeLossy line)
    | [] => sh
  sh.succeedIf !rest.isEmpty

def failOn (sh : Shell) (utility : String) (p : Path) (fault : Fault) : Shell :=
  (sh.complain (utility.toList ++ ": ".toList ++ p ++ ": ".toList ++ fault.reason)).finish 1

def concatenate (sh : Shell) : List Path → Shell
  | [] => sh
  | p :: rest =>
    match sh.tree.read sh.directory p with
    | .ok content => concatenate (sh.print content) rest
    | .error fault => concatenate (sh.failOn "cat" p fault) rest

def cat (sh : Shell) (args : List Text) : Shell :=
  if args.isEmpty then (({ sh with input := [] }).print sh.input).finish 0
  else (sh.finish 0).concatenate args

def wordCount (sh : Shell) (args : List Text) : Shell :=
  let count := fun (option : Text) (o : Octets) =>
    if option = "-c".toList then o.length
    else if option = "-w".toList then
      ((Text.pieces ' ' ((Octets.decodeLossy o).map fun c => if c = '\n' then ' ' else c)).filter
        fun w => !w.isEmpty).length
    else o.count 10
  match args with
  | [option, p] =>
    match sh.tree.read sh.directory p with
    | .ok content =>
      (sh.say (Numeral.ofNat (count option content) ++ ' ' :: p)).finish 0
    | .error fault => sh.failOn "wc" p fault
  | _ => (({ sh with input := [] }).say (Numeral.ofNat (count (args.headD []) sh.input))).finish 0

def substitute (sh : Shell) (args : List Text) : Shell :=
  match args.head?.bind Pattern.substitution? with
  | some f =>
    let lines := (Text.lines (Octets.decodeLossy sh.input)).map f
    (lines.foldl say { sh with input := [] }).finish 0
  | none => sh.finish 1

/-! Files -/

def streamPath (sh : Shell) (s : Stream) : Text :=
  match s with
  | .discarded => "/dev/null".toList
  | .file place => place.path
  | .printed | .complained => "pipe:[".toList ++ Numeral.ofNat sh.self ++ [']']

def readLink (sh : Shell) (p : Path) : Shell :=
  let own := "/proc/".toList ++ Numeral.ofNat sh.self ++ "/fd/".toList
  match Text.dropPrefix? own p with
  | some ['0'] => (sh.say (sh.streamPath sh.inputFrom)).finish 0
  | some ['1'] => (sh.say (sh.streamPath sh.output)).finish 0
  | some ['2'] => (sh.say (sh.streamPath sh.errors)).finish 0
  | _ =>
    match sh.tree.locate false sh.directory p with
    | (.found _ (.link target), _) => (sh.say target).finish 0
    | _ => sh.finish 1

/-- Without a slash behind it a path that is there is left alone. -/
def touch (sh : Shell) (args : List Path) : Shell :=
  args.foldl (fun sh p =>
    if sh.tree.exists_ sh.directory p then sh
    else
      match sh.tree.write sh.directory p [] with
      | .ok tree => { sh with tree }
      | .error fault =>
        (sh.complain ("touch: cannot touch '".toList ++ p ++ "': ".toList ++ fault.reason)).finish 1)
    (sh.finish 0)

def makeDirectories (sh : Shell) (args : List Text) : Shell :=
  let withParents := args.contains "-p".toList
  (args.filter fun a => a != "-p".toList).foldl (fun sh p =>
    let (tree, fault) :=
      if withParents then sh.tree.makeDirectories sh.directory p
      else
        match sh.tree.makeDirectory sh.directory p with
        | .ok tree => (tree, none)
        | .error fault => (sh.tree, some fault)
    let sh := { sh with tree }
    match fault with
    | none => sh
    | some fault =>
      (sh.complain ("mkdir: cannot create directory '".toList ++ p ++ "': ".toList ++
        fault.reason)).finish 1) (sh.finish 0)

def removeFiles (sh : Shell) (args : List Text) : Shell :=
  let options := (args.filter fun a => Text.startsWith a ['-']).flatten
  (args.filter fun a => !Text.startsWith a ['-']).foldl (fun sh p =>
    if options.contains 'r' && sh.tree.exists_ sh.directory p then
      { sh with tree := sh.tree.removeAll sh.directory p }
    else
      match sh.tree.remove sh.directory p with
      | .ok tree => { sh with tree }
      | .error fault =>
        if options.contains 'f' && fault = .notFound then sh
        else
          (sh.complain ("rm: cannot remove '".toList ++ p ++ "': ".toList ++ fault.reason)).finish 1)
    (sh.finish 0)

def list (sh : Shell) (args : List Text) : Shell :=
  let p := args.headD ['.']
  match sh.tree.status sh.directory p with
  | .ok (place, .directory) =>
    let names := (sh.tree.listing place).map Prod.fst
    let shown := names.filter fun n => !n.contains '/' && !Text.startsWith n ['.']
    (shown.foldl say sh).finish 0
  | .ok _ => (sh.say p).finish 0
  | .error fault =>
    (sh.complain ("ls: cannot access '".toList ++ p ++ "': ".toList ++ fault.reason)).finish 2

def changeDirectory (sh : Shell) (args : List Text) : Shell :=
  let p := args.headD ((sh.setting? "HOME".toList).getD [])
  match sh.tree.status sh.directory p with
  | .ok (place, .directory) => ({ sh with directory := place }.enter).finish 0
  | _ => sh.blame ("cd: can't cd to ".toList ++ p) 2

/-! Signals -/

def signals : List (Text × Nat) :=
  [("HUP".toList, 1), ("INT".toList, 2), ("QUIT".toList, 3), ("ABRT".toList, 6),
    ("KILL".toList, 9), ("USR1".toList, 10), ("SEGV".toList, 11), ("USR2".toList, 12),
    ("PIPE".toList, 13), ("ALRM".toList, 14), ("TERM".toList, 15)]

def signal? (s : Text) : Option Nat := (Numeral.read 64 s).toOption <|> signals.lookup s

def send (sh : Shell) (signal : Option Nat) (target : Text) : Shell :=
  match signal with
  | some n =>
    if target ≠ Numeral.ofNat sh.self then sh.finish 1
    else if n = 0 then sh.finish 0
    else { sh with ending := some (.signalled n) }
  | none => sh.finish 1

def kill (sh : Shell) (args : List Text) : Shell :=
  match args with
  | [target] => sh.send (some 15) target
  | ['-' :: name, target] => sh.send (signal? name) target
  | [_, name, target] => sh.send (signal? name) target
  | _ => sh.finish 1

/-! By name -/

def utility? (sh : Shell) (name : Text) (args : List Text) : Option Shell :=
  match String.ofList name with
  | "true" | "sleep" => some (sh.finish 0)
  | "false" => some (sh.finish 1)
  | "echo" => some (sh.echo args)
  | "printf" => some ((sh.print (Format.formatted (args.headD []) args.tail)).finish 0)
  | "test" => some (sh.test args)
  | "[" => some (sh.test args.dropLast)
  | "cat" => some (sh.cat args)
  | "pwd" => some ((sh.say sh.directory.path).finish 0)
  | "sed" => some (sh.substitute args)
  | "wc" => some (sh.wordCount args)
  | "readlink" => some (sh.readLink (args.headD []))
  | "touch" => some (sh.touch args)
  | "mkdir" => some (sh.makeDirectories args)
  | "rm" => some (sh.removeFiles args)
  | "ls" => some (sh.list args)
  | "kill" => some (sh.kill args)
  | _ => none

def exitCode (sh : Shell) (args : List Text) : Nat :=
  match args with
  | n :: _ => ((Numeral.read (twoTo 31 - 1) n).toOption.map (· % 256)).getD 2
  | [] => sh.status

def builtin? (sh : Shell) (name : Text) (args : List Text) : Option Shell :=
  match String.ofList name with
  | "exit" => some { sh with ending := some (.exited (sh.exitCode args)) }
  | "read" => some (sh.readLine args)
  | "cd" => some (sh.changeDirectory args)
  | ":" => some (sh.finish 0)
  | "export" =>
    some ((args.foldl (fun sh s =>
      match Text.cutAt? '=' s with
      | some (name, value) => sh.setVariable name value
      | none => sh) sh).finish 0)
  | _ => none

end PlatformLauncher.Execution.Shell
