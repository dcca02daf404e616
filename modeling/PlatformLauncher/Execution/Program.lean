import PlatformLauncher.Execution.Interpreter
import PlatformLauncher.Settings.Basic

/-!
Starting a program: what can go wrong before it runs, and what it leaves behind when it has run. Names
without a slash are looked for among the known programs; a file of the tree is never executable.
-/
namespace PlatformLauncher.Execution

structure Surroundings where
  tree : Tree
  here : Location
  environment : List (Text × Text)
deriving Repr

/-- Where a program's output goes; its input is always empty. -/
inductive Wiring where
  | inherited
  | silent
deriving DecidableEq, Repr

structure Finished where
  ending : Ending
  tree : Tree
  printed : Octets
  complained : Octets

def processNumber : Nat := 2718281

def nestingLimit : Nat := 10000

def programDirectories : List Text := ["/bin/".toList, "/usr/bin/".toList]

def knownName (program : Text) : Text :=
  (programDirectories.findSome? fun d => Text.dropPrefix? d program).getD program

def startDirectory (s : Surroundings) : Option Path → Except Fault Location
  | none => .ok s.here
  | some dir =>
    match s.tree.status s.here dir with
    | .ok (place, .directory) => .ok place
    | .ok _ => .error .notDirectory
    | .error fault => .error fault

def pathFault (t : Tree) (here : Location) (program : Path) : Fault :=
  match t.status here program with
  | .ok _ => .denied
  | .error fault => fault

def hasNull (c : Command) (environment : List (Text × Text)) (dir : Option Path) : Bool :=
  (c.program :: c.args ++ dir.toList ++ environment.map Prod.snd).any (·.contains '\x00')

def shellFor (s : Surroundings) (directory : Location) (wiring : Wiring) : Shell where
  tree := s.tree
  directory
  environment := s.environment
  name := "sh".toList
  args := []
  status := 0
  self := processNumber
  input := []
  inputFrom := .discarded
  output := match wiring with
    | .inherited => .printed
    | .silent => .discarded
  errors := match wiring with
    | .inherited => .complained
    | .silent => .discarded
  printed := []
  complained := []
  ending := none

def finished (sh : Shell) : Finished :=
  ⟨sh.ending.getD (.exited (sh.status % 256)), sh.tree, sh.printed, sh.complained⟩

/-- Runs a command to its end. Variables set for it hide those of the surroundings. -/
def run (s : Surroundings) (c : Command) (own : List (Text × Text)) (dir : Option Path)
    (wiring : Wiring) : Except Fault Finished :=
  if hasNull c own dir then .error .nullInCommand
  else
    match startDirectory s dir with
    | .error fault => .error fault
    | .ok directory =>
      let environment := own ++ s.environment.filter fun v => (own.lookup v.1).isNone
      let sh := shellFor { s with environment } directory wiring
      let name := knownName c.program
      if name.contains '/' then .error (pathFault s.tree directory name)
      else if name = "sh".toList then .ok (finished (Shell.interpret nestingLimit c.args sh))
      else
        match sh.utility? name c.args with
        | some sh => .ok (finished sh)
        | none => .error .notFound

end PlatformLauncher.Execution
