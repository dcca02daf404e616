import PlatformLauncher.Bootstrap.Commands
import PlatformLauncher.Bootstrap.Run
import PlatformLauncher.CommandLine.Grammar
import PlatformLauncher.CommandLine.Prompt
import PlatformLauncher.Settings.Load
import PlatformLauncher.Upkeep

/-!
A run of the launcher from its arguments to its exit code. Every task is a flow over the file tree,
with an output that takes everything.
-/
namespace PlatformLauncher.CommandLine

open Bootstrap

def asksForHome (args : List Text) : Bool :=
  match parse args with
  | .ok arguments => arguments.select.toOption == some (.bootstrap none)
  | .error _ => false

structure Session where
  tree : Tree
  here : Location
  environment : List (Text × Text)
  input : Octets
  alive : Nat → Bool

structure Departure where
  code : Nat
  printed : Octets
  complained : Octets
  tree : Tree

namespace Session

def cwd (s : Session) : Path := s.here.path

def surroundings (s : Session) (t : Tree) : Execution.Surroundings := ⟨t, s.here, s.environment⟩

def inquire (s : Session) (home : Option Text) (default : Path) : Inquiry :=
  match home with
  | some home => .ok (some home)
  | none =>
    { answer := Prompt.answer s.input
      printed := if Prompt.isShown s.environment then Home.promptText default else [] }

def collaborators (s : Session) (settings : Settings) (home : Option Text) : Collaborators where
  install _ t request :=
    Commands.install settings.installer (some s.cwd) (s.surroundings t) request
  ask _ _ default := s.inquire home default
  launch _ t home :=
    (Commands.launch settings.daemon.command (some s.cwd) (s.surroundings t) home).1
  probe _ t home := Commands.probe settings.probe (s.surroundings t) home

def scene (s : Session) : Upkeep.Scene where
  here := s.here
  cwd := s.cwd
  home? := s.environment.lookup Home.envName
  alive := s.alive

def perform (s : Session) (settings : Settings) : Task → Flow Unit
  | .bootstrap home => do
    let _ ← Bootstrap.run settings s.here s.cwd (s.collaborators settings home)
  | .install source force preRelease =>
    Upkeep.install s.scene (s.collaborators settings none) source force preRelease
  | .status home => Upkeep.status s.scene (s.collaborators settings none) settings home
  | .stop home =>
    Upkeep.stop s.scene
      (fun t home => Commands.shutdown settings.shutdown (s.surroundings t) home) settings home
  | .showConfig => Upkeep.showConfig settings

/-! Endings -/

def failureText (failure : Failure) : Text := "Error: ".toList ++ failure.listed ++ ['\n']

def misuseText (m : Misuse) : Text :=
  "error: ".toList ++ m.message ++ "\n\nFor more information, try '--help'.\n".toList

def refused (s : Session) (code : Nat) (complaint : Text) : Departure :=
  ⟨code, [], Octets.encode complaint, s.tree⟩

def stopped (s : Session) : Stop → Departure
  | .misuse m => s.refused 2 (misuseText m)
  | .help => ⟨0, Octets.encode helpText, [], s.tree⟩
  | .version => ⟨0, Octets.encode versionText, [], s.tree⟩

def overflowCode : Nat := 101

def depart {α : Type} : EStateM.Result Halt State α → Departure
  | .ok _ st => ⟨0, st.sink.accepted, st.complaints, st.tree⟩
  | .error (.failed failure) st =>
    ⟨1, st.sink.accepted, st.complaints ++ Octets.encode (failureText failure), st.tree⟩
  | .error .overflow st =>
    ⟨overflowCode, st.sink.accepted,
      st.complaints ++ Octets.encode (Span.overflowText ++ ['\n']), st.tree⟩

/-- The settings are read before it is decided whether the task makes sense. -/
def run (s : Session) (args : List Text) : Departure :=
  match parse args with
  | .error why => s.stopped why
  | .ok arguments =>
    match Settings.load s.tree s.here arguments.config (Settings.homeDirectory? s.environment)
        s.environment with
    | .error failure => s.refused 1 (failureText failure)
    | .ok settings =>
      match arguments.select with
      | .error failure => s.refused 1 (failureText failure)
      | .ok task => depart ((s.perform settings task).run (.start s.tree .unlimited))

end Session

end PlatformLauncher.CommandLine
