import PlatformLauncher.Bootstrap.Flow
import PlatformLauncher.Home
import PlatformLauncher.Execution.Program

/-!
Commands as those outside the launcher: an installer, a daemon, a probe and a shutdown that are
programs.
-/
namespace PlatformLauncher.Bootstrap.Commands

open Execution

def reply {α : Type} (f : Finished) (answer : α) : Reply α :=
  ⟨answer, f.tree, f.printed, f.complained⟩

def homeVariable (home : Path) : List (Text × Text) := [(Home.envName, home)]

def install (c : Command) (dir : Option Path) (s : Surroundings) (r : Install.Request) :
    Reply (Except Failure Unit) :=
  match Execution.run s { c with args := c.args ++ r.args } [] dir .inherited with
  | .error fault => .quiet (.error (.launcher (.installerUnavailable c.program fault))) s.tree
  | .ok f =>
    reply f
      (if f.ending.succeeded then .ok ()
       else .error (.launcher (.installerFailed r.label f.ending.code?)))

/-- The daemon is told its home and runs on its own; what it prints is lost. -/
def launch (c : Command) (dir : Option Path) (s : Surroundings) (home : Path) :
    Reply (Except Failure Nat) × Option Ending :=
  match Execution.run s c (homeVariable home) dir .silent with
  | .error fault => (.quiet (.error (.launcher (.daemonSpawn c.program fault))) s.tree, none)
  | .ok f => (reply f (.ok processNumber), some f.ending)

def probe (c : Command) (s : Surroundings) (home : Path) : Reply Bool :=
  match Execution.run s c (homeVariable home) none .silent with
  | .error _ => .quiet false s.tree
  | .ok f => reply f f.ending.succeeded

def shutdown (c : Command) (s : Surroundings) (home : Path) : Reply (Except Failure Unit) :=
  match Execution.run s c (homeVariable home) none .inherited with
  | .error fault =>
    .quiet (.error (.context ("Failed to run '".toList ++ c.program ++ ['\'']) (.fault fault))) s.tree
  | .ok f =>
    reply f
      (if f.ending.succeeded then .ok () else .error (.launcher (.shutdownFailed f.ending.code?)))

end PlatformLauncher.Bootstrap.Commands
