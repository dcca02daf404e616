import PlatformLauncher.Bootstrap.Flow
import PlatformLauncher.Home
import PlatformLauncher.PidRecord
import PlatformLauncher.Settings.Render

/-!
What is done besides a bootstrap: installing one more library, telling whether the platform is ready,
shutting it down, and printing the settings. Those outside the launcher are asked as in a bootstrap.
-/
namespace PlatformLauncher.Upkeep

open Bootstrap

structure Scene where
  here : Location
  cwd : Path
  home? : Option Text
  alive : Nat → Bool

def install (scene : Scene) (deps : Collaborators) (source : Text) (force preRelease : Bool) :
    Flow Unit := do
  let classified := Source.classify (← get).tree scene.here source
  Flow.writeLine ("Installing ".toList ++ classified.describe)
  let request : Install.Request := ⟨source, classified, force, preRelease⟩
  let answer ← Flow.consult (.askedInstaller request) fun h t => deps.install h t request
  match answer with
  | .ok () => Flow.writeLine (Advice.green ['✓'] ++ " Installed ".toList ++ source)
  | .error failure => Flow.fail failure

def locateHome (scene : Scene) (settings : Settings) (named : Option Path) : Flow Path := do
  let envFile := Path.join scene.cwd settings.home.envFile
  match Home.locate (← get).tree scene.here named scene.home? envFile with
  | .ok (some home) => pure home
  | .ok none => Flow.fail (.launcher (.homeUnknown envFile))
  | .error failure => Flow.fail failure

def pidText (scene : Scene) (t : Tree) (home : Path) : Text :=
  match PidRecord.recorded? t scene.here home with
  | none => "unknown".toList
  | some pid =>
    Numeral.ofNat pid ++
      if PidRecord.isRunning scene.alive t scene.here home then " (running)".toList
      else " (not running)".toList

/-- That the platform is not ready is an answer and no failure. -/
def status (scene : Scene) (deps : Collaborators) (settings : Settings) (named : Option Path) :
    Flow Unit := do
  let home ← locateHome scene settings named
  Flow.note (.builtProbe home)
  Flow.writeLine ("  ".toList ++ Home.envName ++ ":  ".toList ++ home)
  Flow.writeLine ("  PID:            ".toList ++ pidText scene (← get).tree home)
  let ready ← Flow.consult .probed fun h t => deps.probe h t home
  if ready then Flow.writeLine (Advice.green "✓ VOLTTRON is ready".toList)
  else
    Flow.writeLine (Advice.yellow "⚠ VOLTTRON is not ready".toList)
    Flow.writeLine "\nStart it with:".toList
    Flow.writeLine ("  ".toList ++ Advice.brightCyan "volttron-bootstrap".toList)

/-- The record of the daemon goes only after a shutdown that succeeded. -/
def stop (scene : Scene) (shutdown : Tree → Path → Reply (Except Failure Unit))
    (settings : Settings) (named : Option Path) : Flow Unit := do
  let home ← locateHome scene settings named
  Flow.writeLine
    ("Stopping VOLTTRON (".toList ++ settings.shutdown.display ++ ")...".toList)
  let answer ← Flow.receive (shutdown (← get).tree home)
  match answer with
  | .ok () =>
    Flow.change fun t => PidRecord.cleanup t scene.here home
    Flow.writeLine (Advice.green ['✓'] ++ " Shutdown requested".toList)
  | .error failure => Flow.fail failure

def unrenderable : Failure :=
  .context "Failed to render configuration".toList (.said "out-of-range value for u64 type".toList)

def showConfig (settings : Settings) : Flow Unit :=
  match settings.render? with
  | some text => Flow.write text
  | none => Flow.fail unrenderable

end PlatformLauncher.Upkeep
