import PlatformLauncher.Home
import PlatformLauncher.Install.Packages
import PlatformLauncher.PidRecord
import PlatformLauncher.Readiness

/-!
The whole of a bootstrap: install the packages, choose and keep the home, start the daemon, wait
until it answers, and say how to go on. Only what the launcher itself is responsible for ends a run
early: the answer to its question, the home, the env file, its output.
-/
namespace PlatformLauncher.Bootstrap

structure Report where
  installs : List Install.Outcome
  home : Path
  envFile : Path
  pid : Option Nat
  readiness : Readiness
deriving DecidableEq, Repr

def askHome (deps : Collaborators) (default : Path) : Flow Path := do
  let s ← get
  let inquiry := deps.ask s.history s.tree default
  Flow.write inquiry.printed
  Flow.note (.askedHome default)
  match inquiry.answer with
  | .error failure => Flow.fail failure
  | .ok answer => pure (Home.resolve answer default)

def makeHome (here : Location) (home : Path) : Flow Unit := do
  let s ← get
  let (tree, failure) := Home.ensure s.tree here home
  set { s with tree }
  match failure with
  | some failure => Flow.fail failure
  | none => Flow.note (.madeHome home)

def saveHome (here : Location) (envFile home : Path) : Flow Unit := do
  Flow.change fun t =>
    (EnvFile.write t here envFile home).mapError
      (.context (Advice.withSuggestion "Could not save VOLTTRON_HOME".toList
        "Make sure the current directory is writable".toList))
  Flow.note (.savedHome envFile home)

/-- That the number cannot be recorded is no reason to stop. -/
def recordPid (here : Location) (home : Path) (pid : Nat) : Flow Unit := do
  let s ← get
  match PidRecord.write s.tree here home pid with
  | .ok tree =>
    set { s with tree }
    Flow.note (.recordedPid home pid)
  | .error _ => pure ()

def startDaemon (deps : Collaborators) (here : Location) (home : Path) : Flow (Option Nat) := do
  let answer ← Flow.consult (.askedLauncher home) fun h t => deps.launch h t home
  match answer with
  | .ok pid =>
    Flow.writeLine ("Started VOLTTRON (PID: ".toList ++ Numeral.ofNat pid ++ [')'])
    recordPid here home pid
    pure (some pid)
  | .error failure =>
    Flow.writeLine (Install.warningSign ++ "  ".toList ++ failure.inOneLine)
    pure none

def poller (deps : Collaborators) (home : Path) : Poller Flow where
  announce _ := Flow.tryWrite (Octets.encode ['.'])
  probe := Flow.consult .probed fun h t => deps.probe h t home
  sleep ms := Flow.note (.slept ms)

def waitUntilReady (deps : Collaborators) (settings : Settings) (home : Path) :
    Flow Readiness := do
  Flow.note (.builtProbe home)
  Flow.write "Waiting for VOLTTRON to become ready".toList
  let readiness ← (poller deps home).poll (.ofSettings settings.poll)
  Flow.writeLine []
  pure readiness

def reportReadiness (settings : Settings) (readiness : Readiness) : Flow Unit :=
  match readiness with
  | .ready _ => Flow.writeLine "[OK] VOLTTRON is ready!".toList
  | .timedOut _ =>
    match (PollPolicy.ofSettings settings.poll).budget? with
    | none => throw .overflow
    | some budget =>
      Flow.writeLine (Advice.readinessTimeout budget.seconds settings.daemon.logFile)

def guidance (settings : Settings) (envFile : Path) : List Text :=
  [[], "To use this VOLTTRON_HOME in another shell:".toList,
    "  ".toList ++ Advice.brightCyan ("source ".toList ++ envFile),
    "To check status:".toList, "  ".toList ++ Advice.brightCyan settings.probe.display,
    "To stop VOLTTRON:".toList, "  ".toList ++ Advice.brightCyan settings.shutdown.display]

/-- The operator's working directory is given as a path; paths are looked up from a location. -/
def run (settings : Settings) (here : Location) (cwd : Path) (deps : Collaborators) :
    Flow Report := do
  Flow.writeLine (Advice.brightCyan "Installing optional VOLTTRON libraries".toList)
  let installs ← Install.installAll deps here cwd settings.packages
  let home ← askHome deps (Home.default cwd settings.home.defaultDirName)
  makeHome here home
  let envFile := Path.join cwd settings.home.envFile
  saveHome here envFile home
  Flow.writeLine ("VOLTTRON_HOME set to ".toList ++ home)
  Flow.writeLine ("Saved to ".toList ++ envFile)
  let pid ← startDaemon deps here home
  let readiness ← waitUntilReady deps settings home
  reportReadiness settings readiness
  (guidance settings envFile).forM Flow.writeLine
  pure ⟨installs, home, envFile, pid, readiness⟩

end PlatformLauncher.Bootstrap
