import PlatformLauncher.Bootstrap.Run

/-!
What each step of a bootstrap does to the state, one equation a step, and how a run is made of these
steps. Flows are opened here and nowhere else. Main statement: `run_eq`.
-/
namespace PlatformLauncher.Bootstrap

namespace Flow

variable {α β : Type}

theorem run_note (e : Event) (s : State) :
    (note e).run s = .ok () { s with history := e :: s.history } := rfl

theorem run_write (text : Text) (s : State) :
    (write text).run s =
      if (s.sink.put (Octets.encode text)).2 then
        .ok () { s with sink := (s.sink.put (Octets.encode text)).1 }
      else
        .error (.failed (.fault .outputFull))
          { s with sink := (s.sink.put (Octets.encode text)).1 } := by
  simp only [write, EStateM.run_bind, EStateM.run_get, EStateM.run_set]
  split <;> rfl

theorem write_error {text : Text} {s s' : State} {h : Halt} (e : (write text).run s = .error h s') :
    h = .failed (.fault .outputFull) := by
  rw [run_write] at e
  split at e <;> cases e
  rfl

theorem run_tryWrite (o : Octets) (s : State) :
    (tryWrite o).run s = .ok () { s with sink := (s.sink.put o).1 } := rfl

theorem run_consult (e : Event) (ask : History → Tree → Reply α) (s : State) :
    (consult e ask).run s =
      .ok (ask s.history s.tree).answer
        { tree := (ask s.history s.tree).tree
          sink := (s.sink.put (ask s.history s.tree).printed).1
          complaints := s.complaints ++ (ask s.history s.tree).complained
          history := e :: s.history } := rfl

theorem bind_ok {m : Flow α} {f : α → Flow β} {s s' : State} {b : β}
    (h : (m >>= f).run s = .ok b s') :
    ∃ a s₁, m.run s = .ok a s₁ ∧ (f a).run s₁ = .ok b s' := by
  rw [EStateM.run_bind] at h
  cases first : m.run s with
  | ok a s₁ =>
    rw [first] at h
    exact ⟨a, s₁, rfl, h⟩
  | error e s₁ =>
    rw [first] at h
    cases h

theorem bind_error {m : Flow α} {f : α → Flow β} {s s' : State} {e : Halt}
    (h : (m >>= f).run s = .error e s') :
    m.run s = .error e s' ∨ ∃ a s₁, m.run s = .ok a s₁ ∧ (f a).run s₁ = .error e s' := by
  rw [EStateM.run_bind] at h
  cases first : m.run s with
  | ok a s₁ =>
    rw [first] at h
    exact .inr ⟨a, s₁, rfl, h⟩
  | error e₁ s₁ =>
    rw [first] at h
    cases h
    exact .inl rfl

theorem run_consult_congr {e : Event} {ask ask' : History → Tree → Reply α}
    {s : State} (same : ask' s.history s.tree = ask s.history s.tree) :
    (consult e ask').run s = (consult e ask).run s := by
  rw [run_consult, run_consult, same]

theorem run_bind_congr {m m' : Flow α} {f f' : α → Flow β} {s : State} (first : m'.run s = m.run s)
    (next : ∀ a s₁, m.run s = .ok a s₁ → (f' a).run s₁ = (f a).run s₁) :
    (m' >>= f').run s = (m >>= f).run s := by
  rw [EStateM.run_bind, EStateM.run_bind, first]
  cases h : m.run s with
  | ok a s₁ => exact next a s₁ h
  | error e s₁ => rfl

end Flow

def putQuestion (deps : Collaborators) (default : Path) : Flow Unit := do
  let s ← get
  Flow.write (deps.ask s.history s.tree default).printed

def takeAnswer (deps : Collaborators) (default : Path) : Flow Path := do
  let s ← get
  Flow.note (.askedHome default)
  match (deps.ask s.history s.tree default).answer with
  | .error failure => Flow.fail failure
  | .ok answer => pure (Home.resolve answer default)

theorem askHome_eq (deps : Collaborators) (default : Path) :
    askHome deps default = (do
      putQuestion deps default
      takeAnswer deps default) := by
  refine funext fun s => ?_
  change (askHome deps default).run s = EStateM.run _ s
  simp only [askHome, putQuestion, takeAnswer, EStateM.run_bind, EStateM.run_get, Flow.run_write]
  cases (s.sink.put (Octets.encode (deps.ask s.history s.tree default).printed)).2 <;> rfl

theorem run_takeAnswer (deps : Collaborators) (default : Path) (s : State) :
    (takeAnswer deps default).run s =
      match (deps.ask s.history s.tree default).answer with
      | .error failure => .error (.failed failure) { s with history := .askedHome default :: s.history }
      | .ok answer =>
        .ok (Home.resolve answer default) { s with history := .askedHome default :: s.history } := by
  simp only [takeAnswer, EStateM.run_bind, EStateM.run_get, Flow.run_note]
  cases (deps.ask s.history s.tree default).answer <;> rfl

theorem run_makeHome (here : Location) (home : Path) (s : State) :
    (makeHome here home).run s =
      match (Home.ensure s.tree here home).2 with
      | some failure => .error (.failed failure) { s with tree := (Home.ensure s.tree here home).1 }
      | none =>
        .ok () { s with
          tree := (Home.ensure s.tree here home).1
          history := .madeHome home :: s.history } := by
  simp only [makeHome, EStateM.run_bind, EStateM.run_get, EStateM.run_set]
  cases (Home.ensure s.tree here home).2 <;> rfl

def unsaved (cause : Failure) : Failure :=
  .context (Advice.withSuggestion "Could not save VOLTTRON_HOME".toList
    "Make sure the current directory is writable".toList) cause

theorem run_saveHome (here : Location) (envFile home : Path) (s : State) :
    (saveHome here envFile home).run s =
      match EnvFile.write s.tree here envFile home with
      | .error cause => .error (.failed (unsaved cause)) s
      | .ok tree => .ok () { s with tree, history := .savedHome envFile home :: s.history } := by
  simp only [saveHome, Flow.change, EStateM.run_bind, EStateM.run_get]
  cases EnvFile.write s.tree here envFile home <;> rfl

theorem run_recordPid (here : Location) (home : Path) (pid : Nat) (s : State) :
    (recordPid here home pid).run s =
      match PidRecord.write s.tree here home pid with
      | .ok tree => .ok () { s with tree, history := .recordedPid home pid :: s.history }
      | .error _ => .ok () s := by
  simp only [recordPid, EStateM.run_bind, EStateM.run_get]
  cases PidRecord.write s.tree here home pid <;> rfl

theorem run_reportReadiness (settings : Settings) (readiness : Readiness) (s : State) :
    (reportReadiness settings readiness).run s =
      match readiness, (PollPolicy.ofSettings settings.poll).budget? with
      | .ready _, _ => (Flow.writeLine "[OK] VOLTTRON is ready!".toList).run s
      | .timedOut _, none => .error .overflow s
      | .timedOut _, some budget =>
        (Flow.writeLine (Advice.readinessTimeout budget.seconds settings.daemon.logFile)).run s := by
  cases readiness with
  | ready n => rfl
  | timedOut n =>
    simp only [reportReadiness]
    cases (PollPolicy.ofSettings settings.poll).budget? <;> rfl

theorem run_pollFrom_of_attempt {p : Poller Flow} {policy : PollPolicy} {left : Nat} {s s₁ : State}
    {ready : Bool} (attempted : (p.attempt (policy.attempts - left)).run s = .ok ready s₁) :
    (p.pollFrom policy (left + 1)).run s =
      if ready then .ok (.ready (policy.attempts - left)) s₁
      else (p.pause policy left >>= fun _ => p.pollFrom policy left).run s₁ := by
  rw [Poller.pollFrom_succ, EStateM.run_bind, attempted]
  dsimp only
  split <;> rfl

def offeredHome (settings : Settings) (cwd : Path) : Path :=
  Home.default cwd settings.home.defaultDirName

def envFileOf (settings : Settings) (cwd : Path) : Path := Path.join cwd settings.home.envFile

def installStage (settings : Settings) (here : Location) (cwd : Path) (deps : Collaborators) :
    Flow (List Install.Outcome) := do
  Flow.writeLine (Advice.brightCyan "Installing optional VOLTTRON libraries".toList)
  Install.installAll deps here cwd settings.packages

def opening (settings : Settings) (here : Location) (cwd : Path) (deps : Collaborators) :
    Flow (List Install.Outcome) := do
  let installs ← installStage settings here cwd deps
  putQuestion deps (offeredHome settings cwd)
  pure installs

def settleHome (settings : Settings) (here : Location) (cwd : Path) (deps : Collaborators) :
    Flow Path := do
  let home ← takeAnswer deps (offeredHome settings cwd)
  makeHome here home
  saveHome here (envFileOf settings cwd) home
  pure home

def proceed (settings : Settings) (here : Location) (cwd : Path) (deps : Collaborators)
    (installs : List Install.Outcome) (home : Path) : Flow Report := do
  Flow.writeLine ("VOLTTRON_HOME set to ".toList ++ home)
  Flow.writeLine ("Saved to ".toList ++ envFileOf settings cwd)
  let pid ← startDaemon deps here home
  let readiness ← waitUntilReady deps settings home
  reportReadiness settings readiness
  (guidance settings (envFileOf settings cwd)).forM Flow.writeLine
  pure ⟨installs, home, envFileOf settings cwd, pid, readiness⟩

theorem run_eq (settings : Settings) (here : Location) (cwd : Path) (deps : Collaborators) :
    run settings here cwd deps = (do
      let installs ← opening settings here cwd deps
      let home ← settleHome settings here cwd deps
      proceed settings here cwd deps installs home) := by
  simp only [run, askHome_eq, installStage, opening, settleHome, proceed, bind_assoc, pure_bind]
  rfl

end PlatformLauncher.Bootstrap
