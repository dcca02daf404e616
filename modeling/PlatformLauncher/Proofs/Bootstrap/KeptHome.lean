import PlatformLauncher.Proofs.Bootstrap.Stages
import PlatformLauncher.Proofs.Tree.Files

/-!
The commands after a bootstrap find the home it has chosen. The env file is written before the daemon
starts; afterwards only the record of the daemon changes the tree, so that the home is lost only when
the record goes into the env file itself. Main statement: `locate_after_run`.
-/
namespace PlatformLauncher.Bootstrap

def endOf {α : Type} : EStateM.Result Halt State α → State
  | .ok _ s | .error _ s => s

def answerOf? {α : Type} : EStateM.Result Halt State α → Option α
  | .ok a _ => some a
  | .error _ _ => none

theorem eq_ok_of_answerOf? {α : Type} {r : EStateM.Result Halt State α} {a : α}
    (h : answerOf? r = some a) : r = .ok a (endOf r) := by
  cases r with
  | ok b s =>
    cases h
    rfl
  | error e s => cases h

def Keeps {α γ : Type} (view : State → γ) (m : Flow α) : Prop :=
  ∀ s, view (endOf (m.run s)) = view s

def KeepsTree {α : Type} (m : Flow α) : Prop := ∀ s, (endOf (m.run s)).tree = s.tree

section Keeping

variable {α β γ : Type} {view : State → γ}

theorem Keeps.pure (a : α) : Keeps view (pure a) := fun _ => rfl

theorem Keeps.bind {m : Flow α} {f : α → Flow β} (first : Keeps view m)
    (next : ∀ a, Keeps view (f a)) : Keeps view (m >>= f) := by
  intro s
  have kept := first s
  rw [EStateM.run_bind]
  cases h : m.run s with
  | error e s₁ =>
    rw [h] at kept
    exact kept
  | ok a s₁ =>
    rw [h] at kept
    exact (next a s₁).trans kept

theorem Keeps.of_ok {m : Flow α} {s s' : State} {a : α} (keeps : Keeps view m)
    (e : m.run s = .ok a s') : view s' = view s := by
  have kept := keeps s
  rwa [e] at kept

theorem Keeps.of_error {m : Flow α} {s s' : State} {h : Halt} (keeps : Keeps view m)
    (e : m.run s = .error h s') : view s' = view s := by
  have kept := keeps s
  rwa [e] at kept

theorem keeps_pollFrom {p : Poller Flow} (announce : ∀ n, Keeps view (p.announce n))
    (probe : Keeps view p.probe) (sleep : ∀ ms, Keeps view (p.sleep ms)) (policy : PollPolicy)
    (left : Nat) : Keeps view (p.pollFrom policy left) := by
  induction left with
  | zero => exact .pure _
  | succ left ih =>
    have pause : Keeps view (p.pause policy left) := by
      unfold Poller.pause
      split
      · exact sleep _
      · exact .pure _
    rw [Poller.pollFrom_succ]
    refine .bind (.bind (announce _) fun _ => probe) fun ready => ?_
    cases ready with
    | true => exact .pure _
    | false => exact .bind pause fun _ => ih

section Deaf

/- A view that leaves the output aside. -/
variable (deaf : ∀ s k, view { s with sink := k } = view s)
include deaf

theorem keeps_write (text : Text) : Keeps view (Flow.write text) := by
  intro s
  rw [Flow.run_write]
  split <;> exact deaf s _

theorem keeps_putQuestion (deps : Collaborators) (default : Path) :
    Keeps view (putQuestion deps default) := fun s => keeps_write deaf _ s

theorem keeps_writeLine (text : Text) : Keeps view (Flow.writeLine text) := keeps_write deaf _

theorem keeps_lines (lines : List Text) : Keeps view (lines.forM Flow.writeLine) := by
  induction lines with
  | nil => exact .pure _
  | cons line rest ih => exact .bind (keeps_writeLine deaf line) fun _ => ih

theorem keeps_reportReadiness (settings : Settings) (readiness : Readiness) :
    Keeps view (reportReadiness settings readiness) := by
  intro s
  rw [run_reportReadiness]
  split
  · exact keeps_writeLine deaf _ s
  · rfl
  · exact keeps_writeLine deaf _ s

end Deaf

theorem KeepsTree.pure (a : α) : KeepsTree (pure a) := fun _ => rfl

theorem KeepsTree.bind {m : Flow α} {f : α → Flow β} (first : KeepsTree m)
    (next : ∀ a, KeepsTree (f a)) : KeepsTree (m >>= f) := Keeps.bind first next

theorem KeepsTree.of_ok {m : Flow α} {s s' : State} {a : α} (keeps : KeepsTree m)
    (e : m.run s = .ok a s') : s'.tree = s.tree := Keeps.of_ok keeps e

theorem KeepsTree.of_error {m : Flow α} {s s' : State} {h : Halt} (keeps : KeepsTree m)
    (e : m.run s = .error h s') : s'.tree = s.tree := Keeps.of_error keeps e

theorem keepsTree_write (text : Text) : KeepsTree (Flow.write text) := keeps_write (fun _ _ => rfl) _

theorem keepsTree_writeLine (text : Text) : KeepsTree (Flow.writeLine text) := keepsTree_write _

theorem keepsTree_lines (lines : List Text) : KeepsTree (lines.forM Flow.writeLine) :=
  keeps_lines (fun _ _ => rfl) lines

theorem keepsTree_consult {e : Event} {ask : History → Tree → Reply α}
    (quiet : ∀ h t, (ask h t).tree = t) : KeepsTree (Flow.consult e ask) := by
  intro s
  exact quiet s.history s.tree

theorem keepsTree_reportReadiness (settings : Settings) (readiness : Readiness) :
    KeepsTree (reportReadiness settings readiness) :=
  keeps_reportReadiness (fun _ _ => rfl) settings readiness

end Keeping

/-- Once the home is saved, only the launcher changes the tree. -/
structure Collaborators.LeaveTree (deps : Collaborators) : Prop where
  launch : ∀ h t home, (deps.launch h t home).tree = t
  probe : ∀ h t home, (deps.probe h t home).tree = t

/-- The tree with the record of the daemon, if that can be written. -/
def recordedTree (t : Tree) (here : Location) (home : Path) (pid : Nat) : Tree :=
  match PidRecord.write t here home pid with
  | .ok t' => t'
  | .error _ => t

section Run

variable {settings : Settings} {here : Location} {cwd : Path} {deps : Collaborators}

theorem keepsTree_waitUntilReady (leave : deps.LeaveTree) (home : Path) :
    KeepsTree (waitUntilReady deps settings home) := by
  refine .bind (fun _ => rfl) fun _ => .bind (keepsTree_write _) fun _ => .bind ?_ fun _ =>
    .bind (keepsTree_writeLine _) fun _ => .pure _
  refine keeps_pollFrom (fun _ _ => rfl) ?_ (fun _ _ => rfl) _ _
  exact keepsTree_consult fun h t => leave.probe h t home

theorem settleHome_ok {s s' : State} {home : Path}
    (e : (settleHome settings here cwd deps).run s = .ok home s') :
    ∃ t, EnvFile.write t here (envFileOf settings cwd) home = .ok s'.tree := by
  obtain ⟨_, s₁, -, e⟩ := Flow.bind_ok e
  obtain ⟨_, s₂, -, e⟩ := Flow.bind_ok e
  obtain ⟨_, s₃, save, e⟩ := Flow.bind_ok e
  cases e
  rw [run_saveHome] at save
  cases h : EnvFile.write s₂.tree here (envFileOf settings cwd) home with
  | error cause => rw [h] at save; cases save
  | ok tree =>
    rw [h] at save
    cases save
    exact ⟨s₂.tree, h⟩

theorem startDaemon_tree (leave : deps.LeaveTree) {home : Path} {s s' : State} {pid? : Option Nat}
    (e : (startDaemon deps here home).run s = .ok pid? s') :
    s'.tree = pid?.elim s.tree (recordedTree s.tree here home) := by
  obtain ⟨answer, s₁, asked, e⟩ := Flow.bind_ok e
  have tree₁ : s₁.tree = s.tree :=
    (keepsTree_consult fun h t => leave.launch h t home).of_ok asked
  cases answer with
  | error failure =>
    obtain ⟨_, s₂, said, e⟩ := Flow.bind_ok e
    cases e
    exact ((keepsTree_writeLine _).of_ok said).trans tree₁
  | ok pid =>
    obtain ⟨_, s₂, said, e⟩ := Flow.bind_ok e
    obtain ⟨_, s₃, recorded, e⟩ := Flow.bind_ok e
    cases e
    have tree₂ : s₂.tree = s.tree := ((keepsTree_writeLine _).of_ok said).trans tree₁
    rw [run_recordPid, tree₂] at recorded
    change s'.tree = recordedTree s.tree here home pid
    unfold recordedTree
    cases written : PidRecord.write s.tree here home pid with
    | ok t' =>
      rw [written] at recorded
      cases recorded
      rfl
    | error failure =>
      rw [written] at recorded
      cases recorded
      exact tree₂

theorem startDaemon_ok (leave : deps.LeaveTree) {s s' : State} {home : Path} {pid? : Option Nat}
    (e : (startDaemon deps here home).run s = .ok pid? s') :
    s'.tree = s.tree ∨
      ∃ pid, pid? = some pid ∧ PidRecord.write s.tree here home pid = .ok s'.tree := by
  have tree := startDaemon_tree leave e
  cases pid? with
  | none => exact .inl tree
  | some pid =>
    change s'.tree = recordedTree s.tree here home pid at tree
    unfold recordedTree at tree
    split at tree
    · next written =>
      rw [tree]
      exact .inr ⟨pid, rfl, written⟩
    · exact .inl tree

theorem proceed_ok (leave : deps.LeaveTree) {s s' : State} {installs : List Install.Outcome}
    {home : Path} {report : Report}
    (e : (proceed settings here cwd deps installs home).run s = .ok report s') :
    report.home = home ∧ report.envFile = envFileOf settings cwd ∧
      (s'.tree = s.tree ∨
        ∃ pid, report.pid = some pid ∧ PidRecord.write s.tree here home pid = .ok s'.tree) := by
  obtain ⟨_, s₁, said₁, e⟩ := Flow.bind_ok e
  obtain ⟨_, s₂, said₂, e⟩ := Flow.bind_ok e
  obtain ⟨pid?, s₃, started, e⟩ := Flow.bind_ok e
  obtain ⟨readiness, s₄, waited, e⟩ := Flow.bind_ok e
  obtain ⟨_, s₅, told, e⟩ := Flow.bind_ok e
  obtain ⟨_, s₆, guided, e⟩ := Flow.bind_ok e
  cases e
  have before : s₂.tree = s.tree :=
    ((keepsTree_writeLine _).of_ok said₂).trans ((keepsTree_writeLine _).of_ok said₁)
  have after : s'.tree = s₃.tree := by
    rw [(keepsTree_lines _).of_ok guided, (keepsTree_reportReadiness _ _).of_ok told,
      (keepsTree_waitUntilReady leave home).of_ok waited]
  have launched := startDaemon_ok leave started
  rw [before, ← after] at launched
  exact ⟨rfl, rfl, launched⟩

theorem run_ok (leave : deps.LeaveTree) {s s' : State} {report : Report}
    (e : (run settings here cwd deps).run s = .ok report s') :
    report.envFile = envFileOf settings cwd ∧
      ∃ t t', EnvFile.write t here report.envFile report.home = .ok t' ∧
        (s'.tree = t' ∨
          ∃ pid, report.pid = some pid ∧ PidRecord.write t' here report.home pid = .ok s'.tree) := by
  rw [run_eq] at e
  obtain ⟨installs, s₁, -, e⟩ := Flow.bind_ok e
  obtain ⟨home, s₂, settled, e⟩ := Flow.bind_ok e
  obtain ⟨t, saved⟩ := settleHome_ok settled
  obtain ⟨rfl, file, rest⟩ := proceed_ok leave e
  rw [← file] at saved
  exact ⟨file, t, s₂.tree, saved, rest⟩

end Run

theorem envFile_write_ok {t t' : Tree} {here : Location} {envFile home : Path}
    (e : EnvFile.write t here envFile home = .ok t') :
    t.write here envFile (Octets.encode (EnvFile.line home ++ ['\n'])) = .ok t' := by
  unfold EnvFile.write at e
  split at e
  · next written =>
    cases e
    exact written
  · cases e

theorem pidRecord_write_ok {t t' : Tree} {here : Location} {home : Path} {pid : Nat}
    (e : PidRecord.write t here home pid = .ok t') :
    t.write here (PidRecord.file home) (Octets.encode (Numeral.ofNat pid)) = .ok t' := by
  unfold PidRecord.write at e
  split at e
  · next written =>
    cases e
    exact written
  · cases e

theorem envFile_read_of_status {t : Tree} {here place : Location} {envFile home : Path}
    (oneLine : '\n' ∉ home)
    (stands : t.status here envFile =
      .ok (place, .file (Octets.encode (EnvFile.line home ++ ['\n'])))) :
    EnvFile.read t here envFile = .ok (some home) := by
  have text := Tree.readText_of_read (Tree.read_of_status stands)
  have found : EnvFile.find? (EnvFile.line home ++ ['\n']) = some home :=
    EnvFile.find?_line_append oneLine []
  simp [EnvFile.read, text, found]

theorem envFile_status_of_run {settings : Settings} {here : Location} {cwd : Path}
    {deps : Collaborators} (leave : deps.LeaveTree) {s s' : State} {report : Report}
    (ends : (run settings here cwd deps).run s = .ok report s')
    (apart : report.pid = none ∨
      ¬ s'.tree.SameFile here (PidRecord.file report.home) report.envFile) :
    ∃ place, s'.tree.status here report.envFile =
      .ok (place, .file (Octets.encode (EnvFile.line report.home ++ ['\n']))) := by
  obtain ⟨-, t, t', saved, rest⟩ := run_ok leave ends
  obtain ⟨place, -, -, stands⟩ := Tree.status_of_write (envFile_write_ok saved)
  refine ⟨place, ?_⟩
  rcases rest with same | ⟨pid, started, recorded⟩
  · rwa [same]
  · refine Tree.status_of_write_apart (pidRecord_write_ok recorded) stands ?_
    simpa [started] using apart

/-- Whatever stood in the env file before the run, a command after it that is told no home works on
the home of the report. A home that is told is taken as it stands, whatever is in the env file. -/
theorem locate_after_run (settings : Settings) (here : Location) (cwd : Path)
    (deps : Collaborators) (leave : deps.LeaveTree) (s s' : State) (report : Report)
    (ends : (run settings here cwd deps).run s = .ok report s') (oneLine : '\n' ∉ report.home)
    (apart : report.pid = none ∨
      ¬ s'.tree.SameFile here (PidRecord.file report.home) report.envFile) :
    (∀ fromEnv, fromEnv = none ∨ fromEnv = some [] →
      Home.locate s'.tree here none fromEnv (Path.join cwd settings.home.envFile) =
        .ok (some report.home)) ∧
    ∀ (t : Tree) (envFile : Path),
      (∀ home fromEnv, Home.locate t here (some home) fromEnv envFile = .ok (some home)) ∧
      ∀ home, home ≠ [] → Home.locate t here none (some home) envFile = .ok (some home) := by
  refine ⟨?_, fun t envFile => ⟨fun home fromEnv => rfl, ?_⟩⟩
  · obtain ⟨place, stands⟩ := envFile_status_of_run leave ends apart
    have file : report.envFile = Path.join cwd settings.home.envFile := (run_ok leave ends).1
    have found := envFile_read_of_status oneLine stands
    rw [file] at found
    rintro fromEnv (rfl | rfl)
    · exact found
    · exact found
  · intro home named
    have nonempty : home.isEmpty = false := by simpa using named
    simp [Home.locate, nonempty]

def obliging : Collaborators where
  install _ t _ := .quiet (.ok ()) t
  ask _ _ _ := .ok (some "my \"home".toList)
  launch _ t _ := .quiet (.ok 7) t
  probe _ t _ := .quiet true t

def workedIn : Tree where
  entries :=
    [(["w".toList], .directory),
      ([".volttron_env".toList, "w".toList],
        .file (Octets.encode (EnvFile.line "/old".toList ++ ['\n'])))]
  sealed_ := []

theorem locate_after_second_run :
    let result := (run .standard ["w".toList] "/w".toList obliging).run (.start workedIn .unlimited)
    obliging.LeaveTree ∧
      (answerOf? result).map Report.pid = some (some 7) ∧
      (answerOf? result).map Report.home = some "my \"home".toList ∧
      ¬ (endOf result).tree.SameFile ["w".toList] (PidRecord.file "my \"home".toList)
        "/w/.volttron_env".toList ∧
      Home.locate (endOf result).tree ["w".toList] none none "/w/.volttron_env".toList =
        .ok (some "my \"home".toList) := by
  intro result
  have leave : obliging.LeaveTree := ⟨fun _ _ _ => rfl, fun _ _ _ => rfl⟩
  have ends : result = .ok
      ⟨[⟨"volttron-lib-zmq".toList, .registry "volttron-lib-zmq".toList, .installed⟩,
        ⟨"volttron-lib-auth".toList, .registry "volttron-lib-auth".toList, .installed⟩],
        "my \"home".toList, "/w/.volttron_env".toList, some 7, .ready 1⟩ (endOf result) :=
    eq_ok_of_answerOf? (by decide +kernel)
  have apart : ¬ (endOf result).tree.SameFile ["w".toList] (PidRecord.file "my \"home".toList)
      "/w/.volttron_env".toList := fun same =>
    absurd (congrArg Except.toOption same.status_eq) (by decide +kernel)
  refine ⟨leave, by decide +kernel, by decide +kernel, apart, ?_⟩
  exact (locate_after_run _ _ _ _ leave _ _ _ ends (by decide +kernel) (.inr apart)).1 none (.inl rfl)

end PlatformLauncher.Bootstrap
