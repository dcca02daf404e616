import PlatformLauncher.Proofs.Bootstrap.Passage
import PlatformLauncher.Proofs.Tree.Directories

/-!
What a run leaves behind in the tree when nobody else changes it. The home is made before the env
file is written, and the env file before the record of the daemon; nothing is written earlier, however
the run ends. Main statement: `run_footprint`.
-/
namespace PlatformLauncher.Bootstrap

/-- Nobody but the launcher changes the tree. -/
structure Collaborators.KeepTree (deps : Collaborators) : Prop extends deps.LeaveTree where
  install : ∀ h t r, (deps.install h t r).tree = t

theorem endsInSlash_pidFile (home : Path) : Path.endsInSlash (PidRecord.file home) = false := by
  unfold PidRecord.file Path.endsInSlash Path.join
  rw [if_neg (by decide)]
  split
  · rw [List.getLast?_append]
    rfl
  · rw [List.getLast?_append, List.getLast?_cons]
    rfl

theorem recordedTree_stands (t : Tree) (here : Location) (home : Path) (pid : Nat) :
    (∃ place, (recordedTree t here home pid).status here (PidRecord.file home) =
      .ok (place, .file (Octets.encode (Numeral.ofNat pid)))) ∨
    recordedTree t here home pid = t ∧
      (∃ failure, PidRecord.write t here home pid = .error failure) ∧
      ∀ place content, t.status here (PidRecord.file home) ≠ .ok (place, .file content) := by
  unfold recordedTree
  cases h : PidRecord.write t here home pid with
  | ok t' =>
    obtain ⟨place, -, -, written⟩ := Tree.status_of_write (pidRecord_write_ok h)
    exact .inl ⟨place, written⟩
  | error failure =>
    refine .inr ⟨rfl, ⟨failure, rfl⟩, fun place content stands => ?_⟩
    have written : t.write here (PidRecord.file home) (Octets.encode (Numeral.ofNat pid)) = _ :=
      Tree.write_of_status stands (endsInSlash_pidFile home)
    simp [PidRecord.write, written] at h

section Stages

variable {settings : Settings} {here : Location} {cwd : Path} {deps : Collaborators}

theorem keepsTree_installAll (keep : deps.KeepTree) (packages : List PackageEntry) :
    KeepsTree (Install.installAll deps here cwd packages) := by
  induction packages with
  | nil => exact .pure _
  | cons p rest ih =>
    refine .bind (.bind (fun _ => rfl) fun s => .bind (keepsTree_writeLine _) fun _ =>
      .bind (keepsTree_consult fun h t => keep.install h t _) fun answer => ?_) fun _ =>
        .bind ih fun _ => .pure _
    cases answer with
    | ok _ => exact .pure _
    | error failure => exact .bind (keepsTree_writeLine _) fun _ => .pure _

theorem keepsTree_opening (keep : deps.KeepTree) : KeepsTree (opening settings here cwd deps) :=
  .bind (.bind (keepsTree_writeLine _) fun _ => keepsTree_installAll keep _) fun _ =>
    .bind (keeps_putQuestion (fun _ _ => rfl) deps _) fun _ => .pure _

theorem installed_tree (keep : deps.KeepTree) (t : Tree) :
    (installed settings here cwd deps ⟨t, []⟩).2.tree = t := by
  obtain ⟨s', ends, world, -⟩ :=
    mirrors_installAll deps here cwd settings.packages (.start t .unlimited) rfl
  exact (congrArg World.tree world).symm.trans ((keepsTree_installAll keep _).of_ok ends)

theorem takeAnswer_ok {s s' : State} {home : Path}
    (e : (takeAnswer deps (offeredHome settings cwd)).run s = .ok home s') :
    (∃ answer, answerIn settings cwd deps s.world = .ok answer) ∧
      home = chosenHome settings cwd deps s.world ∧ s'.tree = s.tree := by
  rw [run_takeAnswer] at e
  unfold chosenHome answerIn
  dsimp only [State.world]
  cases answered : (deps.ask s.history s.tree (offeredHome settings cwd)).answer with
  | error failure =>
    rw [answered] at e
    cases e
  | ok answer =>
    rw [answered] at e
    cases e
    exact ⟨⟨answer, rfl⟩, rfl, rfl⟩

theorem makeHome_tree {home : Path} {s : State} :
    (endOf ((makeHome here home).run s)).tree = (s.tree.makeDirectories here home).1 := by
  rw [run_makeHome]
  split <;> rfl

theorem tree_of_settleHome_error {s s' : State} {e : Halt}
    (ended : (settleHome settings here cwd deps).run s = .error e s') :
    s'.tree = s.tree ∨ (∃ answer, answerIn settings cwd deps s.world = .ok answer) ∧
      s'.tree = (s.tree.makeDirectories here (chosenHome settings cwd deps s.world)).1 := by
  rcases Flow.bind_error ended with refused | ⟨home, s₁, asked, ended⟩
  · rw [run_takeAnswer] at refused
    split at refused <;> cases refused
    exact .inl rfl
  obtain ⟨answered, rfl, tree₁⟩ := takeAnswer_ok asked
  refine .inr ⟨answered, ?_⟩
  have made : (endOf ((makeHome here (chosenHome settings cwd deps s.world)).run s₁)).tree =
      (s₁.tree.makeDirectories here (chosenHome settings cwd deps s.world)).1 := makeHome_tree
  rw [tree₁] at made
  rcases Flow.bind_error ended with refused | ⟨_, s₂, done, ended⟩
  · rwa [refused] at made
  rw [done] at made
  rcases Flow.bind_error ended with refused | ⟨_, s₃, -, ended⟩
  · rw [run_saveHome] at refused
    split at refused <;> cases refused
    exact made
  · cases ended

theorem footprint_of_settleHome_error {s s' : State} {e : Halt}
    (ended : (settleHome settings here cwd deps).run s = .error e s') :
    Tree.Footprint here (chosenHome settings cwd deps s.world) [] s.tree s'.tree ∧
      ∀ failure, answerIn settings cwd deps s.world = .error failure → s'.tree = s.tree := by
  rcases tree_of_settleHome_error ended with same | ⟨⟨answer, answered⟩, made⟩
  · exact ⟨same ▸ .refl, fun _ _ => same⟩
  · refine ⟨?_, fun failure refused => by cases answered.symm.trans refused⟩
    rw [made]
    exact Tree.footprint_makeDirectories s.tree here _

theorem Settles.footprint {w w' : World} {home : Path}
    (settles : Settles settings here cwd deps w home w') :
    Tree.Footprint here home [envFileOf settings cwd] w.tree w'.tree :=
  (Tree.footprint_makeDirectories w.tree here home).write (envFile_write_ok settles.saved)

theorem Settles.directory {w w' : World} {home : Path}
    (settles : Settles settings here cwd deps w home w') (named : home ≠ []) :
    ∃ place, w'.tree.status here home = .ok (place, .directory) := by
  have made : (w.tree.makeDirectories here home).2 = none := by
    have unharmed := settles.made
    simpa [Home.ensure] using unharmed
  obtain ⟨place, stands⟩ := Tree.isDirectory_of_makeDirectories named (Prod.ext rfl made)
  obtain ⟨l, slot, written, -⟩ := Tree.status_of_write (envFile_write_ok settles.saved)
  rw [written]
  exact ⟨place, (Tree.retains_put_file slot).status stands⟩

theorem Settles.kept {w w' : World} {home : Path}
    (settles : Settles settings here cwd deps w home w') :
    ∃ place, w'.tree.status here (envFileOf settings cwd) =
      .ok (place, .file (Octets.encode (EnvFile.line home ++ ['\n']))) := by
  obtain ⟨place, -, -, stands⟩ := Tree.status_of_write (envFile_write_ok settles.saved)
  exact ⟨place, stands⟩

end Stages

section Daemon

variable {settings : Settings} {here : Location} {cwd : Path} {deps : Collaborators}

theorem startDaemon_tree_of_error (leave : deps.LeaveTree) {home : Path} {s s' : State} {h : Halt}
    (e : (startDaemon deps here home).run s = .error h s') : s'.tree = s.tree := by
  rcases Flow.bind_error e with refused | ⟨answer, s₁, asked, e⟩
  · cases refused
  have tree₁ : s₁.tree = s.tree :=
    (keepsTree_consult fun h t => leave.launch h t home).of_ok asked
  cases answer with
  | error failure =>
    rcases Flow.bind_error e with refused | ⟨_, s₂, -, e⟩
    · exact ((keepsTree_writeLine _).of_error refused).trans tree₁
    · cases e
  | ok pid =>
    rcases Flow.bind_error e with refused | ⟨_, s₂, said, e⟩
    · exact ((keepsTree_writeLine _).of_error refused).trans tree₁
    rcases Flow.bind_error e with refused | ⟨_, s₃, -, e⟩
    · rw [run_recordPid] at refused
      split at refused <;> cases refused
    · cases e

theorem keepsTree_announceHome (home : Path) : KeepsTree (announceHome settings cwd home) :=
  keeps_announceHome (fun _ _ => rfl) settings cwd home

theorem keepsTree_afterLaunch (leave : deps.LeaveTree) (installs : List Install.Outcome)
    (home : Path) (pid? : Option Nat) :
    KeepsTree (afterLaunch settings cwd deps installs home pid?) :=
  .bind (keepsTree_waitUntilReady leave home) fun _ => .bind (keepsTree_reportReadiness _ _) fun _ =>
    .bind (keepsTree_lines _) fun _ => .pure _

theorem afterLaunch_ok {installs : List Install.Outcome} {home : Path} {pid? : Option Nat}
    {s s' : State} {report : Report}
    (e : (afterLaunch settings cwd deps installs home pid?).run s = .ok report s') :
    report.home = home ∧ report.envFile = envFileOf settings cwd ∧ report.pid = pid? := by
  obtain ⟨readiness, s₁, -, e⟩ := Flow.bind_ok e
  obtain ⟨_, s₂, -, e⟩ := Flow.bind_ok e
  obtain ⟨_, s₃, -, e⟩ := Flow.bind_ok e
  cases e
  exact ⟨rfl, rfl, rfl⟩

theorem proceed_tree (leave : deps.LeaveTree) {installs : List Install.Outcome} {home : Path}
    {s s' : State} {report : Report}
    (e : (proceed settings here cwd deps installs home).run s = .ok report s') :
    report.home = home ∧ s'.tree = report.pid.elim s.tree (recordedTree s.tree here home) := by
  rw [proceed_eq] at e
  obtain ⟨_, s₁, announced, e⟩ := Flow.bind_ok e
  obtain ⟨pid?, s₂, started, e⟩ := Flow.bind_ok e
  obtain ⟨home', -, pid⟩ := afterLaunch_ok e
  refine ⟨home', ?_⟩
  rw [(keepsTree_afterLaunch leave _ _ _).of_ok e, startDaemon_tree leave started, pid,
    (keepsTree_announceHome home).of_ok announced]

theorem tree_of_proceed (leave : deps.LeaveTree) (installs : List Install.Outcome) (home : Path)
    (s : State) :
    (endOf ((proceed settings here cwd deps installs home).run s)).tree = s.tree ∨
      ∃ pid, (endOf ((proceed settings here cwd deps installs home).run s)).tree =
        recordedTree s.tree here home pid := by
  cases ended : (proceed settings here cwd deps installs home).run s with
  | ok report s' =>
    obtain ⟨-, tree⟩ := proceed_tree leave ended
    cases pid : report.pid with
    | none => exact .inl (by rw [endOf, tree, pid]; rfl)
    | some number => exact .inr ⟨number, by rw [endOf, tree, pid]; rfl⟩
  | error h s' =>
    rw [proceed_eq] at ended
    rcases Flow.bind_error ended with refused | ⟨_, s₁, announced, ended⟩
    · exact .inl ((keepsTree_announceHome home).of_error refused)
    have tree₁ := (keepsTree_announceHome home).of_ok announced
    rcases Flow.bind_error ended with refused | ⟨pid?, s₂, started, ended⟩
    · exact .inl ((startDaemon_tree_of_error leave refused).trans tree₁)
    have tree₂ := startDaemon_tree leave started
    have tree' := (keepsTree_afterLaunch leave _ _ _).of_error ended
    rw [tree₁] at tree₂
    cases pid? with
    | none => exact .inl (tree'.trans tree₂)
    | some pid => exact .inr ⟨pid, tree'.trans tree₂⟩

end Daemon

section Whole

variable {settings : Settings} {here : Location} {cwd : Path} {deps : Collaborators} {t : Tree}
  {limit : Option Nat} {result : EStateM.Result Halt State Report}

theorem tree_of_world {s : State} {w : World} (world : s.world = w) : s.tree = w.tree :=
  congrArg World.tree world

theorem footprint_recordedTree {t' : Tree} {home envFile : Path} {pid : Nat}
    (before : Tree.Footprint here home [envFile] t t') :
    Tree.Footprint here home [PidRecord.file home, envFile] t (recordedTree t' here home pid) := by
  unfold recordedTree
  split
  · next written => exact before.write (pidRecord_write_ok written)
  · exact before.mono fun p member => List.mem_cons_of_mem _ member

theorem Passage.footprint (keep : deps.KeepTree)
    (went : Passage settings here cwd deps t limit result) :
    let home := chosenHome settings cwd deps (installed settings here cwd deps ⟨t, []⟩).2
    Tree.Footprint here home [PidRecord.file home, envFileOf settings cwd] t (endOf result).tree := by
  intro home
  have tree : (installed settings here cwd deps ⟨t, []⟩).2.tree = t := installed_tree keep t
  cases went with
  | cut ended =>
    rw [endOf, (keepsTree_opening keep).of_error ended]
    exact .refl
  | failed world fails ended =>
    have traces := (footprint_of_settleHome_error ended).1
    rw [world, tree_of_world world, tree] at traces
    exact traces.mono fun p member => absurd member List.not_mem_nil
  | @settled home' s₁ s₂ world settles =>
    obtain rfl : home' = home := by rw [settles.home_eq, world]
    have traces := settles.footprint
    rw [world, tree] at traces
    rcases tree_of_proceed keep.toLeaveTree (installed settings here cwd deps ⟨t, []⟩).1 home s₂
      with same | ⟨pid, recorded⟩
    · rw [same]
      exact traces.mono fun p member => List.mem_cons_of_mem _ member
    · rw [recorded]
      exact footprint_recordedTree traces

theorem Passage.footprint_of_fails (keep : deps.KeepTree)
    (went : Passage settings here cwd deps t limit result) {failure : Failure}
    (fails : Fails settings here cwd deps (installed settings here cwd deps ⟨t, []⟩).2 failure) :
    let w := (installed settings here cwd deps ⟨t, []⟩).2
    Tree.Footprint here (chosenHome settings cwd deps w) [] t (endOf result).tree ∧
      ∀ refusal, answerIn settings cwd deps w = .error refusal → (endOf result).tree = t := by
  intro w
  have tree : w.tree = t := installed_tree keep t
  cases went with
  | cut ended =>
    have same := (keepsTree_opening keep).of_error ended
    rw [endOf, same]
    exact ⟨.refl, fun _ _ => rfl⟩
  | failed world _ ended =>
    obtain ⟨traces, unasked⟩ := footprint_of_settleHome_error ended
    rw [world, tree_of_world world] at traces unasked
    rw [endOf, ← tree]
    exact ⟨traces, unasked⟩
  | @settled home s₁ s₂ world settles =>
    rw [← world] at fails
    obtain ⟨_, failed⟩ := run_settleHome_of_fails fails
    obtain ⟨_, settled, -, -⟩ := run_settleHome_of_settles settles
    cases failed.symm.trans settled

theorem Passage.settled_of_report (keep : deps.KeepTree) {report : Report} {s : State}
    (went : Passage settings here cwd deps t limit result) (reported : result = .ok report s) :
    let w := (installed settings here cwd deps ⟨t, []⟩).2
    ∃ w', Settles settings here cwd deps w report.home w' ∧
      s.tree = report.pid.elim w'.tree (recordedTree w'.tree here report.home) := by
  intro w
  cases went with
  | cut ended => cases reported
  | failed world fails ended => cases reported
  | settled world settles =>
    obtain ⟨rfl, tree⟩ := proceed_tree keep.toLeaveTree reported
    rw [world] at settles
    exact ⟨_, settles, tree⟩

theorem retains_recordedTree (t : Tree) (here : Location) (home : Path) (pid : Nat) :
    t.Retains (recordedTree t here home pid) := by
  unfold recordedTree
  split
  · next written =>
    obtain ⟨l, slot, rfl, -⟩ := Tree.status_of_write (pidRecord_write_ok written)
    exact Tree.retains_put_file slot
  · exact fun _ _ stands _ => stands

/-- A run writes nothing but the env file and the record of its daemon, and makes nothing but
directories on the way to the home, wherever it ends. A question that fails leaves the tree as it
was; a home that cannot be made or saved leaves directories at most. A run that reports leaves the
home as a directory, the line that exports it as the whole of the env file, and as the whole of the
record the number of the daemon it has started, unless there can be no such record; without a daemon
the record is left alone. -/
theorem run_footprint (settings : Settings) (here : Location) (cwd : Path) (deps : Collaborators)
    (keep : deps.KeepTree) (t : Tree) (limit : Option Nat) :
    let result := (run settings here cwd deps).run (.start t ⟨[], limit⟩)
    let w := (installed settings here cwd deps ⟨t, []⟩).2
    let home := chosenHome settings cwd deps w
    let pidFile := PidRecord.file home
    let envFile := envFileOf settings cwd
    w.tree = t ∧
      t.Footprint here home [pidFile, envFile] (endOf result).tree ∧
      (∀ failure, answerIn settings cwd deps w = .error failure → (endOf result).tree = t) ∧
      (∀ failure, Fails settings here cwd deps w failure →
        t.Footprint here home [] (endOf result).tree) ∧
      ∀ report s, result = .ok report s →
        report.home = home ∧
        (home ≠ [] → ∃ place, s.tree.status here home = .ok (place, .directory)) ∧
        (report.pid = none ∨ ¬ s.tree.SameFile here pidFile envFile →
          ∃ place, s.tree.status here envFile =
            .ok (place, .file (Octets.encode (EnvFile.line home ++ ['\n'])))) ∧
        (∀ pid, report.pid = some pid →
          (∃ place, s.tree.status here pidFile =
            .ok (place, .file (Octets.encode (Numeral.ofNat pid)))) ∨
          (∃ failure, PidRecord.write s.tree here home pid = .error failure) ∧
            ∀ place content, s.tree.status here pidFile ≠ .ok (place, .file content)) ∧
        (report.pid = none → t.Footprint here home [envFile] s.tree) := by
  intro result w home pidFile envFile
  have tree : w.tree = t := installed_tree keep t
  have went : Passage settings here cwd deps t limit result := passage settings here cwd deps t limit
  refine ⟨tree, went.footprint keep, ?_, ?_, ?_⟩
  · intro failure refused
    exact (went.footprint_of_fails keep (.question refused)).2 failure refused
  · intro failure fails
    exact (went.footprint_of_fails keep fails).1
  · intro report s reported
    obtain ⟨w', settles, recorded⟩ := went.settled_of_report keep reported
    have chosen : report.home = home := settles.home_eq
    have envFile_ : report.envFile = envFile := (run_ok keep.toLeaveTree reported).1
    rw [chosen] at settles recorded
    refine ⟨chosen, ?_, ?_, ?_, ?_⟩
    · intro named
      obtain ⟨place, stands⟩ := settles.directory named
      refine ⟨place, ?_⟩
      rw [recorded]
      cases report.pid with
      | none => exact stands
      | some pid => exact (retains_recordedTree _ _ _ _).status stands
    · intro apart
      have kept := envFile_status_of_run keep.toLeaveTree reported (by rwa [chosen, envFile_])
      rwa [chosen, envFile_] at kept
    · intro pid started
      have tree' : s.tree = recordedTree w'.tree here home pid := by rw [recorded, started]; rfl
      rcases recordedTree_stands w'.tree here home pid with stands | ⟨same, refused, noFile⟩
      · rw [tree']
        exact .inl stands
      · rw [tree'.trans same]
        exact .inr ⟨refused, noFile⟩
    · intro unstarted
      have traces := settles.footprint
      rw [recorded, unstarted]
      rwa [tree] at traces

def crossed : Tree where
  entries :=
    [(["w".toList], .directory), (["data".toList], .directory),
      (["link".toList, "w".toList], .link "/data".toList),
      ([".volttron_env".toList, "w".toList], .link "link/env".toList),
      (["note".toList, "w".toList], .file (Octets.encode "keep".toList))]
  sealed_ := []

def nesting : Collaborators :=
  { obliging with ask := fun _ _ _ => .ok (some "link/deep/home".toList) }

theorem run_footprint_behind_links :
    let result := (run .standard ["w".toList] "/w".toList nesting).run (.start crossed .unlimited)
    nesting.KeepTree ∧
      crossed.Footprint ["w".toList] "link/deep/home".toList
        ["link/deep/home/bootstrap.pid".toList, "/w/.volttron_env".toList] (endOf result).tree ∧
      (∃ place, (endOf result).tree.status ["w".toList] "link/deep/home".toList =
        .ok (place, .directory)) ∧
      ∃ place, (endOf result).tree.status ["w".toList] "/w/.volttron_env".toList =
        .ok (place, .file (Octets.encode
          "export VOLTTRON_HOME=\"link/deep/home\"\n".toList)) := by
  intro result
  have keep : nesting.KeepTree := ⟨⟨fun _ _ _ => rfl, fun _ _ _ => rfl⟩, fun _ _ _ => rfl⟩
  have ends : result = .ok
      ⟨[⟨"volttron-lib-zmq".toList, .registry "volttron-lib-zmq".toList, .installed⟩,
        ⟨"volttron-lib-auth".toList, .registry "volttron-lib-auth".toList, .installed⟩],
        "link/deep/home".toList, "/w/.volttron_env".toList, some 7, .ready 1⟩ (endOf result) :=
    eq_ok_of_answerOf? (by decide +kernel)
  have apart : ¬ (endOf result).tree.SameFile ["w".toList]
      (PidRecord.file "link/deep/home".toList) "/w/.volttron_env".toList := fun same =>
    absurd (congrArg Except.toOption same.status_eq) (by decide +kernel)
  obtain ⟨-, traces, -, -, reported⟩ :=
    run_footprint .standard ["w".toList] "/w".toList nesting keep crossed none
  obtain ⟨-, directory, kept, -, -⟩ := reported _ _ ends
  exact ⟨keep, traces, directory (by decide +kernel), kept (.inr apart)⟩

end Whole

end PlatformLauncher.Bootstrap
