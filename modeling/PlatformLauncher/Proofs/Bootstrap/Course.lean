import PlatformLauncher.Proofs.Bootstrap.Footprint

/-!
The order in which a run turns to the world. The history of a run under a limit is a beginning of the
history of the full run, and that one is read off the errands. What those outside are told is seen from
their side: a collaborator that answers as another one does, wherever a run may turn to it, is as good
as that other one. Main statement: `run_in_order`.
-/
namespace PlatformLauncher.Bootstrap

def Event.IsPoll : Event → Prop
  | .probed | .slept _ => True
  | _ => False

def settledHistory (settings : Settings) (cwd home : Path) (h : History) : History :=
  .savedHome (envFileOf settings cwd) home :: .madeHome home ::
    .askedHome (offeredHome settings cwd) :: h

theorem suffix_settledHistory (settings : Settings) (cwd home : Path) (h : History) :
    h <:+ settledHistory settings cwd home h := ⟨[_, _, _], rfl⟩

/-- All that a run does, in its order. The record of the daemon may be missing. -/
def course (settings : Settings) (cwd : Path) (requests : List Install.Request) (home : Path)
    (recorded : Option Nat) (polls : List Event) : List Event :=
  requests.map .askedInstaller ++
    [.askedHome (offeredHome settings cwd), .madeHome home,
      .savedHome (envFileOf settings cwd) home, .askedLauncher home] ++
    (recorded.map (.recordedPid home)).toList ++ .builtProbe home :: polls

section Errands

variable (settings : Settings) (here : Location) (cwd : Path) (deps : Collaborators) (home : Path)

theorem history_installAll (packages : List PackageEntry) (w : World) :
    ∃ requests : List Install.Request,
      ((Errand.installAll deps here cwd packages).run w).2.history =
        (requests.map Event.askedInstaller).reverse ++ w.history := by
  induction packages generalizing w with
  | nil => exact ⟨[], rfl⟩
  | cons p rest ih =>
    obtain ⟨requests, further⟩ := ih ((Errand.installOne deps here cwd p).run w).2
    refine ⟨.plain p.name (Install.resolve w.tree here p cwd) :: requests, ?_⟩
    rw [List.map_cons, List.reverse_cons, List.append_assoc, List.singleton_append]
    rw [Errand.installAll, List.mapM_cons]
    exact further

theorem history_launch (w : World) :
    ∃ recorded : Option Nat, ((Errand.launch deps here home).run w).2.history =
      (recorded.map (Event.recordedPid home)).toList ++ .askedLauncher home :: w.history := by
  cases answered : (deps.launch w.history w.tree home).answer with
  | error failure =>
    refine ⟨none, ?_⟩
    simp [Errand.launch, Errand.consult, answered]
    rfl
  | ok pid =>
    cases written : PidRecord.write (deps.launch w.history w.tree home).tree here home pid with
    | error failure =>
      refine ⟨none, ?_⟩
      simp [Errand.launch, Errand.consult, Errand.recordPid, answered, written]
      rfl
    | ok tree =>
      refine ⟨some pid, ?_⟩
      simp [Errand.launch, Errand.consult, Errand.recordPid, answered, written]
      rfl

theorem run_pollFrom_succ (policy : PollPolicy) (left : Nat) (w : World) :
    let reply := deps.probe w.history w.tree home
    let asked : World := ⟨reply.tree, .probed :: w.history⟩
    ((Errand.poller deps home).pollFrom policy (left + 1)).run w =
      if reply.answer then (.ready (policy.attempts - left), asked)
      else ((Errand.poller deps home).pollFrom policy left).run
        (if 0 < left then ⟨reply.tree, .slept policy.interval :: asked.history⟩ else asked) := by
  intro reply asked
  have attempted : ((Errand.poller deps home).attempt (policy.attempts - left)).run w =
      (reply.answer, asked) := rfl
  rw [Poller.run_pollFrom_of_attempt attempted, Poller.pause]
  split
  · rfl
  · split <;> rfl

theorem history_pollFrom (policy : PollPolicy) (left : Nat) (w : World) :
    ∃ polls : List Event, (∀ e ∈ polls, e.IsPoll) ∧
      (((Errand.poller deps home).pollFrom policy left).run w).2.history =
        polls.reverse ++ w.history := by
  induction left generalizing w with
  | zero => exact ⟨[], by simp, rfl⟩
  | succ left ih =>
    rw [run_pollFrom_succ]
    let reply := deps.probe w.history w.tree home
    let asked : World := ⟨reply.tree, .probed :: w.history⟩
    split
    · exact ⟨[.probed], by simp [Event.IsPoll], rfl⟩
    split
    · obtain ⟨polls, only, further⟩ := ih ⟨reply.tree, .slept policy.interval :: asked.history⟩
      refine ⟨.probed :: .slept policy.interval :: polls, ?_, ?_⟩
      · simpa [Event.IsPoll] using only
      · rw [List.reverse_cons, List.reverse_cons, List.append_assoc, List.append_assoc]
        exact further
    · obtain ⟨polls, only, further⟩ := ih asked
      refine ⟨.probed :: polls, ?_, ?_⟩
      · simpa [Event.IsPoll] using only
      · rw [List.reverse_cons, List.append_assoc]
        exact further

theorem history_waitUntilReady (w : World) :
    ∃ polls : List Event, (∀ e ∈ polls, e.IsPoll) ∧
      ((Errand.waitUntilReady deps settings home).run w).2.history =
        polls.reverse ++ .builtProbe home :: w.history :=
  history_pollFrom deps home _ _ ⟨w.tree, .builtProbe home :: w.history⟩

end Errands

section Order

variable (settings : Settings) (here : Location) (cwd : Path) (deps : Collaborators)

theorem history_settleHome (s : State) :
    (endOf ((settleHome settings here cwd deps).run s)).history <:+
      settledHistory settings cwd (chosenHome settings cwd deps s.world) s.history := by
  rw [settleHome, EStateM.run_bind, run_takeAnswer]
  cases answered : (deps.ask s.history s.tree (offeredHome settings cwd)).answer with
  | error failure => exact ⟨[_, _], rfl⟩
  | ok answer =>
    have chosen : chosenHome settings cwd deps s.world =
        Home.resolve answer (offeredHome settings cwd) := by
      simp [chosenHome, answerIn, State.world, answered]
    rw [chosen]
    dsimp only
    rw [EStateM.run_bind, run_makeHome]
    cases (Home.ensure s.tree here (Home.resolve answer (offeredHome settings cwd))).2 with
    | some failure => exact ⟨[_, _], rfl⟩
    | none =>
      dsimp only
      rw [EStateM.run_bind, run_saveHome]
      dsimp only
      split
      · next saved =>
        split at saved <;> cases saved
        exact List.suffix_rfl
      · next refused =>
        split at refused <;> cases refused
        exact ⟨[_], rfl⟩

theorem world_of_proceed {s : State} (unlimited : s.sink.room = none)
    (installs : List Install.Outcome) (home : Path) :
    (endOf ((proceed settings here cwd deps installs home).run s)).world =
      ((Errand.waitUntilReady deps settings home).run
        ((Errand.launch deps here home).run s.world).2).2 := by
  obtain ⟨s₁, run₁, world₁, open₁⟩ := mirrors_announceHome settings cwd home s unlimited
  obtain ⟨s₂, run₂, world₂, open₂⟩ := mirrors_startDaemon deps here home s₁ open₁
  obtain ⟨s₃, run₃, world₃, -⟩ := mirrors_waitUntilReady deps home settings s₂ open₂
  have same : s₁.world = s.world := world₁
  rw [proceed_eq]
  simp only [afterLaunch, EStateM.run_bind, run₁, run₂, run₃]
  rw [← same, ← world₂, ← world₃]
  refine Keeps.bind (keeps_reportReadiness world_deaf settings _) (fun _ => ?_) s₃
  exact .bind (keeps_lines world_deaf _) fun _ => .pure _

theorem history_of_fails (t : Tree) {failure : Failure}
    (fails : Fails settings here cwd deps (installed settings here cwd deps ⟨t, []⟩).2 failure) :
    let w := (installed settings here cwd deps ⟨t, []⟩).2
    (endOf ((run settings here cwd deps).run (.start t .unlimited))).history <:+
      settledHistory settings cwd (chosenHome settings cwd deps w) w.history := by
  intro w
  obtain ⟨s₁, -, world₁, rest⟩ := run_after_installs settings here cwd deps (.start t .unlimited) rfl
  have noted := history_settleHome settings here cwd deps s₁
  have same : s₁.world = w := world₁
  have fails₁ : Fails settings here cwd deps s₁.world failure := same ▸ fails
  obtain ⟨s₂, failed⟩ := run_settleHome_of_fails fails₁
  rw [failed, same, show s₁.history = w.history from congrArg World.history world₁] at noted
  rw [rest, EStateM.run_bind, failed]
  exact noted

theorem history_of_full_run (t : Tree) :
    let w := (installed settings here cwd deps ⟨t, []⟩).2
    let home := chosenHome settings cwd deps w
    ∃ (recorded : Option Nat) (polls : List Event), (∀ e ∈ polls, e.IsPoll) ∧
      (endOf ((run settings here cwd deps).run (.start t .unlimited))).history <:+
        polls.reverse ++ .builtProbe home :: ((recorded.map (Event.recordedPid home)).toList ++
          .askedLauncher home :: settledHistory settings cwd home w.history) := by
  intro w home
  rcases fails_or_settles settings here cwd deps w with ⟨failure, fails⟩ | ⟨home', w', settles⟩
  · have noted := history_of_fails settings here cwd deps t fails
    exact ⟨none, [], by simp, noted.trans ⟨[_, _], rfl⟩⟩
  · obtain ⟨s₂, open₂, world₂, rest⟩ := run_of_settles (s := .start t .unlimited) rfl settles
    obtain rfl : home' = home := settles.home_eq
    have gone := congrArg World.history (world_of_proceed settings here cwd deps open₂
      (installed settings here cwd deps ⟨t, []⟩).1 home)
    obtain ⟨recorded, launched⟩ := history_launch here deps home w'
    obtain ⟨polls, only, polled⟩ := history_waitUntilReady settings deps home
      ((Errand.launch deps here home).run w').2
    rw [world₂, polled, launched, settles.history] at gone
    refine ⟨recorded, polls, only, ?_⟩
    rw [rest]
    exact ⟨[], gone⟩

theorem reverse_course (requests : List Install.Request) (home : Path) (recorded : Option Nat)
    (polls : List Event) :
    (course settings cwd requests home recorded polls).reverse =
      polls.reverse ++ .builtProbe home :: ((recorded.map (Event.recordedPid home)).toList ++
        .askedLauncher home ::
          settledHistory settings cwd home (requests.map Event.askedInstaller).reverse) := by
  cases recorded <;> simp [course, settledHistory]

theorem history_of_run (t : Tree) (limit : Option Nat) :
    let w := (installed settings here cwd deps ⟨t, []⟩).2
    ∃ (requests : List Install.Request) (recorded : Option Nat) (polls : List Event),
      (∀ e ∈ polls, e.IsPoll) ∧ w.history.reverse = requests.map .askedInstaller ∧
        (endOf ((run settings here cwd deps).run (.start t ⟨[], limit⟩))).history.reverse <+:
          course settings cwd requests (chosenHome settings cwd deps w) recorded polls := by
  intro w
  obtain ⟨requests, asked⟩ := history_installAll here cwd deps settings.packages ⟨t, []⟩
  obtain ⟨recorded, polls, only, full⟩ := history_of_full_run settings here cwd deps t
  have asked : w.history = (requests.map Event.askedInstaller).reverse := by
    rw [← List.append_nil (List.reverse _)]
    exact asked
  refine ⟨requests, recorded, polls, only, by rw [asked, List.reverse_reverse], ?_⟩
  rw [← List.reverse_suffix, List.reverse_reverse, reverse_course, ← asked]
  exact ((truncates_run settings here cwd deps).history_suffix t limit).trans full

end Order

/-- What is so when the daemon is started: the home is there and saved, and nothing else has been
written in the tree in which the operator was asked. -/
structure LaunchReady (settings : Settings) (here : Location) (cwd : Path) (before : Tree)
    (home : Path) (t : Tree) : Prop where
  directory : home ≠ [] → ∃ place, t.status here home = .ok (place, .directory)
  saved : ∃ place, t.status here (envFileOf settings cwd) =
    .ok (place, .file (Octets.encode (EnvFile.line home ++ ['\n'])))
  traces : before.Footprint here home [envFileOf settings cwd] t
  record : ∀ place content, t.status here (PidRecord.file home) = .ok (place, .file content) →
    before.get? place = some (.file content) ∨ t.LeadsTo here (envFileOf settings cwd) place

def ProbeBuilt (home : Path) (h : History) : Prop :=
  ∃ later earlier, h = later ++ .builtProbe home :: earlier ∧ .askedLauncher home ∈ earlier

/-- Others who give the same answers as the collaborators of a run when they are asked at the points
of the course, in the trees that may stand there, with the home that was chosen. -/
structure Concur (settings : Settings) (here : Location) (cwd : Path) (deps others : Collaborators)
    (w : World) (home : Path) : Prop where
  install : others.install = deps.install
  ask : others.ask w.history w.tree (offeredHome settings cwd) =
    deps.ask w.history w.tree (offeredHome settings cwd)
  launch : ∀ t, LaunchReady settings here cwd w.tree home t →
    others.launch (settledHistory settings cwd home w.history) t home =
      deps.launch (settledHistory settings cwd home w.history) t home
  probe : ∀ h t, ProbeBuilt home h → others.probe h t home = deps.probe h t home

section Asking

variable {settings : Settings} {here : Location} {cwd : Path} {deps others : Collaborators}
  {w : World} {home : Path}

theorem Settles.launchReady {w' : World} (settles : Settles settings here cwd deps w home w') :
    LaunchReady settings here cwd w.tree home w'.tree where
  directory := settles.directory
  saved := settles.kept
  traces := settles.footprint
  record place content stands := by
    rcases settles.footprint.file (Tree.get?_of_status_file stands) with same | ⟨p, member, leads⟩
    · exact .inl same
    · obtain rfl := List.mem_singleton.1 member
      exact .inr leads

theorem ProbeBuilt.cons {h : History} (built : ProbeBuilt home h) (e : Event) :
    ProbeBuilt home (e :: h) := by
  obtain ⟨later, earlier, rfl, asked⟩ := built
  exact ⟨e :: later, earlier, rfl, asked⟩

theorem installAll_congr (same : others.install = deps.install) (packages : List PackageEntry) :
    Install.installAll others here cwd packages = Install.installAll deps here cwd packages := by
  induction packages with
  | nil => rfl
  | cons p rest ih => simp only [Install.installAll, Install.installOne, same, ih]

theorem installStage_congr (same : others.install = deps.install) :
    installStage settings here cwd others = installStage settings here cwd deps := by
  rw [installStage, installStage, installAll_congr same]

theorem run_opening_congr {t : Tree} {limit : Option Nat} (install : others.install = deps.install)
    (ask : let w := (installed settings here cwd deps ⟨t, []⟩).2
      others.ask w.history w.tree (offeredHome settings cwd) =
        deps.ask w.history w.tree (offeredHome settings cwd)) :
    (opening settings here cwd others).run (.start t ⟨[], limit⟩) =
      (opening settings here cwd deps).run (.start t ⟨[], limit⟩) := by
  rw [opening, opening, installStage_congr install]
  refine Flow.run_bind_congr rfl fun installs s₁ went => ?_
  obtain ⟨-, world⟩ := world_of_ok (mirrors_installStage deps here cwd settings)
    (truncates_installStage settings here cwd deps) went
  dsimp only at ask
  rw [← world] at ask
  refine Flow.run_bind_congr ?_ fun _ _ _ => rfl
  change (Flow.write (others.ask s₁.history s₁.tree _).printed).run s₁ = _
  rw [show others.ask s₁.history s₁.tree _ = _ from ask]
  rfl

theorem run_settleHome_congr {s : State}
    (same : others.ask s.history s.tree (offeredHome settings cwd) =
      deps.ask s.history s.tree (offeredHome settings cwd)) :
    (settleHome settings here cwd others).run s = (settleHome settings here cwd deps).run s := by
  refine Flow.run_bind_congr ?_ fun _ _ _ => rfl
  rw [run_takeAnswer, run_takeAnswer, same]

theorem run_startDaemon_congr {s : State}
    (same : others.launch s.history s.tree home = deps.launch s.history s.tree home) :
    (startDaemon others here home).run s = (startDaemon deps here home).run s :=
  Flow.run_bind_congr (Flow.run_consult_congr same) fun _ _ _ => rfl

theorem run_probe_congr {s : State}
    (same : others.probe s.history s.tree home = deps.probe s.history s.tree home) :
    (poller others home).probe.run s = (poller deps home).probe.run s := by
  change (Flow.consult .probed fun h t => others.probe h t home).run s =
    (Flow.consult .probed fun h t => deps.probe h t home).run s
  exact Flow.run_consult_congr same

theorem run_pollFrom_congr
    (same : ∀ h t, ProbeBuilt home h → others.probe h t home = deps.probe h t home)
    (policy : PollPolicy) (left : Nat) {s : State} (built : ProbeBuilt home s.history) :
    ((poller others home).pollFrom policy left).run s =
      ((poller deps home).pollFrom policy left).run s := by
  induction left generalizing s with
  | zero => rfl
  | succ left ih =>
    have attempted : ((poller others home).attempt (policy.attempts - left)).run s =
        ((poller deps home).attempt (policy.attempts - left)).run s := by
      refine Flow.run_bind_congr rfl fun _ s₁ dotted => ?_
      cases dotted
      exact run_probe_congr (same _ _ built)
    rw [Poller.pollFrom_succ, Poller.pollFrom_succ]
    refine Flow.run_bind_congr attempted fun ready s₁ probed => ?_
    cases probed
    split
    · rfl
    refine Flow.run_bind_congr rfl fun _ s₂ slept => ?_
    unfold Poller.pause at slept
    split at slept
    · cases slept
      exact ih ((built.cons _).cons _)
    · cases slept
      exact ih (built.cons _)

theorem run_waitUntilReady_congr
    (same : ∀ h t, ProbeBuilt home h → others.probe h t home = deps.probe h t home) {s : State}
    (asked : .askedLauncher home ∈ s.history) :
    (waitUntilReady others settings home).run s = (waitUntilReady deps settings home).run s := by
  refine Flow.run_bind_congr rfl fun _ s₁ noted => ?_
  cases noted
  refine Flow.run_bind_congr rfl fun _ s₂ written => ?_
  have kept : s₂.history = .builtProbe home :: s.history :=
    congrArg World.history ((keeps_write world_deaf _).of_ok written)
  have built : ProbeBuilt home s₂.history := ⟨[], s.history, kept, asked⟩
  exact Flow.run_bind_congr (run_pollFrom_congr same _ _ built) fun _ _ _ => rfl

theorem askedLauncher_of_startDaemon {s s' : State} {pid? : Option Nat}
    (e : (startDaemon deps here home).run s = .ok pid? s') : .askedLauncher home ∈ s'.history := by
  obtain ⟨answer, s₁, asked, e⟩ := Flow.bind_ok e
  have noted : .askedLauncher home ∈ s₁.history := by
    cases asked
    exact List.mem_cons_self
  cases answer with
  | error failure =>
    obtain ⟨_, s₂, said, e⟩ := Flow.bind_ok e
    cases e
    have kept : s'.history = s₁.history :=
      congrArg World.history ((keeps_writeLine world_deaf _).of_ok said)
    rwa [kept]
  | ok pid =>
    obtain ⟨_, s₂, said, e⟩ := Flow.bind_ok e
    obtain ⟨_, s₃, recorded, e⟩ := Flow.bind_ok e
    cases e
    have kept : s₂.history = s₁.history :=
      congrArg World.history ((keeps_writeLine world_deaf _).of_ok said)
    have grown := (silent_recordPid here home pid).history s₂
    rw [recorded, kept] at grown
    exact grown.subset noted

theorem run_congr {t : Tree} {limit : Option Nat}
    (concur : Concur settings here cwd deps others (installed settings here cwd deps ⟨t, []⟩).2
      (chosenHome settings cwd deps (installed settings here cwd deps ⟨t, []⟩).2)) :
    (run settings here cwd others).run (.start t ⟨[], limit⟩) =
      (run settings here cwd deps).run (.start t ⟨[], limit⟩) := by
  rw [run_eq_launch, run_eq_launch]
  refine Flow.run_bind_congr ?_ ?_
  -- before the launch only the question goes to someone else than the installer
  · refine Flow.run_bind_congr (run_opening_congr concur.install concur.ask) ?_
    intro installs s₁ opened
    obtain ⟨-, world⟩ := opening_ok opened
    refine Flow.run_bind_congr (run_settleHome_congr ?_) fun _ _ _ => rfl
    have asked := concur.ask
    rwa [← world] at asked
  -- the launcher is asked in the world in which the home was settled, whatever was written since
  · rintro ⟨installs, home'⟩ s settled
    have settles := untilLaunch_ok settled
    obtain rfl := settles.home_eq
    have launched := concur.launch _ settles.launchReady
    rw [show settledHistory settings cwd _ _ = s.history from settles.history.symm] at launched
    refine Flow.run_bind_congr (run_startDaemon_congr launched) fun pid? s₁ started => ?_
    have asked := askedLauncher_of_startDaemon started
    exact Flow.run_bind_congr (run_waitUntilReady_congr concur.probe asked) fun _ _ _ => rfl

theorem home_of_limited_report {t : Tree} {limit : Option Nat} {report : Report} {s : State}
    (e : (run settings here cwd deps).run (.start t ⟨[], limit⟩) = .ok report s) :
    report.home = chosenHome settings cwd deps (installed settings here cwd deps ⟨t, []⟩).2 ∧
      report.envFile = envFileOf settings cwd := by
  rw [run_eq_launch] at e
  obtain ⟨⟨installs, home⟩, s₁, settled, e⟩ := Flow.bind_ok e
  obtain ⟨pid?, s₂, -, e⟩ := Flow.bind_ok e
  obtain ⟨named, file, -⟩ := afterLaunch_ok e
  exact ⟨named.trans (untilLaunch_ok settled).home_eq, file⟩

end Asking

/-- However far a run comes, what it has done is a beginning of one course: the requests to the
installer, the question with the default home, the home, the env file, the daemon, its record, the
probe and the polls, each of them at most once but for the requests and the polls, and all about one
home, which is also the one in the report. The launcher is turned to only with this home, at this
point of the course, and in a tree that is ready for it, and the prober only after that: others who
concur with the collaborators there would have led to the same result, whatever they do elsewhere. -/
theorem run_in_order (settings : Settings) (here : Location) (cwd : Path) (deps : Collaborators)
    (t : Tree) (limit : Option Nat) :
    let result := (run settings here cwd deps).run (.start t ⟨[], limit⟩)
    let w := (installed settings here cwd deps ⟨t, []⟩).2
    let home := chosenHome settings cwd deps w
    (∃ (requests : List Install.Request) (recorded : Option Nat) (polls : List Event),
      (∀ e ∈ polls, e.IsPoll) ∧ w.history.reverse = requests.map .askedInstaller ∧
        (endOf result).history.reverse <+: course settings cwd requests home recorded polls) ∧
      (∀ report s, result = .ok report s →
        report.home = home ∧ report.envFile = envFileOf settings cwd) ∧
      ∀ others, Concur settings here cwd deps others w home →
        (run settings here cwd others).run (.start t ⟨[], limit⟩) = result :=
  ⟨history_of_run settings here cwd deps t limit, fun _ _ reported => home_of_limited_report reported,
    fun _ concur => run_congr concur⟩

/-- A launcher that starts nothing before the home stands and is saved, and a probe that finds nothing
before it was built. -/
def wary : Collaborators where
  install := obliging.install
  ask := obliging.ask
  launch h t home :=
    if t.isDirectory ["w".toList] home ∧
        (EnvFile.read t ["w".toList] "/w/.volttron_env".toList).toOption = some (some home) then
      obliging.launch h t home
    else .quiet (.error (.said "not yet".toList)) t
  probe h t home := .quiet (h.contains (.builtProbe home)) t

theorem wary_launch {t before : Tree} {h : History} {home : Path} (named : home ≠ [])
    (oneLine : '\n' ∉ home)
    (ready : LaunchReady .standard ["w".toList] "/w".toList before home t) :
    wary.launch h t home = obliging.launch h t home := by
  obtain ⟨place, stands⟩ := ready.directory named
  obtain ⟨file, saved⟩ := ready.saved
  have kept := envFile_read_of_status oneLine saved
  exact if_pos ⟨by rw [Tree.isDirectory, stands], congrArg Except.toOption kept⟩

theorem run_in_order_with_wary :
    let result := (run .standard ["w".toList] "/w".toList obliging).run (.start workedIn .unlimited)
    (endOf result).history.reverse = course .standard "/w".toList
        [.plain "volttron-lib-zmq".toList (.registry "volttron-lib-zmq".toList),
          .plain "volttron-lib-auth".toList (.registry "volttron-lib-auth".toList)]
        "my \"home".toList (some 7) [.probed] ∧
      (run .standard ["w".toList] "/w".toList wary).run (.start workedIn .unlimited) = result := by
  intro result
  have concur : Concur .standard ["w".toList] "/w".toList obliging wary
      (installed .standard ["w".toList] "/w".toList obliging ⟨workedIn, []⟩).2
      "my \"home".toList := by
    constructor
    · rfl
    · rfl
    · exact fun t ready => wary_launch (by decide) (by decide) ready
    · rintro h t ⟨later, earlier, rfl, asked⟩
      have built : (later ++ .builtProbe "my \"home".toList :: earlier).contains
          (.builtProbe "my \"home".toList) = true := by
        rw [List.contains_iff_mem]
        exact List.mem_append_right _ List.mem_cons_self
      exact congrArg (Reply.quiet · t) built
  exact ⟨by decide +kernel, (run_in_order _ _ _ _ _ _).2.2 _ concur⟩

end PlatformLauncher.Bootstrap
