import PlatformLauncher.Proofs.Bootstrap.World

/-!
How a bootstrap ends while its output takes everything. Only three stages can make it fail, the
question, the home and the env file; what the installer, the daemon, its record and the probe come to
is told in the report and ends nothing. Main statement: `run_ends_as_its_stages`.
-/
namespace PlatformLauncher.Bootstrap

section Stages

variable (settings : Settings) (here : Location) (cwd : Path) (deps : Collaborators)

def answerIn (w : World) : Except Failure (Option Text) :=
  (deps.ask w.history w.tree (offeredHome settings cwd)).answer

/-- Why a run fails after the installs: the first of the question, the home and the env file that
does. -/
inductive Fails (w : World) : Failure → Prop
  | question {failure : Failure} (refused : answerIn settings cwd deps w = .error failure) :
      Fails w failure
  | home {answer : Option Text} {failure : Failure}
      (answered : answerIn settings cwd deps w = .ok answer)
      (refused : (Home.ensure w.tree here
        (Home.resolve answer (offeredHome settings cwd))).2 = some failure) :
      Fails w failure
  | envFile {answer : Option Text} {cause : Failure}
      (answered : answerIn settings cwd deps w = .ok answer)
      (made : (Home.ensure w.tree here
        (Home.resolve answer (offeredHome settings cwd))).2 = none)
      (refused : EnvFile.write (Home.ensure w.tree here
        (Home.resolve answer (offeredHome settings cwd))).1 here (envFileOf settings cwd)
        (Home.resolve answer (offeredHome settings cwd)) = .error cause) :
      Fails w (unsaved cause)

/-- All three went well: the home, and the world in which it is made and saved. -/
structure Settles (w : World) (home : Path) (w' : World) : Prop where
  answered : ∃ answer, answerIn settings cwd deps w = .ok answer ∧
    home = Home.resolve answer (offeredHome settings cwd)
  made : (Home.ensure w.tree here home).2 = none
  saved : EnvFile.write (Home.ensure w.tree here home).1 here (envFileOf settings cwd) home =
    .ok w'.tree
  history : w'.history = .savedHome (envFileOf settings cwd) home :: .madeHome home ::
    .askedHome (offeredHome settings cwd) :: w.history

def verdict (home : Path) (w : World) : Readiness :=
  ((Errand.waitUntilReady deps settings home).run ((Errand.launch deps here home).run w).2).1

/-- The time of the poll has to be told, and cannot be. -/
def Overflows (home : Path) (w : World) : Prop :=
  (verdict settings here deps home w).isReady = false ∧
    (PollPolicy.ofSettings settings.poll).budget? = none

def reportFor (installs : List Install.Outcome) (home : Path) (w : World) : Report where
  installs := installs
  home := home
  envFile := envFileOf settings cwd
  pid := (deps.launch w.history w.tree home).answer.toOption
  readiness := verdict settings here deps home w

theorem fails_or_settles (w : World) :
    (∃ failure, Fails settings here cwd deps w failure) ∨
      ∃ home w', Settles settings here cwd deps w home w' := by
  cases answered : answerIn settings cwd deps w with
  | error failure => exact .inl ⟨failure, .question answered⟩
  | ok answer =>
    cases made : (Home.ensure w.tree here
        (Home.resolve answer (offeredHome settings cwd))).2 with
    | some failure => exact .inl ⟨failure, .home answered made⟩
    | none =>
      cases saved : EnvFile.write (Home.ensure w.tree here
          (Home.resolve answer (offeredHome settings cwd))).1 here (envFileOf settings cwd)
          (Home.resolve answer (offeredHome settings cwd)) with
      | error cause => exact .inl ⟨unsaved cause, .envFile answered made saved⟩
      | ok tree => exact .inr ⟨_, ⟨tree, _⟩, ⟨answer, answered, rfl⟩, made, saved, rfl⟩

variable {settings here cwd deps}

theorem run_settleHome_of_fails {s : State} {failure : Failure}
    (fails : Fails settings here cwd deps s.world failure) :
    ∃ s', (settleHome settings here cwd deps).run s = .error (.failed failure) s' := by
  simp only [settleHome, EStateM.run_bind, run_takeAnswer]
  cases fails with
  | question refused =>
    change (deps.ask s.history s.tree _).answer = _ at refused
    simp [refused]
  | home answered refused =>
    change (deps.ask s.history s.tree _).answer = _ at answered
    simp only [State.world] at refused
    simp [answered, run_makeHome, refused]
  | envFile answered made refused =>
    change (deps.ask s.history s.tree _).answer = _ at answered
    simp only [State.world] at made refused
    simp [answered, run_makeHome, made, run_saveHome, refused]

theorem run_settleHome_of_settles {s : State} {home : Path} {w' : World}
    (settles : Settles settings here cwd deps s.world home w') :
    ∃ s', (settleHome settings here cwd deps).run s = .ok home s' ∧ s'.world = w' ∧
      s'.sink = s.sink := by
  obtain ⟨⟨answer, answered, rfl⟩, made, saved, history⟩ := settles
  obtain ⟨tree, history'⟩ := w'
  change (deps.ask s.history s.tree _).answer = _ at answered
  simp only [State.world] at made saved history
  subst history
  refine ⟨{ s with tree, history := _ }, ?_, rfl, rfl⟩
  simp only [settleHome, EStateM.run_bind, run_takeAnswer, answered, run_makeHome, made, run_saveHome,
    saved, EStateM.run_pure]

end Stages

section Rest

variable (settings : Settings) (here : Location) (cwd : Path) (deps : Collaborators)
  (installs : List Install.Outcome) (home : Path)

theorem launch_answer (w : World) :
    ((Errand.launch deps here home).run w).1 =
      (deps.launch w.history w.tree home).answer.toOption := by
  cases h : (deps.launch w.history w.tree home).answer with
  | ok pid => simp [Errand.launch, Errand.consult, Errand.recordPid, h]; rfl
  | error failure => simp [Errand.launch, Errand.consult, h]; rfl

theorem run_reportReadiness_of_ready {readiness : Readiness} {s : State}
    (told : readiness.isReady = true ∨ (PollPolicy.ofSettings settings.poll).budget? ≠ none)
    (unlimited : s.sink.room = none) :
    ∃ s', (reportReadiness settings readiness).run s = .ok () s' ∧ s'.sink.room = none := by
  rw [run_reportReadiness]
  cases readiness with
  | ready n =>
    obtain ⟨s', run', -, open'⟩ := mirrors_writeLine _ s unlimited
    exact ⟨s', run', open'⟩
  | timedOut n =>
    cases budget : (PollPolicy.ofSettings settings.poll).budget? with
    | none => simp [budget, Readiness.isReady] at told
    | some budget =>
      obtain ⟨s', run', -, open'⟩ := mirrors_writeLine _ s unlimited
      exact ⟨s', run', open'⟩

theorem run_proceed {s : State} (unlimited : s.sink.room = none) :
    ∃ s₁, s₁.sink.room = none ∧
      (proceed settings here cwd deps installs home).run s =
        (do
          reportReadiness settings (verdict settings here deps home s.world)
          (guidance settings (envFileOf settings cwd)).forM Flow.writeLine
          pure (reportFor settings here cwd deps installs home s.world) : Flow Report).run s₁ := by
  obtain ⟨s₁, run₁, world₁, open₁⟩ := mirrors_writeLine ("VOLTTRON_HOME set to ".toList ++ home) s unlimited
  obtain ⟨s₂, run₂, world₂, open₂⟩ :=
    mirrors_writeLine ("Saved to ".toList ++ envFileOf settings cwd) s₁ open₁
  obtain ⟨s₃, run₃, world₃, open₃⟩ := mirrors_startDaemon deps here home s₂ open₂
  obtain ⟨s₄, run₄, -, open₄⟩ := mirrors_waitUntilReady deps home settings s₃ open₃
  have same : s₂.world = s.world := world₂.trans world₁
  rw [same] at run₃ world₃
  rw [world₃] at run₄
  refine ⟨s₄, open₄, ?_⟩
  simp only [proceed, EStateM.run_bind, run₁, run₂, run₃, run₄, launch_answer]
  rfl

theorem run_proceed_of_overflows {s : State} (unlimited : s.sink.room = none)
    (overflows : Overflows settings here deps home s.world) :
    ∃ s', (proceed settings here cwd deps installs home).run s = .error .overflow s' := by
  obtain ⟨s₁, -, rest⟩ := run_proceed settings here cwd deps installs home unlimited
  obtain ⟨late, untold⟩ := overflows
  refine ⟨s₁, ?_⟩
  rw [rest, EStateM.run_bind, run_reportReadiness, untold]
  cases found : verdict settings here deps home s.world with
  | ready n => simp [found, Readiness.isReady] at late
  | timedOut n => rfl

theorem run_proceed_of_not_overflows {s : State} (unlimited : s.sink.room = none)
    (fits : ¬ Overflows settings here deps home s.world) :
    ∃ s', (proceed settings here cwd deps installs home).run s =
      .ok (reportFor settings here cwd deps installs home s.world) s' := by
  obtain ⟨s₁, open₁, rest⟩ := run_proceed settings here cwd deps installs home unlimited
  have told : (verdict settings here deps home s.world).isReady = true ∨
      (PollPolicy.ofSettings settings.poll).budget? ≠ none := by
    cases late : (verdict settings here deps home s.world).isReady with
    | true => exact .inl rfl
    | false => exact .inr fun untold => fits ⟨late, untold⟩
  obtain ⟨s₂, run₂, open₂⟩ := run_reportReadiness_of_ready settings told open₁
  obtain ⟨s₃, run₃, -, -⟩ := mirrors_guidance (guidance settings (envFileOf settings cwd)) s₂ open₂
  refine ⟨s₃, ?_⟩
  rw [rest]
  simp only [EStateM.run_bind, run₂, run₃]
  rfl

end Rest

section Whole

variable (settings : Settings) (here : Location) (cwd : Path) (deps : Collaborators) (s : State)

/-- The outcomes of the installs, and the world in which the operator is asked. -/
abbrev installed (w : World) : List Install.Outcome × World :=
  (Errand.installAll deps here cwd settings.packages).run w

theorem run_after_installs (unlimited : s.sink.room = none) :
    ∃ s₁, s₁.sink.room = none ∧ s₁.world = (installed settings here cwd deps s.world).2 ∧
      (run settings here cwd deps).run s =
        (settleHome settings here cwd deps >>= fun home =>
          proceed settings here cwd deps (installed settings here cwd deps s.world).1 home).run
          s₁ := by
  obtain ⟨s₁, opened, world₁, open₁⟩ := mirrors_opening deps here cwd settings s unlimited
  refine ⟨s₁, open₁, world₁, ?_⟩
  rw [run_eq, EStateM.run_bind, opened]

variable {settings here cwd deps s}

theorem run_of_fails (unlimited : s.sink.room = none) {failure : Failure}
    (fails : Fails settings here cwd deps (installed settings here cwd deps s.world).2 failure) :
    ∃ s', (run settings here cwd deps).run s = .error (.failed failure) s' := by
  obtain ⟨s₁, -, world₁, rest⟩ := run_after_installs settings here cwd deps s unlimited
  rw [← world₁] at fails
  obtain ⟨s₂, run₂⟩ := run_settleHome_of_fails fails
  exact ⟨s₂, by rw [rest, EStateM.run_bind, run₂]⟩

theorem run_of_settles (unlimited : s.sink.room = none) {home : Path} {w : World}
    (settles : Settles settings here cwd deps (installed settings here cwd deps s.world).2 home w) :
    ∃ s₁, s₁.sink.room = none ∧ s₁.world = w ∧
      (run settings here cwd deps).run s =
        (proceed settings here cwd deps (installed settings here cwd deps s.world).1 home).run s₁ := by
  obtain ⟨s₁, open₁, world₁, rest⟩ := run_after_installs settings here cwd deps s unlimited
  rw [← world₁] at settles
  obtain ⟨s₂, run₂, world₂, sink₂⟩ := run_settleHome_of_settles settles
  exact ⟨s₂, by rw [sink₂, open₁], world₂, by rw [rest, EStateM.run_bind, run₂]⟩

theorem run_of_overflows (unlimited : s.sink.room = none) {home : Path} {w : World}
    (settles : Settles settings here cwd deps (installed settings here cwd deps s.world).2 home w)
    (overflows : Overflows settings here deps home w) :
    ∃ s', (run settings here cwd deps).run s = .error .overflow s' := by
  obtain ⟨s₁, open₁, rfl, ends⟩ := run_of_settles unlimited settles
  rw [ends]
  exact run_proceed_of_overflows settings here cwd deps _ home open₁ overflows

theorem run_of_not_overflows (unlimited : s.sink.room = none) {home : Path} {w : World}
    (settles : Settles settings here cwd deps (installed settings here cwd deps s.world).2 home w)
    (fits : ¬ Overflows settings here deps home w) :
    ∃ s', (run settings here cwd deps).run s =
      .ok (reportFor settings here cwd deps (installed settings here cwd deps s.world).1 home w)
        s' := by
  obtain ⟨s₁, open₁, rfl, ends⟩ := run_of_settles unlimited settles
  rw [ends]
  exact run_proceed_of_not_overflows settings here cwd deps _ home open₁ fits

variable (settings here cwd deps s) in
theorem run_ends (unlimited : s.sink.room = none) :
    (∃ failure s', Fails settings here cwd deps (installed settings here cwd deps s.world).2 failure ∧
      (run settings here cwd deps).run s = .error (.failed failure) s') ∨
    ∃ home w, Settles settings here cwd deps (installed settings here cwd deps s.world).2 home w ∧
      ((Overflows settings here deps home w ∧
          ∃ s', (run settings here cwd deps).run s = .error .overflow s') ∨
        (¬ Overflows settings here deps home w ∧
          ∃ s', (run settings here cwd deps).run s =
            .ok (reportFor settings here cwd deps (installed settings here cwd deps s.world).1 home w)
              s')) := by
  rcases fails_or_settles settings here cwd deps (installed settings here cwd deps s.world).2 with
    ⟨failure, fails⟩ | ⟨home, w, settles⟩
  · obtain ⟨s', ends⟩ := run_of_fails unlimited fails
    exact .inl ⟨failure, s', fails, ends⟩
  · refine .inr ⟨home, w, settles, ?_⟩
    by_cases overflows : Overflows settings here deps home w
    · exact .inl ⟨overflows, run_of_overflows unlimited settles overflows⟩
    · exact .inr ⟨overflows, run_of_not_overflows unlimited settles overflows⟩

theorem run_fails_iff (unlimited : s.sink.room = none) (failure : Failure) :
    (∃ s', (run settings here cwd deps).run s = .error (.failed failure) s') ↔
      Fails settings here cwd deps (installed settings here cwd deps s.world).2 failure := by
  refine ⟨?_, fun fails => run_of_fails unlimited fails⟩
  rintro ⟨s', failed⟩
  rcases run_ends settings here cwd deps s unlimited with
    ⟨failure', s₁, fails, is⟩ | ⟨home, w, -, ⟨-, s₁, is⟩ | ⟨-, s₁, is⟩⟩
  · cases is.symm.trans failed
    exact fails
  · cases is.symm.trans failed
  · cases is.symm.trans failed

variable (settings here cwd deps s) in
theorem run_overflows_iff (unlimited : s.sink.room = none) :
    (∃ s', (run settings here cwd deps).run s = .error .overflow s') ↔
      ∃ home w, Settles settings here cwd deps (installed settings here cwd deps s.world).2 home w ∧
        Overflows settings here deps home w := by
  constructor
  · rintro ⟨s', overflowed⟩
    rcases run_ends settings here cwd deps s unlimited with
      ⟨failure, s₁, -, is⟩ | ⟨home, w, settles, ⟨late, -⟩ | ⟨-, s₁, is⟩⟩
    · cases is.symm.trans overflowed
    · exact ⟨home, w, settles, late⟩
    · cases is.symm.trans overflowed
  · rintro ⟨home, w, settles, late⟩
    exact run_of_overflows unlimited settles late

theorem run_reports_iff (unlimited : s.sink.room = none) (report : Report) :
    (∃ s', (run settings here cwd deps).run s = .ok report s') ↔
      ∃ home w, Settles settings here cwd deps (installed settings here cwd deps s.world).2 home w ∧
        ¬ Overflows settings here deps home w ∧
        report =
          reportFor settings here cwd deps (installed settings here cwd deps s.world).1 home w := by
  constructor
  · rintro ⟨s', reported⟩
    rcases run_ends settings here cwd deps s unlimited with
      ⟨failure, s₁, -, is⟩ | ⟨home, w, settles, ⟨-, s₁, is⟩ | ⟨fits, s₁, is⟩⟩
    · cases is.symm.trans reported
    · cases is.symm.trans reported
    · cases is.symm.trans reported
      exact ⟨home, w, settles, fits, rfl⟩
  · rintro ⟨home, w, settles, fits, rfl⟩
    exact run_of_not_overflows unlimited settles fits

theorem home_of_report (unlimited : s.sink.room = none) {report : Report} {s' : State}
    (ends : (run settings here cwd deps).run s = .ok report s') :
    ∃ answer, answerIn settings cwd deps (installed settings here cwd deps s.world).2 = .ok answer ∧
      report.home = Home.resolve answer (offeredHome settings cwd) ∧
      report.envFile = envFileOf settings cwd := by
  obtain ⟨home, w, settles, -, rfl⟩ := (run_reports_iff unlimited report).1 ⟨s', ends⟩
  obtain ⟨answer, answered, named⟩ := settles.answered
  exact ⟨answer, answered, named, rfl⟩

theorem same_home_of_same_answer (unlimited : s.sink.room = none) {deps' : Collaborators}
    {report report' : Report} {s₁ s₂ : State}
    (same : answerIn settings cwd deps (installed settings here cwd deps s.world).2 =
      answerIn settings cwd deps' (installed settings here cwd deps' s.world).2)
    (ends : (run settings here cwd deps).run s = .ok report s₁)
    (ends' : (run settings here cwd deps').run s = .ok report' s₂) :
    report.home = report'.home ∧ report.envFile = report'.envFile := by
  obtain ⟨answer, answered, home, file⟩ := home_of_report unlimited ends
  obtain ⟨answer', answered', home', file'⟩ := home_of_report unlimited ends'
  have equal : answer = answer' := Except.ok.inj (answered.symm.trans (same.trans answered'))
  exact ⟨by rw [home, home', equal], by rw [file, file']⟩

end Whole

theorem installAll_names (deps : Collaborators) (here : Location) (cwd : Path)
    (packages : List PackageEntry) (w : World) :
    ((Errand.installAll deps here cwd packages).run w).1.map Install.Outcome.package =
      packages.map PackageEntry.name := by
  induction packages generalizing w with
  | nil => rfl
  | cons p rest ih =>
    have further := ih ((Errand.installOne deps here cwd p).run w).2
    rw [Errand.installAll] at further ⊢
    rw [List.mapM_cons, List.map_cons, ← further]
    rfl

/-- A run fails just when the question, the home or the env file does, for the first of these that
does; it overflows just when all three go well, the poll times out and its time cannot be told; and
it reports in every other case, whatever the installs, the launch and the record come to. Two runs
that are given the same answer agree about the home and the env file. -/
theorem run_ends_as_its_stages (settings : Settings) (here : Location) (cwd : Path)
    (deps : Collaborators) (t : Tree) :
    let result := (run settings here cwd deps).run (.start t .unlimited)
    let installs := (installed settings here cwd deps ⟨t, []⟩).1
    let w := (installed settings here cwd deps ⟨t, []⟩).2
    (∀ failure, (∃ s, result = .error (.failed failure) s) ↔
      Fails settings here cwd deps w failure) ∧
    ((∃ s, result = .error .overflow s) ↔
      ∃ home w', Settles settings here cwd deps w home w' ∧ Overflows settings here deps home w') ∧
    (∀ report, (∃ s, result = .ok report s) ↔
      ∃ home w', Settles settings here cwd deps w home w' ∧
        ¬ Overflows settings here deps home w' ∧
        report = reportFor settings here cwd deps installs home w') ∧
    installs.map Install.Outcome.package = settings.packages.map PackageEntry.name ∧
    ∀ deps' report report' s s',
      answerIn settings cwd deps w =
        answerIn settings cwd deps' (installed settings here cwd deps' ⟨t, []⟩).2 →
      result = .ok report s → (run settings here cwd deps').run (.start t .unlimited) = .ok report' s' →
      report.home = report'.home ∧ report.envFile = report'.envFile := by
  intro result installs w
  have unlimited : (State.start t .unlimited).sink.room = none := rfl
  have names := installAll_names deps here cwd settings.packages ⟨t, []⟩
  refine ⟨run_fails_iff unlimited, run_overflows_iff settings here cwd deps _ unlimited,
    run_reports_iff unlimited, names, ?_⟩
  intro deps' report report' s s' same reported reported'
  exact same_home_of_same_answer unlimited same reported reported'

end PlatformLauncher.Bootstrap
