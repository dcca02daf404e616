import PlatformLauncher.Proofs.Bootstrap.PollTrace
import PlatformLauncher.Proofs.Settings.Layering

/-!
Runs with settings that a load has let through. They poll at least once, so that a run that comes to
its poll asks the probe, and never tells of a poll without attempts. Main statement:
`load_gates_run`.
-/
namespace PlatformLauncher.Bootstrap

inductive Counted (attempts : Nat) : Readiness → Prop
  | ready {n : Nat} (positive : 1 ≤ n) (within : n ≤ attempts) : Counted attempts (.ready n)
  | timedOut : Counted attempts (.timedOut attempts)

theorem Counted.ne_timedOut_zero {attempts : Nat} {r : Readiness} (counted : Counted attempts r)
    (positive : 1 ≤ attempts) : r ≠ .timedOut 0 := by
  rintro rfl
  cases counted
  exact absurd positive (by decide)

section Attempting

variable (deps : Collaborators) (home : Path) (policy : PollPolicy)

def probedOnce (s : State) : State :=
  let reply := deps.probe s.history s.tree home
  { tree := reply.tree
    sink := ((s.sink.put (Octets.encode ['.'])).1.put reply.printed).1
    complaints := s.complaints ++ reply.complained
    history := .probed :: s.history }

theorem run_pollFrom_step (left : Nat) (s : State) :
    ((poller deps home).pollFrom policy (left + 1)).run s =
      if (deps.probe s.history s.tree home).answer then
        .ok (.ready (policy.attempts - left)) (probedOnce deps home s)
      else ((poller deps home).pollFrom policy left).run
        (if 0 < left then
          { probedOnce deps home s with history := .slept policy.interval :: .probed :: s.history }
        else probedOnce deps home s) := by
  have attempted : ((poller deps home).attempt (policy.attempts - left)).run s =
      .ok (deps.probe s.history s.tree home).answer (probedOnce deps home s) := rfl
  rw [run_pollFrom_of_attempt attempted, Poller.pause]
  split
  · rfl
  · split <;> rfl

theorem run_pollFrom_probes {left : Nat} (within : left < policy.attempts) (s : State) :
    ∃ r s', ((poller deps home).pollFrom policy (left + 1)).run s = .ok r s' ∧
      .probed :: s.history <:+ s'.history ∧ Counted policy.attempts r := by
  induction left generalizing s with
  | zero =>
    rw [run_pollFrom_step]
    split
    · exact ⟨_, _, rfl, List.suffix_rfl, .ready within (Nat.sub_le _ _)⟩
    · exact ⟨_, _, rfl, List.suffix_rfl, .timedOut⟩
  | succ left ih =>
    rw [run_pollFrom_step]
    split
    · exact ⟨_, _, rfl, List.suffix_rfl, .ready (by omega) (Nat.sub_le _ _)⟩
    · rw [if_pos (Nat.succ_pos left)]
      obtain ⟨r, s', polled, kept, counted⟩ := ih (Nat.lt_of_succ_lt within)
        { probedOnce deps home s with history := .slept policy.interval :: .probed :: s.history }
      have pause : .probed :: s.history <:+ .probed :: .slept policy.interval :: .probed :: s.history :=
        ⟨[.probed, .slept policy.interval], rfl⟩
      exact ⟨r, s', polled, pause.trans kept, counted⟩

theorem run_poll_probes (positive : 1 ≤ policy.attempts) (s : State) :
    ∃ r s', ((poller deps home).poll policy).run s = .ok r s' ∧
      .probed :: s.history <:+ s'.history ∧ Counted policy.attempts r := by
  obtain ⟨left, attempts⟩ := Nat.exists_eq_add_of_le' positive
  have within : left < policy.attempts := by omega
  have probes := run_pollFrom_probes deps home policy within s
  rwa [← attempts] at probes

end Attempting

section Whole

variable (settings : Settings) (here : Location) (cwd : Path) (deps : Collaborators)

def untilAttempts : Flow (List Install.Outcome × Path × Option Nat) := do
  let (installs, home, pid) ← untilPoll settings here cwd deps
  Flow.note (.builtProbe home)
  Flow.write "Waiting for VOLTTRON to become ready".toList
  pure (installs, home, pid)

def afterAttempts (installs : List Install.Outcome) (home : Path) (pid : Option Nat)
    (readiness : Readiness) : Flow Report := do
  Flow.writeLine []
  afterPoll settings cwd installs home pid readiness

theorem run_eq_attempts :
    run settings here cwd deps = (do
      let (installs, home, pid) ← untilAttempts settings here cwd deps
      let readiness ← (poller deps home).poll (.ofSettings settings.poll)
      afterAttempts settings cwd installs home pid readiness) := by
  simp only [run_eq_poll, untilAttempts, afterAttempts, waitUntilReady, bind_assoc, pure_bind]

theorem keeps_history_afterAttempts (installs : List Install.Outcome) (home : Path)
    (pid : Option Nat) (readiness : Readiness) :
    Keeps State.history (afterAttempts settings cwd installs home pid readiness) := by
  have deaf (s : State) (k : Sink) : { s with sink := k }.history = s.history := rfl
  exact .bind (keeps_writeLine deaf _) fun _ => .bind (keeps_reportReadiness deaf _ _) fun _ =>
    .bind (keeps_lines deaf _) fun _ => .pure _

theorem readiness_of_afterAttempts {installs : List Install.Outcome} {home : Path} {pid : Option Nat}
    {readiness : Readiness} {s s' : State} {report : Report}
    (reported : (afterAttempts settings cwd installs home pid readiness).run s = .ok report s') :
    report.readiness = readiness := by
  obtain ⟨_, _, -, rest⟩ := Flow.bind_ok reported
  obtain ⟨_, _, -, rest⟩ := Flow.bind_ok rest
  obtain ⟨_, _, -, rest⟩ := Flow.bind_ok rest
  cases rest
  rfl

variable {settings here cwd deps}

theorem history_of_reached (positive : 1 ≤ settings.poll.attempts.toNat) {s s₁ : State}
    {reached : List Install.Outcome × Path × Option Nat}
    (reaches : (untilAttempts settings here cwd deps).run s = .ok reached s₁) :
    .probed :: s₁.history <:+ (endOf ((run settings here cwd deps).run s)).history := by
  obtain ⟨installs, home, pid⟩ := reached
  obtain ⟨r, s₂, polled, probes, -⟩ := run_poll_probes deps home (.ofSettings settings.poll) positive s₁
  have kept := keeps_history_afterAttempts settings cwd installs home pid r s₂
  rw [run_eq_attempts, EStateM.run_bind, reaches]
  dsimp only
  rw [EStateM.run_bind, polled]
  dsimp only
  rw [kept]
  exact probes

theorem counted_of_report (positive : 1 ≤ settings.poll.attempts.toNat) {s s' : State} {report : Report}
    (reported : (run settings here cwd deps).run s = .ok report s') :
    Counted settings.poll.attempts.toNat report.readiness := by
  rw [run_eq_attempts] at reported
  obtain ⟨⟨installs, home, pid⟩, s₁, -, rest⟩ := Flow.bind_ok reported
  obtain ⟨r, s₂, polled, -, counted⟩ := run_poll_probes deps home (.ofSettings settings.poll) positive s₁
  obtain ⟨r', s₂', polled', rest⟩ := Flow.bind_ok rest
  cases polled.symm.trans polled'
  rw [readiness_of_afterAttempts settings cwd rest]
  exact counted

end Whole

section Loaded

open Settings

/-- A load gives just the admissible settings that its layers make up. Of others it tells the first
flaw, and it refuses settings for nothing else. With settings that it gives, every run that comes to its
poll asks the probe, and no run reports a poll in vain without an attempt. -/
theorem load_gates_run (t : Tree) (here : Location) (file : Option SettingsFile)
    (environment : List (Text × Text)) :
    let loaded := loadFrom t here file environment
    let refused m := loaded = .error (.launcher (.invalidConfig m))
    (∀ c, loaded = .ok c ↔ Merges t here file environment c ∧ c.Admissible) ∧
      (∀ c, Merges t here file environment c →
        ((∃ m, refused m) ↔ ¬ c.Admissible) ∧
        ∀ m, refused m ↔ ∃ flaw, c.FirstFlaw flaw ∧ flaw.message = m) ∧
      (∀ m, refused m → ∃ c, Merges t here file environment c) ∧
      ∀ c, loaded = .ok c → ∀ here cwd deps s,
        (∀ reached s₁, (untilAttempts c here cwd deps).run s = .ok reached s₁ →
          .probed :: s₁.history <:+ (endOf ((run c here cwd deps).run s)).history) ∧
        ∀ report s', (run c here cwd deps).run s = .ok report s' →
          report.readiness ≠ .timedOut 0 ∧ Counted c.poll.attempts.toNat report.readiness := by
  intro loaded refused
  refine ⟨fun c => loadFrom_eq_ok_iff, fun c merges => ?_, fun m refuses => ?_, fun c accepted => ?_⟩
  · have checks : loaded = checked c := loadFrom_of_merges merges
    have told (m : Text) : refused m ↔ ∃ flaw, c.FirstFlaw flaw ∧ flaw.message = m := by
      change loaded = _ ↔ _
      rw [checks, checked_eq_error_iff]
      simp only [Failure.launcher.injEq, LauncherError.invalidConfig.injEq, eq_comm]
    refine ⟨?_, told⟩
    simp only [told, ← flaw?_eq_none_iff_admissible, ← flaw?_eq_some_iff]
    cases c.flaw? <;> simp
  · obtain ⟨c, flaw, merges, -⟩ := loadFrom_eq_invalid_iff.1 refuses
    exact ⟨c, merges⟩
  · have positive : 1 ≤ c.poll.attempts.toNat := (loadFrom_eq_ok_iff.1 accepted).2.attempts
    intro here cwd deps s
    refine ⟨fun reached s₁ reaches => history_of_reached positive reaches, fun report s' reported => ?_⟩
    have counted := counted_of_report positive reported
    exact ⟨counted.ne_timedOut_zero positive, counted⟩

def unnamedPackage : Tree where
  entries :=
    [(["w".toList], .directory),
      (["c.toml".toList, "w".toList],
        .file (Octets.encode
          "[[packages]]\nname = \"a\"\n\n[[packages]]\nname = \"\u00a0\"\n".toList))]
  sealed_ := []

def blankInstaller : List (Text × Text) :=
  [("VOLTTRON_BOOTSTRAP__INSTALLER__PROGRAM".toList, " ".toList)]

def twiceFlawed : Settings :=
  { standard with
    packages := [⟨"a".toList, none⟩, ⟨"\u00a0".toList, none⟩]
    installer := ⟨" ".toList, ["install".toList]⟩ }

theorem merges_twiceFlawed :
    Merges unnamedPackage ["w".toList] (some ⟨"c.toml".toList, true⟩) blankInstaller twiceFlawed := by
  have made : ((fileLayer unnamedPackage ["w".toList] ⟨"c.toml".toList, true⟩).toOption.bind fun layer =>
      (merged layer (Environment.layer blankInstaller)).decode.toOption) = some twiceFlawed := by
    decide +kernel
  obtain ⟨layer, holds, decoded⟩ := Option.bind_eq_some_iff.1 made
  exact ⟨layer, .named (fun _ => by decide +kernel) (eq_ok_of_toOption holds), eq_ok_of_toOption decoded⟩

theorem load_gates_run_of_flaws :
    let once : Settings := { standard with poll := ⟨1, 1000⟩ }
    let result := (run once ["w".toList] "/w".toList sluggish).run (.start workedIn .unlimited)
    loadFrom unnamedPackage ["w".toList] (some ⟨"c.toml".toList, true⟩) blankInstaller =
        .error (.launcher (.invalidConfig "package entry with empty name (local_dir: None)".toList)) ∧
      ¬ twiceFlawed.Admissible ∧
      loadFrom ⟨[], []⟩ [] none [("VOLTTRON_BOOTSTRAP__POLL__ATTEMPTS".toList, "on".toList)] = .ok once ∧
      (∃ reached s₁,
        (untilAttempts once ["w".toList] "/w".toList sluggish).run (.start workedIn .unlimited) =
            .ok reached s₁ ∧ .probed :: s₁.history <:+ (endOf result).history) ∧
      ∃ report s', result = .ok report s' ∧ report.readiness = .timedOut 1 ∧
        report.readiness ≠ .timedOut 0 := by
  intro once result
  obtain ⟨-, gate, -, -⟩ := load_gates_run unnamedPackage ["w".toList]
    (some ⟨"c.toml".toList, true⟩) blankInstaller
  obtain ⟨flawed, told⟩ := gate twiceFlawed merges_twiceFlawed
  have first : twiceFlawed.FirstFlaw (.blankPackage none) := flaw?_eq_some_iff.1 (by decide +kernel)
  have refused := (told _).2 ⟨_, first, rfl⟩
  have loaded : loadFrom ⟨[], []⟩ [] none
      [("VOLTTRON_BOOTSTRAP__POLL__ATTEMPTS".toList, "on".toList)] = .ok once := by
    decide +kernel
  obtain ⟨-, -, -, runs⟩ := load_gates_run ⟨[], []⟩ [] none
    [("VOLTTRON_BOOTSTRAP__POLL__ATTEMPTS".toList, "on".toList)]
  obtain ⟨asks, reports⟩ := runs once loaded ["w".toList] "/w".toList sluggish (.start workedIn .unlimited)
  have comes : (answerOf? ((untilAttempts once ["w".toList] "/w".toList sluggish).run
      (.start workedIn .unlimited))).isSome = true := by decide +kernel
  obtain ⟨reached, comes⟩ := Option.isSome_iff_exists.1 comes
  have vain : (answerOf? result).map Report.readiness = some (.timedOut 1) := by decide +kernel
  obtain ⟨report, answered, late⟩ := Option.map_eq_some_iff.1 vain
  have arrives := eq_ok_of_answerOf? comes
  have reported : result = .ok report (endOf result) := eq_ok_of_answerOf? answered
  exact ⟨refused, flawed.1 ⟨_, refused⟩, loaded, ⟨reached, _, arrives, asks _ _ arrives⟩,
    report, _, reported, late, (reports _ _ reported).1⟩

end Loaded

end PlatformLauncher.Bootstrap
