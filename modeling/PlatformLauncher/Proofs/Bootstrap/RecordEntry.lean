import PlatformLauncher.Proofs.Bootstrap.Course
import PlatformLauncher.Proofs.Bootstrap.DaemonRecord
import PlatformLauncher.Proofs.Tree.Growth

/-!
What a bootstrap does to the record in its home. The home is made and the env file written before the
daemon is started, and neither of them brings a record to light or spoils it, unless a step up follows
what is made on the way to the home, or the env file is the record. Main statements:
`recorded?_of_started` and `filed?_of_not_started`.
-/
namespace PlatformLauncher

namespace PidRecord

def filed? (t : Tree) (here : Location) (home : Path) : Option (Location × Entry) :=
  (t.status here (file home)).toOption

section Entries

variable {t t' : Tree} {here there : Location} {home : Path}

theorem recorded?_eq (t : Tree) (here : Location) (home : Path) :
    recorded? t here home =
      (filed? t here home).bind fun found =>
        match found.2 with
        | .file content => (Octets.decode? content).bind fun text => (parse text).toOption
        | _ => none := by
  unfold recorded? filed? read Tree.readText Tree.read Tree.exists_
  cases t.status here (file home) with
  | error fault => rfl
  | ok found =>
    obtain ⟨place, e⟩ := found
    cases e with
    | directory => rfl
    | link target => rfl
    | file content =>
      change Except.toOption _ = (Octets.decode? content).bind fun text => (parse text).toOption
      cases h : Octets.decode? content with
      | none => simp [h, Except.toOption]
      | some text => cases parsed : parse text <;> simp [h, parsed, Except.toOption]

theorem recorded?_congr (same : filed? t' there home = filed? t here home) :
    recorded? t' there home = recorded? t here home := by
  rw [recorded?_eq, recorded?_eq, same]

theorem recorded?_of_filed?_none (nothing : filed? t here home = none) :
    recorded? t here home = none := by
  rw [recorded?_eq, nothing]
  rfl

theorem filed?_of_isAbsolute (absolute : Path.isAbsolute home = true) (t : Tree)
    (here there : Location) : filed? t here home = filed? t there home := by
  have absolute' : Path.isAbsolute (file home) = true :=
    (Path.isAbsolute_join (by decide)).trans absolute
  unfold filed? Tree.status Tree.locate Tree.start
  rw [absolute']
  rfl

theorem filed?_of_cleanup (e : cleanup t here home = .ok t') : filed? t' here home = none := by
  unfold cleanup at e
  split at e
  · split at e
    · next removed =>
      cases e
      obtain ⟨fault, gone⟩ := Tree.status_of_remove removed
      rw [filed?, gone]
      rfl
    · cases e
  · next absent =>
    cases e
    unfold Tree.exists_ at absent
    unfold filed?
    cases h : t.status here (file home) with
    | error fault => rfl
    | ok found =>
      rw [h] at absent
      exact absurd rfl absent

end Entries

end PidRecord

namespace Bootstrap

open PidRecord (filed?)

section Settling

variable {t t' : Tree} {here : Location} {home envFile : Path}

theorem filed?_of_makeDirectories (grounded : t.Grounded here home) :
    filed? (t.makeDirectories here home).1 here home = filed? t here home :=
  Tree.status_of_makeDirectories grounded "bootstrap.pid".toList rfl (by decide) (by decide)

theorem filed?_of_envFile_write (saved : EnvFile.write t here envFile home = .ok t')
    (apart : ¬ t'.SameFile here (PidRecord.file home) envFile) :
    filed? t' here home = filed? t here home := by
  obtain ⟨l, slot, rfl, written⟩ := Tree.status_of_write (envFile_write_ok saved)
  refine Tree.status_put_apart slot fun old leads => apart ⟨l, old, leads, ?_⟩
  rw [written, Except.ok.injEq, Prod.mk.injEq]
  exact ⟨rfl, Option.some.inj
    ((Tree.get?_of_status_file written).symm.trans (Tree.get?_of_status_file leads))⟩

end Settling

section Daemon

variable {settings : Settings} {here : Location} {cwd : Path} {deps : Collaborators} {home : Path}
  {t : Tree}

variable (settings here cwd deps t) in
def startedDaemon : Option Nat :=
  match (untilLaunch settings here cwd deps).run (.start t .unlimited) with
  | .ok settled s => (deps.launch s.history s.tree settled.2).answer.toOption
  | .error _ _ => none

theorem launch_tree (w : World) :
    ((Errand.launch deps here home).run w).2.tree =
      (deps.launch w.history w.tree home).answer.toOption.elim
        (deps.launch w.history w.tree home).tree
        (recordedTree (deps.launch w.history w.tree home).tree here home) := by
  cases answered : (deps.launch w.history w.tree home).answer with
  | error failure =>
    simp [Errand.launch, Errand.consult, answered]
    rfl
  | ok pid =>
    change _ = recordedTree (deps.launch w.history w.tree home).tree here home pid
    unfold recordedTree
    cases written : PidRecord.write (deps.launch w.history w.tree home).tree here home pid with
    | error failure =>
      simp [Errand.launch, Errand.consult, Errand.recordPid, answered, written]
      rfl
    | ok tree =>
      simp [Errand.launch, Errand.consult, Errand.recordPid, answered, written]
      rfl

theorem startedDaemon_of_fails {failure : Failure}
    (fails : Fails settings here cwd deps (installed settings here cwd deps ⟨t, []⟩).2 failure) :
    startedDaemon settings here cwd deps t = none := by
  obtain ⟨s₁, opened, world, -⟩ := mirrors_opening deps here cwd settings (.start t .unlimited) rfl
  have world₁ : s₁.world = (installed settings here cwd deps ⟨t, []⟩).2 := world
  rw [← world₁] at fails
  obtain ⟨s₂, failed⟩ := run_settleHome_of_fails fails
  simp only [startedDaemon, untilLaunch, EStateM.run_bind, opened, failed]

theorem startedDaemon_of_settles {v : World}
    (settles : Settles settings here cwd deps (installed settings here cwd deps ⟨t, []⟩).2 home v) :
    startedDaemon settings here cwd deps t =
      (deps.launch v.history v.tree home).answer.toOption := by
  obtain ⟨s₁, opened, world, open₁⟩ :=
    mirrors_opening deps here cwd settings (.start t .unlimited) rfl
  have world₁ : s₁.world = (installed settings here cwd deps ⟨t, []⟩).2 := world
  rw [← world₁] at settles
  obtain ⟨s₂, settled, rfl, sink₂⟩ := run_settleHome_of_settles settles
  obtain ⟨s₃, announced, world₃, -⟩ :=
    mirrors_announceHome settings cwd home s₂ (by rw [sink₂, open₁])
  simp only [startedDaemon, untilLaunch, EStateM.run_bind, opened, settled, announced,
    EStateM.run_pure]
  have same : s₃.world = s₂.world := world₃
  rw [show s₃.history = s₂.history from congrArg World.history same,
    show s₃.tree = s₂.tree from congrArg World.tree same]
  rfl

variable (settings here cwd deps home t) in
/-- A bootstrap on this home in which nobody else has to do with the record: the env file is another
file, and those outside leave the record as they find it. A number that the launcher answers with can
be recorded; where no daemon is started, no step up follows what is made on the way to the home. -/
structure Serves : Prop where
  installs : filed? (installed settings here cwd deps ⟨t, []⟩).2.tree here home = filed? t here home
  named : ∀ {answer},
    answerIn settings cwd deps (installed settings here cwd deps ⟨t, []⟩).2 = .ok answer →
      Home.resolve answer (offeredHome settings cwd) = home
  grounded : startedDaemon settings here cwd deps t = none → ∀ {answer},
    answerIn settings cwd deps (installed settings here cwd deps ⟨t, []⟩).2 = .ok answer →
      (installed settings here cwd deps ⟨t, []⟩).2.tree.Grounded here home
  apart : ∀ {v}, Settles settings here cwd deps (installed settings here cwd deps ⟨t, []⟩).2 home v →
    ¬ v.tree.SameFile here (PidRecord.file home) (envFileOf settings cwd)
  launch : ∀ {v}, Settles settings here cwd deps (installed settings here cwd deps ⟨t, []⟩).2 home v →
    filed? (deps.launch v.history v.tree home).tree here home = filed? v.tree here home
  recordable : ∀ {v pid},
    Settles settings here cwd deps (installed settings here cwd deps ⟨t, []⟩).2 home v →
      (deps.launch v.history v.tree home).answer = .ok pid →
      pid ≤ PidRecord.most ∧
        ∃ t', PidRecord.write (deps.launch v.history v.tree home).tree here home pid = .ok t'
  probes : ∀ {v}, Settles settings here cwd deps (installed settings here cwd deps ⟨t, []⟩).2 home v →
    let launched := ((Errand.launch deps here home).run v).2
    filed? ((Errand.waitUntilReady deps settings home).run launched).2.tree here home =
      filed? launched.tree here home

namespace Serves

theorem chosen {answer : Option Text} (serves : Serves settings here cwd deps home t)
    (answered : answerIn settings cwd deps (installed settings here cwd deps ⟨t, []⟩).2 = .ok answer) :
    chosenHome settings cwd deps (installed settings here cwd deps ⟨t, []⟩).2 = home := by
  rw [chosenHome, answered]
  exact serves.named answered

theorem home_of_settles {home' : Path} {v : World} (serves : Serves settings here cwd deps home t)
    (settles : Settles settings here cwd deps (installed settings here cwd deps ⟨t, []⟩).2 home' v) :
    home' = home := by
  obtain ⟨answer, answered, -⟩ := settles.answered
  exact settles.home_eq.trans (serves.chosen answered)

theorem filed?_of_settles {v : World} (serves : Serves settings here cwd deps home t)
    (idle : startedDaemon settings here cwd deps t = none)
    (settles : Settles settings here cwd deps (installed settings here cwd deps ⟨t, []⟩).2 home v) :
    filed? v.tree here home = filed? t here home := by
  obtain ⟨answer, answered, -⟩ := settles.answered
  have saved := settles.saved
  rw [show (Home.ensure _ here home).1 = _ from rfl] at saved
  calc
    filed? v.tree here home = _ := filed?_of_envFile_write saved (serves.apart settles)
    _ = _ := filed?_of_makeDirectories (serves.grounded idle answered)
    _ = _ := serves.installs

theorem filed?_of_fails {failure : Failure} (serves : Serves settings here cwd deps home t)
    (fails : Fails settings here cwd deps (installed settings here cwd deps ⟨t, []⟩).2 failure) :
    filed? (endOf ((run settings here cwd deps).run (.start t .unlimited))).tree here home =
      filed? t here home := by
  have idle := startedDaemon_of_fails fails
  obtain ⟨s₁, -, world₁, rest⟩ := run_after_installs settings here cwd deps (.start t .unlimited) rfl
  have world : s₁.world = (installed settings here cwd deps ⟨t, []⟩).2 := world₁
  rw [← world] at fails
  obtain ⟨s₂, failed⟩ := run_settleHome_of_fails fails
  rw [rest, EStateM.run_bind, failed]
  change filed? s₂.tree here home = _
  have asked : filed? s₁.tree here home = filed? t here home := by
    rw [show s₁.tree = _ from congrArg World.tree world]
    exact serves.installs
  rcases tree_of_settleHome_error failed with same | ⟨⟨answer, answered⟩, made⟩
  · rw [same, asked]
  · rw [world] at answered made
    rw [made, serves.chosen answered, ← asked]
    refine filed?_of_makeDirectories ?_
    rw [show s₁.tree = _ from congrArg World.tree world]
    exact serves.grounded idle answered

theorem filed?_of_launch {v : World} (serves : Serves settings here cwd deps home t)
    (settles : Settles settings here cwd deps (installed settings here cwd deps ⟨t, []⟩).2 home v) :
    filed? (endOf ((run settings here cwd deps).run (.start t .unlimited))).tree here home =
      filed? ((Errand.launch deps here home).run v).2.tree here home := by
  obtain ⟨s₁, open₁, rfl, ends⟩ := run_of_settles (s := .start t .unlimited) rfl settles
  have world := world_of_proceed settings here cwd deps open₁
    (installed settings here cwd deps ⟨t, []⟩).1 home
  rw [ends]
  exact (congrArg (fun w : World => filed? w.tree here home) world).trans (serves.probes settles)

end Serves

theorem filed?_of_not_started (serves : Serves settings here cwd deps home t)
    (idle : startedDaemon settings here cwd deps t = none) :
    filed? (endOf ((run settings here cwd deps).run (.start t .unlimited))).tree here home =
      filed? t here home := by
  rcases fails_or_settles settings here cwd deps (installed settings here cwd deps ⟨t, []⟩).2 with
    ⟨failure, fails⟩ | ⟨home', v, settles⟩
  · exact serves.filed?_of_fails fails
  obtain rfl := serves.home_of_settles settles
  have settled := serves.filed?_of_settles idle settles
  have silent : (deps.launch v.history v.tree home').answer.toOption = none :=
    (startedDaemon_of_settles settles).symm.trans idle
  rw [serves.filed?_of_launch settles, launch_tree, silent]
  exact (serves.launch settles).trans settled

theorem recorded?_of_started {pid : Nat} (serves : Serves settings here cwd deps home t)
    (started : startedDaemon settings here cwd deps t = some pid) :
    PidRecord.recorded? (endOf ((run settings here cwd deps).run (.start t .unlimited))).tree here
      home = some pid := by
  rcases fails_or_settles settings here cwd deps (installed settings here cwd deps ⟨t, []⟩).2 with
    ⟨failure, fails⟩ | ⟨home', v, settles⟩
  · cases (startedDaemon_of_fails fails).symm.trans started
  obtain rfl := serves.home_of_settles settles
  have told : (deps.launch v.history v.tree home').answer.toOption = some pid :=
    (startedDaemon_of_settles settles).symm.trans started
  have answered : (deps.launch v.history v.tree home').answer = .ok pid := by
    cases answer : (deps.launch v.history v.tree home').answer with
    | error failure => rw [answer] at told; cases told
    | ok pid' => rw [answer] at told; cases told; rfl
  obtain ⟨fits, t', written⟩ := serves.recordable settles answered
  have recorded : ((Errand.launch deps here home').run v).2.tree = t' := by
    rw [launch_tree, told, Option.elim_some, recordedTree, written]
  rw [PidRecord.recorded?_congr (serves.filed?_of_launch settles), recorded]
  exact recorded?_of_write written fits

theorem waitUntilReady_tree (leave : deps.LeaveTree) (w : World) :
    ((Errand.waitUntilReady deps settings home).run w).2.tree = w.tree := by
  obtain ⟨s, waited, world, -⟩ :=
    mirrors_waitUntilReady deps home settings ⟨w.tree, .unlimited, [], w.history⟩ rfl
  have tree := (keepsTree_waitUntilReady leave home).of_ok waited
  exact (congrArg World.tree world).symm.trans tree

theorem serves_of_untilLaunch {installs : List Install.Outcome} {s : State} (keep : deps.KeepTree)
    (came : (untilLaunch settings here cwd deps).run (.start t .unlimited) =
      .ok (installs, home) s)
    (grounded : startedDaemon settings here cwd deps t = none → t.Grounded here home)
    (apart : ¬ s.tree.SameFile here (PidRecord.file home) (envFileOf settings cwd))
    (recordable : ∀ pid, (deps.launch s.history s.tree home).answer = .ok pid →
      pid ≤ PidRecord.most ∧ ∃ t', PidRecord.write s.tree here home pid = .ok t') :
    Serves settings here cwd deps home t := by
  have asked : (installed settings here cwd deps ⟨t, []⟩).2.tree = t := installed_tree keep t
  have settled : Settles settings here cwd deps (installed settings here cwd deps ⟨t, []⟩).2 home
      s.world := untilLaunch_ok came
  constructor
  · rw [asked]
  · intro answer answered
    obtain ⟨answer', answered', named⟩ := settled.answered
    cases answered.symm.trans answered'
    exact named.symm
  · intro idle answer answered
    rw [asked]
    exact grounded idle
  · intro v settles
    obtain ⟨-, rfl⟩ := settled.unique settles
    exact apart
  · intro v settles
    rw [keep.launch]
  · intro v pid settles answered
    obtain ⟨-, rfl⟩ := settled.unique settles
    rw [keep.launch]
    exact recordable pid answered
  · intro v settles
    dsimp only
    rw [waitUntilReady_tree keep.toLeaveTree]

end Daemon

end Bootstrap

end PlatformLauncher
