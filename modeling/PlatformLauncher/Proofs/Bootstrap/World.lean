import PlatformLauncher.Proofs.Bootstrap.Stages

/-!
Flows without their output. While the output takes everything, all that a flow does is to change the
world, which is the file tree and the history; an errand is a change of the world with an answer.
Main statements: `Mirrors.bind`, flows are put together as errands are, and `mirrors_installAll`,
`mirrors_startDaemon` and `mirrors_waitUntilReady`, none of these stages ends a run.
-/
namespace PlatformLauncher.Bootstrap

structure World where
  tree : Tree
  history : History

def State.world (s : State) : World := ⟨s.tree, s.history⟩

abbrev Errand := StateM World

namespace Errand

def note (e : Event) : Errand Unit := modify fun w => { w with history := e :: w.history }

def consult {α : Type} (e : Event) (ask : History → Tree → Reply α) : Errand α := do
  let w ← get
  let r := ask w.history w.tree
  set ({ tree := r.tree, history := e :: w.history } : World)
  pure r.answer

def statusOf : Except Failure Unit → Install.Status
  | .ok () => .installed
  | .error failure => .failed failure.inOneLine

def installOne (deps : Collaborators) (here : Location) (cwd : Path) (p : PackageEntry) :
    Errand Install.Outcome := do
  let source := Install.resolve (← get).tree here p cwd
  let request := Install.Request.plain p.name source
  let answer ← consult (.askedInstaller request) fun h t => deps.install h t request
  pure ⟨p.name, source, statusOf answer⟩

def installAll (deps : Collaborators) (here : Location) (cwd : Path)
    (packages : List PackageEntry) : Errand (List Install.Outcome) :=
  packages.mapM (installOne deps here cwd)

def recordPid (here : Location) (home : Path) (pid : Nat) : Errand Unit :=
  modify fun w =>
    match PidRecord.write w.tree here home pid with
    | .ok tree => ⟨tree, .recordedPid home pid :: w.history⟩
    | .error _ => w

def launch (deps : Collaborators) (here : Location) (home : Path) : Errand (Option Nat) := do
  let answer ← consult (.askedLauncher home) fun h t => deps.launch h t home
  match answer with
  | .ok pid =>
    recordPid here home pid
    pure (some pid)
  | .error _ => pure none

def poller (deps : Collaborators) (home : Path) : Poller Errand where
  announce _ := pure ()
  probe := consult .probed fun h t => deps.probe h t home
  sleep ms := note (.slept ms)

def waitUntilReady (deps : Collaborators) (settings : Settings) (home : Path) :
    Errand Readiness := do
  note (.builtProbe home)
  (poller deps home).poll (.ofSettings settings.poll)

end Errand

/-- While the output takes everything, the flow does what the errand does and gives its answer. -/
def Mirrors {α : Type} (m : Flow α) (q : Errand α) : Prop :=
  ∀ s : State, s.sink.room = none →
    ∃ s', m.run s = .ok (q.run s.world).1 s' ∧ s'.world = (q.run s.world).2 ∧ s'.sink.room = none

section Parts

variable {α β : Type}

theorem Mirrors.pure (a : α) : Mirrors (pure a) (pure a) := by
  intro s unlimited
  exact ⟨s, rfl, rfl, unlimited⟩

theorem Mirrors.bind {m : Flow α} {q : Errand α} {f : α → Flow β} {g : α → Errand β}
    (first : Mirrors m q) (next : ∀ a, Mirrors (f a) (g a)) : Mirrors (m >>= f) (q >>= g) := by
  intro s unlimited
  obtain ⟨s₁, run₁, world₁, open₁⟩ := first s unlimited
  obtain ⟨s₂, run₂, world₂, open₂⟩ := next (q.run s.world).1 s₁ open₁
  rw [world₁] at run₂ world₂
  refine ⟨s₂, ?_, world₂, open₂⟩
  rw [EStateM.run_bind, run₁]
  exact run₂

theorem Mirrors.look {f : State → Flow α} {g : World → Errand α}
    (next : ∀ s, Mirrors (f s) (g s.world)) : Mirrors (get >>= f) (get >>= g) :=
  fun s unlimited => next s s unlimited

theorem Mirrors.before {m : Flow Unit} {n : Flow α} {q : Errand α}
    (first : Mirrors m (Pure.pure ())) (next : Mirrors n q) : Mirrors (m >>= fun _ => n) q :=
  first.bind fun _ => next

theorem put_of_open {sink : Sink} (unlimited : sink.room = none) (o : Octets) :
    sink.put o = (⟨sink.accepted ++ o, none⟩, true) := by
  obtain ⟨accepted, room⟩ := sink
  cases unlimited
  rfl

theorem run_write_unlimited (text : Text) (t : Tree) (accepted complaints : Octets) (h : History) :
    (Flow.write text).run ⟨t, ⟨accepted, none⟩, complaints, h⟩ =
      .ok () ⟨t, ⟨accepted ++ Octets.encode text, none⟩, complaints, h⟩ := rfl

theorem mirrors_write (text : Text) : Mirrors (Flow.write text) (Pure.pure ()) := by
  intro s unlimited
  refine ⟨{ s with sink := ⟨s.sink.accepted ++ Octets.encode text, none⟩ }, ?_, rfl, rfl⟩
  simp [Flow.run_write, put_of_open unlimited]

theorem mirrors_writeLine (text : Text) : Mirrors (Flow.writeLine text) (Pure.pure ()) :=
  mirrors_write _

theorem mirrors_putQuestion (deps : Collaborators) (default : Path) :
    Mirrors (putQuestion deps default) (Pure.pure ()) := fun s => mirrors_write _ s

theorem mirrors_tryWrite (o : Octets) : Mirrors (Flow.tryWrite o) (Pure.pure ()) := by
  intro s unlimited
  refine ⟨{ s with sink := (s.sink.put o).1 }, rfl, rfl, ?_⟩
  simp [put_of_open unlimited]

theorem mirrors_note (e : Event) : Mirrors (Flow.note e) (Errand.note e) := by
  intro s unlimited
  exact ⟨{ s with history := e :: s.history }, rfl, rfl, unlimited⟩

theorem mirrors_consult (e : Event) (ask : History → Tree → Reply α) :
    Mirrors (Flow.consult e ask) (Errand.consult e ask) := by
  intro s unlimited
  refine ⟨_, rfl, rfl, ?_⟩
  simp [put_of_open unlimited]

end Parts

section Installing

variable (deps : Collaborators) (here : Location) (cwd : Path)

theorem mirrors_installOne (p : PackageEntry) :
    Mirrors (Install.installOne deps here cwd p) (Errand.installOne deps here cwd p) := by
  refine .look fun s => .before (mirrors_writeLine _) (.bind (mirrors_consult _ _) fun answer => ?_)
  cases answer with
  | ok _ => exact .pure _
  | error failure => exact .before (mirrors_writeLine _) (.pure _)

theorem mirrors_installAll (packages : List PackageEntry) :
    Mirrors (Install.installAll deps here cwd packages)
      (Errand.installAll deps here cwd packages) := by
  induction packages with
  | nil => exact .pure _
  | cons p rest ih =>
    rw [Errand.installAll, List.mapM_cons]
    exact .bind (mirrors_installOne deps here cwd p) fun _ => .bind ih fun _ => .pure _

theorem mirrors_installStage (settings : Settings) :
    Mirrors (installStage settings here cwd deps)
      (Errand.installAll deps here cwd settings.packages) :=
  .before (mirrors_writeLine _) (mirrors_installAll deps here cwd _)

theorem mirrors_opening (settings : Settings) :
    Mirrors (opening settings here cwd deps) (Errand.installAll deps here cwd settings.packages) := by
  rw [← bind_pure (Errand.installAll deps here cwd settings.packages)]
  exact .bind (mirrors_installStage deps here cwd settings) fun _ =>
    .before (mirrors_putQuestion deps _) (.pure _)

end Installing

section Daemon

variable (deps : Collaborators) (here : Location) (home : Path)

theorem mirrors_recordPid (pid : Nat) :
    Mirrors (recordPid here home pid) (Errand.recordPid here home pid) := by
  intro s unlimited
  cases h : PidRecord.write s.tree here home pid with
  | ok tree =>
    refine ⟨{ s with tree, history := .recordedPid home pid :: s.history }, ?_, ?_, unlimited⟩
    · simp [run_recordPid, h]
    · simp only [Errand.recordPid, State.world, StateT.run_modify, h]
      rfl
  | error fault =>
    refine ⟨s, ?_, ?_, unlimited⟩
    · simp [run_recordPid, h]
    · simp only [Errand.recordPid, State.world, StateT.run_modify, h]
      rfl

theorem mirrors_startDaemon :
    Mirrors (startDaemon deps here home) (Errand.launch deps here home) := by
  refine .bind (mirrors_consult _ _) fun answer => ?_
  cases answer with
  | ok pid =>
    exact .before (mirrors_writeLine _) (.bind (mirrors_recordPid here home pid) fun _ => .pure _)
  | error failure => exact .before (mirrors_writeLine _) (.pure _)

theorem mirrors_probe : Mirrors (poller deps home).probe (Errand.poller deps home).probe :=
  mirrors_consult .probed fun h t => deps.probe h t home

theorem mirrors_pause (policy : PollPolicy) (left : Nat) :
    Mirrors ((poller deps home).pause policy left) ((Errand.poller deps home).pause policy left) := by
  unfold Poller.pause
  split
  · exact mirrors_note _
  · exact .pure _

theorem mirrors_pollFrom (policy : PollPolicy) (left : Nat) :
    Mirrors ((poller deps home).pollFrom policy left)
      ((Errand.poller deps home).pollFrom policy left) := by
  induction left with
  | zero => exact .pure _
  | succ left ih =>
    rw [Poller.pollFrom_succ, Poller.pollFrom_succ]
    refine .bind (.bind (mirrors_tryWrite _) fun _ => mirrors_probe deps home) fun ready => ?_
    cases ready with
    | true => exact .pure _
    | false => exact .bind (mirrors_pause deps home policy left) fun _ => ih

theorem mirrors_waitUntilReady (settings : Settings) :
    Mirrors (waitUntilReady deps settings home) (Errand.waitUntilReady deps settings home) := by
  refine .bind (mirrors_note _) fun _ => .before (mirrors_write _) ?_
  rw [← bind_pure ((Errand.poller deps home).poll _)]
  exact .bind (mirrors_pollFrom deps home _ _) fun readiness =>
    .before (mirrors_writeLine []) (.pure readiness)

end Daemon

theorem mirrors_guidance (lines : List Text) :
    Mirrors (lines.forM Flow.writeLine) (Pure.pure ()) := by
  induction lines with
  | nil => exact .pure _
  | cons line rest ih => exact .before (mirrors_writeLine line) ih

end PlatformLauncher.Bootstrap
