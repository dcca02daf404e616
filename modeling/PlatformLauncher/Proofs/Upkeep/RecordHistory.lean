import PlatformLauncher.Proofs.Bootstrap.RecordEntry
import PlatformLauncher.Upkeep

/-!
The record of the daemon over any sequence of bootstraps, stops and questions about the status. Each
of these jobs starts a daemon, or ends one, or is idle with regard to the record; the last one that is
not idle decides what the record is. Main statements: `marks_of_serves`, what one job does to the
record, and `record_after_jobs`.
-/
namespace PlatformLauncher.Upkeep

open Bootstrap
open PidRecord (filed?)

section Steps

variable {scene : Scene} {settings : Settings} {named : Option Path} {home : Path} {s : State}

theorem run_receive {α : Type} (r : Reply α) (s : State) :
    (Flow.receive r).run s =
      .ok r.answer { s with
        tree := r.tree
        sink := (s.sink.put r.printed).1
        complaints := s.complaints ++ r.complained } := rfl

theorem run_change (f : Tree → Except Failure Tree) (s : State) :
    (Flow.change f).run s =
      match f s.tree with
      | .ok t => .ok () { s with tree := t }
      | .error e => .error (.failed e) s := by
  simp only [Flow.change, EStateM.run_bind, EStateM.run_get]
  cases f s.tree <;> rfl

def locatedHome (scene : Scene) (settings : Settings) (named : Option Path) (t : Tree) :
    Except Failure (Option Path) :=
  Home.locate t scene.here named scene.home? (Path.join scene.cwd settings.home.envFile)

theorem run_locateHome_of_found (located : locatedHome scene settings named s.tree = .ok (some home)) :
    (locateHome scene settings named).run s = .ok home s := by
  unfold locatedHome at located
  simp only [locateHome, EStateM.run_bind, EStateM.run_get, located]
  rfl

theorem run_locateHome_of_lost
    (lost : ∀ home, locatedHome scene settings named s.tree ≠ .ok (some home)) :
    ∃ e, (locateHome scene settings named).run s = .error e s := by
  unfold locatedHome at lost
  simp only [locateHome, EStateM.run_bind, EStateM.run_get]
  split
  · next home located => exact absurd located (lost home)
  · exact ⟨_, rfl⟩
  · exact ⟨_, rfl⟩

variable {shutdown : Tree → Path → Reply (Except Failure Unit)}

variable (shutdown) in
theorem run_stop_of_found (unlimited : s.sink.room = none)
    (located : locatedHome scene settings named s.tree = .ok (some home)) :
    ∃ s₁, s₁.sink.room = none ∧ s₁.tree = (shutdown s.tree home).tree ∧
      (stop scene shutdown settings named).run s =
        (match (shutdown s.tree home).answer with
          | .ok () => do
            Flow.change fun t => PidRecord.cleanup t scene.here home
            Flow.writeLine (Advice.green ['✓'] ++ " Shutdown requested".toList)
          | .error failure => Flow.fail failure : Flow Unit).run s₁ := by
  obtain ⟨s₁, said, world, open₁⟩ := mirrors_writeLine
    ("Stopping VOLTTRON (".toList ++ settings.shutdown.display ++ ")...".toList) s unlimited
  have same : s₁.world = s.world := world
  have tree : s₁.tree = s.tree := congrArg World.tree same
  let r := shutdown s.tree home
  refine ⟨⟨r.tree, (s₁.sink.put r.printed).1, s₁.complaints ++ r.complained, s₁.history⟩, ?_, rfl, ?_⟩
  · simp [put_of_open open₁]
  · simp only [stop, EStateM.run_bind, run_locateHome_of_found located, said, EStateM.run_get, tree,
      run_receive]
    rfl

theorem run_stop_of_refused {failure : Failure} (unlimited : s.sink.room = none)
    (located : locatedHome scene settings named s.tree = .ok (some home))
    (refused : (shutdown s.tree home).answer = .error failure) :
    ∃ e s', (stop scene shutdown settings named).run s = .error e s' ∧
      s'.tree = (shutdown s.tree home).tree := by
  obtain ⟨s₁, -, tree, rest⟩ := run_stop_of_found shutdown unlimited located
  rw [refused] at rest
  exact ⟨_, s₁, rest, tree⟩

theorem run_stop_of_accepted (unlimited : s.sink.room = none)
    (located : locatedHome scene settings named s.tree = .ok (some home))
    (accepted : (shutdown s.tree home).answer = .ok ()) :
    (∃ s', (stop scene shutdown settings named).run s = .ok () s' ∧
      PidRecord.cleanup (shutdown s.tree home).tree scene.here home = .ok s'.tree) ∨
    ∃ e s', (stop scene shutdown settings named).run s = .error e s' ∧
      s'.tree = (shutdown s.tree home).tree := by
  obtain ⟨s₁, open₁, tree, rest⟩ := run_stop_of_found shutdown unlimited located
  rw [accepted] at rest
  dsimp only at rest
  rw [EStateM.run_bind, run_change, tree] at rest
  cases cleaned : PidRecord.cleanup (shutdown s.tree home).tree scene.here home with
  | error failure =>
    rw [cleaned] at rest
    exact .inr ⟨_, s₁, rest, tree⟩
  | ok t' =>
    rw [cleaned] at rest
    obtain ⟨s₂, said, world, -⟩ := mirrors_writeLine
      (Advice.green ['✓'] ++ " Shutdown requested".toList) { s₁ with tree := t' } open₁
    dsimp only at rest
    rw [said] at rest
    have same : s₂.tree = t' := congrArg World.tree world
    exact .inl ⟨s₂, rest, by rw [same]⟩

theorem run_status_of_found {deps : Collaborators} (unlimited : s.sink.room = none)
    (located : locatedHome scene settings named s.tree = .ok (some home)) :
    (endOf ((status scene deps settings named).run s)).tree =
      (deps.probe (.builtProbe home :: s.history) s.tree home).tree := by
  obtain ⟨s₁, said₁, world₁, open₁⟩ := mirrors_writeLine
    ("  ".toList ++ Home.envName ++ ":  ".toList ++ home)
    { s with history := .builtProbe home :: s.history } unlimited
  obtain ⟨s₂, said₂, world₂, -⟩ := mirrors_writeLine
    ("  PID:            ".toList ++ pidText scene s₁.tree home) s₁ open₁
  have same : s₂.world = ⟨s.tree, .builtProbe home :: s.history⟩ := world₂.trans world₁
  have told : ∀ ready : Bool, KeepsTree (if ready = true then
      Flow.writeLine (Advice.green "✓ VOLTTRON is ready".toList)
    else do
      Flow.writeLine (Advice.yellow "⚠ VOLTTRON is not ready".toList)
      Flow.writeLine "\nStart it with:".toList
      Flow.writeLine ("  ".toList ++ Advice.brightCyan "volttron-bootstrap".toList)) := by
    intro ready
    split
    · exact keepsTree_writeLine _
    · exact .bind (keepsTree_writeLine _) fun _ => .bind (keepsTree_writeLine _) fun _ =>
        keepsTree_writeLine _
  simp only [status, EStateM.run_bind, run_locateHome_of_found located, Flow.run_note, said₁,
    EStateM.run_get, said₂, Flow.run_consult]
  rw [told _ _]
  rw [show s₂.tree = s.tree from congrArg World.tree same,
    show s₂.history = .builtProbe home :: s.history from congrArg World.history same]

end Steps

inductive Job where
  | bootstrap (settings : Settings) (here : Location) (cwd : Path) (deps : Collaborators)
  | stop (scene : Scene) (shutdown : Tree → Path → Reply (Except Failure Unit))
    (settings : Settings) (named : Option Path)
  | status (scene : Scene) (deps : Collaborators) (settings : Settings) (named : Option Path)

/-- What a job comes to for the record. -/
inductive Deed where
  | idle
  | started (pid : Nat)
  | stopped
deriving DecidableEq, Repr

namespace Job

def here : Job → Location
  | bootstrap _ here _ _ => here
  | stop scene .. | status scene .. => scene.here

def leaves (t : Tree) : Job → Tree
  | bootstrap settings here cwd deps =>
    (endOf ((run settings here cwd deps).run (.start t .unlimited))).tree
  | stop scene shutdown settings named =>
    (endOf ((Upkeep.stop scene shutdown settings named).run (.start t .unlimited))).tree
  | status scene deps settings named =>
    (endOf ((Upkeep.status scene deps settings named).run (.start t .unlimited))).tree

def deed (t : Tree) : Job → Deed
  | bootstrap settings here cwd deps => (startedDaemon settings here cwd deps t).elim .idle .started
  | stop scene shutdown settings named =>
    match answerOf? ((Upkeep.stop scene shutdown settings named).run (.start t .unlimited)) with
    | some () => .stopped
    | none => .idle
  | status .. => .idle

/-- The job is about this home, and nobody else has to do with the record. -/
def ServesHome (home : Path) (t : Tree) : Job → Prop
  | bootstrap settings here cwd deps => Serves settings here cwd deps home t
  | stop scene shutdown settings named =>
    ∀ home', locatedHome scene settings named t = .ok (some home') →
      home' = home ∧ filed? (shutdown t home).tree scene.here home = filed? t scene.here home
  | status scene deps settings named =>
    ∀ home', locatedHome scene settings named t = .ok (some home') →
      filed? (deps.probe [.builtProbe home'] t home').tree scene.here home =
        filed? t scene.here home

end Job

def Deed.Marks (here : Location) (home : Path) (t t' : Tree) : Deed → Prop
  | idle => filed? t' here home = filed? t here home
  | started pid => PidRecord.recorded? t' here home = some pid
  | stopped => filed? t' here home = none

section Marks

variable {home : Path} {t : Tree}

theorem marks_of_serves {settings : Settings} {here : Location} {cwd : Path} {deps : Collaborators}
    (serves : Serves settings here cwd deps home t) :
    ((Job.bootstrap settings here cwd deps).deed t).Marks here home t
      ((Job.bootstrap settings here cwd deps).leaves t) := by
  simp only [Job.deed]
  cases started : startedDaemon settings here cwd deps t with
  | none => exact filed?_of_not_started serves started
  | some pid => exact recorded?_of_started serves started

theorem marks_stop {scene : Scene} {shutdown : Tree → Path → Reply (Except Failure Unit)}
    {settings : Settings} {named : Option Path}
    (serves : (Job.stop scene shutdown settings named).ServesHome home t) :
    ((Job.stop scene shutdown settings named).deed t).Marks scene.here home t
      ((Job.stop scene shutdown settings named).leaves t) := by
  have unlimited : (State.start t .unlimited).sink.room = none := rfl
  simp only [Job.deed, Job.leaves]
  by_cases located : ∃ home', locatedHome scene settings named t = .ok (some home')
  · obtain ⟨home', located⟩ := located
    obtain ⟨rfl, untouched⟩ := serves home' located
    cases answered : (shutdown t home').answer with
    | error failure =>
      obtain ⟨e, s', ended, tree⟩ := run_stop_of_refused unlimited located answered
      rw [ended]
      exact (congrArg (filed? · scene.here home') tree).trans untouched
    | ok _ =>
      rcases run_stop_of_accepted unlimited located answered with
        ⟨s', ended, cleaned⟩ | ⟨e, s', ended, tree⟩
      · rw [ended]
        exact PidRecord.filed?_of_cleanup cleaned
      · rw [ended]
        exact (congrArg (filed? · scene.here home') tree).trans untouched
  · obtain ⟨e, lost⟩ := run_locateHome_of_lost (s := .start t .unlimited)
      fun home' found => located ⟨home', found⟩
    simp only [Upkeep.stop, EStateM.run_bind, lost]
    rfl

theorem deed_of_refused {scene : Scene} {shutdown : Tree → Path → Reply (Except Failure Unit)}
    {settings : Settings} {named : Option Path} {failure : Failure}
    (serves : (Job.stop scene shutdown settings named).ServesHome home t)
    (refused : (shutdown t home).answer = .error failure) :
    (Job.stop scene shutdown settings named).deed t = .idle := by
  simp only [Job.deed]
  by_cases located : ∃ home', locatedHome scene settings named t = .ok (some home')
  · obtain ⟨home', located⟩ := located
    obtain ⟨rfl, -⟩ := serves home' located
    obtain ⟨e, s', ended, -⟩ := run_stop_of_refused (s := .start t .unlimited) rfl located refused
    rw [ended]
    rfl
  · obtain ⟨e, lost⟩ := run_locateHome_of_lost (s := .start t .unlimited)
      fun home' found => located ⟨home', found⟩
    simp only [Upkeep.stop, EStateM.run_bind, lost]
    rfl

theorem marks_status {scene : Scene} {deps : Collaborators} {settings : Settings}
    {named : Option Path} (serves : (Job.status scene deps settings named).ServesHome home t) :
    ((Job.status scene deps settings named).deed t).Marks scene.here home t
      ((Job.status scene deps settings named).leaves t) := by
  change filed? (endOf ((Upkeep.status scene deps settings named).run (.start t .unlimited))).tree
    scene.here home = _
  by_cases located : ∃ home', locatedHome scene settings named t = .ok (some home')
  · obtain ⟨home', located⟩ := located
    rw [run_status_of_found rfl located]
    exact serves home' located
  · obtain ⟨e, lost⟩ := run_locateHome_of_lost (s := .start t .unlimited)
      fun home' found => located ⟨home', found⟩
    simp only [Upkeep.status, EStateM.run_bind, lost]
    rfl

theorem Job.marks {job : Job} (serves : job.ServesHome home t) :
    (job.deed t).Marks job.here home t (job.leaves t) := by
  cases job with
  | bootstrap settings here cwd deps => exact marks_of_serves serves
  | stop scene shutdown settings named => exact marks_stop serves
  | status scene deps settings named => exact marks_status serves

end Marks

def leave (t : Tree) : List Job → Tree
  | [] => t
  | job :: rest => leave (job.leaves t) rest

def deeds (t : Tree) : List Job → List Deed
  | [] => []
  | job :: rest => job.deed t :: deeds (job.leaves t) rest

/-- Each of the jobs is about the home when its time comes. A home that is named from the root may be
worked on from anywhere. -/
def ServeHome (here : Location) (home : Path) (t : Tree) : List Job → Prop
  | [] => True
  | job :: rest => (job.here = here ∨ Path.isAbsolute home = true) ∧ job.ServesHome home t ∧
      ServeHome here home (job.leaves t) rest

section Sequences

variable {here : Location} {home : Path} {t t' : Tree} {jobs : List Job}

theorem Deed.Marks.seen_from {d : Deed} {there : Location}
    (same : there = here ∨ Path.isAbsolute home = true) (marks : d.Marks there home t t') :
    d.Marks here home t t' := by
  have view : ∀ t, filed? t here home = filed? t there home := by
    intro t
    rcases same with rfl | absolute
    · rfl
    · exact PidRecord.filed?_of_isAbsolute absolute t here there
  cases d with
  | idle => exact (view t').trans (marks.trans (view t).symm)
  | started pid => exact (PidRecord.recorded?_congr (view t')).trans marks
  | stopped => exact (view t').trans marks

/-- Wherever the deeds are cut, the one at the cut is that of a job of its own, and the later ones
are those of the jobs behind it. -/
theorem exists_marks {before after : List Deed} {d : Deed} (serve : ServeHome here home t jobs)
    (cut : deeds t jobs = before ++ d :: after) :
    ∃ t₁ t₂ rest, d.Marks here home t₁ t₂ ∧ ServeHome here home t₂ rest ∧ deeds t₂ rest = after ∧
      leave t₂ rest = leave t jobs := by
  induction jobs generalizing t before with
  | nil => simp [deeds] at cut
  | cons job rest ih =>
    obtain ⟨same, serves, later⟩ := serve
    cases before with
    | nil =>
      obtain ⟨rfl, rfl⟩ := List.cons.inj cut
      exact ⟨t, job.leaves t, rest, (Job.marks serves).seen_from same, later, rfl, rfl⟩
    | cons first before => exact ih later (List.cons.inj cut).2

theorem filed?_of_idle (serve : ServeHome here home t jobs)
    (idle : ∀ d ∈ deeds t jobs, d = .idle) :
    filed? (leave t jobs) here home = filed? t here home := by
  induction jobs generalizing t with
  | nil => rfl
  | cons job rest ih =>
    obtain ⟨same, serves, later⟩ := serve
    have marks := (Job.marks serves).seen_from same
    rw [idle _ List.mem_cons_self] at marks
    exact (ih later fun d member => idle d (List.mem_cons_of_mem _ member)).trans marks

theorem filed?_none_of_not_started (serve : ServeHome here home t jobs)
    (absent : filed? t here home = none) (unstarted : ∀ pid, .started pid ∉ deeds t jobs) :
    filed? (leave t jobs) here home = none := by
  induction jobs generalizing t with
  | nil => exact absent
  | cons job rest ih =>
    obtain ⟨same, serves, later⟩ := serve
    have marks := (Job.marks serves).seen_from same
    refine ih later ?_ fun pid member => unstarted pid (List.mem_cons_of_mem _ member)
    cases deed : job.deed t with
    | idle =>
      rw [deed] at marks
      exact marks.trans absent
    | started pid => exact absurd (deed ▸ List.mem_cons_self) (unstarted pid)
    | stopped =>
      rw [deed] at marks
      exact marks

end Sequences

/-- After any sequence of jobs on a home, the record holds the number of the last daemon that was
started and not stopped since; there is no record after a stop that no further start follows; and
when neither a start nor a stop succeeded, the record is what it was at first, octet for octet. A stop
whose shutdown fails, and a bootstrap whose launch fails or is not reached, are idle. -/
theorem record_after_jobs (here : Location) (home : Path) :
    (∀ t jobs, ServeHome here home t jobs →
      (∀ before pid after, deeds t jobs = before ++ .started pid :: after →
        (∀ d ∈ after, d = .idle) → PidRecord.recorded? (leave t jobs) here home = some pid) ∧
      (∀ before after, deeds t jobs = before ++ .stopped :: after →
        (∀ pid, .started pid ∉ after) →
        filed? (leave t jobs) here home = none ∧
          PidRecord.recorded? (leave t jobs) here home = none) ∧
      ((∀ d ∈ deeds t jobs, d = .idle) →
        filed? (leave t jobs) here home = filed? t here home ∧
          PidRecord.recorded? (leave t jobs) here home = PidRecord.recorded? t here home)) ∧
    (∀ t scene shutdown settings named,
      let job := Job.stop scene shutdown settings named
      job.ServesHome home t →
      (∀ failure, (shutdown t home).answer = .error failure →
        job.deed t = .idle ∧ filed? (job.leaves t) scene.here home = filed? t scene.here home) ∧
      (job.deed t = .stopped → filed? (job.leaves t) scene.here home = none)) ∧
    ∀ t settings cwd deps,
      let job := Job.bootstrap settings here cwd deps
      job.ServesHome home t → startedDaemon settings here cwd deps t = none →
      filed? (job.leaves t) here home = filed? t here home := by
  refine ⟨?_, ?_, ?_⟩
  · intro t jobs serve
    refine ⟨?_, ?_, ?_⟩
    · intro before pid after cut idle
      obtain ⟨t₁, t₂, rest, marks, later, rfl, ends⟩ := exists_marks serve cut
      rw [← ends, PidRecord.recorded?_congr (filed?_of_idle later idle)]
      exact marks
    · intro before after cut unstarted
      obtain ⟨t₁, t₂, rest, marks, later, rfl, ends⟩ := exists_marks serve cut
      have absent := filed?_none_of_not_started later marks unstarted
      rw [ends] at absent
      exact ⟨absent, PidRecord.recorded?_of_filed?_none absent⟩
    · intro idle
      have same := filed?_of_idle serve idle
      exact ⟨same, PidRecord.recorded?_congr same⟩
  · intro t scene shutdown settings named job serves
    have marks := marks_stop serves
    refine ⟨?_, ?_⟩
    · intro failure refused
      have idle : job.deed t = .idle := deed_of_refused serves refused
      rw [idle] at marks
      exact ⟨idle, marks⟩
    · intro stopped
      rw [stopped] at marks
      exact marks
  · intro t settings cwd deps job serves idle
    exact filed?_of_not_started serves idle

def answering (home : Path) (launch : Except Failure Nat) : Collaborators where
  install _ t _ := .quiet (.ok ()) t
  ask _ _ _ := .ok (some home)
  launch _ t _ := .quiet launch t
  probe _ t _ := .quiet true t

theorem keepTree_answering (home : Path) (launch : Except Failure Nat) :
    (answering home launch).KeepTree :=
  ⟨⟨fun _ _ _ => rfl, fun _ _ _ => rfl⟩, fun _ _ _ => rfl⟩

def unknownCommand : Failure := .said "volttron: command not found".toList

def besideOld : Tree where
  entries :=
    [(["w".toList], .directory), (["old".toList, "w".toList], .directory),
      (["bootstrap.pid".toList, "old".toList, "w".toList], .file (Octets.encode "41".toList))]
  sealed_ := []

def besideSealed : Tree where
  entries := [(["w".toList], .directory), (["sys".toList], .directory)]
  sealed_ := [["sys".toList]]

/-- The home is named by a way that goes up out of a directory which the bootstrap makes: a record
that was not there comes to light without a launch. In a home in which nothing can be created the
daemon is started without a record. -/
theorem record_revealed_and_record_missing :
    let here := ["w".toList]
    let roundabout := "new/../old".toList
    let revealing := Job.bootstrap .standard here "/w".toList
      (answering roundabout (.error unknownCommand))
    let denied := Job.bootstrap .standard here "/w".toList (answering "/sys".toList (.ok 4242))
    (filed? besideOld here roundabout = none ∧
      PidRecord.recorded? besideOld here roundabout = none ∧
      revealing.deed besideOld = .idle ∧
      (revealing.leaves besideOld).status here (PidRecord.file roundabout) ≠
        (revealing.leaves besideOld).status here "/w/.volttron_env".toList ∧
      PidRecord.recorded? (revealing.leaves besideOld) here roundabout = some 41) ∧
    (filed? besideSealed here "/sys".toList = none ∧
      denied.deed besideSealed = .started 4242 ∧
      PidRecord.recorded? (denied.leaves besideSealed) here "/sys".toList = none) := by
  intro here roundabout revealing denied
  refine ⟨⟨by decide +kernel, by decide +kernel, by decide +kernel, fun same => ?_,
    by decide +kernel⟩, by decide +kernel, by decide +kernel, by decide +kernel⟩
  exact absurd (congrArg Except.toOption same) (by decide +kernel)

theorem onward_beside :
    ∀ q more, Path.IsFront q "../vh".toList → q ≠ [] →
      Path.names "../vh".toList = Path.names q ++ more → ['.', '.'] ∉ more := by
  rintro q more ⟨rest, whole, -⟩ nonempty names up
  have fronts : ∀ n ≤ 5, "../vh".toList.take n ≠ [] → Path.names ("../vh".toList.take n) ≠ [] := by
    decide
  have front : "../vh".toList.take q.length = q := by rw [whole, List.take_left]
  have short : q.length ≤ 5 := by
    have length : 5 = (q ++ rest).length := congrArg List.length whole
    rw [List.length_append] at length
    omega
  have named := fronts q.length short
  rw [front] at named
  obtain ⟨first, others, split⟩ := List.exists_cons_of_ne_nil (named nonempty)
  rw [split] at names
  have behind : others ++ more = ["vh".toList] := (List.cons.inj names).2.symm
  have member : ['.', '.'] ∈ ["vh".toList] := behind ▸ List.mem_append_right _ up
  exact absurd member (by decide)

theorem record_after_five_jobs :
    let here := ["w".toList]
    let home := "../vh".toList
    let settings : Settings := { Settings.standard with packages := [] }
    let scene : Scene := ⟨here, "/w".toList, none, fun _ => true⟩
    let t : Tree := ⟨[(here, .directory)], []⟩
    let failing := Job.bootstrap settings here "/w".toList (answering home (.error unknownCommand))
    let starting := Job.bootstrap settings here "/w".toList (answering home (.ok 7))
    let stopping := Job.stop scene (fun t _ => .quiet (.error unknownCommand) t) settings (some home)
    let asking := Job.status scene (answering home (.ok 8)) settings (some home)
    let jobs := [failing, starting, stopping, failing, asking]
    (t.status here home).toOption = none ∧ ServeHome here home t jobs ∧
      deeds t jobs = [.idle, .started 7, .idle, .idle, .idle] ∧
      PidRecord.recorded? (leave t jobs) here home = some 7 := by
  intro here home settings scene t failing starting stopping asking jobs
  have grounded (t : Tree) (closed : t.Closed) (stands : t.get? here = some .directory) :
      t.Grounded here home :=
    ⟨closed, stands, fun q more front named names _ => onward_beside q more front named names⟩
  have fails (t : Tree) (closed : t.Closed) (stands : t.get? here = some .directory) {s : State}
      (came : (untilLaunch settings here "/w".toList (answering home (.error unknownCommand))).run
        (.start t .unlimited) = .ok ([], home) s)
      (apart : ¬ s.tree.SameFile here (PidRecord.file home) (envFileOf settings "/w".toList)) :
      failing.ServesHome home t := by
    refine serves_of_untilLaunch (keepTree_answering _ _) came (fun _ => grounded t closed stands)
      apart ?_
    intro pid answered
    cases answered
  have first : failing.ServesHome home t :=
    fails t (Tree.closed_of_entries (by decide)) (by decide)
      (eq_ok_of_answerOf? (a := ([], home)) (by decide +kernel))
      (fun same => absurd (congrArg Except.toOption same.status_eq) (by decide +kernel))
  have second : starting.ServesHome home (failing.leaves t) := by
    refine serves_of_untilLaunch (keepTree_answering _ _)
      (eq_ok_of_answerOf? (a := ([], home)) (by decide +kernel))
      (fun idle => absurd idle (by decide +kernel))
      (fun same => absurd (congrArg Except.toOption same.status_eq) (by decide +kernel)) ?_
    intro pid answered
    cases answered
    exact ⟨by decide, exists_ok_of_toBool (by decide +kernel)⟩
  have third : ∀ t, stopping.ServesHome home t := by
    intro t home' located
    cases located
    exact ⟨rfl, rfl⟩
  have fourth : failing.ServesHome home
      (stopping.leaves (starting.leaves (failing.leaves t))) :=
    fails _ (Tree.closed_of_entries (by decide +kernel)) (by decide +kernel)
      (eq_ok_of_answerOf? (a := ([], home)) (by decide +kernel))
      (fun same => absurd (congrArg Except.toOption same.status_eq) (by decide +kernel))
  have fifth : ∀ t, asking.ServesHome home t := by
    intro t home' located
    cases located
    rfl
  have serve : ServeHome here home t jobs :=
    ⟨.inl rfl, first, .inl rfl, second, .inl rfl, third _, .inl rfl, fourth, .inl rfl, fifth _,
      trivial⟩
  have cut : deeds t jobs = [.idle, .started 7, .idle, .idle, .idle] := by decide +kernel
  obtain ⟨decided, -⟩ := (record_after_jobs here home).1 t jobs serve
  exact ⟨by decide, serve, cut, decided [.idle] 7 [.idle, .idle, .idle] cut (by decide)⟩

end PlatformLauncher.Upkeep
