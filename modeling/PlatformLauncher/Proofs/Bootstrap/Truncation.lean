import PlatformLauncher.Proofs.Bootstrap.KeptHome
import PlatformLauncher.Proofs.Bootstrap.World

/-!
A run whose output takes only so many octets, beside the same run whose output takes everything. As
long as nothing is lost the two go the same way; a text that does not fit ends the limited run on the
spot. The dots of the poller are the exception: they may be lost without an end, but the line behind
them cannot be written then. Main statement: `run_truncated`.
-/
namespace PlatformLauncher.Bootstrap

def Sink.limited (n : Nat) (k : Sink) : Sink := ⟨k.accepted.take n, some (n - k.accepted.length)⟩

def State.limited (n : Nat) (s : State) : State := { s with sink := s.sink.limited n }

def limitedResult {α : Type} (n : Nat) :
    EStateM.Result Halt State α → EStateM.Result Halt State α
  | .ok a s => .ok a (s.limited n)
  | .error e s => .error e (s.limited n)

def outputFull : Halt := .failed (.fault .outputFull)

/-- How a run with an output of `n` octets ends, beside the run with an output that takes
everything. -/
structure Truncation {α : Type} (n : Nat) (full cut : EStateM.Result Halt State α) : Prop where
  output : (endOf cut).sink.accepted = (endOf full).sink.accepted.take n
  fits : (endOf full).sink.accepted.length ≤ n → cut = limitedResult n full
  refused : n < (endOf full).sink.accepted.length →
    ∃ s, cut = .error outputFull s ∧ s.history <:+ (endOf full).history

structure Onward (s s' : State) : Prop where
  room : s'.sink.room = none
  output : s.sink.accepted <+: s'.sink.accepted
  history : s.history <:+ s'.history

/-- The output ended the limited run on the way to where the full run came. -/
structure CutOff {α : Type} (n : Nat) (full : State) (cut : EStateM.Result Halt State α) : Prop where
  ended : ∃ s, cut = .error outputFull s
  output : (endOf cut).sink.accepted = full.sink.accepted.take n
  history : (endOf cut).history <:+ full.history
  overflows : n < full.sink.accepted.length

def withSink {α : Type} (k : Sink) : EStateM.Result Halt State α → EStateM.Result Halt State α
  | .ok a s => .ok a { s with sink := k }
  | .error e s => .error e { s with sink := k }

/-- The flow adds to its output and has no eye for what stands there. Under a limit it goes the same
way, or the output ends it. -/
structure Truncates {α : Type} (m : Flow α) : Prop where
  history : ∀ s, s.history <:+ (endOf (m.run s)).history
  appends : ∀ s : State, ∃ (output : Octets) (result : EStateM.Result Halt State α), ∀ before,
    m.run { s with sink := ⟨before, none⟩ } = withSink ⟨before ++ output, none⟩ result
  limited : ∀ s n, s.sink.room = none →
    m.run (s.limited n) = limitedResult n (m.run s) ∨
      CutOff n (endOf (m.run s)) (m.run (s.limited n))

section Composing

variable {α β : Type}

theorem endOf_limitedResult (n : Nat) (r : EStateM.Result Halt State α) :
    endOf (limitedResult n r) = (endOf r).limited n := by
  cases r <;> rfl

theorem Onward.refl {s : State} (unlimited : s.sink.room = none) : Onward s s :=
  ⟨unlimited, List.prefix_rfl, List.suffix_rfl⟩

theorem CutOff.onward {n : Nat} {s s' : State} {r : EStateM.Result Halt State α}
    (cut : CutOff n s r) (on : Onward s s') : CutOff n s' r := by
  obtain ⟨further, output⟩ := on.output
  have short := cut.overflows
  refine ⟨cut.ended, ?_, cut.history.trans on.history, ?_⟩
  · rw [cut.output, ← output, List.take_append_of_le_length (Nat.le_of_lt short)]
  · rw [← output, List.length_append]
    omega

theorem CutOff.bind {n : Nat} {full : State} {m : Flow α} {s : State} (cut : CutOff n full (m.run s))
    (f : α → Flow β) : CutOff n full ((m >>= f).run s) := by
  obtain ⟨⟨s', ended⟩, output, history, overflows⟩ := cut
  rw [ended] at output history
  rw [EStateM.run_bind, ended]
  exact ⟨⟨s', rfl⟩, output, history, overflows⟩

theorem Truncates.onward {m : Flow α} (truncates : Truncates m) {s : State}
    (unlimited : s.sink.room = none) : Onward s (endOf (m.run s)) := by
  obtain ⟨output, result, went⟩ := truncates.appends s
  have run : m.run s = withSink ⟨s.sink.accepted ++ output, none⟩ result := by
    rw [← went, ← unlimited]
  have sink : (endOf (m.run s)).sink = ⟨s.sink.accepted ++ output, none⟩ := by
    rw [run]
    cases result <;> rfl
  exact ⟨by rw [sink], by rw [sink]; exact List.prefix_append _ _, truncates.history s⟩

theorem Truncates.pure (a : α) : Truncates (pure a) where
  history _ := List.suffix_rfl
  appends s := ⟨[], .ok a s, fun before => by rw [List.append_nil]; rfl⟩
  limited _ _ _ := .inl rfl

theorem Truncates.onward_bind {m : Flow α} {f : α → Flow β} (next : ∀ a, Truncates (f a)) {s : State}
    (unlimited : (endOf (m.run s)).sink.room = none) :
    Onward (endOf (m.run s)) (endOf ((m >>= f).run s)) := by
  rw [EStateM.run_bind]
  cases h : m.run s with
  | error e s₁ =>
    rw [h] at unlimited
    exact .refl unlimited
  | ok a s₁ =>
    rw [h] at unlimited
    exact (next a).onward unlimited

theorem Truncates.bind {m : Flow α} {f : α → Flow β} (first : Truncates m)
    (next : ∀ a, Truncates (f a)) : Truncates (m >>= f) where
  history s := by
    have earlier := first.history s
    rw [EStateM.run_bind]
    cases h : m.run s with
    | error e s₁ =>
      rw [h] at earlier
      exact earlier
    | ok a s₁ =>
      rw [h] at earlier
      exact earlier.trans ((next a).history s₁)
  appends s := by
    obtain ⟨output, result, went⟩ := first.appends s
    cases result with
    | error e s₁ =>
      refine ⟨output, .error e s₁, fun before => ?_⟩
      rw [EStateM.run_bind, went]
      rfl
    | ok a s₁ =>
      obtain ⟨more, result, goes⟩ := (next a).appends s₁
      refine ⟨output ++ more, result, fun before => ?_⟩
      rw [EStateM.run_bind, went, ← List.append_assoc]
      exact goes (before ++ output)
  limited s n unlimited := by
    have on := first.onward unlimited
    rcases first.limited s n unlimited with same | cut
    · rw [EStateM.run_bind, EStateM.run_bind, same]
      cases h : m.run s with
      | error e s₁ => exact .inl rfl
      | ok a s₁ =>
        rw [h] at on
        exact (next a).limited s₁ n on.room
    · exact .inr ((cut.onward (onward_bind next on.room)).bind f)

theorem Truncates.look {f : State → Flow α} (deaf : ∀ s k, f { s with sink := k } = f s)
    (next : ∀ s, Truncates (f s)) : Truncates (get >>= f) where
  history s := (next s).history s
  appends s := by
    obtain ⟨output, result, goes⟩ := (next s).appends s
    refine ⟨output, result, fun before => ?_⟩
    rw [EStateM.run_bind, EStateM.run_get]
    dsimp only
    rw [deaf]
    exact goes before
  limited s n unlimited := by
    have same := (next s).limited s n unlimited
    have unaware : f (s.limited n) = f s := deaf s _
    simpa only [EStateM.run_bind, EStateM.run_get, unaware] using same

end Composing

section Steps

variable {α β : Type}

structure Silent (m : Flow α) : Prop where
  run : ∀ s k, m.run { s with sink := k } = withSink k (m.run s)
  history : ∀ s, s.history <:+ (endOf (m.run s)).history

theorem Silent.sink_eq {m : Flow α} (silent : Silent m) (s : State) :
    (endOf (m.run s)).sink = s.sink := by
  have same : m.run s = withSink s.sink (m.run s) := silent.run s s.sink
  rw [same]
  cases m.run s <;> rfl

theorem Silent.truncates {m : Flow α} (silent : Silent m) : Truncates m where
  history := silent.history
  appends s := ⟨[], m.run s, fun before => by rw [List.append_nil, silent.run]⟩
  limited s n _ := by
    left
    have sink := silent.sink_eq s
    rw [State.limited, silent.run]
    cases h : m.run s with
    | ok a s₁ =>
      rw [h] at sink
      rw [← show s₁.sink = s.sink from sink]
      rfl
    | error e s₁ =>
      rw [h] at sink
      rw [← show s₁.sink = s.sink from sink]
      rfl

theorem silent_note (e : Event) : Silent (Flow.note e) :=
  ⟨fun _ _ => rfl, fun s => List.suffix_cons e s.history⟩

theorem silent_throw (e : Halt) : Silent (throw e : Flow α) :=
  ⟨fun _ _ => rfl, fun _ => List.suffix_rfl⟩

theorem silent_takeAnswer (deps : Collaborators) (default : Path) : Silent (takeAnswer deps default) := by
  constructor
  · intro s k
    rw [run_takeAnswer, run_takeAnswer]
    dsimp only
    split <;> rfl
  · intro s
    rw [run_takeAnswer]
    split <;> exact List.suffix_cons _ _

theorem silent_makeHome (here : Location) (home : Path) : Silent (makeHome here home) := by
  constructor
  · intro s k
    rw [run_makeHome, run_makeHome]
    dsimp only
    split <;> rfl
  · intro s
    rw [run_makeHome]
    split
    · exact List.suffix_rfl
    · exact List.suffix_cons _ _

theorem silent_saveHome (here : Location) (envFile home : Path) :
    Silent (saveHome here envFile home) := by
  constructor
  · intro s k
    rw [run_saveHome, run_saveHome]
    dsimp only
    split <;> rfl
  · intro s
    rw [run_saveHome]
    split
    · exact List.suffix_rfl
    · exact List.suffix_cons _ _

theorem silent_recordPid (here : Location) (home : Path) (pid : Nat) :
    Silent (recordPid here home pid) := by
  constructor
  · intro s k
    rw [run_recordPid, run_recordPid]
    dsimp only
    split <;> rfl
  · intro s
    rw [run_recordPid]
    split
    · exact List.suffix_cons _ _
    · exact List.suffix_rfl

theorem put_limited {k : Sink} (unlimited : k.room = none) (n : Nat) (o : Octets) :
    (k.limited n).put o =
      ((k.put o).1.limited n, decide (o.length ≤ n - k.accepted.length)) := by
  rw [put_of_open unlimited]
  simp only [Sink.limited, Sink.put, List.take_append, List.length_append, Nat.sub_sub]

theorem truncates_write (text : Text) : Truncates (Flow.write text) where
  history s := by
    rw [Flow.run_write]
    split <;> exact List.suffix_rfl
  appends s := ⟨Octets.encode text, .ok () s, fun _ => rfl⟩
  limited s n unlimited := by
    rw [Flow.run_write, Flow.run_write]
    simp only [State.limited, put_limited unlimited, put_of_open unlimited]
    by_cases fits : (Octets.encode text).length ≤ n - s.sink.accepted.length
    · left
      simp [fits, limitedResult, State.limited]
    · right
      simp only [fits, decide_false, Bool.false_eq_true, if_false, if_true]
      refine ⟨⟨_, rfl⟩, rfl, List.suffix_rfl, ?_⟩
      rw [endOf, List.length_append]
      omega

theorem truncates_writeLine (text : Text) : Truncates (Flow.writeLine text) := truncates_write _

theorem truncates_lines (lines : List Text) : Truncates (lines.forM Flow.writeLine) := by
  induction lines with
  | nil => exact .pure _
  | cons line rest ih => exact .bind (truncates_writeLine line) fun _ => ih

theorem truncates_tryWrite (o : Octets) : Truncates (Flow.tryWrite o) where
  history _ := List.suffix_rfl
  appends s := ⟨o, .ok () s, fun _ => rfl⟩
  limited s n unlimited := by
    left
    rw [Flow.run_tryWrite, Flow.run_tryWrite, State.limited, put_limited unlimited]
    rfl

theorem truncates_consult (e : Event) (ask : History → Tree → Reply α) :
    Truncates (Flow.consult e ask) where
  history s := List.suffix_cons e s.history
  appends s := ⟨(ask s.history s.tree).printed, (Flow.consult e ask).run s, fun _ => rfl⟩
  limited s n unlimited := by
    left
    rw [Flow.run_consult, Flow.run_consult, State.limited, put_limited unlimited]
    rfl

end Steps

section Stages

variable (settings : Settings) (here : Location) (cwd : Path) (deps : Collaborators) (home : Path)

theorem truncates_installOne (p : PackageEntry) :
    Truncates (Install.installOne deps here cwd p) := by
  refine .look (fun _ _ => rfl) fun s => .bind (truncates_writeLine _) fun _ =>
    .bind (truncates_consult _ _) fun answer => ?_
  cases answer with
  | ok _ => exact .pure _
  | error failure => exact .bind (truncates_writeLine _) fun _ => .pure _

theorem truncates_installAll (packages : List PackageEntry) :
    Truncates (Install.installAll deps here cwd packages) := by
  induction packages with
  | nil => exact .pure _
  | cons p rest ih =>
    exact .bind (truncates_installOne here cwd deps p) fun _ => .bind ih fun _ => .pure _

theorem truncates_putQuestion (default : Path) : Truncates (putQuestion deps default) :=
  .look (fun _ _ => rfl) fun _ => truncates_write _

theorem truncates_installStage : Truncates (installStage settings here cwd deps) :=
  .bind (truncates_writeLine _) fun _ => truncates_installAll here cwd deps _

theorem truncates_opening : Truncates (opening settings here cwd deps) :=
  .bind (truncates_installStage settings here cwd deps) fun _ =>
    .bind (truncates_putQuestion deps _) fun _ => .pure _

theorem truncates_settleHome : Truncates (settleHome settings here cwd deps) :=
  .bind (silent_takeAnswer _ _).truncates fun _ => .bind (silent_makeHome _ _).truncates fun _ =>
    .bind (silent_saveHome _ _ _).truncates fun _ => .pure _

theorem truncates_startDaemon : Truncates (startDaemon deps here home) := by
  refine .bind (truncates_consult _ _) fun answer => ?_
  cases answer with
  | ok pid =>
    exact .bind (truncates_writeLine _) fun _ => .bind (silent_recordPid _ _ _).truncates fun _ =>
      .pure _
  | error failure => exact .bind (truncates_writeLine _) fun _ => .pure _

theorem truncates_probe : Truncates (poller deps home).probe :=
  truncates_consult .probed fun h t => deps.probe h t home

theorem truncates_pollFrom (policy : PollPolicy) (left : Nat) :
    Truncates ((poller deps home).pollFrom policy left) := by
  induction left with
  | zero => exact .pure _
  | succ left ih =>
    have pause : Truncates ((poller deps home).pause policy left) := by
      unfold Poller.pause
      split
      · exact (silent_note _).truncates
      · exact .pure _
    rw [Poller.pollFrom_succ]
    refine .bind (.bind (truncates_tryWrite _) fun _ => truncates_probe deps home) fun ready => ?_
    cases ready with
    | true => exact .pure _
    | false => exact .bind pause fun _ => ih

theorem truncates_waitUntilReady : Truncates (waitUntilReady deps settings home) :=
  .bind (silent_note _).truncates fun _ => .bind (truncates_write _) fun _ =>
    .bind (truncates_pollFrom deps home _ _) fun _ => .bind (truncates_writeLine _) fun _ => .pure _

theorem truncates_reportReadiness (readiness : Readiness) :
    Truncates (reportReadiness settings readiness) := by
  unfold reportReadiness
  split
  · exact truncates_writeLine _
  · split
    · exact (silent_throw _).truncates
    · exact truncates_writeLine _

theorem truncates_proceed (installs : List Install.Outcome) :
    Truncates (proceed settings here cwd deps installs home) :=
  .bind (truncates_writeLine _) fun _ => .bind (truncates_writeLine _) fun _ =>
    .bind (truncates_startDaemon here deps home) fun _ =>
      .bind (truncates_waitUntilReady settings deps home) fun _ =>
        .bind (truncates_reportReadiness settings _) fun _ =>
          .bind (truncates_lines _) fun _ => .pure _

theorem truncates_run : Truncates (run settings here cwd deps) := by
  rw [run_eq]
  exact .bind (truncates_opening settings here cwd deps) fun _ =>
    .bind (truncates_settleHome settings here cwd deps) fun home =>
      truncates_proceed settings here cwd deps home _

end Stages

def Stops {α : Type} (m : Flow α) : Prop :=
  ∀ s n, s.sink.room = none → s.sink.accepted.length ≤ n →
    n < (endOf (m.run s)).sink.accepted.length → ∃ s', m.run (s.limited n) = .error outputFull s'

/-- The flow cannot go on when nothing more is taken. -/
def Refuses {α : Type} (m : Flow α) : Prop :=
  ∀ (s : State) (n : Nat), s.sink.room = none → n ≤ s.sink.accepted.length →
    ∃ s', m.run (s.limited n) = .error outputFull s'

section Stopping

variable {α β : Type}

theorem stops_of_sink_eq {m : Flow α}
    (same : ∀ s, s.sink.room = none → (endOf (m.run s)).sink = s.sink) : Stops m := by
  intro s n unlimited before after
  rw [same s unlimited] at after
  exact absurd after (Nat.not_lt.2 before)

theorem Silent.stops {m : Flow α} (silent : Silent m) : Stops m :=
  stops_of_sink_eq fun s _ => silent.sink_eq s

theorem Stops.pure (a : α) : Stops (pure a : Flow α) := stops_of_sink_eq fun _ _ => rfl

theorem Stops.bind {m : Flow α} {f : α → Flow β} (truncates : Truncates m) (first : Stops m)
    (next : ∀ a, Stops (f a)) : Stops (m >>= f) := by
  intro s n unlimited before after
  have room := (truncates.onward unlimited).room
  by_cases short : n < (endOf (m.run s)).sink.accepted.length
  · obtain ⟨s', ended⟩ := first s n unlimited before short
    exact ⟨s', by rw [EStateM.run_bind, ended]⟩
  · have enough := Nat.not_lt.1 short
    rcases truncates.limited s n unlimited with same | cut
    · rw [EStateM.run_bind] at after ⊢
      rw [same]
      cases h : m.run s with
      | error e s₁ =>
        rw [h] at after enough
        exact absurd after (Nat.not_lt.2 enough)
      | ok a s₁ =>
        rw [h] at after enough room
        exact next a s₁ n room enough after
    · exact absurd cut.overflows short

theorem Stops.look {f : State → Flow α} (deaf : ∀ s n, f (s.limited n) = f s)
    (next : ∀ s, Stops (f s)) : Stops (get >>= f) := by
  intro s n unlimited before after
  obtain ⟨s', ended⟩ := next s s n unlimited before after
  rw [← deaf s n] at ended
  exact ⟨s', ended⟩

theorem Refuses.bind {m : Flow α} (first : Refuses m) (f : α → Flow β) : Refuses (m >>= f) := by
  intro s n unlimited full
  obtain ⟨s', ended⟩ := first s n unlimited full
  exact ⟨s', by rw [EStateM.run_bind, ended]⟩

/-- A flow that may lose output without an end is made good by one that cannot go on then. -/
theorem Stops.made_good {m : Flow α} {q : Errand α} {f : α → Flow β} (truncates : Truncates m)
    (mirrors : Mirrors m q) (refuses : ∀ a, Refuses (f a)) (next : ∀ a, Stops (f a)) :
    Stops (m >>= f) := by
  intro s n unlimited _ after
  obtain ⟨s₁, first, -, room⟩ := mirrors s unlimited
  rw [EStateM.run_bind] at after ⊢
  rcases truncates.limited s n unlimited with same | ⟨⟨s', ended⟩, -, -, -⟩
  · rw [first] at same after
    rw [same]
    by_cases short : n < s₁.sink.accepted.length
    · exact refuses _ s₁ n room (Nat.le_of_lt short)
    · exact next _ s₁ n room (Nat.not_lt.1 short) after
  · exact ⟨s', by rw [ended]⟩

theorem stops_write (text : Text) : Stops (Flow.write text) := by
  intro s n unlimited before after
  rw [Flow.run_write, put_of_open unlimited, if_pos rfl, endOf, List.length_append] at after
  have short : ¬ (Octets.encode text).length ≤ n - s.sink.accepted.length := by omega
  rw [Flow.run_write, State.limited, put_limited unlimited, decide_eq_false short,
    if_neg Bool.false_ne_true]
  exact ⟨_, rfl⟩

theorem stops_writeLine (text : Text) : Stops (Flow.writeLine text) := stops_write _

theorem refuses_writeLine (text : Text) : Refuses (Flow.writeLine text) := by
  intro s n unlimited full
  have positive : 0 < (Octets.encode (text ++ ['\n'])).length := by
    rw [Octets.encode_append, List.length_append]
    exact Nat.add_pos_right _ (by decide)
  have short : ¬ (Octets.encode (text ++ ['\n'])).length ≤ n - s.sink.accepted.length := by omega
  rw [Flow.writeLine, Flow.run_write, State.limited, put_limited unlimited, decide_eq_false short,
    if_neg Bool.false_ne_true]
  exact ⟨_, rfl⟩

theorem stops_lines (lines : List Text) : Stops (lines.forM Flow.writeLine) := by
  induction lines with
  | nil => exact .pure _
  | cons line rest ih => exact .bind (truncates_writeLine line) (stops_writeLine line) fun _ => ih

theorem stops_consult {e : Event} {ask : History → Tree → Reply α}
    (quiet : ∀ h t, (ask h t).printed = []) : Stops (Flow.consult e ask) := by
  refine stops_of_sink_eq fun s unlimited => ?_
  rw [Flow.run_consult, endOf, quiet, put_of_open unlimited, List.append_nil]
  obtain ⟨tree, ⟨accepted, room⟩, complaints, history⟩ := s
  cases unlimited
  rfl

end Stopping

def Collaborators.InstallsQuietly (deps : Collaborators) : Prop :=
  ∀ h t r, (deps.install h t r).printed = []

section StoppingStages

variable (settings : Settings) (here : Location) (cwd : Path) {deps : Collaborators} (home : Path)

theorem stops_installOne (quiet : deps.InstallsQuietly) (p : PackageEntry) :
    Stops (Install.installOne deps here cwd p) := by
  refine .look (fun _ _ => rfl) fun s => .bind (truncates_writeLine _) (stops_writeLine _) fun _ =>
    .bind (truncates_consult _ _) (stops_consult fun h t => quiet h t _) fun answer => ?_
  cases answer with
  | ok _ => exact .pure _
  | error failure => exact .bind (truncates_writeLine _) (stops_writeLine _) fun _ => .pure _

theorem stops_installAll (quiet : deps.InstallsQuietly) (packages : List PackageEntry) :
    Stops (Install.installAll deps here cwd packages) := by
  induction packages with
  | nil => exact .pure _
  | cons p rest ih =>
    exact .bind (truncates_installOne here cwd deps p) (stops_installOne here cwd quiet p) fun _ =>
      .bind (truncates_installAll here cwd deps rest) ih fun _ => .pure _

theorem stops_putQuestion (default : Path) : Stops (putQuestion deps default) :=
  .look (fun _ _ => rfl) fun _ => stops_write _

theorem stops_opening (quiet : deps.InstallsQuietly) : Stops (opening settings here cwd deps) :=
  have installs : Stops (installStage settings here cwd deps) :=
    .bind (truncates_writeLine _) (stops_writeLine _) fun _ => stops_installAll here cwd quiet _
  .bind (truncates_installStage settings here cwd deps) installs fun _ =>
    .bind (truncates_putQuestion deps _) (stops_putQuestion _) fun _ => .pure _

theorem stops_settleHome : Stops (settleHome settings here cwd deps) :=
  have ask := silent_takeAnswer deps (offeredHome settings cwd)
  .bind ask.truncates ask.stops fun home =>
    have make := silent_makeHome here home
    have save := silent_saveHome here (envFileOf settings cwd) home
    .bind make.truncates make.stops fun _ => .bind save.truncates save.stops fun _ => .pure _

theorem stops_startDaemon : Stops (startDaemon deps here home) := by
  refine .made_good (truncates_consult _ _) (mirrors_consult _ _) (fun answer => ?_) fun answer => ?_
  · cases answer with
    | ok pid => exact (refuses_writeLine _).bind _
    | error failure => exact (refuses_writeLine _).bind _
  · cases answer with
    | ok pid =>
      have record := silent_recordPid here home pid
      exact .bind (truncates_writeLine _) (stops_writeLine _) fun _ =>
        .bind record.truncates record.stops fun _ => .pure _
    | error failure => exact .bind (truncates_writeLine _) (stops_writeLine _) fun _ => .pure _

theorem stops_waitUntilReady : Stops (waitUntilReady deps settings home) :=
  .bind (silent_note _).truncates (silent_note _).stops fun _ =>
    .bind (truncates_write _) (stops_write _) fun _ =>
      .made_good (truncates_pollFrom deps home _ _) (mirrors_pollFrom deps home _ _)
        (fun _ => (refuses_writeLine _).bind _)
        fun _ => .bind (truncates_writeLine _) (stops_writeLine _) fun _ => .pure _

theorem stops_reportReadiness (readiness : Readiness) :
    Stops (reportReadiness settings readiness) := by
  unfold reportReadiness
  split
  · exact stops_writeLine _
  · split
    · exact (silent_throw _).stops
    · exact stops_writeLine _

theorem stops_proceed (installs : List Install.Outcome) :
    Stops (proceed settings here cwd deps installs home) :=
  .bind (truncates_writeLine _) (stops_writeLine _) fun _ =>
    .bind (truncates_writeLine _) (stops_writeLine _) fun _ =>
      .bind (truncates_startDaemon here deps home) (stops_startDaemon here home) fun _ =>
        .bind (truncates_waitUntilReady settings deps home) (stops_waitUntilReady settings home)
          fun _ => .bind (truncates_reportReadiness settings _) (stops_reportReadiness settings _)
            fun _ => .bind (truncates_lines _) (stops_lines _) fun _ => .pure _

theorem stops_run (quiet : deps.InstallsQuietly) : Stops (run settings here cwd deps) := by
  rw [run_eq]
  exact .bind (truncates_opening settings here cwd deps) (stops_opening settings here cwd quiet)
    fun _ => .bind (truncates_settleHome settings here cwd deps) (stops_settleHome settings here cwd)
      fun home => stops_proceed settings here cwd home _

end StoppingStages

theorem start_limited (t : Tree) (n : Nat) :
    State.start t ⟨[], some n⟩ = (State.start t .unlimited).limited n := by
  simp [State.start, State.limited, Sink.limited, Sink.unlimited]

theorem Truncates.history_suffix {α : Type} {m : Flow α} (truncates : Truncates m) (t : Tree)
    (limit : Option Nat) :
    (endOf (m.run (.start t ⟨[], limit⟩))).history <:+
      (endOf (m.run (.start t .unlimited))).history := by
  cases limit with
  | none => exact List.suffix_rfl
  | some n =>
    rw [start_limited]
    rcases truncates.limited (.start t .unlimited) n rfl with same | cut
    · rw [same, endOf_limitedResult]
      exact List.suffix_rfl
    · exact cut.history

theorem Truncates.truncation {α : Type} {m : Flow α} (truncates : Truncates m) (stops : Stops m)
    (t : Tree) (n : Nat) :
    Truncation n (m.run (.start t .unlimited)) (m.run (.start t ⟨[], some n⟩)) := by
  have unlimited : (State.start t .unlimited).sink.room = none := rfl
  rw [start_limited]
  rcases truncates.limited (.start t .unlimited) n unlimited with same | cut
  · constructor
    · rw [same, endOf_limitedResult]
      rfl
    · exact fun _ => same
    · intro overflows
      obtain ⟨s, ended⟩ := stops (.start t .unlimited) n unlimited (Nat.zero_le n) overflows
      refine ⟨s, ended, ?_⟩
      have there : (endOf (m.run (.start t .unlimited))).limited n = s := by
        rw [← endOf_limitedResult, ← same, ended]
        rfl
      rw [← there]
      exact List.suffix_rfl
  · constructor
    · exact cut.output
    · exact fun fits => absurd cut.overflows (Nat.not_lt.2 fits)
    · intro _
      obtain ⟨s, ended⟩ := cut.ended
      have further := cut.history
      rw [ended] at further
      exact ⟨s, ended, further⟩

/-- An output that takes only `n` octets has taken just the first `n` of those that an output without
a limit takes. If these are all, the two runs end in the same way, in the same state. If not, the
limited run ends because its output is full, and what it has done until then is a beginning of what
the other run does. The same is true of the installs alone. -/
theorem run_truncated (settings : Settings) (here : Location) (cwd : Path) (deps : Collaborators)
    (quiet : deps.InstallsQuietly) (t : Tree) (n : Nat) :
    Truncation n ((run settings here cwd deps).run (.start t .unlimited))
        ((run settings here cwd deps).run (.start t ⟨[], some n⟩)) ∧
      ∀ packages, Truncation n
        ((Install.installAll deps here cwd packages).run (.start t .unlimited))
        ((Install.installAll deps here cwd packages).run (.start t ⟨[], some n⟩)) := by
  constructor
  · exact (truncates_run settings here cwd deps).truncation (stops_run settings here cwd quiet) t n
  · intro packages
    exact (truncates_installAll here cwd deps packages).truncation
      (stops_installAll here cwd quiet packages) t n

def sluggish : Collaborators where
  install _ t _ := .quiet (.error (.said "no wheel".toList)) t
  ask _ _ _ := .ok none
  launch _ t _ := .quiet (.ok 7) t
  probe h t _ := .quiet (decide (2 ≤ h.count .probed)) t

/-- The second of three dots does not fit: the poller goes on, and the line behind the dots ends the
run. -/
theorem run_truncated_in_the_dots :
    let full := (run .standard ["w".toList] "/w".toList sluggish).run (.start workedIn .unlimited)
    let cut := (run .standard ["w".toList] "/w".toList sluggish).run (.start workedIn ⟨[], some 373⟩)
    sluggish.InstallsQuietly ∧ (answerOf? full).map Report.readiness = some (.ready 3) ∧
      (endOf full).sink.accepted.length = 580 ∧
      (endOf cut).sink.accepted = (endOf full).sink.accepted.take 373 ∧
      (endOf cut).sink.accepted.getLast? = some 46 ∧ (endOf cut).history.count .probed = 3 ∧
      ∃ s, cut = .error outputFull s ∧ s.history <:+ (endOf full).history := by
  intro full cut
  have quiet : sluggish.InstallsQuietly := fun _ _ _ => rfl
  have truncated : Truncation 373 full cut :=
    (run_truncated .standard ["w".toList] "/w".toList sluggish quiet workedIn 373).1
  have length : (endOf full).sink.accepted.length = 580 := by decide +kernel
  refine ⟨quiet, by decide +kernel, length, truncated.output, by decide +kernel,
    by decide +kernel, truncated.refused ?_⟩
  rw [length]
  decide

end PlatformLauncher.Bootstrap
