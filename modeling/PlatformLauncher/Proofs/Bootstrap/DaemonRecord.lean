import PlatformLauncher.Proofs.Bootstrap.Course

/-!
The record of a daemon that was started. A line is written between the start and the record; when the
output does not take it, the run ends there, and the daemon is left without a record. At any other end
the record holds the number of the daemon. Main statement: `run_records_daemon`.
-/
namespace PlatformLauncher.Bootstrap

theorem recorded?_of_write {t t' : Tree} {here : Location} {home : Path} {pid : Nat}
    (written : PidRecord.write t here home pid = .ok t') (fits : pid ≤ PidRecord.most) :
    PidRecord.recorded? t' here home = some pid := by
  obtain ⟨place, -, -, stands⟩ := Tree.status_of_write (pidRecord_write_ok written)
  have text := Tree.readText_of_read (Tree.read_of_status stands)
  have there : t'.exists_ here (PidRecord.file home) = true := by
    rw [Tree.exists_, stands]
    rfl
  have number : PidRecord.read t' here home = .ok pid := by
    simp only [PidRecord.read, text, PidRecord.parse_ofNat fits]
  rw [PidRecord.recorded?, if_pos there, number]
  rfl

/-- The launcher answers with a number, the record of it can be written, and no probe spoils it. -/
structure Recordable (deps : Collaborators) (here : Location) (home : Path) (w : World)
    (pid : Nat) : Prop where
  answered : (deps.launch w.history w.tree home).answer = .ok pid
  fits : pid ≤ PidRecord.most
  writable : ∃ t, PidRecord.write (deps.launch w.history w.tree home).tree here home pid = .ok t
  kept : ∀ h t, PidRecord.recorded? (deps.probe h t home).tree here home =
    PidRecord.recorded? t here home

def Event.IsEarly : Event → Prop
  | .askedInstaller _ | .askedHome _ | .madeHome _ | .savedHome .. => True
  | _ => False

section Start

variable {settings : Settings} {here : Location} {cwd : Path} {deps : Collaborators} {t : Tree}
  {limit : Option Nat} {home : Path} {pid : Nat} {s : State}

theorem Settles.unique {w w₁ w₂ : World} {home' : Path}
    (first : Settles settings here cwd deps w home w₁)
    (second : Settles settings here cwd deps w home' w₂) : home' = home ∧ w₂ = w₁ := by
  obtain rfl : home' = home := second.home_eq.trans first.home_eq.symm
  have tree : w₂.tree = w₁.tree := Except.ok.inj (second.saved.symm.trans first.saved)
  have history : w₂.history = w₁.history := second.history.trans first.history.symm
  refine ⟨rfl, ?_⟩
  cases w₁
  cases w₂
  cases tree
  cases history
  rfl

theorem isEarly_of_suffix {h : History} {e : Event}
    (before : h <:+ settledHistory settings cwd home
      (installed settings here cwd deps ⟨t, []⟩).2.history)
    (member : e ∈ h) : e.IsEarly := by
  obtain ⟨requests, history⟩ := history_installAll here cwd deps settings.packages ⟨t, []⟩
  have settling := before.subset member
  rw [installed, history, List.append_nil] at settling
  simp only [settledHistory, List.mem_cons, List.mem_reverse, List.mem_map] at settling
  rcases settling with rfl | rfl | rfl | ⟨request, -, rfl⟩ <;> trivial

theorem run_startDaemon_of_recordable (recordable : Recordable deps here home s.world pid) :
    (∃ s', (startDaemon deps here home).run s = .ok (some pid) s' ∧
      PidRecord.recorded? s'.tree here home = some pid) ∨
    ∃ s', (startDaemon deps here home).run s = .error outputFull s' ∧
      s'.tree = (deps.launch s.history s.tree home).tree ∧
      s'.history = .askedLauncher home :: s.history := by
  obtain ⟨answered, fits, ⟨t', written⟩, -⟩ := recordable
  dsimp only [State.world] at answered written
  let reply := deps.launch s.history s.tree home
  let s₁ : State := ⟨reply.tree, (s.sink.put reply.printed).1, s.complaints ++ reply.complained,
    .askedLauncher home :: s.history⟩
  have asked : (Flow.consult (.askedLauncher home) fun h t => deps.launch h t home).run s =
      .ok (.ok pid) s₁ := by
    rw [Flow.run_consult, answered]
  rw [startDaemon, EStateM.run_bind, asked]
  dsimp only
  rw [EStateM.run_bind]
  cases said : (Flow.writeLine
      ("Started VOLTTRON (PID: ".toList ++ Numeral.ofNat pid ++ [')'])).run s₁ with
  | ok _ s₂ =>
    have tree : s₂.tree = reply.tree := (keepsTree_writeLine _).of_ok said
    dsimp only
    rw [EStateM.run_bind, run_recordPid, tree, written]
    exact .inl ⟨_, rfl, recorded?_of_write written fits⟩
  | error e s₂ =>
    have world : s₂.world = s₁.world := (keeps_writeLine world_deaf _).of_error said
    obtain rfl : e = outputFull := Flow.write_error said
    exact .inr ⟨s₂, rfl, congrArg World.tree world, congrArg World.history world⟩

theorem keeps_record_afterLaunch (settings : Settings) (cwd : Path)
    (kept : ∀ h t, PidRecord.recorded? (deps.probe h t home).tree here home =
      PidRecord.recorded? t here home)
    (installs : List Install.Outcome) (pid? : Option Nat) :
    Keeps (fun s => PidRecord.recorded? s.tree here home)
      (afterLaunch settings cwd deps installs home pid?) := by
  have waits : Keeps (fun s => PidRecord.recorded? s.tree here home)
      (waitUntilReady deps settings home) := by
    refine .bind (fun _ => rfl) fun _ => .bind (keeps_write (fun _ _ => rfl) _) fun _ =>
      .bind ?_ fun _ => .bind (keeps_writeLine (fun _ _ => rfl) _) fun _ => .pure _
    exact keeps_pollFrom (fun _ _ => rfl) (fun s => kept s.history s.tree) (fun _ _ => rfl) _ _
  exact .bind waits fun _ => .bind (keeps_reportReadiness (fun _ _ => rfl) _ _) fun _ =>
    .bind (keeps_lines (fun _ _ => rfl) _) fun _ => .pure _

theorem record_of_proceed (settings : Settings) (cwd : Path) (installs : List Install.Outcome)
    (recordable : Recordable deps here home s.world pid) :
    let result := (proceed settings here cwd deps installs home).run s
    (endOf result).history = s.history ∨
      PidRecord.recorded? (endOf result).tree here home = some pid ∨
      ∃ s', result = .error outputFull s' ∧ s'.tree = (deps.launch s.history s.tree home).tree ∧
        s'.history = .askedLauncher home :: s.history := by
  intro result
  have goes : result = (announceHome settings cwd home >>= fun _ =>
      startDaemon deps here home >>= afterLaunch settings cwd deps installs home).run s := by
    rw [← proceed_eq]
  rw [goes, EStateM.run_bind]
  have said := keeps_announceHome world_deaf settings cwd home s
  cases announced : (announceHome settings cwd home).run s with
  | error e s₁ =>
    rw [announced] at said
    exact .inl (congrArg World.history said)
  | ok _ s₁ =>
    rw [announced] at said
    have same : s₁.world = s.world := said
    have tree : s₁.tree = s.tree := congrArg World.tree same
    have history : s₁.history = s.history := congrArg World.history same
    rw [← same] at recordable
    rw [← tree, ← history]
    dsimp only
    rw [EStateM.run_bind]
    rcases run_startDaemon_of_recordable recordable with
      ⟨s₂, started, recorded⟩ | ⟨s₂, ended, left, noted⟩
    · rw [started]
      have keeps := keeps_record_afterLaunch settings cwd recordable.kept installs (some pid) s₂
      exact .inr (.inl (keeps.trans recorded))
    · rw [ended]
      exact .inr (.inr ⟨s₂, rfl, left, noted⟩)

theorem Passage.record {result : EStateM.Result Halt State Report} {w : World}
    (went : Passage settings here cwd deps t limit result)
    (settles : Settles settings here cwd deps (installed settings here cwd deps ⟨t, []⟩).2 home w)
    (recordable : Recordable deps here home w pid)
    (asked : .askedLauncher home ∈ (endOf result).history) :
    PidRecord.recorded? (endOf result).tree here home = some pid ∨
      ∃ s, result = .error outputFull s ∧ s.tree = (deps.launch w.history w.tree home).tree ∧
        .builtProbe home ∉ s.history := by
  cases went with
  | cut ended =>
    have before := (history_of_opening_error ended).trans (suffix_settledHistory settings cwd home _)
    exact (isEarly_of_suffix before asked).elim
  | @failed failure s₁ s₂ world fails ended =>
    have before := history_settleHome settings here cwd deps s₁
    rw [ended, show s₁.history = _ from congrArg World.history world] at before
    exact (isEarly_of_suffix before asked).elim
  | @settled home' s₁ s₂ world settles' =>
    rw [world] at settles'
    obtain ⟨rfl, rfl⟩ := settles.unique settles'
    have settled : s₂.history <:+ settledHistory settings cwd home' _ := ⟨[], settles'.history⟩
    rcases record_of_proceed settings cwd _ recordable with
      same | recorded | ⟨s', full, left, noted⟩
    · rw [same] at asked
      exact (isEarly_of_suffix settled asked).elim
    · exact .inl recorded
    · refine .inr ⟨s', full, left, fun built => ?_⟩
      rw [noted] at built
      rcases List.mem_cons.1 built with other | built
      · cases other
      · exact (isEarly_of_suffix settled built).elim

end Start

/-- A daemon that was started has its number in the record when the run ends, with a report or with
an error, provided that the record can be written and that no probe spoils it. The one exception is
a run that ends with its output full before the probe is built: the announcement of the daemon was
not taken, and the tree is as the launcher has left it. -/
theorem run_records_daemon (settings : Settings) (here : Location) (cwd : Path)
    (deps : Collaborators) (t : Tree) (limit : Option Nat) (home : Path) (w : World) (pid : Nat)
    (settles : Settles settings here cwd deps (installed settings here cwd deps ⟨t, []⟩).2 home w)
    (recordable : Recordable deps here home w pid) :
    let result := (run settings here cwd deps).run (.start t ⟨[], limit⟩)
    .askedLauncher home ∈ (endOf result).history →
      PidRecord.recorded? (endOf result).tree here home = some pid ∨
        ∃ s, result = .error outputFull s ∧ s.tree = (deps.launch w.history w.tree home).tree ∧
          .builtProbe home ∉ s.history := by
  intro result asked
  exact (passage settings here cwd deps t limit).record settles recordable asked

theorem exists_ok_of_toBool {α : Type} {r : Except Failure α} (there : r.toBool = true) :
    ∃ a, r = .ok a := by
  cases r with
  | error failure => cases there
  | ok a => exact ⟨a, rfl⟩

theorem run_records_daemon_before_the_dots :
    let result := (run .standard ["w".toList] "/w".toList obliging).run
      (.start workedIn ⟨[], some 250⟩)
    answerOf? result = none ∧
      PidRecord.recorded? (endOf result).tree ["w".toList] "my \"home".toList = some 7 := by
  intro result
  let launching := (untilLaunch .standard ["w".toList] "/w".toList obliging).run
    (.start workedIn ⟨[], some 250⟩)
  have came : launching = .ok
      ([⟨"volttron-lib-zmq".toList, .registry "volttron-lib-zmq".toList, .installed⟩,
        ⟨"volttron-lib-auth".toList, .registry "volttron-lib-auth".toList, .installed⟩],
        "my \"home".toList) (endOf launching) := eq_ok_of_answerOf? (by decide +kernel)
  have writable : ∃ t', PidRecord.write (endOf launching).tree ["w".toList] "my \"home".toList 7 =
      .ok t' := exists_ok_of_toBool (by decide +kernel)
  have built : .builtProbe "my \"home".toList ∈ (endOf result).history := by decide +kernel
  refine ⟨by decide +kernel, ?_⟩
  rcases run_records_daemon .standard ["w".toList] "/w".toList obliging workedIn (some 250)
    "my \"home".toList _ 7 (untilLaunch_ok came) ⟨rfl, by decide, writable, fun _ _ => rfl⟩
    (by decide +kernel) with recorded | ⟨s, ended, -, unbuilt⟩
  · exact recorded
  · rw [show result = _ from ended] at built
    exact absurd built unbuilt

/-- The output is full in the line that announces the daemon: the daemon runs, its record could be
written, and there is none. -/
theorem run_leaves_daemon_unrecorded :
    let result := (run .standard ["w".toList] "/w".toList obliging).run
      (.start workedIn ⟨[], some 220⟩)
    (∀ h t, (obliging.launch h t "my \"home".toList).answer = .ok 7) ∧
      answerOf? result = none ∧ .askedLauncher "my \"home".toList ∈ (endOf result).history ∧
      (PidRecord.write (endOf result).tree ["w".toList] "my \"home".toList 7).toBool = true ∧
      PidRecord.recorded? (endOf result).tree ["w".toList] "my \"home".toList = none := by
  intro result
  exact ⟨fun _ _ => rfl, by decide +kernel, by decide +kernel, by decide +kernel, by decide +kernel⟩

end PlatformLauncher.Bootstrap
