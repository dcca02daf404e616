import PlatformLauncher.Proofs.Bootstrap.DaemonRecord
import PlatformLauncher.Proofs.Tree.Alike

/-!
A bootstrap that is run again. The directories are there, the env file and the record lead to the
files that the first run has left, and each of them is written anew with what it holds; when the two
are one file, the record is the later one both times. Main statement: `run_again`.
-/
namespace PlatformLauncher.Bootstrap

section Probing

variable (deps : Collaborators) (home : Path)

def probeAnswer (ms : Nat) : Nat → World → Bool
  | 0, w => (deps.probe w.history w.tree home).answer
  | k + 1, w =>
    probeAnswer ms k
      ⟨(deps.probe w.history w.tree home).tree, .slept ms :: .probed :: w.history⟩

def awaiting (here : Location) (w : World) : World :=
  let launched := ((Errand.launch deps here home).run w).2
  ⟨launched.tree, .builtProbe home :: launched.history⟩

variable {deps home}

theorem pollFrom_congr {others : Collaborators} {policy : PollPolicy} {left : Nat} {w w' : World}
    (same : ∀ k < left, (∀ j < k, probeAnswer deps home policy.interval j w = false) →
      probeAnswer others home policy.interval k w' = probeAnswer deps home policy.interval k w) :
    (((Errand.poller others home).pollFrom policy left).run w').1 =
      (((Errand.poller deps home).pollFrom policy left).run w).1 := by
  induction left generalizing w w' with
  | zero => rfl
  | succ left ih =>
    have now : (others.probe w'.history w'.tree home).answer =
        (deps.probe w.history w.tree home).answer :=
      same 0 (Nat.succ_pos _) fun _ before => absurd before (Nat.not_lt_zero _)
    rw [run_pollFrom_succ, run_pollFrom_succ, now]
    cases answer : (deps.probe w.history w.tree home).answer with
    | true => rfl
    | false =>
      cases left with
      | zero => rfl
      | succ left =>
        rw [if_pos (Nat.succ_pos left), if_pos (Nat.succ_pos left)]
        refine ih fun k later unready => same (k + 1) (Nat.succ_lt_succ later) fun j before => ?_
        cases j with
        | zero => exact answer
        | succ j => exact unready j (Nat.lt_of_succ_lt_succ before)

end Probing

section Records

variable {t t' : Tree} {here : Location} {home : Path}

theorem recordedTree_eq (t : Tree) (here : Location) (home : Path) (pid : Nat) :
    recordedTree t here home pid =
      match t.write here (PidRecord.file home) (Octets.encode (Numeral.ofNat pid)) with
      | .ok t' => t'
      | .error _ => t := by
  unfold recordedTree PidRecord.write
  cases t.write here (PidRecord.file home) (Octets.encode (Numeral.ofNat pid)) <;> rfl

theorem envFile_write_again {t₀ t₁ : Tree} {envFile : Path} {l : Location} {old : Octets}
    (saved : EnvFile.write t₀ here envFile home = .ok t₁)
    (stands : t.status here envFile = .ok (l, .file old)) :
    EnvFile.write t here envFile home =
      .ok (t.put l (.file (Octets.encode (EnvFile.line home ++ ['\n'])))) := by
  rw [EnvFile.write, Tree.write_again (envFile_write_ok saved) stands]

theorem saved_again_alone {t₀ t₁ : Tree} {envFile : Path}
    (saved : EnvFile.write t₀ here envFile home = .ok t₁) :
    ∃ t₂, EnvFile.write t₁ here envFile home = .ok t₂ ∧ t₁.Alike t₂ := by
  obtain ⟨l, -, -, kept⟩ := Tree.status_of_write (envFile_write_ok saved)
  have alike := Tree.alike_put (Tree.isSlot_of_status kept).1 (Tree.get?_of_status_file kept)
  exact ⟨_, envFile_write_again saved kept, alike⟩

/-- The env file and the record may be one file: then the record is in it, before and after. -/
theorem saved_again_beside {t₀ t₁ t₂ : Tree} {envFile : Path} {pid : Nat}
    (saved : EnvFile.write t₀ here envFile home = .ok t₁)
    (wrote : t₁.write here (PidRecord.file home) (Octets.encode (Numeral.ofNat pid)) = .ok t₂) :
    ∃ t₃, EnvFile.write t₂ here envFile home = .ok t₃ ∧ t₂.Alike (recordedTree t₃ here home pid) := by
  let line := Octets.encode (EnvFile.line home ++ ['\n'])
  let number := Octets.encode (Numeral.ofNat pid)
  obtain ⟨l, -, -, kept⟩ := Tree.status_of_write (envFile_write_ok saved)
  obtain ⟨m, slot, put, stands⟩ := Tree.status_of_write wrote
  have kept' : t₂.status here envFile = .ok (l, .file (if l = m then number else line)) := by
    rw [put]
    exact Tree.status_put slot kept
  have stands' : (t₂.put l (.file line)).status here (PidRecord.file home) =
      .ok (m, .file (if m = l then line else number)) :=
    Tree.status_put (Tree.isSlot_of_status kept') stands
  refine ⟨_, envFile_write_again saved kept', ?_⟩
  rw [recordedTree_eq, Tree.write_again wrote stands']
  refine Tree.alike_put_put (Tree.isSlot_of_status kept').1 (Tree.isSlot_of_status stands).1
    (Tree.get?_of_status_file stands) fun apart => ?_
  rw [if_neg apart] at kept'
  exact Tree.get?_of_status_file kept'

theorem saved_again {t₀ t₁ : Tree} {envFile : Path}
    (saved : EnvFile.write t₀ here envFile home = .ok t₁) (pid? : Option Nat) :
    ∃ t₂, EnvFile.write (pid?.elim t₁ (recordedTree t₁ here home)) here envFile home = .ok t₂ ∧
      (pid?.elim t₁ (recordedTree t₁ here home)).Alike
        (pid?.elim t₂ (recordedTree t₂ here home)) := by
  cases pid? with
  | none => exact saved_again_alone saved
  | some pid =>
    simp only [Option.elim_some, recordedTree_eq t₁]
    cases wrote : t₁.write here (PidRecord.file home) (Octets.encode (Numeral.ofNat pid)) with
    | ok t₂ => exact saved_again_beside saved wrote
    | error fault =>
      obtain ⟨t₂, resaved, alike⟩ := saved_again_alone saved
      refine ⟨t₂, resaved, ?_⟩
      rw [recordedTree_eq, alike.write_error wrote]
      exact alike

end Records

section Second

variable {settings : Settings} {here : Location} {cwd : Path} {deps others : Collaborators} {t : Tree}

variable (settings here cwd deps others) in
/-- In a second run, from the world in which its operator is asked, those outside answer as they did
in the first one. The probes count up to the first that is ready. -/
structure AnswersAlike (w w' : World) : Prop where
  asked : answerIn settings cwd others w' = answerIn settings cwd deps w
  launched : ∀ {home v v'}, Settles settings here cwd deps w home v →
    Settles settings here cwd others w' home v' →
    (others.launch v'.history v'.tree home).answer.toOption =
      (deps.launch v.history v.tree home).answer.toOption
  probed : ∀ {home v v'}, Settles settings here cwd deps w home v →
    Settles settings here cwd others w' home v' →
    ∀ k < settings.poll.attempts.toNat,
      (∀ j < k,
        probeAnswer deps home settings.poll.intervalMs.toNat j (awaiting deps home here v) = false) →
      probeAnswer others home settings.poll.intervalMs.toNat k (awaiting others home here v') =
        probeAnswer deps home settings.poll.intervalMs.toNat k (awaiting deps home here v)

theorem Settles.again {w w' v : World} {home : Path} {pid? : Option Nat}
    (settles : Settles settings here cwd deps w home v)
    (asked : answerIn settings cwd others w' = answerIn settings cwd deps w)
    (tree : w'.tree = pid?.elim v.tree (recordedTree v.tree here home)) :
    ∃ v', Settles settings here cwd others w' home v' ∧
      w'.tree.Alike (pid?.elim v'.tree (recordedTree v'.tree here home)) := by
  have made : w'.tree.makeDirectories here home = (w'.tree, none) := by
    by_cases named : home = []
    · rw [named]
      exact Tree.makeDirectories_nil _ here
    obtain ⟨place, stands⟩ := settles.directory named
    have there : w'.tree.status here home = .ok (place, .directory) := by
      rw [tree]
      cases pid? with
      | none => exact stands
      | some pid => exact (retains_recordedTree _ _ _ _).status stands
    exact Tree.makeDirectories_of_status there
  obtain ⟨answer, answered, named⟩ := settles.answered
  obtain ⟨t₂, saved, alike⟩ := saved_again settles.saved pid?
  rw [← tree] at saved alike
  refine ⟨⟨t₂, settledHistory settings cwd home w'.history⟩, ?_, alike⟩
  refine ⟨⟨answer, asked.trans answered, named⟩, ?_, ?_, rfl⟩
  · rw [Home.ensure, made]
    rfl
  · rw [Home.ensure, made]
    exact saved

theorem AnswersAlike.verdict_eq {w w' v v' : World} {home : Path}
    (same : AnswersAlike settings here cwd deps others w w')
    (settles : Settles settings here cwd deps w home v)
    (settles' : Settles settings here cwd others w' home v') :
    verdict settings here others home v' = verdict settings here deps home v :=
  pollFrom_congr fun k few unready => same.probed settles settles' k few unready

/-- A bootstrap that has reported reports the same when it is run again on the tree it has left, if
those outside answer the same, and every entry of the tree is as it was. -/
theorem run_again (settings : Settings) (here : Location) (cwd : Path) (deps others : Collaborators)
    (keep : deps.KeepTree) (keep' : others.KeepTree) (t : Tree) (report : Report) (s : State)
    (ends : (run settings here cwd deps).run (.start t .unlimited) = .ok report s)
    (same : AnswersAlike settings here cwd deps others
      (installed settings here cwd deps ⟨t, []⟩).2
      (installed settings here cwd others ⟨s.tree, []⟩).2) :
    ∃ report' s', (run settings here cwd others).run (.start s.tree .unlimited) = .ok report' s' ∧
      report'.home = report.home ∧ report'.envFile = report.envFile ∧ report'.pid = report.pid ∧
      report'.readiness = report.readiness ∧ (∀ l, s'.tree.get? l = s.tree.get? l) ∧
      s'.tree.sealed_ = s.tree.sealed_ := by
  obtain ⟨home, v, settles, fits, rfl⟩ := (run_reports_iff rfl report).1 ⟨s, ends⟩
  have tree : s.tree = ((deps.launch v.history v.tree home).answer.toOption).elim v.tree
      (recordedTree v.tree here home) := by
    obtain ⟨v₁, settles₁, left⟩ := (passage settings here cwd deps t none).settled_of_report keep ends
    obtain ⟨-, rfl⟩ := settles.unique settles₁
    exact left
  have start : (installed settings here cwd others ⟨s.tree, []⟩).2.tree = s.tree :=
    installed_tree keep' s.tree
  obtain ⟨v', settles', alike⟩ := settles.again same.asked (start.trans tree)
  have found := same.verdict_eq settles settles'
  have started := same.launched settles settles'
  have fits' : ¬ Overflows settings here others home v' := by
    unfold Overflows at fits ⊢
    rwa [found]
  obtain ⟨s', ends'⟩ := run_of_not_overflows (s := .start s.tree .unlimited) rfl settles' fits'
  refine ⟨_, s', ends', rfl, rfl, started, found, ?_⟩
  have tree' : s'.tree = ((others.launch v'.history v'.tree home).answer.toOption).elim v'.tree
      (recordedTree v'.tree here home) := by
    obtain ⟨v₁, settles₁, left⟩ :=
      (passage settings here cwd others s.tree none).settled_of_report keep' ends'
    obtain ⟨-, rfl⟩ := settles'.unique settles₁
    exact left
  rw [tree', started]
  rw [start] at alike
  exact ⟨alike.entries, alike.seals⟩

def entwined : Tree where
  entries :=
    [(["w".toList], .directory),
      ([".volttron_env".toList, "w".toList], .link "vh/bootstrap.pid".toList)]
  sealed_ := []

def hesitant : Collaborators where
  install _ t _ := .quiet (.ok ()) t
  ask _ _ _ := .ok (some "vh".toList)
  launch _ t _ := .quiet (.ok 7) t
  probe h t _ := .quiet (h.head? == some (.slept PollPolicy.standard.interval)) t

theorem answersAlike_hesitant (here : Location) (cwd : Path) (w w' : World) :
    AnswersAlike .standard here cwd hesitant hesitant w w' where
  asked := rfl
  launched _ _ := rfl
  probed _ _ k _ unready :=
    match k with
    | 0 => rfl
    | 1 => rfl
    | k + 2 => Bool.noConfusion (show true = false from unready 1 (by omega))

theorem run_again_when_entwined :
    let first := (run .standard ["w".toList] "/w".toList hesitant).run (.start entwined .unlimited)
    hesitant.KeepTree ∧
      (answerOf? first).map Report.pid = some (some 7) ∧
      ((endOf first).tree.status ["w".toList] "/w/.volttron_env".toList).toOption =
        some (["bootstrap.pid".toList, "vh".toList, "w".toList], .file (Octets.encode ['7'])) ∧
      ∃ report s, (run .standard ["w".toList] "/w".toList hesitant).run
          (.start (endOf first).tree .unlimited) = .ok report s ∧
        report.home = "vh".toList ∧ report.pid = some 7 ∧ report.readiness = .ready 2 ∧
        ∀ l, s.tree.get? l = (endOf first).tree.get? l := by
  intro first
  have keep : hesitant.KeepTree := ⟨⟨fun _ _ _ => rfl, fun _ _ _ => rfl⟩, fun _ _ _ => rfl⟩
  have ends : first = .ok
      ⟨[⟨"volttron-lib-zmq".toList, .registry "volttron-lib-zmq".toList, .installed⟩,
        ⟨"volttron-lib-auth".toList, .registry "volttron-lib-auth".toList, .installed⟩],
        "vh".toList, "/w/.volttron_env".toList, some 7, .ready 2⟩ (endOf first) :=
    eq_ok_of_answerOf? (by decide +kernel)
  obtain ⟨report, s, ends', home, -, pid, readiness, entries, -⟩ :=
    run_again .standard ["w".toList] "/w".toList hesitant hesitant keep keep entwined _ _ ends
      (answersAlike_hesitant _ _ _ _)
  exact ⟨keep, by decide +kernel, by decide +kernel, report, s, ends', home, pid, readiness, entries⟩

end Second

end PlatformLauncher.Bootstrap
