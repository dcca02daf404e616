import PlatformLauncher.Proofs.Bootstrap.Outcome
import PlatformLauncher.Proofs.Bootstrap.Truncation

/-!
How far a run comes when its output may be limited: it is cut off during the installs, or one of its
stages fails, or it goes on from a home that is settled. In each case the world it has come to is the
one that the errands lead to. Main statements: `passage` for the whole run and `untilLaunch_ok` for
the moment at which the daemon is started.
-/
namespace PlatformLauncher.Bootstrap

section Parts

variable (settings : Settings) (here : Location) (cwd : Path) (deps : Collaborators)

def chosenHome (w : World) : Path :=
  match answerIn settings cwd deps w with
  | .ok answer => Home.resolve answer (offeredHome settings cwd)
  | .error _ => offeredHome settings cwd

def announceHome (home : Path) : Flow Unit := do
  Flow.writeLine ("VOLTTRON_HOME set to ".toList ++ home)
  Flow.writeLine ("Saved to ".toList ++ envFileOf settings cwd)

def untilLaunch : Flow (List Install.Outcome × Path) := do
  let installs ← opening settings here cwd deps
  let home ← settleHome settings here cwd deps
  announceHome settings cwd home
  pure (installs, home)

def afterLaunch (installs : List Install.Outcome) (home : Path) (pid : Option Nat) :
    Flow Report := do
  let readiness ← waitUntilReady deps settings home
  reportReadiness settings readiness
  (guidance settings (envFileOf settings cwd)).forM Flow.writeLine
  pure ⟨installs, home, envFileOf settings cwd, pid, readiness⟩

theorem proceed_eq (installs : List Install.Outcome) (home : Path) :
    proceed settings here cwd deps installs home = (do
      announceHome settings cwd home
      let pid ← startDaemon deps here home
      afterLaunch settings cwd deps installs home pid) := by
  simp only [proceed, announceHome, afterLaunch, bind_assoc]

theorem run_eq_launch :
    run settings here cwd deps = (do
      let settled ← untilLaunch settings here cwd deps
      let pid ← startDaemon deps here settled.2
      afterLaunch settings cwd deps settled.1 settled.2 pid) := by
  simp only [run_eq, proceed_eq, untilLaunch, bind_assoc, pure_bind]

end Parts

theorem keeps_announceHome {γ : Type} {view : State → γ}
    (deaf : ∀ s k, view { s with sink := k } = view s) (settings : Settings) (cwd home : Path) :
    Keeps view (announceHome settings cwd home) :=
  .bind (keeps_writeLine deaf _) fun _ => keeps_writeLine deaf _

theorem mirrors_announceHome (settings : Settings) (cwd home : Path) :
    Mirrors (announceHome settings cwd home) (pure ()) :=
  .before (mirrors_writeLine _) (mirrors_writeLine _)

theorem world_deaf (s : State) (k : Sink) : State.world { s with sink := k } = s.world := rfl

section Worlds

variable {α : Type} {settings : Settings} {here : Location} {cwd : Path} {deps : Collaborators}
  {t : Tree} {limit : Option Nat} {s : State}

theorem world_of_ok {m : Flow α} {q : Errand α} {a : α} (mirrors : Mirrors m q)
    (truncates : Truncates m) (e : m.run (.start t ⟨[], limit⟩) = .ok a s) :
    a = (q.run ⟨t, []⟩).1 ∧ s.world = (q.run ⟨t, []⟩).2 := by
  obtain ⟨s', full, world, -⟩ := mirrors (.start t .unlimited) rfl
  cases limit with
  | none =>
    cases full.symm.trans e
    exact ⟨rfl, world⟩
  | some n =>
    rw [start_limited] at e
    rcases truncates.limited (.start t .unlimited) n rfl with same | ⟨⟨s'', ended⟩, -, -, -⟩
    · rw [full] at same
      cases same.symm.trans e
      exact ⟨rfl, world⟩
    · cases ended.symm.trans e

theorem opening_ok {installs : List Install.Outcome}
    (e : (opening settings here cwd deps).run (.start t ⟨[], limit⟩) = .ok installs s) :
    installs = (installed settings here cwd deps ⟨t, []⟩).1 ∧
      s.world = (installed settings here cwd deps ⟨t, []⟩).2 :=
  world_of_ok (mirrors_opening deps here cwd settings) (truncates_opening settings here cwd deps) e

theorem history_of_opening_error {h : Halt}
    (e : (opening settings here cwd deps).run (.start t ⟨[], limit⟩) = .error h s) :
    s.history <:+ (installed settings here cwd deps ⟨t, []⟩).2.history := by
  obtain ⟨s', full, world, -⟩ := mirrors_opening deps here cwd settings (.start t .unlimited) rfl
  have cut := (truncates_opening settings here cwd deps).history_suffix t limit
  rw [e, full] at cut
  exact cut.trans ⟨[], congrArg World.history world⟩

theorem Settles.home_eq {w w' : World} {home : Path}
    (settles : Settles settings here cwd deps w home w') : home = chosenHome settings cwd deps w := by
  obtain ⟨answer, answered, named⟩ := settles.answered
  simp [chosenHome, answered, named]

theorem settles_of_settleHome_ok {s' : State} {home : Path}
    (e : (settleHome settings here cwd deps).run s = .ok home s') :
    Settles settings here cwd deps s.world home s'.world := by
  rcases fails_or_settles settings here cwd deps s.world with
    ⟨failure, fails⟩ | ⟨home', w', settles⟩
  · obtain ⟨s'', failed⟩ := run_settleHome_of_fails fails
    cases failed.symm.trans e
  · obtain ⟨s'', settled, rfl, -⟩ := run_settleHome_of_settles settles
    cases settled.symm.trans e
    exact settles

theorem fails_of_settleHome_error {s' : State} {e : Halt}
    (ended : (settleHome settings here cwd deps).run s = .error e s') :
    ∃ failure, e = .failed failure ∧ Fails settings here cwd deps s.world failure := by
  rcases fails_or_settles settings here cwd deps s.world with
    ⟨failure, fails⟩ | ⟨home', w', settles⟩
  · obtain ⟨s'', failed⟩ := run_settleHome_of_fails fails
    cases failed.symm.trans ended
    exact ⟨failure, rfl, fails⟩
  · obtain ⟨s'', settled, -, -⟩ := run_settleHome_of_settles settles
    cases settled.symm.trans ended

theorem untilLaunch_ok {installs : List Install.Outcome} {home : Path}
    (e : (untilLaunch settings here cwd deps).run (.start t ⟨[], limit⟩) = .ok (installs, home) s) :
    Settles settings here cwd deps (installed settings here cwd deps ⟨t, []⟩).2 home s.world := by
  obtain ⟨installs', s₁, opened, e⟩ := Flow.bind_ok e
  obtain ⟨home', s₂, settled, e⟩ := Flow.bind_ok e
  obtain ⟨_, s₃, announced, e⟩ := Flow.bind_ok e
  cases e
  have settles := settles_of_settleHome_ok settled
  rw [(opening_ok opened).2] at settles
  rw [(keeps_announceHome world_deaf _ _ _).of_ok announced]
  exact settles

variable (settings here cwd deps t limit) in
inductive Passage : EStateM.Result Halt State Report → Prop
  | cut {e : Halt} {s : State}
      (ended : (opening settings here cwd deps).run (.start t ⟨[], limit⟩) = .error e s) :
      Passage (.error e s)
  | failed {failure : Failure} {s₁ s₂ : State}
      (world : s₁.world = (installed settings here cwd deps ⟨t, []⟩).2)
      (fails : Fails settings here cwd deps s₁.world failure)
      (ended : (settleHome settings here cwd deps).run s₁ = .error (.failed failure) s₂) :
      Passage (.error (.failed failure) s₂)
  | settled {home : Path} {s₁ s₂ : State}
      (world : s₁.world = (installed settings here cwd deps ⟨t, []⟩).2)
      (settles : Settles settings here cwd deps s₁.world home s₂.world) :
      Passage ((proceed settings here cwd deps
        (installed settings here cwd deps ⟨t, []⟩).1 home).run s₂)

variable (settings here cwd deps t limit) in
theorem passage :
    Passage settings here cwd deps t limit
      ((run settings here cwd deps).run (.start t ⟨[], limit⟩)) := by
  rw [run_eq, EStateM.run_bind]
  cases opened : (opening settings here cwd deps).run (.start t ⟨[], limit⟩) with
  | error e s => exact .cut opened
  | ok installs s₁ =>
    obtain ⟨rfl, world⟩ := opening_ok opened
    dsimp only
    rw [EStateM.run_bind]
    cases settled : (settleHome settings here cwd deps).run s₁ with
    | error e s₂ =>
      obtain ⟨failure, rfl, fails⟩ := fails_of_settleHome_error settled
      exact .failed world fails settled
    | ok home s₂ => exact .settled world (settles_of_settleHome_ok settled)

end Worlds

end PlatformLauncher.Bootstrap
