import PlatformLauncher.Settings.Basic
import PlatformLauncher.Text.Blank
import PlatformLauncher.Text.Properties

/-!
What settings must hold before anything is done with them. Main statement: `flaw?_eq_none_iff`,
settings pass exactly when they poll at least once and have no blank name or program.
-/
namespace PlatformLauncher.Settings

inductive Section where
  | installer
  | daemon
  | probe
  | shutdown
deriving DecidableEq, Repr

def Section.name : Section → Text
  | installer => "installer".toList
  | daemon => "daemon".toList
  | probe => "probe".toList
  | shutdown => "shutdown".toList

inductive Flaw where
  | noAttempts
  | blankPackage (localDir : Option Path)
  | blankProgram (s : Section)
deriving DecidableEq, Repr

def Flaw.message : Flaw → Text
  | noAttempts => "poll.attempts must be at least 1".toList
  | blankPackage none => "package entry with empty name (local_dir: None)".toList
  | blankPackage (some dir) =>
    "package entry with empty name (local_dir: Some(".toList ++ Text.quoted dir ++ "))".toList
  | blankProgram s => s.name ++ ".program must not be empty".toList

def blankPackage? (packages : List PackageEntry) : Option PackageEntry :=
  packages.find? fun p => Text.isBlankText p.name

def blankSection? (s : Settings) : Option Section :=
  if Text.isBlankText s.installer.program then some .installer
  else if Text.isBlankText s.daemon.program then some .daemon
  else if Text.isBlankText s.probe.program then some .probe
  else if Text.isBlankText s.shutdown.program then some .shutdown
  else none

/-- The first flaw: the attempts, then the packages in order, then the programs. -/
def flaw? (s : Settings) : Option Flaw :=
  if s.poll.attempts = 0 then some .noAttempts
  else
    match blankPackage? s.packages with
    | some p => some (.blankPackage p.localDir)
    | none => (blankSection? s).map .blankProgram

theorem flaw?_eq_none_iff {s : Settings} :
    s.flaw? = none ↔
      s.poll.attempts ≠ 0 ∧ (∀ p ∈ s.packages, Text.isBlankText p.name = false) ∧
        Text.isBlankText s.installer.program = false ∧
        Text.isBlankText s.daemon.program = false ∧
        Text.isBlankText s.probe.program = false ∧
        Text.isBlankText s.shutdown.program = false := by
  unfold flaw?
  split
  · next h => simp [h]
  · next h =>
    split
    · next p hp =>
      have := List.find?_some hp
      simp only [reduceCtorEq, false_iff, not_and]
      intro _ all
      rw [all p (List.mem_of_find?_eq_some hp)] at this
      exact absurd this (by simp)
    · next hp =>
      have all : ∀ p ∈ s.packages, Text.isBlankText p.name = false := by
        simpa [blankPackage?] using hp
      simp only [Option.map_eq_none_iff, blankSection?]
      constructor
      · intro e
        refine ⟨h, all, ?_⟩
        repeat' split at e
        all_goals simp_all
      · rintro ⟨-, -, a, b, c, d⟩
        simp [a, b, c, d]

end PlatformLauncher.Settings
