import PlatformLauncher.Failure
import PlatformLauncher.Text.Clusters
import PlatformLauncher.Text.Lines
import PlatformLauncher.Text.Octets

/-!
A question when the input is no terminal. The answer is the first line, with each backspace taking
away what was typed before it; the question is put in words only where the environment names a terminal
on which no line can be edited. Main statement: `rubbedOut_of_not_mem`, a line without backspaces is
the answer as it stands.
-/
namespace PlatformLauncher.CommandLine.Prompt

def plainTerminals : List Text := ["dumb".toList, "cons25".toList, "emacs".toList]

/-- Whatever the input is, such a terminal is shown the question. -/
def isShown (environment : List (Text × Text)) : Bool :=
  match environment.lookup "TERM".toList with
  | some terminal => plainTerminals.contains (terminal.map Char.toLower)
  | none => false

def backspace : Text := ['\x08']

def rubOut (kept : List Text) (cluster : Text) : List Text :=
  if cluster = backspace then kept.tail else cluster :: kept

/-- What one backspace takes away is what a reader sees as one character. -/
def rubbedOut (line : Text) : Text := ((Text.clusters line).foldl rubOut []).reverse.flatten

theorem foldl_rubOut {clusters : List Text} (h : backspace ∉ clusters) (kept : List Text) :
    clusters.foldl rubOut kept = clusters.reverse ++ kept := by
  induction clusters generalizing kept with
  | nil => rfl
  | cons c r ih =>
    simp only [List.mem_cons, not_or] at h
    simp [rubOut, Ne.symm h.1, ih h.2]

theorem rubbedOut_of_not_mem {line : Text} (h : '\x08' ∉ line) : rubbedOut line = line := by
  have none : backspace ∉ Text.clusters line := fun m => h (by
    rw [← Text.clusters_flatten line]
    exact List.mem_flatten.2 ⟨backspace, m, by simp [backspace]⟩)
  rw [rubbedOut, foldl_rubOut none]
  simp [Text.clusters_flatten]

def lineFeed : UInt8 := 10

def lineText (complete : Bool) (line : Text) : Text :=
  if complete then Text.dropReturn line else line

def unreadable : Failure :=
  .context "Failed to read input".toList
    (.context Fault.notUtf8.message (.fault .notUtf8))

/-- The answer; nothing at the end of the input. What follows the first line is not looked at. -/
def answer (input : Octets) : Except Failure (Option Text) :=
  if input.isEmpty then .ok none
  else
    match Octets.decode? (input.takeWhile (· != lineFeed)) with
    | some line => .ok (some (rubbedOut (lineText (input.contains lineFeed) line)))
    | none => .error unreadable

end PlatformLauncher.CommandLine.Prompt
