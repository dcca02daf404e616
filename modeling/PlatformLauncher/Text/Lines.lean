import PlatformLauncher.Text

/-!
The lines of a text. A line ends at a line feed; one carriage return directly before that line feed
belongs to the end and not to the line. Main statement: `lines_append_feed`, a first line without a
line feed is read off whatever follows it.
-/
namespace PlatformLauncher.Text

def dropReturn (line : Text) : Text := (dropSuffix? ['\r'] line).getD line

theorem dropReturn_of_bare {line : Text} (bare : ¬ ['\r'] <:+ line) :
    dropReturn line = line := by
  have kept : dropSuffix? ['\r'] line = none := by
    rw [Option.eq_none_iff_forall_not_mem]
    intro r found
    exact bare ⟨r, (dropSuffix?_eq_some_iff.1 found).symm⟩
  rw [dropReturn, kept, Option.getD_none]

theorem dropReturn_returned (line : Text) : dropReturn (line ++ ['\r']) = line := by
  rw [dropReturn, dropSuffix?_eq_some_iff.2 rfl, Option.getD_some]

def endLines : List Text → List Text
  | [] => []
  | [last] => if last = [] then [] else [last]
  | line :: next :: rest => dropReturn line :: endLines (next :: rest)

def lines (s : Text) : List Text := endLines (pieces '\n' s)

theorem lines_append_feed {line : Text} (h : '\n' ∉ line) (rest : Text) :
    lines (line ++ '\n' :: rest) = dropReturn line :: lines rest := by
  unfold lines
  rw [pieces_append_mark h]
  cases hp : pieces '\n' rest with
  | nil => exact absurd hp (pieces_ne_nil '\n' rest)
  | cons first more => rfl

end PlatformLauncher.Text
