import Mathlib.Logic.ExistsUnique
import PlatformLauncher.Proofs.Bootstrap.KeptHome

/-!
The env file as the launcher itself reads it. `Text.Lined` says apart from the reader how a text falls
into lines, and `Text.existsUnique_lined` that there is one way. The first line that exports a home
decides, and a home that was written comes back unless it holds a line feed. Main statement:
`read_written_home`.
-/
namespace PlatformLauncher

namespace Text

/-- How a text falls into lines. A line feed ends each of them, together with one carriage return
right before it; the last line need not be ended, and then it keeps all it has. -/
inductive Lined : Text → List Text → Prop
  | none : Lined [] []
  | unended {line : Text} (nonempty : line ≠ []) (oneLine : '\n' ∉ line) : Lined line [line]
  | fed {line rest : Text} {more : List Text} (oneLine : '\n' ∉ line) (bare : ¬ ['\r'] <:+ line)
      (further : Lined rest more) : Lined (line ++ '\n' :: rest) (line :: more)
  | returned {line rest : Text} {more : List Text} (oneLine : '\n' ∉ line)
      (further : Lined rest more) : Lined (line ++ '\r' :: '\n' :: rest) (line :: more)

section Lines

variable {s rest line : Text} {ls more : List Text}

theorem feed_induction {P : Text → Prop} (unended : ∀ s, '\n' ∉ s → P s)
    (fed : ∀ line rest, '\n' ∉ line → P rest → P (line ++ '\n' :: rest)) (s : Text) : P s := by
  by_cases ends : '\n' ∈ s
  · obtain ⟨line, rest, whole, oneLine⟩ := List.eq_append_cons_of_mem ends
    have shorter : rest.length < s.length := by
      rw [whole, List.length_append, List.length_cons]
      omega
    rw [whole]
    exact fed line rest oneLine (feed_induction unended fed rest)
  · exact unended s ends
termination_by s.length

theorem lines_of_not_mem (nonempty : s ≠ []) (oneLine : '\n' ∉ s) : lines s = [s] := by
  rw [lines, pieces_eq_singleton oneLine, endLines, if_neg nonempty]

theorem Lined.lines_eq (lined : Lined s ls) : lines s = ls := by
  induction lined with
  | none => rfl
  | unended nonempty oneLine => exact lines_of_not_mem nonempty oneLine
  | fed oneLine bare _ ih => rw [lines_append_feed oneLine, dropReturn_of_bare bare, ih]
  | @returned line rest more oneLine _ ih =>
    have whole : '\n' ∉ line ++ ['\r'] := by simp [oneLine]
    rw [show line ++ '\r' :: '\n' :: rest = (line ++ ['\r']) ++ '\n' :: rest by simp,
      lines_append_feed whole, dropReturn_returned, ih]

theorem Lined.cons (oneLine : '\n' ∉ line) (further : Lined rest more) :
    Lined (line ++ '\n' :: rest) (dropReturn line :: more) := by
  by_cases ended : ['\r'] <:+ line
  · obtain ⟨shorter, rfl⟩ := ended
    rw [dropReturn_returned, List.append_assoc]
    refine .returned (fun found => oneLine ?_) further
    exact List.mem_append_left _ found
  · rw [dropReturn_of_bare ended]
    exact .fed oneLine ended further

theorem lined_lines (s : Text) : Lined s (lines s) := by
  induction s using feed_induction with
  | unended s oneLine =>
    by_cases empty : s = []
    · subst empty
      exact .none
    · rw [lines_of_not_mem empty oneLine]
      exact .unended empty oneLine
  | fed line rest oneLine ih =>
    rw [lines_append_feed oneLine]
    exact .cons oneLine ih

theorem existsUnique_lined (s : Text) : ∃! ls, Lined s ls :=
  ⟨lines s, lined_lines s, fun _ lined => lined.lines_eq.symm⟩

theorem not_mem_of_lined (lined : Lined s ls) : ∀ line ∈ ls, '\n' ∉ line := by
  induction lined with
  | none => exact nofun
  | unended _ oneLine => simpa using oneLine
  | fed oneLine _ _ ih => exact List.forall_mem_cons.2 ⟨oneLine, ih⟩
  | returned oneLine _ ih => exact List.forall_mem_cons.2 ⟨oneLine, ih⟩

theorem lines_append_feed_append (s rest : Text) :
    lines (s ++ '\n' :: rest) = lines (s ++ ['\n']) ++ lines rest := by
  induction s using feed_induction with
  | unended s oneLine =>
    rw [lines_append_feed oneLine, lines_append_feed oneLine]
    rfl
  | fed line more oneLine ih =>
    rw [List.append_assoc, List.append_assoc, List.cons_append, List.cons_append,
      lines_append_feed oneLine, lines_append_feed oneLine, ih, List.cons_append]

end Lines

end Text

namespace EnvFile

theorem home?_eq_some_iff {l : Text} {home : Path} : home? l = some home ↔ l = line home := by
  rw [home?, Option.bind_eq_some_iff]
  constructor
  · rintro ⟨rest, opened, closed⟩
    rw [Text.dropPrefix?_eq_some_iff.1 opened, Text.dropSuffix?_eq_some_iff.1 closed, line,
      List.append_assoc]
  · rintro rfl
    exact Option.bind_eq_some_iff.1 (home?_line home)

theorem home?_eq_none_iff {l : Text} : home? l = none ↔ ∀ home, l ≠ line home := by
  rw [Option.eq_none_iff_forall_ne_some]
  exact forall_congr' fun home => not_congr home?_eq_some_iff

theorem find?_eq_some_iff {text : Text} {ls : List Text} (lined : Text.Lined text ls) {home : Path} :
    find? text = some home ↔
      ∃ before after, ls = before ++ line home :: after ∧ ∀ l ∈ before, ∀ other, l ≠ line other := by
  simp only [find?, lined.lines_eq, List.findSome?_eq_some_iff, home?_eq_some_iff,
    home?_eq_none_iff]
  constructor
  · rintro ⟨before, _, after, whole, rfl, nowhere⟩
    exact ⟨before, after, whole, nowhere⟩
  · rintro ⟨before, after, whole, nowhere⟩
    exact ⟨before, _, after, whole, rfl, nowhere⟩

theorem find?_eq_none_iff {text : Text} {ls : List Text} (lined : Text.Lined text ls) :
    find? text = none ↔ ∀ l ∈ ls, ∀ home, l ≠ line home := by
  rw [find?, lined.lines_eq, List.findSome?_eq_none_iff]
  exact forall₂_congr fun l _ => home?_eq_none_iff

theorem find?_append_feed {text : Text} {home : Path} (found : find? (text ++ ['\n']) = some home)
    (rest : Text) : find? (text ++ '\n' :: rest) = some home := by
  rw [find?] at found ⊢
  rw [Text.lines_append_feed_append, List.findSome?_append, found, Option.some_or]

theorem find?_line_iff (home : Path) : find? (line home ++ ['\n']) = some home ↔ '\n' ∉ home := by
  refine ⟨fun found => ?_, fun oneLine => find?_line_append oneLine []⟩
  obtain ⟨before, after, whole, -⟩ := (find?_eq_some_iff (Text.lined_lines _)).1 found
  have oneLine := Text.not_mem_of_lined (Text.lined_lines _) (line home)
    (whole ▸ List.mem_append_right _ List.mem_cons_self)
  exact fun member => oneLine (by simp [line, member])

theorem read_of_status {t : Tree} {here place : Location} {envFile : Path} {text : Text}
    (stands : t.status here envFile = .ok (place, .file (Octets.encode text))) :
    read t here envFile = .ok (find? text) := by
  rw [read, Tree.readText_of_read (Tree.read_of_status stands)]

/-- A file stands at the path, whatever is in it, or nothing does and a file can be made there. -/
structure Writable (t : Tree) (here : Location) (p : Path) : Prop where
  name : Path.endsInSlash p = false
  unended : (∃ place content, t.status here p = .ok (place, .file content)) ∨
    ∃ place, t.locate true here p = (.vacant place, false) ∧ t.isSealed place = false

theorem Writable.writes {t : Tree} {here : Location} {envFile : Path}
    (writable : Writable t here envFile) (home : Path) :
    ∃ t', write t here envFile home = .ok t' := by
  obtain ⟨name, ⟨place, old, stands⟩ | ⟨place, located, unsealed⟩⟩ := writable
  · exact ⟨_, by rw [write, Tree.write_of_status stands name]⟩
  · refine ⟨t.put place (.file (Octets.encode (line home ++ ['\n']))), ?_⟩
    simp [write, Tree.write, name, located, unsealed]

theorem read_of_write {t t' : Tree} {here : Location} {envFile home : Path}
    (written : write t here envFile home = .ok t') :
    read t' here envFile = .ok (find? (line home ++ ['\n'])) := by
  obtain ⟨place, -, -, stands⟩ := Tree.status_of_write (Bootstrap.envFile_write_ok written)
  exact read_of_status stands

/-- Of an env file the first line counts that exports a home, however the lines end and whatever
follows; without one there is no home. So a home that is written into the env file is read back from
it just when there is no line feed in it, and it can be written wherever there is a file or room for
one. -/
theorem read_written_home (here : Location) (envFile : Path) :
    (∀ text, ∃! ls, Text.Lined text ls) ∧
      (∀ (t : Tree) (place : Location) (text : Text) (ls : List Text),
        t.status here envFile = .ok (place, .file (Octets.encode text)) → Text.Lined text ls →
          (∀ home, read t here envFile = .ok (some home) ↔
            ∃ before after, ls = before ++ line home :: after ∧
              ∀ l ∈ before, ∀ other, l ≠ line other) ∧
          (read t here envFile = .ok none ↔ ∀ l ∈ ls, ∀ home, l ≠ line home)) ∧
      (∀ (t t' : Tree) (place place' : Location) (text rest : Text) (home : Path),
        t.status here envFile = .ok (place, .file (Octets.encode (text ++ ['\n']))) →
          t'.status here envFile = .ok (place', .file (Octets.encode (text ++ '\n' :: rest))) →
            read t here envFile = .ok (some home) → read t' here envFile = .ok (some home)) ∧
      (∀ (t : Tree) (home : Path), Writable t here envFile →
        ∃ t', write t here envFile home = .ok t') ∧
      ∀ (t t' : Tree) (home : Path), write t here envFile home = .ok t' →
        (read t' here envFile = .ok (some home) ↔ '\n' ∉ home) := by
  refine ⟨Text.existsUnique_lined, ?_, ?_, fun t home writable => writable.writes home, ?_⟩
  · intro t place text ls stands lined
    rw [read_of_status stands]
    simp only [Except.ok.injEq]
    exact ⟨fun home => find?_eq_some_iff lined, find?_eq_none_iff lined⟩
  · intro t t' place place' text rest home stands stands' found
    rw [read_of_status stands, Except.ok.injEq] at found
    rw [read_of_status stands', find?_append_feed found]
  · intro t t' home written
    rw [read_of_write written, Except.ok.injEq]
    exact find?_line_iff home

def edited : Tree where
  entries :=
    [(["w".toList], .directory),
      ([".volttron_env".toList, "w".toList], .file (Octets.encode
        ("# export VOLTTRON_HOME=\"/old\"\nexport VOLTTRON_HOME=\"\r\n".toList ++
          "export VOLTTRON_HOME=\"/a \"b\\\"\r\nexport VOLTTRON_HOME=\"/late\"".toList)))]
  sealed_ := []

theorem read_written_home_edited :
    read edited ["w".toList] ".volttron_env".toList = .ok (some "/a \"b\\".toList) ∧
      (∃ t', write edited ["w".toList] ".volttron_env".toList (line "\r".toList) = .ok t' ∧
        read t' ["w".toList] ".volttron_env".toList = .ok (some (line "\r".toList))) ∧
      ∃ t', write edited ["w".toList] ".volttron_env".toList "a\"\nb".toList = .ok t' ∧
        read t' ["w".toList] ".volttron_env".toList ≠ .ok (some "a\"\nb".toList) := by
  obtain ⟨falls, counts, -, writes, readsBack⟩ :=
    read_written_home ["w".toList] ".volttron_env".toList
  obtain ⟨ls, lined, -⟩ := falls _
  obtain ⟨first, -⟩ := counts edited [".volttron_env".toList, "w".toList] _ ls rfl lined
  have writable : Writable edited ["w".toList] ".volttron_env".toList := ⟨rfl, .inl ⟨_, _, rfl⟩⟩
  refine ⟨(first _).2 ⟨ls.take 2, ls.drop 3, ?_, ?_⟩, ?_, ?_⟩
  · rw [← lined.lines_eq]
    decide +kernel
  · simp only [← home?_eq_none_iff]
    rw [← lined.lines_eq]
    decide +kernel
  · obtain ⟨t', written⟩ := writes edited (line "\r".toList) writable
    exact ⟨t', written, (readsBack _ _ _ written).2 (by decide)⟩
  · obtain ⟨t', written⟩ := writes edited "a\"\nb".toList writable
    exact ⟨t', written, fun same => (readsBack _ _ _ written).1 same (by decide)⟩

end EnvFile

end PlatformLauncher
