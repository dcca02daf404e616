import PlatformLauncher.Proofs.Tree.Canonical
import PlatformLauncher.Source.Basic

/-!
The argument for the installer as a source of its own. An absolute path is no web address, and a path
without links leads to the directory or the file it was made for, so that the kind of a source stays
what it was. Only the name of a wheel can get lost on the way through a link. Main statement:
`classify_arg`.
-/
namespace PlatformLauncher

namespace Url

theorem head?_cleaned {s : Text} (slash : s.head? = some '/') : (cleaned s).head? = some '/' := by
  obtain ⟨r, rfl⟩ := List.head?_eq_some_iff.1 slash
  have front : ('/' :: r).dropWhile isControlOrSpace = '/' :: r := rfl
  have back : (r.reverse ++ ['/']).dropWhile isControlOrSpace =
      r.reverse.dropWhile isControlOrSpace ++ ['/'] := by
    rw [List.dropWhile_append]
    split
    · next empty => rw [List.isEmpty_iff.1 empty]; rfl
    · rfl
  unfold cleaned
  rw [front, List.reverse_cons, back, List.reverse_append, List.reverse_singleton,
    List.singleton_append, List.filter_cons_of_pos (by decide)]
  rfl

theorem splitScheme?_of_slash {s : Text} (slash : s.head? = some '/') : splitScheme? s = none := by
  obtain ⟨r, rfl⟩ := List.head?_eq_some_iff.1 slash
  have later : Text.cutAt? ':' ('/' :: r) =
      (Text.cutAt? ':' r).map fun cut => ('/' :: cut.1, cut.2) := rfl
  unfold splitScheme?
  rw [later]
  cases Text.cutAt? ':' r with
  | none => rfl
  | some cut => rfl

theorem isUrl_of_isAbsolute {p : Path} (absolute : Path.isAbsolute p = true) : isUrl p = false := by
  have slash : p.head? = some '/' := by simpa [Path.isAbsolute] using absolute
  unfold isUrl scheme?
  rw [splitScheme?_of_slash (head?_cleaned slash)]
  rfl

end Url

namespace Source

/-- Why a text is taken for a source of its kind. -/
inductive Recognised (t : Tree) (here : Location) (s : Text) : Source → Prop
  | url (address : Url.isUrl s = true) : Recognised t here s (.url s)
  | directory {place : Location} (noAddress : Url.isUrl s = false)
      (leads : t.status here s = .ok (place, .directory)) :
      Recognised t here s (.directory (absolute t here s))
  | wheel {place : Location} {content : Octets} (noAddress : Url.isUrl s = false)
      (leads : t.status here s = .ok (place, .file content))
      (ending : Text.endsWith s wheelEnding = true) :
      Recognised t here s (.wheel (absolute t here s))
  | registry (noAddress : Url.isUrl s = false)
      (noDirectory : ∀ place, t.status here s ≠ .ok (place, .directory))
      (noWheel : ∀ place content, t.status here s = .ok (place, .file content) →
        Text.endsWith s wheelEnding = false) :
      Recognised t here s (.registry s)

section Kinds

variable {t : Tree} {here : Location} {s : Text} {x : Source}

theorem recognised (t : Tree) (here : Location) (s : Text) :
    Recognised t here s (classify t here s) := by
  unfold classify
  split
  · next address => exact .url address
  next noAddress =>
  rw [Bool.not_eq_true] at noAddress
  split
  · next there =>
    obtain ⟨place, leads⟩ := Tree.isDirectory_iff.1 there
    exact .directory noAddress leads
  next elsewhere =>
  split
  · next there =>
    rw [Bool.and_eq_true] at there
    obtain ⟨place, content, leads⟩ := Tree.isFile_iff.1 there.1
    exact .wheel noAddress leads there.2
  · next unknown =>
    refine .registry noAddress (fun place leads => elsewhere (Tree.isDirectory_iff.2 ⟨place, leads⟩)) ?_
    intro place content leads
    rw [Tree.isFile_iff.2 ⟨place, content, leads⟩, Bool.true_and, Bool.not_eq_true] at unknown
    exact unknown

theorem Recognised.classify_eq (known : Recognised t here s x) : classify t here s = x := by
  cases known with
  | url address => rw [classify, if_pos address]
  | directory noAddress leads =>
    rw [classify, noAddress, if_neg Bool.false_ne_true, if_pos (Tree.isDirectory_iff.2 ⟨_, leads⟩)]
  | wheel noAddress leads ending =>
    have elsewhere : t.isDirectory here s = false := by rw [Tree.isDirectory, leads]
    rw [classify, noAddress, elsewhere, Tree.isFile_iff.2 ⟨_, _, leads⟩, ending]
    rfl
  | registry noAddress noDirectory noWheel =>
    have elsewhere : ¬ t.isDirectory here s = true := fun there =>
      let ⟨place, leads⟩ := Tree.isDirectory_iff.1 there
      noDirectory place leads
    have unknown : ¬ (t.isFile here s && Text.endsWith s wheelEnding) = true := by
      intro both
      rw [Bool.and_eq_true] at both
      obtain ⟨place, content, leads⟩ := Tree.isFile_iff.1 both.1
      exact Bool.false_ne_true ((noWheel place content leads).symm.trans both.2)
    rw [classify, noAddress, if_neg Bool.false_ne_true, if_neg elsewhere, if_neg unknown]

end Kinds

/-- What a source is taken for when only the argument for the installer is known. A file is a wheel by
its name. -/
def reread : Source → Source
  | wheel p => if Text.endsWith p wheelEnding then wheel p else registry p
  | other => other

section Arguments

variable {t : Tree} {here place : Location} {s : Text}

theorem absolute_cases {e : Entry} (leads : t.status here s = .ok (place, e)) :
    absolute t here s = s ∨ absolute t here s = place.path ∧ Tree.nameable place = true := by
  unfold absolute
  cases canonical : t.canonical? here s with
  | none => exact .inl rfl
  | some q =>
    obtain ⟨place', e', found, rfl, fits⟩ := Tree.canonical?_eq_some canonical
    cases leads.symm.trans found
    exact .inr ⟨rfl, fits⟩

theorem absolute_path {e : Entry} (proper : t.Proper) (stands : t.get? place = some e)
    (other : ∀ target, e ≠ .link target) (fits : Tree.nameable place = true) :
    absolute t here place.path = place.path := by
  rw [absolute, Tree.canonical?_path proper stands other fits here, Option.getD_some]

theorem classify_directory (proper : t.Proper) (stands : t.get? here = some .directory)
    (noAddress : Url.isUrl s = false) (leads : t.status here s = .ok (place, .directory)) :
    t.isDirectory here (absolute t here s) = true ∧
      classify t here (absolute t here s) = directory (absolute t here s) := by
  rcases absolute_cases leads with same | ⟨path, fits⟩
  · rw [same]
    refine ⟨Tree.isDirectory_iff.2 ⟨place, leads⟩, ?_⟩
    rw [(Recognised.directory noAddress leads).classify_eq, same]
  · have inside : t.get? place = some .directory := proper.closed.stands_of_status stands leads
    have there := Tree.status_path proper inside (by simp) fits here
    rw [path]
    refine ⟨Tree.isDirectory_iff.2 ⟨place, there⟩, ?_⟩
    rw [(Recognised.directory (Url.isUrl_of_isAbsolute rfl) there).classify_eq,
      absolute_path proper inside (by simp) fits]

theorem classify_wheel {content : Octets} (proper : t.Proper)
    (stands : t.get? here = some .directory) (noAddress : Url.isUrl s = false)
    (leads : t.status here s = .ok (place, .file content))
    (ending : Text.endsWith s wheelEnding = true) :
    t.isFile here (absolute t here s) = true ∧
      classify t here (absolute t here s) = reread (wheel (absolute t here s)) := by
  rcases absolute_cases leads with same | ⟨path, fits⟩
  · rw [same]
    refine ⟨Tree.isFile_iff.2 ⟨place, content, leads⟩, ?_⟩
    rw [(Recognised.wheel noAddress leads ending).classify_eq, same, reread, if_pos ending]
  · have inside : t.get? place = some (.file content) := proper.closed.stands_of_status stands leads
    have there := Tree.status_path proper inside (by simp) fits here
    have noAddress' : Url.isUrl place.path = false := Url.isUrl_of_isAbsolute rfl
    rw [path]
    refine ⟨Tree.isFile_iff.2 ⟨place, content, there⟩, ?_⟩
    -- the file is the same, and its own name decides
    cases named : Text.endsWith place.path wheelEnding with
    | true =>
      rw [(Recognised.wheel noAddress' there named).classify_eq,
        absolute_path proper inside (by simp) fits, reread, if_pos named]
    | false =>
      have unknown : Recognised t here place.path (registry place.path) :=
        .registry noAddress' (fun _ found => by cases there.symm.trans found) fun _ _ _ => named
      rw [unknown.classify_eq, reread, named, if_neg Bool.false_ne_true]

end Arguments

/-- Classified again, the argument for the installer is what it was, unless it is the path of a wheel
that was named through a link and does not end as wheels do: that path still leads to the file, and is
taken for a name of the registry. -/
theorem classify_arg (t : Tree) (proper : t.Proper) (here : Location)
    (stands : t.get? here = some .directory) (s : Text) :
    let found := classify t here s
    classify t here found.arg = reread found ∧
      (∀ p, found = wheel p → t.isFile here p = true) ∧
      ∀ p, found = directory p → t.isDirectory here p = true ∧ classify t here p = directory p := by
  intro found
  have known : Recognised t here s found := recognised t here s
  clear_value found
  cases known with
  | url address => exact ⟨(Recognised.url address).classify_eq, nofun, nofun⟩
  | directory noAddress leads =>
    have again := classify_directory proper stands noAddress leads
    refine ⟨again.2, nofun, ?_⟩
    rintro p ⟨⟩
    exact again
  | wheel noAddress leads ending =>
    have again := classify_wheel proper stands noAddress leads ending
    refine ⟨again.2, ?_, nofun⟩
    rintro p ⟨⟩
    exact again.1
  | registry noAddress noDirectory noWheel =>
    exact ⟨(Recognised.registry noAddress noDirectory noWheel).classify_eq, nofun, nofun⟩

def shelf : Tree where
  entries :=
    [(["w".toList], .directory),
      (["store".toList, "w".toList], .directory),
      (["lib.whl".toList, "store".toList, "w".toList], .file [80, 75]),
      (["blob".toList, "store".toList, "w".toList], .file [80, 75]),
      (["new".toList, "w".toList], .link "store".toList),
      (["pkg.whl".toList, "w".toList], .link "new/blob".toList)]
  sealed_ := []

theorem proper_shelf : shelf.Proper := Tree.proper_of_entries (by decide +kernel)

theorem classify_arg_behind_link :
    shelf.Proper ∧ shelf.get? ["w".toList] = some .directory ∧
      classify shelf ["w".toList] "new/../new/lib.whl".toList = wheel "/w/store/lib.whl".toList ∧
      classify shelf ["w".toList] "/w/store/lib.whl".toList = wheel "/w/store/lib.whl".toList := by
  have found : classify shelf ["w".toList] "new/../new/lib.whl".toList =
      wheel "/w/store/lib.whl".toList := by decide +kernel
  refine ⟨proper_shelf, rfl, found, ?_⟩
  have again := (classify_arg shelf proper_shelf ["w".toList] rfl "new/../new/lib.whl".toList).1
  rw [found] at again
  exact again

theorem classify_arg_loses_wheel :
    classify shelf ["w".toList] "pkg.whl".toList = wheel "/w/store/blob".toList ∧
      classify shelf ["w".toList] (classify shelf ["w".toList] "pkg.whl".toList).arg =
        registry "/w/store/blob".toList := by
  decide +kernel

end Source

end PlatformLauncher
