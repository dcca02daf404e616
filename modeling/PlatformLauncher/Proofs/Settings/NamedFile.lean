import PlatformLauncher.Proofs.Settings.Layering
import PlatformLauncher.Proofs.Tree.Seen

/-!
The files that are looked at for settings: the one that is named and, where that is none, the one beside
it with the ending of a TOML file. Main statement: `loadFrom_named`, trees that agree on these two load
the same.
-/
namespace PlatformLauncher.Settings

def beside (here : Location) (p : Path) : Path :=
  Path.withExtension "toml".toList (Path.addExtension "dummy".toList (Path.join here.path p))

/-- The bytes of a file as text, with the name under which messages speak of it. -/
def textAt (here : Location) (q : Path) (content : Octets) : Except Text (Text × Text) :=
  match Octets.decode? content with
  | some text => .ok (text, Path.relativeTo here.path q)
  | none => .error Fault.notUtf8.message

section Lookup

variable {t t' : Tree} {here : Location} {p : Path} {required : Bool}

theorem isAbsolute_joined (here : Location) (p : Path) :
    Path.isAbsolute (Path.join here.path p) = true := by
  cases absolute : Path.isAbsolute p with
  | true => rw [Path.join_eq_of_isAbsolute absolute, absolute]
  | false =>
    rw [Path.isAbsolute_join absolute]
    rfl

theorem beside_eq (named : p.EndsInName) (here : Location) :
    beside here p = Path.join here.path p ++ ".toml".toList := by
  obtain ⟨front, name, ends⟩ := named
  obtain ⟨front', ends'⟩ := ends.join here.path
  exact Path.withExtension_addExtension ⟨front', name, ends'⟩ (isAbsolute_joined here p) (by decide)
    (by decide) (by decide) _

theorem fileText_eq (t : Tree) (here : Location) (p : Path) :
    fileText t here p =
      match t.contents? here (Path.join here.path p), t.contents? here (beside here p) with
      | some content, _ => textAt here (Path.join here.path p) content
      | none, some content => textAt here (beside here p) content
      | none, none => .error (notFoundText p) := by
  have found {q : Path} {content : Octets} (file : t.contents? here q = some content)
      (found : findFile? t here p = some q) : fileText t here p = textAt here q content := by
    simp only [fileText, found, Tree.readText, Tree.read_of_contents? file, textAt]
    cases Octets.decode? content <;> rfl
  have looked : findFile? t here p =
      if t.isFile here (Path.join here.path p) then some (Path.join here.path p)
      else if t.isFile here (beside here p) then some (beside here p) else none := rfl
  rw [Tree.isFile_eq_isSome_contents?, Tree.isFile_eq_isSome_contents?] at looked
  cases own : t.contents? here (Path.join here.path p) with
  | some content => exact found own (by rw [looked, own]; rfl)
  | none =>
    cases other : t.contents? here (beside here p) with
    | some content => exact found other (by rw [looked, own, other]; rfl)
    | none =>
      rw [fileText, looked, own, other]
      rfl

theorem contents?_beside_of_long (named : p.EndsInName)
    (long : Tree.pathFault? (Path.join here.path p) ≠ none) :
    t.contents? here (beside here p) = none := by
  cases whole : Tree.pathFault? (beside here p) with
  | some fault => rw [Tree.contents?, Tree.seen_of_pathFault whole]
  | none =>
    rw [beside_eq named, Tree.pathFault?_eq_none_iff, Octets.encode_append, List.length_append] at whole
    obtain ⟨null, -, short⟩ := whole
    have nonempty : Path.join here.path p ≠ [] := by
      intro empty
      have absolute := isAbsolute_joined here p
      rw [empty] at absolute
      cases absolute
    exact absurd (Tree.pathFault?_eq_none_iff.2
      ⟨fun inside => null (List.mem_append_left _ inside), nonempty, by omega⟩) long

theorem fileText_congr (proper : t.Proper) (proper' : t'.Proper)
    (stands : t.get? here = some .directory) (stands' : t'.get? here = some .directory)
    (same : t'.seen here p = t.seen here p)
    (settled : t.isFile here p = true ∨ t'.seen here (beside here p) = t.seen here (beside here p)) :
    fileText t' here p = fileText t here p := by
  have own : t'.contents? here (Path.join here.path p) = t.contents? here (Path.join here.path p) := by
    rw [Tree.contents?_join proper stands, Tree.contents?_join proper' stands',
      Tree.contents?_congr same]
  rw [fileText_eq, fileText_eq, own]
  rcases settled with file | same'
  · -- the file is found, or neither it nor its neighbour can be looked up
    rw [Tree.isFile_eq_isSome_contents?, Option.isSome_iff_exists] at file
    obtain ⟨content, file⟩ := file
    by_cases whole : Tree.pathFault? (Path.join here.path p) = none
    · rw [Tree.contents?_join proper stands, if_pos whole, file]
    · have named := Tree.endsInName_of_contents? file
      rw [contents?_beside_of_long named whole, contents?_beside_of_long named whole]
  · rw [Tree.contents?_congr same']

theorem contents?_joined_of_not_isFile (proper : t.Proper) (stands : t.get? here = some .directory)
    (noFile : t.isFile here p = false) : t.contents? here (Path.join here.path p) = none := by
  rw [Tree.isFile_eq_isSome_contents?, Option.isSome_eq_false_iff, Option.isNone_iff_eq_none] at noFile
  rw [Tree.contents?_join proper stands, noFile, ite_self]

theorem isAbsolute_beside (here : Location) (p : Path) : Path.isAbsolute (beside here p) = true :=
  Path.isAbsolute_withExtension (Path.isAbsolute_addExtension (isAbsolute_joined here p) _) _

theorem fileText_beside (proper : t.Proper) (stands : t.get? here = some .directory)
    (noFile : t.isFile here p = false) (other : t.isFile here (beside here p) = true) :
    fileText t here p = fileText t here (beside here p) := by
  rw [Tree.isFile_eq_isSome_contents?, Option.isSome_iff_exists] at other
  obtain ⟨content, other⟩ := other
  have itself : Path.join here.path (beside here p) = beside here p :=
    Path.join_eq_of_isAbsolute (isAbsolute_beside here p) _
  rw [fileText_eq, fileText_eq, itself, contents?_joined_of_not_isFile proper stands noFile, other]

theorem fileText_of_neither (proper : t.Proper) (stands : t.get? here = some .directory)
    (noFile : t.isFile here p = false) (noOther : t.isFile here (beside here p) = false) :
    fileText t here p = .error (notFoundText p) := by
  rw [Tree.isFile_eq_isSome_contents?, Option.isSome_eq_false_iff, Option.isNone_iff_eq_none] at noOther
  rw [fileText_eq, contents?_joined_of_not_isFile proper stands noFile, noOther]

/-- A load reads the named path, and where that is no file the one beside it; it depends on nothing
else. Without either, an optional file counts as not named, and one that is required is a failure. -/
theorem loadFrom_named (proper : t.Proper) (stands : t.get? here = some .directory) (p : Path)
    (required : Bool) (environment : List (Text × Text)) :
    (∀ t' : Tree, t'.Proper → t'.get? here = some .directory → t'.seen here p = t.seen here p →
      (t.isFile here p = true ∨ t'.seen here (beside here p) = t.seen here (beside here p)) →
      loadFrom t' here (some ⟨p, required⟩) environment =
        loadFrom t here (some ⟨p, required⟩) environment) ∧
      (t.isFile here p = false → t.isFile here (beside here p) = false →
        loadFrom t here (some ⟨p, false⟩) environment = loadFrom t here none environment ∧
        (t.exists_ here p = true →
          loadFrom t here (some ⟨p, true⟩) environment = .error (badFile (notFoundText p)))) ∧
      (t.exists_ here p = false →
        loadFrom t here (some ⟨p, true⟩) environment =
          .error (.said (Advice.fileNotFound p "Config file".toList))) ∧
      (t.isFile here p = false → t.isFile here (beside here p) = true →
        (required = true → t.exists_ here p = true) →
        loadFrom t here (some ⟨p, required⟩) environment =
          loadFrom t here (some ⟨beside here p, required⟩) environment) ∧
      (p.EndsInName → beside here p = Path.join here.path p ++ ".toml".toList) := by
  refine ⟨fun t' proper' stands' same settled => ?_, fun noFile noOther => ?_, fun nothing => ?_,
    fun noFile other there => ?_, fun named => beside_eq named here⟩
  · have text := fileText_congr proper proper' stands stands' same settled
    simp only [loadFrom, fileLayer, text, Tree.exists_eq_isSome_seen, same]
  · have text := fileText_of_neither proper stands noFile noOther
    refine ⟨by simp [loadFrom, fileLayer, text], fun there => ?_⟩
    simp [loadFrom, fileLayer, text, there]
  · simp [loadFrom, nothing]
  · have text := fileText_beside proper stands noFile other
    have otherThere : t.exists_ here (beside here p) = true := Tree.exists_of_isFile other
    have present : (required && !t.exists_ here p) = false := by
      cases required with
      | false => rfl
      | true => simp [there rfl]
    simp [loadFrom, fileLayer, text, present, otherThere]

end Lookup

def inDesk (entries : List (Text × Entry)) : Tree where
  entries := (["w".toList], .directory) :: entries.map fun (name, entry) => ([name, "w".toList], entry)
  sealed_ := []

def fewAttempts : Text × Entry :=
  ("c.toml".toList, .file (Octets.encode "[poll]\nattempts = 4\n".toList))

def fewerAttempts : Text × Entry :=
  ("c.toml.toml".toList, .file (Octets.encode "[poll]\nattempts = 2\n".toList))

def folder : Text × Entry := ("c".toList, .directory)

theorem loadFrom_named_in_desk :
    loadFrom (inDesk [fewAttempts, fewerAttempts]) ["w".toList] (some ⟨"c.toml".toList, true⟩) [] =
        loadFrom (inDesk [folder, fewAttempts]) ["w".toList] (some ⟨"c.toml".toList, true⟩) [] ∧
      loadFrom (inDesk [folder, fewAttempts]) ["w".toList] (some ⟨"d".toList, false⟩) [] =
        loadFrom (inDesk [folder, fewAttempts]) ["w".toList] none [] ∧
      loadFrom (inDesk [folder, fewAttempts]) ["w".toList] (some ⟨"d".toList, true⟩) [] =
        .error (.said (Advice.fileNotFound "d".toList "Config file".toList)) ∧
      loadFrom (inDesk [folder, fewAttempts]) ["w".toList] (some ⟨"c".toList, true⟩) [] =
        loadFrom (inDesk [folder, fewAttempts]) ["w".toList] (some ⟨"/w/c.toml".toList, true⟩) [] := by
  have proper : (inDesk [folder, fewAttempts]).Proper := Tree.proper_of_entries (by decide +kernel)
  have proper' : (inDesk [fewAttempts, fewerAttempts]).Proper :=
    Tree.proper_of_entries (by decide +kernel)
  have stands : (inDesk [folder, fewAttempts]).get? ["w".toList] = some .directory := by decide
  have named (p : Path) := loadFrom_named proper stands p true []
  obtain ⟨alike, -, -, -, -⟩ := named "c.toml".toList
  obtain ⟨-, neither, missing, -, -⟩ := named "d".toList
  obtain ⟨-, -, -, other, -⟩ := named "c".toList
  refine ⟨?_, ?_, missing (by decide +kernel), ?_⟩
  · exact alike _ proper' (by decide) (by decide +kernel) (.inl (by decide +kernel))
  · exact (neither (by decide +kernel) (by decide +kernel)).1
  · exact other (by decide +kernel) (by decide +kernel) fun _ => by decide +kernel

theorem loadFrom_reads_neighbour :
    (inDesk []).seen ["w".toList] "c".toList = (inDesk [fewAttempts]).seen ["w".toList] "c".toList ∧
      (inDesk [fewAttempts]).seen ["w".toList] "c".toList = none ∧
      (loadFrom (inDesk []) ["w".toList] (some ⟨"c".toList, false⟩) []).toOption = some standard ∧
      (loadFrom (inDesk [fewAttempts]) ["w".toList] (some ⟨"c".toList, false⟩) []).toOption =
        some { standard with poll := ⟨4, 1000⟩ } ∧
      loadFrom (inDesk []) ["w".toList] (some ⟨"c".toList, false⟩) [] ≠
        loadFrom (inDesk [fewAttempts]) ["w".toList] (some ⟨"c".toList, false⟩) [] := by
  have without : (loadFrom (inDesk []) ["w".toList] (some ⟨"c".toList, false⟩) []).toOption =
      some standard := by decide +kernel
  have loaded : (loadFrom (inDesk [fewAttempts]) ["w".toList] (some ⟨"c".toList, false⟩) []).toOption =
      some { standard with poll := ⟨4, 1000⟩ } := by decide +kernel
  refine ⟨by decide +kernel, by decide +kernel, without, loaded, ?_⟩
  refine ne_of_apply_ne Except.toOption ?_
  rw [without, loaded]
  decide

end PlatformLauncher.Settings
