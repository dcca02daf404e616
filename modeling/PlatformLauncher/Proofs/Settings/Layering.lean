import PlatformLauncher.Proofs.Settings.Gate
import PlatformLauncher.Proofs.Settings.Variables
import PlatformLauncher.Proofs.Toml.Documents

/-!
Which of the three layers decides a leaf. Main statement: `loadFrom_eq_checked`, the environment comes
before the file and the file before the standard settings, leaf by leaf.
-/
namespace PlatformLauncher.Settings
open Layered

variable {t : Tree} {here : Location} {S E : Overrides}

inductive FileGives (t : Tree) (here : Location) : Option SettingsFile → Overrides → Prop where
  | unnamed : FileGives t here none fun _ => none
  | missing {p : Path} (vacant : findFile? t here p = none) :
    FileGives t here (some ⟨p, false⟩) fun _ => none
  | present {file : SettingsFile} {text origin : Text} {entries : List (Text × Toml.Value)}
    {S : Overrides} (there : file.required = true → t.exists_ here file.path = true)
    (holds : fileText t here file.path = .ok (text, origin))
    (document : Toml.read text = .ok entries) (gives : DocumentGives entries S) :
    FileGives t here (some file) S

theorem gives_nil : Gives [] fun _ => none where
  agrees := by simp
  sets := by simp

theorem ofLayers_of_gives {file environment : List (Text × Layered)} (hf : Gives file S)
    (he : Gives environment E) :
    ofLayers file environment =
      checked (ofLeaves fun l => (E l).getD ((S l).getD (standard.get l))) := by
  have first (l : Leaf) :
      Holds ((table none []).overlayAll (ofSettings standard)) l (standard.get l) :=
    (gives_ofSettings standard).holds_given _ rfl
  have third := he.holds (hf.holds first)
  have decoded : (merged file environment).decode =
      .ok (ofLeaves fun l => (E l).getD ((S l).getD (standard.get l))) := by
    apply decode_of_holds
    intro l
    rw [get_ofLeaves]
    exact third l
  rw [ofLayers, decoded]

theorem loadFrom_of_fileGives {file : Option SettingsFile} (h : FileGives t here file S) :
    ∃ layer, Gives layer S ∧ ∀ environment,
      loadFrom t here file environment = ofLayers layer (Environment.layer environment) := by
  cases h with
  | unnamed => exact ⟨[], gives_nil, fun _ => loadFrom_of_contributes .unnamed⟩
  | @missing p vacant =>
    have noText : fileText t here p = .error (notFoundText p) := by rw [fileText, vacant]
    have empty : fileLayer t here ⟨p, false⟩ = .ok [] := by
      simp only [fileLayer, noText, Bool.false_eq_true, if_false]
    exact ⟨[], gives_nil, fun _ => loadFrom_of_contributes (.named (by rintro ⟨⟩) empty)⟩
  | @present file text origin entries S there holds document gives =>
    have layer : fileLayer t here file = .ok (ofTomlEntries origin entries) := by
      simp only [fileLayer, holds, document]
    exact ⟨_, gives.layer origin, fun _ => loadFrom_of_contributes (.named there layer)⟩

/-- Leaf by leaf, the environment comes before the file and the file before the standard settings;
what this gives is checked. -/
theorem loadFrom_eq_checked {file : Option SettingsFile} {environment : List (Text × Text)}
    (hf : FileGives t here file S) (he : EnvironmentGives environment E) :
    loadFrom t here file environment =
      checked (ofLeaves fun l => (E l).getD ((S l).getD (standard.get l))) := by
  obtain ⟨layer, gives, loads⟩ := loadFrom_of_fileGives hf
  rw [loads, ofLayers_of_gives gives he.layer]

def someLeaves : Text :=
  "[daemon]\nargs = []\n\n[probe]\nprogram = \"ctl\"\n\n[[packages]]\nname = \"a\"\n".toList

def configured : Tree where
  entries :=
    [(["w".toList], .directory), (["c.toml".toList, "w".toList], .file (Octets.encode someLeaves))]
  sealed_ := []

def fromFile : Overrides
  | .daemonArgs => some ([] : List Text)
  | .probeProgram => some "ctl".toList
  | .packages => some [(⟨"a".toList, none⟩ : PackageEntry)]
  | _ => none

def fromEnvironment : Overrides
  | .probeProgram => some "ask".toList
  | .attempts => some (7 : UInt32)
  | _ => none

def someVariables : List (Text × Text) :=
  [("Volttron_Bootstrap__POLL__Attempts".toList, "+7".toList), ("HOME".toList, "/root".toList),
    ("VOLTTRON_BOOTSTRAP__probe__PROGRAM".toList, "ask".toList)]

def someSections : List (Text × List Toml.Field) :=
  [("daemon".toList, [Toml.textsField "args".toList []]),
    ("probe".toList, [Toml.textField "program".toList "ctl".toList])]

theorem read_someLeaves : Toml.read someLeaves = .ok
    [("daemon".toList, .table [("args".toList, .list [])]),
      ("probe".toList, .table [("program".toList, .text "ctl".toList)]),
      ("packages".toList, .list [.table [("name".toList, .text "a".toList)]])] := by
  have wellFormed : ∀ part ∈ someSections, Toml.WellFormed part.2 := by
    have keys : ∀ part ∈ someSections, (part.2.map Toml.Field.key).Nodup ∧
        ∀ key ∈ part.2.map Toml.Field.key, Toml.IsKey key := by decide
    have scans : ∀ part ∈ someSections, ∀ f ∈ part.2, Toml.Scans f.written f.value :=
      List.forall_mem_cons.2 ⟨List.forall_mem_singleton.2 (Toml.scans_strings []),
        List.forall_mem_singleton.2 (List.forall_mem_singleton.2 (Toml.scans_string "ctl".toList))⟩
    exact fun part hp => ⟨(keys part hp).2, (keys part hp).1, scans part hp⟩
  have name : Toml.WellFormed [Toml.textField "name".toList "a".toList] :=
    ⟨by decide, by decide, List.forall_mem_singleton.2 (Toml.scans_string "a".toList)⟩
  have isKey : ∀ part ∈ someSections, Toml.IsKey part.1 := by decide
  have packagesKey : Toml.IsKey "packages".toList := by decide
  obtain ⟨header, sections⟩ := Toml.Document.steps_sections (t := []) isKey wellFormed (by decide)
    (fun _ _ => rfl) []
  obtain ⟨last, packages⟩ := Toml.Document.steps_items (t := someSections.map Toml.Document.sectionNode)
    packagesKey (by rfl) (List.forall_mem_singleton.2 name) [] header
  exact (sections.append packages).read (by decide +kernel)

theorem documentGives_someLeaves : ∃ entries, Toml.read someLeaves = .ok entries ∧
    DocumentGives entries fromFile := by
  refine ⟨_, read_someLeaves, ?_, ?_⟩
  · intro e he
    simp only [List.mem_cons, List.not_mem_nil, or_false] at he
    rcases he with rfl | rfl | rfl
    · exact .fields .daemonArgs rfl (.cons .daemonArgs rfl rfl rfl .nil)
    · exact .fields .probeProgram rfl (.cons .probeProgram rfl rfl rfl .nil)
    · exact .packages rfl rfl
  · intro l hl
    cases l
    case packages | daemonArgs | probeProgram => rfl
    all_goals cases hl

theorem environmentGives_someVariables : EnvironmentGives someVariables fromEnvironment where
  each e he := by
    simp only [someVariables, List.mem_cons, List.not_mem_nil, or_false] at he
    rcases he with rfl | rfl | rfl
    · have seven : (Numeral.readInt? "+7".toList).bind word32Of? = some 7 := by decide +kernel
      exact .inr ⟨.attempts, (7 : UInt32), by decide, rfl, seven⟩
    · exact .inl (by decide)
    · exact .inr ⟨.probeProgram, "ask".toList, by decide, rfl, by rfl⟩
  all l hl := by
    cases l
    case attempts => exact ⟨_, .head _, by decide⟩
    case probeProgram => exact ⟨_, .tail _ (.tail _ (.head _)), by decide⟩
    all_goals cases hl

theorem eq_ok_of_toOption {ε α : Type} {r : Except ε α} {x : α} (h : r.toOption = some x) :
    r = .ok x := by
  cases r with
  | error e => cases h
  | ok y =>
    cases h
    rfl

theorem loadFrom_configured :
    FileGives configured ["w".toList] (some ⟨"c.toml".toList, true⟩) fromFile ∧
      EnvironmentGives someVariables fromEnvironment ∧
      (loadFrom configured ["w".toList] (some ⟨"c.toml".toList, true⟩) someVariables).toOption =
        some { standard with
          packages := [⟨"a".toList, none⟩]
          daemon := ⟨"volttron".toList, [], "volttron.log".toList⟩
          probe := ⟨"ask".toList, ["status".toList]⟩
          poll := ⟨7, 1000⟩ } := by
  obtain ⟨entries, document, gives⟩ := documentGives_someLeaves
  have holds : fileText configured ["w".toList] "c.toml".toList =
      .ok (someLeaves, "c.toml".toList) := eq_ok_of_toOption (by decide +kernel)
  have file : FileGives configured ["w".toList] (some ⟨"c.toml".toList, true⟩) fromFile :=
    .present (fun _ => by decide +kernel) holds document gives
  refine ⟨file, environmentGives_someVariables, ?_⟩
  rw [loadFrom_eq_checked file environmentGives_someVariables]
  decide +kernel

end PlatformLauncher.Settings
