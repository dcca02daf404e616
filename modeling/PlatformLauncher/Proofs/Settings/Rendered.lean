import PlatformLauncher.Proofs.Settings.Layering
import PlatformLauncher.Proofs.Toml.Documents
import PlatformLauncher.Settings.Render

/-!
Settings as a document and back. The rendered text reads as the document of the settings, and this
document gives every leaf its value. Main statement: `loadFrom_rendered`.
-/
namespace PlatformLauncher.Settings
open Toml Toml.Document

def packageFields (p : PackageEntry) : List Field :=
  textField "name".toList p.name ::
    match p.localDir with
    | some dir => [textField "local_dir".toList dir]
    | none => []

def sections (s : Settings) : List (Text × List Field) :=
  [("installer".toList,
      [textField "program".toList s.installer.program,
        textsField "args".toList s.installer.args]),
    ("home".toList,
      [textField "default_dir_name".toList s.home.defaultDirName,
        textField "env_file".toList s.home.envFile]),
    ("daemon".toList,
      [textField "program".toList s.daemon.program, textsField "args".toList s.daemon.args,
        textField "log_file".toList s.daemon.logFile]),
    ("probe".toList,
      [textField "program".toList s.probe.program, textsField "args".toList s.probe.args]),
    ("shutdown".toList,
      [textField "program".toList s.shutdown.program,
        textsField "args".toList s.shutdown.args]),
    ("poll".toList,
      [numberField "attempts".toList s.poll.attempts.toNat,
        numberField "interval_ms".toList s.poll.intervalMs.toNat])]

def documentOf (s : Settings) : List (Text × Value) :=
  ("packages".toList, .list (s.packages.map fun p => tableOf (packageFields p))) ::
    s.sections.map fun part => (part.1, tableOf part.2)

theorem renderPackage_eq (p : PackageEntry) :
    renderPackage p = itemText "packages".toList (packageFields p) := by
  obtain ⟨name, dir⟩ := p
  let first := Printer.entry "name".toList (Printer.string name)
  cases dir with
  | none => exact List.append_assoc "[[packages]]\n".toList first []
  | some dir =>
    let second := Printer.entry "local_dir".toList (Printer.string dir)
    have grouped : renderPackage ⟨name, some dir⟩ = "[[packages]]\n".toList ++ (first ++ second) :=
      List.append_assoc "[[packages]]\n".toList first second
    rw [grouped, ← List.append_nil second]
    rfl

theorem renderCommand_eq (name : String) (c : Command) :
    renderCommand name c = sectionText name.toList
      [textField "program".toList c.program, textsField "args".toList c.args] := by
  simp only [renderCommand, sectionText, header, List.flatMap_cons, List.flatMap_nil,
    List.append_nil, List.append_assoc]
  rfl

theorem renderHome_eq (h : HomeSettings) :
    renderHome h = sectionText "home".toList
      [textField "default_dir_name".toList h.defaultDirName,
        textField "env_file".toList h.envFile] := by
  simp only [renderHome, sectionText, header, List.flatMap_cons, List.flatMap_nil,
    List.append_nil, List.append_assoc]
  rfl

theorem renderDaemon_eq (d : DaemonSettings) :
    renderDaemon d = sectionText "daemon".toList
      [textField "program".toList d.program, textsField "args".toList d.args,
        textField "log_file".toList d.logFile] := by
  simp only [renderDaemon, sectionText, header, List.flatMap_cons, List.flatMap_nil,
    List.append_nil, List.append_assoc]
  rfl

theorem renderPoll_eq (p : PollSettings) :
    renderPoll p = sectionText "poll".toList
      [numberField "attempts".toList p.attempts.toNat,
        numberField "interval_ms".toList p.intervalMs.toNat] := by
  simp only [renderPoll, sectionText, header, List.flatMap_cons, List.flatMap_nil,
    List.append_nil, List.append_assoc]
  rfl

theorem render?_eq_some_iff {s : Settings} {text : Text} :
    s.render? = some text ↔ s.poll.intervalMs.toNat < twoTo 63 ∧
      text = Printer.document (renderPackages s.packages ++
        s.sections.map fun part => sectionText part.1 part.2) := by
  have blocks : [renderCommand "installer" s.installer, renderHome s.home, renderDaemon s.daemon,
      renderCommand "probe" s.probe, renderCommand "shutdown" s.shutdown, renderPoll s.poll] =
      s.sections.map fun part => sectionText part.1 part.2 := by
    simp only [renderCommand_eq, renderHome_eq, renderDaemon_eq, renderPoll_eq]
    rfl
  rw [render?, blocks]
  split
  · next small => simp [small, eq_comm]
  · next large => simp [large]

theorem wellFormed_packageFields (p : PackageEntry) : WellFormed (packageFields p) := by
  obtain ⟨name, dir⟩ := p
  cases dir with
  | none =>
    have keys : ["name".toList].Nodup ∧ ∀ key ∈ ["name".toList], IsKey key := by decide
    exact ⟨keys.2, keys.1, by simp [packageFields, textField, scans_string]⟩
  | some dir =>
    have keys : ["name".toList, "local_dir".toList].Nodup ∧
        ∀ key ∈ ["name".toList, "local_dir".toList], IsKey key := by decide
    exact ⟨keys.2, keys.1, by simp [packageFields, textField, scans_string]⟩

theorem fieldKeys_sections (s : Settings) : s.sections.map (fun part => part.2.map Field.key) =
    [["program".toList, "args".toList], ["default_dir_name".toList, "env_file".toList],
      ["program".toList, "args".toList, "log_file".toList], ["program".toList, "args".toList],
      ["program".toList, "args".toList], ["attempts".toList, "interval_ms".toList]] := rfl

theorem wellFormed_sections {s : Settings} (small : s.poll.intervalMs.toNat < twoTo 63) :
    ∀ part ∈ s.sections, WellFormed part.2 := by
  have few : s.poll.attempts.toNat < twoTo 63 :=
    Nat.lt_trans s.poll.attempts.toNat_lt (by decide)
  have scans : ∀ part ∈ s.sections, ∀ f ∈ part.2, Scans f.written f.value := by
    simp [sections, textField, textsField, numberField, scans_string, scans_strings,
      scans_ofNat few, scans_ofNat small]
  have keys : ∀ keys ∈ s.sections.map (fun part => part.2.map Field.key),
      keys.Nodup ∧ ∀ key ∈ keys, IsKey key := by
    rw [fieldKeys_sections]
    decide
  intro part hp
  obtain ⟨distinct, isKey⟩ := keys _ (List.mem_map_of_mem hp)
  exact ⟨isKey, distinct, scans part hp⟩

theorem steps_packages (packages : List PackageEntry) : ∃ node header,
    Steps ⟨[], []⟩ (renderPackages packages) ⟨[("packages".toList, node)], header⟩ ∧
      node.toValue = .list (packages.map fun p => tableOf (packageFields p)) := by
  have isKey : IsKey "packages".toList := by decide
  cases packages with
  | nil =>
    have empty : List.lookup "packages".toList ([] : Table) = none := rfl
    have lead := leads_field lens_root (f := textsField "packages".toList []) isKey
      (scans_strings []) empty
    exact ⟨_, _, .cons lead (.nil _), rfl⟩
  | cons p packages =>
    have groups : ∀ fields ∈ (p :: packages).map packageFields, WellFormed fields := by
      intro fields hf
      obtain ⟨p', -, rfl⟩ := List.mem_map.1 hf
      exact wellFormed_packageFields p'
    obtain ⟨header, steps⟩ := steps_items (t := []) isKey (by rfl) groups [] []
    have blocks : renderPackages (p :: packages) =
        ((p :: packages).map packageFields).map (itemText "packages".toList) := by
      rw [renderPackages, List.map_map]
      exact List.map_congr_left fun p _ => renderPackage_eq p
    refine ⟨_, header, blocks ▸ steps, ?_⟩
    rw [Node.toValue, List.nil_append, itemsToValues_nodes, List.map_map]
    rfl

theorem head?_rendered (packages : List PackageEntry) (blocks : List Text) :
    (Printer.document (renderPackages packages ++ blocks)).head? ≠ some '\uFEFF' := by
  cases packages with
  | nil =>
    have first : (Printer.document (renderPackages [] ++ blocks)).head? = some 'p' :=
      head?_document rfl blocks
    simp [first]
  | cons p packages =>
    have first : (Printer.document (renderPackages (p :: packages) ++ blocks)).head? = some '[' :=
      head?_document rfl (packages.map renderPackage ++ blocks)
    simp [first]

theorem keys_sections (s : Settings) : s.sections.map Prod.fst =
    ["installer".toList, "home".toList, "daemon".toList, "probe".toList, "shutdown".toList,
      "poll".toList] := rfl

theorem read_rendered {s : Settings} {text : Text} (h : s.render? = some text) :
    Toml.read text = .ok s.documentOf := by
  obtain ⟨small, rfl⟩ := render?_eq_some_iff.1 h
  obtain ⟨node, above, packages, value⟩ := steps_packages s.packages
  have isKey : ∀ part ∈ s.sections, IsKey part.1 := by
    have all : ∀ key ∈ s.sections.map Prod.fst, IsKey key := by
      rw [keys_sections]
      decide
    exact fun part hp => all _ (List.mem_map_of_mem hp)
  have distinct : (s.sections.map Prod.fst).Nodup := by
    rw [keys_sections]
    decide
  have others : ∀ key ∈ s.sections.map Prod.fst, key ≠ "packages".toList := by
    rw [keys_sections]
    decide
  have fresh : ∀ part ∈ s.sections, [("packages".toList, node)].lookup part.1 = none :=
    fun part hp => lookup_append_of_ne (t := []) rfl (others _ (List.mem_map_of_mem hp)) node
  obtain ⟨last, sections⟩ := steps_sections isKey (wellFormed_sections small) distinct fresh above
  have read := (packages.append sections).read (head?_rendered s.packages _)
  rw [read, entriesToValues_append, entriesToValues_sections, entriesToValues, value,
    entriesToValues]
  rfl

theorem packageOf?_tableOf (p : PackageEntry) : packageOf? (tableOf (packageFields p)) = some p := by
  obtain ⟨name, dir⟩ := p
  cases dir <;> rfl

theorem mapM_map {α : Type} {read? : Value → Option α} (write : α → Value)
    (h : ∀ x, read? (write x) = some x) (xs : List α) : (xs.map write).mapM read? = some xs := by
  induction xs with
  | nil => rfl
  | cons x xs ih =>
    rw [List.map_cons, List.mapM_cons, h, ih]
    rfl

theorem documentEntry_section (s : Settings) :
    ∀ part ∈ s.sections, DocumentEntry (fun l => some (s.get l)) (part.1, tableOf part.2) := by
  have texts (items : List Text) : Kind.texts.ofToml? (.list (items.map .text)) = some items :=
    mapM_map Value.text (fun _ => rfl) items
  have attempts := word32Of?_toNat s.poll.attempts
  have intervalMs := word64Of?_toNat s.poll.intervalMs
  intro part hp
  simp only [sections, List.mem_cons, List.not_mem_nil, or_false] at hp
  rcases hp with rfl | rfl | rfl | rfl | rfl | rfl
  · exact .fields .installerProgram rfl (.cons .installerProgram rfl rfl rfl
      (.cons .installerArgs rfl rfl (texts s.installer.args) .nil))
  · exact .fields .envFile rfl (.cons .defaultDirName rfl rfl rfl (.cons .envFile rfl rfl rfl .nil))
  · exact .fields .daemonProgram rfl (.cons .daemonProgram rfl rfl rfl
      (.cons .daemonArgs rfl rfl (texts s.daemon.args) (.cons .logFile rfl rfl rfl .nil)))
  · exact .fields .probeProgram rfl (.cons .probeProgram rfl rfl rfl
      (.cons .probeArgs rfl rfl (texts s.probe.args) .nil))
  · exact .fields .shutdownProgram rfl (.cons .shutdownProgram rfl rfl rfl
      (.cons .shutdownArgs rfl rfl (texts s.shutdown.args) .nil))
  · exact .fields .attempts rfl (.cons .attempts rfl rfl attempts
      (.cons .intervalMs rfl rfl intervalMs .nil))

theorem documentGives_documentOf (s : Settings) :
    DocumentGives s.documentOf fun l => some (s.get l) where
  each e he := by
    rcases List.mem_cons.1 he with rfl | he
    · exact .packages rfl (mapM_map _ packageOf?_tableOf s.packages)
    · obtain ⟨part, hp, rfl⟩ := List.mem_map.1 he
      exact documentEntry_section s part hp
  all := by
    intro l _
    cases l <;> rfl

theorem fileText_of_read {t : Tree} {here : Location} {p : Path} {text : Text}
    (h : t.read here (Path.join here.path p) = .ok (Octets.encode text)) :
    ∃ origin, fileText t here p = .ok (text, origin) := by
  have isFile : t.isFile here (Path.join here.path p) = true := by
    rw [Tree.read] at h
    rw [Tree.isFile]
    split at h
    · cases h
    · next status => rw [status]
    · cases h
  have found : findFile? t here p = some (Path.join here.path p) := by
    simp only [findFile?, isFile, if_true]
  have content : t.readText here (Path.join here.path p) = .ok text := by
    rw [Tree.readText, h]
    simp only [Octets.decode?_encode]
  refine ⟨Path.relativeTo here.path (Path.join here.path p), ?_⟩
  rw [fileText, found]
  simp only [content]

/-- Settings that pass the check are rendered unless the interval is beyond TOML, and a file with the
rendered text is read as these settings again. -/
theorem loadFrom_rendered {s : Settings} (valid : s.flaw? = none) :
    (s.render?.isSome ↔ s.poll.intervalMs.toNat ≤ 2 ^ 63 - 1) ∧
      ∀ text, s.render? = some text → ∀ (t : Tree) (here : Location) (file : SettingsFile),
        (file.required = true → t.exists_ here file.path = true) →
        t.read here (Path.join here.path file.path) = .ok (Octets.encode text) →
          loadFrom t here (some file) [] = .ok s := by
  constructor
  · have limit : twoTo 63 = 2 ^ 63 := rfl
    rw [render?, limit]
    split
    · next small => simp only [Option.isSome_some, true_iff]; omega
    · next large => simp only [Option.isSome_none, Bool.false_eq_true, false_iff]; omega
  · intro text rendered t here file there content
    obtain ⟨origin, holds⟩ := fileText_of_read content
    have gives : FileGives t here (some file) fun l => some (s.get l) :=
      .present there holds (read_rendered rendered) (documentGives_documentOf s)
    obtain ⟨layer, fromFile, loads⟩ := loadFrom_of_fileGives gives
    rw [loads, Environment.layer, List.filterMap_nil, ofLayers_of_gives fromFile gives_nil]
    simp only [Option.getD_some, Option.getD_none, ofLeaves_get, checked, valid]

def manyQuotes : Settings where
  packages := []
  installer := ⟨"pip \"3\"".toList, []⟩
  home := ⟨"".toList, "a\nb'''\"\"\"\\".toList⟩
  daemon := ⟨"it's \"so\"".toList, ["\n\"\"\"\"\x01\r".toList, "\t".toList], "c\\d'".toList⟩
  probe := ⟨"ü\x7f".toList, ["".toList]⟩
  shutdown := ⟨"stop".toList, ["''\"\"\"".toList]⟩
  poll := ⟨1, 9223372036854775807⟩

def holding (text : Text) : Tree where
  entries :=
    [(["w".toList], .directory), (["c.toml".toList, "w".toList], .file (Octets.encode text))]
  sealed_ := []

theorem loadFrom_manyQuotes : manyQuotes.flaw? = none ∧ manyQuotes.render?.isSome ∧
    loadFrom (holding (manyQuotes.render?.getD [])) ["w".toList] (some ⟨"c.toml".toList, true⟩) [] =
      .ok manyQuotes := by
  have valid : manyQuotes.flaw? = none := by decide +kernel
  have rendered : manyQuotes.render? = some (manyQuotes.render?.getD []) := by decide +kernel
  refine ⟨valid, by decide +kernel, ?_⟩
  exact (loadFrom_rendered valid).2 _ rendered _ _ _ (fun _ => by decide +kernel)
    (eq_ok_of_toOption (by decide +kernel))

end PlatformLauncher.Settings
