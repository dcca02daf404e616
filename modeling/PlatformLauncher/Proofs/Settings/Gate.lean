import PlatformLauncher.Settings.Load

/-!
What settings a load lets through. The demands on settings stand in a list, in the order in which they
are looked at; of settings that do not meet all of them the first unmet one is told. Main statements:
`loadFrom_eq_ok_iff` and `loadFrom_eq_invalid_iff`.
-/
namespace PlatformLauncher

namespace Text

/-- The code points with the property White_Space. -/
def whiteSpace : List Nat :=
  List.range' 0x9 5 ++ [0x20, 0x85, 0xA0, 0x1680] ++ List.range' 0x2000 11 ++
    [0x2028, 0x2029, 0x202F, 0x205F, 0x3000]

def Inked (s : Text) : Prop := ∃ c ∈ s, c.toNat ∉ whiteSpace

instance (s : Text) : Decidable s.Inked := inferInstanceAs (Decidable (∃ c ∈ s, c.toNat ∉ whiteSpace))

theorem isBlank_iff {c : Char} : isBlank c = true ↔ c.toNat ∈ whiteSpace := by
  simp only [isBlank, whiteSpace, List.mem_append, List.mem_range'_1, List.mem_cons,
    List.not_mem_nil, Bool.or_eq_true, Bool.and_eq_true, decide_eq_true_eq, beq_iff_eq,
    or_false]
  omega

theorem isBlankText_eq (s : Text) : isBlankText s = !decide s.Inked := by
  have blank : trim s = [] ↔ ¬ s.Inked := by
    rw [trim_eq_nil_iff]
    simp only [isBlank_iff, Inked, not_exists, not_and, Decidable.not_not]
  rw [isBlankText, Bool.eq_iff_iff, List.isEmpty_iff, blank]
  simp

end Text

namespace Settings

def Section.inOrder : List Section := [installer, daemon, probe, shutdown]

def Section.program (s : Settings) : Section → Text
  | installer => s.installer.program
  | daemon => s.daemon.program
  | probe => s.probe.program
  | shutdown => s.shutdown.program

structure Admissible (s : Settings) : Prop where
  attempts : 1 ≤ s.poll.attempts.toNat
  packages : ∀ p ∈ s.packages, p.name.Inked
  programs : ∀ x : Section, (x.program s).Inked

structure Demand where
  flaw : Flaw
  met : Bool

def Demand.ofPackage (p : PackageEntry) : Demand := ⟨.blankPackage p.localDir, decide p.name.Inked⟩

def Demand.ofSection (s : Settings) (x : Section) : Demand :=
  ⟨.blankProgram x, decide (x.program s).Inked⟩

def demands (s : Settings) : List Demand :=
  ⟨.noAttempts, decide (1 ≤ s.poll.attempts.toNat)⟩ ::
    (s.packages.map Demand.ofPackage ++ Section.inOrder.map (Demand.ofSection s))

/-- The flaw is that of a condition which does not hold, while all before it do. -/
def FirstFlaw (s : Settings) (flaw : Flaw) : Prop :=
  ∃ before after, s.demands = before ++ ⟨flaw, false⟩ :: after ∧ ∀ d ∈ before, d.met = true

theorem admissible_iff {s : Settings} : s.Admissible ↔ ∀ d ∈ s.demands, d.met = true := by
  have sections (P : Section → Prop) : (∀ x ∈ Section.inOrder, P x) ↔ ∀ x, P x :=
    ⟨fun all x => all x (by cases x <;> decide), fun all x _ => all x⟩
  rw [demands, List.forall_mem_cons, List.forall_mem_append, List.forall_mem_map, List.forall_mem_map,
    sections]
  simp only [Demand.ofPackage, Demand.ofSection, decide_eq_true_eq]
  exact ⟨fun ⟨attempts, packages, programs⟩ => ⟨attempts, packages, programs⟩,
    fun ⟨attempts, packages, programs⟩ => ⟨attempts, packages, programs⟩⟩

theorem find?_packages (packages : List PackageEntry) :
    (packages.map Demand.ofPackage).find? (fun d => !d.met) =
      (blankPackage? packages).map Demand.ofPackage := by
  rw [List.find?_map, blankPackage?]
  simp only [Function.comp_def, Demand.ofPackage, Text.isBlankText_eq]

theorem find?_sections (s : Settings) :
    (Section.inOrder.map (Demand.ofSection s)).find? (fun d => !d.met) =
      s.blankSection?.map (Demand.ofSection s) := by
  have found : s.blankSection? = Section.inOrder.find? fun x => Text.isBlankText (x.program s) := by
    simp only [blankSection?, Section.inOrder, List.find?_cons, List.find?_nil, Section.program]
    cases Text.isBlankText s.installer.program <;> cases Text.isBlankText s.daemon.program <;>
      cases Text.isBlankText s.probe.program <;> cases Text.isBlankText s.shutdown.program <;> rfl
  rw [found, List.find?_map]
  simp only [Function.comp_def, Demand.ofSection, Text.isBlankText_eq]

theorem flaw?_eq_find? (s : Settings) :
    s.flaw? = (s.demands.find? fun d => !d.met).map Demand.flaw := by
  have attempts : 1 ≤ s.poll.attempts.toNat ↔ s.poll.attempts ≠ 0 := by
    rw [Nat.one_le_iff_ne_zero, Ne, Ne, ← UInt32.toNat_inj]
    rfl
  rw [flaw?, demands, List.find?_cons, List.find?_append, find?_packages, find?_sections]
  split
  · next flawless => simp [flawless]
  · next flawed =>
    rw [decide_eq_true (attempts.2 flawed)]
    cases blankPackage? s.packages with
    | some p => rfl
    | none => cases s.blankSection? <;> rfl

theorem flaw?_eq_some_iff {s : Settings} {flaw : Flaw} : s.flaw? = some flaw ↔ s.FirstFlaw flaw := by
  rw [flaw?_eq_find?, Option.map_eq_some_iff]
  constructor
  · rintro ⟨⟨flaw, met⟩, found, rfl⟩
    obtain ⟨unmet, before, after, split, earlier⟩ := List.find?_eq_some_iff_append.1 found
    obtain rfl : met = false := by simpa using unmet
    exact ⟨before, after, split, fun d member => by simpa using earlier d member⟩
  · rintro ⟨before, after, split, earlier⟩
    refine ⟨⟨flaw, false⟩, List.find?_eq_some_iff_append.2 ⟨rfl, before, after, split, ?_⟩, rfl⟩
    exact fun d member => by simp [earlier d member]

theorem flaw?_eq_none_iff_admissible {s : Settings} : s.flaw? = none ↔ s.Admissible := by
  rw [flaw?_eq_find?, Option.map_eq_none_iff, List.find?_eq_none, admissible_iff]
  simp

theorem checked_eq_ok_iff {s c : Settings} : checked s = .ok c ↔ c = s ∧ c.Admissible := by
  unfold checked
  cases found : s.flaw? with
  | none =>
    have admissible := flaw?_eq_none_iff_admissible.1 found
    exact ⟨by rintro ⟨⟩; exact ⟨rfl, admissible⟩, by rintro ⟨rfl, -⟩; rfl⟩
  | some flaw =>
    refine ⟨by rintro ⟨⟩, ?_⟩
    rintro ⟨rfl, admissible⟩
    rw [flaw?_eq_none_iff_admissible.2 admissible] at found
    cases found

theorem checked_eq_error_iff {s : Settings} {failure : Failure} :
    checked s = .error failure ↔
      ∃ flaw, s.FirstFlaw flaw ∧ failure = .launcher (.invalidConfig flaw.message) := by
  simp only [checked, ← flaw?_eq_some_iff]
  cases s.flaw? with
  | none => simp
  | some flaw => simp [eq_comm]

inductive Contributes (t : Tree) (here : Location) :
    Option SettingsFile → List (Text × Layered) → Prop
  | unnamed : Contributes t here none []
  | named {file : SettingsFile} {layer : List (Text × Layered)}
    (there : file.required = true → t.exists_ here file.path = true)
    (holds : fileLayer t here file = .ok layer) : Contributes t here (some file) layer

/-- The layers of a file and an environment, over the standard settings, make up these settings. -/
def Merges (t : Tree) (here : Location) (file : Option SettingsFile)
    (environment : List (Text × Text)) (c : Settings) : Prop :=
  ∃ layer, Contributes t here file layer ∧
    (merged layer (Environment.layer environment)).decode = .ok c

section Loading

variable {t : Tree} {here : Location} {file : Option SettingsFile} {layer : List (Text × Layered)}
  {environment : List (Text × Text)} {c c' : Settings}

theorem loadFrom_of_contributes (contributes : Contributes t here file layer) :
    loadFrom t here file environment = ofLayers layer (Environment.layer environment) := by
  cases contributes with
  | unnamed => rfl
  | @named file layer there holds =>
    have present : (file.required && !t.exists_ here file.path) = false := by
      cases required : file.required with
      | false => rfl
      | true => simp [there required]
    simp only [loadFrom, present, Bool.false_eq_true, if_false, holds]

theorem loadFrom_of_merges (merges : Merges t here file environment c) :
    loadFrom t here file environment = checked c := by
  obtain ⟨layer, contributes, decoded⟩ := merges
  rw [loadFrom_of_contributes contributes, ofLayers, decoded]

theorem fileLayer_error {named : SettingsFile} {failure : Failure}
    (refused : fileLayer t here named = .error failure) : ∃ text, failure = .said text := by
  unfold fileLayer at refused
  split at refused
  · split at refused <;> cases refused
    exact ⟨_, rfl⟩
  · split at refused <;> cases refused
    exact ⟨_, rfl⟩

theorem merges_or_said (t : Tree) (here : Location) (file : Option SettingsFile)
    (environment : List (Text × Text)) :
    (∃ c, Merges t here file environment c) ∨
      ∃ text, loadFrom t here file environment = .error (.said text) := by
  have decoded {layer : List (Text × Layered)} (contributes : Contributes t here file layer) :
      (∃ c, Merges t here file environment c) ∨
        ∃ text, loadFrom t here file environment = .error (.said text) := by
    cases decoded : (merged layer (Environment.layer environment)).decode with
    | ok c => exact .inl ⟨c, layer, contributes, decoded⟩
    | error fault =>
      refine .inr ⟨Advice.configParse fault.message, ?_⟩
      rw [loadFrom_of_contributes contributes, ofLayers, decoded]
      rfl
  cases file with
  | none => exact decoded .unnamed
  | some file =>
    by_cases absent : (file.required && !t.exists_ here file.path) = true
    · exact .inr ⟨_, by rw [loadFrom, if_pos absent]⟩
    · cases holds : fileLayer t here file with
      | ok layer =>
        refine decoded (.named (fun required => ?_) holds)
        simpa [required] using absent
      | error failure =>
        obtain ⟨text, rfl⟩ := fileLayer_error holds
        exact .inr ⟨text, by rw [loadFrom, if_neg absent, holds]⟩

theorem loadFrom_eq_ok_iff : loadFrom t here file environment = .ok c ↔
    Merges t here file environment c ∧ c.Admissible := by
  constructor
  · intro loaded
    rcases merges_or_said t here file environment with ⟨c', merges⟩ | ⟨text, said⟩
    · rw [loadFrom_of_merges merges] at loaded
      obtain ⟨rfl, admissible⟩ := checked_eq_ok_iff.1 loaded
      exact ⟨merges, admissible⟩
    · rw [said] at loaded
      cases loaded
  · rintro ⟨merges, admissible⟩
    rw [loadFrom_of_merges merges]
    exact checked_eq_ok_iff.2 ⟨rfl, admissible⟩

theorem loadFrom_eq_invalid_iff {m : Text} :
    loadFrom t here file environment = .error (.launcher (.invalidConfig m)) ↔
      ∃ c flaw, Merges t here file environment c ∧ c.FirstFlaw flaw ∧ flaw.message = m := by
  constructor
  · intro refused
    rcases merges_or_said t here file environment with ⟨c, merges⟩ | ⟨text, said⟩
    · rw [loadFrom_of_merges merges] at refused
      obtain ⟨flaw, first, same⟩ := checked_eq_error_iff.1 refused
      cases same
      exact ⟨c, flaw, merges, first, rfl⟩
    · rw [said] at refused
      cases refused
  · rintro ⟨c, flaw, merges, first, rfl⟩
    rw [loadFrom_of_merges merges]
    exact checked_eq_error_iff.2 ⟨flaw, first, rfl⟩

end Loading

end Settings

end PlatformLauncher
