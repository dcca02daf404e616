import PlatformLauncher.Proofs.Settings.Layering

/-!
Settings in which one leaf is set and every other one is standard. Main statements: `flaw?_standardWith`,
they pass exactly when the one value does, and `loadFrom_variable`, a variable that reads as a value
for its leaf loads as these settings.
-/
namespace PlatformLauncher.Settings
open Layered

variable {l m : Leaf} {x : l.kind.Value}

def only (l : Leaf) (x : l.kind.Value) : Overrides := fun m =>
  if h : m = l then some (h ▸ x) else none

def standardWith (l : Leaf) (x : l.kind.Value) : Settings :=
  ofLeaves fun m => (only l x m).getD (standard.get m)

theorem only_self : only l x l = some x := by simp [only]

theorem only_of_ne (h : m ≠ l) : only l x m = none := by simp [only, h]

theorem get_standardWith : (standardWith l x).get l = x := by
  rw [standardWith, get_ofLeaves, only_self, Option.getD_some]

theorem get_standardWith_of_ne (h : m ≠ l) : (standardWith l x).get m = standard.get m := by
  rw [standardWith, get_ofLeaves, only_of_ne h, Option.getD_none]

theorem eq_of_get {s s' : Settings} (h : ∀ l, s.get l = s'.get l) : s = s' := by
  have same : s.get = s'.get := funext h
  rw [← ofLeaves_get s, same, ofLeaves_get]

theorem eq_standardWith {s : Settings} (set : s.get l = x)
    (others : ∀ m, m ≠ l → s.get m = standard.get m) : s = standardWith l x := by
  apply eq_of_get
  intro m
  by_cases same : m = l
  · subst same
    rw [set, get_standardWith]
  · rw [others m same, get_standardWith_of_ne same]

def Leaf.Sound : (l : Leaf) → l.kind.Value → Prop
  | packages, (ps : List PackageEntry) => ∀ p ∈ ps, Text.isBlankText p.name = false
  | installerProgram, s | daemonProgram, s | probeProgram, s | shutdownProgram, s =>
    Text.isBlankText s = false
  | attempts, n => n ≠ (0 : UInt32)
  | _, _ => True

theorem flaw?_eq_none_iff_sound {s : Settings} : s.flaw? = none ↔ ∀ l : Leaf, l.Sound (s.get l) := by
  rw [flaw?_eq_none_iff]
  constructor
  · rintro ⟨attempts, packages, installer, daemon, probe, shutdown⟩ l
    cases l
    case packages => exact packages
    case installerProgram => exact installer
    case daemonProgram => exact daemon
    case probeProgram => exact probe
    case shutdownProgram => exact shutdown
    case attempts => exact attempts
    all_goals trivial
  · intro h
    exact ⟨h .attempts, h .packages, h .installerProgram, h .daemonProgram, h .probeProgram,
      h .shutdownProgram⟩

theorem flaw?_standardWith : (standardWith l x).flaw? = none ↔ l.Sound x := by
  have sound : ∀ m : Leaf, m.Sound (standard.get m) := flaw?_eq_none_iff_sound.1 (by decide)
  rw [flaw?_eq_none_iff_sound]
  constructor
  · intro h
    have own := h l
    rwa [get_standardWith] at own
  · intro h m
    by_cases same : m = l
    · subst same
      rwa [get_standardWith]
    · rw [get_standardWith_of_ne same]
      exact sound m

theorem checked_standardWith {s : Settings} :
    checked (standardWith l x) = .ok s ↔ l.Sound x ∧ s = standardWith l x := by
  rw [← flaw?_standardWith, checked]
  cases (standardWith l x).flaw? with
  | none => simp [eq_comm]
  | some flaw => simp

/-- An entry that lays a value over one leaf: under the key of the leaf, or in a table for its
section. -/
inductive SetsOnly (l : Leaf) (w : Layered) : Text × Layered → Prop where
  | byKey {key field : Text} (inSection : l.path = [key, field]) : SetsOnly l w (l.key, w)
  | inTable {key field : Text} {o : Option Text} (inSection : l.path = [key, field]) :
    SetsOnly l w (key, table o [(field, w)])

section
variable {w : Layered} {e : Text × Layered}

theorem SetsOnly.at? (h : SetsOnly l w e) (replaces : w.replaces = true) (root : Layered) :
    (root.overlay e).at? l.path = some w := by
  cases h with
  | byKey inSection =>
    rw [overlay_key inSection replaces, inSection, at?_put, if_pos rfl, at?_put, if_pos rfl, Layered.at?]
  | inTable inSection =>
    rw [at?_overlay_section inSection, assignAll, assignAll, assign_of_replaces replaces, get?_put,
      if_pos rfl]

theorem SetsOnly.gives (h : SetsOnly l w e) (replaces : w.replaces = true)
    (decoded : l.kind.decode w = .ok x) : Gives [e] (only l x) where
  agrees e' he := by
    obtain rfl := List.mem_singleton.1 he
    cases h with
    | byKey inSection => exact agrees_key inSection only_self replaces decoded
    | inTable inSection =>
      exact agrees_section (.cons l inSection only_self replaces decoded .nil) inSection
  sets m y hy := by
    by_cases same : m = l
    · subst same
      cases only_self.symm.trans hy
      exact ⟨e, List.mem_singleton_self e, fun root => ⟨w, h.at? replaces root, decoded⟩⟩
    · cases (only_of_ne same).symm.trans hy

theorem SetsOnly.ofLayers (h : SetsOnly l w e) (replaces : w.replaces = true)
    (decoded : l.kind.decode w = .ok x) : ofLayers [] [e] = checked (standardWith l x) :=
  ofLayers_of_gives gives_nil (h.gives replaces decoded)

end

section Variables

variable {t : Tree} {here : Location} {name value : Text}

theorem layer_variable (named : Text.lower name = l.variable) (value : Text) :
    Environment.layer [(name, value)] =
      [(l.key, .scalar (some Environment.origin) (Environment.scalar value))] := by
  simp only [Environment.layer, List.filterMap_cons, key?_of_variable named, Option.map_some,
    List.filterMap_nil]

theorem loadFrom_variable {key field : Text} (inSection : l.path = [key, field])
    (named : Text.lower name = l.variable)
    (decoded : l.kind.decode (.scalar (some Environment.origin) (Environment.scalar value)) = .ok x) :
    loadFrom t here none [(name, value)] = checked (standardWith l x) := by
  rw [loadFrom, layer_variable named]
  exact (SetsOnly.byKey inSection).ofLayers rfl decoded

end Variables

end PlatformLauncher.Settings
