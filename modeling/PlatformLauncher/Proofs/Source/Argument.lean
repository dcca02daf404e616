import PlatformLauncher.Install.Request
import PlatformLauncher.Proofs.Source.Classification

/-!
What the argument for the installer denotes. A checkout or a wheel is named by the path of its own
place, which leads there from everywhere, as long as the places on the way can be looked up by their
paths; beyond that it is named as it was given. Main statements: `Tree.straight_path` for the path of a
place, `named_absolute` for the one that is handed on, and `arg_denotes`.
-/
namespace PlatformLauncher

namespace Tree

/-- The path of a place as the place itself spells it: from the root, without dots, through
directories only. -/
structure Straight (t : Tree) (place : Location) (e : Entry) (p : Path) : Prop where
  absolute : Path.isAbsolute p = true
  names : Path.names p = place.reverse
  noDots : ∀ name ∈ Path.names p, name ≠ ['.'] ∧ name ≠ ['.', '.']
  noLinks : ∀ l target, l <:+ place → t.get? l ≠ some (.link target)
  leads : ∀ here, t.status here p = .ok (place, e)

def Traceable (t : Tree) (here : Location) (p : Path) (place : Location) : Prop :=
  ∀ l ∈ place :: t.passed linkLimit (start here p) (Path.names p), nameable l = true

section Places

variable {t : Tree} {here place : Location} {p : Path} {e : Entry}

theorem straight_path (proper : t.Proper) (stands : t.get? place = some e)
    (other : ∀ target, e ≠ .link target) (fits : nameable place = true) :
    t.Straight place e place.path where
  absolute := rfl
  names := names_path (proper.isName stands)
  noDots name member := by
    rw [names_path (proper.isName stands), List.mem_reverse] at member
    have named := proper.isName stands name member
    exact ⟨named.dot, named.dots⟩
  noLinks l target inside := by
    by_cases last : l = place
    · rw [last, stands]
      exact fun link => other target (Option.some.inj link)
    · rw [proper.closed.directory_of_suffix stands inside last]
      rintro ⟨⟩
  leads here := status_path proper stands other fits here

theorem canonical?_of_status (found : t.status here p = .ok (place, e)) :
    (t.Traceable here p place → t.canonical? here p = some place.path) ∧
      (¬ t.Traceable here p place → t.canonical? here p = none) := by
  unfold canonical? Traceable
  rw [found]
  dsimp only
  split
  · next all => exact ⟨fun _ => rfl, fun long => absurd (List.all_eq_true.1 all) long⟩
  · next long => exact ⟨fun all => absurd (List.all_eq_true.2 all) long, fun _ => rfl⟩

end Places

end Tree

namespace Source

/-- What stands for a text that leads to a place: the path of that place, or the text itself when the
way cannot be traced. -/
structure Named (t : Tree) (here : Location) (s : Text) (place : Location) (e : Entry) (p : Path) :
    Prop where
  given : t.status here s = .ok (place, e)
  same : t.status here p = .ok (place, e)
  own : t.Traceable here s place → p = place.path ∧ t.Straight place e p
  kept : ¬ t.Traceable here s place → p = s

section Arguments

variable {t : Tree} {here place : Location} {s : Text} {e : Entry}

theorem named_absolute (proper : t.Proper) (stands : t.get? here = some .directory)
    (leads : t.status here s = .ok (place, e)) (other : ∀ target, e ≠ .link target) :
    Named t here s place e (absolute t here s) := by
  have inside : t.get? place = some e := proper.closed.stands_of_status stands leads
  obtain ⟨traced, lost⟩ := Tree.canonical?_of_status leads
  by_cases short : t.Traceable here s place
  · have straight := Tree.straight_path proper inside other (short place List.mem_cons_self)
    rw [absolute, traced short, Option.getD_some]
    exact ⟨leads, straight.leads here, fun _ => ⟨rfl, straight⟩, fun long => absurd short long⟩
  · rw [absolute, lost short, Option.getD_none]
    exact ⟨leads, leads, fun short' => absurd short' short, fun _ => rfl⟩

theorem classify_eq_url_iff : classify t here s = url s ↔ Url.isUrl s = true := by
  refine ⟨fun found => ?_, fun address => (Recognised.url address).classify_eq⟩
  have known := recognised t here s
  rw [found] at known
  cases known with
  | url address => exact address

theorem isEditable_iff {x : Source} : x.isEditable = true ↔ ∃ p, x = directory p := by
  cases x <;> simp [isEditable]

end Arguments

/-- A web address is one in every tree, and it and a name of the registry are handed on as they are; a
name of the registry leads neither to a directory nor to a wheel. A checkout and a wheel are handed on
by a path that leads to the same place, the own path of that place if it can be traced. The flags come
first, in their order, and a checkout alone is installed so that changes in it take effect. -/
theorem arg_denotes (t : Tree) (proper : t.Proper) (here : Location)
    (stands : t.get? here = some .directory) (s : Text) :
    let found := classify t here s
    (∀ a, found = url a ∨ found = registry a → a = s) ∧
    (∀ t' here', classify t' here' s = url s ↔ found = url s) ∧
    (∀ a, found = registry a → (∀ place, t.status here s ≠ .ok (place, .directory)) ∧
      ∀ place content, t.status here s = .ok (place, .file content) →
        Text.endsWith s wheelEnding = false) ∧
    (∀ p, found = directory p → ∃ place, Named t here s place .directory p) ∧
    (∀ p, found = wheel p → Text.endsWith s wheelEnding = true ∧
      ∃ place content, Named t here s place (.file content) p) ∧
    (found.isEditable = true ↔ ∃ p, found = directory p) ∧
    ∀ label force preRelease,
      (Install.Request.mk label found force preRelease).args =
        (if force then ["--force-reinstall".toList] else []) ++
          (if preRelease then ["--pre".toList] else []) ++
          (if found.isEditable then ["-e".toList] else []) ++ [found.arg] := by
  intro found
  have anywhere : ∀ t' here', classify t' here' s = url s ↔ found = url s := fun t' here' =>
    classify_eq_url_iff.trans classify_eq_url_iff.symm
  have args (label : Text) (force preRelease : Bool) :
      (Install.Request.mk label found force preRelease).args =
        (if force then ["--force-reinstall".toList] else []) ++
          (if preRelease then ["--pre".toList] else []) ++
          (if found.isEditable then ["-e".toList] else []) ++ [found.arg] := rfl
  have known : Recognised t here s found := recognised t here s
  refine ⟨?_, anywhere, ?_, ?_, ?_, isEditable_iff, args⟩
  · clear_value found
    rintro a (rfl | rfl) <;> cases known <;> rfl
  · clear_value found
    rintro a rfl
    cases known with
    | registry _ noDirectory noWheel => exact ⟨noDirectory, noWheel⟩
  · clear_value found
    rintro p rfl
    cases known with
    | directory _ leads => exact ⟨_, named_absolute proper stands leads (by simp)⟩
  · clear_value found
    rintro p rfl
    cases known with
    | wheel _ leads ending =>
      exact ⟨ending, _, _, named_absolute proper stands leads (by simp)⟩

theorem arg_denotes_on_shelf :
    shelf.Proper ∧ shelf.get? ["w".toList] = some .directory ∧
      (∀ t here, classify t here "file:new".toList = url "file:new".toList) ∧
      (∃ place, Named shelf ["w".toList] "./new//".toList place .directory "/w/store".toList) ∧
      (∃ place content,
        Named shelf ["w".toList] "new/lib.whl".toList place (.file content)
          "/w/store/lib.whl".toList) ∧
      (Install.Request.mk [] (classify shelf ["w".toList] "./new//".toList) true true).args =
        ["--force-reinstall".toList, "--pre".toList, "-e".toList, "/w/store".toList] := by
  have denotes := arg_denotes shelf proper_shelf ["w".toList] rfl
  have checkout : classify shelf ["w".toList] "./new//".toList = directory "/w/store".toList := by
    decide +kernel
  have built : classify shelf ["w".toList] "new/lib.whl".toList =
      wheel "/w/store/lib.whl".toList := by decide +kernel
  have address : classify shelf ["w".toList] "file:new".toList = url "file:new".toList := by
    decide +kernel
  obtain ⟨-, anywhere, -⟩ := denotes "file:new".toList
  obtain ⟨-, -, -, there, -, -, args⟩ := denotes "./new//".toList
  obtain ⟨-, -, -, -, wheels, -, -⟩ := denotes "new/lib.whl".toList
  refine ⟨proper_shelf, rfl, fun t here => (anywhere t here).2 address, there _ checkout,
    (wheels _ built).2, ?_⟩
  rw [args, checkout]
  rfl

def longNames : List Text := "abcdefgh".toList.map (List.replicate 255)

def depths : Tree where
  entries :=
    (["near".toList, "w".toList], .link (Text.joinWith ['/'] longNames)) ::
      (List.range 17).map fun k =>
        (((longNames ++ longNames).reverse ++ ["w".toList]).drop k, .directory)
  sealed_ := []

def throughLink : Path := Text.joinWith ['/'] ("near".toList :: longNames)

theorem proper_depths : depths.Proper := Tree.proper_of_entries (by decide +kernel)

theorem arg_keeps_link :
    depths.Proper ∧ depths.get? ["w".toList] = some .directory ∧
      classify depths ["w".toList] throughLink = directory throughLink ∧
      Path.isAbsolute throughLink = false ∧ (Path.names throughLink).head? = some "near".toList ∧
      ∃ target, depths.get? ["near".toList, "w".toList] = some (.link target) :=
  ⟨proper_depths, rfl, by decide +kernel, by decide +kernel, by decide +kernel, _, rfl⟩

end Source

end PlatformLauncher
