import PlatformLauncher.Execution.Program
import PlatformLauncher.Install.Request
import PlatformLauncher.Proofs.Tree.Joined

/-!
The checkout that is installed is the one that was looked for. It is looked for at a joined path, and
the installer starts in the working directory and is handed the path as it is written. Main statement:
`resolve_seen_by_installer`; only a checkout with an empty path is one that the installer cannot find.
-/
namespace PlatformLauncher.Install

open Execution

section Installer

variable {t : Tree} {here dir : Location} {cwd : Path}

theorem status_of_startDirectory {environment : List (Text × Text)}
    (starts : startDirectory ⟨t, here, environment⟩ (some cwd) = .ok dir) :
    t.status here cwd = .ok (dir, .directory) := by
  unfold startDirectory at starts
  dsimp only at starts
  split at starts
  · next leads =>
    cases starts
    exact leads
  · cases starts
  · cases starts

theorem status_nil (t : Tree) (dir : Location) : t.status dir [] = .error .notFound := rfl

end Installer

/-- A checkout is installed for the sake of a directory that was found, and the installer, told to
install the path from its own directory, finds the very same one, unless the path is empty. Nothing
but the name is handed on when no directory was found; the installer could see one there only if the
path from the working directory on was too long, or led through too many links. -/
theorem resolve_seen_by_installer (t : Tree) (here dir : Location)
    (environment : List (Text × Text)) (cwd : Path) (p : PackageEntry)
    (starts : startDirectory ⟨t, here, environment⟩ (some cwd) = .ok dir) :
    let checked := t.status here (Path.join cwd p.checkout)
    let source := resolve t here p cwd
    let args := (Request.plain p.name source).args
    match source with
    | .directory path =>
      args = ["-e".toList, path] ∧ ∃ place, checked = .ok (place, .directory) ∧
        t.status dir path = if path = [] then .error .notFound else .ok (place, .directory)
    | .registry name =>
      args = [p.name] ∧ name = p.name ∧ (∀ place, checked ≠ .ok (place, .directory)) ∧
        ∀ place, t.status dir p.checkout = .ok (place, .directory) →
          checked = .error .nameTooLong ∨ checked = .error .tooManyLinks
    | _ => False := by
  intro checked source args
  have leads : t.status here cwd = .ok (dir, .directory) := status_of_startDirectory starts
  by_cases there : t.isDirectory here (Path.join cwd p.checkout) = true
  · have chosen : source = .directory p.checkout := if_pos there
    clear_value source
    subst chosen
    obtain ⟨place, found⟩ := Tree.isDirectory_iff.1 there
    refine ⟨rfl, place, found, ?_⟩
    split
    · next empty => rw [empty, status_nil]
    · next named => exact Tree.status_of_joined leads named found
  · have chosen : source = .registry p.name := if_neg there
    clear_value source
    subst chosen
    have absent : ∀ place, checked ≠ .ok (place, .directory) := fun place found =>
      there (Tree.isDirectory_iff.2 ⟨place, found⟩)
    refine ⟨rfl, rfl, absent, fun place seen => ?_⟩
    rcases Tree.status_joined leads seen with found | lost
    · exact absurd found (absent place)
    · exact lost

def workshop : Tree where
  entries :=
    [(["home".toList], .directory),
      (["work".toList, "home".toList], .link "/w".toList),
      (["w".toList], .directory),
      (["libs".toList, "w".toList], .link "../store".toList),
      (["store".toList], .directory),
      (["zmq".toList, "store".toList], .directory)]
  sealed_ := []

theorem resolve_seen_behind_links :
    let zmq : PackageEntry := ⟨"volttron-lib-zmq".toList, some "libs//zmq/".toList⟩
    startDirectory ⟨workshop, ["home".toList], []⟩ (some "work/.".toList) = .ok ["w".toList] ∧
      resolve workshop ["home".toList] zmq "work/.".toList = .directory "libs//zmq/".toList ∧
      workshop.status ["home".toList] (Path.join "work/.".toList zmq.checkout) =
        .ok (["zmq".toList, "store".toList], .directory) ∧
      workshop.status ["w".toList] "libs//zmq/".toList =
        .ok (["zmq".toList, "store".toList], .directory) := by
  intro zmq
  have starts : startDirectory ⟨workshop, ["home".toList], []⟩ (some "work/.".toList) =
      .ok ["w".toList] := rfl
  have chosen : resolve workshop ["home".toList] zmq "work/.".toList =
      .directory "libs//zmq/".toList := by decide +kernel
  have checked : workshop.status ["home".toList] (Path.join "work/.".toList zmq.checkout) =
      .ok (["zmq".toList, "store".toList], .directory) := rfl
  have seen := resolve_seen_by_installer workshop ["home".toList] ["w".toList] [] "work/.".toList zmq
    starts
  rw [chosen] at seen
  obtain ⟨-, place, found, there⟩ := seen
  cases checked.symm.trans found
  exact ⟨starts, chosen, checked, there⟩

theorem resolve_unseen_when_empty :
    let zmq : PackageEntry := ⟨"volttron-lib-zmq".toList, some []⟩
    let source := resolve workshop ["w".toList] zmq "/w".toList
    startDirectory ⟨workshop, ["w".toList], []⟩ (some "/w".toList) = .ok ["w".toList] ∧
      source = .directory [] ∧
      workshop.status ["w".toList] (Path.join "/w".toList zmq.checkout) =
        .ok (["w".toList], .directory) ∧
      (Request.plain zmq.name source).args = ["-e".toList, []] ∧
      workshop.status ["w".toList] [] = .error .notFound :=
  ⟨rfl, rfl, rfl, rfl, rfl⟩

end PlatformLauncher.Install
