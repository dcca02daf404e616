import PlatformLauncher.Home
import PlatformLauncher.Proofs.Tree.Nested

/-!
Making the home. All that may come of it is directories on the way there; it goes well just when the
home is a directory afterwards, and once it has gone well, or the home was there, there is nothing left
to do. Main statement: `ensure_exact`.
-/
namespace PlatformLauncher.Home

section Ensuring

variable {t : Tree} {here place m : Location} {home : Path} {before : List Text}

theorem ensure_snd_eq_none_iff :
    (ensure t here home).2 = none ↔ (t.makeDirectories here home).2 = none :=
  Option.map_eq_none_iff

theorem ensure_of_status (there : t.status here home = .ok (place, .directory)) :
    ensure t here home = (t, none) := by
  rw [ensure, Tree.makeDirectories_of_status there]
  rfl

theorem ensure_of_leadsOn (on : t.LeadsOn here home before place m) (closed : t.Closed)
    (unsealed : ∀ l, t.isSealed l = false) :
    ensure t here home = (t.extended place m, none) := by
  rw [ensure, (Tree.makeDirectories_extends on closed unsealed).1]
  rfl

end Ensuring

/-- Whether making a home goes well is a matter of where its path leads afterwards. What stood in the
tree stands there, and what is new is directories that fronts of the path name. Where there is a
directory already nothing is done, also not the second time; where the names of the home lead straight
on from a directory, and the first is free there, just the directories they name are made. -/
theorem ensure_exact (t : Tree) (here : Location) (home : Path) (named : home ≠ []) :
    let made := (ensure t here home).1
    let failure := (ensure t here home).2
    (failure = none ↔ ∃ place, made.status here home = .ok (place, .directory)) ∧
    (∀ l e, t.get? l = some e → made.get? l = some e) ∧
    (∀ l e, t.get? l = none → made.get? l = some e → e = .directory ∧
      ∃ p, Path.IsFront p home ∧ made.status here p = .ok (l, .directory)) ∧
    (∀ place, t.status here home = .ok (place, .directory) → ensure t here home = (t, none)) ∧
    (failure = none → ensure made here home = (made, none)) ∧
    ∀ before place m, t.LeadsOn here home before place m → t.Closed →
      (∀ l, t.isSealed l = false) → ensure t here home = (t.extended place m, none) := by
  intro made failure
  have goes_well : failure = none ↔ ∃ place, made.status here home = .ok (place, .directory) :=
    ensure_snd_eq_none_iff.trans (Tree.makeDirectories_eq_none_iff named)
  have traces : t.Footprint here home [] made := Tree.footprint_makeDirectories t here home
  refine ⟨goes_well, fun _ _ => traces.old_of_nil, fun l e vacant stands => ?_,
    fun _ => ensure_of_status, fun done => ?_, fun _ _ _ => ensure_of_leadsOn⟩
  · rcases traces.new l e vacant stands with new | ⟨_, written, -⟩
    · exact new
    · cases written
  · obtain ⟨place, there⟩ := goes_well.1 done
    exact ensure_of_status there

def quay : Tree where
  entries :=
    [(["w".toList], .directory),
      (["real".toList, "w".toList], .directory),
      (["link".toList, "w".toList], .link "real".toList),
      (["gone".toList, "w".toList], .link "nowhere".toList),
      (["note".toList, "w".toList], .file [])]
  sealed_ := []

theorem closed_quay : quay.Closed := Tree.closed_of_entries (by decide +kernel)

theorem ensure_exact_on_quay :
    let here := ["w".toList]
    let home := "./link//deep/home/".toList
    let made := quay.extended ["real".toList, "w".toList] ["home".toList, "deep".toList]
    home ≠ [] ∧ ensure quay here home = (made, none) ∧ ensure made here home = (made, none) ∧
      (ensure quay here "gone/home".toList).1 = quay ∧
      (ensure quay here "gone/home".toList).2 ≠ none ∧
      (ensure quay here "new/../note/home".toList).1 =
        quay.put ["new".toList, "w".toList] .directory ∧
      (ensure quay here "new/../note/home".toList).2 ≠ none := by
  intro here home made
  have named : home ≠ [] := by decide
  have on : quay.LeadsOn here home [['.'], "link".toList] ["real".toList, "w".toList]
      ["home".toList, "deep".toList] :=
    ⟨by decide, by decide, by decide, by decide, by decide, by decide⟩
  obtain ⟨-, -, -, -, again, leads⟩ := ensure_exact quay here home named
  have first : ensure quay here home = (made, none) := leads _ _ _ on closed_quay fun _ => rfl
  rw [first] at again
  exact ⟨named, first, again rfl, by decide +kernel, by decide +kernel, by decide +kernel,
    by decide +kernel⟩

end PlatformLauncher.Home
