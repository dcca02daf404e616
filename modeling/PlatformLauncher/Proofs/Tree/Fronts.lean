import PlatformLauncher.Proofs.Tree.Joined

/-!
The directories on the way to a directory. A path that leads to one has fronts that do so too, so that
making directories fails only where the path would not lead to one afterwards. Main statements:
`status_front` and `makeDirectories_eq_none_iff`.
-/
namespace PlatformLauncher.Tree

section Fronts

variable {t : Tree} {here place : Location} {names more : List Text} {p q : Path}

theorem advance_append_landed (more : List Text) {r : Landing}
    (e : advance t true here names = .landed r) :
    (∃ place, r = .found place .directory) ∨
      ∃ r', advance t true here (names ++ more) = .landed r' ∧
        ∀ place, r' ≠ .found place .directory := by
  induction names generalizing here with
  | nil =>
    cases e
    exact .inl ⟨here, rfl⟩
  | cons name rest ih =>
    rw [List.cons_append, advance_cons]
    rw [advance_cons] at e
    cases moved : t.move here name with
    | into directory =>
      rw [moved] at e
      exact ih e
    | missing =>
      refine .inr ⟨_, rfl, fun place => ?_⟩
      split <;> simp
    | file content =>
      refine .inr ⟨_, rfl, fun place => ?_⟩
      split <;> simp
    | link target =>
      rw [moved] at e
      simp at e
    | tooLong => exact .inr ⟨_, rfl, by simp⟩

theorem walk_front {links : Nat} {slash : Bool}
    (lands : (walk t true links here (names ++ more) slash).1 = .found place .directory)
    (slash' : Bool) :
    ∃ place', (walk t true links here names slash').1 = .found place' .directory := by
  fun_induction walk t true links here names slash' generalizing slash with
  | case1 links here names slash' r landed =>
    rcases advance_append_landed more landed with directory | ⟨r', further, other⟩
    · exact directory
    · rw [walk_of_landed further] at lands
      exact absurd lands (other place)
  | case2 here names slash' directory target rest turned =>
    rw [walk_zero_of_turned (advance_append_turned turned (.inl rfl))] at lands
    cases lands
  | case3 here names slash' directory target rest turned links ih =>
    rw [walk_of_turned (advance_append_turned turned (.inl rfl)), ← List.append_assoc] at lands
    exact ih lands

theorem pathFault?_front (front : Path.IsFront q p) (named : q ≠ [])
    (whole : pathFault? p = none) : pathFault? q = none := by
  obtain ⟨rest, rfl, -⟩ := front
  obtain ⟨null, -, short⟩ := pathFault?_eq_none_iff.1 whole
  rw [Octets.encode_append, List.length_append] at short
  exact pathFault?_eq_none_iff.2
    ⟨fun inside => null (List.mem_append_left _ inside), named, by omega⟩

theorem start_front (front : Path.IsFront q p) (named : q ≠ []) (here : Location) :
    start here q = start here p := by
  unfold start
  rw [Path.isAbsolute_of_isFront front named]

theorem status_front (front : Path.IsFront q p) (named : q ≠ [])
    (leads : t.status here p = .ok (place, .directory)) :
    ∃ place', t.status here q = .ok (place', .directory) := by
  obtain ⟨whole, slash, walks⟩ := walk_of_status_directory leads
  obtain ⟨more, names⟩ := Path.names_of_isFront front
  rw [← start_front front named, names] at walks
  obtain ⟨place', lands⟩ := walk_front (congrArg Prod.fst walks) false
  exact ⟨place', status_directory_of_walk (pathFault?_front front named whole) lands⟩

end Fronts

section Making

variable {t t' : Tree} {here : Location} {p : Path} {fault : Fault}

theorem settle_error (e : t.settle here p = (t', some fault)) : t'.isDirectory here p = false := by
  unfold settle at e
  split at e
  · cases e
  · split at e
    · cases e
    · next elsewhere =>
      cases e
      simpa using elsewhere

theorem makeDirectoriesWithin_error {outer : List Path}
    (e : t.makeDirectoriesWithin here p outer = (t', some fault)) :
    ∃ q ∈ p :: outer, q ≠ [] ∧ t'.isDirectory here q = false := by
  induction outer generalizing p with
  | nil =>
    rw [makeDirectoriesWithin] at e
    split at e
    · cases e
    · next nonempty => exact ⟨p, List.mem_cons_self, by simpa using nonempty, settle_error e⟩
  | cons outer further ih =>
    rw [makeDirectoriesWithin] at e
    split at e
    · cases e
    next nonempty =>
    have settled {t₁ : Tree} (e : t₁.settle here p = (t', some fault)) :
        ∃ q ∈ p :: outer :: further, q ≠ [] ∧ t'.isDirectory here q = false :=
      ⟨p, List.mem_cons_self, by simpa using nonempty, settle_error e⟩
    split at e
    · split at e
      · exact settled e
      · obtain ⟨q, member, named, elsewhere⟩ := ih e
        exact ⟨q, List.mem_cons_of_mem _ member, named, elsewhere⟩
    · exact settled e

theorem makeDirectories_eq_none_iff (named : p ≠ []) :
    (t.makeDirectories here p).2 = none ↔
      ∃ place, (t.makeDirectories here p).1.status here p = .ok (place, .directory) := by
  rcases made : t.makeDirectories here p with ⟨t', _ | fault⟩
  · exact ⟨fun _ => isDirectory_of_makeDirectories named made, fun _ => rfl⟩
  · constructor
    · rintro ⟨⟩
    rintro ⟨place, leads⟩
    obtain ⟨q, member, named', elsewhere⟩ := makeDirectoriesWithin_error made
    have front : Path.IsFront q p := by
      rcases List.mem_cons.1 member with rfl | member
      · exact .refl _
      · exact Path.isFront_of_mem_ancestors member named'
    obtain ⟨place', there⟩ := status_front front named' leads
    rw [isDirectory_iff.2 ⟨place', there⟩] at elsewhere
    cases elsewhere

end Making

end PlatformLauncher.Tree
