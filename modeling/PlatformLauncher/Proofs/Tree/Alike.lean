import PlatformLauncher.Proofs.Tree.Directories

/-!
Doing again what was done already. Two trees are alike when they have the same entries and the same
sealed directories, however these came about; no operation tells alike trees apart. Main statements:
`makeDirectories_of_status`, a directory that is there is not made again, `write_again`, a path that
could be written and leads to a file is written there, and `alike_put_put`, filling two slots anew
with what they hold changes nothing.
-/
namespace PlatformLauncher.Tree

structure Alike (t t' : Tree) : Prop where
  entries : ∀ l, t'.get? l = t.get? l
  seals : t'.sealed_ = t.sealed_

section Changes

variable {t : Tree} {l m : Location} {e f : Entry}

theorem alike_put (inner : l ≠ []) (stands : t.get? l = some e) : t.Alike (t.put l e) where
  entries m := by
    by_cases atPlace : m = l
    · subst atPlace
      rw [get?_put_self t inner, stands]
    · exact get?_put_of_ne t atPlace e
  seals := rfl

theorem alike_put_put (outer : l ≠ []) (inner : m ≠ []) (last : t.get? m = some f)
    (first : l ≠ m → t.get? l = some e) : t.Alike ((t.put l e).put m f) where
  entries n := by
    by_cases second : n = m
    · subst second
      rw [get?_put_self _ inner, last]
    · rw [get?_put_of_ne _ second]
      by_cases atPlace : n = l
      · subst atPlace
        rw [get?_put_self t outer, first second]
      · exact get?_put_of_ne t atPlace e
  seals := rfl

end Changes

section Operations

variable {t t' : Tree} {follow : Bool} {here l : Location} {p : Path} {content : Octets}

theorem Alike.advance (alike : t.Alike t') (here : Location) (names : List Text) :
    Tree.advance t' follow here names = Tree.advance t follow here names := by
  induction names generalizing here with
  | nil => rfl
  | cons name rest ih =>
    unfold Tree.advance
    rw [alike.entries, ih here, ih here.parent, ih (name :: here)]

theorem Alike.walk (alike : t.Alike t') (links : Nat) (here : Location) (names : List Text)
    (slash : Bool) :
    Tree.walk t' follow links here names slash = Tree.walk t follow links here names slash := by
  fun_induction Tree.walk t follow links here names slash with
  | case1 links here names slash r landed =>
    exact walk_of_landed ((alike.advance here names).trans landed) _
  | case2 here names slash directory target rest turned =>
    exact walk_zero_of_turned ((alike.advance here names).trans turned) _
  | case3 here names slash directory target rest turned links ih =>
    rw [walk_of_turned ((alike.advance here names).trans turned)]
    exact ih

theorem Alike.locate (alike : t.Alike t') (here : Location) (p : Path) :
    t'.locate follow here p = t.locate follow here p := by
  unfold Tree.locate
  split
  · rfl
  · exact alike.walk _ _ _ _

theorem Alike.isSealed (alike : t.Alike t') (l : Location) : t'.isSealed l = t.isSealed l := by
  unfold Tree.isSealed
  rw [alike.seals]

theorem Alike.write_error {fault : Fault} (alike : t.Alike t')
    (e : t.write here p content = .error fault) : t'.write here p content = .error fault := by
  unfold Tree.write slashFault at e ⊢
  rw [alike.walk, alike.locate]
  split at e
  · next ends =>
    rw [if_pos ends]
    exact e
  next ends =>
  rw [if_neg ends]
  split at e
  · exact e
  · exact e
  · exact e
  · cases e
  · next place _ _ _ =>
    rw [alike.isSealed place]
    split at e
    · next denied =>
      rw [if_pos denied]
      exact e
    · cases e

end Operations

section Again

variable {t t' : Tree} {here place : Location} {names : List Text} {p : Path}

theorem advance_unfollowed (t : Tree) (here : Location) (names : List Text) :
    advance t false here names = advance t true here names ∨
      ∃ place target, advance t false here names = .landed (.found place (.link target)) := by
  by_cases ended : ∃ place target, advance t false here names = .landed (.found place (.link target))
  · exact .inr ended
  · refine .inl (advance_follow rfl fun place target link => ended ⟨place, target, link⟩).symm

theorem found_of_walk {links : Nat} {slash slash' : Bool} {e : Entry}
    (ends : walk t true links here names slash = (.found place e, slash')) :
    ∃ place' e' slash'', walk t false links here names slash = (.found place' e', slash'') := by
  fun_induction walk t true links here names slash with
  | case1 links here names slash r landed =>
    cases ends
    rcases advance_unfollowed t here names with same | ⟨place', target, link⟩
    · exact ⟨_, _, _, walk_of_landed (same.trans landed) _⟩
    · exact ⟨_, _, _, walk_of_landed link _⟩
  | case2 here names slash directory target rest turned => cases ends
  | case3 here names slash directory target rest turned links ih =>
    rcases advance_unfollowed t here names with same | ⟨place', target, link⟩
    · rw [walk_of_turned (same.trans turned)]
      exact ih ends
    · exact ⟨_, _, _, walk_of_landed link _⟩

theorem found_of_locate {slash : Bool} {e : Entry}
    (located : t.locate true here p = (.found place e, slash)) :
    ∃ place' e' slash', t.locate false here p = (.found place' e', slash') := by
  unfold locate at located ⊢
  split at located
  · cases located
  · exact found_of_walk located

theorem makeDirectory_of_status (stands : t.status here p = .ok (place, .directory)) :
    t.makeDirectory here p = .error .exists_ := by
  obtain ⟨slash, located⟩ := status_eq_directory_iff.1 stands
  obtain ⟨place', e', slash', found⟩ := found_of_locate located
  rw [makeDirectory, found]

theorem makeDirectories_of_status (stands : t.status here p = .ok (place, .directory)) :
    t.makeDirectories here p = (t, none) := by
  have refused := makeDirectory_of_status stands
  have there : t.isDirectory here p = true := by
    unfold isDirectory
    rw [stands]
  have settled : t.settle here p = (t, none) := by
    rw [settle, refused]
    dsimp only
    rw [if_pos there]
  unfold makeDirectories
  cases Path.ancestors p with
  | nil =>
    rw [makeDirectoriesWithin, settled, ite_self]
  | cons outer further =>
    rw [makeDirectoriesWithin, refused]
    split
    · rfl
    · exact settled

theorem makeDirectories_nil (t : Tree) (here : Location) : t.makeDirectories here [] = (t, none) := by
  unfold makeDirectories
  cases Path.ancestors [] <;> rfl

theorem isSlot_of_status {content : Octets} (stands : t.status here p = .ok (place, .file content)) :
    t.IsSlot place := by
  have file := get?_of_status_file stands
  refine ⟨?_, fun e there => ⟨content, Option.some.inj (there.symm.trans file)⟩⟩
  rintro rfl
  cases file

theorem endsInSlash_of_write {content : Octets} (e : t.write here p content = .ok t') :
    Path.endsInSlash p = false := by
  obtain ⟨place, r, located, ends, -⟩ := write_ok e
  have whole : pathFault? p = none := by
    unfold locate at located
    split at located
    · cases located
      cases ends
    · assumption
  unfold write at e
  split at e
  · cases e
  · next name => simpa [whole] using name

theorem write_again {t₀ t₁ : Tree} {first content old : Octets}
    (before : t₀.write here p first = .ok t₁)
    (stands : t.status here p = .ok (place, .file old)) :
    t.write here p content = .ok (t.put place (.file content)) :=
  write_of_status stands (endsInSlash_of_write before)

end Again

end PlatformLauncher.Tree
