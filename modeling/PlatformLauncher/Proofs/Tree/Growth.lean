import PlatformLauncher.Proofs.Tree.Alike

/-!
Where a path leads when the tree around it changes. A file put somewhere shows up only on the paths
that lead to it, and what is removed is gone. Directories that are made on the way to a home hold
nothing, so that no file comes to light behind them, unless the way goes back up out of them. Main
statements: `status_put_apart`, `status_of_remove` and `status_of_makeDirectories`.
-/
namespace PlatformLauncher

namespace Path

theorem names_of_isFront {q p : Path} (front : IsFront q p) : ∃ more, names p = names q ++ more := by
  obtain ⟨rest, rfl, rfl | slash | slash⟩ := front
  · exact ⟨[], by simp⟩
  · obtain ⟨rest, rfl⟩ := List.head?_eq_some_iff.1 slash
    exact ⟨names rest, names_append_slash q rest⟩
  · obtain ⟨q, rfl⟩ := List.getLast?_eq_some_iff.1 slash
    refine ⟨names rest, ?_⟩
    rw [List.append_assoc, List.singleton_append, names_append_slash, names_append_slash]
    simp [names, Text.pieces]

theorem isAbsolute_of_isFront {q p : Path} (front : IsFront q p) (named : q ≠ []) :
    isAbsolute p = isAbsolute q := by
  obtain ⟨rest, rfl, -⟩ := front
  cases q with
  | nil => exact absurd rfl named
  | cons c q => rfl

theorem isAbsolute_join {base p : Path} (relative : isAbsolute p = false) :
    isAbsolute (join base p) = isAbsolute base := by
  unfold join
  rw [if_neg (by simp [relative])]
  cases base with
  | nil => exact relative
  | cons c base => split <;> rfl

end Path

namespace Tree

section Leading

variable {t t' : Tree} {here l place : Location} {p : Path} {e : Entry} {content : Octets}

theorem status_put_apart (slot : t.IsSlot l)
    (apart : ∀ old, (t.put l (.file content)).status here p ≠ .ok (l, .file old)) :
    ((t.put l (.file content)).status here p).toOption = (t.status here p).toOption := by
  have retains : t.Retains (t.put l (.file content)) := retains_put_file slot
  cases before : t.status here p with
  | ok found =>
    obtain ⟨place, e⟩ := found
    have after : (t.put l (.file content)).status here p = .ok (place, e) := by
      refine retains.status_of_held ?_ before
      rintro old rfl
      rw [get?_put_of_ne, get?_of_status_file before]
      rintro rfl
      exact apart _ (status_put slot before)
    rw [after]
  | error fault =>
    cases after : (t.put l (.file content)).status here p with
    | error fault' => rfl
    | ok found =>
      -- what is found now is not the new file, so that it was found before
      obtain ⟨place, e⟩ := found
      have others : ∀ m, m ≠ l → t.get? m = (t.put l (.file content)).get? m := fun m other =>
        (get?_put_of_ne t other _).symm
      have back : (t.put l (.file content)).Retains t := by
        intro m e' stands other
        rw [others, stands]
        rintro rfl
        rw [get?_put_self t slot.1] at stands
        exact other content (Option.some.inj stands).symm
      have same : t.status here p = .ok (place, e) := by
        refine back.status_of_held ?_ after
        rintro old rfl
        rw [others, get?_of_status_file after]
        rintro rfl
        exact apart _ after
      cases before.symm.trans same

theorem get?_of_found {follow slash : Bool} (located : t.locate follow here p = (.found place e, slash))
    (other : e ≠ .directory) : place ≠ [] ∧ t.get? place = some e := by
  have stands := stands_of_locate located
  cases e with
  | directory => exact absurd rfl other
  | file content => exact stands
  | link target => exact stands

theorem get?_of_erase (inner : place ≠ []) (stands : (t.erase place).get? l = some e) :
    t.get? l = some e := by
  rwa [get?_erase_of_ne] at stands
  rintro rfl
  rw [get?_erase_self t inner] at stands
  cases stands

theorem status_of_remove (e : t.remove here p = .ok t') :
    ∃ fault, t'.status here p = .error fault := by
  unfold remove at e
  split at e
  · cases e
  · cases e
  · cases e
  next place entry slash other located =>
  cases slash <;> cases e
  have inner : place ≠ [] := (get?_of_found located other).1
  cases after : (t.erase place).status here p with
  | error fault => exact ⟨fault, rfl⟩
  | ok found =>
    -- an end of the path in the smaller tree is the one it had before, which is gone
    obtain ⟨slash, located', -⟩ := locate_of_status after
    obtain ⟨place', entry', slash', found'⟩ := found_of_locate located'
    have retains : (t.erase place).Retains t := fun l e stands _ => get?_of_erase inner stands
    have before : t.locate false here p = (.found place' entry', slash') := by
      refine retains.locate_of_held ?_ found'
      rintro content rfl
      exact get?_of_erase inner (stands_of_locate found').2
    cases located.symm.trans before
    have gone := get?_erase_self t inner
    cases gone.symm.trans (get?_of_found found' other).2

end Leading

def Closed (t : Tree) : Prop := ∀ l e, t.get? l = some e → t.get? l.parent = some .directory

theorem closed_of_entries {t : Tree}
    (inside : ∀ x ∈ t.entries, t.get? (Location.parent x.1) = some .directory) : t.Closed := by
  intro l e stands
  cases l with
  | nil => rfl
  | cons name l =>
    obtain ⟨before, after, split, -⟩ := List.lookup_eq_some_iff.1 stands
    exact inside (name :: l, e) (split ▸ by simp)

theorem Closed.directory_of_suffix {t : Tree} {l m : Location} {e : Entry} (closed : t.Closed)
    (stands : t.get? l = some e) (inside : m <:+ l) (above : m ≠ l) :
    t.get? m = some .directory := by
  obtain ⟨more, rfl⟩ := inside
  induction more generalizing e with
  | nil => exact absurd rfl above
  | cons name more ih =>
    have parent : t.get? (more ++ m) = some .directory := closed _ _ stands
    by_cases last : more = []
    · subst last
      exact parent
    · exact ih parent fun same => last (List.append_left_eq_self.1 same.symm)

def Stage.Inside (t : Tree) : Stage → Prop
  | .landed (.vacant place) => t.get? place.parent = some .directory
  | .landed _ => True
  | .turned directory _ _ => t.get? directory = some .directory

def Landing.Missing : Landing → Prop
  | .vacant _ => True
  | .lost fault => fault = .notFound
  | .found .. => False

section Growing

variable {t t' : Tree} {follow : Bool} {here : Location} {names : List Text}

theorem advance_of_kept (kept : ∀ l e, t.get? l = some e → t'.get? l = some e) :
    advance t' follow here names = advance t follow here names ∨
      ∃ r, advance t follow here names = .landed r ∧ r.Missing := by
  induction names generalizing here with
  | nil => exact .inl rfl
  | cons name rest ih =>
    have retains : t.Retains t' := fun l e stands _ => kept l e stands
    rw [advance_cons, advance_cons]
    cases moved : t.move here name with
    | into directory =>
      rw [retains.move moved trivial]
      exact ih
    | missing =>
      refine .inr ⟨_, rfl, ?_⟩
      split
      · trivial
      · rfl
    | file content =>
      rw [retains.move moved (kept _ _ (holds_of_move moved))]
      exact .inl rfl
    | link target =>
      rw [retains.move moved trivial]
      exact .inl rfl
    | tooLong =>
      rw [retains.move moved trivial]
      exact .inl rfl

theorem walk_of_kept (kept : ∀ l e, t.get? l = some e → t'.get? l = some e) (links : Nat)
    (here : Location) (names : List Text) (slash : Bool) :
    walk t' follow links here names slash = walk t follow links here names slash ∨
      (walk t follow links here names slash).1.Missing := by
  fun_induction walk t follow links here names slash with
  | case1 links here names slash r landed =>
    rcases advance_of_kept kept with same | ⟨r', landed', missing⟩
    · exact .inl (walk_of_landed (same.trans landed) _)
    · cases landed.symm.trans landed'
      exact .inr missing
  | case2 here names slash directory target rest turned =>
    rcases advance_of_kept kept with same | ⟨r', landed', -⟩
    · exact .inl (walk_zero_of_turned (same.trans turned) _)
    · cases turned.symm.trans landed'
  | case3 here names slash directory target rest turned links ih =>
    rcases advance_of_kept kept with same | ⟨r', landed', -⟩
    · rw [walk_of_turned (same.trans turned)]
      exact ih
    · cases turned.symm.trans landed'

theorem status_of_kept (kept : ∀ l e, t.get? l = some e → t'.get? l = some e) (here : Location)
    (p : Path) : t'.status here p = t.status here p ∨ t.status here p = .error .notFound := by
  have located : t'.locate true here p = t.locate true here p ∨ (t.locate true here p).1.Missing := by
    unfold locate
    split
    · exact .inl rfl
    · exact walk_of_kept kept linkLimit (start here p) (Path.names p) (Path.endsInSlash p)
  unfold status
  rcases located with same | missing
  · rw [same]
    exact .inl rfl
  · right
    generalize t.locate true here p = came at missing ⊢
    obtain ⟨r, slash⟩ := came
    cases r with
    | found place e => cases missing
    | vacant place => rfl
    | lost fault =>
      cases missing
      rfl

end Growing

section Making

variable {t t' : Tree} {follow : Bool} {here l place : Location} {names : List Text} {p : Path}

theorem Closed.inside_of_advance (closed : t.Closed) (stands : t.get? here = some .directory) :
    (advance t follow here names).Inside t := by
  induction names generalizing here with
  | nil => trivial
  | cons name rest ih =>
    rw [advance_cons]
    cases moved : t.move here name with
    | into directory => exact ih (stands_of_move stands (closed _ _ stands) moved)
    | missing =>
      cases rest
      · exact stands
      · trivial
    | file content => cases rest <;> trivial
    | link target =>
      dsimp only
      split
      · trivial
      · exact stands
    | tooLong => trivial

theorem Closed.inside_of_walk {links : Nat} {slash slash' : Bool} (closed : t.Closed)
    (stands : t.get? here = some .directory)
    (ends : walk t follow links here names slash = (.vacant place, slash')) :
    t.get? place.parent = some .directory := by
  fun_induction walk t follow links here names slash with
  | case1 links here names slash r landed =>
    have inside : (advance t follow here names).Inside t := closed.inside_of_advance stands
    rw [landed] at inside
    cases ends
    exact inside
  | case2 here names slash directory target rest turned => cases ends
  | case3 here names slash directory target rest turned links ih =>
    have inside : (advance t follow here names).Inside t := closed.inside_of_advance stands
    rw [turned] at inside
    exact ih (get?_start inside target) ends

theorem Closed.put_directory (closed : t.Closed) (vacant : t.get? l = none)
    (inside : t.get? l.parent = some .directory) : (t.put l .directory).Closed := by
  intro m e stands
  by_cases atPlace : m = l
  · subst atPlace
    exact get?_put_vacant vacant inside
  · rw [get?_put_of_ne _ atPlace] at stands
    exact get?_put_vacant vacant (closed m e stands)

theorem Closed.makeDirectory (closed : t.Closed) (stands : t.get? here = some .directory)
    (e : t.makeDirectory here p = .ok t') :
    t'.Closed ∧ t'.get? here = some .directory ∧
      ∃ place, t'.status here p = .ok (place, .directory) ∧ ∀ name, t'.get? (name :: place) = none := by
  obtain ⟨place, slash, located, rfl⟩ := locate_of_makeDirectory e
  obtain ⟨vacant, there⟩ := status_put_vacant located
  have inside : t.get? place.parent = some .directory := by
    unfold locate at located
    split at located
    · cases located
    · exact closed.inside_of_walk (get?_start stands p) located
  refine ⟨closed.put_directory vacant inside, get?_put_vacant vacant stands, place, there,
    fun name => ?_⟩
  have other : name :: place ≠ place := List.cons_ne_self name place
  rw [get?_put_of_ne _ other]
  cases within : t.get? (name :: place) with
  | none => rfl
  | some e => cases vacant.symm.trans (closed _ _ within)

end Making

section Straight

variable {t t' : Tree} {here l place : Location} {names more : List Text} {home p q : Path}

theorem advance_append_directory {follow : Bool}
    (e : advance t true here names = .landed (.found place .directory)) :
    advance t follow here (names ++ more) = advance t follow place more := by
  induction names generalizing here with
  | nil =>
    cases e
    rfl
  | cons name rest ih =>
    rw [List.cons_append, advance_cons]
    rw [advance_cons] at e
    cases moved : t.move here name with
    | into directory =>
      rw [moved] at e
      exact ih e
    | missing =>
      rw [moved] at e
      cases rest <;> cases e
    | file content =>
      rw [moved] at e
      cases rest <;> cases e
    | link target =>
      rw [moved] at e
      cases rest <;> cases e
    | tooLong =>
      rw [moved] at e
      cases e

theorem advance_append_turned {follow : Bool} {directory : Location} {target : Path}
    {rest : List Text} (e : advance t true here names = .turned directory target rest)
    (ahead : follow = true ∨ more ≠ []) :
    advance t follow here (names ++ more) = .turned directory target (rest ++ more) := by
  induction names generalizing here with
  | nil => cases e
  | cons name names ih =>
    rw [List.cons_append, advance_cons]
    rw [advance_cons] at e
    cases moved : t.move here name with
    | into directory =>
      rw [moved] at e
      exact ih e
    | missing =>
      rw [moved] at e
      cases e
    | file content =>
      rw [moved] at e
      cases e
    | link target =>
      rw [moved] at e
      simp only [Bool.not_true, Bool.and_false, Bool.false_eq_true, if_false] at e
      cases e
      refine if_neg ?_
      rcases ahead with rfl | ahead <;> simp [*]
    | tooLong =>
      rw [moved] at e
      cases e

theorem walk_append {follow : Bool} {links : Nat} {slash slash' : Bool} (more : List Text)
    (ends : walk t true links here names slash = (.found place .directory, slash'))
    (ahead : follow = true ∨ more ≠ []) (slash₁ : Bool) :
    ∃ links' ≤ links, ∃ slash₂, walk t follow links here (names ++ more) slash₁ =
      walk t follow links' place more slash₂ := by
  fun_induction walk t true links here names slash generalizing slash₁ with
  | case1 links here names slash r landed =>
    cases ends
    refine ⟨links, Nat.le_refl _, slash₁, ?_⟩
    unfold walk
    rw [advance_append_directory landed]
  | case2 here names slash directory target rest turned => cases ends
  | case3 here names slash directory target rest turned links ih =>
    obtain ⟨links', fewer, slash₂, further⟩ := ih ends
      (slash₁ || ((rest ++ more).isEmpty && Path.endsInSlash target))
    refine ⟨links', Nat.le_succ_of_le fewer, slash₂, ?_⟩
    rw [walk_of_turned (advance_append_turned turned ahead), ← further, List.append_assoc]

theorem advance_of_empty (follow : Bool) (empty : ∀ name, t.get? (name :: place) = none)
    (straight : ['.', '.'] ∉ names) (proper : ∃ name ∈ names, name ≠ ['.']) :
    ∃ r, advance t follow place names = .landed r ∧ ∀ l e, r ≠ .found l e := by
  induction names with
  | nil => simp at proper
  | cons name rest ih =>
    unfold advance
    split
    · next dot =>
      refine ih (fun up => straight (List.mem_cons_of_mem _ up)) ?_
      obtain ⟨other, member, named⟩ := proper
      rcases List.mem_cons.1 member with rfl | member
      · exact absurd dot named
      · exact ⟨other, member, named⟩
    split
    · next dots => exact absurd (dots ▸ List.mem_cons_self) straight
    split
    · exact ⟨_, rfl, by simp⟩
    · rw [empty]
      refine ⟨_, rfl, ?_⟩
      split <;> simp

theorem status_through_empty (there : t.status here q = .ok (place, .directory))
    (empty : ∀ name, t.get? (name :: place) = none) (named : Path.names p = Path.names q ++ more)
    (same : Path.isAbsolute p = Path.isAbsolute q) (straight : ['.', '.'] ∉ more)
    (proper : ∃ name ∈ more, name ≠ ['.']) : ∃ fault, t.status here p = .error fault := by
  obtain ⟨slash, located⟩ := status_eq_directory_iff.1 there
  cases ends : t.status here p with
  | error fault => exact ⟨fault, rfl⟩
  | ok found =>
    obtain ⟨l, e⟩ := found
    obtain ⟨slash', located', -⟩ := locate_of_status ends
    unfold locate at located located'
    split at located
    · cases located
    split at located'
    · cases located'
    have origin : start here p = start here q := by
      unfold start
      rw [same]
    obtain ⟨links, -, slash₁, further⟩ := walk_append more located (.inl rfl) (Path.endsInSlash p)
    rw [origin, named, further] at located'
    obtain ⟨r, landed, nothing⟩ := advance_of_empty true empty straight proper
    rw [walk_of_landed landed] at located'
    cases located'
    exact absurd rfl (nothing _ _)

/-- Either no directory was made, or the last one that was made is empty, and was missing before. -/
structure Sprouted (here : Location) (home : Path) (t t' : Tree) : Prop where
  closed : t'.Closed
  stands : t'.get? here = some .directory
  kept : ∀ l e, t.get? l = some e → t'.get? l = some e
  last : t' = t ∨ ∃ q place, Path.IsFront q home ∧ q ≠ [] ∧ t.status here q = .error .notFound ∧
    t'.status here q = .ok (place, .directory) ∧ ∀ name, t'.get? (name :: place) = none

theorem Sprouted.makeDirectory {t₀ : Tree} (sprouted : Sprouted here home t₀ t)
    (front : Path.IsFront p home) (named : p ≠ []) (e : t.makeDirectory here p = .ok t') :
    Sprouted here home t₀ t' := by
  obtain ⟨closed, stands, place, there, empty⟩ := sprouted.closed.makeDirectory sprouted.stands e
  have kept : ∀ l e, t₀.get? l = some e → t'.get? l = some e := by
    obtain ⟨_, vacant, rfl, -⟩ := makeDirectory_ok e
    exact fun l e stood => get?_put_vacant vacant (sprouted.kept l e stood)
  refine ⟨closed, stands, kept, .inr ⟨p, place, front, named, ?_, there, empty⟩⟩
  rcases status_of_kept kept here p with same | missing
  · -- a directory that was there from the first could not be made again
    have retains : t₀.Retains t := fun l e stood _ => sprouted.kept l e stood
    have refused := makeDirectory_of_status (retains.status (same.symm.trans there))
    cases refused.symm.trans e
  · exact missing

theorem sprouted_makeDirectories (closed : t.Closed) (stands : t.get? here = some .directory)
    (home : Path) : Sprouted here home t (t.makeDirectories here home).1 :=
  makeDirectories_induction (P := Sprouted here home t)
    (fun sprouted front named e => sprouted.makeDirectory front named e)
    ⟨closed, stands, fun _ _ => id, .inl rfl⟩

/-- On the way to the home nothing is missing that a step up follows. -/
structure Grounded (t : Tree) (here : Location) (home : Path) : Prop where
  closed : t.Closed
  stands : t.get? here = some .directory
  onward : ∀ q more, Path.IsFront q home → q ≠ [] → Path.names home = Path.names q ++ more →
    t.status here q = .error .notFound → ['.', '.'] ∉ more

theorem status_of_makeDirectories (grounded : t.Grounded here home) (leaf : Path) {name : Text}
    (single : Path.names leaf = [name]) (relative : Path.isAbsolute leaf = false)
    (proper : name ≠ ['.'] ∧ name ≠ ['.', '.']) :
    ((t.makeDirectories here home).1.status here (Path.join home leaf)).toOption =
      (t.status here (Path.join home leaf)).toOption := by
  let made := (t.makeDirectories here home).1
  change (made.status here (Path.join home leaf)).toOption = _
  obtain ⟨-, -, kept, last⟩ := sprouted_makeDirectories grounded.closed grounded.stands home
  rcases last with same | ⟨q, place, front, named, missing, there, empty⟩
  · rw [show made = t from same]
  -- what the path found before it still finds; if it found nothing, it now comes to an empty directory
  rcases status_of_kept kept here (Path.join home leaf) with same | absent
  · exact congrArg Except.toOption same
  obtain ⟨more, names⟩ := Path.names_of_isFront front
  have names' : Path.names (Path.join home leaf) = Path.names q ++ (more ++ [name]) := by
    rw [Path.names_join relative, single, names, List.append_assoc]
  have absolute : Path.isAbsolute (Path.join home leaf) = Path.isAbsolute q := by
    rw [Path.isAbsolute_join relative, Path.isAbsolute_of_isFront front named]
  have up : ['.', '.'] ∉ more ++ [name] := by
    intro up
    rcases List.mem_append.1 up with up | up
    · exact grounded.onward q more front named names missing up
    · exact proper.2 (List.mem_singleton.1 up).symm
  obtain ⟨fault, nothing⟩ : ∃ fault, made.status here (Path.join home leaf) = .error fault :=
    status_through_empty there empty names' absolute up ⟨name, by simp, proper.1⟩
  rw [nothing, absent]
  rfl

end Straight

end Tree

end PlatformLauncher
