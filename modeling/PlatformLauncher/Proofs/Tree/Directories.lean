import PlatformLauncher.Proofs.Tree.Files
import PlatformLauncher.Tree.Listing

/-!
What making directories does to a tree. Where the directories and links of a tree are retained, a path
that led to a directory still leads there. A footprint is what may be left of making directories on
the way to one place and of writing some files. Main statements: `isDirectory_of_makeDirectories`, a
directory that was made is there, and `footprint_makeDirectories`, everything that is new is a
directory named by a front of the path.
-/
namespace PlatformLauncher

namespace Path

/-- The path up to the end of one of its names, or all of it. -/
def IsFront (q p : Path) : Prop :=
  ∃ rest, p = q ++ rest ∧ (rest = [] ∨ rest.head? = some '/' ∨ q.getLast? = some '/')

theorem IsFront.refl (p : Path) : IsFront p p := ⟨[], (List.append_nil p).symm, .inl rfl⟩

theorem joinWith_append {mark : Text} {ys zs : List Text} (left : ys ≠ []) (right : zs ≠ []) :
    Text.joinWith mark (ys ++ zs) = Text.joinWith mark ys ++ mark ++ Text.joinWith mark zs := by
  induction ys with
  | nil => exact absurd rfl left
  | cons y ys ih =>
    cases ys with
    | nil =>
      cases zs with
      | nil => exact absurd rfl right
      | cons z zs => rfl
    | cons y' ys =>
      have further := ih (List.cons_ne_nil _ _)
      rw [List.cons_append] at further
      simp only [List.cons_append, Text.joinWith, further, List.append_assoc]

theorem splitHead_append (p : Path) : (splitHead p).1 ++ (splitHead p).2 = p := by
  unfold splitHead
  split <;> rfl

theorem splitHead_cases (p : Path) :
    (splitHead p).1 = [] ∨ (splitHead p).1 = ['/'] ∨
      ((splitHead p).1 = ['.'] ∧ ((splitHead p).2 = [] ∨ (splitHead p).2.head? = some '/')) := by
  unfold splitHead
  split
  · exact .inr (.inl rfl)
  · exact .inr (.inr ⟨rfl, .inl rfl⟩)
  · exact .inr (.inr ⟨rfl, .inr rfl⟩)
  · exact .inl rfl

theorem eq_of_mem_ancestorsFrom {head q : Path} {stretches : List Text}
    (member : q ∈ ancestorsFrom head stretches) :
    q = [] ∨ ∃ before rest, before ≠ [] ∧ stretches = before ++ rest ∧
      q = head ++ Text.joinWith ['/'] rest.reverse := by
  induction stretches with
  | nil =>
    unfold ancestorsFrom at member
    split at member
    · exact .inl (List.mem_singleton.1 member)
    · cases member
  | cons s rest ih =>
    have further : q ∈ ancestorsFrom head rest →
        q = [] ∨ ∃ before rest', before ≠ [] ∧ s :: rest = before ++ rest' ∧
          q = head ++ Text.joinWith ['/'] rest'.reverse := by
      intro member
      rcases ih member with empty | ⟨before, rest', -, rfl, named⟩
      · exact .inl empty
      · exact .inr ⟨s :: before, rest', List.cons_ne_nil _ _, rfl, named⟩
    unfold ancestorsFrom at member
    split at member
    · exact further member
    rcases List.mem_cons.1 member with rfl | member
    · refine .inr ⟨s :: rest.takeWhile isIdle, rest.dropWhile isIdle, List.cons_ne_nil _ _, ?_, rfl⟩
      rw [List.cons_append, List.takeWhile_append_dropWhile]
    · exact further member

theorem isFront_of_mem_ancestors {p q : Path} (member : q ∈ ancestors p) (named : q ≠ []) :
    IsFront q p := by
  rcases eq_of_mem_ancestorsFrom member with empty | ⟨before, rest, nonempty, stretches, rfl⟩
  · exact absurd empty named
  have body : (splitHead p).2 = Text.joinWith ['/'] (rest.reverse ++ before.reverse) := by
    rw [← List.reverse_append, ← stretches, List.reverse_reverse, Text.joinWith_pieces]
  by_cases last : rest = []
  · subst last
    refine ⟨(splitHead p).2, ?_, ?_⟩
    · simpa [Text.joinWith] using (splitHead_append p).symm
    · rcases splitHead_cases p with head | head | ⟨head, tail⟩
      · simp [head, Text.joinWith] at named
      · simp [head, Text.joinWith]
      · rcases tail with tail | tail
        · exact .inl tail
        · exact .inr (.inl tail)
  · refine ⟨'/' :: Text.joinWith ['/'] before.reverse, ?_, .inr (.inl rfl)⟩
    rw [joinWith_append (by simpa using last) (by simpa using nonempty)] at body
    calc
      p = (splitHead p).1 ++ (splitHead p).2 := (splitHead_append p).symm
      _ = _ := by rw [body]; simp

end Path

namespace Tree

section Retaining

variable {t t' : Tree} {follow : Bool} {here l place : Location} {names : List Text} {p : Path}

theorem get?_put_vacant {m : Location} {e f : Entry} (vacant : t.get? l = none)
    (stands : t.get? m = some e) : (t.put l f).get? m = some e := by
  rw [get?_put_of_ne, stands]
  rintro rfl
  rw [vacant] at stands
  cases stands

theorem retains_put_vacant {e : Entry} (vacant : t.get? l = none) : t.Retains (t.put l e) :=
  fun _ _ stands _ => get?_put_vacant vacant stands

theorem Retains.walk_of_held {links : Nat} {slash slash' : Bool} {e : Entry}
    (retains : t.Retains t') (held : ∀ content, e = .file content → t'.get? place = some e)
    (ends : Tree.walk t follow links here names slash = (.found place e, slash')) :
    Tree.walk t' follow links here names slash = (.found place e, slash') := by
  fun_induction Tree.walk t follow links here names slash with
  | case1 links here names slash r landed =>
    cases ends
    exact walk_of_landed (retains.advance_of_held landed held) _
  | case2 here names slash directory target rest turned => cases ends
  | case3 here names slash directory target rest turned links ih =>
    rw [walk_of_turned (retains.advance turned trivial)]
    exact ih ends

theorem Retains.locate_of_held {slash : Bool} {e : Entry} (retains : t.Retains t')
    (held : ∀ content, e = .file content → t'.get? place = some e)
    (located : t.locate follow here p = (.found place e, slash)) :
    t'.locate follow here p = (.found place e, slash) := by
  unfold locate at located ⊢
  split at located
  · cases located
  · exact retains.walk_of_held held located

theorem status_eq_directory_iff :
    t.status here p = .ok (place, .directory) ↔
      ∃ slash, t.locate true here p = (.found place .directory, slash) := by
  constructor
  · intro stands
    obtain ⟨slash, located, -⟩ := locate_of_status stands
    exact ⟨slash, located⟩
  · rintro ⟨slash, located⟩
    exact status_of_locate located (.inl rfl)

theorem Retains.status_of_held {e : Entry} (retains : t.Retains t')
    (held : ∀ content, e = .file content → t'.get? place = some e)
    (stands : t.status here p = .ok (place, e)) : t'.status here p = .ok (place, e) := by
  obtain ⟨slash, located, whole⟩ := locate_of_status stands
  exact status_of_locate (retains.locate_of_held held located) whole

theorem Retains.status (retains : t.Retains t')
    (stands : t.status here p = .ok (place, .directory)) :
    t'.status here p = .ok (place, .directory) :=
  retains.status_of_held (by simp) stands

end Retaining

section Making

variable {t t' : Tree} {follow : Bool} {here l place : Location} {names : List Text} {p : Path}

theorem advance_follow {r : Stage} (e : advance t false here names = r)
    (other : ∀ place target, r ≠ .landed (.found place (.link target))) :
    advance t true here names = r := by
  induction names generalizing here with
  | nil => exact e
  | cons name rest ih =>
    rw [advance_cons] at e ⊢
    cases moved : t.move here name with
    | into directory =>
      rw [moved] at e
      exact ih e
    | missing =>
      rw [moved] at e
      exact e
    | file content =>
      rw [moved] at e
      exact e
    | link target =>
      rw [moved] at e
      dsimp only at e
      split at e
      · exact absurd e.symm (other _ _)
      · simpa using e
    | tooLong =>
      rw [moved] at e
      exact e

theorem advance_put_vacant (vacant : t.get? place = none)
    (e : advance t follow here names = .landed (.vacant place)) :
    advance (t.put place .directory) follow here names = .landed (.found place .directory) := by
  have inner : place ≠ [] := by
    rintro rfl
    cases vacant
  induction names generalizing here with
  | nil => cases e
  | cons name rest ih =>
    rw [advance_cons] at e ⊢
    cases moved : t.move here name with
    | into directory =>
      rw [moved] at e
      rw [(retains_put_vacant vacant).move moved trivial]
      exact ih e
    | missing =>
      rw [moved] at e
      rw [looks_of_move moved trivial]
      cases rest <;> cases e
      rw [get?_put_self t inner]
      rfl
    | file content =>
      rw [moved] at e
      cases rest <;> cases e
    | link target =>
      rw [moved] at e
      dsimp only at e
      split at e <;> cases e
    | tooLong =>
      rw [moved] at e
      cases e

theorem walk_put_vacant {links : Nat} {slash slash' : Bool}
    (e : walk t false links here names slash = (.vacant place, slash')) :
    t.get? place = none ∧
      walk (t.put place .directory) true links here names slash =
        (.found place .directory, slash') := by
  fun_induction walk t false links here names slash with
  | case1 links here names slash r landed =>
    cases e
    have vacant := (stands_of_advance landed).2
    have found := advance_put_vacant vacant (advance_follow landed (by simp))
    exact ⟨vacant, walk_of_landed found _⟩
  | case2 here names slash directory target rest turned => cases e
  | case3 here names slash directory target rest turned links ih =>
    obtain ⟨vacant, ends⟩ := ih e
    refine ⟨vacant, ?_⟩
    rw [walk_of_turned ((retains_put_vacant vacant).advance (advance_follow turned (by simp)) trivial)]
    exact ends

theorem locate_of_makeDirectory (e : t.makeDirectory here p = .ok t') :
    ∃ place slash, t.locate false here p = (.vacant place, slash) ∧ t' = t.put place .directory := by
  unfold makeDirectory at e
  split at e
  · cases e
  · cases e
  · next place slash located =>
    split at e <;> cases e
    exact ⟨place, slash, located, rfl⟩

theorem status_put_vacant {slash : Bool} (located : t.locate false here p = (.vacant place, slash)) :
    t.get? place = none ∧
      (t.put place .directory).status here p = .ok (place, .directory) := by
  unfold locate at located
  split at located
  · cases located
  next whole =>
  obtain ⟨vacant, ends⟩ := walk_put_vacant located
  refine ⟨vacant, status_eq_directory_iff.2 ⟨slash, ?_⟩⟩
  unfold locate
  rw [whole]
  exact ends

theorem makeDirectory_ok (e : t.makeDirectory here p = .ok t') :
    ∃ place, t.get? place = none ∧ t' = t.put place .directory ∧
      t'.status here p = .ok (place, .directory) := by
  obtain ⟨place, slash, located, rfl⟩ := locate_of_makeDirectory e
  obtain ⟨vacant, there⟩ := status_put_vacant located
  exact ⟨place, vacant, rfl, there⟩

theorem settle_ok (e : t.settle here p = (t', none)) :
    ∃ place, t'.status here p = .ok (place, .directory) := by
  unfold settle at e
  split at e
  · next made =>
    cases e
    obtain ⟨place, -, -, stands⟩ := makeDirectory_ok made
    exact ⟨place, stands⟩
  · split at e <;> cases e
    next there =>
    unfold isDirectory at there
    split at there
    · next place stands => exact ⟨place, stands⟩
    · cases there

theorem makeDirectoriesWithin_ok {outer : List Path} (named : p ≠ [])
    (e : t.makeDirectoriesWithin here p outer = (t', none)) :
    ∃ place, t'.status here p = .ok (place, .directory) := by
  have nonempty : ¬ p.isEmpty = true := by simpa using named
  cases outer with
  | nil =>
    rw [makeDirectoriesWithin, if_neg nonempty] at e
    exact settle_ok e
  | cons q further =>
    rw [makeDirectoriesWithin, if_neg nonempty] at e
    split at e
    · split at e
      · exact settle_ok e
      · next stopped => exact (stopped _ e).elim
    · exact settle_ok e

theorem settle_induction {P : Tree → Prop} (made : ∀ {t'}, t.makeDirectory here p = .ok t' → P t')
    (base : P t) : P (t.settle here p).1 := by
  unfold settle
  cases e : t.makeDirectory here p with
  | ok t' => exact made e
  | error fault => exact base

theorem makeDirectoriesWithin_induction {P : Tree → Prop} {home : Path} {outer : List Path}
    (made : ∀ {t t' : Tree} {p : Path}, P t → Path.IsFront p home → p ≠ [] →
      t.makeDirectory here p = .ok t' → P t')
    (base : P t) (front : p ≠ [] → Path.IsFront p home)
    (fronts : ∀ q ∈ outer, q ≠ [] → Path.IsFront q home) :
    P (t.makeDirectoriesWithin here p outer).1 := by
  have settled : p ≠ [] → ∀ {t}, P t → P (t.settle here p).1 := fun named _ base =>
    settle_induction (fun e => made base (front named) named e) base
  induction outer generalizing p with
  | nil =>
    rw [makeDirectoriesWithin]
    split
    · exact base
    · next named => exact settled (by simpa using named) base
  | cons q further ih =>
    rw [makeDirectoriesWithin]
    split
    · exact base
    next nonempty =>
    have named : p ≠ [] := by simpa using nonempty
    split
    · have front' := fronts q List.mem_cons_self
      have outside : P (t.makeDirectoriesWithin here q further).1 :=
        ih front' (fun q' member => fronts q' (List.mem_cons_of_mem _ member)) fun named' _ base =>
          settle_induction (fun e => made base (front' named') named' e) base
      split
      · next made' =>
        rw [made'] at outside
        exact settled named outside
      · exact outside
    · exact settled named base

theorem makeDirectories_induction {P : Tree → Prop} {home : Path}
    (made : ∀ {t t' : Tree} {p : Path}, P t → Path.IsFront p home → p ≠ [] →
      t.makeDirectory here p = .ok t' → P t')
    (base : P t) : P (t.makeDirectories here home).1 :=
  makeDirectoriesWithin_induction made base (fun _ => .refl home) fun _ member =>
    Path.isFront_of_mem_ancestors member

theorem isDirectory_of_makeDirectories (named : p ≠ [])
    (e : t.makeDirectories here p = (t', none)) :
    ∃ place, t'.status here p = .ok (place, .directory) :=
  makeDirectoriesWithin_ok named e

end Making

def LeadsTo (t : Tree) (here : Location) (p : Path) (l : Location) : Prop :=
  ∃ content, t.status here p = .ok (l, .file content)

theorem get?_of_status_file {t : Tree} {here l : Location} {p : Path} {content : Octets}
    (stands : t.status here p = .ok (l, .file content)) : t.get? l = some (.file content) := by
  obtain ⟨slash, located, -⟩ := locate_of_status stands
  exact (stands_of_locate located).2

/-- What has become of a tree in which nothing was done but to make directories on the way to a home
and to write some files: what stood there stands there, apart from those files, and what is new is a
directory that a front of the home names, or one of those files. -/
structure Footprint (here : Location) (home : Path) (files : List Path) (t t' : Tree) : Prop where
  old : ∀ l e, t.get? l = some e → t'.get? l = some e ∨ ∃ p ∈ files, t'.LeadsTo here p l
  new : ∀ l e, t.get? l = none → t'.get? l = some e →
    (e = .directory ∧ ∃ p, Path.IsFront p home ∧ t'.status here p = .ok (l, .directory)) ∨
      ∃ p ∈ files, t'.LeadsTo here p l

section Traces

variable {t t₁ t₂ : Tree} {here : Location} {home p : Path} {files : List Path}

theorem Footprint.refl : Footprint here home files t t where
  old _ _ stands := .inl stands
  new _ _ vacant stands := by
    rw [vacant] at stands
    cases stands

theorem Footprint.mono {more : List Path} (before : Footprint here home files t t₁)
    (fewer : ∀ p ∈ files, p ∈ more) : Footprint here home more t t₁ where
  old l e stands := by
    rcases before.old l e stands with same | ⟨p, member, leads⟩
    · exact .inl same
    · exact .inr ⟨p, fewer p member, leads⟩
  new l e vacant stands := by
    rcases before.new l e vacant stands with directory | ⟨p, member, leads⟩
    · exact .inl directory
    · exact .inr ⟨p, fewer p member, leads⟩

theorem Footprint.old_of_nil {l : Location} {e : Entry} (before : Footprint here home [] t t₁)
    (stands : t.get? l = some e) : t₁.get? l = some e := by
  rcases before.old l e stands with same | ⟨p, member, -⟩
  · exact same
  · cases member

theorem Footprint.makeDirectory (before : Footprint here home [] t t₁)
    (front : Path.IsFront p home) (e : t₁.makeDirectory here p = .ok t₂) :
    Footprint here home [] t t₂ := by
  obtain ⟨place, vacant, rfl, made⟩ := makeDirectory_ok e
  have inner : place ≠ [] := by
    rintro rfl
    cases vacant
  constructor
  · exact fun l e stands => .inl (get?_put_vacant vacant (before.old_of_nil stands))
  · intro l e absent stands
    by_cases atPlace : l = place
    · subst atPlace
      rw [get?_put_self _ inner] at stands
      exact .inl ⟨(Option.some.inj stands).symm, p, front, made⟩
    · rw [get?_put_of_ne _ atPlace] at stands
      rcases before.new l e absent stands with ⟨directory, q, front', there⟩ | ⟨q, member, -⟩
      · exact .inl ⟨directory, q, front', (retains_put_vacant vacant).status there⟩
      · cases member

theorem footprint_makeDirectories (t : Tree) (here : Location) (p : Path) :
    Footprint here p [] t (t.makeDirectories here p).1 :=
  makeDirectories_induction (fun before front _ e => before.makeDirectory front e) .refl

theorem Footprint.file {l : Location} {content : Octets} (before : Footprint here home files t t₁)
    (stands : t₁.get? l = some (.file content)) :
    t.get? l = some (.file content) ∨ ∃ p ∈ files, t₁.LeadsTo here p l := by
  cases stood : t.get? l with
  | none =>
    rcases before.new l _ stood stands with ⟨directory, -⟩ | written
    · cases directory
    · exact .inr written
  | some e =>
    rcases before.old l e stood with same | written
    · exact .inl (same.symm.trans stands)
    · exact .inr written

theorem Footprint.write {content : Octets} (before : Footprint here home files t t₁)
    (e : t₁.write here p content = .ok t₂) : Footprint here home (p :: files) t t₂ := by
  obtain ⟨place, slot, rfl, written⟩ := status_of_write e
  have leads : ∀ {q l}, t₁.LeadsTo here q l → (t₁.put place (.file content)).LeadsTo here q l := by
    rintro q l ⟨old, stands⟩
    exact ⟨_, status_put slot stands⟩
  constructor
  · intro l e stands
    by_cases atPlace : l = place
    · subst atPlace
      exact .inr ⟨p, List.mem_cons_self, content, written⟩
    · rw [get?_put_of_ne _ atPlace]
      rcases before.old l e stands with same | ⟨q, member, there⟩
      · exact .inl same
      · exact .inr ⟨q, List.mem_cons_of_mem _ member, leads there⟩
  · intro l e absent stands
    by_cases atPlace : l = place
    · subst atPlace
      exact .inr ⟨p, List.mem_cons_self, content, written⟩
    · rw [get?_put_of_ne _ atPlace] at stands
      rcases before.new l e absent stands with ⟨directory, q, front, there⟩ | ⟨q, member, there⟩
      · exact .inl ⟨directory, q, front, (retains_put_file slot).status there⟩
      · exact .inr ⟨q, List.mem_cons_of_mem _ member, leads there⟩

end Traces

end Tree

end PlatformLauncher
