import PlatformLauncher.Proofs.Tree.Canonical
import PlatformLauncher.Proofs.Tree.Fronts

/-!
Directories in directories that are not there yet. A path lies in directories that are named by one
name less each; where these names lead straight on from a directory in which the first of them is
free, all the directories are made. Main statements: `outward_ancestors` and `makeDirectories_extends`.
-/
namespace PlatformLauncher

theorem Text.mark_notMem_pieces {mark : Char} {s word : Text} (member : word ∈ pieces mark s) :
    mark ∉ word := by
  induction s generalizing word with
  | nil =>
    rw [pieces, List.mem_singleton] at member
    simp [member]
  | cons c s ih =>
    unfold pieces at member
    split at member
    · rcases List.mem_cons.1 member with rfl | member
      · simp
      · exact ih member
    · next other =>
      split at member
      · next nothing => exact absurd nothing (pieces_ne_nil mark s)
      · next first rest cut =>
        rw [cut] at ih
        rcases List.mem_cons.1 member with rfl | member
        · have free := ih List.mem_cons_self
          simp [free, Ne.symm other]
        · exact ih (List.mem_cons_of_mem _ member)

namespace Path

/-- A path in directories that are named by one name less each, as long as names are left to be taken
away behind the first ones; the last name stands first. -/
inductive Outward (before : List Text) : Path → List Path → Location → Prop
  | last {p : Path} {outer : List Path} {name : Text} (spelled : names p = before ++ [name]) :
      Outward before p outer [name]
  | next {p q : Path} {further : List Path} {m : Location} {name : Text}
      (spelled : names p = before ++ (name :: m).reverse) (outer : Outward before q further m) :
      Outward before p (q :: further) (name :: m)

section Stretches

variable {head p q : Path} {stretches : List Text} {before : List Text} {m : Location}

def namesOf (stretches : List Text) : List Text := stretches.reverse.filter fun s => !s.isEmpty

theorem namesOf_cons_empty (rest : List Text) : namesOf ([] :: rest) = namesOf rest := by
  simp [namesOf]

theorem namesOf_cons {s : Text} (nonempty : s ≠ []) (rest : List Text) :
    namesOf (s :: rest) = namesOf rest ++ [s] := by
  simp [namesOf, nonempty]

theorem namesOf_blank (blank : Nat) (rest : List Text) :
    namesOf (List.replicate blank [] ++ rest) = namesOf rest := by
  induction blank with
  | zero => rfl
  | succ blank ih => rw [List.replicate_succ, List.cons_append, namesOf_cons_empty, ih]

structure Headed (head : Path) (stretches : List Text) : Prop where
  free : ∀ s ∈ stretches, '/' ∉ s
  first : head = [] ∨ head = ['/'] ∨ head = ['.'] ∧ stretches.getLast? = some []

theorem headed_splitHead (p : Path) :
    Headed (splitHead p).1 (Text.pieces '/' (splitHead p).2).reverse where
  free s member := Text.mark_notMem_pieces (List.mem_reverse.1 member)
  first := by
    rw [List.getLast?_reverse]
    rcases splitHead_cases p with head | head | ⟨head, tail | tail⟩
    · exact .inl head
    · exact .inr (.inl head)
    · exact .inr (.inr ⟨head, by rw [tail]; rfl⟩)
    · obtain ⟨rest, tail⟩ := List.head?_eq_some_iff.1 tail
      exact .inr (.inr ⟨head, by rw [tail]; rfl⟩)

theorem Headed.suffix {stretches' : List Text} (headed : Headed head stretches)
    (suffix : stretches' <:+ stretches) (nonempty : stretches' ≠ []) : Headed head stretches' where
  free s member := headed.free s (suffix.subset member)
  first := by
    obtain ⟨more, rfl⟩ := suffix
    have last : (more ++ stretches').getLast? = stretches'.getLast? := by
      rw [List.getLast?_append, List.getLast?_eq_some_getLast nonempty, Option.some_or]
    exact last ▸ headed.first

theorem names_joinWith {words : List Text} (nonempty : words ≠ []) (free : ∀ word ∈ words, '/' ∉ word) :
    names (Text.joinWith ['/'] words) = words.filter fun s => !s.isEmpty := by
  rw [names, Text.pieces_joinWith nonempty free]

theorem names_headed (headed : Headed head stretches) (nonempty : stretches ≠ []) :
    names (head ++ Text.joinWith ['/'] stretches.reverse) = names head ++ namesOf stretches := by
  have behind {init : List Text} (nonempty : init ≠ []) (free : ∀ s ∈ init, '/' ∉ s) :
      names (Text.joinWith ['/'] init.reverse) = namesOf init :=
    names_joinWith (by simpa using nonempty) fun s member => free s (List.mem_reverse.1 member)
  obtain ⟨free, rfl | rfl | ⟨rfl, first⟩⟩ := headed
  · exact behind nonempty free
  · rw [List.singleton_append, ← List.nil_append ('/' :: _), names_append_slash,
      behind nonempty free]
    rfl
  · obtain ⟨init, rfl⟩ := List.getLast?_eq_some_iff.1 first
    by_cases nothing : init = []
    · subst nothing
      rfl
    · have joined : Text.joinWith ['/'] (init ++ [[]]).reverse =
          '/' :: Text.joinWith ['/'] init.reverse := by
        rw [List.reverse_append, joinWith_append (by simp) (by simpa using nothing)]
        rfl
      have filtered : namesOf (init ++ [[]]) = namesOf init := by simp [namesOf]
      rw [joined, names_append_slash, filtered,
        behind nothing fun s member => free s (List.mem_append_left _ member)]

theorem Headed.names_head (headed : Headed head stretches) :
    names head = [] ∨ names head = [['.']] := by
  rcases headed.first with rfl | rfl | ⟨rfl, -⟩
  · exact .inl rfl
  · exact .inl rfl
  · exact .inr rfl

theorem exists_last {front : List Text} {name : Text}
    (first : names head = [] ∨ names head = [['.']])
    (spelled : names head ++ namesOf stretches = front ++ [name]) (proper : name ≠ ['.']) :
    ∃ blank rest, stretches = List.replicate blank [] ++ name :: rest ∧ isIdle name = false ∧
      names head ++ namesOf rest = front := by
  induction stretches with
  | nil =>
    rw [namesOf, List.reverse_nil, List.filter_nil, List.append_nil] at spelled
    rcases first with nothing | dot
    · rw [nothing] at spelled
      simp at spelled
    · rw [dot, ← List.nil_append [_]] at spelled
      exact absurd (List.append_inj_right' spelled rfl) (by simpa using Ne.symm proper)
  | cons s rest ih =>
    by_cases empty : s = []
    · subst empty
      rw [namesOf_cons_empty] at spelled
      obtain ⟨blank, rest, rfl, busy, further⟩ := ih spelled
      exact ⟨blank + 1, rest, rfl, busy, further⟩
    · rw [namesOf_cons empty, ← List.append_assoc] at spelled
      obtain ⟨further, same⟩ := List.append_inj' spelled rfl
      obtain rfl := List.singleton_inj.1 same
      exact ⟨0, rest, rfl, by simp [isIdle, empty, proper], further⟩

theorem ancestorsFrom_blank (blank : Nat) {rest : List Text} {name : Text}
    (busy : isIdle name = false) :
    ancestorsFrom head (List.replicate blank [] ++ name :: rest) =
      (head ++ Text.joinWith ['/'] (rest.dropWhile isIdle).reverse) :: ancestorsFrom head rest := by
  induction blank with
  | zero =>
    rw [List.replicate_zero, List.nil_append, ancestorsFrom, busy, if_neg Bool.false_ne_true]
  | succ blank ih =>
    rw [List.replicate_succ, List.cons_append, ancestorsFrom, if_pos (by rfl : isIdle [] = true)]
    exact ih

theorem dropWhile_blank (blank : Nat) {rest : List Text} {name : Text}
    (busy : isIdle name = false) :
    (List.replicate blank [] ++ name :: rest).dropWhile isIdle = name :: rest := by
  have blanks : ∀ s ∈ List.replicate blank ([] : Text), isIdle s = true := by
    intro s member
    rw [List.eq_of_mem_replicate member]
    rfl
  rw [List.dropWhile_append_of_pos blanks, List.dropWhile_cons_of_neg (by simp [busy])]

theorem outward_ancestorsFrom (headed : Headed head stretches)
    (spelled : names head ++ namesOf stretches = before ++ m.reverse)
    (whole : names p = before ++ m.reverse) (nonempty : m ≠ [])
    (proper : ∀ name ∈ m, name ≠ ['.']) : Outward before p (ancestorsFrom head stretches) m := by
  -- one name is taken away for each further directory, with the empty stretches behind it
  induction m generalizing p stretches with
  | nil => exact absurd rfl nonempty
  | cons name m ih =>
    cases m with
    | nil => exact .last whole
    | cons name' m =>
      have proper' : ∀ n ∈ name' :: m, n ≠ ['.'] := fun n member =>
        proper n (List.mem_cons_of_mem _ member)
      rw [List.reverse_cons, ← List.append_assoc] at spelled
      obtain ⟨blank, rest, rfl, busy, further⟩ :=
        exists_last headed.names_head spelled (proper name List.mem_cons_self)
      have further' := further
      rw [List.reverse_cons, ← List.append_assoc] at further'
      obtain ⟨blank', rest, rfl, busy', -⟩ :=
        exists_last headed.names_head further' (proper' name' List.mem_cons_self)
      have inner : Headed head (List.replicate blank' [] ++ name' :: rest) :=
        headed.suffix ⟨List.replicate blank [] ++ [name], by simp⟩ (by simp)
      have inmost : Headed head (name' :: rest) :=
        inner.suffix ⟨List.replicate blank' [], rfl⟩ (List.cons_ne_nil _ _)
      rw [ancestorsFrom_blank blank busy, dropWhile_blank blank' busy']
      refine .next whole (ih inner further ?_ (List.cons_ne_nil _ _) proper')
      rw [names_headed inmost (List.cons_ne_nil _ _), ← further, namesOf_blank]

theorem Outward.spelled {outer : List Path} (outward : Outward before p outer m) :
    names p = before ++ m.reverse ∧ m ≠ [] := by
  cases outward with
  | last spelled => exact ⟨spelled, List.cons_ne_nil _ _⟩
  | next spelled outer => exact ⟨spelled, List.cons_ne_nil _ _⟩

theorem Outward.ne_nil {outer : List Path} (outward : Outward before p outer m) : p ≠ [] := by
  obtain ⟨spelled, nonempty⟩ := outward.spelled
  rintro rfl
  simp [names, Text.pieces, nonempty] at spelled

theorem outward_ancestors (whole : names p = before ++ m.reverse) (nonempty : m ≠ [])
    (proper : ∀ name ∈ m, name ≠ ['.']) : Outward before p (ancestors p) m := by
  have headed := headed_splitHead p
  refine outward_ancestorsFrom headed ?_ whole nonempty proper
  rw [← whole, ← names_headed headed (by simpa using Text.pieces_ne_nil _ _), List.reverse_reverse,
    Text.joinWith_pieces, splitHead_append]

end Stretches

end Path

namespace Tree

def extended (t : Tree) (place : Location) : Location → Tree
  | [] => t
  | name :: m => (t.extended place m).put (name :: (m ++ place)) .directory

/-- A path comes to a directory by its first names, and by the others, of which the first is free
there, it leads straight on. -/
structure LeadsOn (t : Tree) (here : Location) (p : Path) (before : List Text) (place m : Location) :
    Prop where
  whole : pathFault? p = none
  spelled : Path.names p = before ++ m.reverse
  nonempty : m ≠ []
  proper : ∀ name ∈ m, IsName name
  lands : (walk t true linkLimit (start here p) before false).1 = .found place .directory
  vacant : ∀ name ∈ m.getLast?, t.get? (name :: place) = none

section Extending

variable {t : Tree} {here place m : Location} {p q : Path} {before rest : List Text} {name : Text}

theorem get?_extended {l : Location} (deeper : (m ++ place).length < l.length) :
    (t.extended place m).get? l = t.get? l := by
  induction m with
  | nil => rfl
  | cons name m ih =>
    rw [List.cons_append, List.length_cons] at deeper
    rw [extended, get?_put_of_ne, ih (by omega)]
    rintro rfl
    exact absurd deeper (by simp)

theorem isSealed_extended (l : Location) : (t.extended place m).isSealed l = t.isSealed l := by
  induction m with
  | nil => rfl
  | cons name m ih => exact ih

theorem Closed.vacant_append (closed : t.Closed) (vacant : t.get? place = none) (m : Location) :
    t.get? (m ++ place) = none := by
  cases stands : t.get? (m ++ place) with
  | none => rfl
  | some e =>
    by_cases nothing : m = []
    · subst nothing
      exact stands.symm.trans vacant
    · have above := closed.directory_of_suffix stands ⟨m, rfl⟩ fun same =>
        nothing (List.append_left_eq_self.1 same.symm)
      cases vacant.symm.trans above

theorem locate_vacant {slash : Bool} (whole : pathFault? p = none)
    (spelled : Path.names p = before ++ name :: rest)
    (lands : (walk t true linkLimit (start here p) before slash).1 = .found place .directory)
    (named : IsName name) (vacant : t.get? (name :: place) = none) :
    ∃ slash', t.locate false here p =
      (if rest.isEmpty then .vacant (name :: place) else .lost .notFound, slash') := by
  obtain ⟨⟨r, slash'⟩, walks⟩ :
      ∃ w, walk t true linkLimit (start here p) before slash = w := ⟨_, rfl⟩
  rw [walks] at lands
  cases (show r = .found place .directory from lands)
  obtain ⟨links, -, slash'', further⟩ : ∃ links ≤ linkLimit, ∃ slash'',
      walk t false linkLimit (start here p) (before ++ name :: rest) (Path.endsInSlash p) =
        walk t false links place (name :: rest) slash'' :=
    walk_append _ walks (.inr (List.cons_ne_nil _ _)) _
  have landed : advance t false place (name :: rest) =
      .landed (if rest.isEmpty then .vacant (name :: place) else .lost .notFound) := by
    rw [advance_cons, named.move, vacant]
    rfl
  refine ⟨slash'', ?_⟩
  unfold locate
  rw [whole, spelled]
  dsimp only
  rw [further, walk_of_landed landed]

theorem makeDirectory_of_vacant {slash : Bool} (unsealed : t.isSealed place = false)
    (located : t.locate false here p = (.vacant place, slash)) :
    t.makeDirectory here p = .ok (t.put place .directory) ∧
      (t.put place .directory).status here p = .ok (place, .directory) := by
  refine ⟨?_, (status_put_vacant located).2⟩
  rw [makeDirectory, located]
  dsimp only
  rw [unsealed, if_neg Bool.false_ne_true]

theorem makeDirectory_of_lost {fault : Fault} {slash : Bool}
    (located : t.locate false here p = (.lost fault, slash)) :
    t.makeDirectory here p = .error fault := by
  rw [makeDirectory, located]

theorem settle_of_makeDirectory {t' : Tree} (e : t.makeDirectory here p = .ok t') :
    t.settle here p = (t', none) := by
  rw [settle, e]

theorem makeDirectoriesWithin_of_makeDirectory {t' : Tree} (named : p ≠ [])
    (e : t.makeDirectory here p = .ok t') (outer : List Path) :
    t.makeDirectoriesWithin here p outer = (t', none) := by
  have nonempty : ¬ p.isEmpty = true := by simpa using named
  cases outer with
  | nil => rw [makeDirectoriesWithin, if_neg nonempty, settle_of_makeDirectory e]
  | cons q further =>
    rw [makeDirectoriesWithin, if_neg nonempty, e]
    exact settle_of_makeDirectory e

theorem makeDirectoriesWithin_extends {origin : Location} {outer : List Path}
    (outward : Path.Outward before p outer m) (closed : t.Closed)
    (unsealed : ∀ l, t.isSealed l = false) (proper : ∀ name ∈ m, IsName name)
    (whole : ∀ q ∈ p :: outer, q ≠ [] → pathFault? q = none ∧ start here q = origin)
    (lands : (walk t true linkLimit origin before false).1 = .found place .directory)
    (vacant : ∀ name ∈ m.getLast?, t.get? (name :: place) = none) :
    t.makeDirectoriesWithin here p outer = (t.extended place m, none) ∧
      (t.extended place m).status here p = .ok (m ++ place, .directory) := by
  induction outward with
  | @last p outer name spelled =>
    have outward : Path.Outward before p outer [name] := .last spelled
    have nonempty : p ≠ [] := outward.ne_nil
    obtain ⟨whole, begins⟩ := whole p List.mem_cons_self nonempty
    have free : t.get? (name :: place) = none := vacant name rfl
    obtain ⟨slash, located⟩ :=
      locate_vacant whole spelled (begins ▸ lands) (proper name List.mem_cons_self) free
    obtain ⟨made, there⟩ := makeDirectory_of_vacant (unsealed _) located
    exact ⟨makeDirectoriesWithin_of_makeDirectory nonempty made outer, there⟩
  | @next p q further m name spelled outer ih =>
    have outward : Path.Outward before p (q :: further) (name :: m) := .next spelled outer
    have nonempty : p ≠ [] := outward.ne_nil
    obtain ⟨fits, begins⟩ := whole p List.mem_cons_self nonempty
    obtain ⟨outside, more⟩ := outer.spelled
    obtain ⟨init, first, rfl⟩ : ∃ init first, m = init ++ [first] :=
      ⟨_, _, (List.dropLast_concat_getLast more).symm⟩
    have inner : ∀ n ∈ init ++ [first], IsName n := fun n member =>
      proper n (List.mem_cons_of_mem _ member)
    have free : t.get? (first :: place) = none :=
      vacant first (by rw [← List.cons_append, List.getLast?_concat]; rfl)
    -- the path itself comes to nothing at the first name, so that the outer ones are made
    have ahead : Path.names p = before ++ first :: (init.reverse ++ [name]) := by
      rw [spelled]
      simp
    obtain ⟨slash, nowhere⟩ :=
      locate_vacant fits ahead (begins ▸ lands) (inner first (by simp)) free
    rw [if_neg (by simp)] at nowhere
    have lost : t.makeDirectory here p = .error .notFound := makeDirectory_of_lost nowhere
    obtain ⟨made, there⟩ := ih inner (fun q' member => whole q' (List.mem_cons_of_mem _ member))
      (by rw [List.getLast?_concat]; rintro _ ⟨⟩; exact free)
    -- in them the last name is free
    have innermost : Path.names p = (before ++ (init ++ [first]).reverse) ++ [name] := by
      rw [spelled, List.reverse_cons, List.append_assoc]
    obtain ⟨-, slash', walks⟩ := walk_of_status_directory there
    rw [(whole q (by simp) outer.ne_nil).2, outside, ← begins] at walks
    have deepest : (t.extended place (init ++ [first])).get? (name :: (init ++ [first] ++ place)) =
        none := by
      have deep := closed.vacant_append free (name :: init)
      rw [get?_extended (by simp), ← deep]
      simp
    obtain ⟨slash'', located⟩ := locate_vacant fits innermost (congrArg Prod.fst walks)
      (proper name List.mem_cons_self) deepest
    obtain ⟨made', there'⟩ := makeDirectory_of_vacant (by rw [isSealed_extended, unsealed]) located
    refine ⟨?_, there'⟩
    rw [makeDirectoriesWithin, if_neg (by simpa using nonempty), lost, made]
    exact settle_of_makeDirectory made'

theorem makeDirectories_extends (on : t.LeadsOn here p before place m) (closed : t.Closed)
    (unsealed : ∀ l, t.isSealed l = false) :
    t.makeDirectories here p = (t.extended place m, none) ∧
      (t.extended place m).status here p = .ok (m ++ place, .directory) := by
  have outward := Path.outward_ancestors on.spelled on.nonempty fun name member =>
    (on.proper name member).dot
  refine makeDirectoriesWithin_extends outward closed unsealed on.proper ?_ on.lands on.vacant
  intro q member named
  have front : Path.IsFront q p := by
    rcases List.mem_cons.1 member with rfl | member
    · exact .refl _
    · exact Path.isFront_of_mem_ancestors member named
  exact ⟨pathFault?_front front named on.whole, start_front front named here⟩

end Extending

end Tree

end PlatformLauncher
