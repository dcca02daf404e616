import PlatformLauncher.Proofs.Tree.Nested

/-!
What is seen at the end of a path. In a tree as a file system keeps it, a directory sees the same at a
path as the root does at the whole path, unless that one is too long; and a path at whose end a file is
seen ends in the name of an entry. Main statements: `contents?_join` and `endsInName_of_contents?`.
-/
namespace PlatformLauncher

namespace Path

/-- The path is a name that an entry can have, behind a front that is empty or ends in a slash. -/
structure Ends (p front : Path) (name : Text) : Prop where
  whole : p = front ++ name
  headed : front = [] ∨ front.getLast? = some '/'
  free : '/' ∉ name
  named : isIdle name = false
  dots : name ≠ ['.', '.']

def EndsInName (p : Path) : Prop := ∃ front name, p.Ends front name

section Names

variable {base p front : Path} {name : Text}

theorem endsInSlash_join_nil (nonempty : base ≠ []) : endsInSlash (join base []) = true := by
  unfold join
  rw [if_neg (by simp [isAbsolute])]
  split
  · next ends => simpa [endsInSlash, nonempty] using ends
  · simp [endsInSlash]

theorem Ends.join (ends : p.Ends front name) (base : Path) :
    ∃ front', (Path.join base p).Ends front' name := by
  obtain ⟨whole, headed, free, named, dots⟩ := ends
  have behind {head : Path} (closed : head = [] ∨ head.getLast? = some '/') :
      (head ++ p).Ends (head ++ front) name := by
    refine ⟨by rw [whole, List.append_assoc], ?_, free, named, dots⟩
    rcases headed with rfl | slash
    · rwa [List.append_nil]
    · exact .inr (by rw [List.getLast?_append, slash, Option.some_or])
  unfold Path.join
  split
  · exact ⟨front, whole, headed, free, named, dots⟩
  · split
    · next closed => exact ⟨_, behind (by simpa using closed)⟩
    · rw [← List.singleton_append, ← List.append_assoc]
      exact ⟨_, behind (.inr List.getLast?_concat)⟩

theorem Ends.exists_pieces (ends : p.Ends front name) :
    ∃ rest, Text.pieces '/' p = rest ++ [name] ∧ front = Text.joinWith ['/'] (rest ++ [[]]) := by
  obtain ⟨rfl, headed, free, -, -⟩ := ends
  rcases headed with rfl | slash
  · exact ⟨[], Text.pieces_eq_singleton free, rfl⟩
  · obtain ⟨outer, rfl⟩ := List.getLast?_eq_some_iff.1 slash
    refine ⟨Text.pieces '/' outer, ?_, ?_⟩
    · rw [List.append_assoc, List.singleton_append, Text.pieces_append_cons,
        Text.pieces_eq_singleton free]
    · rw [joinWith_append (Text.pieces_ne_nil _ _) (List.cons_ne_nil _ _), Text.joinWith_pieces,
        Text.joinWith, List.append_nil]

theorem Ends.tail (ends : Ends ('/' :: p) front name) : ∃ dir, front = '/' :: dir ∧ p.Ends dir name := by
  obtain ⟨whole, headed, free, named, dots⟩ := ends
  cases front with
  | nil =>
    rw [List.nil_append] at whole
    exact absurd (whole ▸ List.mem_cons_self) free
  | cons c dir =>
    obtain ⟨rfl, body⟩ := List.cons.inj whole
    refine ⟨dir, rfl, body, ?_, free, named, dots⟩
    cases dir with
    | nil => exact .inl rfl
    | cons d dir => simpa using headed

theorem Ends.splitFile? (ends : p.Ends front name) (absolute : isAbsolute p = true) :
    p.splitFile? = some (front, name) := by
  obtain ⟨body, rfl⟩ := isAbsolute_iff.1 absolute
  obtain ⟨dir, rfl, inner⟩ := ends.tail
  obtain ⟨rest, pieces, joined⟩ := inner.exists_pieces
  have last : (Text.pieces '/' body).reverse.dropWhile isIdle = name :: rest.reverse := by
    simp [pieces, ends.named]
  rw [Path.splitFile?]
  simp only [splitHead, last]
  rw [if_neg (by simpa using ends.dots), List.reverse_cons, List.reverse_reverse, ← joined]
  rfl

theorem Ends.ne_nil (ends : p.Ends front name) : name ≠ [] := by
  rintro rfl
  exact absurd ends.named (by decide)

theorem Ends.added (ends : p.Ends front name) {ext : Text} (nonempty : ext ≠ []) (free : '/' ∉ ext) :
    (p ++ '.' :: ext).Ends front (name ++ '.' :: ext) := by
  have longer : 2 < (name ++ '.' :: ext).length := by
    have := List.length_pos_iff.2 ends.ne_nil
    have := List.length_pos_iff.2 nonempty
    rw [List.length_append, List.length_cons]
    omega
  have unlike (word : Text) (short : word.length ≤ 2) : name ++ '.' :: ext ≠ word := by
    rintro rfl
    omega
  refine ⟨by rw [ends.whole, List.append_assoc], ends.headed, ?_, ?_, unlike _ (by decide)⟩
  · simp [ends.free, free]
  · simpa [isIdle] using unlike ['.'] (by decide)

theorem withExtension_addExtension (ends : p.EndsInName) (absolute : isAbsolute p = true)
    {ext : Text} (nonempty : ext ≠ []) (free : '/' ∉ ext) (undotted : '.' ∉ ext) (ext' : Text) :
    withExtension ext' (addExtension ext p) = p ++ '.' :: ext' := by
  obtain ⟨front, name, ends⟩ := ends
  have longer := ends.added nonempty free
  have absolute' : isAbsolute (p ++ '.' :: ext) = true := by
    obtain ⟨body, rfl⟩ := isAbsolute_iff.1 absolute
    rfl
  have split : splitExtension (name ++ '.' :: ext) = (name, some ext) := by
    have reversed : (name ++ '.' :: ext).reverse = ext.reverse ++ '.' :: name.reverse := by simp
    rw [splitExtension, reversed, Text.cutAt?_append (by simpa using undotted)]
    simp [ends.ne_nil]
  rw [addExtension, ends.splitFile? absolute]
  dsimp only
  rw [← ends.whole, withExtension, longer.splitFile? absolute']
  simp only [split]
  rw [← ends.whole]

theorem exists_ends {before : List Text} (spelled : names p = before ++ [name])
    (slash : endsInSlash p = false) (dot : name ≠ ['.']) (dots : name ≠ ['.', '.']) :
    ∃ front, p.Ends front name := by
  obtain ⟨stretches, last, pieces⟩ := (List.eq_nil_or_concat (Text.pieces '/' p)).resolve_left
    (Text.pieces_ne_nil _ _)
  rw [List.concat_eq_append] at pieces
  obtain ⟨front, whole, headed⟩ :
      ∃ front, p = front ++ last ∧ (front = [] ∨ front.getLast? = some '/') := by
    have joined := Text.joinWith_pieces '/' p
    rw [pieces] at joined
    by_cases alone : stretches = []
    · subst alone
      exact ⟨[], joined.symm, .inl rfl⟩
    · rw [joinWith_append alone (List.cons_ne_nil _ _)] at joined
      exact ⟨_, joined.symm, .inr List.getLast?_concat⟩
  have nonempty : last ≠ [] := by
    rintro rfl
    rw [List.append_nil] at whole
    subst whole
    rcases headed with rfl | closed
    · simp [names, Text.pieces] at spelled
    · rw [endsInSlash, closed] at slash
      cases slash
  obtain rfl : last = name := by
    rw [names, pieces, List.filter_append, List.filter_cons_of_pos (by simpa using nonempty)] at spelled
    exact List.singleton_inj.1 (List.append_inj_right' spelled rfl)
  have free : '/' ∉ last := Text.mark_notMem_pieces (by rw [pieces]; simp)
  exact ⟨front, whole, headed, free, by simp [isIdle, nonempty, dot], dots⟩

theorem isAbsolute_of_splitFile? (absolute : isAbsolute p = true)
    (split : p.splitFile? = some (front, name)) (more : Text) : isAbsolute (front ++ more) = true := by
  obtain ⟨body, rfl⟩ := isAbsolute_iff.1 absolute
  simp only [Path.splitFile?, splitHead] at split
  split at split
  · cases split
  · split at split <;> cases split
    rfl

theorem isAbsolute_addExtension (absolute : isAbsolute p = true) (ext : Text) :
    isAbsolute (addExtension ext p) = true := by
  unfold addExtension
  split
  · exact absolute
  · next split =>
    rw [List.append_assoc]
    exact isAbsolute_of_splitFile? absolute split _

theorem isAbsolute_withExtension (absolute : isAbsolute p = true) (ext : Text) :
    isAbsolute (withExtension ext p) = true := by
  unfold withExtension
  split
  · exact absolute
  · next split =>
    rw [List.append_assoc]
    exact isAbsolute_of_splitFile? absolute split _

end Names

end Path

namespace Tree

/-- What is seen at the end of a path, links followed: nothing, a directory, or a file. -/
def seen (t : Tree) (here : Location) (p : Path) : Option Entry :=
  (t.status here p).toOption.map Prod.snd

section Seeing

variable {t : Tree} {here place : Location} {names : List Text} {p : Path} {content : Octets}

theorem seen_eq_some_iff {e : Entry} :
    t.seen here p = some e ↔ ∃ place, t.status here p = .ok (place, e) := by
  unfold seen
  cases t.status here p with
  | error fault => simp [Except.toOption]
  | ok found =>
    obtain ⟨place, e'⟩ := found
    simp [Except.toOption]

theorem exists_eq_isSome_seen (t : Tree) (here : Location) (p : Path) :
    t.exists_ here p = (t.seen here p).isSome := by
  unfold exists_ seen
  cases t.status here p <;> rfl

def contents? (t : Tree) (here : Location) (p : Path) : Option Octets :=
  match t.seen here p with
  | some (.file content) => some content
  | _ => none

theorem contents?_eq_some_iff : t.contents? here p = some content ↔ t.seen here p = some (.file content) := by
  unfold contents?
  split
  · next content' file => simp [file]
  · next other => simpa using fun file => other content file

theorem contents?_congr {t' : Tree} (same : t'.seen here p = t.seen here p) :
    t'.contents? here p = t.contents? here p := by
  rw [contents?, contents?, same]

theorem isFile_eq_isSome_contents? (t : Tree) (here : Location) (p : Path) :
    t.isFile here p = (t.contents? here p).isSome := by
  rw [Bool.eq_iff_iff, isFile_iff, Option.isSome_iff_exists]
  simp only [contents?_eq_some_iff, seen_eq_some_iff]
  exact exists_comm

theorem exists_of_isFile (file : t.isFile here p = true) : t.exists_ here p = true := by
  obtain ⟨place, content, found⟩ := isFile_iff.1 file
  rw [exists_, found]
  rfl

theorem read_of_contents? (file : t.contents? here p = some content) :
    t.read here p = .ok content := by
  obtain ⟨place, found⟩ := seen_eq_some_iff.1 (contents?_eq_some_iff.1 file)
  exact read_of_status found

theorem seen_of_pathFault {fault : Fault} (bad : pathFault? p = some fault) :
    t.seen here p = none := by
  unfold seen status locate
  rw [bad]
  rfl

/-! From a directory and from the root -/

theorem status_join_path (proper : t.Proper) (stands : t.get? here = some .directory)
    (named : p ≠ []) (whole : pathFault? (Path.join here.path p) = none) :
    t.status here (Path.join here.path p) = t.status here p := by
  cases absolute : Path.isAbsolute p with
  | true => rw [Path.join_eq_of_isAbsolute absolute]
  | false =>
    have own : pathFault? p = none := pathFault?_of_joined named whole
    have way : advance t true [] here.reverse = .landed (.found here .directory) :=
      proper.advance_reverse stands (by simp)
    have names : Path.names (Path.join here.path p) = here.reverse ++ Path.names p := by
      rw [Path.names_join absolute, names_path (proper.isName stands)]
    have origin : start here (Path.join here.path p) = [] := by
      rw [start, Path.isAbsolute_join absolute]
      rfl
    have begin' : start here p = here := by
      rw [start, absolute]
      rfl
    have slash : Path.endsInSlash (Path.join here.path p) = Path.endsInSlash p := by
      obtain ⟨front, joined⟩ := Path.exists_join_eq_append here.path p
      rw [Path.endsInSlash, Path.endsInSlash, joined, List.getLast?_append,
        List.getLast?_eq_some_getLast named, Option.some_or]
    have same : t.locate true here (Path.join here.path p) = t.locate true here p := by
      rw [locate, locate, whole, own, names, origin, begin', slash]
      dsimp only
      rw [walk, walk, advance_append_directory way]
    rw [status, status, same]

theorem seen_join_path (proper : t.Proper) (stands : t.get? here = some .directory) (named : p ≠ [])
    (whole : pathFault? (Path.join here.path p) = none) :
    t.seen here (Path.join here.path p) = t.seen here p := by
  rw [seen, seen, status_join_path proper stands named whole]

/-! The last name of a path to a file -/

theorem walk_keeps_slash {slash : Bool} (asked : slash = true) (t : Tree) (follow : Bool)
    (links : Nat) (here : Location) (names : List Text) :
    (walk t follow links here names slash).2 = true := by
  fun_induction walk t follow links here names slash with
  | case1 links here names slash r landed => exact asked
  | case2 here names slash directory target rest turned => exact asked
  | case3 here names slash directory target rest turned links ih =>
    exact ih (by rw [asked, Bool.true_or])

theorem walk_of_status_file (leads : t.status here p = .ok (place, .file content)) :
    walk t true linkLimit (start here p) (Path.names p) false = (.found place (.file content), false) ∧
      Path.endsInSlash p = false := by
  obtain ⟨slash, located, whole⟩ := locate_of_status leads
  obtain rfl : slash = false := whole.resolve_left (by simp)
  unfold locate at located
  split at located
  · cases located
  cases ends : Path.endsInSlash p with
  | false => exact ⟨ends ▸ located, rfl⟩
  | true =>
    have kept := walk_keeps_slash ends t true linkLimit (start here p) (Path.names p)
    rw [located] at kept
    cases kept

def LastIsName (names : List Text) : Prop :=
  ∃ front name, names = front ++ [name] ∧ name ≠ ['.'] ∧ name ≠ ['.', '.']

theorem ne_dots_of_move {name : Text} {m : Move} (moved : t.move here name = m) (ends : m.IsEnd) :
    name ≠ ['.'] ∧ name ≠ ['.', '.'] := by
  refine ⟨?_, ?_⟩ <;>
  · rintro rfl
    have into : m = _ := moved.symm
    simp [move] at into
    subst into
    exact ends

theorem lastIsName_of_advance
    (ends : advance t true here names = .landed (.found place (.file content))) :
    LastIsName names := by
  induction names generalizing here with
  | nil => cases ends
  | cons name rest ih =>
    rw [advance_cons] at ends
    cases moved : t.move here name with
    | into directory =>
      rw [moved] at ends
      obtain ⟨front, last, rfl, proper⟩ := ih ends
      exact ⟨name :: front, last, rfl, proper⟩
    | file content =>
      rw [moved] at ends
      cases rest with
      | nil => exact ⟨[], name, rfl, ne_dots_of_move moved trivial⟩
      | cons next rest => cases ends
    | missing =>
      rw [moved] at ends
      cases rest <;> cases ends
    | link target =>
      rw [moved] at ends
      simp at ends
    | tooLong =>
      rw [moved] at ends
      cases ends

theorem link_of_advance {directory : Location} {target : Path} {rest : List Text}
    (turned : advance t true here names = .turned directory target rest) :
    ∃ front, LastIsName front ∧ names = front ++ rest := by
  induction names generalizing here with
  | nil => cases turned
  | cons name more ih =>
    rw [advance_cons] at turned
    cases moved : t.move here name with
    | into directory =>
      rw [moved] at turned
      obtain ⟨_, ⟨front, last, rfl, proper⟩, rfl⟩ := ih turned
      exact ⟨_, ⟨name :: front, last, rfl, proper⟩, rfl⟩
    | link target =>
      rw [moved] at turned
      simp only [Bool.not_true, Bool.and_false, Bool.false_eq_true, if_false] at turned
      cases turned
      exact ⟨[name], ⟨[], name, rfl, ne_dots_of_move moved trivial⟩, rfl⟩
    | missing => rw [moved] at turned; cases turned
    | file content => rw [moved] at turned; cases turned
    | tooLong => rw [moved] at turned; cases turned

theorem lastIsName_of_walk {links : Nat} {slash slash' : Bool}
    (ends : walk t true links here names slash = (.found place (.file content), slash')) :
    LastIsName names := by
  fun_induction walk t true links here names slash with
  | case1 links here names slash r landed =>
    cases ends
    exact lastIsName_of_advance landed
  | case2 here names slash directory target rest turned => cases ends
  | case3 here names slash directory target rest turned links ih =>
    obtain ⟨front, link, rfl⟩ := link_of_advance turned
    obtain ⟨before, name, split, proper⟩ := ih ends
    by_cases last : rest = []
    · rw [last, List.append_nil]
      exact link
    · -- what follows the link ends as the whole of the new names does
      obtain ⟨more, name', rfl⟩ := (List.eq_nil_or_concat rest).resolve_left last
      rw [List.concat_eq_append, ← List.append_assoc] at split
      obtain rfl := List.singleton_inj.1 (List.append_inj_right' split rfl)
      exact ⟨front ++ more, name', by simp, proper⟩

theorem endsInName_of_contents? (file : t.contents? here p = some content) : p.EndsInName := by
  obtain ⟨place, found⟩ := seen_eq_some_iff.1 (contents?_eq_some_iff.1 file)
  obtain ⟨walks, slash⟩ := walk_of_status_file found
  obtain ⟨before, name, names, dot, dots⟩ := lastIsName_of_walk walks
  obtain ⟨front, ends⟩ := Path.exists_ends names slash dot dots
  exact ⟨front, name, ends⟩

theorem contents?_join (proper : t.Proper) (stands : t.get? here = some .directory) (p : Path) :
    t.contents? here (Path.join here.path p) =
      if pathFault? (Path.join here.path p) = none then t.contents? here p else none := by
  split
  next whole =>
    by_cases named : p = []
    · -- the empty path leads nowhere, and the directory itself is no file
      subst named
      have empty : pathFault? [] = some .notFound := rfl
      have nothing : t.contents? here [] = none := by rw [contents?, seen_of_pathFault empty]
      rw [nothing, Option.eq_none_iff_forall_ne_some]
      intro content file
      obtain ⟨place, found⟩ := seen_eq_some_iff.1 (contents?_eq_some_iff.1 file)
      obtain ⟨-, slash⟩ := walk_of_status_file found
      rw [Path.endsInSlash_join_nil (by simp [Location.path])] at slash
      cases slash
    · rw [contents?, contents?, seen_join_path proper stands named whole]
  next fault =>
    obtain ⟨fault, bad⟩ := Option.ne_none_iff_exists'.1 fault
    rw [contents?, seen_of_pathFault bad]

end Seeing

end Tree

end PlatformLauncher
