import PlatformLauncher.Proofs.Tree.Growth

/-!
The absolute path of a place. In a tree as a file system keeps it, every entry has a name that a path
can spell and lies in a directory, so that the path of a place leads to that place from wherever it is
looked up. Main statements: `status_path` and `canonical?_path`, the canonical path of a path is its
own canonical path.
-/
namespace PlatformLauncher

namespace Text

theorem pieces_joinWith {mark : Char} {words : List Text} (nonempty : words ≠ [])
    (free : ∀ word ∈ words, mark ∉ word) : pieces mark (joinWith [mark] words) = words := by
  induction words with
  | nil => exact absurd rfl nonempty
  | cons word rest ih =>
    have first := free word List.mem_cons_self
    cases rest with
    | nil => exact pieces_eq_singleton first
    | cons next rest =>
      have further := ih (List.cons_ne_nil _ _) fun w member => free w (List.mem_cons_of_mem _ member)
      rw [joinWith, List.append_assoc, List.singleton_append, pieces_append_mark first, further]

end Text

namespace Tree

structure IsName (s : Text) : Prop where
  nonempty : s ≠ []
  slash : '/' ∉ s
  null : '\x00' ∉ s
  dot : s ≠ ['.']
  dots : s ≠ ['.', '.']
  fits : (Octets.encode s).length ≤ nameLimit

instance (s : Text) : Decidable (IsName s) :=
  decidable_of_iff (s ≠ [] ∧ '/' ∉ s ∧ '\x00' ∉ s ∧ s ≠ ['.'] ∧ s ≠ ['.', '.'] ∧
      (Octets.encode s).length ≤ nameLimit)
    ⟨fun ⟨nonempty, slash, null, dot, dots, fits⟩ => ⟨nonempty, slash, null, dot, dots, fits⟩,
      fun ⟨nonempty, slash, null, dot, dots, fits⟩ => ⟨nonempty, slash, null, dot, dots, fits⟩⟩

/-- A tree as a file system keeps it. -/
structure Proper (t : Tree) : Prop where
  closed : t.Closed
  named : ∀ name l e, t.get? (name :: l) = some e → IsName name

theorem proper_of_entries {t : Tree}
    (sound : ∀ x ∈ t.entries, (∀ name ∈ x.1.head?, IsName name) ∧
      t.get? (Location.parent x.1) = some .directory) : t.Proper where
  closed := closed_of_entries fun x member => (sound x member).2
  named name l e stands := by
    obtain ⟨before, after, split, -⟩ := List.lookup_eq_some_iff.1 stands
    exact (sound (name :: l, e) (split ▸ by simp)).1 name rfl

theorem Proper.isName {t : Tree} {l : Location} {e : Entry} (proper : t.Proper)
    (stands : t.get? l = some e) : ∀ name ∈ l, IsName name := by
  induction l generalizing e with
  | nil => simp
  | cons name l ih =>
    have inside : t.get? l = some .directory := proper.closed _ _ stands
    intro name' member
    rcases List.mem_cons.1 member with rfl | member
    · exact proper.named _ _ _ stands
    · exact ih inside name' member

section Spelling

variable {l m : Location}

theorem names_path (named : ∀ name ∈ l, IsName name) : Path.names l.path = l.reverse := by
  have whole : Path.names l.path =
      (Text.pieces '/' (Text.joinWith ['/'] l.reverse)).filter fun s => !s.isEmpty := by
    simp [Path.names, Location.path, Text.pieces]
  rw [whole]
  by_cases root : l = []
  · subst root
    rfl
  have free : ∀ word ∈ l.reverse, '/' ∉ word := fun word member =>
    (named word (List.mem_reverse.1 member)).slash
  rw [Text.pieces_joinWith (by simpa using root) free, List.filter_eq_self]
  intro word member
  have nonempty := (named word (List.mem_reverse.1 member)).nonempty
  simpa using nonempty

theorem path_cons (name : Text) (l : Location) :
    Location.path (name :: l) = (if l = [] then ['/'] else l.path ++ ['/']) ++ name := by
  by_cases root : l = []
  · subst root
    rfl
  · rw [if_neg root, Location.path, Location.path, List.reverse_cons,
      Path.joinWith_append (by simpa using root) (by simp)]
    simp [Text.joinWith]

theorem null_notMem_path (named : ∀ name ∈ l, IsName name) : '\x00' ∉ l.path := by
  induction l with
  | nil => decide
  | cons name l ih =>
    have inside := ih fun n member => named n (List.mem_cons_of_mem _ member)
    have first := (named name List.mem_cons_self).null
    rw [path_cons]
    split <;> simp [inside, first]

theorem endsInSlash_path {name : Text} (named : IsName name) :
    Path.endsInSlash (Location.path (name :: l)) = false := by
  have last : name.getLast? ≠ some '/' := fun e => named.slash (List.mem_of_getLast? e)
  rw [Path.endsInSlash, path_cons, List.getLast?_append, List.getLast?_eq_some_getLast named.nonempty]
  rw [List.getLast?_eq_some_getLast named.nonempty] at last
  simpa using last

theorem nameable_of_suffix (suffix : m <:+ l) (fits : nameable l = true) : nameable m = true := by
  obtain ⟨more, rfl⟩ := suffix
  induction more with
  | nil => exact fits
  | cons name more ih =>
    refine ih ?_
    rw [List.cons_append] at fits
    unfold nameable at fits ⊢
    rw [path_cons] at fits
    rw [decide_eq_true_eq] at fits ⊢
    split at fits
    · next root =>
      rw [root]
      decide
    · rw [Octets.encode_append, Octets.encode_append] at fits
      simp only [List.length_append] at fits
      omega

end Spelling

section Walking

variable {t : Tree} {follow : Bool} {here l place : Location} {names : List Text} {p : Path}
  {e : Entry}

theorem Closed.stands_of_walk {links : Nat} {slash slash' : Bool} (closed : t.Closed)
    (stands : t.get? here = some .directory)
    (ends : walk t follow links here names slash = (.found place e, slash')) :
    t.get? place = some e := by
  fun_induction walk t follow links here names slash with
  | case1 links here names slash r landed =>
    cases ends
    exact advance_found stands (fun l => closed l _) landed
  | case2 here names slash directory target rest turned => cases ends
  | case3 here names slash directory target rest turned links ih =>
    have inside : (advance t follow here names).Inside t := closed.inside_of_advance stands
    rw [turned] at inside
    exact ih (get?_start inside target) ends

theorem Closed.stands_of_status (closed : t.Closed) (stands : t.get? here = some .directory)
    (found : t.status here p = .ok (place, e)) : t.get? place = some e := by
  obtain ⟨slash, located, -⟩ := locate_of_status found
  unfold locate at located
  split at located
  · cases located
  · exact closed.stands_of_walk (get?_start stands p) located

theorem IsName.move {name : Text} (named : IsName name) (t : Tree) (here : Location) :
    t.move here name = .of (name :: here) (t.get? (name :: here)) := by
  unfold Tree.move
  rw [if_neg named.dot, if_neg named.dots, if_neg (Nat.not_lt.2 named.fits)]

theorem Proper.advance_reverse (proper : t.Proper) (stands : t.get? l = some e)
    (other : ∀ target, e ≠ .link target) : advance t true [] l.reverse = .landed (.found l e) := by
  induction l generalizing e with
  | nil =>
    cases stands
    rfl
  | cons name l ih =>
    have inside : t.get? l = some .directory := proper.closed _ _ stands
    have named : IsName name := proper.named _ _ _ stands
    rw [List.reverse_cons, advance_append_directory (ih inside (by simp)), advance_cons,
      named.move, stands]
    cases e with
    | directory => rfl
    | file content => rfl
    | link target => exact absurd rfl (other target)

theorem pathFault?_path (proper : t.Proper) (stands : t.get? l = some e) (fits : nameable l = true) :
    pathFault? l.path = none := by
  have null := null_notMem_path (proper.isName stands)
  have short : ¬ pathLimit ≤ (Octets.encode l.path).length := by
    simpa [nameable] using fits
  unfold pathFault?
  rw [if_neg (by simpa using null), if_neg (by simp [Location.path]), if_neg short]

theorem status_path (proper : t.Proper) (stands : t.get? l = some e)
    (other : ∀ target, e ≠ .link target) (fits : nameable l = true) (here : Location) :
    t.status here l.path = .ok (l, e) := by
  have walks : t.locate true here l.path = (.found l e, Path.endsInSlash l.path) := by
    unfold locate
    rw [pathFault?_path proper stands fits, names_path (proper.isName stands)]
    exact walk_of_landed (proper.advance_reverse stands other) _
  refine status_of_locate walks ?_
  cases l with
  | nil =>
    cases stands
    exact .inl rfl
  | cons name l => exact .inr (endsInSlash_path (proper.named _ _ _ stands))

theorem suffix_of_mem_stretch (proper : ∀ name ∈ names, name ≠ ['.'] ∧ name ≠ ['.', '.'])
    (member : place ∈ stretch t here names) : place <:+ names.reverse ++ here := by
  induction names generalizing here with
  | nil => cases member
  | cons name rest ih =>
    obtain ⟨dot, dots⟩ := proper name List.mem_cons_self
    rw [stretch, if_neg dot, if_neg dots] at member
    rw [List.reverse_cons, List.append_assoc, List.singleton_append]
    rcases List.mem_cons.1 member with rfl | member
    · exact List.suffix_append _ _
    · split at member
      · exact ih (fun n inside => proper n (List.mem_cons_of_mem _ inside)) member
      · cases member

theorem canonical?_path (proper : t.Proper) (stands : t.get? l = some e)
    (other : ∀ target, e ≠ .link target) (fits : nameable l = true) (here : Location) :
    t.canonical? here l.path = some l.path := by
  have named := proper.isName stands
  have straight : ∀ name ∈ l.reverse, name ≠ ['.'] ∧ name ≠ ['.', '.'] := fun name member =>
    ⟨(named name (List.mem_reverse.1 member)).dot, (named name (List.mem_reverse.1 member)).dots⟩
  -- no link is met, so that only the directories on the way to the place are looked at
  have stretched : t.passed linkLimit [] l.reverse = t.stretch [] l.reverse := by
    unfold passed
    rw [proper.advance_reverse stands other, List.append_nil]
  have all : (l :: t.passed linkLimit [] l.reverse).all nameable = true := by
    rw [stretched, List.all_cons, fits, Bool.true_and, List.all_eq_true]
    intro place member
    have within := suffix_of_mem_stretch straight member
    rw [List.reverse_reverse, List.append_nil] at within
    exact nameable_of_suffix within fits
  unfold canonical?
  rw [status_path proper stands other fits here, names_path named]
  exact if_pos all

theorem canonical?_eq_some {q : Path} (e : t.canonical? here p = some q) :
    ∃ place entry, t.status here p = .ok (place, entry) ∧ q = place.path ∧ nameable place = true := by
  unfold canonical? at e
  split at e
  · next place entry found =>
    split at e
    · next all =>
      cases e
      rw [List.all_cons, Bool.and_eq_true] at all
      exact ⟨place, entry, found, rfl, all.1⟩
    · cases e
  · cases e

end Walking

end Tree

end PlatformLauncher
