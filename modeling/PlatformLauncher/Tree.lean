import PlatformLauncher.Path

/-!
A file tree: what stands at each location, the root being always a directory. Main statements:
`get?_put_self`, `get?_put_of_ne`, `get?_erase_self` and `get?_erase_of_ne` say what a change does to
each location.
-/
namespace PlatformLauncher

/-- The names that lead to a place from the root, the innermost first. -/
abbrev Location := List Text

namespace Location

def parent (l : Location) : Location := l.tail

def path (l : Location) : Path := '/' :: Text.joinWith ['/'] l.reverse

def isWithin (l directory : Location) : Bool := directory.reverse.isPrefixOf l.reverse

end Location

inductive Entry where
  | directory
  | file (content : Octets)
  | link (target : Path)
deriving DecidableEq, Repr

structure Tree where
  entries : List (Location × Entry)
  /-- directories whose owner lets nobody create anything in them -/
  sealed_ : List Location
deriving DecidableEq, Repr

namespace Tree

def get? (t : Tree) (l : Location) : Option Entry :=
  if l.isEmpty then some .directory else t.entries.lookup l

def put (t : Tree) (l : Location) (e : Entry) : Tree :=
  { t with entries := (l, e) :: t.entries.filter fun x => x.1 != l }

def erase (t : Tree) (l : Location) : Tree :=
  { t with entries := t.entries.filter fun x => x.1 != l }

def eraseAll (t : Tree) (l : Location) : Tree :=
  { t with entries := t.entries.filter fun x => !x.1.isWithin l }

def isSealed (t : Tree) (l : Location) : Bool := t.sealed_.any fun s => l.isWithin s

@[simp] theorem get?_root (t : Tree) : t.get? [] = some .directory := rfl

theorem lookup_filter_ne {l m : Location} (h : m ≠ l) (xs : List (Location × Entry)) :
    (xs.filter fun x => x.1 != l).lookup m = xs.lookup m := by
  induction xs with
  | nil => rfl
  | cons x xs ih =>
    obtain ⟨k, e⟩ := x
    by_cases hk : k = l
    · subst hk
      have hm : (m == k) = false := beq_eq_false_iff_ne.2 h
      simp [List.lookup_cons, ih, hm]
    · simp [List.lookup_cons, hk, ih]

theorem lookup_filter_self (l : Location) (xs : List (Location × Entry)) :
    (xs.filter fun x => x.1 != l).lookup l = none := by
  induction xs with
  | nil => rfl
  | cons x xs ih =>
    obtain ⟨k, e⟩ := x
    by_cases hk : k = l
    · simp [hk, ih]
    · have hl : (l == k) = false := beq_eq_false_iff_ne.2 (Ne.symm hk)
      simp [List.lookup_cons, hk, hl, ih]

theorem get?_put_self (t : Tree) {l : Location} (h : l ≠ []) (e : Entry) :
    (t.put l e).get? l = some e := by
  simp [get?, put, h]

theorem get?_put_of_ne (t : Tree) {l m : Location} (h : m ≠ l) (e : Entry) :
    (t.put l e).get? m = t.get? m := by
  unfold get? put
  split
  · rfl
  · have hm : (m == l) = false := beq_eq_false_iff_ne.2 h
    simp [List.lookup_cons, hm, lookup_filter_ne h]

theorem get?_erase_self (t : Tree) {l : Location} (h : l ≠ []) : (t.erase l).get? l = none := by
  simp [get?, erase, h, lookup_filter_self]

theorem get?_erase_of_ne (t : Tree) {l m : Location} (h : m ≠ l) :
    (t.erase l).get? m = t.get? m := by
  unfold get? erase
  split
  · rfl
  · simp [lookup_filter_ne h]

end Tree

end PlatformLauncher
