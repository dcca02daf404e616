/-!
Text is a list of characters, so that every rule about it is a recursion on the list. Main
statements: `dropPrefix?_eq_some_iff` and `dropSuffix?_eq_some_iff` say that taking an affix off is
the inverse of appending it, and `joinWith_pieces` and `eq_of_cutAt?` that cutting at a mark loses
nothing.
-/
namespace PlatformLauncher

abbrev Text := List Char

namespace Text

def joinWith (mark : Text) : List Text → Text
  | [] => []
  | [word] => word
  | word :: next :: rest => word ++ mark ++ joinWith mark (next :: rest)

def dropPrefix? : Text → Text → Option Text
  | [], s => some s
  | _ :: _, [] => none
  | p :: ps, c :: s => if p = c then dropPrefix? ps s else none

theorem dropPrefix?_eq_some_iff {p s r : Text} : dropPrefix? p s = some r ↔ s = p ++ r := by
  induction p generalizing s with
  | nil => simp [dropPrefix?, eq_comm]
  | cons a p ih =>
    cases s with
    | nil => simp [dropPrefix?]
    | cons c s =>
      by_cases h : a = c
      · simp [dropPrefix?, h, ih]
      · simp [dropPrefix?, h, Ne.symm h]

@[simp] theorem dropPrefix?_append (p r : Text) : dropPrefix? p (p ++ r) = some r :=
  dropPrefix?_eq_some_iff.2 rfl

def dropSuffix? (q s : Text) : Option Text :=
  (dropPrefix? q.reverse s.reverse).map List.reverse

theorem dropSuffix?_eq_some_iff {q s r : Text} : dropSuffix? q s = some r ↔ s = r ++ q := by
  unfold dropSuffix?
  rw [Option.map_eq_some_iff]
  constructor
  · rintro ⟨t, ht, rfl⟩
    have h := dropPrefix?_eq_some_iff.1 ht
    rw [← List.reverse_reverse s, h]
    simp
  · rintro rfl
    exact ⟨r.reverse, dropPrefix?_eq_some_iff.2 (by simp), by simp⟩

def startsWith (s p : Text) : Bool := (dropPrefix? p s).isSome

def endsWith (s q : Text) : Bool := (dropSuffix? q s).isSome

theorem startsWith_iff {s p : Text} : startsWith s p = true ↔ ∃ r, s = p ++ r := by
  simp [startsWith, Option.isSome_iff_exists, dropPrefix?_eq_some_iff]

/-- The stretches between occurrences of the mark, empty ones included: one more than there are
marks. -/
def pieces (mark : Char) : Text → List Text
  | [] => [[]]
  | c :: s =>
    if c = mark then [] :: pieces mark s
    else match pieces mark s with
      | [] => [[c]]
      | first :: rest => (c :: first) :: rest

theorem pieces_ne_nil (mark : Char) (s : Text) : pieces mark s ≠ [] := by
  cases s with
  | nil => simp [pieces]
  | cons c s =>
    unfold pieces
    split
    · simp
    · split <;> simp

theorem joinWith_pieces (mark : Char) (s : Text) : joinWith [mark] (pieces mark s) = s := by
  induction s with
  | nil => rfl
  | cons c s ih =>
    unfold pieces
    split
    · next h =>
      cases hp : pieces mark s with
      | nil => exact absurd hp (pieces_ne_nil mark s)
      | cons first rest =>
        rw [hp] at ih
        simp [joinWith, ih, h]
    · cases hp : pieces mark s with
      | nil => exact absurd hp (pieces_ne_nil mark s)
      | cons first rest =>
        rw [hp] at ih
        cases rest with
        | nil => simpa [joinWith] using ih
        | cons next rest => simpa [joinWith] using ih

theorem pieces_eq_singleton {mark : Char} {s : Text} (h : mark ∉ s) : pieces mark s = [s] := by
  induction s with
  | nil => rfl
  | cons c s ih =>
    simp only [List.mem_cons, not_or] at h
    simp [pieces, Ne.symm h.1, ih h.2]

theorem pieces_append_cons (mark : Char) (s r : Text) :
    pieces mark (s ++ mark :: r) = pieces mark s ++ pieces mark r := by
  induction s with
  | nil => simp [pieces]
  | cons c s ih =>
    rw [List.cons_append, pieces, pieces, ih]
    cases hp : pieces mark s with
    | nil => exact absurd hp (pieces_ne_nil mark s)
    | cons first rest => split <;> rfl

theorem pieces_append_mark {mark : Char} {s : Text} (h : mark ∉ s) (r : Text) :
    pieces mark (s ++ mark :: r) = s :: pieces mark r := by
  rw [pieces_append_cons, pieces_eq_singleton h, List.singleton_append]

def cutAt? (mark : Char) : Text → Option (Text × Text)
  | [] => none
  | c :: s => if c = mark then some ([], s) else (cutAt? mark s).map fun (a, b) => (c :: a, b)

theorem cutAt?_append {mark : Char} {s : Text} (clear : mark ∉ s) (r : Text) :
    cutAt? mark (s ++ mark :: r) = some (s, r) := by
  induction s with
  | nil => simp [cutAt?]
  | cons c s ih =>
    simp only [List.mem_cons, not_or] at clear
    simp [cutAt?, Ne.symm clear.1, ih clear.2]

theorem cutAt?_of_notMem {mark : Char} {s : Text} (clear : mark ∉ s) : cutAt? mark s = none := by
  induction s with
  | nil => rfl
  | cons c s ih =>
    simp only [List.mem_cons, not_or] at clear
    simp [cutAt?, Ne.symm clear.1, ih clear.2]

theorem eq_of_cutAt? {mark : Char} {s a b : Text} (cut : cutAt? mark s = some (a, b)) :
    s = a ++ mark :: b := by
  induction s generalizing a with
  | nil => cases cut
  | cons c s ih =>
    rw [cutAt?] at cut
    split at cut
    · next here =>
      cases cut
      rw [here, List.nil_append]
    · obtain ⟨⟨a', b'⟩, cut', is⟩ := Option.map_eq_some_iff.1 cut
      cases is
      rw [ih cut', List.cons_append]

/-- The text with every occurrence of a pattern, from the left and without overlap, replaced. The
pattern is given by its first character and the rest. -/
def replace (head : Char) (tail substitute : Text) (s : Text) : Text :=
  go s.length s
where
  go : Nat → Text → Text
  | 0, s => s
  | _, [] => []
  | n + 1, c :: s =>
    match dropPrefix? (head :: tail) (c :: s) with
    | some rest => substitute ++ go n rest
    | none => c :: go n s

/-- The small letter for a capital from A to Z or the Kelvin sign; every other character stays. -/
def lowerChar (c : Char) : Char := if c = '\u212A' then 'k' else c.toLower

def lower (s : Text) : Text := s.map lowerChar

end Text

end PlatformLauncher
