import PlatformLauncher.Text.Octets

/-!
Paths as written: names with slashes between them. Nothing here looks at a file tree. Main
statements: `join_eq_of_isAbsolute`, an absolute path stands for itself wherever it is joined, and
`names_join`, joining appends the names.
-/
namespace PlatformLauncher

abbrev Path := Text

namespace Path

def isAbsolute (p : Path) : Bool := p.head? == some '/'

theorem isAbsolute_iff {p : Path} : isAbsolute p = true ↔ ∃ body, p = '/' :: body := by
  rw [isAbsolute, beq_iff_eq, List.head?_eq_some_iff]

def join (base p : Path) : Path :=
  if isAbsolute p then p
  else if base.isEmpty || base.getLast? == some '/' then base ++ p
  else base ++ '/' :: p

theorem join_eq_of_isAbsolute {p : Path} (h : isAbsolute p = true) (base : Path) :
    join base p = p := by
  simp [join, h]

def names (p : Path) : List Text := (Text.pieces '/' p).filter fun s => !s.isEmpty

theorem names_append_slash (s t : Text) : names (s ++ '/' :: t) = names s ++ names t := by
  rw [names, Text.pieces_append_cons, List.filter_append]
  rfl

theorem names_join {base p : Path} (h : isAbsolute p = false) :
    names (join base p) = names base ++ names p := by
  unfold join
  rw [if_neg (by simp [h])]
  split
  · next e =>
    rw [Bool.or_eq_true, List.isEmpty_iff, beq_iff_eq] at e
    rcases e with rfl | e
    · simp [names, Text.pieces]
    · obtain ⟨s, rfl⟩ := List.getLast?_eq_some_iff.1 e
      rw [List.append_assoc, List.singleton_append, names_append_slash, names_append_slash]
      simp [names, Text.pieces]
  · exact names_append_slash base p

def endsInSlash (p : Path) : Bool := p.getLast? == some '/'

def isIdle (s : Text) : Bool := s.isEmpty || s == ['.']

def splitHead : Path → Path × Path
  | '/' :: p => (['/'], p)
  | ['.'] => (['.'], [])
  | '.' :: '/' :: p => (['.'], '/' :: p)
  | p => ([], p)

def ancestorsFrom (head : Path) : List Text → List Path
  | [] => if head == ['.'] then [[]] else []
  | s :: rest =>
    if isIdle s then ancestorsFrom head rest
    else (head ++ Text.joinWith ['/'] (rest.dropWhile isIdle).reverse) :: ancestorsFrom head rest

/-- The directories a path lies in, the nearest first; the empty path ends the list of a relative
path. -/
def ancestors (p : Path) : List Path :=
  ancestorsFrom (splitHead p).1 (Text.pieces '/' (splitHead p).2).reverse

/-- The path cut after its last name, and the name; nothing for a path that ends in two dots or has
no name. -/
def splitFile? (p : Path) : Option (Path × Text) :=
  let (head, body) := splitHead p
  match (Text.pieces '/' body).reverse.dropWhile isIdle with
  | [] => none
  | name :: rest =>
    if name == ['.', '.'] then none
    else some (head ++ Text.joinWith ['/'] ([] :: rest).reverse, name)

/-- The name of a file before its last dot, and what follows that dot. A dot at the start does not
count. -/
def splitExtension (name : Text) : Text × Option Text :=
  match Text.cutAt? '.' name.reverse with
  | none => (name, none)
  | some (ext, stem) => if stem.isEmpty then (name, none) else (stem.reverse, some ext.reverse)

def withExtension (ext : Text) (p : Path) : Path :=
  match splitFile? p with
  | none => p
  | some (front, name) => front ++ (splitExtension name).1 ++ '.' :: ext

def addExtension (ext : Text) (p : Path) : Path :=
  match splitFile? p with
  | none => p
  | some (front, name) => front ++ name ++ '.' :: ext

def dropCommon : List Text → List Text → List Text × List Text
  | a :: as, b :: bs => if a = b then dropCommon as bs else (a :: as, b :: bs)
  | as, bs => (as, bs)

def relativeTo (base p : Path) : Path :=
  let proper := fun q => (names q).filter fun s => !isIdle s
  let (up, down) := dropCommon (proper base) (proper p)
  Text.joinWith ['/'] (up.map (fun _ => ['.', '.']) ++ down)

end Path

end PlatformLauncher
