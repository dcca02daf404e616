import PlatformLauncher.Fault
import PlatformLauncher.Tree

/-!
From a path to a place in the tree. A walk goes name by name; a symbolic link on the way is replaced
by the names of its target, at most forty times. Main statements: `walk_of_landed` and
`walk_of_turned`, what one stretch of a walk leads to.
-/
namespace PlatformLauncher.Tree

inductive Landing where
  | found (place : Location) (entry : Entry)
  | vacant (place : Location)
  | lost (fault : Fault)
deriving DecidableEq, Repr

inductive Stage where
  | landed (l : Landing)
  | turned (directory : Location) (target : Path) (rest : List Text)
deriving DecidableEq, Repr

def nameLimit : Nat := 255
def pathLimit : Nat := 4096
def linkLimit : Nat := 40

/-- Goes on from a directory up to the first link. The last name may be a link that is not followed. -/
def advance (t : Tree) (follow : Bool) : Location → List Text → Stage
  | here, [] => .landed (.found here .directory)
  | here, name :: rest =>
    if name = ['.'] then advance t follow here rest
    else if name = ['.', '.'] then advance t follow here.parent rest
    else if nameLimit < (Octets.encode name).length then .landed (.lost .nameTooLong)
    else
      match t.get? (name :: here) with
      | none => .landed (if rest.isEmpty then .vacant (name :: here) else .lost .notFound)
      | some .directory => advance t follow (name :: here) rest
      | some (.file content) =>
        .landed (if rest.isEmpty then .found (name :: here) (.file content) else .lost .notDirectory)
      | some (.link target) =>
        if rest.isEmpty && !follow then .landed (.found (name :: here) (.link target))
        else .turned here target rest

def start (here : Location) (p : Path) : Location := if Path.isAbsolute p then [] else here

theorem get?_start {t : Tree} {here : Location} (stands : t.get? here = some .directory) (p : Path) :
    t.get? (start here p) = some .directory := by
  unfold start
  split
  · rfl
  · exact stands

/-- The landing, and whether a slash behind the last name asks for a directory. -/
def walk (t : Tree) (follow : Bool) : Nat → Location → List Text → Bool → Landing × Bool
  | links, here, names, slash =>
    match advance t follow here names with
    | .landed l => (l, slash)
    | .turned directory target rest =>
      match links with
      | 0 => (.lost .tooManyLinks, slash)
      | links + 1 =>
        walk t follow links (start directory target) (Path.names target ++ rest)
          (slash || (rest.isEmpty && Path.endsInSlash target))

section Walking

variable {t : Tree} {follow : Bool} {links : Nat} {here directory : Location} {names rest : List Text}
  {target : Path}

theorem walk_of_landed {r : Landing} (landed : advance t follow here names = .landed r)
    (slash : Bool) : walk t follow links here names slash = (r, slash) := by
  rw [walk, landed]

theorem walk_of_turned (turned : advance t follow here names = .turned directory target rest)
    (slash : Bool) : walk t follow (links + 1) here names slash =
      walk t follow links (start directory target) (Path.names target ++ rest)
        (slash || (rest.isEmpty && Path.endsInSlash target)) := by
  rw [walk, turned]

theorem walk_zero_of_turned (turned : advance t follow here names = .turned directory target rest)
    (slash : Bool) : walk t follow 0 here names slash = (.lost .tooManyLinks, slash) := by
  rw [walk, turned]

end Walking

def stretch (t : Tree) : Location → List Text → List Location
  | _, [] => []
  | here, name :: rest =>
    if name = ['.'] then stretch t here rest
    else if name = ['.', '.'] then stretch t here.parent rest
    else
      (name :: here) ::
        match t.get? (name :: here) with
        | some .directory => stretch t (name :: here) rest
        | _ => []

def passed (t : Tree) : Nat → Location → List Text → List Location
  | links, here, names =>
    stretch t here names ++
      match advance t true here names, links with
      | .turned directory target rest, links + 1 =>
        passed t links (start directory target) (Path.names target ++ rest)
      | _, _ => []

def pathFault? (p : Path) : Option Fault :=
  if p.contains '\x00' then some .nullInName
  else if p.isEmpty then some .notFound
  else if pathLimit ≤ (Octets.encode p).length then some .nameTooLong
  else none

def locate (t : Tree) (follow : Bool) (here : Location) (p : Path) : Landing × Bool :=
  match pathFault? p with
  | some fault => (.lost fault, false)
  | none => walk t follow linkLimit (start here p) (Path.names p) (Path.endsInSlash p)

end PlatformLauncher.Tree
