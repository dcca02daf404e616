import PlatformLauncher.Tree.Access

/-!
Directories as a whole: making one together with those it lies in, removing one with all that is in it,
listing what it holds. Directories made before a step fails stay.
-/
namespace PlatformLauncher.Tree

abbrev Attempt := Tree × Option Fault

/-- One directory; that it is there already, also through a link, is no fault. -/
def settle (t : Tree) (here : Location) (p : Path) : Attempt :=
  match t.makeDirectory here p with
  | .ok t => (t, none)
  | .error fault => (t, if t.isDirectory here p then none else some fault)

/-- Outer directories are made only when the inner one asks for them. -/
def makeDirectoriesWithin (t : Tree) (here : Location) (p : Path) : List Path → Attempt
  | [] => if p.isEmpty then (t, none) else t.settle here p
  | outer :: further =>
    if p.isEmpty then (t, none)
    else
      match t.makeDirectory here p with
      | .error .notFound =>
        match makeDirectoriesWithin t here outer further with
        | (t, none) => t.settle here p
        | stopped => stopped
      | _ => t.settle here p

def makeDirectories (t : Tree) (here : Location) (p : Path) : Attempt :=
  t.makeDirectoriesWithin here p (Path.ancestors p)

def removeAll (t : Tree) (here : Location) (p : Path) : Tree :=
  match t.locate false here p with
  | (.found place _, _) => t.eraseAll place
  | _ => t

def octetsBefore : Octets → Octets → Bool
  | [], _ => true
  | _ :: _, [] => false
  | a :: s, b :: r => a < b || (a == b && octetsBefore s r)

def listing (t : Tree) (directory : Location) : List (Path × Entry) :=
  let inside := t.entries.filter fun (l, _) => l.isWithin directory && l != directory
  let named := inside.map fun (l, e) =>
    (Text.joinWith ['/'] (l.reverse.drop directory.length), e)
  named.mergeSort fun a b => octetsBefore (Octets.encode a.1) (Octets.encode b.1)

end PlatformLauncher.Tree
