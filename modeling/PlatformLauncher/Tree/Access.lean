import PlatformLauncher.Tree.Walk

/-!
Looking at files, writing them, making directories and links, removing. Every operation that changes
the tree either gives the changed tree or a fault, in which case nothing has changed.
-/
namespace PlatformLauncher.Tree

def status (t : Tree) (here : Location) (p : Path) : Except Fault (Location × Entry) :=
  match t.locate true here p with
  | (.lost fault, _) => .error fault
  | (.vacant _, _) => .error .notFound
  | (.found place .directory, _) => .ok (place, .directory)
  | (.found place entry, slash) => if slash then .error .notDirectory else .ok (place, entry)

def exists_ (t : Tree) (here : Location) (p : Path) : Bool := (t.status here p).toBool

def isDirectory (t : Tree) (here : Location) (p : Path) : Bool :=
  match t.status here p with
  | .ok (_, .directory) => true
  | _ => false

def isFile (t : Tree) (here : Location) (p : Path) : Bool :=
  match t.status here p with
  | .ok (_, .file _) => true
  | _ => false

def nameable (l : Location) : Bool := (Octets.encode l.path).length < pathLimit

/-- The absolute path without dots and links. There is none when it, or the path of a place on the
way, is too long to be looked up. -/
def canonical? (t : Tree) (here : Location) (p : Path) : Option Path :=
  match t.status here p with
  | .ok (place, _) =>
    if (place :: t.passed linkLimit (start here p) (Path.names p)).all nameable then some place.path
    else none
  | .error _ => none

def read (t : Tree) (here : Location) (p : Path) : Except Fault Octets :=
  match t.status here p with
  | .error fault => .error fault
  | .ok (_, .file content) => .ok content
  | .ok _ => .error .isDirectory

def readText (t : Tree) (here : Location) (p : Path) : Except Fault Text :=
  match t.read here p with
  | .error fault => .error fault
  | .ok content =>
    match Octets.decode? content with
    | some text => .ok text
    | none => .error .notUtf8

/-- The fault of opening for writing a path that ends in a slash: the directory before its last name
is looked for first. -/
def slashFault (t : Tree) (here : Location) (p : Path) : Fault :=
  match walk t true linkLimit (start here p) (Path.names p).dropLast false with
  | (.lost fault, _) => fault
  | (.vacant _, _) => .notFound
  | (.found _ .directory, _) => .isDirectory
  | (.found _ _, _) => .notDirectory

/-- Replaces the contents of a file, or makes it; a link that leads nowhere makes its target. -/
def write (t : Tree) (here : Location) (p : Path) (content : Octets) : Except Fault Tree :=
  if (pathFault? p).isNone && Path.endsInSlash p then .error (t.slashFault here p)
  else
    match t.locate true here p with
    | (.lost fault, _) => .error fault
    | (_, true) => .error .isDirectory
    | (.found _ .directory, _) => .error .isDirectory
    | (.found place _, _) => .ok (t.put place (.file content))
    | (.vacant place, _) =>
      if t.isSealed place then .error .denied else .ok (t.put place (.file content))

/-- Makes one directory; a link at its place is in the way, wherever it leads. -/
def makeDirectory (t : Tree) (here : Location) (p : Path) : Except Fault Tree :=
  match t.locate false here p with
  | (.lost fault, _) => .error fault
  | (.found _ _, _) => .error .exists_
  | (.vacant place, _) =>
    if t.isSealed place then .error .denied else .ok (t.put place .directory)

def makeLink (t : Tree) (here : Location) (p target : Path) : Except Fault Tree :=
  match t.locate false here p with
  | (.lost fault, _) => .error fault
  | (.found _ _, _) => .error .exists_
  | (.vacant place, _) =>
    if t.isSealed place then .error .denied else .ok (t.put place (.link target))

def remove (t : Tree) (here : Location) (p : Path) : Except Fault Tree :=
  match t.locate false here p with
  | (.lost fault, _) => .error fault
  | (.vacant _, _) => .error .notFound
  | (.found _ .directory, _) => .error .isDirectory
  | (.found place _, slash) => if slash then .error .notDirectory else .ok (t.erase place)

end PlatformLauncher.Tree
