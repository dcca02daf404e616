import PlatformLauncher.Settings.Basic
import PlatformLauncher.Source.Basic

/-!
What the installer is asked for, and what came of it. The argument that names the source is the last
one.
-/
namespace PlatformLauncher.Install

structure Request where
  label : Text
  source : Source
  force : Bool
  preRelease : Bool
deriving DecidableEq, Repr

namespace Request

def plain (label : Text) (source : Source) : Request := ⟨label, source, false, false⟩

def flags (r : Request) : List Text :=
  (if r.force then ["--force-reinstall".toList] else []) ++
    (if r.preRelease then ["--pre".toList] else []) ++
    if r.source.isEditable then ["-e".toList] else []

def args (r : Request) : List Text := r.flags ++ [r.source.arg]

end Request

inductive Status where
  | installed
  | failed (reason : Text)
deriving DecidableEq, Repr

structure Outcome where
  package : Text
  source : Source
  status : Status
deriving DecidableEq, Repr

def Outcome.succeeded (o : Outcome) : Bool := o.status == .installed

/-- The checkout of a package when it is there, else the registry. The path is kept as it is written;
the working directory only anchors the look. -/
def resolve (t : Tree) (here : Location) (p : PackageEntry) (cwd : Path) : Source :=
  if t.isDirectory here (Path.join cwd p.checkout) then .directory p.checkout
  else .registry p.name

end PlatformLauncher.Install
