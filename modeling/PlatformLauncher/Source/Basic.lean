import PlatformLauncher.Source.Url
import PlatformLauncher.Tree.Access

/-!
Where a package is installed from. A web address is one whatever files there are; directories and
wheels are recognised by what the path leads to, and are handed on as paths without links.
-/
namespace PlatformLauncher

inductive Source where
  | url (address : Text)
  | wheel (path : Path)
  | directory (path : Path)
  | registry (name : Text)
deriving DecidableEq, Repr

namespace Source

def wheelEnding : Text := ".whl".toList

def absolute (t : Tree) (here : Location) (p : Path) : Path := (t.canonical? here p).getD p

def classify (t : Tree) (here : Location) (s : Text) : Source :=
  if Url.isUrl s then .url s
  else if t.isDirectory here s then .directory (absolute t here s)
  else if t.isFile here s && Text.endsWith s wheelEnding then .wheel (absolute t here s)
  else .registry s

def kind : Source → Text
  | url _ => "url".toList
  | wheel _ => "wheel".toList
  | directory _ => "directory".toList
  | registry _ => "registry".toList

def arg : Source → Text
  | url s | wheel s | directory s | registry s => s

def describe (s : Source) : Text :=
  (match s with
    | directory _ => "editable package from ".toList
    | wheel _ => "from wheel ".toList
    | url _ => "from URL: ".toList
    | registry _ => "from the package registry: ".toList) ++ s.arg

def isEditable : Source → Bool
  | directory _ => true
  | _ => false

end Source

end PlatformLauncher
