import PlatformLauncher.Advice
import PlatformLauncher.Failure
import PlatformLauncher.Settings.Check
import PlatformLauncher.Settings.Decode
import PlatformLauncher.Settings.KeyPath
import PlatformLauncher.Toml.Reader
import PlatformLauncher.Tree.Access

/-!
The settings that hold for a run: the standard ones, over them a file, over both the environment. The
name of a variable tells the key, in any case of the letters; its value is taken for a truth value, a
whole number or a float when it reads as one, else as it stands.
-/
namespace PlatformLauncher

namespace Environment

def namePrefix : Text := "volttron_bootstrap__".toList

def origin : Text := "the environment".toList

def key? (name : Text) : Option Text :=
  (Text.dropPrefix? namePrefix (Text.lower name)).map (Text.replace '_' ['_'] ['.'])

def scalar (value : Text) : Scalar :=
  if Text.lower value = "true".toList then .boolean true
  else if Text.lower value = "false".toList then .boolean false
  else
    match Numeral.readInt? value with
    | some n => .integer n
    | none =>
      match Binary64.read? value with
      | some x => .float x
      | none => .text value

def layer (environment : List (Text × Text)) : List (Text × Layered) :=
  environment.filterMap fun (name, value) =>
    (key? name).map fun key => (key, .scalar (some origin) (scalar value))

end Environment

namespace Settings

structure SettingsFile where
  path : Path
  required : Bool
deriving DecidableEq, Repr

def defaultFile (home : Path) : SettingsFile :=
  ⟨Path.join (Path.join home ".volttron-bootstrap".toList) "config.toml".toList, false⟩

def homeDirectory? (environment : List (Text × Text)) : Option Path :=
  (environment.lookup "HOME".toList).filter (!·.isEmpty)

/-- The file of that name, or else of that name with the ending of a TOML file. -/
def findFile? (t : Tree) (here : Location) (p : Path) : Option Path :=
  let exact := Path.join here.path p
  let extended := Path.withExtension "toml".toList (Path.addExtension "dummy".toList exact)
  if t.isFile here exact then some exact
  else if t.isFile here extended then some extended
  else none

def notFoundText (p : Path) : Text :=
  "configuration file \"".toList ++ p ++ "\" not found".toList

def fileText (t : Tree) (here : Location) (p : Path) : Except Text (Text × Text) :=
  match findFile? t here p with
  | none => .error (notFoundText p)
  | some found =>
    match t.readText here found with
    | .ok text => .ok (text, Path.relativeTo here.path found)
    | .error fault => .error fault.message

def badFile (problem : Text) : Failure := .said (Advice.configParse problem)

/-- The layer of a file. Without the file, or with one that is no text, an optional layer is
empty. -/
def fileLayer (t : Tree) (here : Location) (file : SettingsFile) :
    Except Failure (List (Text × Layered)) :=
  match fileText t here file.path with
  | .error problem => if file.required then .error (badFile problem) else .ok []
  | .ok (text, origin) =>
    match Toml.read text with
    | .ok entries => .ok (Layered.ofTomlEntries origin entries)
    | .error line =>
      .error (badFile ("TOML parse error at line ".toList ++ Numeral.ofNat line))

def merged (file environment : List (Text × Layered)) : Layered :=
  (((Layered.table none []).overlayAll (Layered.ofSettings standard)).overlayAll file).overlayAll
    environment

def checked (s : Settings) : Except Failure Settings :=
  match s.flaw? with
  | none => .ok s
  | some flaw => .error (.launcher (.invalidConfig flaw.message))

def ofLayers (file environment : List (Text × Layered)) : Except Failure Settings :=
  match Layered.decode (merged file environment) with
  | .error fault => .error (badFile fault.message)
  | .ok s => checked s

def loadFrom (t : Tree) (here : Location) (file : Option SettingsFile)
    (environment : List (Text × Text)) : Except Failure Settings :=
  match file with
  | none => ofLayers [] (Environment.layer environment)
  | some file =>
    if file.required && !t.exists_ here file.path then
      .error (.said (Advice.fileNotFound file.path "Config file".toList))
    else
      match fileLayer t here file with
      | .error failure => .error failure
      | .ok layer => ofLayers layer (Environment.layer environment)

/-- A file that is named is required; the default file is not. -/
def load (t : Tree) (here : Location) (named : Option Path) (home : Option Path)
    (environment : List (Text × Text)) : Except Failure Settings :=
  match named with
  | some path => loadFrom t here (some ⟨path, true⟩) environment
  | none => loadFrom t here (home.map defaultFile) environment

end Settings

end PlatformLauncher
