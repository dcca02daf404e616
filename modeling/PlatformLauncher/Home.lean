import PlatformLauncher.Advice
import PlatformLauncher.Failure
import PlatformLauncher.Text.Lines
import PlatformLauncher.Tree.Listing

/-!
The home directory of the platform: how it is chosen and made, and the env file that keeps it for
later shells. Main statement: `EnvFile.find?_line_append`, the first line that exports a home is the
one that counts.
-/
namespace PlatformLauncher

namespace Home

def envName : Text := "VOLTTRON_HOME".toList

def promptText (default : Path) : Text :=
  "Enter ".toList ++ envName ++ " directory (default: ".toList ++ default ++ "): ".toList

def default (cwd : Path) (dirName : Text) : Path := Path.join cwd dirName

/-- An answer is taken as it stands; an empty one means the default. -/
def resolve (answer : Option Text) (default : Path) : Path :=
  match answer with
  | some text => if text.isEmpty then default else text
  | none => default

def creationFailure (home : Path) (fault : Fault) : Failure :=
  .context
    (if fault.isRefusal then Advice.permissionDenied home "create directory".toList
     else "Failed to create ".toList ++ envName ++ ": ".toList ++ home)
    (.fault fault)

def ensure (t : Tree) (here : Location) (home : Path) : Tree × Option Failure :=
  let (t, fault) := t.makeDirectories here home
  (t, fault.map (creationFailure home))

end Home

namespace EnvFile

def opening : Text := "export ".toList ++ Home.envName ++ "=\"".toList

/-- The line that a shell reads; the home stands in it unescaped. -/
def line (home : Path) : Text := opening ++ home ++ ['"']

def home? (line : Text) : Option Path :=
  (Text.dropPrefix? opening line).bind (Text.dropSuffix? ['"'])

def find? (text : Text) : Option Path := (Text.lines text).findSome? home?

@[simp] theorem home?_line (home : Path) : home? (line home) = some home := by
  unfold home? line
  rw [List.append_assoc, Text.dropPrefix?_append, Option.bind_some]
  exact Text.dropSuffix?_eq_some_iff.2 rfl

theorem find?_line_append {home : Path} (h : '\n' ∉ home) (rest : Text) :
    find? (line home ++ '\n' :: rest) = some home := by
  have free : '\n' ∉ line home := by
    have : '\n' ∉ opening := by decide
    simp [line, this, h]
  have bare : ¬ ['\r'] <:+ line home := by
    rintro ⟨r, e⟩
    have last := congrArg List.getLast? e
    simp [line] at last
  simp [find?, Text.lines_append_feed free, Text.dropReturn_of_bare bare]

def write (t : Tree) (here : Location) (envFile home : Path) : Except Failure Tree :=
  match t.write here envFile (Octets.encode (line home ++ ['\n'])) with
  | .ok t => .ok t
  | .error fault =>
    .error (.context ("Failed to write env file: ".toList ++ envFile) (.fault fault))

def read (t : Tree) (here : Location) (envFile : Path) : Except Failure (Option Path) :=
  match t.readText here envFile with
  | .ok text => .ok (find? text)
  | .error .notFound => .ok none
  | .error fault =>
    .error (.context ("Failed to read env file: ".toList ++ envFile) (.fault fault))

end EnvFile

/-- The home for the commands after the bootstrap: named, or from the environment, or from the env
file, in this order. -/
def Home.locate (t : Tree) (here : Location) (named : Option Path) (fromEnv : Option Text)
    (envFile : Path) : Except Failure (Option Path) :=
  match named, fromEnv with
  | some home, _ => .ok (some home)
  | none, some home => if home.isEmpty then EnvFile.read t here envFile else .ok (some home)
  | none, none => EnvFile.read t here envFile

end PlatformLauncher
