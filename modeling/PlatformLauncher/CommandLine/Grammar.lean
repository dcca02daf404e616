import PlatformLauncher.Failure

/-!
The arguments of the launcher. Options may stand before and behind the subcommand; each level has its
own, and at each level an option may be given once. An option that takes a value keeps its place
open until the next argument that does not look like an option. The value that is given is checked
when the next option, operand or the end of the level is reached.
-/
namespace PlatformLauncher.CommandLine

inductive Subcommand where
  | bootstrap
  | install
  | status
  | stop
  | showConfig
deriving DecidableEq, Repr

inductive Level where
  | launcher
  | subcommand (c : Subcommand)
deriving DecidableEq, Repr

inductive Switch where
  | home
  | config
  | verbose
  | force
  | preRelease
  | help
  | version
deriving DecidableEq, Repr

inductive Misuse where
  | unknownArgument (arg : Text)
  | unknownSubcommand (arg : Text)
  | missingValue (s : Switch)
  | surplusValue (s : Switch) (value : Text)
  | repeated (s : Switch)
  | missingSource
deriving DecidableEq, Repr

inductive Stop where
  | misuse (m : Misuse)
  | help
  | version
deriving DecidableEq, Repr

namespace Subcommand

def names : List (Text × Subcommand) :=
  [("bootstrap".toList, bootstrap), ("install".toList, install), ("status".toList, status),
    ("stop".toList, stop), ("show-config".toList, showConfig)]

def ofName? (arg : Text) : Option Subcommand := names.lookup arg

def helpName : Text := "help".toList

def isName (arg : Text) : Bool := arg == helpName || (ofName? arg).isSome

end Subcommand

namespace Switch

def takesValue : Switch → Bool
  | home | config => true
  | _ => false

def names : List (Text × Switch) :=
  [("home".toList, home), ("config".toList, config), ("verbose".toList, verbose),
    ("force".toList, force), ("pre".toList, preRelease), ("pre-release".toList, preRelease),
    ("allow-prereleases".toList, preRelease), ("help".toList, help), ("version".toList, version)]

def letters : List (Char × Switch) := [('v', verbose), ('f', force), ('h', help), ('V', version)]

def shown : Switch → Text
  | home => "--home <HOME>".toList
  | config => "--config <CONFIG>".toList
  | verbose => "--verbose".toList
  | force => "--force".toList
  | preRelease => "--pre".toList
  | help => "--help".toList
  | version => "--version".toList

end Switch

namespace Level

def allows : Level → Switch → Bool
  | _, .config | _, .verbose | _, .help => true
  | launcher, .home | launcher, .version => true
  | subcommand .bootstrap, .home | subcommand .status, .home | subcommand .stop, .home => true
  | subcommand .install, .force | subcommand .install, .preRelease => true
  | _, _ => false

def named? (level : Level) (name : Text) : Option Switch :=
  (Switch.names.lookup name).filter level.allows

def lettered? (level : Level) (c : Char) : Option Switch :=
  (Switch.letters.lookup c).filter level.allows

/-- A path has at least one character. The home of a bootstrap is an answer and not yet a path. -/
def refusesEmpty : Level → Switch → Bool
  | _, .config => true
  | subcommand .status, .home | subcommand .stop, .home => true
  | _, _ => false

def takesOperand (level : Level) : Bool := level == subcommand .install

def unexpected (level : Level) (trailing : Bool) (arg : Text) : Misuse :=
  match level with
  | launcher =>
    if trailing && Subcommand.isName arg then .unknownArgument arg else .unknownSubcommand arg
  | subcommand _ => .unknownArgument arg

end Level

structure Given where
  home : Option Text
  config : Option Text
  verbose : Bool
  force : Bool
  preRelease : Bool
  operand : Option Text
deriving DecidableEq, Repr

namespace Given

def empty : Given := ⟨none, none, false, false, false, none⟩

def has (g : Given) : Switch → Bool
  | .home => g.home.isSome
  | .config => g.config.isSome
  | .verbose => g.verbose
  | .force => g.force
  | .preRelease => g.preRelease
  | .help | .version => false

def put (g : Given) (s : Switch) (value : Text) : Given :=
  match s with
  | .home => { g with home := some value }
  | .config => { g with config := some value }
  | .verbose => { g with verbose := true }
  | .force => { g with force := true }
  | .preRelease => { g with preRelease := true }
  | .help | .version => g

def add (level : Level) (g : Given) (s : Switch) (value : Text) : Except Stop Given :=
  if g.has s then .error (.misuse (.repeated s))
  else if value.isEmpty && level.refusesEmpty s then .error (.misuse (.missingValue s))
  else .ok (g.put s value)

end Given

structure Progress where
  given : Given
  /-- the latest option with a value, and the value once it is there -/
  pending : Option (Switch × Option Text)
  trailing : Bool
deriving DecidableEq, Repr

namespace Progress

def start : Progress := ⟨.empty, none, false⟩

def awaitsValue (p : Progress) : Bool := p.pending.any fun (_, value) => value.isNone

def settle (level : Level) (p : Progress) : Except Stop Progress :=
  match p.pending with
  | none => .ok p
  | some (s, none) => .error (.misuse (.missingValue s))
  | some (s, some value) =>
    (p.given.add level s value).map fun given => { p with given, pending := none }

def complete (level : Level) (p : Progress) (s : Switch) (value : Text) : Except Stop Progress := do
  let p ← p.settle level
  match s with
  | .help => throw .help
  | .version => throw .version
  | s => (p.given.add level s value).map fun given => { p with given }

def long (level : Level) (p : Progress) (body : Text) : Except Stop Progress :=
  let (name, value) := match Text.cutAt? '=' body with
    | some (name, value) => (name, some value)
    | none => (body, none)
  match level.named? name, value with
  | none, _ => .error (.misuse (.unknownArgument ('-' :: '-' :: name)))
  | some s, some value =>
    if s.takesValue then p.complete level s value
    else .error (.misuse (.surplusValue s value))
  | some s, none =>
    if s.takesValue then (p.settle level).map fun p => { p with pending := some (s, none) }
    else p.complete level s []

def letter (level : Level) (p : Progress) (c : Char) : Except Stop Progress :=
  match level.lettered? c with
  | some s => p.complete level s []
  | none => .error (.misuse (.unknownArgument ['-', c]))

def operand (level : Level) (p : Progress) (arg : Text) : Except Stop Progress :=
  if level.takesOperand && p.given.operand.isNone then
    (p.settle level).map fun p => { p with given := { p.given with operand := some arg } }
  else .error (.misuse (level.unexpected p.trailing arg))

def step (level : Level) (p : Progress) (arg : Text) : Except Stop Progress :=
  if p.trailing then p.operand level arg
  else
    match arg with
    | ['-', '-'] => .ok { p with trailing := true }
    | '-' :: '-' :: body => p.long level body
    | '-' :: c :: letters => (c :: letters).foldlM (letter level) p
    | arg =>
      match p.pending with
      | some (s, none) => .ok { p with pending := some (s, some arg) }
      | _ => p.operand level arg

def finish (level : Level) (p : Progress) : Except Stop Given := do
  let p ← p.settle level
  if level.takesOperand && p.given.operand.isNone then throw (.misuse .missingSource)
  else pure p.given

end Progress

def readSubcommand (c : Subcommand) (args : List Text) : Except Stop Given := do
  let p ← args.foldlM (Progress.step (.subcommand c)) .start
  p.finish (.subcommand c)

def helpFor : List Text → Stop
  | [] => .help
  | [name] => if Subcommand.isName name then .help else .misuse (.unknownSubcommand name)
  | name :: next :: _ =>
    .misuse (.unknownSubcommand (if Subcommand.isName name then next else name))

structure Levels where
  own : Given
  below : Option (Subcommand × Given)
deriving DecidableEq, Repr

/-- The subcommand is read to its end before the last option in front of it is checked. -/
def readFrom : Progress → List Text → Except Stop Levels
  | p, [] => (p.finish .launcher).map fun own => ⟨own, none⟩
  | p, arg :: rest =>
    if p.trailing || p.awaitsValue then do
      let p ← p.step .launcher arg
      readFrom p rest
    else if arg = Subcommand.helpName then .error (helpFor rest)
    else
      match Subcommand.ofName? arg with
      | some c => do
        let given ← readSubcommand c rest
        let own ← p.finish .launcher
        pure ⟨own, some (c, given)⟩
      | none => do
        let p ← p.step .launcher arg
        readFrom p rest

/-! What is asked for -/

inductive Task where
  | bootstrap (home : Option Text)
  | install (source : Text) (force preRelease : Bool)
  | status (home : Option Path)
  | stop (home : Option Path)
  | showConfig
deriving DecidableEq, Repr

def Subcommand.task (g : Given) : Subcommand → Task
  | bootstrap => .bootstrap g.home
  | install => .install (g.operand.getD []) g.force g.preRelease
  | status => .status g.home
  | stop => .stop g.home
  | showConfig => .showConfig

structure Arguments where
  home : Option Text
  task : Option Task
  config : Option Path
  verbose : Bool
deriving DecidableEq, Repr

namespace Levels

/-- Some options hold for the whole run, wherever they stand; behind the subcommand they weigh
more. -/
def arguments (l : Levels) : Arguments where
  home := l.own.home
  task := l.below.map fun (c, given) => c.task given
  config := (l.below.bind fun (_, given) => given.config) <|> l.own.config
  verbose := l.own.verbose || l.below.any fun (_, given) => given.verbose

end Levels

def parse (args : List Text) : Except Stop Arguments :=
  (readFrom .start args).map Levels.arguments

def misplacedHome : Failure :=
  .said ("--home before the subcommand only applies to bootstrap; ".toList ++
    "pass it after the subcommand".toList)

def Arguments.select (a : Arguments) : Except Failure Task :=
  match a.task, a.home with
  | none, home => .ok (.bootstrap home)
  | some (.bootstrap none), some home => .ok (.bootstrap (some home))
  | some task, none => .ok task
  | some _, some _ => .error misplacedHome

/-! Messages -/

def Misuse.message : Misuse → Text
  | unknownArgument arg => "unexpected argument '".toList ++ arg ++ "' found".toList
  | unknownSubcommand arg => "unrecognized subcommand '".toList ++ arg ++ ['\'']
  | missingValue s =>
    "a value is required for '".toList ++ s.shown ++ "' but none was supplied".toList
  | surplusValue s value =>
    "unexpected value '".toList ++ value ++ "' for '".toList ++ s.shown ++
      "' found; no more were expected".toList
  | repeated s =>
    "the argument '".toList ++ s.shown ++ "' cannot be used multiple times".toList
  | missingSource => "the following required arguments were not provided:\n  <SOURCE>".toList

def programName : Text := "volttron-bootstrap".toList

def versionText : Text := programName ++ " 0.1.0\n".toList

def helpText : Text :=
  ("Install optional VOLTTRON libraries, start the platform, and wait until it is ready\n\n" ++
    "Usage: volttron-bootstrap [OPTIONS] [COMMAND]\n\n" ++
    "Commands:\n" ++
    "  bootstrap    Install libraries, choose VOLTTRON_HOME, start VOLTTRON and wait for it\n" ++
    "  install      Install a library from a directory, wheel, URL or package name\n" ++
    "  status       Check whether the platform is ready\n" ++
    "  stop         Shut the platform down\n" ++
    "  show-config  Print the effective configuration as TOML\n" ++
    "  help         Print this message\n\n" ++
    "Options:\n" ++
    "      --home <HOME>      Use this VOLTTRON_HOME instead of asking (bootstrap only)\n" ++
    "      --config <CONFIG>  Config file\n" ++
    "  -v, --verbose          More on the standard error\n" ++
    "  -h, --help             Print help\n" ++
    "  -V, --version          Print version\n").toList

end PlatformLauncher.CommandLine
