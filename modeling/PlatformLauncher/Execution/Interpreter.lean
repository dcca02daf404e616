import PlatformLauncher.Execution.Script
import PlatformLauncher.Execution.Utility

/-!
Running a script over a file tree: its words are expanded to fields, the first field names what to run,
and redirections hold for the command they stand at.
-/
namespace PlatformLauncher.Execution.Shell

/-! Words -/

def parameterText (sh : Shell) : Parameter → Text
  | .named name => (sh.setting? name).getD []
  | .position 0 => sh.name
  | .position (n + 1) => (sh.args[n]?).getD []
  | .all | .joined => Text.joinWith [' '] sh.args
  | .count => Numeral.ofNat sh.args.length
  | .status => Numeral.ofNat sh.status
  | .self => Numeral.ofNat sh.self
  | .length name => Numeral.ofNat ((sh.setting? name).getD []).length
  | .ifSet name emptyCounts text =>
    match sh.setting? name with
    | none => []
    | some value => if value.isEmpty && !emptyCounts then [] else text
  | .unlessSet name emptyCounts text =>
    match sh.setting? name with
    | none => text
    | some value => if value.isEmpty && !emptyCounts then text else value
  | .output _ => []

structure Fields where
  complete : List Text
  current : Option Text

namespace Fields

def start : Fields := ⟨[], none⟩

def add (f : Fields) (s : Text) : Fields := { f with current := some (f.current.getD [] ++ s) }

def close (f : Fields) : Fields := ⟨f.complete ++ f.current.toList, none⟩

def addEach (f : Fields) : List Text → Fields
  | [] => f
  | [s] => f.add s
  | s :: rest => ((f.add s).close).addEach rest

/-- All arguments within quotes: without any, there is no field where nothing else stands. -/
def addArguments (f : Fields) (args : List Text) : Fields :=
  if args.isEmpty && f.current == some [] then { f with current := none } else f.addEach args

def addSplit (f : Fields) (s : Text) : Fields :=
  s.foldl (fun f c => if c = ' ' || c = '\t' || c = '\n' then f.close else f.add [c]) f

def addParameter (f : Fields) (sh : Shell) (quoted : Bool) (p : Parameter) : Fields :=
  match p, quoted with
  | .all, true => f.addArguments sh.args
  | .all, false => sh.args.foldl (fun f s => (f.addSplit s).close) f
  | p, true => f.add (sh.parameterText p)
  | p, false => f.addSplit (sh.parameterText p)

end Fields

def asQuoted : WordPart → WordPart
  | .literal _ text => .literal true text
  | .parameter _ p => .parameter true p

def dropFeeds (s : Text) : Text := (s.reverse.dropWhile (· == '\n')).reverse

/-! Redirections -/

def redirect (sh : Shell) (stream : Nat) (kind : RedirectKind) (target : Text) :
    Except Shell Shell :=
  match kind with
  | .read =>
    match sh.openForReading target with
    | .ok (input, inputFrom) => .ok { sh with input, inputFrom }
    | .error fault => .error (sh.blame (cannotOpen target fault) 2)
  | .duplicate => .ok (sh.setStream stream (if target = ['2'] then sh.errors else sh.output))
  | .write | .append =>
    match sh.openForWriting target (kind == .append) with
    | .ok (tree, s) => .ok ({ sh with tree }.setStream stream s)
    | .error fault => .error (sh.blame (cannotCreate target fault) 2)

/-! Commands -/

def missingStatus : Nat := 127

/-- A name with a slash is looked for in the tree, where nothing may be run. -/
def unknown (sh : Shell) (name : Text) : Shell :=
  if !name.contains '/' then sh.blame (name ++ ": not found".toList) missingStatus
  else if sh.tree.exists_ sh.directory name then
    sh.blame (name ++ ": Permission denied".toList) 126
  else sh.blame (name ++ ": not found".toList) missingStatus

mutual

def execute : Nat → Script → Shell → Shell
  | 0, _, sh => sh.finish missingStatus
  | _, [], sh => sh
  | fuel + 1, (join, p) :: rest, sh =>
    let runs := match join with
      | .always => true
      | .onSuccess => sh.status = 0
      | .onFailure => sh.status ≠ 0
    let sh := if runs then pipeline fuel p sh else sh
    if sh.ending.isSome then sh else execute fuel rest sh

def pipeline : Nat → Pipeline → Shell → Shell
  | 0, _, sh => sh.finish missingStatus
  | _, [], sh => sh
  | fuel + 1, [c], sh => command fuel c sh
  | fuel + 1, c :: rest, sh =>
    let inside := command fuel c sh.inner
    let sh' := { sh.adopt inside with input := inside.printed, inputFrom := .printed }
    { pipeline fuel rest sh' with input := sh.input, inputFrom := sh.inputFrom }

def command : Nat → ShellCommand → Shell → Shell
  | 0, _, sh => sh.finish missingStatus
  | fuel + 1, .negated p, sh =>
    let sh := pipeline fuel p sh
    sh.finish (if sh.status = 0 then 1 else 0)
  | fuel + 1, .simple settings words redirects, sh =>
    match expandAll fuel words sh with
    | (fields, sh) =>
      redirected fuel redirects sh fun inside =>
        match assignAll fuel settings (if fields.isEmpty then inside.finish 0 else inside) with
        | set =>
          if fields.isEmpty then set
          else
            let after := call fuel fields set
            if settings.isEmpty then after else { after with environment := inside.environment }
  | fuel + 1, .forEach name items body redirects, sh =>
    match expandAll fuel items sh with
    | (fields, sh) =>
      let step := fun (sh : Shell) value =>
        if sh.ending.isSome then sh else execute fuel body (sh.setVariable name value)
      redirected fuel redirects sh fun inside => fields.foldl step inside
  | fuel + 1, .while_ holds condition body redirects, sh =>
    redirected fuel redirects sh fun inside => repeatWhile fuel holds condition body 0 inside
  | fuel + 1, .branch condition body otherwise redirects, sh =>
    redirected fuel redirects sh fun inside =>
      let inside := execute fuel condition inside
      if inside.ending.isSome then inside
      else if inside.status = 0 then execute fuel body inside
      else execute fuel otherwise (inside.finish 0)
  | fuel + 1, .group apart body redirects, sh =>
    redirected fuel redirects sh fun inside =>
      let after := execute fuel body inside
      if apart then inside.returnFrom after else after

def redirected : Nat → List Redirect → Shell → (Shell → Shell) → Shell
  | 0, _, sh, _ => sh.finish missingStatus
  | fuel + 1, redirects, sh, run =>
    match redirectAll fuel redirects sh with
    | .error sh => sh
    | .ok inside => (run inside).restoreStreams sh (redirects.any (·.kind == .read))

/-- The status is that of the body's last run. -/
def repeatWhile : Nat → Bool → Script → Script → Nat → Shell → Shell
  | 0, _, _, _, _, sh => sh.finish missingStatus
  | fuel + 1, holds, condition, body, status, sh =>
    let sh := execute fuel condition sh
    if sh.ending.isSome then sh
    else if (sh.status == 0) != holds then sh.finish status
    else
      let sh := execute fuel body sh
      if sh.ending.isSome then sh else repeatWhile fuel holds condition body sh.status sh

def assignAll : Nat → List (Text × Word) → Shell → Shell
  | 0, _, sh => sh
  | _ + 1, [], sh => sh
  | fuel + 1, (name, w) :: rest, sh =>
    match expand fuel (w.map asQuoted) .start sh with
    | (f, sh) => assignAll fuel rest (sh.setVariable name (f.close.complete.headD []))

def call : Nat → List Text → Shell → Shell
  | 0, _, sh => sh.finish missingStatus
  | _ + 1, [], sh => sh.finish 0
  | fuel + 1, name :: args, sh =>
    match sh.builtin? name args with
    | some sh => sh
    | none =>
      if name = "sh".toList then sh.returnFrom (interpret fuel args sh)
      else if name = "exec".toList && !args.isEmpty then
        let sh := call fuel args sh
        { sh with ending := sh.ending <|> some (.exited sh.status) }
      else (sh.utility? name args).getD (sh.unknown name)

def interpret : Nat → List Text → Shell → Shell
  | 0, _, sh => sh.finish missingStatus
  | fuel + 1, args, sh =>
    let run := fun script name args =>
      let sh := { sh with name, args, status := 0 }.enter
      match Script.parse? script with
      | some script => execute fuel script sh
      | none => { sh.blame "Syntax error".toList 2 with ending := some (.exited 2) }
    match args with
    | [] => run (Octets.decodeLossy sh.input) "sh".toList []
    | first :: rest =>
      if first = "-c".toList then
        match rest with
        | [] => { sh with ending := some (.exited 2) }
        | script :: names => run script (names.headD "sh".toList) names.tail
      else
        match sh.tree.readText sh.directory first with
        | .ok script => run script first rest
        | .error fault =>
          { sh.complain ("sh: 0: ".toList ++ cannotOpen first fault) with
            ending := some (.exited 2) }

def expandAll : Nat → List Word → Shell → List Text × Shell
  | 0, _, sh => ([], sh)
  | _ + 1, [], sh => ([], sh)
  | fuel + 1, w :: rest, sh =>
    match expand fuel w .start sh with
    | (f, sh) =>
      match expandAll fuel rest sh with
      | (more, sh) => (f.close.complete ++ more, sh)

def expand : Nat → Word → Fields → Shell → Fields × Shell
  | 0, _, f, sh => (f, sh)
  | _ + 1, [], f, sh => (f, sh)
  | fuel + 1, .literal _ s :: rest, f, sh => expand fuel rest (f.add s) sh
  | fuel + 1, .parameter quoted (.output script) :: rest, f, sh =>
    match Script.parse? script with
    | none => expand fuel rest f (sh.finish 2)
    | some parsed =>
      let inside := execute fuel parsed sh.inner
      let text := dropFeeds (Octets.decodeLossy inside.printed)
      expand fuel rest (if quoted then f.add text else f.addSplit text) (sh.adopt inside)
  | fuel + 1, .parameter quoted p :: rest, f, sh =>
    expand fuel rest (f.addParameter sh quoted p) sh

def redirectAll : Nat → List Redirect → Shell → Except Shell Shell
  | 0, _, sh => .error (sh.finish missingStatus)
  | _ + 1, [], sh => .ok sh
  | fuel + 1, r :: rest, sh =>
    match expand fuel r.target .start sh with
    | (f, sh) =>
      match sh.redirect r.stream r.kind ((f.close.complete).headD []) with
      | .ok sh => redirectAll fuel rest sh
      | .error sh => .error sh

end

end PlatformLauncher.Execution.Shell
