import PlatformLauncher.Advice
import PlatformLauncher.Bootstrap.Flow

/-!
Installing the optional packages one after another. A package that cannot be installed is reported
and does not stop the others.
-/
namespace PlatformLauncher.Install

open Bootstrap

def announcement (name : Text) (s : Source) : Text :=
  "Installing ".toList ++ name ++
    match s with
    | .directory dir => " from local checkout ".toList ++ dir ++ " (editable)".toList
    | _ => " from the package registry".toList

def warningSign : Text := Advice.yellow ['⚠']

def warning (name reason : Text) : Text :=
  warningSign ++ "  ".toList ++ name ++ ": ".toList ++ reason

def installOne (deps : Collaborators) (here : Location) (cwd : Path) (p : PackageEntry) :
    Flow Outcome := do
  let source := resolve (← get).tree here p cwd
  Flow.writeLine (announcement p.name source)
  let request := Request.plain p.name source
  let answer ← Flow.consult (.askedInstaller request) fun h t => deps.install h t request
  match answer with
  | .ok () => pure ⟨p.name, source, .installed⟩
  | .error failure =>
    let reason := failure.inOneLine
    Flow.writeLine (warning p.name reason)
    pure ⟨p.name, source, .failed reason⟩

def installAll (deps : Collaborators) (here : Location) (cwd : Path) :
    List PackageEntry → Flow (List Outcome)
  | [] => pure []
  | p :: rest => do
    let outcome ← installOne deps here cwd p
    let more ← installAll deps here cwd rest
    pure (outcome :: more)

end PlatformLauncher.Install
