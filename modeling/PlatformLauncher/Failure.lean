import PlatformLauncher.Fault
import PlatformLauncher.Path

/-!
A failure is a chain of causes, the outermost first. It is shown in three ways: the first link alone,
all links in one line, or the first link with the causes listed below it.
-/
namespace PlatformLauncher

inductive LauncherError where
  | installerUnavailable (program : Text) (cause : Fault)
  | installerFailed (package : Text) (code : Option Int)
  | daemonSpawn (program : Text) (cause : Fault)
  | shutdownFailed (code : Option Int)
  | homeUnknown (envFile : Path)
  | invalidConfig (problem : Text)
deriving DecidableEq, Repr

def describeCode : Option Int → Text
  | some code => "exit code ".toList ++ Numeral.ofInt code
  | none => "no exit code (terminated by signal)".toList

namespace LauncherError

def message : LauncherError → Text
  | installerUnavailable program _ => "Failed to run installer '".toList ++ program ++ ['\'']
  | installerFailed package code =>
    "Installer exited with ".toList ++ describeCode code ++ " while installing ".toList ++ package
  | daemonSpawn program _ => "Failed to start '".toList ++ program ++ ['\'']
  | shutdownFailed code => "Shutdown command exited with ".toList ++ describeCode code
  | homeUnknown envFile =>
    "Could not determine VOLTTRON_HOME (tried --home, $VOLTTRON_HOME and ".toList ++ envFile ++ [')']
  | invalidConfig problem => "Invalid configuration: ".toList ++ problem

def cause? : LauncherError → Option Fault
  | installerUnavailable _ cause | daemonSpawn _ cause => some cause
  | _ => none

end LauncherError

inductive Failure where
  | said (text : Text)
  | fault (f : Fault)
  | launcher (e : LauncherError)
  | context (text : Text) (cause : Failure)
deriving DecidableEq, Repr

namespace Failure

def chain : Failure → List Text
  | said text => [text]
  | fault f => [f.message]
  | launcher e => e.message :: e.cause?.toList.map Fault.message
  | context text cause => text :: chain cause

def launcher? : Failure → Option LauncherError
  | launcher e => some e
  | context _ cause => launcher? cause
  | _ => none

def fault? : Failure → Option Fault
  | fault f => some f
  | context _ cause => fault? cause
  | _ => none

def display (f : Failure) : Text := f.chain.headD []

def inOneLine (f : Failure) : Text := Text.joinWith ": ".toList f.chain

def indented (first margin text : Text) : Text :=
  first ++ Text.joinWith ('\n' :: margin) (Text.pieces '\n' text)

def ordinal (n : Nat) : Text :=
  let digits := Numeral.ofNat n
  List.replicate (5 - digits.length) ' ' ++ digits ++ ": ".toList

def numbered : Nat → List Text → Text
  | _, [] => []
  | n, text :: rest =>
    '\n' :: indented (ordinal n) (List.replicate 7 ' ') text ++ numbered (n + 1) rest

def listed (f : Failure) : Text :=
  match f.chain with
  | [] => []
  | [top] => top
  | [top, cause] =>
    let margin := List.replicate 4 ' '
    top ++ "\n\nCaused by:\n".toList ++ indented margin margin cause
  | top :: causes => top ++ "\n\nCaused by:".toList ++ numbered 0 causes

end Failure

theorem bind_eq_ok {ε α β : Type} {r : Except ε α} {f : α → Except ε β} {y : β}
    (h : r >>= f = .ok y) : ∃ x, r = .ok x ∧ f x = .ok y := by
  cases r with
  | error e => cases h
  | ok x => exact ⟨x, rfl, h⟩

end PlatformLauncher
