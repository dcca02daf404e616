import PlatformLauncher.Number.Numeral
import PlatformLauncher.Path

/-!
Messages for the operator that say what to try next. Colours are terminal escapes.
-/
namespace PlatformLauncher.Advice

def yellow (s : Text) : Text := "\x1b[1;33m".toList ++ s ++ "\x1b[0m".toList
def green (s : Text) : Text := "\x1b[1;32m".toList ++ s ++ "\x1b[0m".toList
def cyan (s : Text) : Text := "\x1b[36m".toList ++ s ++ "\x1b[0m".toList
def brightCyan (s : Text) : Text := "\x1b[1;36m".toList ++ s ++ "\x1b[0m".toList

def withSuggestion (problem suggestion : Text) : Text :=
  problem ++ "\n\n".toList ++ yellow "Suggestion:".toList ++ ' ' :: suggestion

def configParse (problem : Text) : Text :=
  "Failed to parse config file\n\n".toList ++ yellow "Error:".toList ++ ' ' :: problem ++
    "\n\n".toList ++ green "Try:".toList ++
    "\n1. Print the effective configuration:\n".toList ++
    cyan "volttron-bootstrap show-config".toList ++
    "\n\n2. Move the file aside and fall back to defaults:\n".toList ++
    cyan ("mv ~/.volttron-bootstrap/config.toml ".toList ++
      "~/.volttron-bootstrap/config.toml.backup".toList) ++
    "\n\n3. Common mistakes:\n• Missing quotes around strings\n• Unclosed brackets []\n".toList ++
    "• Non-numeric poll.attempts or poll.interval_ms".toList

def fileNotFound (path : Path) (description : Text) : Text :=
  description ++ " not found: ".toList ++ path ++ "\n\n".toList ++ green "Try:".toList ++
    "\n1. Check if file exists:\n".toList ++ cyan ("ls -la ".toList ++ path) ++
    "\n\n2. Omit --config to use ~/.volttron-bootstrap/config.toml or the defaults".toList

def permissionDenied (path : Path) (operation : Text) : Text :=
  "Permission denied: cannot ".toList ++ operation ++ ' ' :: path ++ "\n\n".toList ++
    yellow "Possible causes:".toList ++
    "\n• Insufficient file permissions\n• Parent directory owned by another user\n\n".toList ++
    green "Try:".toList ++ "\n1. Check parent directory permissions:\n".toList ++
    cyan ("ls -la $(dirname \"".toList ++ path ++ "\")".toList) ++
    "\n\n2. Choose a VOLTTRON_HOME under your own home directory".toList

def readinessTimeout (seconds : Nat) (logFile : Text) : Text :=
  yellow "[WARN]".toList ++ " VOLTTRON did not become ready within ".toList ++
    Numeral.ofNat seconds ++ " seconds.\nCheck the log for details:\n  ".toList ++
    cyan ("tail -f ".toList ++ logFile)

end PlatformLauncher.Advice
