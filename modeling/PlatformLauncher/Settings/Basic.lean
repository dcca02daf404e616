import PlatformLauncher.Path

/-!
The settings of the launcher and what they are when nothing is configured.
-/
namespace PlatformLauncher

structure PackageEntry where
  name : Text
  localDir : Option Path
deriving DecidableEq, Repr

structure Command where
  program : Text
  args : List Text
deriving DecidableEq, Repr

structure HomeSettings where
  defaultDirName : Text
  envFile : Path
deriving DecidableEq, Repr

structure DaemonSettings where
  program : Text
  args : List Text
  logFile : Text
deriving DecidableEq, Repr

structure PollSettings where
  attempts : UInt32
  intervalMs : UInt64
deriving DecidableEq, Repr

structure Settings where
  packages : List PackageEntry
  installer : Command
  home : HomeSettings
  daemon : DaemonSettings
  probe : Command
  shutdown : Command
  poll : PollSettings
deriving DecidableEq, Repr

namespace PackageEntry

/-- The checkout, by default next to the working directory under the name of the package. -/
def checkout (p : PackageEntry) : Path :=
  match p.localDir with
  | some dir => dir
  | none => Path.join "..".toList p.name

end PackageEntry

namespace Command

def display (c : Command) : Text := Text.joinWith [' '] (c.program :: c.args)

end Command

namespace DaemonSettings

def command (d : DaemonSettings) : Command := ⟨d.program, d.args⟩

end DaemonSettings

namespace Settings

def standard : Settings where
  packages := [⟨"volttron-lib-zmq".toList, none⟩, ⟨"volttron-lib-auth".toList, none⟩]
  installer := ⟨"pip".toList, ["install".toList]⟩
  home := ⟨"volttron_home".toList, ".volttron_env".toList⟩
  daemon :=
    ⟨"volttron".toList, ["-vv".toList, "-l".toList, "volttron.log".toList],
      "volttron.log".toList⟩
  probe := ⟨"vctl".toList, ["status".toList]⟩
  shutdown := ⟨"vctl".toList, ["shutdown".toList, "--platform".toList]⟩
  poll := ⟨30, 1000⟩

end Settings

end PlatformLauncher
