import PlatformLauncher.Settings.Basic
import PlatformLauncher.Toml.Printer

/-!
The settings as a TOML document, one block for each package and each section.
-/
namespace PlatformLauncher.Settings

open Toml

def header (name : String) : Text := '[' :: name.toList ++ "]\n".toList

def renderPackage (p : PackageEntry) : Text :=
  "[[packages]]\n".toList ++ Printer.entry "name".toList (Printer.string p.name) ++
    match p.localDir with
    | some dir => Printer.entry "local_dir".toList (Printer.string dir)
    | none => []

/-- An empty list of packages is written as such, so that it is not taken for the default. -/
def renderPackages (packages : List PackageEntry) : List Text :=
  if packages.isEmpty then [Printer.entry "packages".toList (Printer.strings [])]
  else packages.map renderPackage

def renderCommand (name : String) (c : Command) : Text :=
  header name ++ Printer.entry "program".toList (Printer.string c.program) ++
    Printer.entry "args".toList (Printer.strings c.args)

def renderHome (h : HomeSettings) : Text :=
  header "home" ++
    Printer.entry "default_dir_name".toList (Printer.string h.defaultDirName) ++
    Printer.entry "env_file".toList (Printer.string h.envFile)

def renderDaemon (d : DaemonSettings) : Text :=
  header "daemon" ++ Printer.entry "program".toList (Printer.string d.program) ++
    Printer.entry "args".toList (Printer.strings d.args) ++
    Printer.entry "log_file".toList (Printer.string d.logFile)

def renderPoll (p : PollSettings) : Text :=
  header "poll" ++ Printer.entry "attempts".toList (Numeral.ofNat p.attempts.toNat) ++
    Printer.entry "interval_ms".toList (Numeral.ofNat p.intervalMs.toNat)

/-- Nothing when the interval is no whole number of 63 bits, which TOML does not go beyond. -/
def render? (s : Settings) : Option Text :=
  if s.poll.intervalMs.toNat < twoTo 63 then
    some (Printer.document
      (renderPackages s.packages ++
        [renderCommand "installer" s.installer, renderHome s.home, renderDaemon s.daemon,
          renderCommand "probe" s.probe, renderCommand "shutdown" s.shutdown,
          renderPoll s.poll]))
  else none

end PlatformLauncher.Settings
