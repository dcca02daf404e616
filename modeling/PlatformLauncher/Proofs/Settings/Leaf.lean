import Mathlib
import PlatformLauncher.Failure
import PlatformLauncher.Settings.Decode

/-!
The settings leaf by leaf: what can be set on its own, where it stands among layered values, and what
is read there. Main statements: `decode_of_holds`, a value whose every leaf reads as the settings have
it reads as these settings, and for the numbers of the polling `decode_poll`, `decodePoll_attempts` and
`decodePoll_intervalMs`, the other way round.
-/
namespace PlatformLauncher.Settings
open Layered

inductive Kind where
  | packages
  | text
  | texts
  | word32
  | word64
deriving DecidableEq, Repr

namespace Kind

def Value : Kind → Type
  | packages => List PackageEntry
  | text => Text
  | texts => List Text
  | word32 => UInt32
  | word64 => UInt64

def decode : (k : Kind) → Decoder k.Value
  | packages => decodeList decodePackage
  | text => decodeText
  | texts => decodeList decodeText
  | word32 => decodeUInt32
  | word64 => decodeUInt64

end Kind

inductive Leaf where
  | packages
  | installerProgram
  | installerArgs
  | defaultDirName
  | envFile
  | daemonProgram
  | daemonArgs
  | logFile
  | probeProgram
  | probeArgs
  | shutdownProgram
  | shutdownArgs
  | attempts
  | intervalMs
deriving DecidableEq, Repr

namespace Leaf

def kind : Leaf → Kind
  | packages => .packages
  | installerProgram | defaultDirName | envFile | daemonProgram | logFile | probeProgram
  | shutdownProgram => .text
  | installerArgs | daemonArgs | probeArgs | shutdownArgs => .texts
  | attempts => .word32
  | intervalMs => .word64

def path : Leaf → List Text
  | packages => ["packages".toList]
  | installerProgram => ["installer".toList, "program".toList]
  | installerArgs => ["installer".toList, "args".toList]
  | defaultDirName => ["home".toList, "default_dir_name".toList]
  | envFile => ["home".toList, "env_file".toList]
  | daemonProgram => ["daemon".toList, "program".toList]
  | daemonArgs => ["daemon".toList, "args".toList]
  | logFile => ["daemon".toList, "log_file".toList]
  | probeProgram => ["probe".toList, "program".toList]
  | probeArgs => ["probe".toList, "args".toList]
  | shutdownProgram => ["shutdown".toList, "program".toList]
  | shutdownArgs => ["shutdown".toList, "args".toList]
  | attempts => ["poll".toList, "attempts".toList]
  | intervalMs => ["poll".toList, "interval_ms".toList]

def top (l : Leaf) : Text := l.path.headD []

def key (l : Leaf) : Text := Text.joinWith ['.'] l.path

theorem path_injective {l m : Leaf} (h : l.path = m.path) : l = m := by
  revert h
  cases l <;> cases m <;> decide

theorem path_cases (l : Leaf) : l = packages ∨ ∃ key field, l.path = [key, field] := by
  cases l
  case packages => exact .inl rfl
  all_goals exact .inr ⟨_, _, rfl⟩

theorem path_of_top {l m : Leaf} {key field : Text} (hl : l.path = [key, field])
    (top : m.top = key) : ∃ field', m.path = [key, field'] := by
  rcases m.path_cases with rfl | ⟨key', field', hm⟩
  · subst top
    cases l <;> simp [path, Leaf.top] at hl
  · exact ⟨field', by rw [hm, ← top, Leaf.top, hm]; rfl⟩

theorem eq_packages_of_top {l : Leaf} (h : l.top = "packages".toList) : l = packages := by
  revert h
  cases l <;> decide

theorem lower_path (l : Leaf) : ∀ key ∈ l.path, Text.lower key = key := by
  cases l <;> decide

end Leaf

def get (s : Settings) : (l : Leaf) → l.kind.Value
  | .packages => s.packages
  | .installerProgram => s.installer.program
  | .installerArgs => s.installer.args
  | .defaultDirName => s.home.defaultDirName
  | .envFile => s.home.envFile
  | .daemonProgram => s.daemon.program
  | .daemonArgs => s.daemon.args
  | .logFile => s.daemon.logFile
  | .probeProgram => s.probe.program
  | .probeArgs => s.probe.args
  | .shutdownProgram => s.shutdown.program
  | .shutdownArgs => s.shutdown.args
  | .attempts => s.poll.attempts
  | .intervalMs => s.poll.intervalMs

def ofLeaves (value : (l : Leaf) → l.kind.Value) : Settings where
  packages := value .packages
  installer := ⟨value .installerProgram, value .installerArgs⟩
  home := ⟨value .defaultDirName, value .envFile⟩
  daemon := ⟨value .daemonProgram, value .daemonArgs, value .logFile⟩
  probe := ⟨value .probeProgram, value .probeArgs⟩
  shutdown := ⟨value .shutdownProgram, value .shutdownArgs⟩
  poll := ⟨value .attempts, value .intervalMs⟩

@[simp] theorem get_ofLeaves (value : (l : Leaf) → l.kind.Value) (l : Leaf) :
    (ofLeaves value).get l = value l := by
  cases l <;> rfl

@[simp] theorem ofLeaves_get (s : Settings) : ofLeaves s.get = s := rfl

end Settings

namespace Layered

def at? : List Text → Layered → Option Layered
  | [], t => some t
  | key :: rest, t => (t.get? key).bind (at? rest)

theorem at?_single (key : Text) (t : Layered) : at? [key] t = t.get? key := by
  simp [at?]

theorem at?_pair (key field : Text) (t : Layered) :
    at? [key, field] t = ((t.get? key).getD (table none [])).get? field := by
  rw [at?]
  cases t.get? key with
  | none => rfl
  | some part => simp [at?_single]

theorem at?_put (t : Layered) (key k : Text) (rest : List Text) (v : Layered) :
    at? (k :: rest) (t.put key v) =
      if Text.lower k = Text.lower key then at? rest v else at? (k :: rest) t := by
  rw [at?, get?_put]
  split
  · rfl
  · rfl

def Reads {α : Type} (root : Layered) (path : List Text) (decode : Decoder α) (x : α) : Prop :=
  ∃ w, at? path root = some w ∧ decode w = .ok x

namespace Reads
variable {α : Type} {decode : Decoder α} {x : α} {root part : Layered} {key field : Text}

theorem split (h : Reads root [key, field] decode x) :
    ∃ part, root.get? key = some part ∧ Reads part [field] decode x := by
  obtain ⟨w, hw, hx⟩ := h
  rw [at?] at hw
  obtain ⟨part, hp, hw⟩ := Option.bind_eq_some_iff.1 hw
  exact ⟨part, hp, w, hw, hx⟩

theorem within (h : Reads root [key, field] decode x) (hp : root.get? key = some part) :
    Reads part [field] decode x := by
  obtain ⟨part', hp', hx⟩ := h.split
  cases hp.symm.trans hp'
  exact hx

theorem fields (h : Reads part [field] decode x) (record : Text) :
    Fields.of record part = .ok (.named part.entries) := by
  obtain ⟨w, hw, -⟩ := h
  rw [at?_single] at hw
  cases part with
  | scalar o s => simp [get?, entries] at hw
  | list o xs => simp [get?, entries] at hw
  | table o es => rfl

theorem read (h : Reads part [field] decode x) (lowered : Text.lower field = field) (i : Nat) :
    (Fields.named part.entries).read i field decode = .ok (some x) := by
  obtain ⟨w, hw, hx⟩ := h
  rw [at?_single, get?, lowered] at hw
  simp [Fields.read, hw, hx, Except.mapError, Except.map]

theorem command {c : Command} (hp : Reads root [key, "program".toList] decodeText c.program)
    (ha : Reads root [key, "args".toList] (decodeList decodeText) c.args) :
    Reads root [key] decodeCommand c := by
  obtain ⟨part, inRoot, program⟩ := hp.split
  have args := ha.within inRoot
  refine ⟨part, (at?_single _ _).trans inRoot, ?_⟩
  simp only [decodeCommand, program.fields, program.read (by decide) 0, args.read (by decide) 1,
    Fields.need, bind, Except.bind, pure, Except.pure, Option.getD_some]

theorem home {c : HomeSettings}
    (hd : Reads root [key, "default_dir_name".toList] decodeText c.defaultDirName)
    (he : Reads root [key, "env_file".toList] decodeText c.envFile) :
    Reads root [key] decodeHome c := by
  obtain ⟨part, inRoot, dirName⟩ := hd.split
  have envFile := he.within inRoot
  refine ⟨part, (at?_single _ _).trans inRoot, ?_⟩
  simp only [decodeHome, dirName.fields, dirName.read (by decide) 0, envFile.read (by decide) 1,
    Fields.need, bind, Except.bind, pure, Except.pure]

theorem daemon {c : DaemonSettings} (hp : Reads root [key, "program".toList] decodeText c.program)
    (ha : Reads root [key, "args".toList] (decodeList decodeText) c.args)
    (hl : Reads root [key, "log_file".toList] decodeText c.logFile) :
    Reads root [key] decodeDaemon c := by
  obtain ⟨part, inRoot, program⟩ := hp.split
  have args := ha.within inRoot
  have logFile := hl.within inRoot
  refine ⟨part, (at?_single _ _).trans inRoot, ?_⟩
  simp only [decodeDaemon, program.fields, program.read (by decide) 0, args.read (by decide) 1,
    logFile.read (by decide) 2, Fields.need, bind, Except.bind, pure, Except.pure]

theorem poll {c : PollSettings}
    (ha : Reads root [key, "attempts".toList] decodeUInt32 c.attempts)
    (hi : Reads root [key, "interval_ms".toList] decodeUInt64 c.intervalMs) :
    Reads root [key] decodePoll c := by
  obtain ⟨part, inRoot, attempts⟩ := ha.split
  have intervalMs := hi.within inRoot
  refine ⟨part, (at?_single _ _).trans inRoot, ?_⟩
  simp only [decodePoll, attempts.fields, attempts.read (by decide) 0,
    intervalMs.read (by decide) 1, Fields.need, bind, Except.bind, pure, Except.pure]

end Reads

section Inversion

variable {part root w : Layered}

theorem Fields.of_get? {record key : Text} {f : Fields} (h : Fields.of record part = .ok f)
    (hw : part.get? key = some w) : f = .named part.entries := by
  cases part with
  | table o es =>
    cases h
    rfl
  | scalar | list => cases hw

theorem Fields.of_read {α : Type} {decode : Decoder α} {name : Text} {i : Nat} {o : Option α}
    (h : (Fields.named part.entries).read i name decode = .ok o) (hw : part.get? name = some w)
    (lowered : Text.lower name = name) : ∃ x, decode w = .ok x ∧ o = some x := by
  rw [get?, lowered] at hw
  simp only [Fields.read, hw] at h
  cases hd : decode w with
  | error fault => simp [hd, Except.mapError, Except.map] at h
  | ok x =>
    simp only [hd, Except.mapError, Except.map, Except.ok.injEq] at h
    exact ⟨x, rfl, h.symm⟩

theorem decodePoll_attempts {c : PollSettings} (h : decodePoll part = .ok c)
    (hw : part.get? "attempts".toList = some w) : decodeUInt32 w = .ok c.attempts := by
  obtain ⟨f, hf, h⟩ := bind_eq_ok h
  obtain rfl := Fields.of_get? hf hw
  obtain ⟨attempts, ha, h⟩ := bind_eq_ok h
  obtain ⟨x, decoded, rfl⟩ := Fields.of_read ha hw (by decide)
  obtain ⟨intervalMs, -, h⟩ := bind_eq_ok h
  obtain ⟨attempts, same, h⟩ := bind_eq_ok h
  cases same
  obtain ⟨intervalMs, -, h⟩ := bind_eq_ok h
  cases h
  exact decoded

theorem decodePoll_intervalMs {c : PollSettings} (h : decodePoll part = .ok c)
    (hw : part.get? "interval_ms".toList = some w) : decodeUInt64 w = .ok c.intervalMs := by
  obtain ⟨f, hf, h⟩ := bind_eq_ok h
  obtain rfl := Fields.of_get? hf hw
  obtain ⟨attempts, -, h⟩ := bind_eq_ok h
  obtain ⟨intervalMs, hi, h⟩ := bind_eq_ok h
  obtain ⟨x, decoded, rfl⟩ := Fields.of_read hi hw (by decide)
  obtain ⟨attempts, -, h⟩ := bind_eq_ok h
  obtain ⟨intervalMs, same, h⟩ := bind_eq_ok h
  cases same
  cases h
  exact decoded

theorem decode_poll {s : Settings} (h : root.decode = .ok s)
    (hp : root.get? "poll".toList = some part) : decodePoll part = .ok s.poll := by
  obtain ⟨f, hf, h⟩ := bind_eq_ok h
  obtain rfl := Fields.of_get? hf hp
  obtain ⟨packages, -, h⟩ := bind_eq_ok h
  obtain ⟨installer, -, h⟩ := bind_eq_ok h
  obtain ⟨home, -, h⟩ := bind_eq_ok h
  obtain ⟨daemon, -, h⟩ := bind_eq_ok h
  obtain ⟨probe, -, h⟩ := bind_eq_ok h
  obtain ⟨shutdown, -, h⟩ := bind_eq_ok h
  obtain ⟨poll, hr, h⟩ := bind_eq_ok h
  obtain ⟨x, decoded, rfl⟩ := Fields.of_read hr hp (by decide)
  cases h
  exact decoded

end Inversion

end Layered

namespace Settings
open Layered

def Holds (root : Layered) (l : Leaf) (x : l.kind.Value) : Prop := Reads root l.path l.kind.decode x

theorem decode_of_holds {root : Layered} {s : Settings} (h : ∀ l, Holds root l (s.get l)) :
    root.decode = .ok s := by
  have packages : Reads root ["packages".toList] (decodeList decodePackage) s.packages :=
    h .packages
  have installer : Reads root ["installer".toList] decodeCommand s.installer :=
    .command (h .installerProgram) (h .installerArgs)
  have home : Reads root ["home".toList] decodeHome s.home := .home (h .defaultDirName) (h .envFile)
  have daemon : Reads root ["daemon".toList] decodeDaemon s.daemon :=
    .daemon (h .daemonProgram) (h .daemonArgs) (h .logFile)
  have probe : Reads root ["probe".toList] decodeCommand s.probe :=
    .command (h .probeProgram) (h .probeArgs)
  have shutdown : Reads root ["shutdown".toList] decodeCommand s.shutdown :=
    .command (h .shutdownProgram) (h .shutdownArgs)
  have poll : Reads root ["poll".toList] decodePoll s.poll := .poll (h .attempts) (h .intervalMs)
  simp only [decode, packages.fields, packages.read (by decide) 0, installer.read (by decide) 1,
    home.read (by decide) 2, daemon.read (by decide) 3, probe.read (by decide) 4,
    shutdown.read (by decide) 5, poll.read (by decide) 6, bind, Except.bind, pure, Except.pure,
    Option.getD_some]

end Settings

end PlatformLauncher
