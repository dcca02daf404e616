import PlatformLauncher.Number.Shortest
import PlatformLauncher.Settings.Layer
import PlatformLauncher.Text.Properties

/-!
From layered values to settings. Texts and numbers are converted where that loses nothing the reader
asked for; a message about a value names its key and where it came from.
-/
namespace PlatformLauncher

inductive DecodeFault where
  | mistyped (problem : Text) (key : Option Text) (origin : Option Text)
  | misshapen (problem : Text)
deriving DecidableEq, Repr

namespace DecodeFault

def message : DecodeFault → Text
  | mistyped problem key origin =>
    problem ++
      (match key with
        | some key => " for key `".toList ++ key ++ "`".toList
        | none => []) ++
      match origin with
      | some origin => " in ".toList ++ origin
      | none => []
  | misshapen problem => problem

/-- The fault as seen from the table that holds the value; no point stands before a bracket. -/
def underName (name : Text) : DecodeFault → DecodeFault
  | mistyped problem key origin =>
    let key := key.getD []
    let dot := if key.isEmpty || key.head? = some '[' then [] else ['.']
    mistyped problem (some (name ++ dot ++ key)) origin
  | fault => fault

def underIndex (i : Nat) : DecodeFault → DecodeFault
  | mistyped problem key origin =>
    mistyped problem (some ('[' :: Numeral.ofNat i ++ ']' :: key.getD [])) origin
  | fault => fault

end DecodeFault

namespace Layered

abbrev Decoder (α : Type) := Layered → Except DecodeFault α

def invalidType (found expected : Text) : Text :=
  "invalid type: ".toList ++ found ++ ", expected ".toList ++ expected

def pointed (x : Binary64) : Text :=
  let s := x.toText
  match x with
  | .finite .. => if s.contains '.' then s else s ++ ".0".toList
  | _ => s

def inTicks (s : Text) : Text := '\x60' :: s ++ ['\x60']

def describe : Layered → Text
  | scalar _ .absent => "unit value".toList
  | scalar _ (.boolean b) => "boolean ".toList ++ inTicks (if b then "true".toList else "false".toList)
  | scalar _ (.integer n) => "integer ".toList ++ inTicks (Numeral.ofInt n)
  | scalar _ (.float x) => "floating point ".toList ++ inTicks (pointed x)
  | scalar _ (.text s) => "string ".toList ++ Text.quoted s
  | list .. => "sequence".toList
  | table .. => "map".toList

def misshapen (v : Layered) (expected : Text) : DecodeFault :=
  .misshapen (invalidType v.describe expected)

def mistyped (v : Layered) (expected : Text) : DecodeFault :=
  .mistyped (invalidType v.describe expected) none v.origin?

def decodeText : Decoder Text
  | scalar _ (.text s) => .ok s
  | scalar _ (.boolean b) => .ok (if b then "true".toList else "false".toList)
  | scalar _ (.integer n) => .ok (Numeral.ofInt n)
  | scalar _ (.float x) => .ok x.toText
  | v => .error (v.mistyped "a string".toList)

def spelledNat? (s : Text) : Option Nat :=
  let word := Text.lower s
  if word = "true".toList || word = "on".toList || word = "yes".toList then some 1
  else if word = "false".toList || word = "off".toList || word = "no".toList then some 0
  else (Numeral.readSigned (twoTo 64 - 1) s).toOption

def decodeNat : Decoder Nat
  | scalar o (.integer n) =>
    if 0 ≤ n then .ok n.toNat
    else
      .error (.mistyped
        (invalidType ("64-bit integer ".toList ++ inTicks (Numeral.ofInt n))
          "an unsigned 64 bit or less integer".toList) none o)
  | scalar o (.text s) =>
    match spelledNat? s with
    | some n => .ok n
    | none => .error ((scalar o (.text s)).mistyped "an integer".toList)
  | scalar _ (.boolean b) => .ok (if b then 1 else 0)
  | scalar _ (.float x) => .ok (x.toNatWithin (twoTo 64 - 1))
  | v => .error (v.mistyped "an integer".toList)

def decodeUInt64 : Decoder UInt64 := fun v => (decodeNat v).map UInt64.ofNat

def decodeUInt32 : Decoder UInt32 := fun v =>
  match decodeNat v with
  | .error fault => .error fault
  | .ok n =>
    if n < twoTo 32 then .ok (UInt32.ofNat n)
    else
      .error (.mistyped
        (invalidType ("64-bit unsigned integer ".toList ++ inTicks (Numeral.ofNat n))
          "an unsigned 32 bit integer".toList) none none)

def decodeOption {α : Type} (decode : Decoder α) : Decoder (Option α)
  | scalar _ .absent => .ok none
  | v => (decode v).map some

def decodeItems {α : Type} (decode : Decoder α) : Nat → List Layered → Except DecodeFault (List α)
  | _, [] => .ok []
  | i, v :: rest =>
    match decode v with
    | .error fault => .error (fault.underIndex i)
    | .ok x => (decodeItems decode (i + 1) rest).map (x :: ·)

def decodeList {α : Type} (decode : Decoder α) : Decoder (List α)
  | list _ xs => decodeItems decode 0 xs
  | v => .error (v.misshapen "a sequence".toList)

/-- The parts of a record: by name from a table, or in order from a list. -/
inductive Fields where
  | named (entries : List (Text × Layered))
  | placed (items : List Layered)

namespace Fields

def of (record : Text) : Layered → Except DecodeFault Fields
  | table _ es => .ok (named es)
  | list _ xs => .ok (placed xs)
  | v => .error (v.misshapen ("struct ".toList ++ record))

def read {α : Type} (f : Fields) (i : Nat) (name : Text) (decode : Decoder α) :
    Except DecodeFault (Option α) :=
  match f with
  | named es =>
    match es.lookup name with
    | none => .ok none
    | some v => ((decode v).mapError (DecodeFault.underName name)).map some
  | placed xs =>
    match xs[i]? with
    | none => .ok none
    | some v => ((decode v).mapError (DecodeFault.underIndex i)).map some

def missing (f : Fields) (i : Nat) (name record : Text) (count : Nat) : DecodeFault :=
  match f with
  | named _ => .misshapen ("missing field ".toList ++ inTicks name)
  | placed _ =>
    .misshapen ("invalid length ".toList ++ Numeral.ofNat i ++ ", expected struct ".toList ++
      record ++ " with ".toList ++ Numeral.ofNat count ++ " elements".toList)

def need {α : Type} (f : Fields) (i : Nat) (name record : Text) (count : Nat) :
    Option α → Except DecodeFault α
  | some x => .ok x
  | none => .error (f.missing i name record count)

end Fields

def decodePackage : Decoder PackageEntry := fun v => do
  let record := "PackageEntry".toList
  let f ← Fields.of record v
  let name ← f.read 0 "name".toList decodeText
  let localDir ← f.read 1 "local_dir".toList (decodeOption decodeText)
  let name ← f.need 0 "name".toList record 2 name
  pure ⟨name, localDir.getD none⟩

def decodeCommand : Decoder Command := fun v => do
  let record := "CommandSpec".toList
  let f ← Fields.of record v
  let program ← f.read 0 "program".toList decodeText
  let args ← f.read 1 "args".toList (decodeList decodeText)
  let program ← f.need 0 "program".toList record 2 program
  pure ⟨program, args.getD []⟩

def decodeHome : Decoder HomeSettings := fun v => do
  let record := "HomeConfig".toList
  let f ← Fields.of record v
  let dirName ← f.read 0 "default_dir_name".toList decodeText
  let envFile ← f.read 1 "env_file".toList decodeText
  let dirName ← f.need 0 "default_dir_name".toList record 2 dirName
  let envFile ← f.need 1 "env_file".toList record 2 envFile
  pure ⟨dirName, envFile⟩

def decodeDaemon : Decoder DaemonSettings := fun v => do
  let record := "DaemonConfig".toList
  let f ← Fields.of record v
  let program ← f.read 0 "program".toList decodeText
  let args ← f.read 1 "args".toList (decodeList decodeText)
  let logFile ← f.read 2 "log_file".toList decodeText
  let program ← f.need 0 "program".toList record 3 program
  let args ← f.need 1 "args".toList record 3 args
  let logFile ← f.need 2 "log_file".toList record 3 logFile
  pure ⟨program, args, logFile⟩

def decodePoll : Decoder PollSettings := fun v => do
  let record := "PollConfig".toList
  let f ← Fields.of record v
  let attempts ← f.read 0 "attempts".toList decodeUInt32
  let intervalMs ← f.read 1 "interval_ms".toList decodeUInt64
  let attempts ← f.need 0 "attempts".toList record 2 attempts
  let intervalMs ← f.need 1 "interval_ms".toList record 2 intervalMs
  pure ⟨attempts, intervalMs⟩

def decode : Decoder Settings := fun v => do
  let f ← Fields.of "Config".toList v
  let packages ← f.read 0 "packages".toList (decodeList decodePackage)
  let installer ← f.read 1 "installer".toList decodeCommand
  let home ← f.read 2 "home".toList decodeHome
  let daemon ← f.read 3 "daemon".toList decodeDaemon
  let probe ← f.read 4 "probe".toList decodeCommand
  let shutdown ← f.read 5 "shutdown".toList decodeCommand
  let poll ← f.read 6 "poll".toList decodePoll
  let standard := Settings.standard
  pure
    { packages := packages.getD standard.packages
      installer := installer.getD standard.installer
      home := home.getD standard.home
      daemon := daemon.getD standard.daemon
      probe := probe.getD standard.probe
      shutdown := shutdown.getD standard.shutdown
      poll := poll.getD standard.poll }

end Layered

end PlatformLauncher
