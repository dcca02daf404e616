import PlatformLauncher.Settings.Basic
import PlatformLauncher.Toml.Number

/-!
Values on their way to the settings. Layers are laid over each other: tables entry by entry, anything
else as a whole, and keys without regard to the case of their letters. A value remembers where it
came from, for the messages about it. Main statement: `get?_put`, what an entry holds after a change.
-/
namespace PlatformLauncher

inductive Scalar where
  | absent
  | boolean (b : Bool)
  | integer (n : Int)
  | float (x : Binary64)
  | text (s : Text)
deriving DecidableEq, Repr

inductive Layered where
  | scalar (origin : Option Text) (s : Scalar)
  | list (origin : Option Text) (items : List Layered)
  | table (origin : Option Text) (entries : List (Text × Layered))
deriving Repr

namespace Layered

def nothing : Layered := scalar none .absent

def text (s : Text) : Layered := scalar none (.text s)

def setEntry (key : Text) (v : Layered) : List (Text × Layered) → List (Text × Layered)
  | [] => [(key, v)]
  | (k, old) :: rest => if k = key then (k, v) :: rest else (k, old) :: setEntry key v rest

theorem lookup_setEntry (key k : Text) (v : Layered) (es : List (Text × Layered)) :
    (setEntry key v es).lookup k = if k = key then some v else es.lookup k := by
  induction es with
  | nil =>
    by_cases h : k = key
    · simp [setEntry, h]
    · have : (k == key) = false := beq_eq_false_iff_ne.2 h
      simp [setEntry, List.lookup_cons, this, h]
  | cons e es ih =>
    obtain ⟨k', old⟩ := e
    unfold setEntry
    by_cases h : k' = key
    · rw [if_pos h]
      by_cases hk : k = key
      · simp [h, hk]
      · have : (k == k') = false := beq_eq_false_iff_ne.2 (h ▸ hk)
        simp [List.lookup_cons, this, hk]
    · rw [if_neg h, List.lookup_cons, List.lookup_cons, ih]
      by_cases hk : k = k'
      · subst hk
        simp [h]
      · have : (k == k') = false := beq_eq_false_iff_ne.2 hk
        simp [this]

def origin? : Layered → Option Text
  | scalar o _ | list o _ | table o _ => o

def entries : Layered → List (Text × Layered)
  | table _ es => es
  | _ => []

def tableOrigin : Layered → Option Text
  | table o _ => o
  | _ => none

def get? (t : Layered) (key : Text) : Option Layered := t.entries.lookup (Text.lower key)

def put (t : Layered) (key : Text) (v : Layered) : Layered :=
  table t.tableOrigin (setEntry (Text.lower key) v t.entries)

theorem get?_put (t : Layered) (key k : Text) (v : Layered) :
    (t.put key v).get? k = if Text.lower k = Text.lower key then some v else t.get? k := by
  simp [get?, put, entries, lookup_setEntry]

mutual

def assign (t : Layered) (key : Text) : Layered → Layered
  | table _ incoming => t.put key (assignAll ((t.get? key).getD (table none [])) incoming)
  | scalar o s => t.put key (scalar o s)
  | list o items => t.put key (list o items)

def assignAll (t : Layered) : List (Text × Layered) → Layered
  | [] => t
  | (key, v) :: rest => assignAll (assign t key v) rest

end

mutual

/-- A value of a document, with the document's name. Moments count as their text. -/
def ofToml (origin : Text) : Toml.Value → Layered
  | .text s => scalar (some origin) (.text s)
  | .integer n => scalar (some origin) (.integer n)
  | .float x => scalar (some origin) (.float x)
  | .boolean b => scalar (some origin) (.boolean b)
  | .moment m => scalar (some origin) (.text m.toText)
  | .list items => list (some origin) (ofTomlItems origin items)
  | .table es => table (some origin) (ofTomlEntries origin es)

def ofTomlItems (origin : Text) : List Toml.Value → List Layered
  | [] => []
  | v :: rest => ofToml origin v :: ofTomlItems origin rest

def ofTomlEntries (origin : Text) : List (Text × Toml.Value) → List (Text × Layered)
  | [] => []
  | (key, v) :: rest => (key, ofToml origin v) :: ofTomlEntries origin rest

end

def ofPackage (p : PackageEntry) : Layered :=
  table none (("name".toList, text p.name) ::
    match p.localDir with
    | some dir => [("local_dir".toList, text dir)]
    | none => [])

def ofArgs (args : List Text) : Layered := list none (args.map text)

def ofCommand (c : Command) : Layered :=
  table none [("program".toList, text c.program), ("args".toList, ofArgs c.args)]

def ofSettings (s : Settings) : List (Text × Layered) :=
  [("packages".toList, list none (s.packages.map ofPackage)),
    ("installer".toList, ofCommand s.installer),
    ("home".toList, table none
      [("default_dir_name".toList, text s.home.defaultDirName),
        ("env_file".toList, text s.home.envFile)]),
    ("daemon".toList, table none
      [("program".toList, text s.daemon.program), ("args".toList, ofArgs s.daemon.args),
        ("log_file".toList, text s.daemon.logFile)]),
    ("probe".toList, ofCommand s.probe),
    ("shutdown".toList, ofCommand s.shutdown),
    ("poll".toList, table none
      [("attempts".toList, scalar none (.integer s.poll.attempts.toNat)),
        ("interval_ms".toList, scalar none (.integer s.poll.intervalMs.toNat))])]

end Layered

end PlatformLauncher
