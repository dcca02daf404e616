import PlatformLauncher.Toml.Number

/-!
A TOML document while it is being read. Headers and dotted keys may add to tables that earlier lines
opened, within rules that depend on how a table came to be: by its own header, on the way to a
deeper header, or through a dotted key.
-/
namespace PlatformLauncher.Toml

inductive Origin where
  | declared
  | implied
  | dotted
deriving DecidableEq, Repr

inductive Node where
  | value (v : Value)
  | table (origin : Origin) (entries : List (Text × Node))
  | tables (items : List (List (Text × Node)))

abbrev Table := List (Text × Node)

namespace Table

def set (key : Text) (node : Node) : Table → Table
  | [] => [(key, node)]
  | (k, n) :: rest => if k = key then (k, node) :: rest else (k, n) :: set key node rest

/-- Goes down the keys of a header and changes the table they lead to. Tables on the way are made
when missing; of a list of tables the last one is meant. -/
def within (change : Table → Option Table) : List Text → Table → Option Table
  | [], t => change t
  | key :: rest, t =>
    match t.lookup key with
    | none => (within change rest []).map fun sub => set key (.table .implied sub) t
    | some (.value _) => none
    | some (.table origin sub) =>
      (within change rest sub).map fun sub => set key (.table origin sub) t
    | some (.tables items) =>
      match items.getLast? with
      | none => none
      | some last =>
        (within change rest last).map fun last => set key (.tables (items.dropLast ++ [last])) t

/-- The value at the end of a dotted key. The table that receives it was made by dotted keys, and
none on the way has a header of its own. -/
def insert (v : Value) (key : Text) : List Text → Table → Option Table
  | [], t => if (t.lookup key).isSome then none else some (set key (.value v) t)
  | k :: rest, t =>
    match t.lookup k with
    | none => (insert v key rest []).map fun sub => set k (.table .dotted sub) t
    | some (.table .dotted sub) =>
      (insert v key rest sub).map fun sub => set k (.table .dotted sub) t
    | some (.table .implied sub) =>
      if rest.isEmpty then none
      else (insert v key rest sub).map fun sub => set k (.table .implied sub) t
    | some (.tables items) =>
      match items.getLast? with
      | none => none
      | some last =>
        if rest.isEmpty then none
        else
          (insert v key rest last).map fun last =>
            set k (.tables (items.dropLast ++ [last])) t
    | some _ => none

/-- A header gives a table its name once; before that it may be implied by deeper headers. -/
def declare (key : Text) (t : Table) : Option Table :=
  match t.lookup key with
  | none => some (set key (.table .declared []) t)
  | some (.table .implied sub) => some (set key (.table .declared sub) t)
  | some _ => none

def extend (key : Text) (t : Table) : Option Table :=
  match t.lookup key with
  | none => some (set key (.tables [[]]) t)
  | some (.tables items) => some (set key (.tables (items ++ [[]])) t)
  | some _ => none

end Table

mutual

def Node.toValue : Node → Value
  | .value v => v
  | .table _ entries => .table (entriesToValues entries)
  | .tables items => .list (itemsToValues items)

def entriesToValues : List (Text × Node) → List (Text × Value)
  | [] => []
  | (key, node) :: rest => (key, node.toValue) :: entriesToValues rest

def itemsToValues : List (List (Text × Node)) → List Value
  | [] => []
  | entries :: rest => .table (entriesToValues entries) :: itemsToValues rest

end

end PlatformLauncher.Toml
