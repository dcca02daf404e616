import PlatformLauncher.CommandLine.Run

/-!
The launcher as a program. It takes stock of the part of the file system that a run can be about, lets
the run decide over it, and carries out the difference.
-/
namespace PlatformLauncher.Outside

def locationOf (p : String) : Location := (Path.names p.toList).reverse

/-- What stands at a path and below it, down to a depth. A link is taken to lead to its last goal;
what cannot be seen is left out. -/
def survey (depth : Nat) (p : String) : IO (List (Location × Entry)) := do
  let place := (← IO.currentDir) / p
  let here := locationOf place.toString
  try
    match (← place.symlinkMetadata).type with
    | .file => pure [(here, .file (← IO.FS.readBinFile place).toList)]
    | .symlink => pure [(here, .link (← IO.FS.realPath place).toString.toList)]
    | .dir =>
      match depth with
      | 0 => pure [(here, .directory)]
      | depth + 1 =>
        let inside ← (← place.readDir).toList.mapM fun e => survey depth e.path.toString
        pure ((here, .directory) :: inside.flatten)
    | .other => pure []
  catch _ => pure []

def goalOf (p : String) : IO String := do
  let place := (← IO.currentDir) / p
  try return (← IO.FS.realPath place).toString
  catch _ => return place.toString

def surveyWithParents (depth : Nat) (p : String) : IO (List (Location × Entry)) := do
  let goal ← goalOf p
  let parents ← (Path.ancestors goal.toList).mapM fun parent => survey 0 (String.ofList parent)
  return parents.flatten ++ (← survey depth goal)

def treeOf (entries : List (Location × Entry)) : Tree :=
  entries.foldl (fun t (l, e) => if (t.get? l).isSome then t else t.put l e) ⟨[], []⟩

def environment : IO (List (Text × Text)) := do
  try
    let text := Octets.decodeLossy (← IO.FS.readBinFile "/proc/self/environ").toList
    return (Text.pieces '\x00' text).filterMap (Text.cutAt? '=')
  catch _ => return []

def processNumbers : IO (List Nat) := do
  try
    let entries ← (← IO.FS.realPath "/proc").readDir
    return entries.toList.filterMap fun e => e.fileName.toNat?
  catch _ => return []

partial def readLine (input : IO.FS.Stream) (line : Octets) : IO Octets := do
  match (← input.read 1).toList with
  | [] => return line
  | more =>
    if more.contains CommandLine.Prompt.lineFeed then return line ++ more
    else readLine input (line ++ more)

def namedPaths (args : List Text) (vars : List (Text × Text)) (input : Octets) : List Text :=
  args.filter (fun a => !Text.startsWith a ['-']) ++ (vars.lookup Home.envName).toList ++
    ((CommandLine.Prompt.answer input).toOption.bind id).toList ++
    ((Settings.homeDirectory? vars).map fun h => (Settings.defaultFile h).path).toList

def session (args : List Text) : IO CommandLine.Session := do
  let cwd := (← IO.currentDir).toString
  let vars ← environment
  let input ← if CommandLine.asksForHome args then readLine (← IO.getStdin) [] else pure []
  let near := (← surveyWithParents 3 cwd) ++ (← surveyWithParents 1 "..")
  let far ← (namedPaths args vars input).mapM fun p => surveyWithParents 1 (String.ofList p)
  let numbers ← processNumbers
  let tree := treeOf (near ++ far.flatten)
  return ⟨tree, locationOf cwd, vars, input, numbers.contains⟩

def carryOut (before after : Tree) : IO Unit := do
  for (l, e) in before.entries do
    if (after.get? l).isNone && e != .directory then IO.FS.removeFile (String.ofList l.path)
  for (l, e) in after.entries.mergeSort fun a b => a.1.length ≤ b.1.length do
    if before.get? l != some e then
      match e with
      | .directory => IO.FS.createDirAll (String.ofList l.path)
      | .file content => IO.FS.writeBinFile (String.ofList l.path) ⟨content.toArray⟩
      | .link _ => pure ()

def launch (args : List Text) : IO UInt32 := do
  let s ← session args
  let d := s.run args
  carryOut s.tree d.tree
  (← IO.getStdout).write ⟨d.printed.toArray⟩
  (← IO.getStderr).write ⟨d.complained.toArray⟩
  return UInt32.ofNat d.code

end PlatformLauncher.Outside

def main (args : List String) : IO UInt32 := PlatformLauncher.Outside.launch (args.map String.toList)
