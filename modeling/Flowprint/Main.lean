import Flowprint.Command.Run

/-!
The command reads the files that its arguments name into a file tree, runs on that tree, and then
writes and prints what the run left behind.
-/

namespace Flowprint.Main

/-- The entry at a path, with everything inside it if it is a folder. -/
partial def load (path : String) : IO (Option Entry) := do
  -- A path that is absolute stays as it is here.
  let place := (← IO.currentDir) / path
  if ← place.isDir then
    let mut entries := []
    for item in ← place.readDir do
      if let some entry ← load (Path.join path item.fileName) then
        entries := (item.fileName, entry) :: entries
    return some (.folder entries.reverse)
  else
    try return some (.file (← IO.FS.readBinFile place))
    -- What cannot be read is left out, so the run finds no file there.
    catch _ => return none

/-- The tree with what is on the way to a path, folders without their entries. -/
def survey (tree : FileTree) (path : String) : IO (FileTree × List String) := do
  let mut root := tree.root
  let mut names : List String := []
  for part in tree.partsOf path do
    -- The parts are followed as the tree itself would follow them.
    if part = ".." then
      names := names.dropLast
    else if part ≠ "" ∧ part ≠ "." then
      names := names ++ [part]
      if (root.below? names).isNone then
        -- Only what stands on the way is looked at, and nothing is read yet.
        let place := (← IO.currentDir) / ("/" ++ "/".intercalate names)
        if ← place.isDir then
          root := Entry.putBelow (.folder []) names root
        else if ← place.pathExists then
          root := Entry.putBelow (.file .empty) names root
  return ({ tree with root }, names)

/-- The tree with everything at a path. -/
def gather (tree : FileTree) (path : String) : IO FileTree := do
  let (tree, names) ← survey tree path
  match ← load ("/" ++ "/".intercalate names) with
  | some entry => return { tree with root := Entry.putBelow entry names tree.root }
  | none => return tree

/-- The lines of a table. -/
def tableLines (table : Table) : List String :=
  table.title :: (table.columns :: table.rows).map fun cells => " | ".intercalate cells

/-- Prints what a run has shown. -/
def print : Command.Event → IO Unit
  | .listing text => IO.println text
  | .error message => IO.println ("ERROR    " ++ message)
  | .warning message => IO.println ("WARNING  " ++ message)
  | .table table => (tableLines table).forM IO.println

/-- How the command is used. -/
def usage : String :=
  "usage: fnsim [-h] -i SRC_FILES [SRC_FILES ...] [-o REPORTS_DIR] [--disassembly] " ++
    "[--no-summary] [--no-error] [-q]"

/-- Runs with some options, and answers the status with which to end. -/
def run (options : Options) : IO UInt32 := do
  let workingFolder := (← IO.currentDir).toString
  let options := options.settle workingFolder
  -- The tree of the run holds the sources and the way to the reports.
  let mut tree : FileTree := ⟨.folder [], workingFolder⟩
  for source in options.sources do
    tree ← gather tree source
  if options.exportReports then
    tree := (← survey tree options.folder).1
  -- Debug messages come before the run, since they change nothing.
  if debugWanted (← IO.getEnv "FNSIM_DEBUG_MODE") (← IO.getEnv "SCAN_DEBUG_MODE") then
    (Command.diagnoses options tree).forM IO.println
  let outcome := Command.run options tree
  -- Only files that the run has written are written to the disk.
  for (names, content) in outcome.tree.writtenSince tree do
    IO.FS.createDirAll ("/" ++ "/".intercalate names.dropLast)
    IO.FS.writeBinFile ("/" ++ "/".intercalate names) content
  outcome.events.forM print
  match outcome.ending with
  | .status code => return code.toUInt32
  | .fault fault =>
    IO.eprintln fault.message
    return 1

end Flowprint.Main

/-- The command with its arguments. -/
def main (arguments : List String) : IO UInt32 := do
  match Flowprint.Command.read arguments with
  | .ok options => Flowprint.Main.run options
  | .error .help => do
    IO.println Flowprint.Main.usage
    return 0
  | .error (.usage fault) => do
    IO.eprintln Flowprint.Main.usage
    IO.eprintln ("fnsim: error: " ++ fault.message)
    return 2
