import Flowprint.Command.Line
import Flowprint.File.Search
import Flowprint.Rendering.Listing
import Flowprint.Report.Export
import Flowprint.Report.Table

/-! A run works through its files one after the other, and what it shows and writes is a value. -/

namespace Flowprint.Command

/-- Something that a run shows. -/
inductive Event where
  /-- A listing. -/
  | listing (text : String)
  /-- A complaint about a file or about the lack of files. -/
  | error (message : String)
  /-- A remark about a file. -/
  | warning (message : String)
  /-- The table of summaries. -/
  | table (table : Table)
  deriving DecidableEq

/-- Messages can be silenced, and results cannot. -/
def Event.isMessage : Event → Bool
  | .error _ => true
  | .warning _ => true
  | _ => false

/-- Why a run breaks off. -/
inductive RunFault where
  /-- A source cannot be asked for. -/
  | source (fault : FileFault)
  /-- A source holds no function, and no diagnosis of it can be made. -/
  | document (fault : Fault)
  /-- The code or the features of a function cannot be shown. -/
  | feature (fault : Fault)
  /-- The features of a function cannot be exported. -/
  | report (fault : ExportFault)
  deriving DecidableEq, Repr

/-- The words for a fault. -/
def RunFault.message : RunFault → String
  | source fault => fault.message
  | document fault => fault.message
  | feature fault => fault.message
  | report (.file fault) => fault.message
  | report (.text fault) => fault.message

/--
How deep a value may nest that is quoted in a run.

A run reads its documents four calls deeper than a program that asks by a single call. It depends on
what starts the run, too, so `runWithin` takes any room.
-/
def maxNesting : Nat := Diagnosis.maxNesting - 4

/-- A run in progress. -/
structure Progress where
  /-- The files as they are now. -/
  tree : FileTree
  /-- What has been shown. -/
  events : List Event := []
  /-- The summaries of the functions that were read. -/
  summaries : List Summary := []
  /-- The paths of the files that hold no function. -/
  failures : List String := []
  /-- Why the run has broken off. -/
  fault : Option RunFault := none

namespace Progress

/-- Shows something. -/
def announce (progress : Progress) (event : Event) : Progress :=
  { progress with events := progress.events ++ [event] }

/-- Shows the code of a function, or remarks that there is none. -/
def list (progress : Progress) (path : String) (function : Flowgraph) : Except Fault Progress := do
  -- A function without blocks is told apart before its listing is asked for.
  if function.blocks.entries.isEmpty then
    return progress.announce (.warning (Text.protect path ++ " has no instructions to disassemble"))
  return progress.announce (.listing (← function.listing))

/-- Writes the report of a function. -/
def report (progress : Progress) (directory name : String) (features : Features) : Progress :=
  match Report.write progress.tree directory name features.toJson with
  | (tree, .ok _) => { progress with tree := tree }
  -- The tree is kept as it is left, since a folder may have been made before the fault.
  | (tree, .error fault) => { progress with tree := tree, fault := some (.report fault) }

/-- Works on a function that was read from a file. -/
def function (options : Options) (progress : Progress) (path : String) (function : Flowgraph) :
    Progress :=
  -- The code is shown first, so a run that breaks off later has shown it.
  let listed := if options.showListing then progress.list path function else .ok progress
  match listed with
  | .error fault => { progress with fault := some (.feature fault) }
  | .ok progress =>
    let name := Path.stem (Path.baseName path)
    match Features.ofFunction function with
    | .error fault => { progress with fault := some (.feature fault) }
    | .ok features =>
      let summary := Summary.ofFeatures (.string name) function.toGraph features
      -- The summary is noted before the report is written.
      let progress := { progress with summaries := progress.summaries ++ [summary] }
      if options.exportReports then progress.report options.folder name features
      else progress

/-- Works on a file, unless the run has broken off; a diagnosis has some room for quoting. -/
def file (room : Nat) (options : Options) (progress : Progress) (path : String) : Progress :=
  if progress.fault.isSome then progress
  else
    match Flowgraph.ofFile progress.tree path with
    | .error fault => { progress with fault := some (.source fault) }
    | .ok (function, none) => progress.function options path function
    -- A diagnosis quotes what it refuses, and that alone can break off the run.
    | .ok (_, some diagnosis) =>
      match diagnosis.obstacle? room with
      | some fault => { progress with fault := some (.document fault) }
      | none =>
        { progress.announce (.error ("Unable to parse the flowgraph in " ++ Text.protect path)) with
          failures := progress.failures ++ [path] }

/-- Works on some files, one after the other. -/
def files (progress : Progress) (room : Nat) (options : Options) (paths : List String) :
    Progress :=
  paths.foldl (file room options) progress

end Progress

/-- How a program ends. -/
inductive Ending where
  /-- With a status, which is zero for success. -/
  | status (code : Nat)
  /-- With a fault. -/
  | fault (fault : RunFault)
  deriving DecidableEq, Repr

/-- What a run leaves behind. -/
structure Outcome where
  /-- How it ended. -/
  ending : Ending
  /-- What it showed. -/
  events : List Event
  /-- The files afterwards. -/
  tree : FileTree

/-- The status of a run that found some fault with its input. -/
def Options.failure (options : Options) : Ending := .status (if options.ignoreErrors then 0 else 1)

/-- The end of a run over some number of files: the table, and then the status. -/
def Progress.finish (progress : Progress) (options : Options) (fileCount : Nat) : Outcome :=
  -- A run that has broken off shows nothing more.
  match progress.fault with
  | some fault => ⟨.fault fault, progress.events, progress.tree⟩
  | none =>
    let ending := if progress.failures.isEmpty then .status 0 else Options.failure options
    if options.showTable && !progress.summaries.isEmpty then
      match Table.ofRows (progress.summaries.map Summary.row) fileCount with
      | .ok table => ⟨ending, progress.events ++ [.table table], progress.tree⟩
      | .error fault => ⟨.fault (.feature fault), progress.events, progress.tree⟩
    else ⟨ending, progress.events, progress.tree⟩

/-- A whole run with some options on some files, where a diagnosis has some room for quoting. -/
def runWithin (room : Nat) (options : Options) (tree : FileTree) : Outcome :=
  -- The files are listed once, before any report is written.
  let paths := tree.fileList options.sources
  let outcome :=
    if paths = [] then ⟨Options.failure options, [.error "No flowgraph files to process."], tree⟩
    else
      let start : Progress := ⟨tree, [], [], [], none⟩
      (start.files room options paths).finish options paths.length
  if options.quiet then
    { outcome with events := outcome.events.filter (!·.isMessage) }
  else outcome

/-- A whole run of the program, with the room that it has for quoting. -/
def run (options : Options) (tree : FileTree) : Outcome := runWithin maxNesting options tree

/-- Why the files of a run hold no function, file by file, for debug messages. -/
def diagnoses (options : Options) (tree : FileTree) : List String :=
  (tree.fileList options.sources).filterMap fun path =>
    match Flowgraph.ofFile tree path with
    | .ok (_, diagnosis) => diagnosis.map Diagnosis.message
    | .error _ => none

end Flowprint.Command
