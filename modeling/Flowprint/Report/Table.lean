import Flowprint.Fault
import Flowprint.Feature.Summary
import Flowprint.Report.Figure
import Flowprint.Text.Markup

/-! The summaries of a run are shown as one table with a row for each function. -/

namespace Flowprint

/-- What stands in one row, which comes from a summary or from an object in its place. -/
structure Row where
  /-- The name of the function, which is shown only beside others. -/
  name : Json
  /-- The figures in the order of the columns. -/
  figures : List Json
  /-- The most frequent tuple with its count, or something empty. -/
  topTuple : Json

/-- A table as it is handed to the console. -/
structure Table where
  /-- The title above it. -/
  title : String
  /-- The heads of the columns. -/
  columns : List String
  /-- The cells, row by row. -/
  rows : List (List String)
  deriving DecidableEq

/-- The row of a summary. -/
def Summary.row (summary : Summary) : Row where
  name := summary.name
  figures := [summary.nodes, summary.edges, summary.subgraphs, summary.largestSubgraph,
    summary.tuples].map fun (figure : Nat) => .integer figure
  topTuple := .string summary.topTuple

/-- The row of an object in place of a summary, in which a field that is missing counts as null. -/
def Row.ofJson (summary : Json) : Except Fault Row :=
  let field (key : String) := (summary.field? key).getD .null
  match summary with
  -- A field that is there counts as it is, whatever its value.
  | .object _ => .ok {
      name := field "name"
      figures :=
        ["nodes", "edges", "subgraphs", "largest_subgraph", "mnemonic_tuples"].map field
      topTuple := field "top_tuple" }
  | value => .error (.notSummary value.kind)

namespace Table

/-- The heads of the columns that every table has. -/
def figureColumns : List String :=
  ["Nodes", "Edges", "Subgraphs", "Largest subgraph", "Mnemonic tuples", "Top tuple"]

/-- A text of the function, which is not to be taken for markup. -/
def label (value : Json) : Except Fault String :=
  match value with
  | .string text => .ok (Text.protect text)
  | value => .error (.notText value.kind)

/-- The cells of one row. -/
def cells (named : Bool) (row : Row) : Except Fault (List String) := do
  -- The tuple is looked at before the name.
  let topTuple ← if row.topTuple.isEmpty then pure "" else label row.topTuple
  let figures := row.figures.map Json.figure ++ [topTuple]
  if named then return (← label row.name) :: figures else return figures

/-- Names are shown when a table stands for more than one file. -/
def showsNames (fileCount : Nat) : Bool := 1 < fileCount

/-- The table with some cells below its heads. -/
def ofCells (named : Bool) (rows : List (List String)) : Table :=
  ⟨"Function Features", if named then "Graph" :: figureColumns else figureColumns, rows⟩

/-- The table of some rows. -/
def ofRows (rows : List Row) (fileCount : Nat) : Except Fault Table := do
  -- The files count, not the rows: a file without a function still asks for names.
  return ofCells (showsNames fileCount) (← rows.mapM (cells (showsNames fileCount)))

/-- The table of some objects in place of summaries, up to the first fault in one of them. -/
def ofObjects (objects : List Json) (fileCount : Nat) : Except Fault Table := do
  return ofCells (showsNames fileCount) (← objects.mapM fun object => do
    cells (showsNames fileCount) (← Row.ofJson object))

end Table

end Flowprint
