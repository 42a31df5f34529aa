import Flowprint.File.Path

/-! Options say what a run works on and what it shows. -/

namespace Flowprint

/-- The choices for a run. -/
structure Options where
  /-- The documents to read, or folders of them. -/
  sources : List String := []
  /-- The folder for reports, empty unless one is named; nothing if its option has no value. -/
  reports : Option String := some ""
  /-- Show the code of every function. -/
  showListing : Bool := false
  /-- Show the table of summaries. -/
  showTable : Bool := true
  /-- Write a report for every function. -/
  exportReports : Bool := false
  /-- Show no messages. -/
  quiet : Bool := false
  /-- Report success even where a document cannot be read. -/
  ignoreErrors : Bool := false
  deriving DecidableEq, Repr

namespace Options

/-- The path of the folder for reports, which is empty if there is none. -/
def folder (options : Options) : String := options.reports.getD ""

/-- Reports that are to be written without a folder for them go to one in the working folder. -/
def settle (options : Options) (workingFolder : String) : Options :=
  if options.exportReports ∧ options.folder = "" then
    { options with reports := some (Path.join workingFolder "reports") }
  else options

end Options

/-- Debug messages are wanted when one of the two settings of the environment says so. -/
def debugWanted (primary secondary : Option String) : Bool :=
  primary = some "debug" || secondary = some "debug"

end Flowprint
