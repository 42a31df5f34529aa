import Flowprint.Feature.Collection
import Flowprint.File.Folders
import Flowprint.Json.Writer
import Flowprint.Text.Lowercase

/-! Features are exported as a document of their own into a folder for reports. -/

namespace Flowprint

/-- Why features could not be exported. -/
inductive ExportFault where
  /-- The files do not admit it. -/
  | file (fault : FileFault)
  /-- The features have no text. -/
  | text (fault : Fault)
  deriving DecidableEq, Repr

namespace Report

/-- The path of the report under a name, whose file name is in lower case. -/
def path (directory name : String) : String :=
  -- A name with slashes leads on below the folder.
  Path.tidy (Path.join directory (Text.lowercase name ++ "-features.json"))

/-- Writes a report into its folder, which is made if it is not there; the answer is its path. -/
def write (tree : FileTree) (directory name : String) (features : Json) :
    FileTree × Except ExportFault String :=
  -- The folder stays even if the report cannot be written.
  match tree.ensureFolder directory with
  | (tree, some fault) => (tree, .error (.file fault))
  | (tree, none) =>
    match features.text with
    | .error fault => (tree, .error (.text fault))
    | .ok text =>
      match tree.write (path directory name) text.toUTF8 with
      | .error fault => (tree, .error (.file fault))
      | .ok tree => (tree, .ok (path directory name))

end Report

end Flowprint
