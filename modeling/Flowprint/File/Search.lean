import Flowprint.Ascending
import Flowprint.Document.Decode
import Flowprint.File.Tree
import Flowprint.Text.Lowercase

/-! Sources are files or folders, and a folder stands for the documents anywhere inside it. -/

namespace Flowprint

/-- A file name in lower case ends with one of some extensions. -/
def hasExtension (extensions : List String) (name : String) : Bool :=
  -- The extensions are compared as they are, so one with a capital letter never fits.
  extensions.any fun extension => extension.toList.isSuffixOf (Text.lowercase name).toList

/-- The extensions of documents. -/
def documentExtensions : List String := [".json"]

namespace FileTree

/-- A search from a path enters a folder below it unless the path of that folder is too long. -/
def reaches (path : String) (names : List String) : Bool :=
  names.isEmpty || (Path.fault? (Path.join path ("/".intercalate names))).isNone

/-- The paths of all files with one of some extensions anywhere in a folder, in ascending order. -/
def filesBelow (tree : FileTree) (path : String) (extensions : List String) : List String :=
  -- A path at which there is no folder has no files.
  match tree.entry? path with
  | some (.folder entries) =>
    let found := (Entry.filesAmong entries).filter fun file =>
      reaches path file.1.dropLast && hasExtension extensions (file.1.getLast?.getD "")
    Ascending.sort (found.map fun file =>
      tree.absolute (Path.join path ("/".intercalate file.1)))
  | _ => []

/-- The files below a path, which has to be one that can be asked for. -/
def findFiles (tree : FileTree) (path : String) (extensions : List String) :
    Except FileFault (List String) :=
  match Path.fault? path with
  | some .zeroByte => .error .zeroByte
  | _ => .ok (tree.filesBelow path extensions)

/-- The files of a source: the documents in a folder, or the one path that is no folder. -/
def filesOf (tree : FileTree) (source : String) : List String :=
  if tree.hasFolder source then tree.filesBelow source documentExtensions
  else [tree.absolute source]

/-- The files of several sources, source after source. -/
def fileList (tree : FileTree) (sources : List String) : List String :=
  sources.flatMap tree.filesOf

end FileTree

namespace Flowgraph

/-- The function that a file holds, if it can be read, at a path that can be asked for. -/
def ofFile (tree : FileTree) (path : String) : Except FileFault (Flowgraph × Option Diagnosis) :=
  match tree.read path with
  | .ok content => .ok (ofBytes content)
  | .error .zeroByte => .error .zeroByte
  | .error _ => .ok (empty, some .unreadable)

end Flowgraph

end Flowprint
