import Flowprint.File.Path

/-! A file tree is a value, and reading, walking and writing it are functions on that value. -/

namespace Flowprint

/-- A file or a folder of entries, which have names. -/
inductive Entry where
  /-- A file with its content. -/
  | file (content : ByteArray)
  /-- A folder; the order of its entries means nothing. -/
  | folder (entries : List (String × Entry))

namespace Entry

/-- The entry of a name in a list of entries. -/
def named? (name : String) (entries : List (String × Entry)) : Option Entry :=
  (entries.find? (·.1 = name)).map (·.2)

/-- Puts an entry under its name, instead of any entry that was there. -/
def putNamed (name : String) (entry : Entry) : List (String × Entry) → List (String × Entry)
  | [] => [(name, entry)]
  | old :: rest => if old.1 = name then (name, entry) :: rest else old :: putNamed name entry rest

/-- The entry below another one, by the names on the way. -/
def below? (entry : Entry) : List String → Option Entry
  | [] => some entry
  | name :: rest =>
    match entry with
    | .file _ => none
    | .folder entries => (named? name entries).bind (below? · rest)

/-- Puts an entry below another one, with all folders on the way. -/
def putBelow (new : Entry) : List String → Entry → Entry
  | [], _ => new
  | name :: rest, .folder entries =>
    .folder (putNamed name (putBelow new rest ((named? name entries).getD (.folder []))) entries)
  | name :: rest, .file _ => .folder [(name, putBelow new rest (.folder []))]

/-- The entry is a folder. -/
def isFolder : Entry → Bool
  | .folder _ => true
  | .file _ => false

mutual

/-- Every file at or below an entry, by the names on the way. -/
def files : Entry → List (List String × ByteArray)
  | .file content => [([], content)]
  | .folder entries => filesAmong entries

/-- Every file at or below some entries. -/
def filesAmong : List (String × Entry) → List (List String × ByteArray)
  | [] => []
  | (name, entry) :: rest =>
    (files entry).map (fun file => (name :: file.1, file.2)) ++ filesAmong rest

end

end Entry

/-- Why an operation on files has no result. -/
inductive FileFault where
  /-- Nothing has that path. -/
  | missing
  /-- A part of the path that should be a folder is a file. -/
  | notFolder
  /-- A folder stands where a file should be. -/
  | isFolder
  /-- Something has that path already. -/
  | present
  /-- A part of the path is too long for a name, or the path is too long for a path. -/
  | tooLong
  /-- The path holds a zero byte, which no path can hold. -/
  | zeroByte
  /-- Too many folders on the way are not there. -/
  | tooDeep
  deriving DecidableEq, Repr

/-- The words for a cause. -/
def FileFault.message : FileFault → String
  | missing => "no such file or folder"
  | notFolder => "not a folder"
  | isFolder => "is a folder"
  | present => "exists already"
  | tooLong => "name too long"
  | zeroByte => "embedded null byte"
  | tooDeep => "maximum recursion depth exceeded"

/-- What is wrong with the text of a path, which has 4095 bytes at most. -/
def Path.fault? (path : String) : Option FileFault :=
  if '\x00' ∈ path.toList then some .zeroByte
  else if path = "" then some .missing
  else if 4095 < path.utf8ByteSize then some .tooLong
  else none

/-- All files, and the folder to which relative paths refer. -/
structure FileTree where
  /-- The folder that holds everything. -/
  root : Entry
  /-- The path of the working folder; if it is empty, paths stay relative to the root. -/
  workingFolder : String := ""

namespace FileTree

/-- A name has 255 bytes at most. -/
def nameFits (name : String) : Bool := name.utf8ByteSize ≤ 255

/-- The names that lead to where some parts of a path lead, from a place that is there. -/
def walk (root : Entry) (place : List String) : List String → Except FileFault (List String)
  -- Whatever a part says, it is asked of a folder.
  | [] => .ok place
  | part :: rest =>
    match root.below? place with
    | some (.folder entries) =>
      if part = "" ∨ part = "." then walk root place rest
      else if part = ".." then walk root place.dropLast rest
      else if !nameFits part then .error .tooLong
      else if (Entry.named? part entries).isSome then walk root (place ++ [part]) rest
      else .error .missing
    | _ => .error .notFolder

/-- The parts of a path from the root. -/
def partsOf (tree : FileTree) (path : String) : List String :=
  Path.parts (Path.join tree.workingFolder path)

/-- The names that lead to the entry of a path. -/
def locate (tree : FileTree) (path : String) : Except FileFault (List String) :=
  match Path.fault? path with
  | some fault => .error fault
  | none => walk tree.root [] (tree.partsOf path)

/-- The entry of a path. -/
def entry? (tree : FileTree) (path : String) : Option Entry :=
  match tree.locate path with
  | .ok names => tree.root.below? names
  | .error _ => none

/-- Something has this path. -/
def has (tree : FileTree) (path : String) : Bool := (tree.entry? path).isSome

/-- A folder has this path. -/
def hasFolder (tree : FileTree) (path : String) : Bool :=
  match tree.entry? path with
  | some entry => entry.isFolder
  | none => false

/-- The content of the file at a path. -/
def read (tree : FileTree) (path : String) : Except FileFault ByteArray :=
  match tree.locate path with
  | .error fault => .error fault
  | .ok names =>
    match tree.root.below? names with
    | some (.file content) => .ok content
    | some (.folder _) => .error .isFolder
    | none => .error .missing

/-- A path from the root, by its text alone. -/
def absolute (tree : FileTree) (path : String) : String :=
  Path.normalise (Path.join tree.workingFolder path)

/-- The folder that a new entry at the end of some parts belongs to, and the name of that entry. -/
def place (tree : FileTree) (parts : List String) : Except FileFault (List String × String) :=
  match walk tree.root [] parts.dropLast, parts.getLast? with
  | .ok names, some last =>
    match tree.root.below? names with
    | some (.folder _) => if nameFits last then .ok (names, last) else .error .tooLong
    | _ => .error .notFolder
  | .ok _, none => .error .missing
  | .error fault, _ => .error fault

/-- A part that is no name of its own. -/
def isDots (part : String) : Bool := part = "" || part = "." || part = ".."

/-- Makes one folder in a folder that is there. -/
def makeFolder (tree : FileTree) (path : String) : Except FileFault FileTree :=
  -- Slashes at the end do no harm, and dots at the end name a folder that is there.
  match Path.fault? path with
  | some fault => .error fault
  | none =>
    match tree.place (Path.parts (String.ofList
        (Path.trimSlashes (Path.join tree.workingFolder path).toList))) with
    | .error fault => .error fault
    | .ok (names, last) =>
      if isDots last || (tree.root.below? (names ++ [last])).isSome then .error .present
      else .ok { tree with root := Entry.putBelow (.folder []) (names ++ [last]) tree.root }

/-- Writes a whole file in a folder that is there. -/
def write (tree : FileTree) (path : String) (content : ByteArray) : Except FileFault FileTree :=
  -- An old file at the place is replaced.
  match Path.fault? path with
  | some fault => .error fault
  | none =>
    match tree.place (tree.partsOf path) with
    | .error fault => .error fault
    | .ok (names, last) =>
      match tree.root.below? (names ++ [last]) with
      | some (.folder _) => .error .isFolder
      | _ =>
        if isDots last then .error .isFolder
        else .ok { tree with root := Entry.putBelow (.file content) (names ++ [last]) tree.root }

/-- The files that were not there before, or had other content, by their paths from the root. -/
def writtenSince (tree before : FileTree) : List (List String × ByteArray) :=
  -- Folders do not count.
  tree.root.files.filter fun file =>
    match before.root.below? file.1 with
    | some (.file content) => !decide (content.data = file.2.data)
    | _ => true

end FileTree

end Flowprint
