import Flowprint.File.Tree

/-! A folder is made together with the folders on the way to it that are not there yet. -/

namespace Flowprint

/-- The last part of a path that is not empty, and what stands before it. -/
def Path.splitLast (path : String) : String × String :=
  let (front, last) := Path.split path
  if last = "" then Path.split front else (front, last)

namespace FileTree

/-- Makes one folder; the tree stays as it is if that cannot be done. -/
def addFolder (tree : FileTree) (path : String) : FileTree × Option FileFault :=
  match tree.makeFolder path with
  | .ok tree => (tree, none)
  | .error fault => (tree, some fault)

/--
Makes a folder that is not there, and before it the folders on the way, at most `room` in all.

Two dots can make a folder on the way turn out to be there, which is no fault. A dot at the end
names no folder of its own.
-/
def addFoldersWithin : Nat → FileTree → String → FileTree × Option FileFault
  | 0, tree, _ => (tree, some .tooDeep)
  | room + 1, tree, path =>
    -- Without anything before it, or with a folder before it, the folder is made at once.
    let (front, last) := Path.splitLast path
    if front = "" ∨ last = "" ∨ tree.has front then tree.addFolder path
    else
      let (tree, fault) := addFoldersWithin room tree front
      if fault ≠ none ∧ fault ≠ some .present then (tree, fault)
      else if last = "." then (tree, none)
      else tree.addFolder path

/--
How many folders can be made for one path in a run.

Each folder that is not there yet takes one of 1000 calls that may be under way at once. The run
takes the others, so a report that is written from elsewhere may have room for a few more or less.
-/
def maxNewFolders : Nat := 989

/-- Makes a folder with all folders on the way, unless something has its path already. -/
def ensureFolder (tree : FileTree) (path : String) : FileTree × Option FileFault :=
  if tree.has path then (tree, none) else addFoldersWithin maxNewFolders tree path

end FileTree

end Flowprint
