/-! Paths are texts of parts between slashes, and some questions about them need no file tree. -/

namespace Flowprint.Path

/-- The stretches between slashes, of which there is one more than there are slashes. -/
def splitSlashes : List Char → List (List Char)
  | [] => [[]]
  | c :: rest =>
    match splitSlashes rest with
    | [] => [[c]]
    | part :: parts => if c = '/' then [] :: part :: parts else (c :: part) :: parts

/-- The parts of a path, some of which may be empty. -/
def parts (path : String) : List String := (splitSlashes path.toList).map String.ofList

/-- An absolute path starts with a slash. -/
def isAbsolute (path : String) : Bool := path.toList.head? = some '/'

/-- A path relative to another one; an absolute path stands for itself. -/
def join (base path : String) : String :=
  if isAbsolute path then path
  else if base = "" ∨ base.toList.getLast? = some '/' then base ++ path
  else base ++ "/" ++ path

/-- One slash for an absolute path, or two if exactly two stand at its beginning. -/
def rootMark (path : List Char) : List Char :=
  match path with
  | '/' :: '/' :: '/' :: _ => ['/']
  | '/' :: '/' :: _ => ['/', '/']
  | '/' :: _ => ['/']
  | _ => []

/-- Puts one part on a path whose parts are listed innermost first. -/
def climb (absolute : Bool) (above : List String) (part : String) : List String :=
  -- Two dots take away a name, stay at the root, and are kept where there is nothing to take away.
  if part = "" ∨ part = "." then above
  else if part = ".." then
    match above with
    | [] => if absolute then [] else [".."]
    | last :: outer => if last = ".." then ".." :: last :: outer else outer
  else part :: above

/-- The same path by its text alone, with no empty part, no dot, and two dots only at the front. -/
def normalise (path : String) : String :=
  let names := ((parts path).foldl (climb (isAbsolute path)) []).reverse
  let text := String.ofList (rootMark path.toList) ++ "/".intercalate names
  if text = "" then "." else text

/-- The same path without empty parts and dots; two dots stay where they are. -/
def tidy (path : String) : String :=
  let names := (parts path).filter fun part => part ≠ "" ∧ part ≠ "."
  let text := String.ofList (rootMark path.toList) ++ "/".intercalate names
  if text = "" then "." else text

/-- Slashes at the end of a path go, unless it is made of slashes only. -/
def trimSlashes (path : List Char) : List Char :=
  if path.all (· = '/') then path else (path.reverse.dropWhile (· = '/')).reverse

/-- The last part of a path, and what stands before it without the slashes between them. -/
def split (path : String) : String × String :=
  -- A path that ends with a slash has an empty last part.
  let last := (path.toList.reverse.takeWhile (· ≠ '/')).reverse
  let front := path.toList.take (path.toList.length - last.length)
  (String.ofList (trimSlashes front), String.ofList last)

/-- The last part of a path. -/
def baseName (path : String) : String := (split path).2

/--
A file name without its last extension.

An extension starts at the last point, unless nothing but points stands before it.
-/
def stem (name : String) : String :=
  let backward := name.toList.reverse
  let extension := backward.takeWhile (· ≠ '.')
  match backward.drop extension.length with
  | [] => name
  | _ :: front => if front.all (· = '.') then name else String.ofList front.reverse

end Flowprint.Path
