import Flowprint.Proofs.File.Tree
import Flowprint.Proofs.Text.Lowercase
import Flowprint.Report.Export

/-! A report is written as a file of its folder, and nothing else in the tree changes. -/

namespace Flowprint.Report

open FileTree

/-- The name of the file for a report. -/
def fileName (name : String) : String := Text.lowercase name ++ "-features.json"

/-- Reports go to the same file exactly if their names are the same in lower case. -/
theorem fileName_inj {first second : String} :
    fileName first = fileName second ↔ Text.lowercase first = Text.lowercase second := by
  -- The ending is the same, so the names in lower case are.
  rw [fileName, fileName, ← String.toList_inj, ← String.toList_inj]
  simp

/-- The file of a report has a proper name. -/
theorem isDots_fileName (name : String) : isDots (fileName name) = false := by
  -- The ending alone is longer than each of the names that mean a folder.
  have long : 14 ≤ (fileName name).toList.length := by
    simp [fileName]
  have other (dots : String) (short : dots.toList.length < 14) : fileName name ≠ dots := by
    intro same
    rw [same] at long
    omega
  simp [isDots, other "" (by decide), other "." (by decide), other ".." (by decide)]

/-- The file of a report is in the folder itself if the name has no slash. -/
theorem slash_notMem_fileName {name : String} (slashless : '/' ∉ name.toList) :
    '/' ∉ (fileName name).toList := by
  -- A slash would be one of the name in lower case or of the ending.
  rw [fileName, String.toList_append, List.mem_append, not_or]
  exact ⟨fun member => slashless (Text.slash_mem_of_lowercase member), by decide⟩

/-- A report stands in the folder to which the path for reports leads. -/
structure Stands (tree : FileTree) (directory name : String) (folder : List String)
    (content : ByteArray) : Prop where
  /-- The path for reports leads to the folder. -/
  leads : walk tree.root [] (tree.partsOf directory) = .ok folder
  /-- The path of the report leads into the folder. -/
  located : tree.locate (path directory name) = .ok (folder ++ [fileName name])
  /-- The file has that content. -/
  holds : tree.root.below? (folder ++ [fileName name]) = some (.file content)

/-- A report stands where it stood, and it has other content only if its file was changed. -/
theorem Stands.grows {changed : List String → Prop} {before after : FileTree}
    {directory name : String} {folder : List String} {content : ByteArray}
    (stands : Stands before directory name folder content) (grows : Grows changed before after) :
    ∃ later, Stands after directory name folder later ∧
      (changed (folder ++ [fileName name]) ∨ later = content) := by
  -- The file is still there, and so is the way to it.
  obtain ⟨later, there, kept⟩ := grows.file _ _ stands.holds
  refine ⟨later, ⟨?_, grows.locate stands.located, there⟩, kept⟩
  rw [grows.partsOf]
  exact grows.walk stands.leads

/-- A report that is written stands in its folder, and no other file has changed. -/
theorem stands_of_write {ready after : FileTree} {directory name : String} {content : ByteArray}
    (slashless : '/' ∉ name.toList)
    (stored : ready.write (path directory name) content = .ok after) :
    ∃ folder, Stands after directory name folder content ∧
      Grows (· = folder ++ [fileName name]) ready after := by
  have dots := isDots_fileName name
  have proper : fileName name ≠ "" ∧ fileName name ≠ "." := by
    simp only [isDots, Bool.or_eq_false_iff, decide_eq_false_iff_not] at dots
    exact dots.1
  -- The file name is the last part of the path, and the folder is what stands before it.
  obtain ⟨outer, parted, same⟩ : ∃ outer,
      ready.partsOf (path directory name) = outer ++ [fileName name] ∧
      Path.steps outer = Path.steps (ready.partsOf directory) :=
    Path.exists_parts_join_tidy ready.workingFolder directory (slash_notMem_fileName slashless)
      proper
  obtain ⟨folder, located, there, grows⟩ := write_spec parted stored
  refine ⟨folder, ⟨?_, located, there⟩, grows⟩
  -- Tidying the path has left out nothing that leads anywhere.
  have whole : walk after.root [] (after.partsOf directory ++ [fileName name]) =
      .ok (folder ++ [fileName name]) := by
    have walked := walk_of_locate located
    rw [grows.partsOf, parted, ← walk_steps, same, walk_steps] at walked
    rw [grows.partsOf]
    exact walked
  -- The last step of the whole walk only adds the file name.
  obtain ⟨middle, leads, named⟩ := walk_append.mp whole
  obtain ⟨-, -, -, ends⟩ := (walk_name_iff dots).mp named
  rw [List.append_cancel_right ends]
  exact leads

/-- What writing a report does, with its answer. -/
inductive Written (tree : FileTree) (directory name : String) (features : Json) :
    FileTree × Except ExportFault String → Prop where
  /-- The files did not admit it, and no file has changed. -/
  | refused {after : FileTree} {cause : FileFault} (grows : ∀ changed, Grows changed tree after) :
    Written tree directory name features (after, .error (.file cause))
  /-- There is no text to write, and no file has changed. -/
  | textless {after : FileTree} {fault : Fault} (grows : ∀ changed, Grows changed tree after)
    (missing : features.text = .error fault) :
    Written tree directory name features (after, .error (.text fault))
  /-- The text stands in the folder, and no other file has changed. -/
  | written {after : FileTree} {folder : List String} {text : String}
    (found : features.text = .ok text)
    (stands : Stands after directory name folder text.toUTF8)
    (grows : Grows (· = folder ++ [fileName name]) tree after) :
    Written tree directory name features (after, .ok (path directory name))

/-- A report under a name without a slash is written into the folder, or no file changes. -/
theorem written_write (tree : FileTree) (directory : String) {name : String}
    (slashless : '/' ∉ name.toList) (features : Json) :
    Written tree directory name features (Report.write tree directory name features) := by
  have made {changed : List String → Prop} : Grows changed tree (tree.ensureFolder directory).1 :=
    grows_ensureFolder tree directory
  -- The folder comes first, then the text, and then the file.
  rw [Report.write]
  split
  · -- The folder cannot be made, or something else has its name.
    next ready fault ensured =>
    rw [ensured] at made
    exact .refused fun _ => made
  · next ready ensured =>
    rw [ensured] at made
    split
    · -- There is no text to be written, so no file is opened.
      next fault missing => exact .textless (fun _ => made) missing
    · next text found =>
      split
      · -- The file cannot be opened.
        exact .refused fun _ => made
      · next after stored =>
        -- Both the folder and the file let the tree grow.
        obtain ⟨folder, stands, grows⟩ := stands_of_write slashless stored
        exact .written found stands (made.trans grows)

end Flowprint.Report
