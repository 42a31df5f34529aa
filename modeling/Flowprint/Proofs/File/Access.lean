import Flowprint.File.Search
import Flowprint.Proofs.File.Tree

/-!
A path that never goes back opens no file because of other files that are new or changed.

A path that goes into a folder and back out of it leads nowhere as long as there is no such folder,
so a new folder may open it.
-/

namespace Flowprint

namespace FileTree

/-- A walk that never goes back leads down by its steps. -/
theorem eq_of_walk_down {root : Entry} {place parts names : List String} (down : ".." ∉ parts)
    (walks : walk root place parts = .ok names) : names = place ++ Path.steps parts := by
  -- The induction is on the parts; the place moves down with each step.
  induction parts generalizing place with
  | nil => simpa [walk, Path.steps, eq_comm] using walks
  | cons part rest ih =>
    rw [List.mem_cons, not_or] at down
    -- The part is no step back, so the walk stays or goes one folder down.
    obtain ⟨entries, stands⟩ := exists_folder_of_walk walks
    rw [walk_cons stands, if_neg (Ne.symm down.1)] at walks
    rw [Path.steps_cons]
    split_ifs at walks ⊢
    · exact ih down.2 walks
    · rw [ih down.2 walks, List.append_assoc, List.singleton_append]

/-- A walk that never goes back leads to a file if the file was there, whatever else was. -/
theorem walk_of_file {root grown : Entry} {place parts names : List String} (down : ".." ∉ parts)
    {content later : ByteArray} (there : root.below? names = some (.file content))
    (still : grown.below? names = some (.file later))
    (walks : walk grown place parts = .ok names) : walk root place parts = .ok names := by
  -- The way was also open before: where the tree had a file, it had the folders above it.
  induction parts generalizing place with
  | nil => exact walks
  | cons part rest ih =>
    have leads := eq_of_walk_down down walks
    obtain ⟨entries, stands⟩ := exists_folder_of_walk walks
    -- Every place before the file is a folder, because the file is below it.
    have further : Path.steps (part :: rest) ≠ [] := by
      intro none
      rw [none, List.append_nil] at leads
      rw [← leads, still] at stands
      cases stands
    obtain ⟨old, stood⟩ := Entry.exists_folder_of_below? further (leads ▸ there)
    -- The part in front and the later ones lead down as well.
    obtain ⟨forward, down'⟩ : ".." ≠ part ∧ ".." ∉ rest := by
      rwa [List.mem_cons, not_or] at down
    rw [walk_cons stands] at walks
    rw [walk_cons stood]
    -- The walk in the old tree takes the same turn at each part.
    split_ifs at walks with stays back fits found
    · rw [if_pos stays]
      exact ih down' walks
    · exact absurd back.symm forward
    · -- The file was below the entry that the part names, so that entry was there.
      have known : (root.below? (place ++ [part])).isSome := by
        rw [eq_of_walk_down down' walks, Entry.below?_append] at there
        obtain ⟨inner, was, -⟩ := Option.bind_eq_some_iff.mp there
        exact Option.isSome_of_eq_some was
      rw [if_neg stays, if_neg back, if_neg fits, if_pos known]
      exact ih down' walks

variable {changed : List String → Prop} {before after tree : FileTree} {path : String}

/-- A path that never goes back could be read before, unless it leads to a file that is changed. -/
theorem Grows.read_of_down (grows : Grows changed before after)
    (down : ".." ∉ before.partsOf path) {names : List String} {content : ByteArray}
    (leads : after.locate path = .ok names) (apart : ¬changed names)
    (reads : after.read path = .ok content) : before.read path = .ok content := by
  -- What is read now lies where the path leads now.
  obtain ⟨_, same, holds⟩ := read_eq_ok_iff.mp reads
  obtain rfl := Except.ok.inj (leads.symm.trans same)
  -- A changed file is ruled out, so the content was there before.
  have held := (grows.old names content holds).resolve_left apart
  have walks := walk_of_file (grows.partsOf path ▸ down) held holds (walk_of_locate leads)
  refine read_eq_ok_iff.mpr ⟨names, ?_, held⟩
  -- Only the way is left to show: the same parts lead from the root in both trees.
  rw [FileTree.locate] at leads ⊢
  split at leads
  · cases leads
  · rwa [← grows.partsOf]

/-- Every file that is listed has the path of some text from the root. -/
theorem exists_of_mem_fileList {sources : List String} (listed : path ∈ tree.fileList sources) :
    ∃ text, path = tree.absolute text := by
  -- A listed path is a source itself or comes from a search below one.
  obtain ⟨source, -, member⟩ := List.mem_flatMap.mp listed
  rw [filesOf] at member
  split_ifs at member
  · rw [filesBelow] at member
    split at member
    · rw [Ascending.mem_sort] at member
      obtain ⟨file, -, rfl⟩ := List.mem_map.mp member
      exact ⟨_, rfl⟩
    · cases member
  · exact ⟨source, List.mem_singleton.mp member⟩

/-- No path that is listed from sources goes back, if the path of the working folder is absolute. -/
theorem down_of_mem_fileList (absolute : Path.isAbsolute tree.workingFolder) {sources : List String}
    (listed : path ∈ tree.fileList sources) : ".." ∉ tree.partsOf path := by
  obtain ⟨text, rfl⟩ := exists_of_mem_fileList listed
  -- Joining with an absolute folder gives an absolute path, whatever the text is.
  have rooted : Path.isAbsolute (Path.join tree.workingFolder text) := by
    by_cases own : Path.isAbsolute text
    · rwa [Path.join, if_pos own]
    · rwa [Path.isAbsolute_join _ (by simpa using own)]
  -- Normalising takes every step back out of an absolute path.
  obtain ⟨still, down⟩ := Path.normalise_spec rooted
  rwa [partsOf, FileTree.absolute, Path.join, if_pos still]

/-- No walk finds a zero byte, which only the text of a path can hold. -/
theorem walk_ne_zeroByte (root : Entry) (place parts : List String) :
    walk root place parts ≠ .error .zeroByte := by
  -- A walk stops with a fault of another kind or goes on.
  induction parts generalizing place with
  | nil => simp [walk]
  | cons part rest ih =>
    rw [walk]
    split
    · split_ifs <;> simp [ih]
    · simp

/-- A path holds a zero byte or it does not, whatever the tree is. -/
theorem read_eq_zeroByte_iff : tree.read path = .error .zeroByte ↔
    Path.fault? path = some .zeroByte := by
  -- The check of the text comes first, and it alone looks for a zero byte.
  rw [FileTree.read, FileTree.locate]
  cases Path.fault? path with
  | some fault => simp
  | none =>
    -- The text passed, so the walk decides, and it never gives this fault.
    have other := walk_ne_zeroByte tree.root [] (tree.partsOf path)
    cases leads : walk tree.root [] (tree.partsOf path) with
    | error fault => simpa [leads] using other
    | ok names =>
      cases there : tree.root.below? names with
      | none => simp [there]
      | some entry => cases entry <;> simp [there]

end FileTree

/-- What a file holds is decided by what can be read of it. -/
theorem Flowgraph.ofFile_congr {first second : FileTree} {path : String}
    (same : ∀ content, first.read path = .ok content ↔ second.read path = .ok content) :
    ofFile first path = ofFile second path := by
  -- A zero byte is in the path, so both trees refuse it alike.
  have zeroByte : first.read path = .error .zeroByte ↔ second.read path = .error .zeroByte := by
    rw [FileTree.read_eq_zeroByte_iff, FileTree.read_eq_zeroByte_iff]
  rw [ofFile, ofFile]
  -- Either both files are read, with the same content, or neither is.
  cases reads : first.read path with
  | ok content => rw [(same content).mp reads]
  | error fault =>
    cases reads' : second.read path with
    | ok content =>
      rw [(same content).mpr reads'] at reads
      cases reads
    | error fault' =>
      -- All faults but one count the same.
      rw [reads, reads'] at zeroByte
      cases fault <;> cases fault' <;> simp_all

end Flowprint
