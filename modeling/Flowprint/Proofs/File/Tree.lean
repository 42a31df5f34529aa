import Flowprint.File.Folders
import Flowprint.Proofs.File.Path

/-!
Making a folder or writing a file leaves everything else in a tree where it was.

Folders stay folders and files stay files, so a path that leads somewhere leads there afterwards.
-/

namespace Flowprint

namespace Entry

/-- An entry that is put under a name is found there, and other names keep what they had. -/
theorem named?_putNamed (name other : String) (entry : Entry) (entries : List (String × Entry)) :
    named? other (putNamed name entry entries) =
      if name = other then some entry else named? other entries := by
  -- An entry that is replaced had the name of the new one.
  induction entries with
  | nil => by_cases same : name = other <;> simp [putNamed, named?, same]
  | cons old rest ih =>
    rw [putNamed]
    by_cases here : old.1 = name
    · subst here
      by_cases same : old.1 = other <;> simp [named?, same]
    · rw [if_neg here]
      by_cases found : old.1 = other
      · simp [named?, found, show ¬name = other from fun same => here (found.trans same.symm)]
      · simpa [named?, found] using ih

/-- What is below a folder is below its entry of the first name. -/
theorem below?_folder (entries : List (String × Entry)) (name : String) (rest : List String) :
    (folder entries).below? (name :: rest) = (named? name entries).bind (below? · rest) := by
  rw [below?]

/-- Nothing is below a file. -/
theorem below?_file (content : ByteArray) (name : String) (rest : List String) :
    (file content).below? (name :: rest) = none := by
  rw [below?]

/-- The way down may be taken in two pieces. -/
theorem below?_append (entry : Entry) (front back : List String) :
    entry.below? (front ++ back) = (entry.below? front).bind (below? · back) := by
  -- The names of the first piece are used up one by one.
  induction front generalizing entry with
  | nil => cases entry <;> cases back <;> rfl
  | cons name rest ih =>
    cases entry with
    | file => rfl
    | folder entries =>
      rw [List.cons_append, below?_folder, below?_folder]
      cases named? name entries with
      | none => rfl
      | some inner => exact ih inner

/-- In a folder that is reached by some names, a further name reaches the entry of that name. -/
theorem below?_concat {entry : Entry} {names : List String} {entries : List (String × Entry)}
    (stands : entry.below? names = some (folder entries)) (name : String) :
    entry.below? (names ++ [name]) = named? name entries := by
  -- The last name is looked up in the folder that the names lead to.
  rw [below?_append, stands, Option.bind_some, below?_folder]
  cases named? name entries with
  | none => rfl
  | some inner => cases inner <;> rfl

/-- Nothing is below a place at which there is no folder. -/
theorem below?_of_not_folder {entry : Entry} {names more : List String}
    (free : ∀ inside, entry.below? names ≠ some (folder inside)) (further : more ≠ []) :
    entry.below? (names ++ more) = none := by
  -- There is a further name, and it is asked of a place that has no entry or a file.
  obtain ⟨name, rest, rfl⟩ := List.exists_cons_of_ne_nil further
  rw [below?_append]
  cases there : entry.below? names with
  | none => rfl
  | some inner =>
    cases inner with
    | file content => exact below?_file content name rest
    | folder inside => exact absurd there (free inside)

/-- Whatever is below a place is below a folder. -/
theorem exists_folder_of_below? {entry found : Entry} {names more : List String}
    (further : more ≠ []) (there : entry.below? (names ++ more) = some found) :
    ∃ inside, entry.below? names = some (folder inside) := by
  -- Below anything but a folder there is nothing.
  by_contra bare
  rw [below?_of_not_folder (not_exists.mp bare) further] at there
  cases there

/-- What is put somewhere is there. -/
theorem below?_putBelow (new : Entry) (names : List String) (entry : Entry) :
    (putBelow new names entry).below? names = some new := by
  -- Whatever was on the way, a folder is there afterwards.
  induction names generalizing entry with
  | nil => cases new <;> rfl
  | cons name rest ih =>
    cases entry with
    | file => simp [putBelow, below?, named?, ih]
    | folder entries => simp [putBelow, below?, named?_putNamed, ih]

/-- Putting something below a folder changes nothing below its entries of other names. -/
theorem below?_putBelow_cons (new : Entry) (step : String) (names : List String)
    (around : List (String × Entry)) (name : String) (rest : List String) :
    (putBelow new (step :: names) (folder around)).below? (name :: rest) =
      if step = name then
        (putBelow new names ((named? step around).getD (folder []))).below? rest
      else (folder around).below? (name :: rest) := by
  -- The new entry comes under its own name, so other names keep theirs.
  rw [putBelow, below?_folder, named?_putNamed, below?_folder]
  split <;> rfl

/--
A new entry in a folder leaves everything else there.

The place of the new entry must not be a folder, because what was in that folder would be lost.
-/
theorem below?_putBelow_of_ne {new entry : Entry} {names : List String} {last : String}
    {entries : List (String × Entry)} (stands : entry.below? names = some (folder entries))
    (free : ∀ inside, entry.below? (names ++ [last]) ≠ some (folder inside)) {other : List String}
    (elsewhere : other ≠ names ++ [last]) {old : Entry} (found : entry.below? other = some old) :
    (putBelow new (names ++ [last]) entry).below? other = some old ∨
      old.isFolder ∧
        ∃ inside, (putBelow new (names ++ [last]) entry).below? other = some (folder inside) := by
  -- The induction goes down to the folder; a way that branches off on the way is not touched.
  induction names generalizing entry other with
  | nil =>
    obtain rfl : entry = folder entries := by simpa [below?] using stands
    cases other with
    | nil =>
      obtain rfl : folder entries = old := by simpa [below?] using found
      exact Or.inr ⟨rfl, _, rfl⟩
    | cons name rest =>
      by_cases same : last = name
      · -- Below the place of the new entry there was nothing, as there was no folder.
        subst same
        have further : rest ≠ [] := fun none => elsewhere (congrArg (last :: ·) none)
        have nothing := below?_of_not_folder free further
        rw [List.nil_append, List.singleton_append, found] at nothing
        cases nothing
      · rw [List.nil_append, below?_putBelow_cons, if_neg same]
        exact Or.inl found
  | cons step names ih =>
    cases entry with
    | file content =>
      rw [below?_file] at stands
      cases stands
    | folder around =>
      rw [below?_folder] at stands
      obtain ⟨inner, named, deeper⟩ := Option.bind_eq_some_iff.mp stands
      have within (way : List String) :
          (folder around).below? (step :: way) = inner.below? way := by
        rw [below?_folder, named, Option.bind_some]
      cases other with
      | nil =>
        -- The folder itself stays a folder.
        obtain rfl : folder around = old := by simpa [below?] using found
        exact Or.inr ⟨rfl, _, rfl⟩
      | cons name rest =>
        rw [List.cons_append, below?_putBelow_cons, named, Option.getD_some]
        by_cases same : step = name
        · subst same
          rw [if_pos rfl]
          rw [within] at found
          refine ih deeper ?_ ?_ found
          · intro inside there
            exact free inside ((within _).trans there)
          · intro there
            exact elsewhere (congrArg (step :: ·) there)
        · rw [if_neg same]
          exact Or.inl found

/--
Whatever is found after a new entry was put into a folder was there before, the new entry apart.

A folder may have been another folder. Nothing is found below the new entry, which is a leaf.
-/
theorem below?_of_putBelow {new entry : Entry} {names : List String} {last : String}
    {entries : List (String × Entry)} (stands : entry.below? names = some (folder entries))
    (leaf : ∀ name rest, new.below? (name :: rest) = none) {other : List String}
    (elsewhere : other ≠ names ++ [last]) {found : Entry}
    (there : (putBelow new (names ++ [last]) entry).below? other = some found) :
    ∃ old, entry.below? other = some old ∧ (old = found ∨ old.isFolder ∧ found.isFolder) := by
  -- Again the induction goes down to the folder, now from what is found afterwards.
  induction names generalizing entry other with
  | nil =>
    obtain rfl : entry = folder entries := by simpa [below?] using stands
    cases other with
    | nil =>
      obtain rfl : folder _ = found := by simpa [below?, putBelow] using there
      exact ⟨_, rfl, Or.inr ⟨rfl, rfl⟩⟩
    | cons name rest =>
      rw [List.nil_append, below?_putBelow_cons] at there
      by_cases same : last = name
      · -- Below the new entry there is nothing.
        subst same
        obtain ⟨inner, more, rfl⟩ := List.exists_cons_of_ne_nil
          fun none : rest = [] => elsewhere (congrArg (last :: ·) none)
        rw [if_pos rfl] at there
        simp [putBelow, leaf] at there
      · rw [if_neg same] at there
        exact ⟨found, there, Or.inl rfl⟩
  | cons step names ih =>
    cases entry with
    | file content =>
      rw [below?_file] at stands
      cases stands
    | folder around =>
      rw [below?_folder] at stands
      obtain ⟨inner, named, deeper⟩ := Option.bind_eq_some_iff.mp stands
      cases other with
      | nil =>
        -- The folder itself was a folder.
        obtain rfl : folder _ = found := by simpa [below?, putBelow] using there
        exact ⟨_, rfl, Or.inr ⟨rfl, rfl⟩⟩
      | cons name rest =>
        rw [List.cons_append, below?_putBelow_cons, named, Option.getD_some] at there
        by_cases same : step = name
        · subst same
          rw [if_pos rfl] at there
          rw [below?_folder, named, Option.bind_some]
          exact ih deeper (fun here => elsewhere (congrArg (step :: ·) here)) there
        · rw [if_neg same] at there
          exact ⟨found, there, Or.inl rfl⟩

end Entry

namespace FileTree

/--
Folders stay folders and files stay files, and a file keeps its content unless it is changed.

No file is new unless it is changed, whereas folders may be.
-/
structure Grows (changed : List String → Prop) (before after : FileTree) : Prop where
  /-- Relative paths mean the same. -/
  workingFolder : after.workingFolder = before.workingFolder
  /-- What was a folder is one. -/
  folder : ∀ names entries, before.root.below? names = some (.folder entries) →
    ∃ later, after.root.below? names = some (.folder later)
  /-- What was a file is one, and it has other content only if it is changed. -/
  file : ∀ names content, before.root.below? names = some (.file content) →
    ∃ later, after.root.below? names = some (.file later) ∧ (changed names ∨ later = content)
  /-- What is a file was one, and it had the same content unless it is changed. -/
  old : ∀ names content, after.root.below? names = some (.file content) →
    changed names ∨ before.root.below? names = some (.file content)

variable {changed other : List String → Prop} {before middle after tree : FileTree}

/-- Without any change a tree grows, if by nothing. -/
theorem Grows.refl (tree : FileTree) : Grows changed tree tree :=
  -- Every folder and file is its own successor, and no content has changed.
  ⟨rfl, fun _ entries found => ⟨entries, found⟩,
    fun _ content found => ⟨content, found, Or.inr rfl⟩, fun _ _ found => Or.inr found⟩

/-- A tree that grows twice grows. -/
theorem Grows.trans (first : Grows changed before middle) (second : Grows changed middle after) :
    Grows changed before after := by
  -- Folders, files and old content each go from the first tree over the middle one to the last.
  refine ⟨second.workingFolder.trans first.workingFolder, ?_, ?_, ?_⟩
  · intro names entries found
    obtain ⟨between, there⟩ := first.folder names entries found
    exact second.folder names between there
  · intro names content found
    obtain ⟨between, there, kept⟩ := first.file names content found
    obtain ⟨later, still, kept'⟩ := second.file names between there
    refine ⟨later, still, ?_⟩
    -- A file that the first step changed is among the changed ones already.
    rcases kept with here | rfl
    · exact Or.inl here
    · exact kept'
  · intro names content found
    exact (second.old names content found).elim Or.inl (first.old names content)

/-- More files may have changed than did. -/
theorem Grows.mono (grows : Grows changed before after)
    (within : ∀ names, changed names → other names) : Grows other before after := by
  -- The condition on changed files is only ever asserted, so a wider one does as well.
  refine ⟨grows.workingFolder, grows.folder, ?_, ?_⟩
  · intro names content found
    obtain ⟨later, there, kept⟩ := grows.file names content found
    exact ⟨later, there, kept.imp_left (within names)⟩
  · intro names content found
    exact (grows.old names content found).imp_left (within names)

/--
A new entry in a folder makes a tree grow, if it is an empty folder or a file that is changed.

An empty folder may only come where nothing was, and a file may also replace a file.
-/
theorem grows_putBelow {new : Entry} {names : List String} {last : String}
    {entries : List (String × Entry)} (stands : tree.root.below? names = some (.folder entries))
    (free : ∀ inside, tree.root.below? (names ++ [last]) ≠ some (.folder inside))
    (leaf : (new = .folder [] ∧ tree.root.below? (names ++ [last]) = none) ∨
      (∃ content, new = .file content) ∧ changed (names ++ [last])) :
    Grows changed tree { tree with root := Entry.putBelow new (names ++ [last]) tree.root } := by
  -- The new entry is at its place, and the way to it branches off everywhere else.
  have put := Entry.below?_putBelow new (names ++ [last]) tree.root
  refine ⟨rfl, ?_, ?_, ?_⟩
  · intro place inside found
    have elsewhere : place ≠ names ++ [last] := fun here => free inside (here ▸ found)
    rcases Entry.below?_putBelow_of_ne stands free elsewhere found with same | ⟨-, later, there⟩
    · exact ⟨inside, same⟩
    · exact ⟨later, there⟩
  · intro place content found
    -- Only the place of the new entry can hold a file that was changed.
    by_cases here : place = names ++ [last]
    · subst here
      rcases leaf with ⟨-, nothing⟩ | ⟨⟨later, rfl⟩, covered⟩
      · rw [found] at nothing
        cases nothing
      · exact ⟨later, put, Or.inl covered⟩
    · rcases Entry.below?_putBelow_of_ne stands free here found with same | ⟨isFolder, -⟩
      · exact ⟨content, same, Or.inr rfl⟩
      · cases isFolder
  · intro place content found
    by_cases here : place = names ++ [last]
    · subst here
      rcases leaf with ⟨rfl, -⟩ | ⟨-, covered⟩
      · rw [put] at found
        cases found
      · exact Or.inl covered
    · -- An empty folder and a file have nothing below them.
      have bare : ∀ name rest, new.below? (name :: rest) = none := by
        rcases leaf with ⟨rfl, -⟩ | ⟨⟨later, rfl⟩, -⟩
        · exact fun _ _ => rfl
        · exact fun _ _ => rfl
      obtain ⟨old, there, rfl | ⟨-, isFolder⟩⟩ :=
        Entry.below?_of_putBelow stands bare here found
      · exact Or.inr there
      · cases isFolder

/-- A walk does not begin where there is no folder. -/
theorem walk_of_not_folder {root : Entry} {place : List String}
    (stands : ¬∃ entries, root.below? place = some (.folder entries)) (part : String)
    (rest : List String) : walk root place (part :: rest) = .error .notFolder := by
  -- The walk asks for a folder before it looks at the part.
  rw [walk]
  split
  · next entries folder => exact absurd ⟨entries, folder⟩ stands
  · rfl

/-- A walk that leads anywhere begins in a folder. -/
theorem exists_folder_of_walk {root : Entry} {place : List String} {part : String}
    {rest names : List String} (walks : walk root place (part :: rest) = .ok names) :
    ∃ entries, root.below? place = some (.folder entries) := by
  -- If there were no folder, the walk would end with a fault.
  by_contra stands
  rw [walk_of_not_folder stands] at walks
  cases walks

/-- From a folder the walk goes on, stays, goes back or ends with a fault. -/
theorem walk_cons {root : Entry} {place : List String} {entries : List (String × Entry)}
    (stands : root.below? place = some (.folder entries)) (part : String) (rest : List String) :
    walk root place (part :: rest) =
      if part = "" ∨ part = "." then walk root place rest
      else if part = ".." then walk root place.dropLast rest
      else if !nameFits part then .error .tooLong
      else if (root.below? (place ++ [part])).isSome then walk root (place ++ [part]) rest
      else .error .missing := by
  -- A folder stands there, and what is behind a name is looked up in it.
  rw [walk, stands, Entry.below?_concat stands]

/-- Something is where it was, if not in the same state. -/
theorem Grows.isSome (grows : Grows changed before after) {names : List String}
    (found : (before.root.below? names).isSome) : (after.root.below? names).isSome := by
  -- Files stay files, and folders stay folders.
  obtain ⟨entry, there⟩ := Option.isSome_iff_exists.mp found
  cases entry with
  | file content =>
    obtain ⟨later, still, -⟩ := grows.file names content there
    exact Option.isSome_iff_exists.mpr ⟨_, still⟩
  | folder entries =>
    obtain ⟨later, still⟩ := grows.folder names entries there
    exact Option.isSome_iff_exists.mpr ⟨_, still⟩

/-- A walk through a tree that has grown leads where it led before. -/
theorem Grows.walk (grows : Grows changed before after) {place parts names : List String}
    (walks : walk before.root place parts = .ok names) :
    walk after.root place parts = .ok names := by
  -- In each folder the walk takes the same turn as before, since nothing is missing.
  induction parts generalizing place with
  | nil => exact walks
  | cons part rest ih =>
    obtain ⟨entries, stands⟩ := exists_folder_of_walk walks
    obtain ⟨later, still⟩ := grows.folder place entries stands
    rw [walk_cons stands] at walks
    rw [walk_cons still]
    -- The part stays, leads back, or goes down to an entry that is still there.
    split_ifs at walks with stays back fits there
    · rw [if_pos stays]
      exact ih walks
    · rw [if_neg stays, if_pos back]
      exact ih walks
    · rw [if_neg stays, if_neg back, if_neg fits, if_pos (grows.isSome there)]
      exact ih walks

/-- A path has the same parts when the tree has grown. -/
theorem Grows.partsOf (grows : Grows changed before after) (path : String) :
    after.partsOf path = before.partsOf path := by
  -- Only the working folder is asked for, and a tree keeps it.
  rw [FileTree.partsOf, FileTree.partsOf, grows.workingFolder]

/-- A path leads where its parts lead. -/
theorem walk_of_locate {path : String} {names : List String}
    (located : tree.locate path = .ok names) :
    walk tree.root [] (tree.partsOf path) = .ok names := by
  -- The text passed its check, so the walk is what is left.
  rw [FileTree.locate] at located
  split at located
  · cases located
  · exact located

/-- A path that leads somewhere leads there when the tree has grown. -/
theorem Grows.locate (grows : Grows changed before after) {path : String} {names : List String}
    (located : before.locate path = .ok names) : after.locate path = .ok names := by
  -- The check of the text does not ask the tree.
  rw [FileTree.locate] at located ⊢
  cases faulty : Path.fault? path with
  | some fault => rw [faulty] at located; cases located
  | none =>
    rw [faulty] at located
    rw [grows.partsOf]
    -- The parts are the same, and the walk goes through the grown tree as before.
    exact grows.walk located

/-- A walk may be taken in two pieces. -/
theorem walk_append {root : Entry} {place front back names : List String} :
    walk root place (front ++ back) = .ok names ↔
      ∃ middle, walk root place front = .ok middle ∧ walk root middle back = .ok names := by
  -- The place after the first piece is where the second one begins.
  induction front generalizing place with
  | nil => simp [walk]
  | cons part rest ih =>
    by_cases stands : ∃ entries, root.below? place = some (.folder entries)
    · obtain ⟨entries, stands⟩ := stands
      rw [List.cons_append, walk_cons stands, walk_cons stands]
      split_ifs
      · exact ih
      · exact ih
      · simp
      · exact ih
      · simp
    · -- Neither walk begins where there is no folder.
      constructor
      · intro walks
        exact absurd (exists_folder_of_walk walks) stands
      · intro pieces
        obtain ⟨middle, walks, -⟩ := pieces
        exact absurd (exists_folder_of_walk walks) stands

/-- On the way to a name the parts that lead nowhere may be left out. -/
theorem walk_steps {root : Entry} {place : List String} (parts : List String) (name : String) :
    walk root place (Path.steps parts ++ [name]) = walk root place (parts ++ [name]) := by
  -- Idle parts leave the walk where it is, but a folder must be there.
  induction parts generalizing place with
  | nil => rfl
  | cons part rest ih =>
    by_cases stands : ∃ entries, root.below? place = some (.folder entries)
    · obtain ⟨entries, stands⟩ := stands
      rw [List.cons_append, walk_cons stands, Path.steps_cons]
      by_cases idle : part = "" ∨ part = "."
      · rw [if_pos idle, if_pos idle, ih]
      · rw [if_neg idle, if_neg idle, List.cons_append, walk_cons stands, if_neg idle, ih, ih]
    · -- Something is left of the parts on both sides, and it is asked of no folder.
      obtain ⟨first, more, left⟩ := List.exists_cons_of_ne_nil
        (show Path.steps (part :: rest) ++ [name] ≠ [] by simp)
      rw [left, List.cons_append, walk_of_not_folder stands, walk_of_not_folder stands]

/-- From a folder a proper name leads to the entry of that name, if there is one. -/
theorem walk_name_iff {root : Entry} {place names : List String} {name : String}
    (proper : isDots name = false) :
    walk root place [name] = .ok names ↔
      (∃ entries, root.below? place = some (.folder entries)) ∧ nameFits name ∧
        (root.below? (place ++ [name])).isSome ∧ names = place ++ [name] := by
  -- A proper name is neither idle nor a step back.
  simp only [isDots, Bool.or_eq_false_iff, decide_eq_false_iff_not] at proper
  obtain ⟨⟨full, dot⟩, dots⟩ := proper
  by_cases stands : ∃ entries, root.below? place = some (.folder entries)
  · obtain ⟨entries, folder⟩ := stands
    rw [walk_cons folder, if_neg (not_or.mpr ⟨full, dot⟩), if_neg dots]
    -- The name must fit, and something must be there.
    by_cases fits : nameFits name
    · by_cases there : (root.below? (place ++ [name])).isSome
      · simp [folder, fits, there, walk, eq_comm]
      · simp [fits, there]
    · simp [fits]
  · simp [walk_of_not_folder stands, stands]

/-- Reading finds the content of the file to which the path leads. -/
theorem read_eq_ok_iff {path : String} {content : ByteArray} :
    tree.read path = .ok content ↔
      ∃ names, tree.locate path = .ok names ∧ tree.root.below? names = some (.file content) := by
  -- The path must lead somewhere, and a file must be there.
  rw [FileTree.read]
  cases located : tree.locate path with
  | error => simp
  | ok names =>
    simp only [Except.ok.injEq, exists_eq_left']
    cases there : tree.root.below? names with
    | none => simp
    | some entry => cases entry <;> simp

/-- A file that could be read can be read when the tree has grown. -/
theorem Grows.read (grows : Grows changed before after) {path : String} {content : ByteArray}
    (reads : before.read path = .ok content) :
    ∃ names later, after.locate path = .ok names ∧ after.read path = .ok later ∧
      (changed names ∨ later = content) := by
  -- The file is where it was, perhaps with another content.
  obtain ⟨names, located, there⟩ := read_eq_ok_iff.mp reads
  obtain ⟨later, still, kept⟩ := grows.file names content there
  have located' := grows.locate located
  exact ⟨names, later, located', read_eq_ok_iff.mpr ⟨names, located', still⟩, kept⟩

/-- The place of a new entry is a name in a folder. -/
theorem exists_of_place {parts folder : List String} {last : String}
    (placed : tree.place parts = .ok (folder, last)) :
    ∃ outer entries, parts = outer ++ [last] ∧ walk tree.root [] outer = .ok folder ∧
      tree.root.below? folder = some (.folder entries) ∧ nameFits last := by
  -- Every other outcome is a fault.
  rw [place] at placed
  split at placed
  · next walks ends =>
    split at placed
    · next entries stands =>
      split_ifs at placed with fits
      cases placed
      refine ⟨parts.dropLast, entries, ?_, walks, stands, fits⟩
      exact (List.dropLast_append_getLast? last ends).symm
    · cases placed
  · cases placed
  · cases placed

/-- Making a folder makes a tree grow, and no file changes. -/
theorem grows_makeFolder {path : String} (made : tree.makeFolder path = .ok after) :
    Grows changed tree after := by
  -- The text has passed its check, and the place is a name in a folder.
  rw [makeFolder] at made
  split at made
  · cases made
  · split at made
    · cases made
    · next names last placed =>
      obtain ⟨-, entries, -, -, stands, -⟩ := exists_of_place placed
      split_ifs at made with taken
      cases made
      -- A place that was taken is refused, so nothing is replaced.
      rw [Bool.or_eq_true, not_or, Option.not_isSome_iff_eq_none] at taken
      exact grows_putBelow stands (by simp [taken.2]) (Or.inl ⟨rfl, taken.2⟩)

/-- Adding a folder makes a tree grow, whether or not that can be done. -/
theorem grows_addFolder (tree : FileTree) (path : String) :
    Grows changed tree (tree.addFolder path).1 := by
  -- A folder that cannot be made leaves the tree as it was.
  rw [addFolder]
  split
  · next made => exact grows_makeFolder made
  · exact Grows.refl tree

/-- Adding folders makes a tree grow, however many of them are made. -/
theorem grows_addFoldersWithin (room : Nat) (tree : FileTree) (path : String) :
    Grows changed tree (addFoldersWithin room tree path).1 := by
  -- The room bounds how often the search goes up for a folder that is there.
  induction room generalizing tree path with
  | zero => exact Grows.refl tree
  | succ room ih =>
    simp only [addFoldersWithin]
    split_ifs
    · exact grows_addFolder tree path
    · exact ih tree _
    · exact ih tree _
    · -- First the folder above is added, and then the folder itself.
      exact (ih tree _).trans (grows_addFolder _ path)

/-- Making sure that there is a folder makes a tree grow, whether or not there is a fault. -/
theorem grows_ensureFolder (tree : FileTree) (path : String) :
    Grows changed tree (tree.ensureFolder path).1 := by
  -- If the folder is there, nothing is added.
  rw [ensureFolder]
  split
  · exact Grows.refl tree
  · exact grows_addFoldersWithin _ tree path

/-- A file is written into a folder that is there, under a proper name that no folder has. -/
theorem exists_of_write {path : String} {content : ByteArray}
    (written : tree.write path content = .ok after) :
    ∃ outer last folder entries, Path.fault? path = none ∧ tree.partsOf path = outer ++ [last] ∧
      walk tree.root [] outer = .ok folder ∧
      tree.root.below? folder = some (.folder entries) ∧ nameFits last ∧ isDots last = false ∧
      (∀ inside, tree.root.below? (folder ++ [last]) ≠ some (.folder inside)) ∧
      after = { tree with
        root := Entry.putBelow (.file content) (folder ++ [last]) tree.root } := by
  -- The checks come one after the other, and each fault ends the writing.
  rw [FileTree.write] at written
  split at written
  · cases written
  · next clean =>
    split at written
    · cases written
    · next folder last placed =>
      obtain ⟨outer, entries, parted, walks, stands, fits⟩ := exists_of_place placed
      split at written
      · cases written
      · next free =>
        split_ifs at written with dots
        exact ⟨outer, last, folder, entries, clean, parted, walks, stands, fits,
          Bool.not_eq_true _ ▸ dots, free, (Except.ok.inj written).symm⟩

/-- Writing a file puts its content at the place of its path, and no other file changes. -/
theorem write_spec {path : String} {content : ByteArray} {outer : List String} {last : String}
    (ends : tree.partsOf path = outer ++ [last]) (written : tree.write path content = .ok after) :
    ∃ folder, after.locate path = .ok (folder ++ [last]) ∧
      after.root.below? (folder ++ [last]) = some (.file content) ∧
      Grows (· = folder ++ [last]) tree after := by
  obtain ⟨front, name, folder, entries, clean, parted, walks, stands, fits, proper, free, rfl⟩ :=
    exists_of_write written
  -- Both descriptions of the parts end with the same name.
  obtain ⟨rfl, same⟩ := List.append_inj' (ends.symm.trans parted) rfl
  obtain rfl : last = name := by simpa using same
  -- A file is put where no folder is, so the tree grows.
  have grows : Grows (· = folder ++ [last]) tree
      { tree with root := Entry.putBelow (.file content) (folder ++ [last]) tree.root } :=
    grows_putBelow stands free (Or.inr ⟨⟨content, rfl⟩, rfl⟩)
  have there := Entry.below?_putBelow (.file content) (folder ++ [last]) tree.root
  refine ⟨folder, ?_, there, grows⟩
  -- The folder is where it was, and now it has an entry of that name.
  have named := (walk_name_iff proper).mpr
    ⟨grows.folder folder entries stands, fits, Option.isSome_of_eq_some there, rfl⟩
  rw [locate, clean, grows.partsOf, ends]
  exact walk_append.mpr ⟨folder, grows.walk walks, named⟩

end FileTree

end Flowprint
