import Flowprint.File.Search
import Flowprint.Proofs.File.Visits
import Mathlib.Data.String.Basic

/-!
A search lists every document anywhere below a folder, each once and in ascending order.

The order in which folders are visited and in which their files are met does not matter.
-/

namespace Flowprint

/-- A list without repetition is sorted into the ascending list of its elements. -/
theorem Ascending.mergeSort_eq {items sorted : List String} (once : items.Nodup)
    (ascending : sorted.Pairwise (· < ·)) (same : ∀ item, item ∈ items ↔ item ∈ sorted) :
    items.mergeSort = sorted := by
  -- Two lists in order are the same if each is a permutation of the other.
  have inOrder : items.mergeSort.Pairwise (· ≤ ·) := by
    have result : items.mergeSort.Pairwise fun first second => decide (first ≤ second) = true :=
      List.pairwise_mergeSort (by simpa using fun _ _ _ => String.le_trans)
        (by simpa using String.le_total) items
    simpa only [decide_eq_true_eq] using result
  have perm : items.Perm sorted :=
    (List.perm_ext_iff_of_nodup once (ascending.imp fun below => ne_of_lt below)).mpr same
  exact List.Perm.eq_of_pairwise (fun _ _ _ _ => String.le_antisymm) inOrder
    (ascending.imp fun below => le_of_lt below) ((List.mergeSort_perm _ _).trans perm)

namespace FileTree

/-- The absolute path of what some names lead to below a source. -/
def pathBelow (tree : FileTree) (source : String) (names : List String) : String :=
  tree.absolute (Path.join source ("/".intercalate names))

/-- The names that lead to the files with one of some extensions, in the order of the visits. -/
def found (extensions : List String) (visits : List Visit) : List (List String) :=
  visits.flatMap fun visit =>
    (visit.files.filter (hasExtension extensions)).map fun name => visit.folder ++ [name]

/-- The paths that a search gathers from its visits, with the names joined one by one. -/
def gathered (tree : FileTree) (source : String) (extensions : List String)
    (visits : List Visit) : List String :=
  visits.flatMap fun visit =>
    (visit.files.filter (hasExtension extensions)).map fun name =>
      tree.absolute (Path.join (visit.folder.foldl Path.join source) name)

/-- The visits from a source on, each folder before the folders in it. -/
def visits (tree : FileTree) (source : String) : List Visit :=
  ((tree.entry? source).map Entry.visits).getD []

/-- No folder below a source is too deep for a search to enter it. -/
def Enterable (tree : FileTree) (source : String) : Prop :=
  ∀ entries names inside, tree.entry? source = some (.folder entries) →
    (Entry.folder entries).below? names = some (.folder inside) → reaches source names

/-- Two trees have folders in the same places and files in the same places. -/
structure Alike (first second : FileTree) : Prop where
  /-- Relative paths mean the same. -/
  workingFolder : second.workingFolder = first.workingFolder
  /-- What has a place in one tree is of the same kind in the other one. -/
  kinds : ∀ names, (second.root.below? names).map Entry.isFolder =
    (first.root.below? names).map Entry.isFolder

/-- Some paths are those of all documents anywhere below a folder. -/
structure Lists (tree : FileTree) (source : String) (folder : Entry) (paths : List String) :
    Prop where
  /-- The paths ascend, and none stands twice. -/
  ascending : paths.Pairwise (· < ·)
  /-- Exactly the paths of the documents are listed. -/
  documents : ∀ path, path ∈ paths ↔ ∃ outer name content,
    folder.below? (outer ++ [name]) = some (.file content) ∧
      ".json".toList <:+ (Text.lowercase name).toList ∧
      path = tree.pathBelow source (outer ++ [name])
  /-- Every file has a path of its own. -/
  apart : ∀ first second content content', folder.below? first = some (.file content) →
    folder.below? second = some (.file content') →
    tree.pathBelow source first = tree.pathBelow source second → first = second

section Gathered

variable {tree : FileTree} {source path : String} {extensions : List String} {entry : Entry}
  {entries : List (String × Entry)} {visits : List Visit} {names : List String}

/-- The names that are found are those of the files with one of the extensions. -/
theorem mem_found_iff (enumerates : entry.Enumerates visits) :
    names ∈ found extensions visits ↔ ∃ outer name content, names = outer ++ [name] ∧
      entry.below? (outer ++ [name]) = some (.file content) ∧ hasExtension extensions name := by
  simp only [found, List.mem_flatMap, List.mem_map, List.mem_filter]
  constructor
  · rintro ⟨visit, visited, name, ⟨met, fits⟩, rfl⟩
    obtain ⟨content, there⟩ := (enumerates.files visit visited name).mp met
    exact ⟨visit.folder, name, content, rfl, there, fits⟩
  · rintro ⟨outer, name, content, rfl, there, fits⟩
    -- The file is in a folder, which is visited.
    obtain ⟨visit, visited, rfl⟩ := List.mem_map.mp
      ((enumerates.folders outer).mpr (Entry.exists_folder_of_below? (List.cons_ne_nil _ _) there))
    exact ⟨visit, visited, name,
      ⟨(enumerates.files visit visited name).mpr ⟨content, there⟩, fits⟩, rfl⟩

/-- No file is found twice. -/
theorem nodup_found (enumerates : entry.Enumerates visits) : (found extensions visits).Nodup := by
  refine List.nodup_flatMap.mpr ⟨fun visit visited => ?_, ?_⟩
  · refine ((enumerates.distinct visit visited).filter _).map fun first second same => ?_
    exact (List.append_inj' same rfl).2 |> List.singleton_injective
  · -- Files that are met in different visits are in different folders.
    refine (List.pairwise_map.mp enumerates.once).imp fun apart => ?_
    simp only [Function.onFun, List.disjoint_left, List.mem_map]
    rintro _ ⟨name, -, rfl⟩ ⟨other, -, same⟩
    exact apart (List.append_inj' same rfl).1.symm

/-- A path with an entry is not empty. -/
theorem ne_empty_of_entry (there : tree.entry? source = some entry) : source ≠ "" := by
  -- The empty path leads nowhere, so it has no entry.
  rintro rfl
  simp [FileTree.entry?, locate, Path.fault?] at there

/-- The entry of a path stands somewhere in the tree. -/
theorem exists_names_of_entry (there : tree.entry? source = some entry) :
    ∃ names, tree.locate source = .ok names ∧ tree.root.below? names = some entry := by
  -- Only a path that is located has an entry.
  rw [FileTree.entry?] at there
  split at there
  · next names located => exact ⟨names, located, there⟩
  · cases there

/-- Different files below a source have different paths. -/
theorem pathBelow_inj (proper : (Entry.folder entries).Proper)
    (there : tree.entry? source = some (.folder entries)) {first second : List String}
    {content content' : ByteArray}
    (here : (Entry.folder entries).below? first = some (.file content))
    (here' : (Entry.folder entries).below? second = some (.file content'))
    (same : tree.pathBelow source first = tree.pathBelow source second) : first = second := by
  have named := ne_empty_of_entry there
  have proper₁ := (proper.of_below? here).2
  have proper₂ := (proper.of_below? here').2
  -- The folder itself is no file, so there is a name on each side.
  have filled : first ≠ [] := by
    rintro rfl
    simp [Entry.below?] at here
  have filled' : second ≠ [] := by
    rintro rfl
    simp [Entry.below?] at here'
  -- The names are joined to the source one by one, which is the same as at once.
  rw [pathBelow, pathBelow, absolute, absolute,
    Path.join_join _ named (Path.isAbsolute_intercalate proper₁),
    Path.join_join _ named (Path.isAbsolute_intercalate proper₂)] at same
  -- Different names below one folder have different normal forms.
  exact Path.normalise_join_inj _ proper₁ filled proper₂ filled' same

/-- The gathered paths are those of the names that are found. -/
theorem gathered_eq (proper : entry.Proper) (enumerates : entry.Enumerates visits) :
    tree.gathered source extensions visits =
      (found extensions visits).map (tree.pathBelow source) := by
  -- Each visit gives its own names, so both lists are compared visit by visit.
  rw [gathered, found, List.map_flatMap]
  refine List.flatMap_congr fun visit visited => ?_
  rw [List.map_map]
  refine List.map_congr_left fun name met => ?_
  -- A name that was met is that of a file, so the way to it is made of proper names.
  obtain ⟨content, there⟩ :=
    (enumerates.files visit visited name).mp (List.mem_of_mem_filter met)
  rw [Function.comp_apply, pathBelow, ← Path.foldl_join source (proper.of_below? there).2 (by simp),
    List.foldl_append, List.foldl_cons, List.foldl_nil]

/-- A search finds the files with one of the extensions, if it can enter every folder. -/
theorem mem_filesBelow_iff (proper : (Entry.folder entries).Proper)
    (enterable : tree.Enterable source) (there : tree.entry? source = some (.folder entries)) :
    path ∈ tree.filesBelow source extensions ↔ ∃ outer name content,
      (Entry.folder entries).below? (outer ++ [name]) = some (.file content) ∧
        hasExtension extensions name ∧ path = tree.pathBelow source (outer ++ [name]) := by
  have files (names : List String) (content : ByteArray) :
      (names, content) ∈ Entry.filesAmong entries ↔
        (Entry.folder entries).below? names = some (.file content) := by
    rw [← proper.mem_files_iff, Entry.files]
  -- What is listed are the files of the folder whose names fit, sorted by path.
  rw [filesBelow, there]
  simp only [Ascending.mem_sort, List.mem_map, List.mem_filter, Bool.and_eq_true]
  constructor
  · rintro ⟨⟨names, content⟩, ⟨member, -, fits⟩, rfl⟩
    have leads := (files names content).mp member
    -- The folder itself is no file, so the names have a last one.
    rcases List.eq_nil_or_concat names with rfl | ⟨outer, name, rfl⟩
    · simp [Entry.below?] at leads
    · rw [List.concat_eq_append, List.getLast?_concat, Option.getD_some] at fits
      exact ⟨outer, name, content, List.concat_eq_append ▸ leads, fits,
        by rw [pathBelow, List.concat_eq_append]⟩
  · rintro ⟨outer, name, content, leads, fits, same⟩
    -- The file lies in some folder, and the search enters it.
    obtain ⟨inside, around⟩ := Entry.exists_folder_of_below? (List.cons_ne_nil _ _) leads
    refine ⟨(outer ++ [name], content), ⟨(files _ _).mpr leads, ?_, ?_⟩, same.symm⟩
    · rw [List.dropLast_concat]
      exact enterable entries outer inside there around
    · rwa [List.getLast?_concat, Option.getD_some]

/-- The files below a source are listed in ascending order. -/
theorem pairwise_filesBelow (tree : FileTree) (source : String) (extensions : List String) :
    (tree.filesBelow source extensions).Pairwise (· < ·) := by
  -- The list was sorted, or it is empty.
  rw [filesBelow]
  split
  · exact Ascending.pairwise_sort _
  · exact List.Pairwise.nil

/-- No path is gathered twice. -/
theorem nodup_gathered (proper : (Entry.folder entries).Proper)
    (there : tree.entry? source = some (.folder entries))
    (enumerates : (Entry.folder entries).Enumerates visits) :
    (tree.gathered source extensions visits).Nodup := by
  -- The names that are found are distinct, and so are their paths.
  rw [gathered_eq proper enumerates]
  refine (nodup_found enumerates).map_on fun first here second here' same => ?_
  -- Each name found stands for a file, and two files have two paths.
  obtain ⟨_, _, _, rfl, leads, -⟩ := (mem_found_iff enumerates).mp here
  obtain ⟨_, _, _, rfl, leads', -⟩ := (mem_found_iff enumerates).mp here'
  exact pathBelow_inj proper there leads leads' same

/-- Whatever the order of the visits, the gathered paths are sorted into the same list. -/
theorem mergeSort_gathered (proper : (Entry.folder entries).Proper)
    (enterable : tree.Enterable source) (there : tree.entry? source = some (.folder entries))
    (enumerates : (Entry.folder entries).Enumerates visits) :
    (tree.gathered source extensions visits).mergeSort = tree.filesBelow source extensions := by
  -- Two sorted lists with the same members and no repetitions are the same.
  refine Ascending.mergeSort_eq (nodup_gathered proper there enumerates)
    (pairwise_filesBelow tree source extensions) fun path => ?_
  -- On both sides the members are the files whose names fit.
  rw [mem_filesBelow_iff proper enterable there, gathered_eq proper enumerates, List.mem_map]
  constructor
  · rintro ⟨names, here, rfl⟩
    obtain ⟨outer, name, content, rfl, leads, fits⟩ := (mem_found_iff enumerates).mp here
    exact ⟨outer, name, content, leads, fits, rfl⟩
  · rintro ⟨outer, name, content, leads, fits, same⟩
    have here := (mem_found_iff enumerates).mpr ⟨outer, name, content, rfl, leads, fits⟩
    exact ⟨_, here, same.symm⟩

/-- A folder has a path if its entry is a folder. -/
theorem hasFolder_iff : tree.hasFolder source = true ↔
    ∃ entries, tree.entry? source = some (.folder entries) := by
  -- A path that leads nowhere has no folder, and a file is not one.
  rw [hasFolder]
  cases tree.entry? source with
  | none => simp
  | some entry => cases entry <;> simp [Entry.isFolder]

/-- A document is a file whose name in lower case ends with the one extension. -/
theorem hasExtension_documentExtensions (name : String) :
    hasExtension documentExtensions name ↔ ".json".toList <:+ (Text.lowercase name).toList := by
  -- There is one extension only, so one suffix is asked for.
  simp only [hasExtension, documentExtensions, List.any_cons, List.any_nil, Bool.or_false,
    List.isSuffixOf_iff_suffix]

/-- The entry of a path in a proper tree is proper. -/
theorem proper_of_entry (proper : tree.root.Proper) (there : tree.entry? source = some entry) :
    entry.Proper := by
  -- An entry of the tree is proper because the tree is.
  obtain ⟨names, -, leads⟩ := exists_names_of_entry there
  exact (proper.of_below? leads).1

/-- The visits from a source on are an enumeration of the entry that it has. -/
theorem enumerates_visits (proper : tree.root.Proper) (there : tree.entry? source = some entry) :
    entry.Enumerates (tree.visits source) := by
  -- The visits are those of the entry that the path leads to.
  have visited : tree.visits source = entry.visits := by rw [FileTree.visits, there]; rfl
  exact visited ▸ (proper_of_entry proper there).enumerates_visits

/-- Every folder below a source can be entered if every one that is visited can. -/
theorem enterable_of_forall_visits (proper : tree.root.Proper)
    (reached : ∀ visit ∈ tree.visits source, reaches source visit.folder) :
    tree.Enterable source := by
  -- A folder is met on some visit, and each of these can be entered.
  intro entries names inside there leads
  obtain ⟨visit, visited, rfl⟩ := List.mem_map.mp
    (((enumerates_visits proper there).folders names).mpr ⟨inside, leads⟩)
  exact reached visit visited

/-- The documents in a folder are listed. -/
theorem lists_filesOf (proper : tree.root.Proper) (enterable : tree.Enterable source)
    (there : tree.entry? source = some (.folder entries)) :
    tree.Lists source (.folder entries) (tree.filesOf source) := by
  -- The source is a folder, so its files are searched for and sorted.
  have inside := proper_of_entry proper there
  rw [filesOf, if_pos (hasFolder_iff.mpr ⟨entries, there⟩)]
  refine ⟨pairwise_filesBelow tree source documentExtensions, fun path => ?_,
    fun first second content content' here here' same =>
      pathBelow_inj inside there here here' same⟩
  -- The extensions stand for the condition on the name.
  rw [mem_filesBelow_iff inside enterable there]
  simp only [hasExtension_documentExtensions]

end Gathered

section Alike

variable {tree other : FileTree} {source : String} {entries : List (String × Entry)}

/-- Trees are alike in both directions. -/
theorem Alike.symm (alike : Alike tree other) : Alike other tree :=
  -- Kinds are compared as values, so either tree may come first.
  ⟨alike.workingFolder.symm, fun names => (alike.kinds names).symm⟩

/-- A tree grows into one that is alike, if its files may change. -/
theorem Alike.grows (alike : Alike tree other) : Grows (fun _ => True) tree other := by
  -- Folders stay folders and files stay files, because the kinds are the same.
  refine ⟨alike.workingFolder, fun names entries there => ?_, fun names content there => ?_,
    fun _ _ _ => Or.inl trivial⟩
  · have kind := alike.kinds names
    rw [there] at kind
    exact Entry.map_isFolder_eq_true_iff.mp kind
  · have kind := alike.kinds names
    rw [there] at kind
    obtain ⟨later, still⟩ := Entry.map_isFolder_eq_false_iff.mp kind
    exact ⟨later, still, Or.inl trivial⟩

/-- A path leads to a folder in both trees, and what is below it is of the same kind. -/
theorem Alike.entry (alike : Alike tree other)
    (there : tree.entry? source = some (.folder entries)) :
    ∃ others, other.entry? source = some (.folder others) ∧
      ∀ names, ((Entry.folder others).below? names).map Entry.isFolder =
        ((Entry.folder entries).below? names).map Entry.isFolder := by
  -- The path leads to the same names in both trees, as the tree may be said to have grown.
  obtain ⟨place, located, leads⟩ := exists_names_of_entry there
  obtain ⟨others, leads'⟩ := alike.grows.folder place entries leads
  refine ⟨others, ?_, fun names => ?_⟩
  · rw [FileTree.entry?, alike.grows.locate located]
    exact leads'
  · -- The kinds below the folder are those of the tree, one way further down.
    have kind := alike.kinds (place ++ names)
    rwa [Entry.below?_append, Entry.below?_append, leads, leads', Option.bind_some,
      Option.bind_some] at kind

/-- A search can enter the folders of a tree if it can enter those of one that is alike. -/
theorem Alike.enterable (alike : Alike tree other) (enterable : tree.Enterable source) :
    other.Enterable source := by
  -- Each folder inside is a folder of the other tree as well.
  intro others names inside there leads
  obtain ⟨entries, there', kinds⟩ := alike.symm.entry there
  have kind := kinds names
  rw [leads] at kind
  obtain ⟨inside', leads'⟩ := Entry.map_isFolder_eq_true_iff.mp kind
  exact enterable entries names inside' there' leads'

/-- The files of a source are the same in trees that are alike. -/
theorem Alike.filesOf (alike : Alike tree other) (proper : tree.root.Proper)
    (proper' : other.root.Proper) (enterable : tree.Enterable source) :
    other.filesOf source = tree.filesOf source := by
  -- A source is a folder in both trees or in neither.
  rw [FileTree.filesOf, FileTree.filesOf]
  by_cases isFolder : tree.hasFolder source
  · obtain ⟨entries, there⟩ := hasFolder_iff.mp isFolder
    obtain ⟨others, there', kinds⟩ := alike.entry there
    -- The same visits are an enumeration of both folders.
    have visited := enumerates_visits proper there
    rw [if_pos isFolder, if_pos (hasFolder_iff.mpr ⟨others, there'⟩),
      ← mergeSort_gathered (proper_of_entry proper there) enterable there visited,
      ← mergeSort_gathered (proper_of_entry proper' there') (alike.enterable enterable) there'
        (visited.of_kinds kinds)]
    simp only [gathered, absolute, alike.workingFolder]
  · -- A folder in the other tree would be one here, too.
    have bare : ¬other.hasFolder source := by
      rw [hasFolder_iff]
      rintro ⟨others, there⟩
      obtain ⟨entries, there', -⟩ := alike.symm.entry there
      exact isFolder (hasFolder_iff.mpr ⟨entries, there'⟩)
    rw [if_neg isFolder, if_neg bare, absolute, absolute, alike.workingFolder]

end Alike

/--
The listed files are those of one source after the other: all documents anywhere below a folder, in
ascending order and each once, and whatever is no folder by itself.

Every search sorts what it gathers, so the list is the same in whatever order each of them visits
the folders. It is also the same for every tree that has folders and files in the same places.
-/
theorem fileList_complete {tree : FileTree} (proper : tree.root.Proper) {sources : List String}
    (enterable : ∀ source ∈ sources, tree.Enterable source) :
    (tree.fileList sources = sources.flatMap tree.filesOf ∧ ∀ source ∈ sources,
      (∀ entries, tree.entry? source = some (.folder entries) →
        tree.Lists source (.folder entries) (tree.filesOf source)) ∧
      (tree.hasFolder source = false → tree.filesOf source = [tree.absolute source])) ∧
    (∀ searches : List (String × List Visit), searches.map (·.1) = sources →
      (∀ search ∈ searches, ∀ entries, tree.entry? search.1 = some (.folder entries) →
        (Entry.folder entries).Enumerates search.2) →
      tree.fileList sources = searches.flatMap fun search =>
        if tree.hasFolder search.1 then
          (tree.gathered search.1 documentExtensions search.2).mergeSort
        else [tree.absolute search.1]) ∧
    ∀ other : FileTree, other.root.Proper → Alike tree other →
      other.fileList sources = tree.fileList sources := by
  -- The parts are the sources one by one, the searches, and the trees that are alike.
  refine ⟨⟨rfl, fun source member => ⟨fun entries there => ?_, fun bare => ?_⟩⟩,
    fun searches searched enumerates => ?_, fun other proper' alike => ?_⟩
  · exact lists_filesOf proper (enterable source member) there
  · rw [filesOf, if_neg (by simp [bare])]
  · -- A search in any order gives what the own search of the tree gives.
    rw [fileList, ← searched, List.flatMap_map]
    refine List.flatMap_congr fun search member => ?_
    have listed : search.1 ∈ sources := searched ▸ List.mem_map_of_mem member
    by_cases isFolder : tree.hasFolder search.1
    · obtain ⟨entries, there⟩ := hasFolder_iff.mp isFolder
      rw [filesOf, if_pos isFolder, if_pos isFolder,
        mergeSort_gathered (proper_of_entry proper there) (enterable search.1 listed) there
          (enumerates search member entries there)]
    · rw [filesOf, if_neg isFolder, if_neg isFolder]
  · -- Trees that are alike have the same files below each source.
    exact List.flatMap_congr fun source member =>
      alike.filesOf proper proper' (enterable source member)

/-- Two documents below a folder, one of them in a folder that has the name of a document. -/
def nested : FileTree :=
  ⟨.folder [("z.txt", .file "?".toUTF8), ("d", .folder [("x.json", .folder
    [("b.txt", .file "?".toUTF8), ("a.json", .file "?".toUTF8)]), ("Y.JSON", .file "?".toUTF8)])],
    "/"⟩

/-- A folder is searched twice, once with the folder in it first, and a file stands between. -/
theorem fileList_complete_nested :
    let sources := ["d", "z.txt", "d"]
    let searches := [("d", (nested.visits "d").reverse), ("z.txt", []), ("d", nested.visits "d")]
    nested.root.Proper ∧ (∀ source ∈ sources, nested.Enterable source) ∧
      nested.fileList sources = searches.flatMap (fun search =>
        if nested.hasFolder search.1 then
          (nested.gathered search.1 documentExtensions search.2).mergeSort
        else [nested.absolute search.1]) ∧
      nested.fileList sources =
        ["/d/Y.JSON", "/d/x.json/a.json", "/z.txt", "/d/Y.JSON", "/d/x.json/a.json"] := by
  intro sources searches
  -- Properness follows the tree: distinct and proper names in each folder.
  have proper : nested.root.Proper := by
    refine .folder (by decide) (by decide) ?_
    simp only [List.forall_mem_cons]
    refine ⟨.file _, .folder (by decide) (by decide) ?_, by simp⟩
    simp only [List.forall_mem_cons]
    refine ⟨.folder (by decide) (by decide) ?_, .file _, by simp⟩
    simp only [List.forall_mem_cons]
    exact ⟨.file _, .file _, by simp⟩
  -- The folders that are visited are few, and each of them is reached by its path.
  have enterable : ∀ source ∈ sources, nested.Enterable source := by
    have reached : ∀ source ∈ sources, ∀ visit ∈ nested.visits source,
        reaches source visit.folder := by decide +kernel
    exact fun source member => enterable_of_forall_visits proper (reached source member)
  -- A reversed order of visits is an enumeration, too.
  have enumerates : ∀ search ∈ searches, ∀ entries,
      nested.entry? search.1 = some (.folder entries) →
        (Entry.folder entries).Enumerates search.2 := by
    have leaf : nested.hasFolder "z.txt" = false := by decide +kernel
    simp only [searches, List.forall_mem_cons]
    refine ⟨fun entries there => ?_, fun entries there => ?_, fun entries there => ?_, by simp⟩
    · exact (enumerates_visits proper there).perm (List.reverse_perm _).symm
    · rw [hasFolder, there] at leaf
      cases leaf
    · exact enumerates_visits proper there
  obtain ⟨-, sorted, -⟩ := fileList_complete proper enterable
  exact ⟨proper, enterable, sorted searches rfl enumerates, by decide +kernel⟩

end FileTree

end Flowprint
