import Flowprint.Proofs.File.Naming
import Flowprint.Proofs.File.Tree
import Mathlib.Data.List.Nodup

/-!
The folders at or below an entry can be visited so that each of its files is met once.

Any order of the folders and of the files in them will do, and a folder before the folders in it is
one of these orders.
-/

namespace Flowprint

/-- What a search notes of a folder that it visits. -/
structure Visit where
  /-- The names that lead from the source to the folder. -/
  folder : List String
  /-- The names of the files in the folder. -/
  files : List String

/-- The same visit from the folder around. -/
def Visit.inside (name : String) (visit : Visit) : Visit := ⟨name :: visit.folder, visit.files⟩

namespace Entry

/-- The names in every folder are different, and each of them is a name. -/
inductive Proper : Entry → Prop where
  /-- A file holds no names. -/
  | file (content : ByteArray) : Proper (.file content)
  /-- A folder holds names and entries. -/
  | folder {entries : List (String × Entry)} (distinct : (entries.map (·.1)).Nodup)
    (names : ∀ inner ∈ entries, Path.IsName inner.1) (inner : ∀ inner ∈ entries, Proper inner.2) :
    Proper (.folder entries)

/-- Every folder at or below an entry is visited once, and each of its files is met once. -/
structure Enumerates (entry : Entry) (visits : List Visit) : Prop where
  /-- No folder is visited twice. -/
  once : (visits.map (·.folder)).Nodup
  /-- Exactly the folders are visited. -/
  folders : ∀ names, names ∈ visits.map (·.folder) ↔
    ∃ inside, entry.below? names = some (.folder inside)
  /-- No file is met twice. -/
  distinct : ∀ visit ∈ visits, visit.files.Nodup
  /-- Exactly the files in the folder are met. -/
  files : ∀ visit ∈ visits, ∀ name, name ∈ visit.files ↔
    ∃ content, entry.below? (visit.folder ++ [name]) = some (.file content)

/-- The names of the files in a folder. -/
def fileNames (entries : List (String × Entry)) : List String :=
  (entries.filter (!·.2.isFolder)).map (·.1)

mutual

/-- A folder is visited before the folders in it, which are visited in the order of its entries. -/
def visits : Entry → List Visit
  | .file _ => []
  | .folder entries => ⟨[], fileNames entries⟩ :: visitsAmong entries

/-- Every visit to a folder at or below some entries. -/
def visitsAmong : List (String × Entry) → List Visit
  | [] => []
  | (name, entry) :: rest => (visits entry).map (Visit.inside name) ++ visitsAmong rest

end

variable {entry found : Entry} {entries : List (String × Entry)} {name : String}
  {names : List String} {content : ByteArray}

/-- Every file at or below some entries is one at or below one of them. -/
theorem filesAmong_eq (entries : List (String × Entry)) :
    filesAmong entries =
      entries.flatMap fun inner => inner.2.files.map fun file => (inner.1 :: file.1, file.2) := by
  -- The definition goes entry by entry, as a flat map does.
  induction entries with
  | nil => rw [filesAmong, List.flatMap_nil]
  | cons first rest ih => rw [filesAmong, ih, List.flatMap_cons]

/-- Every visit to a folder at or below some entries is one at or below one of them. -/
theorem visitsAmong_eq (entries : List (String × Entry)) :
    visitsAmong entries =
      entries.flatMap fun inner => inner.2.visits.map (Visit.inside inner.1) := by
  -- Visits are put together entry by entry as well.
  induction entries with
  | nil => rw [visitsAmong, List.flatMap_nil]
  | cons first rest ih => rw [visitsAmong, ih, List.flatMap_cons]

/-- What is found under a name is an entry of that name. -/
theorem mem_of_named? (named : named? name entries = some found) : (name, found) ∈ entries := by
  -- The search compares names, so what it finds has the name that was asked for.
  obtain ⟨inner, first, rfl⟩ := Option.map_eq_some_iff.mp named
  have same : inner.1 = name := by simpa using List.find?_some first
  exact same ▸ List.mem_of_find?_eq_some first

/-- An entry is found under its name if no other entry has that name. -/
theorem named?_of_mem (distinct : (entries.map (·.1)).Nodup) (member : (name, found) ∈ entries) :
    named? name entries = some found := by
  induction entries with
  | nil => cases member
  | cons first rest ih =>
    rw [List.map_cons, List.nodup_cons] at distinct
    rcases List.mem_cons.mp member with rfl | later
    · simp [named?]
    · -- The first entry has another name.
      have other : first.1 ≠ name := fun same =>
        distinct.1 (same ▸ List.mem_map_of_mem (f := (·.1)) later)
      have inRest := ih distinct.2 later
      rw [named?] at inRest ⊢
      rwa [List.find?_cons_of_neg (by simpa using other)]

/-- What is below an entry of a folder is below the folder. -/
theorem below?_of_mem (distinct : (entries.map (·.1)).Nodup) (member : (name, found) ∈ entries)
    (rest : List String) : (folder entries).below? (name :: rest) = found.below? rest := by
  -- Names do not repeat, so the first name leads to this entry and no other.
  rw [below?_folder, named?_of_mem distinct member, Option.bind_some]

/-- What is below a folder is below one of its entries. -/
theorem exists_of_below?_folder {rest : List String}
    (there : (folder entries).below? (name :: rest) = some found) :
    ∃ inner, (name, inner) ∈ entries ∧ inner.below? rest = some found := by
  -- There is an entry of the first name, and the other names lead on from it.
  rw [below?_folder] at there
  obtain ⟨inner, named, deeper⟩ := Option.bind_eq_some_iff.mp there
  exact ⟨inner, mem_of_named? named, deeper⟩

/-- The names of the files in a folder are the names that lead to them. -/
theorem mem_fileNames_iff (distinct : (entries.map (·.1)).Nodup) :
    name ∈ fileNames entries ↔
      ∃ content, (folder entries).below? [name] = some (.file content) := by
  rw [fileNames, List.mem_map]
  -- A name of a file is an entry of that name, and it is found because names are distinct.
  constructor
  · rintro ⟨⟨_, inner⟩, member, rfl⟩
    obtain ⟨among, leaf⟩ := List.mem_filter.mp member
    rw [below?_of_mem distinct among]
    cases inner with
    | file content => exact ⟨content, rfl⟩
    | folder inside => simp [isFolder] at leaf
  · -- What is found under a single name is an entry, and a file is one at once.
    rintro ⟨content, there⟩
    obtain ⟨inner, among, here⟩ := exists_of_below?_folder there
    obtain rfl : inner = .file content := by simpa [below?] using here
    exact ⟨(name, .file content), List.mem_filter.mpr ⟨among, rfl⟩, rfl⟩

/-- A visit below a folder is the visit to the folder itself or one below one of its entries. -/
theorem mem_visits_folder_iff {visit : Visit} :
    visit ∈ visits (.folder entries) ↔ visit = ⟨[], fileNames entries⟩ ∨
      ∃ inner ∈ entries, ∃ deeper ∈ inner.2.visits, visit = deeper.inside inner.1 := by
  -- The folder itself is visited first, then each entry in turn.
  rw [visits, visitsAmong_eq]
  simp [eq_comm]

/-- A place of the kind of folders holds a folder. -/
theorem map_isFolder_eq_true_iff {place : Option Entry} :
    place.map isFolder = some true ↔ ∃ inside, place = some (.folder inside) := by
  -- A place is empty, a file or a folder, and only the last is of this kind.
  cases place with
  | none => simp
  | some entry => cases entry <;> simp [isFolder]

/-- A place of the kind of files holds a file. -/
theorem map_isFolder_eq_false_iff {place : Option Entry} :
    place.map isFolder = some false ↔ ∃ content, place = some (.file content) := by
  -- A place is empty, a file or a folder, and the second is of this kind.
  cases place with
  | none => simp
  | some entry => cases entry <;> simp [isFolder]

/-- Visits enumerate whatever has folders and files in the same places. -/
theorem Enumerates.of_kinds {other : Entry} {visits : List Visit}
    (kinds : ∀ names, (other.below? names).map isFolder = (entry.below? names).map isFolder)
    (enumerates : entry.Enumerates visits) : other.Enumerates visits where
  once := enumerates.once
  folders names := by
    -- The kind of a place is all that the two statements read of it.
    rw [enumerates.folders, ← map_isFolder_eq_true_iff, ← map_isFolder_eq_true_iff, kinds]
  distinct := enumerates.distinct
  files visit visited name := by
    rw [enumerates.files visit visited, ← map_isFolder_eq_false_iff, ← map_isFolder_eq_false_iff,
      kinds]

/-- Visits may be made in any order. -/
theorem Enumerates.perm {visits others : List Visit} (enumerates : entry.Enumerates visits)
    (reordered : visits.Perm others) : entry.Enumerates others where
  -- No statement of an enumeration asks in which order the visits stand.
  once := (reordered.map _).nodup_iff.mp enumerates.once
  folders names := by rw [← (reordered.map _).mem_iff, enumerates.folders]
  distinct visit visited := enumerates.distinct visit (reordered.mem_iff.mpr visited)
  files visit visited := enumerates.files visit (reordered.mem_iff.mpr visited)

namespace Proper

/-- What is below a proper entry is proper, and names lead there. -/
theorem of_below? (proper : entry.Proper) (there : entry.below? names = some found) :
    found.Proper ∧ ∀ name ∈ names, Path.IsName name := by
  -- Each name is one of a proper folder, and it leads to an entry that is proper.
  induction names generalizing entry with
  | nil =>
    obtain rfl : entry = found := by simpa [below?] using there
    exact ⟨proper, by simp⟩
  | cons name rest ih =>
    cases proper with
    | file content =>
      rw [below?_file] at there
      cases there
    | folder distinct named inner =>
      obtain ⟨next, member, deeper⟩ := exists_of_below?_folder there
      obtain ⟨properBelow, later⟩ := ih (inner _ member) deeper
      exact ⟨properBelow, List.forall_mem_cons.mpr ⟨named _ member, later⟩⟩

/-- The files of a proper entry are the ones that names lead to. -/
theorem mem_files_iff (proper : entry.Proper) :
    (names, content) ∈ entry.files ↔ entry.below? names = some (.file content) := by
  -- The induction goes down by the names, in a folder to the entry of the first name.
  induction names generalizing entry with
  | nil =>
    cases proper with
    | file other => simp [files, below?, eq_comm]
    | folder => simp [files, below?, filesAmong_eq]
  | cons name rest ih =>
    cases proper with
    | file other => simp [files, below?]
    | @folder entries distinct named inner =>
      -- Among the files of the folder are those of the entry with the first name.
      have within : (name :: rest, content) ∈ files (.folder entries) ↔
          ∃ next, (name, next) ∈ entries ∧ (rest, content) ∈ next.files := by
        rw [files, filesAmong_eq]
        simp
      rw [within]
      constructor
      · rintro ⟨next, member, deeper⟩
        rw [below?_of_mem distinct member]
        exact (ih (inner _ member)).mp deeper
      · intro there
        obtain ⟨next, member, deeper⟩ := exists_of_below?_folder there
        exact ⟨next, member, (ih (inner _ member)).mpr deeper⟩

/-- No folder below a proper entry is visited twice. -/
theorem nodup_visits (proper : entry.Proper) : (entry.visits.map (·.folder)).Nodup := by
  -- Without a folder there is no visit; in a folder the own visit is the only one without names.
  induction proper with
  | file content => exact List.nodup_nil
  | @folder entries distinct named inner ih =>
    rw [visits, visitsAmong_eq, List.map_cons, List.nodup_cons, List.map_flatMap]
    refine ⟨by simp [Visit.inside], List.nodup_flatMap.mpr ⟨fun next member => ?_, ?_⟩⟩
    · -- Below one entry all visits begin with its name, so they are apart if the entry's are.
      have once := (ih next member).map (List.cons_injective (a := next.1))
      rwa [List.map_map] at once ⊢
    · -- Visits below different entries have different first names.
      refine (List.pairwise_map.mp distinct).imp fun apart => ?_
      simp only [Function.onFun, List.disjoint_left, List.mem_map, List.map_map]
      rintro _ ⟨visit, -, rfl⟩ ⟨other, -, same⟩
      exact apart (List.cons.inj same).1.symm

/-- The visits from above are an enumeration of a proper entry. -/
theorem enumerates_visits (proper : entry.Proper) : entry.Enumerates entry.visits := by
  induction proper with
  | file content =>
    refine ⟨List.nodup_nil, fun names => ?_, by simp [visits], by simp [visits]⟩
    cases names <;> simp [visits, below?]
  | @folder entries distinct named inner ih =>
    -- A visit is the one to the folder itself, or it is one below an entry that is enumerated.
    refine ⟨nodup_visits (.folder distinct named inner), fun names => ⟨?_, ?_⟩, ?_, ?_⟩
    · -- What is visited is the folder or lies below an entry, so it is a folder in either case.
      intro visited
      obtain ⟨visit, among, rfl⟩ := List.mem_map.mp visited
      rcases mem_visits_folder_iff.mp among with rfl | ⟨next, member, deeper, below, rfl⟩
      · exact ⟨entries, by simp [below?]⟩
      · obtain ⟨inside, there⟩ := ((ih next member).folders _).mp (List.mem_map_of_mem below)
        exact ⟨inside, (below?_of_mem distinct member _).trans there⟩
    · -- A folder is visited: the names are used up, or the first of them leads to an entry.
      rintro ⟨inside, there⟩
      cases names with
      | nil => exact List.mem_map_of_mem (f := (·.folder)) (mem_visits_folder_iff.mpr (Or.inl rfl))
      | cons name rest =>
        obtain ⟨next, member, leads⟩ := exists_of_below?_folder there
        have visited := ((ih _ member).folders rest).mpr ⟨inside, leads⟩
        obtain ⟨deeper, below, rfl⟩ := List.mem_map.mp visited
        exact List.mem_map_of_mem (f := (·.folder))
          (mem_visits_folder_iff.mpr (Or.inr ⟨_, member, deeper, below, rfl⟩))
    · -- The names of files in one folder are distinct as all its names are.
      intro visit visited
      rcases mem_visits_folder_iff.mp visited with rfl | ⟨next, member, deeper, below, rfl⟩
      · exact (List.filter_sublist.map _).nodup distinct
      · exact (ih next member).distinct deeper below
    · -- The files of a visit are those of the folder to which its names lead.
      intro visit visited name
      rcases mem_visits_folder_iff.mp visited with rfl | ⟨next, member, deeper, below, rfl⟩
      · exact mem_fileNames_iff distinct
      · rw [Visit.inside, List.cons_append, below?_of_mem distinct member]
        exact (ih next member).files deeper below name

end Proper

end Entry

end Flowprint
