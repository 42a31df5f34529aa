import Flowprint.Command.Run
import Flowprint.Proofs.Feature.Export
import Flowprint.Proofs.Report.Export

/-!
A run reads its files one after another and writes a report of each function that it finds.

What is written for one file leaves what the other files hold alone, unless it takes their place.
-/

namespace Flowprint.Command

open FileTree Report

/-- The name under which the function of a file is reported. -/
def reportName (path : String) : String := Path.stem (Path.baseName path)

/-- The name of a report has no slash. -/
theorem slash_notMem_reportName (path : String) : '/' ∉ (reportName path).toList :=
  -- Taking off the folders leaves no slash, and taking off the extension adds none.
  fun member => Path.notMem_baseName path (Path.mem_of_mem_stem member)

namespace Progress

variable {room : Nat} {options : Options} {progress : Progress} {path : String}
  {function : Flowgraph}

/-- The function that a run reads from a file, if it has not broken off before. -/
def reading? (progress : Progress) (path : String) : Option Flowgraph :=
  if progress.fault.isSome then none
  else
    match Flowgraph.ofFile progress.tree path with
    | .ok (function, none) => some function
    | _ => none

/-- The paths of the files from which a run reads functions, each with its function, in order. -/
def readings (room : Nat) (options : Options) : Progress → List String → List (String × Flowgraph)
  | _, [] => []
  | progress, path :: rest =>
    ((progress.reading? path).map (path, ·)).toList ++
      readings room options (progress.file room options path) rest

/-- A function is read from a file whose whole content is its document, unless the run is over. -/
theorem reading?_eq_some_iff : progress.reading? path = some function ↔
    progress.fault = none ∧ ∃ content, progress.tree.read path = .ok content ∧
      Flowgraph.ofBytes content = (function, none) := by
  -- A run that has broken off reads nothing, and otherwise the file decides.
  cases going : progress.fault with
  | some fault => simp [reading?, going]
  | none =>
    cases there : progress.tree.read path with
    | error fault => cases fault <;> simp [reading?, going, Flowgraph.ofFile, there]
    | ok content =>
      -- The content is read as a function together with a diagnosis or without one.
      rcases document : Flowgraph.ofBytes content with ⟨held, diagnosis⟩
      cases diagnosis <;> simp [reading?, going, Flowgraph.ofFile, there, document]

/-- A file from which no function is read leaves the tree as it is. -/
theorem tree_file_of_unread (unread : progress.reading? path = none) :
    (progress.file room options path).tree = progress.tree := by
  unfold reading? at unread
  -- The cases of the run are followed; only a function that was read leads to a change.
  rw [file]
  split
  · rfl
  · next going =>
    rw [if_neg going] at unread
    split
    · rfl
    · next found => simp [found] at unread
    · split <;> rfl

/-- What a run shows of a function that it has read. -/
def shown (options : Options) (path : String) (function : Flowgraph) : List Event :=
  if options.showListing then
    match function.listing with
    | .ok text => [.listing text]
    | .error _ => [.warning (Text.protect path ++ " has no instructions to disassemble")]
  else []

/--
Showing the code of a function changes nothing but what has been shown.

It never faults, because a listing is asked for only if there is one.
-/
theorem list_eq (progress : Progress) (path : String) (function : Flowgraph) :
    (if options.showListing then progress.list path function else .ok progress) =
      .ok { progress with events := progress.events ++ shown options path function } := by
  rw [shown]
  split_ifs with wanted
  · rw [list]
    by_cases bare : function.blocks.entries = []
    · -- The listing would fail, and the question for blocks keeps it from being asked for.
      cases listed : function.listing with
      | ok text => exact absurd bare (Flowgraph.exists_listing_iff.mp ⟨text, listed⟩)
      | error fault =>
        simp only [bare]
        rfl
    · obtain ⟨text, listed⟩ := Flowgraph.exists_listing_iff.mpr bare
      simp only [List.isEmpty_iff, bare, listed]
      rfl
  · rw [List.append_nil]

/--
A function that is read is shown and summarised, and then it is reported if that is wanted.

It has features, and they have a text from which they can be read again.
-/
theorem file_of_reading (room : Nat) (options : Options)
    (reads : progress.reading? path = some function) :
    ∃ features text, Features.ofFunction function = .ok features ∧
      features.toJson.text = .ok text ∧ Json.readBytes? text.toUTF8 = some features.toJson ∧
      progress.file room options path =
        let summary := Summary.ofFeatures (.string (reportName path)) function.toGraph features
        let next := { progress with
          events := progress.events ++ shown options path function
          summaries := progress.summaries ++ [summary] }
        if options.exportReports then next.report options.folder (reportName path) features
        else next := by
  obtain ⟨going, content, there, document⟩ := reading?_eq_some_iff.mp reads
  -- Whatever was read has documented addresses, so its features have a text.
  have expressible : function.Expressible := by
    have parsed : (Flowgraph.ofBytes content).1.Expressible :=
      Flowgraph.expressible_ofJson? (Json.readBytes? content)
    rwa [document] at parsed
  obtain ⟨features, text, collected, found, decoded⟩ :=
    Features.exists_text_ofFunction expressible.documented
  -- The file is opened as the reading says, so the run takes the branch of a function.
  have opened : Flowgraph.ofFile progress.tree path = .ok (function, none) := by
    rw [Flowgraph.ofFile, there, ← document]
  refine ⟨features, text, collected, found, decoded, ?_⟩
  rw [file, if_neg (by simp [going]), opened]
  simp only [Progress.function, list_eq, collected]
  rfl

/-- A run that has broken off does nothing more. -/
theorem files_of_fault (paths : List String) (broken : progress.fault.isSome) :
    progress.files room options paths = progress := by
  -- The induction is on the files, each of which is passed over.
  induction paths with
  | nil => rfl
  | cons path rest ih =>
    rw [files, List.foldl_cons, file, if_pos broken]
    exact ih

/-- What a run makes of a function that it has read. -/
inductive Reported (options : Options) (progress : Progress) (path : String)
    (function : Flowgraph) (next : Progress) : Prop where
  /-- The report cannot be written, and no file has changed. -/
  | refused (cause : FileFault) (broken : next.fault = some (.report (.file cause)))
    (grows : ∀ changed, Grows changed progress.tree next.tree)
  /-- The features stand in a report, and no other file has changed. -/
  | stored (features : Features) (folder : List String) (content : ByteArray)
    (collected : Features.ofFunction function = .ok features)
    (stands : Stands next.tree options.folder (reportName path) folder content)
    (decoded : Json.readBytes? content = some features.toJson)
    (grows : Grows (· = folder ++ [fileName (reportName path)]) progress.tree next.tree)
    (going : next.fault = none)

/-- A function that is read is reported, unless the files do not admit it. -/
theorem reported_file (room : Nat) (exports : options.exportReports)
    (reads : progress.reading? path = some function) :
    Reported options progress path function (progress.file room options path) := by
  obtain ⟨going, -⟩ := reading?_eq_some_iff.mp reads
  obtain ⟨features, text, collected, found, decoded, step⟩ := file_of_reading room options reads
  have writes := written_write progress.tree options.folder (slash_notMem_reportName path)
    features.toJson
  rw [step, if_pos exports, report]
  generalize Report.write progress.tree options.folder (reportName path) features.toJson = result
    at writes
  -- The outcomes of writing are those of reporting, except that there is a text here.
  cases writes with
  | refused grows => exact .refused _ rfl grows
  | textless _ missing => rw [found] at missing; cases missing
  | written found' stands grows =>
    obtain rfl := Except.ok.inj (found.symm.trans found')
    exact .stored features _ _ collected stands decoded grows going

/-- The places of the reports of some functions, once the path for reports leads to a folder. -/
def reportPlaces (options : Options) (tree : FileTree) (reports : List (String × Flowgraph))
    (names : List String) : Prop :=
  ∃ folder, walk tree.root [] (tree.partsOf options.folder) = .ok folder ∧
    ∃ reading ∈ reports, names = folder ++ [fileName (reportName reading.1)]

/-- The readings of a run are that of the first file, if there is one, and then all others. -/
theorem readings_cons (room : Nat) (options : Options) (progress : Progress) (path : String)
    (rest : List String) :
    readings room options progress (path :: rest) =
      ((progress.reading? path).map (path, ·)).toList ++
        readings room options (progress.file room options path) rest := rfl

/-- A run works on the first file and then on all others. -/
theorem files_cons (room : Nat) (options : Options) (progress : Progress) (path : String)
    (rest : List String) :
    progress.files room options (path :: rest) =
      (progress.file room options path).files room options rest := rfl

/-- A run changes no files but the reports of the functions that it reads. -/
theorem grows_files (room : Nat) (exports : options.exportReports) (progress : Progress)
    (paths : List String) :
    Grows (reportPlaces options (progress.files room options paths).tree
        (readings room options progress paths))
      progress.tree (progress.files room options paths).tree := by
  -- The induction is on the files; what the first one adds stays when the tree grows later.
  induction paths generalizing progress with
  | nil => exact Grows.refl progress.tree
  | cons path rest ih =>
    have later := ih (progress.file room options path)
    rw [files_cons, readings_cons]
    cases reads : progress.reading? path with
    | none =>
      -- Nothing is read from the first file, so nothing is written for it.
      rw [tree_file_of_unread reads] at later
      exact later
    | some function =>
      -- The place of the first report is a place of the whole run, and so are the later ones.
      have more := later.mono fun names ⟨folder, leads, reading, member, place⟩ =>
        show reportPlaces options _ ((path, function) :: readings room options _ rest) names from
          ⟨folder, leads, reading, List.mem_cons_of_mem _ member, place⟩
      cases reported_file room exports reads with
      | refused _ _ grows => exact (grows _).trans more
      | stored _ folder _ _ stands _ grows =>
        -- The folder of the first report still stands at the end.
        obtain ⟨_, still, -⟩ := stands.grows later
        refine (grows.mono ?_).trans more
        intro names place
        exact ⟨folder, still.leads, (path, function), List.mem_cons_self, place⟩

/-- If no report is refused in a whole run, then the one of the first function is stored. -/
theorem stored_of_written (exports : options.exportReports)
    (reads : progress.reading? path = some function) {rest : List String}
    (written : ∀ cause, ((progress.file room options path).files room options rest).fault ≠
      some (.report (.file cause))) :
    ∃ features folder content, Features.ofFunction function = .ok features ∧
      Json.readBytes? content = some features.toJson ∧
      Stands (progress.file room options path).tree options.folder (reportName path) folder
        content ∧
      Grows (· = folder ++ [fileName (reportName path)]) progress.tree
        (progress.file room options path).tree := by
  cases reported_file room exports reads with
  | refused cause broken =>
    -- A run that has broken off stays so, which was ruled out.
    rw [files_of_fault rest (by simp [broken])] at written
    exact absurd broken (written cause)
  | stored features folder content collected stands decoded grows =>
    exact ⟨features, folder, content, collected, decoded, stands, grows⟩

section Readings

variable {paths : List String} {before after : List (String × Flowgraph)}

/--
After a run in which no report was refused, each function that was read has a report.

The report holds its features, unless a function that was read later has a report of that name.
-/
theorem stands_of_reading (exports : options.exportReports)
    (written : ∀ cause, (progress.files room options paths).fault ≠ some (.report (.file cause)))
    (read : readings room options progress paths = before ++ (path, function) :: after) :
    ∃ features folder content, Features.ofFunction function = .ok features ∧
      Stands (progress.files room options paths).tree options.folder (reportName path) folder
        content ∧
      ((∀ later ∈ after, Text.lowercase (reportName later.1) ≠ Text.lowercase (reportName path)) →
        Json.readBytes? content = some features.toJson) := by
  -- The induction goes along the files; a report that stands is followed through the later ones.
  induction paths generalizing progress before with
  | nil => simp [readings] at read
  | cons first rest ih =>
    rw [files_cons] at written ⊢
    rw [readings_cons] at read
    cases reads : progress.reading? first with
    | none =>
      -- The first file adds no reading, so the one in question is among the later ones.
      rw [reads] at read
      exact ih written read
    | some other =>
      rw [reads] at read
      cases before with
      | cons earlier before =>
        -- The first file adds an earlier reading.
        obtain ⟨-, tail⟩ := List.cons.inj read
        exact ih written tail
      | nil =>
        -- The first file adds the reading in question, whose report then stands.
        obtain ⟨head, rfl⟩ := List.cons.inj read
        obtain ⟨rfl, rfl⟩ := Prod.mk.inj head
        obtain ⟨features, folder, content, collected, decoded, stands, -⟩ :=
          stored_of_written exports reads written
        obtain ⟨later, still, kept⟩ :=
          stands.grows (grows_files room exports (progress.file room options first) rest)
        refine ⟨features, folder, later, collected, still, ?_⟩
        intro apart
        rcases kept with ⟨_, leads, reading, member, place⟩ | rfl
        · -- A later report in its place would have the same file name.
          have named := (List.append_singleton_inj.mp place).2
          exact absurd (fileName_inj.mp named).symm (apart reading member)
        · exact decoded

/-- At the end of a run, none of some reports is in the place of a file. -/
def Spares (options : Options) (done : Progress) (reports : List (String × Flowgraph))
    (path : String) : Prop :=
  ∀ reading ∈ reports,
    done.tree.locate (Report.path options.folder (reportName reading.1)) ≠ done.tree.locate path

/-- Working on one file leaves another file alone that is not in the place of its report. -/
theorem read_file {first : String} {rest : List String} (exports : options.exportReports)
    (written : ∀ cause, ((progress.file room options first).files room options rest).fault ≠
      some (.report (.file cause)))
    (spares : Spares options ((progress.file room options first).files room options rest)
      ((progress.reading? first).map (first, ·)).toList path)
    {content : ByteArray} (held : progress.tree.read path = .ok content) :
    (progress.file room options first).tree.read path = .ok content := by
  -- Only a report that is written for the first file could touch the other.
  cases reads : progress.reading? first with
  | none => rw [tree_file_of_unread reads, held]
  | some function =>
    obtain ⟨features, folder, report, -, -, stands, grows⟩ :=
      stored_of_written exports reads written
    obtain ⟨names, later, located, unchanged, kept⟩ := grows.read held
    rcases kept with rfl | rfl
    · -- The report would be in the place of the file, also at the end of the run.
      have onward := grows_files room exports (progress.file room options first) rest
      obtain ⟨_, still, -⟩ := stands.grows onward
      have clash := spares (first, function) (by simp [reads])
      rw [still.located, onward.locate located] at clash
      exact absurd rfl clash
    · exact unchanged

/-- A function that was read is the one that its file held before, if that file is spared. -/
theorem ofBytes_of_mem_readings (exports : options.exportReports)
    (written : ∀ cause, (progress.files room options paths).fault ≠ some (.report (.file cause)))
    (spares : Spares options (progress.files room options paths)
      (readings room options progress paths) path)
    {content : ByteArray} (held : progress.tree.read path = .ok content)
    (read : (path, function) ∈ readings room options progress paths) :
    Flowgraph.ofBytes content = (function, none) := by
  -- The induction goes along the files, none of which changes the file in question.
  induction paths generalizing progress with
  | nil => cases read
  | cons first rest ih =>
    rw [readings_cons] at spares read
    obtain ⟨here, onward⟩ := List.forall_mem_append.mp spares
    rcases List.mem_append.mp read with head | tail
    · -- The reading is that of the first file, which holds what it held before.
      simp only [Option.mem_toList, Option.map_eq_some_iff, Prod.mk.injEq] at head
      obtain ⟨_, reads, rfl, rfl⟩ := head
      obtain ⟨-, found, there, document⟩ := reading?_eq_some_iff.mp reads
      obtain rfl := Except.ok.inj (there.symm.trans held)
      exact document
    · -- The reading is a later one, and the file was left alone until then.
      exact ih written onward (read_file exports written here held) tail

/-- A run that does not break off reads each function that a file held before and that is spared. -/
theorem mem_readings_of_ofBytes (exports : options.exportReports)
    (complete : (progress.files room options paths).fault = none)
    (spares : Spares options (progress.files room options paths)
      (readings room options progress paths) path)
    (listed : path ∈ paths) {content : ByteArray} (held : progress.tree.read path = .ok content)
    (document : Flowgraph.ofBytes content = (function, none)) :
    (path, function) ∈ readings room options progress paths := by
  -- The induction goes along the files up to the one in question.
  induction paths generalizing progress with
  | nil => cases listed
  | cons first rest ih =>
    rw [readings_cons] at spares ⊢
    obtain ⟨here, onward⟩ := List.forall_mem_append.mp spares
    rcases List.mem_cons.mp listed with rfl | later
    · -- The run has not broken off before, because then it would be broken off at the end.
      have going : progress.fault = none := by
        by_contra broken
        rw [files_of_fault _ (Option.isSome_iff_ne_none.mpr broken)] at complete
        exact broken complete
      have opened := reading?_eq_some_iff.mpr ⟨going, content, held, document⟩
      rw [opened]
      exact List.mem_cons_self
    · -- The file comes later, and it was left alone until then.
      rw [files_cons] at complete
      have held' := read_file exports (by simp [complete]) here held
      exact List.mem_append_right _ (ih complete onward later held')

end Readings

end Progress

/-- A document of one node without code. -/
def oneNode : ByteArray :=
  "\x7b\"nodes\":[\x7b\"address\":1,\"instructions\":[]\x7d],\"edges\":[]\x7d".toUTF8

/-- A document of nothing. -/
def noNode : ByteArray := "\x7b\"nodes\":[],\"edges\":[]\x7d".toUTF8

/-- The function of the first document. -/
def oneNodeFunction : Flowgraph := .build [.node 1, .block 1 []]

end Flowprint.Command
