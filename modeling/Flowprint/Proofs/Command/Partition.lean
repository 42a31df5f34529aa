import Flowprint.Proofs.Command.Alone

/-!
A run partitions its files into failures and summaries, and no file influences another one.

The reports are the one thing by which a file could change what another file holds.
-/

namespace Flowprint.Command

open FileTree Report

/-- The files at which a run can go on, up to the first at which it cannot. -/
def reached (room : Nat) (tree : FileTree) (paths : List String) : List String :=
  paths.takeWhile fun path => (obstacle? room tree path).isNone

namespace Progress

variable {room : Nat} {options : Options} {progress : Progress} {tree : FileTree}
  {paths before after : List String} {path : String}

/-- A run works on some files and then on the others. -/
theorem files_append (room : Nat) (options : Options) (progress : Progress)
    (before after : List String) :
    progress.files room options (before ++ after) =
      (progress.files room options before).files room options after := List.foldl_append

/-- The readings of a run are those of some files and then those of the others. -/
theorem readings_append (room : Nat) (options : Options) (progress : Progress)
    (before after : List String) :
    readings room options progress (before ++ after) =
      readings room options progress before ++
        readings room options (progress.files room options before) after := by
  -- The induction is on the files in front, each of which is read where the run then stands.
  induction before generalizing progress with
  | nil => rfl
  | cons path rest ih =>
    rw [List.cons_append, readings_cons, readings_cons, ih, files_cons, List.append_assoc]

/-- What a run adds for its files is what each of them adds alone, as long as they hold the same. -/
theorem files_eq_alone (going : progress.fault = none)
    (steady : ∀ before path after, paths = before ++ path :: after →
      Flowgraph.ofFile (progress.files room options before).tree path = Flowgraph.ofFile tree path)
    (written : options.exportReports →
      ∀ cause, (progress.files room options paths).fault ≠ some (.report (.file cause))) :
    let done := progress.files room options paths
    done.fault = paths.findSome? (obstacle? room tree) ∧
      done.failures = progress.failures ++ (reached room tree paths).filter (fails tree) ∧
      done.summaries = progress.summaries ++
        ((reached room tree paths).filter fun path => !fails tree path).flatMap
          (fun path => (alone room options tree path).summaries) ∧
      done.events = progress.events ++
        (reached room tree paths).flatMap fun path => (alone room options tree path).events := by
  -- The induction is on the files, and the run in progress is any that has not broken off.
  induction paths generalizing progress with
  | nil => simp [files, reached, going]
  | cons path rest ih =>
    intro done
    obtain ⟨events, summaries, failures, ending⟩ :=
      file_eq_alone room options going (steady [] path rest rfl)
    -- If the report of the file could not be written, the run would have broken off for it.
    have next : (progress.file room options path).fault = obstacle? room tree path := by
      refine ending.resolve_right ?_
      rintro ⟨exports, cause, broken⟩
      refine written exports cause ?_
      rw [files_cons, files_of_fault rest (by simp [broken]), broken]
    cases stops : obstacle? room tree path with
    | some fault =>
      -- Nothing is added for this file nor for any behind it.
      have own := alone_of_obstacle room options stops
      rw [own, List.append_nil] at events summaries failures
      have same : done = progress.file room options path :=
        files_of_fault rest (by simp [next, stops])
      simp [same, next, stops, reached, events, summaries, failures]
    | none =>
      -- The file is reached, and what follows is the run from behind it.
      have front : reached room tree (path :: rest) = path :: reached room tree rest := by
        simp [reached, stops]
      obtain ⟨fault, failures', summaries', events'⟩ := ih (next.trans stops)
        (fun before path' after split => steady (path :: before) path' after (by rw [split]; rfl))
        written
      rw [failures_alone room options stops] at failures
      refine ⟨by simp [fault, stops, done, files_cons], ?_, ?_, ?_⟩
      · -- The file is one more failure or none.
        by_cases failed : fails tree path
        · simp [done, files_cons, failures', failures, front, failed]
        · simp [done, files_cons, failures', failures, front, failed]
      · -- A failure has no summary, so the two lists stay apart.
        by_cases failed : fails tree path
        · rw [(summaries_alone_eq_nil_iff room options stops).mpr failed] at summaries
          simp [done, files_cons, summaries', summaries, front, failed]
        · simp [done, files_cons, summaries', summaries, front, failed]
      · simp [done, files_cons, events', events, front]

/-- The reports of a run are written one and all, and none of them touches a file of the run. -/
structure Apart (room : Nat) (options : Options) (tree : FileTree) (paths : List String) :
    Prop where
  /-- No report is refused. -/
  written : ∀ cause, ((start tree).files room options paths).fault ≠ some (.report (.file cause))
  /-- No report is in the place of a file. -/
  spares : ∀ path ∈ paths, Spares options ((start tree).files room options paths)
    (readings room options (start tree) paths) path
  /-- A path that goes back, perhaps out of a new folder, could be read before if it can be now. -/
  closed : ∀ path ∈ paths, ".." ∈ tree.partsOf path →
    ∀ content, ((start tree).files room options paths).tree.read path = .ok content →
      ∃ held, tree.read path = .ok held

/-- Files that are listed from sources are apart from reports that are written elsewhere. -/
theorem Apart.of_sources (absolute : Path.isAbsolute tree.workingFolder)
    (sources : paths = tree.fileList options.sources)
    (written : ∀ cause, ((start tree).files room options paths).fault ≠
      some (.report (.file cause)))
    (spares : ∀ path ∈ paths, Spares options ((start tree).files room options paths)
      (readings room options (start tree) paths) path) : Apart room options tree paths := by
  -- A file list has tidy paths, which never go back.
  refine ⟨written, spares, ?_⟩
  intro path listed back
  rw [sources] at listed
  exact absurd back (down_of_mem_fileList absolute listed)

/-- The place of a report stays one when the tree grows. -/
theorem reportPlaces_grows {changed : List String → Prop} {old new : FileTree}
    {reports more : List (String × Flowgraph)} {names : List String}
    (grows : Grows changed old new) (within : reports ⊆ more)
    (place : reportPlaces options old reports names) : reportPlaces options new more names := by
  -- The folder is the same one in the grown tree.
  obtain ⟨folder, leads, reading, member, rfl⟩ := place
  refine ⟨folder, ?_, reading, within member, rfl⟩
  rw [grows.partsOf]
  exact grows.walk leads

/-- No file of a run is in the place of a report. -/
theorem Apart.locate_ne (apart : Apart room options tree paths) (exports : options.exportReports)
    (listed : path ∈ paths) {names : List String}
    (place : reportPlaces options ((start tree).files room options paths).tree
      (readings room options (start tree) paths) names) :
    ((start tree).files room options paths).tree.locate path ≠ .ok names := by
  -- The report at that place stands at the end of the run, and there it spares the file.
  obtain ⟨folder, leads, ⟨source, function⟩, member, rfl⟩ := place
  obtain ⟨front, back, split⟩ := List.append_of_mem member
  obtain ⟨_, folder', _, -, stands, -⟩ := stands_of_reading exports apart.written split
  obtain rfl := Except.ok.inj (stands.leads.symm.trans leads)
  rw [← stands.located]
  exact (apart.spares path listed _ member).symm

/-- A run finds each of its files as it was before the run. -/
theorem read_files (exports : options.exportReports)
    (apart : Apart room options tree (before ++ path :: after)) (content : ByteArray) :
    ((start tree).files room options before).tree.read path = .ok content ↔
      tree.read path = .ok content := by
  have listed : path ∈ before ++ path :: after := by simp
  -- The run grows the tree up to the file, and then it grows the tree further up to its end.
  have early := grows_files room exports (start tree) before
  have late := grows_files room exports ((start tree).files room options before) (path :: after)
  have whole := grows_files room exports (start tree) (before ++ path :: after)
  rw [← files_append] at late
  have kept {content : ByteArray} (held : tree.read path = .ok content) :
      ((start tree).files room options before).tree.read path = .ok content := by
    obtain ⟨names, later, leads, reads, changed | rfl⟩ := early.read held
    · -- The place of a report so far is one at the end, where the file is elsewhere.
      have within : readings room options (start tree) before ⊆
          readings room options (start tree) (before ++ path :: after) := by
        rw [readings_append]
        exact List.subset_append_left _ _
      have place := reportPlaces_grows late within changed
      exact absurd (late.locate leads) (apart.locate_ne exports listed place)
    · exact reads
  refine ⟨?_, kept⟩
  intro reads
  obtain ⟨names, later, leads, reads', -⟩ := late.read reads
  -- What can be read at the end could be read before the run.
  obtain ⟨held, was⟩ : ∃ held, tree.read path = .ok held := by
    by_cases down : ".." ∈ tree.partsOf path
    · exact apart.closed path listed down later reads'
    · exact ⟨later, whole.read_of_down down leads
        (fun place => apart.locate_ne exports listed place leads) reads'⟩
  obtain rfl := Except.ok.inj (reads.symm.trans (kept was))
  exact was

/-- A run over files that its reports do not touch finds in each of them what it held before. -/
theorem ofFile_files
    (apart : options.exportReports → Apart room options tree (before ++ path :: after)) :
    Flowgraph.ofFile ((start tree).files room options before).tree path =
      Flowgraph.ofFile tree path := by
  -- With reports, nothing that was written is in the way; without them nothing was written.
  by_cases exports : options.exportReports
  · exact Flowgraph.ofFile_congr (read_files exports (apart exports))
  · rw [tree_files_of_silent exports]
    rfl

end Progress

open Progress

variable {room : Nat} {options : Options} {tree : FileTree} {paths : List String} {path : String}

/-- A run can go on at every file in front of the first at which it cannot. -/
theorem clear_of_mem_reached (member : path ∈ reached room tree paths) :
    obstacle? room tree path = none := by
  -- Such a file passed the test up to which files were taken.
  have clear := List.mem_takeWhile_imp member
  exact Option.isNone_iff_eq_none.mp clear

/-- A run that can go on at every file reaches them all. -/
theorem reached_eq_self (clear : paths.findSome? (obstacle? room tree) = none) :
    reached room tree paths = paths := by
  -- No file stops the run, so none of them ends the taking.
  rw [reached, List.takeWhile_eq_self_iff]
  intro path listed
  exact Option.isNone_iff_eq_none.mpr (List.findSome?_eq_none_iff.mp clear path listed)

/-- The files of a run are failures or are summarised, up to the first at which it breaks off. -/
theorem files_partition (apart : options.exportReports → Apart room options tree paths) :
    let done := (start tree).files room options paths
    let front := reached room tree paths
    done.fault = paths.findSome? (obstacle? room tree) ∧
      done.failures = front.filter (fails tree) ∧
      done.summaries = (front.filter fun path => !fails tree path).flatMap
        (fun path => (alone room options tree path).summaries) ∧
      done.events = front.flatMap fun path => (alone room options tree path).events := by
  -- Each file is met as it was before the run, so its contribution is its own.
  have steady : ∀ before path after, paths = before ++ path :: after →
      Flowgraph.ofFile ((start tree).files room options before).tree path =
        Flowgraph.ofFile tree path := by
    rintro before path after rfl
    exact ofFile_files apart
  exact files_eq_alone rfl steady fun exports => (apart exports).written

/-- Nothing is written for a file of a run that fails. -/
theorem tree_files_of_fails {before after : List String}
    (apart : options.exportReports → Apart room options tree (before ++ path :: after))
    (failed : fails tree path) :
    ((start tree).files room options (before ++ [path])).tree =
      ((start tree).files room options before).tree := by
  -- The file is still one that fails when the run comes to it.
  rw [files_append]
  refine tree_file_of_fails room options ?_
  rw [fails, ofFile_files apart]
  exact failed

/-- Nothing is summarised exactly if all files fail. -/
theorem summaries_eq_nil_iff (clear : paths.findSome? (obstacle? room tree) = none) :
    (paths.filter fun path => !fails tree path).flatMap
      (fun path => (alone room options tree path).summaries) = [] ↔
        ∀ path ∈ paths, fails tree path := by
  -- Both sides are questions about single files.
  rw [List.findSome?_eq_none_iff] at clear
  rw [List.flatMap_eq_nil_iff]
  constructor
  · -- A file that did not fail would bring its summary in.
    intro none path listed
    by_contra parsed
    have member : path ∈ paths.filter fun path => !fails tree path :=
      List.mem_filter.mpr ⟨listed, by simpa using parsed⟩
    have failed :=
      (summaries_alone_eq_nil_iff room options (clear path listed)).mp (none path member)
    exact parsed failed
  · -- The files that are left are those that do not fail, and there are none.
    intro all path member
    obtain ⟨listed, parsed⟩ := List.mem_filter.mp member
    simp [all path listed] at parsed

/-- No table is shown before a run ends. -/
theorem filter_isTable_files (apart : options.exportReports → Apart room options tree paths) :
    ((start tree).files room options paths).events.filter Event.isTable = [] := by
  -- Everything that was shown comes from single files, and none of them shows a table.
  obtain ⟨-, -, -, events⟩ := files_partition apart
  rw [events, List.filter_eq_nil_iff]
  intro event member
  obtain ⟨path, listed, among⟩ := List.mem_flatMap.mp member
  simp [isTable_of_mem_alone (clear_of_mem_reached listed) among]

/-- A run that can go on at every file ends with a status, and it shows a table of its summaries. -/
theorem run_of_clear (apart : options.exportReports → Apart room options tree paths)
    (sources : paths = tree.fileList options.sources)
    (clear : paths.findSome? (obstacle? room tree) = none) :
    (runWithin room options tree).ending = .status
        (if ¬options.ignoreErrors ∧ (paths = [] ∨ ∃ path ∈ paths, fails tree path) then 1 else 0) ∧
      ∃ table, Table.ofRows (((start tree).files room options paths).summaries.map Summary.row)
          paths.length = .ok table ∧
        (runWithin room options tree).events.filter Event.isTable =
          if options.showTable ∧ ∃ path ∈ paths, ¬fails tree path then [.table table] else [] := by
  -- The lists at the end are known, since all files were reached.
  obtain ⟨fault, failures, summaries, -⟩ := files_partition apart
  rw [reached_eq_self clear] at failures summaries
  -- All rows have texts, so a table can be made of them.
  obtain ⟨table, tabled⟩ : ∃ table, Table.ofRows
      (((start tree).files room options paths).summaries.map Summary.row) paths.length =
        .ok table := by
    refine exists_ofRows paths.length (List.forall_mem_map.mpr ?_)
    rw [summaries]
    intro summary member
    obtain ⟨path, among, added⟩ := List.mem_flatMap.mp member
    have listed := (List.mem_filter.mp among).1
    exact texts_of_mem_alone (List.findSome?_eq_none_iff.mp clear path listed) added
  obtain ⟨ending, events⟩ := runWithin_eq room options tree
  rw [← sources] at ending events
  -- The ending is read off the equation of a run, in which the messages do not matter.
  by_cases bare : paths = []
  · -- Without files there is a complaint, and it counts as a failure.
    rw [if_pos bare] at ending events
    refine ⟨?_, table, tabled, ?_⟩
    · simp [ending, failure_eq, bare]
    · simp [events, bare, Event.isTable]
  · rw [if_neg bare, finish_of_complete options (fault.trans clear) tabled] at ending events
    refine ⟨?_, table, tabled, ?_⟩
    · -- The failures are empty exactly if no file fails.
      have failed : ((start tree).files room options paths).failures = [] ↔
          ¬∃ path ∈ paths, fails tree path := by
        rw [failures]
        simp
      by_cases some : ∃ path ∈ paths, fails tree path
      · simp [ending, failure_eq, failed, bare, some]
      · simp [ending, failed, bare, some]
    · -- The summaries are empty exactly if every file fails.
      have summarised : ((start tree).files room options paths).summaries ≠ [] ↔
          ∃ path ∈ paths, ¬fails tree path := by
        rw [summaries, Ne, summaries_eq_nil_iff clear]
        simp
      simp only [events, List.filter_append, filter_isTable_files apart, List.nil_append,
        summarised]
      split_ifs <;> rfl

/-- A run that cannot go on at some file breaks off there, and it shows no table. -/
theorem run_of_obstacle (apart : options.exportReports → Apart room options tree paths)
    (sources : paths = tree.fileList options.sources) {fault : RunFault}
    (stops : paths.findSome? (obstacle? room tree) = some fault) :
    (runWithin room options tree).ending = .fault fault ∧
      (runWithin room options tree).events.filter Event.isTable = [] := by
  -- A run with such a file has files, and it has broken off at the end of them.
  obtain ⟨broken, -⟩ := files_partition apart
  have listed : paths ≠ [] := by
    rintro rfl
    cases stops
  obtain ⟨ending, events⟩ := runWithin_eq room options tree
  rw [ending, events, ← sources, if_neg listed, finish_of_fault options _ (broken.trans stops)]
  exact ⟨rfl, filter_isTable_files apart⟩

/--
A run partitions its files, and each of them adds what it adds in a run of its own.

The failures are the files that cannot be read or hold no function, and all others are summarised.
Both hold up to the first file at which the run cannot go on, and such a file breaks it off.
-/
theorem run_partitions (room : Nat) (options : Options) (tree : FileTree) (paths : List String)
    (apart : options.exportReports → Apart room options tree paths) :
    let done := (start tree).files room options paths
    let front := reached room tree paths
    (done.fault = paths.findSome? (obstacle? room tree) ∧
      done.failures = front.filter (fails tree) ∧
      done.summaries = (front.filter fun path => !fails tree path).flatMap
        (fun path => (alone room options tree path).summaries) ∧
      done.events = front.flatMap fun path => (alone room options tree path).events) ∧
    (∀ before path after, paths = before ++ path :: after → path ∈ front →
      let own := alone room options tree path
      Added options tree path own ∧
      ((∃ text, .listing text ∈ own.events) ↔ options.showListing ∧
        ∃ function, Flowgraph.ofFile tree path = .ok (function, none) ∧
          function.blocks.entries ≠ []) ∧
      (fails tree path → ((start tree).files room options (before ++ [path])).tree =
        ((start tree).files room options before).tree)) ∧
    (paths = tree.fileList options.sources →
      let outcome := runWithin room options tree
      match paths.findSome? (obstacle? room tree) with
      | some fault =>
        outcome.ending = .fault fault ∧ outcome.events.filter Event.isTable = []
      | none =>
        outcome.ending = .status (if ¬options.ignoreErrors ∧
          (paths = [] ∨ ∃ path ∈ paths, fails tree path) then 1 else 0) ∧
        ∃ table, Table.ofRows (done.summaries.map Summary.row) paths.length = .ok table ∧
          outcome.events.filter Event.isTable =
            if options.showTable ∧ ∃ path ∈ paths, ¬fails tree path then [.table table]
            else []) := by
  intro done front
  -- The first part is what the lists hold, the second is about one file, the third about the end.
  refine ⟨files_partition apart, ?_, ?_⟩
  · rintro before path after rfl member
    have clear := clear_of_mem_reached member
    exact ⟨added_alone room options clear, exists_listing_mem_alone_iff clear,
      tree_files_of_fails apart⟩
  · intro sources outcome
    split
    · next stops => exact run_of_obstacle apart sources stops
    · next clear => exact run_of_clear apart sources clear

/-- Reports of what is in one folder are wanted in another folder, and listings are shown. -/
def showingAll : Options :=
  { sources := ["d"], reports := some "r", exportReports := true, showListing := true }

/-- A folder with a file that holds no function and two that hold one. -/
def mixture : FileTree :=
  ⟨.folder [("d", .folder [("no.json", .file "?".toUTF8), ("one.json", .file oneNode),
    ("zero.json", .file noNode)])], "/"⟩

/-- A file that fails is the only failure of a run that goes on behind it and shows its table. -/
theorem run_partitions_mixture :
    let paths := ["/d/no.json", "/d/one.json", "/d/zero.json"]
    let done := (start mixture).files maxNesting showingAll paths
    Apart maxNesting showingAll mixture paths ∧ paths = mixture.fileList showingAll.sources ∧
      done.fault = none ∧ done.failures = ["/d/no.json"] ∧
      (run showingAll mixture).ending = .status 1 ∧
      ∃ table, (run showingAll mixture).events.filter Event.isTable = [.table table] := by
  intro paths done
  -- The run is computed once, and everything else is taken from the theorem.
  have sources : paths = mixture.fileList showingAll.sources := by decide +kernel
  have complete : done.fault = none := by decide +kernel
  have read : readings maxNesting showingAll (start mixture) paths =
      [("/d/one.json", oneNodeFunction), ("/d/zero.json", .empty)] := by decide +kernel
  -- The reports are in another folder, which is compared place by place.
  have apart : Apart maxNesting showingAll mixture paths := by
    refine .of_sources rfl sources ?_ ?_
    · intro cause
      rw [show ((start mixture).files maxNesting showingAll paths).fault = none from complete]
      simp
    · rw [read]
      have spared : ∀ path ∈ paths, ∀ source ∈ ["/d/one.json", "/d/zero.json"],
          done.tree.locate (Report.path showingAll.folder (reportName source)) ≠
            done.tree.locate path := by decide +kernel
      intro path listed reading member
      exact spared path listed reading.1 (List.mem_map_of_mem member)
  -- What the run did is read off the theorem, not computed again.
  obtain ⟨⟨fault, failures, -⟩, -, ended⟩ :=
    run_partitions maxNesting showingAll mixture paths fun _ => apart
  have clear : paths.findSome? (obstacle? maxNesting mixture) = none := fault.symm.trans complete
  have failed : paths.filter (fails mixture) = ["/d/no.json"] := by decide +kernel
  have ended := ended sources
  rw [clear] at ended
  obtain ⟨ending, table, -, shown⟩ := ended
  refine ⟨apart, sources, complete, ?_, ?_, table, ?_⟩
  · rw [failures, reached_eq_self clear, failed]
  · rw [run, ending]
    decide +kernel
  · rw [run, shown]
    refine if_pos ⟨rfl, "/d/one.json", by decide, ?_⟩
    decide +kernel

/-- Two files, the second of which holds a function. -/
def ahead (content : ByteArray) : FileTree :=
  ⟨.folder [("a.json", .file content), ("b.json", .file oneNode)], "/"⟩

/-- The first file can be read. -/
theorem read_ahead (content : ByteArray) : (ahead content).read "/a.json" = .ok content := by
  -- The path has one part below the root, and that part names the file.
  have parts : (ahead content).partsOf "/a.json" = ["", "a.json"] := by
    show Path.parts (Path.join "/" "/a.json") = _
    decide
  have fits : nameFits "a.json" := by decide
  have leads : (ahead content).locate "/a.json" = .ok ["a.json"] := by
    rw [locate, show Path.fault? "/a.json" = none by decide, parts]
    simp [walk, ahead, Entry.below?, fits, Entry.named?]
  exact read_eq_ok_iff.mpr ⟨_, leads, rfl⟩

/-- The first file holds what its text holds. -/
theorem ofFile_ahead {text : String} {diagnosis : Diagnosis}
    (diagnosed : (Flowgraph.ofText text).2 = some diagnosis) :
    ∃ function,
      Flowgraph.ofFile (ahead text.toUTF8) "/a.json" = .ok (function, some diagnosis) := by
  -- The bytes of a text are read back as the text.
  have decoded : Flowgraph.ofBytes text.toUTF8 = Flowgraph.ofText text := by
    rw [Flowgraph.ofBytes, Json.readBytes?_toUTF8, Flowgraph.ofText]
  refine ⟨(Flowgraph.ofText text).1, ?_⟩
  rw [Flowgraph.ofFile, read_ahead, ← diagnosed, ← decoded]

/-- A text with a node whose address is many arrays inside each other. -/
def deepText : List Char :=
  "\x7b\"nodes\":[\x7b\"address\":".toList ++ List.replicate 1015 '[' ++
    List.replicate 1015 ']' ++ ",\"instructions\":[]\x7d],\"edges\":[]\x7d".toList

/-- The text holds no function, and the address would be quoted to say so. -/
theorem ofText_deepText :
    (Flowgraph.ofText (String.ofList deepText)).2 = some (.nodeInvalid 1015) := by
  -- The text is put together from long runs, so it is decided as a list of characters.
  rw [Flowgraph.ofText, Json.read?, String.toList_ofList]
  decide +kernel

/-- A file of that text ahead of one that holds a function. -/
def deepThenGood : FileTree := ahead (String.ofList deepText).toUTF8

/-- The file of that text fails, but the run cannot go on at it. -/
theorem lost_deepThenGood : fails deepThenGood "/a.json" ∧
    obstacle? maxNesting deepThenGood "/a.json" = some (.document .tooDeepToQuote) := by
  -- The depth of the address is above the room of a run.
  obtain ⟨function, holds⟩ := ofFile_ahead ofText_deepText
  refine ⟨fails_iff.mpr ⟨function, _, holds⟩, ?_⟩
  rw [deepThenGood, obstacle?_of_diagnosis holds]
  decide

/-- Both files are to be worked on, and no report is wanted. -/
def bothFiles : Options := { sources := ["/a.json", "/b.json"] }

/--
A file that holds no function is no failure of a run in which its diagnosis is lost.

The run breaks off at that file, so the file behind it is not summarised, and no status tells of it.
-/
theorem run_tooDeepToQuote :
    ["/a.json", "/b.json"] = deepThenGood.fileList bothFiles.sources ∧
      fails deepThenGood "/a.json" ∧
      ((start deepThenGood).files maxNesting bothFiles ["/a.json", "/b.json"]).failures = [] ∧
      (alone maxNesting bothFiles deepThenGood "/b.json").summaries ≠ [] ∧
      ((start deepThenGood).files maxNesting bothFiles ["/a.json", "/b.json"]).summaries = [] ∧
      (run bothFiles deepThenGood).ending = .fault (.document .tooDeepToQuote) := by
  -- The first file fails, and the run cannot go on at it.
  obtain ⟨failed, lost⟩ := lost_deepThenGood
  have sources : ["/a.json", "/b.json"] = deepThenGood.fileList bothFiles.sources := by
    decide +kernel
  have going : obstacle? maxNesting deepThenGood "/b.json" = none := by decide +kernel
  have parsed : ¬fails deepThenGood "/b.json" := by decide +kernel
  have stops : ["/a.json", "/b.json"].findSome? (obstacle? maxNesting deepThenGood) =
      some (.document .tooDeepToQuote) := by
    rw [List.findSome?_cons, lost]
  -- So the run reaches no file, and its lists are those of no file at all.
  have front : reached maxNesting deepThenGood ["/a.json", "/b.json"] = [] := by
    rw [reached, List.takeWhile_cons_of_neg]
    simp [lost]
  have silent : bothFiles.exportReports →
      Apart maxNesting bothFiles deepThenGood ["/a.json", "/b.json"] := by
    intro exports
    cases exports
  obtain ⟨-, failures, summaries, -⟩ := files_partition silent
  obtain ⟨ending, -⟩ := run_of_obstacle silent sources stops
  rw [front] at failures summaries
  have summarised := (summaries_alone_eq_nil_iff maxNesting bothFiles going).not.mpr parsed
  exact ⟨sources, failed, failures, summarised, summaries, ending⟩

end Flowprint.Command
