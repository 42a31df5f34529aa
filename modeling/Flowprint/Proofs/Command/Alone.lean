import Flowprint.Proofs.Command.Ending
import Flowprint.Proofs.Command.Reports
import Flowprint.Proofs.File.Access

/-!
What a run adds for one file is what that file adds in a run of its own.

Whether a file ends the run, fails or holds a function is decided by what can be read of it.
-/

namespace Flowprint.Command

/-- Why a run cannot go on at a file: its path cannot be asked for, or its diagnosis is lost. -/
def obstacle? (room : Nat) (tree : FileTree) (path : String) : Option RunFault :=
  match Flowgraph.ofFile tree path with
  | .error fault => some (.source fault)
  | .ok (_, none) => none
  | .ok (_, some diagnosis) => (diagnosis.obstacle? room).map .document

/-- A file cannot be read, or it holds no function. -/
def fails (tree : FileTree) (path : String) : Bool :=
  match Flowgraph.ofFile tree path with
  | .ok (_, some _) => true
  | _ => false

/-- A run over one file only. -/
def alone (room : Nat) (options : Options) (tree : FileTree) (path : String) : Progress :=
  (Progress.start tree).file room options path

/-- A file fails exactly if there is a diagnosis of it. -/
theorem fails_iff {tree : FileTree} {path : String} : fails tree path ↔
    ∃ function diagnosis, Flowgraph.ofFile tree path = .ok (function, some diagnosis) := by
  -- Of the three outcomes of opening a file only one is a failure.
  rw [fails]
  split
  · next function diagnosis found => simp [found]
  · next other => simpa using other

/-- A run goes on at a file with a diagnosis, unless the diagnosis is lost. -/
theorem obstacle?_of_diagnosis {room : Nat} {tree : FileTree} {path : String} {function : Flowgraph}
    {diagnosis : Diagnosis}
    (holds : Flowgraph.ofFile tree path = .ok (function, some diagnosis)) :
    obstacle? room tree path = (diagnosis.obstacle? room).map .document := by
  -- The outcome is given, so one case of the match is left.
  rw [obstacle?, holds]

namespace Progress

variable {room : Nat} {options : Options} {progress : Progress} {tree : FileTree} {path : String}
  {function : Flowgraph}

/-- Writing a report shows nothing. -/
@[simp] theorem events_report (directory name : String) (features : Features) :
    (progress.report directory name features).events = progress.events := by
  -- Whether or not it is written, only the tree and the fault are touched.
  rw [report]
  split <;> rfl

/-- Writing a report adds no summary. -/
@[simp] theorem summaries_report (directory name : String) (features : Features) :
    (progress.report directory name features).summaries = progress.summaries := by
  -- The summary was added before the report was asked for.
  rw [report]
  split <;> rfl

/-- A report that cannot be written is no failure of its file. -/
@[simp] theorem failures_report (directory name : String) (features : Features) :
    (progress.report directory name features).failures = progress.failures := by
  -- A failure is noted where a file is read, and this one was read.
  rw [report]
  split <;> rfl

/-- What a run reads from a file is the function that the file holds. -/
theorem reading?_of_holds (going : progress.fault = none)
    (holds : Flowgraph.ofFile progress.tree path = .ok (function, none)) :
    progress.reading? path = some function := by
  -- Neither question of the reading stops it.
  rw [reading?, going, holds]
  rfl

/-- A file that holds a function adds what is shown of it and its summary. -/
theorem file_of_holds (room : Nat) (options : Options) (going : progress.fault = none)
    (holds : Flowgraph.ofFile progress.tree path = .ok (function, none)) :
    let next := progress.file room options path
    ∃ features, Features.ofFunction function = .ok features ∧
      next.events = progress.events ++ shown options path function ∧
      next.summaries = progress.summaries ++
        [Summary.ofFeatures (.string (reportName path)) function.toGraph features] ∧
      next.failures = progress.failures ∧
      (next.fault = none ∨
        options.exportReports ∧ ∃ cause, next.fault = some (.report (.file cause))) := by
  intro next
  -- What a run makes of a function is known in one equation, up to the report.
  have reads := reading?_of_holds going holds
  obtain ⟨features, -, collected, -, -, step⟩ := file_of_reading room options reads
  refine ⟨features, collected, ?_⟩
  by_cases exports : options.exportReports
  · -- The report touches none of the lists, and it is refused or stored.
    rw [if_pos exports] at step
    refine ⟨by simp [next, step], by simp [next, step], by simp [next, step], ?_⟩
    cases reported_file room exports reads with
    | refused cause broken => exact Or.inr ⟨exports, cause, broken⟩
    | stored _ _ _ _ _ _ _ going => exact Or.inl going
  · -- Without a report nothing else happens.
    rw [if_neg exports] at step
    simp [next, step, going]

/-- A file that fails adds a complaint and itself to the failures, if its diagnosis is not lost. -/
theorem file_of_fails (room : Nat) (options : Options) (going : progress.fault = none)
    (failed : fails progress.tree path) (clear : obstacle? room progress.tree path = none) :
    progress.file room options path = { progress with
      events := progress.events ++
        [.error ("Unable to parse the flowgraph in " ++ Text.protect path)]
      failures := progress.failures ++ [path] } := by
  -- The diagnosis is not lost, so the run takes the branch that complains.
  obtain ⟨held, diagnosis, found⟩ := fails_iff.mp failed
  rw [obstacle?_of_diagnosis found, Option.map_eq_none_iff] at clear
  simp [file, going, found, clear, announce]

/-- Nothing is written for a file that holds no function. -/
theorem tree_file_of_fails (room : Nat) (options : Options) (failed : fails progress.tree path) :
    (progress.file room options path).tree = progress.tree := by
  -- There is a diagnosis, so no function was read.
  obtain ⟨held, diagnosis, found⟩ := fails_iff.mp failed
  refine tree_file_of_unread ?_
  simp [reading?, found]

/-- A file at which a run cannot go on breaks it off and adds nothing. -/
theorem file_of_obstacle (room : Nat) (options : Options) (going : progress.fault = none)
    {fault : RunFault} (stops : obstacle? room progress.tree path = some fault) :
    progress.file room options path = { progress with fault := some fault } := by
  -- The cases are the outcomes of opening the file.
  cases held : Flowgraph.ofFile progress.tree path with
  | error cause =>
    -- The path could not be asked for.
    rw [obstacle?, held] at stops
    obtain rfl := Option.some.inj stops
    simp [file, going, held]
  | ok result =>
    obtain ⟨function, none | diagnosis⟩ := result
    · -- A function without a diagnosis is no obstacle.
      rw [obstacle?, held] at stops
      cases stops
    · -- The diagnosis is lost, and the words for that are the fault.
      rw [obstacle?_of_diagnosis held] at stops
      obtain ⟨cause, lost, rfl⟩ := Option.map_eq_some_iff.mp stops
      simp [file, going, held, lost]

/-- Without reports no file is written. -/
theorem tree_file_of_silent (silent : ¬options.exportReports) :
    (progress.file room options path).tree = progress.tree := by
  -- A function that was read would only be reported, which is not wanted.
  cases reads : progress.reading? path with
  | none => exact tree_file_of_unread reads
  | some function =>
    obtain ⟨features, -, -, -, -, step⟩ := file_of_reading room options reads
    rw [step, if_neg silent]

/-- Without reports no file is written in a whole run. -/
theorem tree_files_of_silent (silent : ¬options.exportReports) (paths : List String) :
    (progress.files room options paths).tree = progress.tree := by
  -- The induction is on the files, none of which changes the tree.
  induction paths generalizing progress with
  | nil => rfl
  | cons path rest ih => rw [files_cons, ih, tree_file_of_silent silent]

/-- A file holds a function, or it fails, or a run cannot go on at it. -/
theorem exists_of_clear (clear : obstacle? room tree path = none) (parsed : ¬fails tree path) :
    ∃ function, Flowgraph.ofFile tree path = .ok (function, none) := by
  -- The cases are the outcomes of opening the file, and two of them are excluded.
  cases held : Flowgraph.ofFile tree path with
  | error fault => simp [obstacle?, held] at clear
  | ok result =>
    obtain ⟨function, none | diagnosis⟩ := result
    · exact ⟨function, rfl⟩
    · exact absurd (fails_iff.mpr ⟨function, diagnosis, held⟩) parsed

/-- A file that holds a function is shown and summarised in a run of its own. -/
theorem alone_of_holds (room : Nat) (options : Options)
    (holds : Flowgraph.ofFile tree path = .ok (function, none)) :
    let own := alone room options tree path
    ∃ features, Features.ofFunction function = .ok features ∧
      own.events = shown options path function ∧
      own.summaries =
        [Summary.ofFeatures (.string (reportName path)) function.toGraph features] ∧
      own.failures = [] := by
  -- A run that has just started has not broken off, and it has shown nothing yet.
  have going : (start tree).fault = none := rfl
  obtain ⟨features, collected, events, summaries, failures, -⟩ :=
    file_of_holds room options going holds
  exact ⟨features, collected, events, summaries, failures⟩

/-- A file that holds no function is complained about in a run of its own. -/
theorem alone_of_fails (room : Nat) (options : Options) (failed : fails tree path)
    (clear : obstacle? room tree path = none) :
    alone room options tree path = ⟨tree,
      [.error ("Unable to parse the flowgraph in " ++ Text.protect path)], [], [path], none⟩ :=
  -- A run that has just started has not broken off.
  file_of_fails room options rfl failed clear

/-- A file at which a run cannot go on adds nothing in a run of its own. -/
theorem alone_of_obstacle (room : Nat) (options : Options) {fault : RunFault}
    (stops : obstacle? room tree path = some fault) :
    alone room options tree path = ⟨tree, [], [], [], some fault⟩ :=
  -- Nothing had been added when the run broke off.
  file_of_obstacle room options rfl stops

/--
A run adds for a file what the file adds in a run of its own, and it breaks off for the same reason.

The file has to hold what it holds there, and a report that cannot be written is another matter.
-/
theorem file_eq_alone (room : Nat) (options : Options) (going : progress.fault = none)
    (same : Flowgraph.ofFile progress.tree path = Flowgraph.ofFile tree path) :
    let next := progress.file room options path
    let own := alone room options tree path
    next.events = progress.events ++ own.events ∧
      next.summaries = progress.summaries ++ own.summaries ∧
      next.failures = progress.failures ++ own.failures ∧
      (next.fault = obstacle? room tree path ∨
        options.exportReports ∧ ∃ cause, next.fault = some (.report (.file cause))) := by
  intro next own
  -- Obstacle and failure look at the file only, which is the same for both runs.
  have sameStop : obstacle? room progress.tree path = obstacle? room tree path := by
    rw [obstacle?, obstacle?, same]
  have sameFailure : fails progress.tree path = fails tree path := by rw [fails, fails, same]
  cases stops : obstacle? room tree path with
  | some fault =>
    -- Neither run adds anything, and both break off.
    have here : next = _ := file_of_obstacle room options going (sameStop.trans stops)
    have there : own = _ := alone_of_obstacle room options stops
    simp [here, there]
  | none =>
    by_cases failed : fails tree path
    · -- Both runs complain about the file and go on.
      have here : next = _ :=
        file_of_fails room options going (sameFailure.trans failed) (sameStop.trans stops)
      have there : own = _ := alone_of_fails room options failed stops
      simp [here, there, going]
    · -- Both runs show and summarise the function, and each of them may report it.
      obtain ⟨function, holds⟩ := exists_of_clear stops failed
      obtain ⟨features, collected, events, summaries, failures, ending⟩ :=
        file_of_holds room options going (same.trans holds)
      obtain ⟨features', collected', events', summaries', failures'⟩ :=
        alone_of_holds room options holds
      obtain rfl := Except.ok.inj (collected.symm.trans collected')
      exact ⟨by rw [events, events'], by rw [summaries, summaries'],
        by rw [failures, failures', List.append_nil], ending⟩

end Progress

open Progress

variable {room : Nat} {options : Options} {tree : FileTree} {path : String} {function : Flowgraph}

/-- What a file adds that does not break a run off. -/
inductive Added (options : Options) (tree : FileTree) (path : String) (own : Progress) : Prop where
  /-- The file fails, which is all that is shown of it. -/
  | failure (failed : fails tree path)
    (events : own.events =
      [.error ("Unable to parse the flowgraph in " ++ Text.protect path)])
    (summaries : own.summaries = []) (failures : own.failures = [path])
  /-- The file holds a function, which is shown and summarised under the name of the file. -/
  | function (function : Flowgraph) (features : Features)
    (holds : Flowgraph.ofFile tree path = .ok (function, none))
    (collected : Features.ofFunction function = .ok features)
    (events : own.events = shown options path function)
    (summaries : own.summaries =
      [Summary.ofFeatures (.string (reportName path)) function.toGraph features])
    (failures : own.failures = [])

/-- A file that does not break a run off fails or holds a function. -/
theorem added_alone (room : Nat) (options : Options) (clear : obstacle? room tree path = none) :
    Added options tree path (alone room options tree path) := by
  -- The two cases are those of a run that can go on.
  by_cases failed : fails tree path
  · rw [alone_of_fails room options failed clear]
    exact .failure failed rfl rfl rfl
  · obtain ⟨function, holds⟩ := exists_of_clear clear failed
    obtain ⟨features, collected, events, summaries, failures⟩ := alone_of_holds room options holds
    exact .function function features holds collected events summaries failures

/-- A file that holds a function does not fail. -/
theorem fails_of_holds (holds : Flowgraph.ofFile tree path = .ok (function, none)) :
    fails tree path = false := by
  -- No diagnosis was made.
  rw [fails, holds]

/-- A file adds itself to the failures if it fails. -/
theorem failures_alone (room : Nat) (options : Options) (clear : obstacle? room tree path = none) :
    (alone room options tree path).failures = if fails tree path then [path] else [] := by
  -- The two ways of adding something give the two branches.
  cases added_alone room options clear with
  | failure failed _ _ failures => rw [failures, if_pos failed]
  | function _ _ holds _ _ _ failures => simp [failures, fails_of_holds holds]

/-- A file has a summary unless it fails. -/
theorem summaries_alone_eq_nil_iff (room : Nat) (options : Options)
    (clear : obstacle? room tree path = none) :
    (alone room options tree path).summaries = [] ↔ fails tree path := by
  -- A file adds a summary exactly if it adds no failure.
  cases added_alone room options clear with
  | failure failed _ summaries => simp [summaries, failed]
  | function _ _ holds _ _ summaries => simp [summaries, fails_of_holds holds]

/-- A summary of a file has texts for its name and its tuple. -/
theorem texts_of_mem_alone (clear : obstacle? room tree path = none) {summary : Summary}
    (member : summary ∈ (alone room options tree path).summaries) :
    (∃ name, summary.row.name = .string name) ∧ ∃ top, summary.row.topTuple = .string top := by
  -- Only a function has a summary, and a run makes its two texts itself.
  cases added_alone room options clear with
  | failure _ _ summaries => simp [summaries] at member
  | function _ _ _ _ _ summaries =>
    rw [summaries, List.mem_singleton] at member
    rw [member]
    exact ⟨⟨_, rfl⟩, _, rfl⟩

/-- A listing is shown of a function exactly if listings are wanted and it has one. -/
theorem listing_mem_shown_iff {text : String} :
    .listing text ∈ shown options path function ↔
      options.showListing ∧ function.listing = .ok text := by
  -- Three outcomes are possible, and one of them shows the listing.
  rw [shown]
  split_ifs with wanted
  · cases listing : function.listing <;> simp [wanted, eq_comm]
  · simp [wanted]

/-- A listing is shown of a file exactly if listings are wanted and its function has a block. -/
theorem exists_listing_mem_alone_iff (clear : obstacle? room tree path = none) :
    (∃ text, .listing text ∈ (alone room options tree path).events) ↔ options.showListing ∧
      ∃ function, Flowgraph.ofFile tree path = .ok (function, none) ∧
        function.blocks.entries ≠ [] := by
  cases added_alone room options clear with
  | failure failed events =>
    -- A file that fails holds no function.
    have bare : ¬∃ function, Flowgraph.ofFile tree path = .ok (function, none) := by
      rintro ⟨function, holds⟩
      rw [fails_of_holds holds] at failed
      cases failed
    simp only [events, List.mem_singleton, reduceCtorEq, exists_false, false_iff]
    rintro ⟨-, function, holds, -⟩
    exact bare ⟨function, holds⟩
  -- What is shown of a function has a listing in it if there is one, and then there are blocks.
  | function function _ holds _ events =>
    simp [events, listing_mem_shown_iff, holds, ← Flowgraph.exists_listing_iff]

/-- No table is shown for a file alone. -/
theorem isTable_of_mem_alone (clear : obstacle? room tree path = none) {event : Event}
    (member : event ∈ (alone room options tree path).events) : event.isTable = false := by
  -- A complaint, a remark and a listing are all that is shown of one file.
  cases added_alone room options clear with
  | failure _ events =>
    rw [events, List.mem_singleton] at member
    rw [member]
    rfl
  | function function _ _ _ events =>
    rw [events, shown] at member
    split_ifs at member
    · cases listing : function.listing <;> simp_all [Event.isTable]
    · cases member

end Flowprint.Command
