import Flowprint.Proofs.Command.Reports

/-!
A run keeps the report of a function until it reads another file with the same name.

The name of a report does not say in which folder its function was, and it is in lower case.
-/

namespace Flowprint.Command

open FileTree Report Progress

/--
After a run with reports each function has its features in a report that was not replaced.

A report is replaced when a function is read later from a file whose name is the same in lower
case and without folder and extension. The functions are those that the files held before the run,
as long as no report is in the place of such a file.
-/
theorem reports_kept (room : Nat) (options : Options) (tree : FileTree) (paths : List String)
    (exports : options.exportReports)
    (written : ∀ cause, (files ⟨tree, [], [], [], none⟩ room options paths).fault ≠
      some (.report (.file cause))) :
    let start : Progress := ⟨tree, [], [], [], none⟩
    let done := start.files room options paths
    let read := start.readings room options paths
    (∀ before path function after, read = before ++ (path, function) :: after →
      (∀ later ∈ after, Text.lowercase (reportName later.1) ≠ Text.lowercase (reportName path)) →
      ∃ features folder content, Features.ofFunction function = .ok features ∧
        Stands done.tree options.folder (reportName path) folder content ∧
        done.tree.read (Report.path options.folder (reportName path)) = .ok content ∧
        Json.readBytes? content = some features.toJson) ∧
    (∀ path ∈ paths, Spares options done read path →
      ∀ content function, tree.read path = .ok content →
        ((path, function) ∈ read → Flowgraph.ofBytes content = (function, none)) ∧
        (Flowgraph.ofBytes content = (function, none) → done.fault = none →
          (path, function) ∈ read)) := by
  intro start done read
  refine ⟨?_, ?_⟩
  · -- A reading has its place in the order, which says which reports could have replaced its own.
    intro before path function after split apart
    obtain ⟨features, folder, content, collected, stands, decoded⟩ :=
      stands_of_reading exports written split
    have reads := read_eq_ok_iff.mpr ⟨_, stands.located, stands.holds⟩
    exact ⟨features, folder, content, collected, stands, reads, decoded apart⟩
  · -- The file is spared, so what was read and what was held before are the same.
    intro path listed spares content function held
    exact ⟨ofBytes_of_mem_readings exports written spares held, fun document complete =>
      mem_readings_of_ofBytes exports complete spares listed held document⟩

/-- The features of the first document. -/
def oneNodeFeatures : Features := ⟨[⟨1, 2, [1], []⟩, ⟨1, 3, [1], []⟩], []⟩

/-- Reports are wanted, and their folder is not there yet. -/
def reporting : Options := { reports := some "/r", exportReports := true }

/-- A run over two documents of one folder, which have different names. -/
def runOfPair : Progress :=
  files ⟨⟨.folder [("f.json", .file oneNode), ("g.json", .file noNode)], ""⟩, [], [], [], none⟩
    maxNesting reporting ["/f.json", "/g.json"]

/-- Two documents with different names keep both reports, so the first report is still there. -/
theorem reports_kept_pair :
    reporting.exportReports ∧ (∀ cause, runOfPair.fault ≠ some (.report (.file cause))) ∧
      ∃ content, runOfPair.tree.read "/r/f-features.json" = .ok content ∧
        Json.readBytes? content = some oneNodeFeatures.toJson := by
  -- Both documents are read, and nothing is refused.
  have fault : runOfPair.fault = none := by decide +kernel
  have written : ∀ cause, runOfPair.fault ≠ some (.report (.file cause)) := by simp [fault]
  have read : readings maxNesting reporting
      ⟨⟨.folder [("f.json", .file oneNode), ("g.json", .file noNode)], ""⟩, [], [], [], none⟩
      ["/f.json", "/g.json"] = [("/f.json", oneNodeFunction), ("/g.json", .empty)] := by
    decide +kernel
  -- The first report is the one of the first reading, which no later reading has the name of.
  obtain ⟨features, folder, content, collected, -, report, decoded⟩ :=
    (reports_kept maxNesting reporting _ _ rfl written).1 [] _ _ _ read (by decide +kernel)
  have listed : Features.ofFunction oneNodeFunction = .ok oneNodeFeatures := by decide +kernel
  obtain rfl := Except.ok.inj (collected.symm.trans listed)
  have path : Report.path reporting.folder (reportName "/f.json") = "/r/f-features.json" := by
    decide +kernel
  exact ⟨rfl, written, content, path ▸ report, decoded⟩

/-- Documents of one name in two folders. -/
def twins : FileTree :=
  ⟨.folder [("a", .folder [("f.json", .file oneNode)]),
    ("b", .folder [("f.json", .file noNode)])], ""⟩

/-- A run over both of them. -/
def runOfTwins : Progress :=
  files ⟨twins, [], [], [], none⟩ maxNesting reporting ["/a/f.json", "/b/f.json"]

/--
Two documents with one name in two folders leave one report, and that of the first is lost.

Everything is read and written without a fault, and no report has the path of a document.
-/
theorem reports_replaced :
    let paths := ["/a/f.json", "/b/f.json"]
    paths.Nodup ∧ (∀ path ∈ paths, Path.isAbsolute path) ∧ runOfTwins.fault = none ∧
      (∀ path ∈ paths, ∀ other ∈ paths, Report.path reporting.folder (reportName other) ≠ path) ∧
      Flowgraph.ofFile twins "/a/f.json" = .ok (oneNodeFunction, none) ∧
      Features.ofFunction oneNodeFunction = .ok oneNodeFeatures ∧
      ∀ file ∈ runOfTwins.tree.root.files, file.1.head? = some "r" →
        Json.readBytes? file.2 ≠ some oneNodeFeatures.toJson := by
  intro paths
  refine ⟨by decide, by decide, by decide +kernel, by decide +kernel, by decide +kernel,
    by decide +kernel, ?_⟩
  -- One report is there in the end, and it holds the features of the second document.
  have reported : runOfTwins.tree.root.files.filter (·.1.head? = some "r") =
      [(["r", "f-features.json"],
        (String.ofList ((⟨[], []⟩ : Features).toJson.write 0)).toUTF8)] := by decide +kernel
  have text : (⟨[], []⟩ : Features).toJson.text =
      .ok (String.ofList ((⟨[], []⟩ : Features).toJson.write 0)) := by decide +kernel
  -- A file in the folder for reports is the one that is there.
  intro file member place
  have only : file ∈ runOfTwins.tree.root.files.filter (·.1.head? = some "r") :=
    List.mem_filter.mpr ⟨member, by simpa using place⟩
  rw [reported, List.mem_singleton] at only
  rw [only, Json.readBytes?_text (Features.exact_toJson _) text]
  simp [oneNodeFeatures, Features.toJson, Features.neighbourhoodJson]

end Flowprint.Command
