import Flowprint.Command.Run
import Mathlib.Data.List.Basic

/-!
A run ends with a status and a table, or with the fault at which it has broken off.

Messages can be silenced, which changes neither.
-/

namespace Flowprint.Command

/-- A run that has done nothing yet. -/
def Progress.start (tree : FileTree) : Progress := ⟨tree, [], [], [], none⟩

/-- An event is the table of summaries. -/
def Event.isTable : Event → Bool
  | .table _ => true
  | _ => false

/-- Rows with texts for names and tuples make a table. -/
theorem exists_ofRows {rows : List Row} (fileCount : Nat)
    (texts : ∀ row ∈ rows, (∃ name, row.name = .string name) ∧ ∃ top, row.topTuple = .string top) :
    ∃ table, Table.ofRows rows fileCount = .ok table := by
  -- Every row has its cells, which is proved row by row.
  have cells : ∃ cells, rows.mapM (Table.cells (Table.showsNames fileCount)) = .ok cells := by
    induction rows with
    | nil => exact ⟨[], rfl⟩
    | cons row rest ih =>
      rw [List.forall_mem_cons] at texts
      obtain ⟨⟨⟨name, named⟩, top, tuple⟩, later⟩ := texts
      obtain ⟨cells, all⟩ := ih later
      -- A text has a label, and so has an empty tuple.
      obtain ⟨first, here⟩ : ∃ first, Table.cells (Table.showsNames fileCount) row = .ok first := by
        rw [Table.cells, named, tuple]
        split <;> split <;> exact ⟨_, rfl⟩
      rw [List.mapM_cons, here, all]
      exact ⟨first :: cells, rfl⟩
  obtain ⟨cells, all⟩ := cells
  rw [Table.ofRows, all]
  exact ⟨_, rfl⟩

/-- A fault of the input is told by a status of one, unless errors are to be ignored. -/
theorem failure_eq (options : Options) :
    Options.failure options = .status (if ¬options.ignoreErrors then 1 else 0) := by
  -- The two settings give the two statuses.
  rw [Options.failure]
  cases options.ignoreErrors <;> rfl

/-- A run that has broken off shows nothing more. -/
theorem Progress.finish_of_fault (options : Options) {progress : Progress} {fault : RunFault}
    (fileCount : Nat) (broken : progress.fault = some fault) :
    progress.finish options fileCount = ⟨.fault fault, progress.events, progress.tree⟩ := by
  -- The match is decided by the fault.
  rw [finish, broken]

/-- A run that has not broken off ends with a status, and it shows a table of its summaries. -/
theorem Progress.finish_of_complete (options : Options) {progress : Progress} {fileCount : Nat}
    {table : Table} (complete : progress.fault = none)
    (tabled : Table.ofRows (progress.summaries.map Summary.row) fileCount = .ok table) :
    progress.finish options fileCount =
      ⟨if progress.failures = [] then .status 0 else Options.failure options,
        progress.events ++
          if options.showTable ∧ progress.summaries ≠ [] then [.table table] else [],
        progress.tree⟩ := by
  rw [finish, complete]
  -- The table is shown if it is wanted and there is something to show.
  by_cases wanted : options.showTable ∧ progress.summaries ≠ []
  · simp [tabled, wanted]
  · have unwanted : ¬(options.showTable && !progress.summaries.isEmpty) = true := by
      simpa using wanted
    simp [wanted, unwanted]

/-- Silencing messages leaves the ending of a run and its table as they are. -/
theorem runWithin_eq (room : Nat) (options : Options) (tree : FileTree) :
    let paths := tree.fileList options.sources
    let outcome :=
      if paths = [] then
        ⟨Options.failure options, [.error "No flowgraph files to process."], tree⟩
      else ((Progress.start tree).files room options paths).finish options paths.length
    (runWithin room options tree).ending = outcome.ending ∧
      (runWithin room options tree).events.filter Event.isTable =
        outcome.events.filter Event.isTable := by
  intro paths outcome
  rw [runWithin]
  split
  · -- Tables are no messages, so picking out the tables leaves nothing to be silenced.
    refine ⟨rfl, ?_⟩
    rw [List.filter_filter]
    refine List.filter_congr fun event _ => ?_
    cases event <;> rfl
  · exact ⟨rfl, rfl⟩

end Flowprint.Command
