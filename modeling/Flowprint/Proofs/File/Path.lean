import Flowprint.File.Path
import Mathlib.Data.List.Basic

/-! A path that is joined and tidied leads through the same steps as its pieces. -/

namespace Flowprint.Path

/-- The parts that lead anywhere: an empty part and a dot stay where they are. -/
def steps (parts : List String) : List String := parts.filter fun part => part ≠ "" ∧ part ≠ "."

/-- A step is a part that is neither empty nor a dot. -/
theorem mem_steps {part : String} {parts : List String} :
    part ∈ steps parts ↔ part ∈ parts ∧ part ≠ "" ∧ part ≠ "." := by
  -- The steps are chosen by this condition.
  rw [steps, List.mem_filter, decide_eq_true_iff]

/-- Nothing but steps is among steps. -/
@[simp] theorem steps_steps (parts : List String) : steps (steps parts) = steps parts := by
  -- Choosing twice is choosing once.
  simp [steps]

/-- The first part is a step or it is left out. -/
theorem steps_cons (part : String) (rest : List String) :
    steps (part :: rest) = if part = "" ∨ part = "." then steps rest else part :: steps rest := by
  -- A part stays unless it is one of the two that lead nowhere.
  by_cases idle : part = "" ∨ part = "."
  · have dropped : ¬(part ≠ "" ∧ part ≠ ".") := by rwa [← not_or, not_not]
    rw [if_pos idle, steps, List.filter_cons_of_neg (by simpa using dropped), steps]
  · rw [if_neg idle, steps, List.filter_cons_of_pos (by simpa using not_or.mp idle), steps]

/-- Steps go one list after the other. -/
@[simp] theorem steps_append (front back : List String) :
    steps (front ++ back) = steps front ++ steps back := List.filter_append _ _

/-- There is always a stretch, if only an empty one. -/
theorem splitSlashes_ne_nil (text : List Char) : splitSlashes text ≠ [] := by
  -- A slash opens a new stretch, and every other character extends the first one.
  cases text with
  | nil => simp [splitSlashes]
  | cons c rest =>
    rw [splitSlashes]
    split
    · simp
    · split <;> simp

/-- A slash at the front has an empty stretch before it. -/
theorem splitSlashes_slash (rest : List Char) :
    splitSlashes ('/' :: rest) = [] :: splitSlashes rest := by
  -- The rest has a first stretch, so the case of none does not arise.
  rw [splitSlashes]
  split
  · next none => exact absurd none (splitSlashes_ne_nil rest)
  · next some => rw [if_pos rfl, some]

/-- A character that is no slash belongs to the stretch behind it. -/
theorem splitSlashes_cons {c : Char} (other : c ≠ '/') {rest part : List Char}
    {parts : List (List Char)} (split : splitSlashes rest = part :: parts) :
    splitSlashes (c :: rest) = (c :: part) :: parts := by
  -- There is a first stretch to extend, and the character is not a slash.
  rw [splitSlashes, split]
  exact if_neg other

/-- A slash separates what is before it from what is behind it. -/
theorem splitSlashes_append (front back : List Char) :
    splitSlashes (front ++ '/' :: back) = splitSlashes front ++ splitSlashes back := by
  -- A slash in the text before it opens a stretch on both sides, and other characters extend one.
  induction front with
  | nil => exact splitSlashes_slash back
  | cons c rest ih =>
    by_cases slash : c = '/'
    · rw [slash, List.cons_append, splitSlashes_slash, splitSlashes_slash, ih, List.cons_append]
    · obtain ⟨part, parts, split⟩ := List.exists_cons_of_ne_nil (splitSlashes_ne_nil rest)
      rw [split, List.cons_append] at ih
      rw [List.cons_append, splitSlashes_cons slash ih, splitSlashes_cons slash split,
        List.cons_append]

/-- A text without a slash is one stretch. -/
theorem splitSlashes_of_notMem {text : List Char} (slashless : '/' ∉ text) :
    splitSlashes text = [text] := by
  -- Every character extends the only stretch.
  induction text with
  | nil => rfl
  | cons c rest ih =>
    rw [List.mem_cons, not_or] at slashless
    exact splitSlashes_cons (Ne.symm slashless.1) (ih slashless.2)

/-- No stretch has a slash. -/
theorem notMem_of_mem_splitSlashes {text stretch : List Char}
    (member : stretch ∈ splitSlashes text) : '/' ∉ stretch := by
  -- A slash opens a stretch and belongs to none, and only other characters extend one.
  induction text generalizing stretch with
  | nil => simp_all [splitSlashes]
  | cons c rest ih =>
    obtain ⟨part, parts, split⟩ := List.exists_cons_of_ne_nil (splitSlashes_ne_nil rest)
    by_cases slash : c = '/'
    · rw [slash, splitSlashes_slash, List.mem_cons] at member
      rcases member with rfl | later
      · exact List.not_mem_nil
      · exact ih later
    · rw [splitSlashes_cons slash split, List.mem_cons] at member
      rcases member with rfl | later
      · rw [List.mem_cons, not_or]
        exact ⟨Ne.symm slash, ih (by simp [split])⟩
      · exact ih (by simp [split, later])

/-- A slash separates the parts before it from the parts behind it. -/
theorem parts_append (front back : String) :
    parts (front ++ "/" ++ back) = parts front ++ parts back := by
  -- The slash between the texts ends a stretch of the first and belongs to neither.
  have text : (front ++ "/" ++ back).toList = front.toList ++ '/' :: back.toList := by simp
  rw [parts, text, splitSlashes_append, List.map_append]
  rfl

/-- A text without a slash is its own only part. -/
theorem parts_of_notMem {text : String} (slashless : '/' ∉ text.toList) : parts text = [text] := by
  -- There is nothing to split at.
  rw [parts, splitSlashes_of_notMem slashless, List.map_cons, String.ofList_toList]
  rfl

/-- No part has a slash. -/
theorem notMem_of_mem_parts {path part : String} (member : part ∈ parts path) :
    '/' ∉ part.toList := by
  -- A part is a stretch read as text, and no stretch has a slash.
  obtain ⟨stretch, among, rfl⟩ := List.mem_map.mp member
  rw [String.toList_ofList]
  exact notMem_of_mem_splitSlashes among

/-- Names with slashes between them are the parts of what they make. -/
theorem parts_intercalate (first : String) (rest : List String)
    (slashless : ∀ name ∈ first :: rest, '/' ∉ name.toList) :
    parts ("/".intercalate (first :: rest)) = first :: rest := by
  -- Each slash between two names separates the parts on its two sides.
  induction rest generalizing first with
  | nil =>
    rw [String.intercalate_singleton]
    exact parts_of_notMem (slashless first List.mem_cons_self)
  | cons second rest ih =>
    rw [List.forall_mem_cons] at slashless
    rw [String.intercalate_cons_cons, parts_append, parts_of_notMem slashless.1,
      ih second slashless.2]
    rfl

/-- A relative path goes behind the parts of its base. -/
theorem exists_parts_join (base : String) {path : String} (relative : isAbsolute path = false) :
    ∃ outer, parts (join base path) = outer ++ parts path ∧
      steps outer = steps (parts base) := by
  -- The path is relative, so the base is not dropped.
  have notAbsolute : ¬isAbsolute path = true := by simp [relative]
  by_cases bare : base = "" ∨ base.toList.getLast? = some '/'
  · rw [join, if_neg notAbsolute, if_pos bare]
    rcases bare with rfl | slash
    · exact ⟨[], by simp, by decide⟩
    · -- The slash at the end of the base has an empty part behind it.
      obtain ⟨front, text⟩ := List.getLast?_eq_some_iff.mp slash
      obtain rfl : base = String.ofList front ++ "/" := by
        rw [← String.toList_inj, text]
        simp
      refine ⟨parts (String.ofList front), parts_append _ _, ?_⟩
      have ends := parts_append (String.ofList front) ""
      rw [String.append_empty] at ends
      rw [ends, steps_append, show steps (parts "") = [] by decide, List.append_nil]
  · -- The base ends within a name, so a slash is put behind it.
    rw [join, if_neg notAbsolute, if_neg bare]
    exact ⟨parts base, parts_append base path, rfl⟩

/-- A text is absolute if its beginning is. -/
theorem isAbsolute_append {front : String} (named : front ≠ "") (back : String) :
    isAbsolute (front ++ back) = isAbsolute front := by
  -- The first character of the whole text is that of its beginning.
  obtain ⟨c, rest, text⟩ : ∃ c rest, front.toList = c :: rest :=
    List.exists_cons_of_ne_nil (by simpa using named)
  simp [isAbsolute, text]

/-- A text without slashes is relative. -/
theorem isAbsolute_of_notMem {text : String} (slashless : '/' ∉ text.toList) :
    isAbsolute text = false := by
  -- A text is absolute if a slash stands at its head.
  rw [isAbsolute, decide_eq_false_iff_not]
  exact fun head => slashless (List.mem_of_mem_head? head)

/-- A path with a base is absolute if the base is, unless the path itself is. -/
theorem isAbsolute_join (base : String) {path : String} (relative : isAbsolute path = false) :
    isAbsolute (join base path) = isAbsolute base := by
  have notAbsolute : ¬isAbsolute path = true := by simp [relative]
  -- Whatever stands between them, the path begins with its base if there is one.
  by_cases empty : base = ""
  · rw [join, if_neg notAbsolute, if_pos (Or.inl empty), empty, String.empty_append, relative]
    rfl
  · rw [join, if_neg notAbsolute]
    split
    · exact isAbsolute_append empty path
    · rw [String.append_assoc]
      exact isAbsolute_append empty _

/-- A slash at the front stays there once or twice, and no slash is put there. -/
theorem rootMark_cases (text : List Char) :
    text.head? ≠ some '/' ∧ rootMark text = [] ∨
      text.head? = some '/' ∧ (rootMark text = ['/'] ∨ rootMark text = ['/', '/']) := by
  -- Only the first three characters count.
  cases text with
  | nil => exact Or.inl ⟨by simp, rfl⟩
  | cons c rest =>
    by_cases slash : c = '/'
    · subst slash
      -- There is a slash in front; another one may stay, and a third takes it away again.
      refine Or.inr ⟨rfl, ?_⟩
      unfold rootMark
      split <;> simp_all
    · refine Or.inl ⟨by simpa using slash, ?_⟩
      unfold rootMark
      split <;> simp_all

variable {path first : String} {rest : List String}

/-- A path that leads anywhere is tidied to its steps. -/
theorem tidy_eq (leads : steps (parts path) = first :: rest) :
    tidy path = String.ofList (rootMark path.toList) ++ "/".intercalate (first :: rest) := by
  -- A path that leads anywhere has a step, and a step is not empty.
  have member : first ∈ steps (parts path) := by simp [leads]
  have named : first ≠ "" := (mem_steps.mp member).2.1
  have text : String.ofList (rootMark path.toList) ++ "/".intercalate (first :: rest) ≠ "" := by
    cases rest <;> simp [named, String.intercalate_cons_cons]
  have names : ((parts path).filter fun part => part ≠ "" ∧ part ≠ ".") = first :: rest := leads
  -- Something is left, so no dot stands in for it.
  rw [tidy, names]
  exact if_neg text

/-- Nothing but empty parts stands before names that are put behind the slashes of a path. -/
theorem exists_parts_rootMark (text : List Char)
    (slashless : ∀ name ∈ first :: rest, '/' ∉ name.toList) :
    ∃ marks, parts (String.ofList (rootMark text) ++ "/".intercalate (first :: rest)) =
      marks ++ first :: rest ∧ ∀ mark ∈ marks, mark = "" := by
  have names := parts_intercalate first rest slashless
  -- There is an empty part before each slash at the front.
  obtain ⟨-, mark⟩ | ⟨-, mark | mark⟩ := rootMark_cases text
  · refine ⟨[], ?_, by simp⟩
    -- Without a slash in front nothing is put before the names.
    rw [mark, String.ofList_nil, String.empty_append, names, List.nil_append]
  · refine ⟨[""], ?_, by simp⟩
    -- One slash has an empty part before it.
    have text := parts_append "" ("/".intercalate (first :: rest))
    rw [String.empty_append] at text
    rw [mark, show String.ofList ['/'] = "/" from rfl, text, names]
    rfl
  · refine ⟨["", ""], ?_, by simp⟩
    -- Two slashes have two empty parts before them.
    have text := parts_append "/" ("/".intercalate (first :: rest))
    rw [mark, show String.ofList ['/', '/'] = "/" ++ "/" from rfl, text, names]
    rfl

/-- Nothing but empty parts stands before the steps of a path that was tidied. -/
theorem exists_parts_tidy (leads : steps (parts path) = first :: rest) :
    ∃ marks, parts (tidy path) = marks ++ first :: rest ∧ steps marks = [] := by
  -- The steps are parts of a path, so no slash is in them.
  have slashless : ∀ name ∈ first :: rest, '/' ∉ name.toList := by
    intro name member
    rw [← leads] at member
    exact notMem_of_mem_parts (mem_steps.mp member).1
  obtain ⟨marks, tidied, empty⟩ := exists_parts_rootMark path.toList slashless
  refine ⟨marks, by rw [tidy_eq leads, tidied], ?_⟩
  -- The parts in front are empty, so none of them is a step.
  refine List.filter_eq_nil_iff.mpr fun mark member => ?_
  simp [empty mark member]

/-- A name that is put on an absolute path leads down, and a step back only takes a name away. -/
theorem forall_mem_climb {holds : String → Prop} {above : List String} {part : String}
    (names : ∀ name ∈ above, name ≠ ".." ∧ holds name) (here : holds part) :
    ∀ name ∈ climb true above part, name ≠ ".." ∧ holds name := by
  unfold climb
  -- A part that leads nowhere changes nothing; a step back and a name are left.
  by_cases stays : part = "" ∨ part = "."
  · rwa [if_pos stays]
  · rw [if_neg stays]
    by_cases back : part = ".."
    · rw [if_pos back]
      cases above with
      | nil => exact names
      | cons last outer =>
        -- The last name is not two dots, so it is taken away.
        rw [List.forall_mem_cons] at names
        dsimp only
        rw [if_neg names.1.1]
        exact names.2
    · rw [if_neg back]
      exact List.forall_mem_cons.mpr ⟨⟨back, here⟩, names⟩

/-- The names of an absolute path lead down, whatever its parts are. -/
theorem forall_mem_foldl_climb {holds : String → Prop} {above steps : List String}
    (names : ∀ name ∈ above, name ≠ ".." ∧ holds name) (all : ∀ part ∈ steps, holds part) :
    ∀ name ∈ steps.foldl (climb true) above, name ≠ ".." ∧ holds name := by
  -- Every step keeps what was true of the names above it.
  induction steps generalizing above with
  | nil => exact names
  | cons part rest ih =>
    rw [List.forall_mem_cons] at all
    exact ih (forall_mem_climb names all.1) all.2

/-- An absolute path that was normalised is absolute, and it never goes back. -/
theorem normalise_spec (absolute : isAbsolute path) :
    isAbsolute (normalise path) ∧ ".." ∉ parts (normalise path) := by
  -- What holds of the names on the way holds of those that are left.
  have names : ∀ name ∈ ((parts path).foldl (climb true) []).reverse,
      name ≠ ".." ∧ '/' ∉ name.toList := by
    intro name member
    rw [List.mem_reverse] at member
    exact forall_mem_foldl_climb (by simp) (fun part => notMem_of_mem_parts) name member
  rw [normalise, absolute]
  generalize ((parts path).foldl (climb true) []).reverse = found at names
  have slash : path.toList.head? = some '/' := of_decide_eq_true absolute
  -- The slashes at the front are followed by the names, if there are any.
  obtain ⟨relative, -⟩ | ⟨-, mark⟩ := rootMark_cases path.toList
  · exact absurd slash relative
  · have text : String.ofList (rootMark path.toList) ++ "/".intercalate found ≠ "" := by
      -- The path begins with a slash, so the text is not empty and no dot stands in for it.
      rcases mark with mark | mark <;> simp [mark]
    rw [if_neg text]
    refine ⟨?_, ?_⟩
    · -- The slashes stay in front, however many of them there are.
      rcases mark with mark | mark <;> simp [isAbsolute, mark]
    · cases found with
      | nil => rcases mark with mark | mark <;> rw [mark] <;> decide
      -- A part of the new path is empty or one of the names, and two dots are neither.
      | cons first rest =>
        obtain ⟨marks, parted, empty⟩ :=
          exists_parts_rootMark path.toList fun name member => (names name member).2
        rw [parted, List.mem_append, not_or]
        exact ⟨fun member => absurd (empty _ member) (by decide),
          fun member => (names _ member).1 rfl⟩

/-- A path that leads anywhere stays absolute or relative when it is tidied. -/
theorem isAbsolute_tidy (leads : steps (parts path) = first :: rest) :
    isAbsolute (tidy path) = isAbsolute path := by
  -- What stands in front of the steps is decided by the path.
  rw [tidy_eq leads]
  obtain ⟨relative, mark⟩ | ⟨absolute, mark | mark⟩ := rootMark_cases path.toList
  · -- The first step has a first character, which is no slash.
    have member : first ∈ steps (parts path) := by simp [leads]
    obtain ⟨among, named, -⟩ := mem_steps.mp member
    obtain ⟨c, more, text⟩ : ∃ c more, first.toList = c :: more :=
      List.exists_cons_of_ne_nil (by simpa using named)
    have other : '/' ≠ c := by
      have slashless := notMem_of_mem_parts among
      rw [text, List.mem_cons, not_or] at slashless
      exact slashless.1
    cases rest <;>
      simp [isAbsolute, relative, mark, text, String.intercalate_cons_cons, Ne.symm other]
  · -- One slash or two stay in front of an absolute path.
    simp [isAbsolute, absolute, mark]
  · simp [isAbsolute, absolute, mark]

/--
A name that is put behind a folder is the last part of the whole path, also if the path is tidied.

What stands before the name takes the same steps as the path of the folder.
-/
theorem exists_parts_join_tidy (base folder : String) {name : String}
    (slashless : '/' ∉ name.toList) (moves : name ≠ "" ∧ name ≠ ".") :
    ∃ outer, parts (join base (tidy (join folder name))) = outer ++ [name] ∧
      steps outer = steps (parts (join base folder)) := by
  have relative := isAbsolute_of_notMem slashless
  -- Joined, the path has the steps of the folder and then the name.
  obtain ⟨front, joined, before⟩ := exists_parts_join folder relative
  have leads : steps (parts (join folder name)) = steps (parts folder) ++ [name] := by
    rw [joined, parts_of_notMem slashless, steps_append, before]
    simp [steps, moves]
  obtain ⟨first, rest, named⟩ := List.exists_cons_of_ne_nil
    (show steps (parts folder) ++ [name] ≠ [] by simp)
  -- Tidied, it has these steps behind empty parts, and it is absolute if the folder is.
  obtain ⟨marks, tidied, still⟩ := exists_parts_tidy (leads.trans named)
  have kind : isAbsolute (tidy (join folder name)) = isAbsolute folder := by
    rw [isAbsolute_tidy (leads.trans named), isAbsolute_join folder relative]
  rw [← named, ← List.append_assoc] at tidied
  have same : steps (marks ++ steps (parts folder)) = steps (parts folder) := by
    rw [steps_append, still, List.nil_append, steps_steps]
  cases absolute : isAbsolute folder with
  | true =>
    -- The base does not matter to an absolute path.
    refine ⟨marks ++ steps (parts folder), ?_, ?_⟩
    · rw [join, if_pos (kind.trans absolute), tidied]
    · rw [join, if_pos absolute, same]
  | false =>
    -- The base stands before both paths.
    obtain ⟨outer, parted, stepped⟩ := exists_parts_join base (kind.trans absolute)
    obtain ⟨other, parted', stepped'⟩ := exists_parts_join base absolute
    refine ⟨outer ++ (marks ++ steps (parts folder)), ?_, ?_⟩
    · rw [parted, tidied, ← List.append_assoc]
    · rw [parted', steps_append, same, stepped, steps_append, stepped']

/-- The last part of a path has no slash. -/
theorem notMem_baseName (path : String) : '/' ∉ (baseName path).toList := by
  intro member
  -- It was taken from the end up to the last slash.
  rw [baseName, split, String.toList_ofList, List.mem_reverse] at member
  simpa using List.all_eq_true.mp List.all_takeWhile '/' member

/-- A name without its extension has no characters of its own. -/
theorem mem_of_mem_stem {name : String} {c : Char} (member : c ∈ (stem name).toList) :
    c ∈ name.toList := by
  simp only [stem] at member
  -- The name stays whole, or a front part of it is left.
  split at member
  · exact member
  · next dropped =>
    split at member
    · exact member
    · rw [String.toList_ofList, List.mem_reverse] at member
      exact List.mem_reverse.mp (List.mem_of_mem_drop (dropped ▸ List.mem_cons_of_mem _ member))

end Flowprint.Path
