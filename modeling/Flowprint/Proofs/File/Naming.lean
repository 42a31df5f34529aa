import Flowprint.Proofs.File.Path

/-!
Names that lead down from a folder make a path of their own, whatever path the folder has.

The path is the same whether the names are joined at once or one by one, and names that differ make
different absolute paths.
-/

namespace Flowprint.Path

/-- A text that a file or a folder can have as its name. -/
structure IsName (text : String) : Prop where
  /-- A slash would separate two names. -/
  slashless : '/' ∉ text.toList
  /-- Nothing and a single dot stay where they are. -/
  moves : text ≠ "" ∧ text ≠ "."
  /-- Two dots go back. -/
  forward : text ≠ ".."

instance (text : String) : Decidable (IsName text) :=
  decidable_of_iff ('/' ∉ text.toList ∧ (text ≠ "" ∧ text ≠ ".") ∧ text ≠ "..")
    ⟨fun holds => ⟨holds.1, holds.2.1, holds.2.2⟩,
      fun named => ⟨named.slashless, named.moves, named.forward⟩⟩

/-- What is put between a base and a relative path. -/
def separator (base : String) : String :=
  if base = "" ∨ base.toList.getLast? = some '/' then "" else "/"

/-- The names that are left of the parts of a path when its dots are followed. -/
def resolved (path : String) : List String :=
  ((parts path).foldl (climb (isAbsolute path)) []).reverse

/-! Names are joined at once or one by one. -/

section Join

variable {base folder front path : String} {name : String} {names : List String}

/-- A relative path stands behind its base and the separator. -/
theorem join_of_relative (base : String) (relative : isAbsolute path = false) :
    join base path = base ++ (separator base ++ path) := by
  -- The path is put behind its base, with a slash between them unless the base ends with one.
  rw [join, if_neg (by simp [relative]), separator]
  split
  · rw [String.empty_append]
  · rw [String.append_assoc]

/-- What is put behind a text depends on its end alone. -/
theorem separator_append (front : String) (named : folder ≠ "") :
    separator (front ++ folder) = separator folder := by
  -- The whole text has the same last character as the part behind.
  have filled : folder.toList ≠ [] := by simpa using named
  have last : (front ++ folder).toList.getLast? = folder.toList.getLast? := by
    rw [String.toList_append, List.getLast?_append_of_ne_nil _ filled]
  rw [separator, separator, last]
  simp [named]

/-- Names with slashes between them are relative. -/
theorem isAbsolute_intercalate (proper : ∀ name ∈ names, IsName name) :
    isAbsolute ("/".intercalate names) = false := by
  -- A list of names without a name is the empty text; otherwise the first name decides.
  cases names with
  | nil => rfl
  | cons first rest =>
    have here := proper first List.mem_cons_self
    cases rest with
    | nil => exact isAbsolute_of_notMem here.slashless
    | cons second rest =>
      -- The first name is not empty, so it is the one that holds the front.
      rw [String.intercalate_cons_cons, String.append_assoc, isAbsolute_append here.moves.1,
        isAbsolute_of_notMem here.slashless]

/-- A relative path may be put on a folder before or after the folder is put on its own base. -/
theorem join_join (base : String) (named : folder ≠ "") (relative : isAbsolute path = false) :
    join base (join folder path) = join (join base folder) path := by
  have kind := isAbsolute_join folder relative
  cases absolute : isAbsolute folder with
  | true =>
    -- The base does not matter to an absolute folder.
    have whole : join base folder = folder := if_pos absolute
    rw [whole]
    exact if_pos (kind.trans absolute)
  | false =>
    -- The separator behind the folder is the same wherever the folder stands.
    have front : join base folder = base ++ separator base ++ folder := by
      rw [join_of_relative base absolute, String.append_assoc]
    rw [join_of_relative base (kind.trans absolute), join_of_relative folder relative,
      join_of_relative _ relative, front, separator_append _ named]
    simp only [String.append_assoc]

/-- Names are put on a folder at once or one by one. -/
theorem foldl_join (path : String) (proper : ∀ name ∈ names, IsName name) (filled : names ≠ []) :
    names.foldl join path = join path ("/".intercalate names) := by
  -- One name more is put on at the end of the path in each step.
  induction names generalizing path with
  | nil => exact absurd rfl filled
  | cons first rest ih =>
    obtain ⟨here, later⟩ := List.forall_mem_cons.mp proper
    cases rest with
    | nil => rw [String.intercalate_singleton, List.foldl_cons, List.foldl_nil]
    | cons second rest =>
      -- All later names are joined as one text, which is relative.
      have relative := isAbsolute_intercalate later
      -- There is no slash at the end of the first name, so one is put there.
      have ends : separator first = "/" := by
        rw [separator, if_neg (not_or.mpr ⟨here.moves.1, ?_⟩)]
        exact fun slash => here.slashless (List.mem_of_getLast? slash)
      rw [List.foldl_cons, ih _ later (List.cons_ne_nil _ _),
        ← join_join path here.moves.1 relative, join_of_relative first relative, ends,
        String.intercalate_cons_cons, String.append_assoc]

end Join

/-! The absolute path of a file ends with the names that lead to it. -/

section Resolved

variable {above names : List String} {name : String}

/-- Three characters at the front decide how many slashes stay there. -/
theorem rootMark_eq (text : List Char) : rootMark text =
    if text[0]? = some '/' then
      if text[1]? = some '/' ∧ text[2]? ≠ some '/' then ['/', '/'] else ['/']
    else [] := by
  -- The cases are those of the definition; the number of slashes decides each of them.
  fun_cases rootMark text with
  | case1 => rfl
  | case2 rest fewer => cases rest <;> simp_all
  | case3 rest _ single => cases rest <;> simp_all
  | case4 none => cases text <;> simp_all

/-- The slashes at the front stay as many if no further one is put behind them. -/
theorem rootMark_append {front back : List Char}
    (apart : front = [] ∨ front.getLast? = some '/' → back[0]? ≠ some '/') :
    rootMark (front ++ back) = rootMark front := by
  rw [rootMark_eq, rootMark_eq]
  -- What is put behind three characters is not asked about.
  match front with
  | [] => simp_all
  | [first] => simp_all
  | [first, second] => by_cases slash : second = '/' <;> simp_all
  | first :: second :: third :: rest => rfl

/-- A relative path does not change the slashes at the front of its base. -/
theorem rootMark_join (base : String) {path : String} (relative : isAbsolute path = false) :
    rootMark (join base path).toList = rootMark base.toList := by
  -- Without a third character the base is a lone slash or two, and then nothing is added.
  rw [join_of_relative base relative, String.toList_append]
  refine rootMark_append fun bare => ?_
  have none : separator base = "" := if_pos (by simpa using bare)
  rw [none, String.empty_append, ← List.head?_eq_getElem?]
  simpa [isAbsolute] using relative

/-- A part that leads nowhere leaves the names as they are. -/
theorem climb_of_idle {part : String} (idle : part = "" ∨ part = ".") (absolute : Bool)
    (above : List String) : climb absolute above part = above := by
  -- It is the first kind of part that is asked for.
  unfold climb
  exact if_pos idle

/-- A name leads down. -/
theorem climb_of_isName (proper : IsName name) (absolute : Bool) (above : List String) :
    climb absolute above name = name :: above := by
  -- A name is neither idle nor a step back, so the last branch is left.
  unfold climb
  rw [if_neg (not_or.mpr proper.moves), if_neg proper.forward]

/-- A name that is left was there, or it is the part, or it is two dots. -/
theorem mem_climb {absolute : Bool} {part : String} (member : name ∈ climb absolute above part) :
    name ∈ above ∨ name = part ∨ name = ".." := by
  -- The cases of a single step up or down are looked at one by one.
  unfold climb at member
  split at member
  · exact Or.inl member
  · split at member
    · -- Two dots are kept or take the last name away.
      cases above with
      | nil => cases absolute <;> simp_all
      | cons last outer =>
        -- Another pair of dots is put on top, and any other name is taken away.
        dsimp only at member
        split at member
        · exact (List.mem_cons.mp member).elim (Or.inr ∘ Or.inr) Or.inl
        · exact Or.inl (List.mem_cons_of_mem last member)
    · exact (List.mem_cons.mp member).elim (Or.inr ∘ Or.inl) Or.inl

/-- Parts that lead nowhere may be left out. -/
theorem foldl_climb_steps (absolute : Bool) (above parts : List String) :
    (steps parts).foldl (climb absolute) above = parts.foldl (climb absolute) above := by
  -- The names above are whatever the earlier parts left.
  induction parts generalizing above with
  | nil => rfl
  | cons part rest ih =>
    rw [steps_cons, List.foldl_cons]
    by_cases idle : part = "" ∨ part = "."
    · -- A part that leads nowhere is dropped on both sides.
      rw [if_pos idle, ih, climb_of_idle idle]
    · rw [if_neg idle, List.foldl_cons, ih]

/-- Names lead down. -/
theorem foldl_climb_names (absolute : Bool) (above : List String)
    (proper : ∀ name ∈ names, IsName name) :
    names.foldl (climb absolute) above = names.reverse ++ above := by
  -- Each name is put on top, so the list is reversed at the end.
  induction names generalizing above with
  | nil => rfl
  | cons first rest ih =>
    obtain ⟨here, later⟩ := List.forall_mem_cons.mp proper
    rw [List.foldl_cons, climb_of_isName here, ih _ later, List.reverse_cons, List.append_assoc,
      List.singleton_append]

/-- Every name that is left was there, or it is a part, or it is two dots. -/
theorem mem_foldl_climb {absolute : Bool} {parts : List String}
    (member : name ∈ parts.foldl (climb absolute) above) :
    name ∈ above ∨ name ∈ parts ∨ name = ".." := by
  -- What is left after the first part goes through the rest.
  induction parts generalizing above with
  | nil => exact Or.inl member
  | cons part rest ih =>
    rw [List.mem_cons]
    -- The name was left by the first part, or it came with a later one.
    rcases ih member with here | later | dots
    · rcases mem_climb here with before | rfl | dots
      · exact Or.inl before
      · exact Or.inr (Or.inl (Or.inl rfl))
      · exact Or.inr (Or.inr dots)
    · exact Or.inr (Or.inl (Or.inr later))
    · exact Or.inr (Or.inr dots)

/-- No name that is left has a slash. -/
theorem notMem_of_mem_resolved {path : String} (member : name ∈ resolved path) :
    '/' ∉ name.toList := by
  -- At the beginning no name is there; two dots hold no slash, and neither does a part.
  rcases mem_foldl_climb (List.mem_reverse.mp member) with none | part | rfl
  · cases none
  · exact notMem_of_mem_parts part
  · decide

/-- Names that are joined to a base are the last ones that are left. -/
theorem resolved_join (base : String) (proper : ∀ name ∈ names, IsName name) (filled : names ≠ []) :
    resolved (join base ("/".intercalate names)) = resolved base ++ names := by
  -- The names behind the base are the last parts, so they are the last ones put on top.
  have relative := isAbsolute_intercalate proper
  obtain ⟨first, rest, rfl⟩ := List.exists_cons_of_ne_nil filled
  obtain ⟨outer, parted, stepped⟩ := exists_parts_join base relative
  rw [parts_intercalate first rest fun name member => (proper name member).slashless] at parted
  -- The parts of the base come first, and those that lead nowhere count for nothing.
  rw [resolved, parted, isAbsolute_join base relative, List.foldl_append,
    ← foldl_climb_steps _ [] outer, stepped, foldl_climb_steps, foldl_climb_names _ _ proper,
    List.reverse_append, List.reverse_reverse]
  rfl

/-- The names that are left of a base and some names below it are parts of one path. -/
theorem parts_resolved (base : String) (proper : ∀ name ∈ names, IsName name)
    (filled : names ≠ []) :
    parts ("/".intercalate (resolved base ++ names)) = resolved base ++ names := by
  -- There is a first name, because those below the base are not empty.
  obtain ⟨first, rest, whole⟩ := List.exists_cons_of_ne_nil
    (show resolved base ++ names ≠ [] by simp [filled])
  rw [whole]
  refine parts_intercalate first rest fun name member => ?_
  -- Names of the base are parts of it, and the names below it are proper.
  rcases List.mem_append.mp (whole ▸ member) with outer | inner
  · exact notMem_of_mem_resolved outer
  · exact (proper name inner).slashless

/-- The absolute path of some names below a base ends with these names. -/
theorem normalise_join (base : String) (proper : ∀ name ∈ names, IsName name)
    (filled : names ≠ []) :
    normalise (join base ("/".intercalate names)) =
      String.ofList (rootMark base.toList) ++ "/".intercalate (resolved base ++ names) := by
  -- The front comes from the base, and what is left of both ends with the names.
  have mark := rootMark_join base (isAbsolute_intercalate proper)
  have left := resolved_join base proper filled
  have shown : "/".intercalate (resolved base ++ names) ≠ "" := by
    intro none
    -- The only part would be empty, and a name is not.
    have parted := parts_resolved base proper filled
    rw [none, show parts "" = [""] by decide] at parted
    have last := congrArg List.getLast? parted
    rw [List.getLast?_append_of_ne_nil _ filled] at last
    exact (proper "" (List.mem_of_getLast? last.symm)).moves.1 rfl
  -- The text is not empty, so no dot stands in for it.
  rw [resolved] at left
  rw [normalise, left, mark]
  exact if_neg (by simp [shown])

/-- Different names below a base have different absolute paths. -/
theorem normalise_join_inj (base : String) {first second : List String}
    (proper : ∀ name ∈ first, IsName name) (filled : first ≠ [])
    (proper' : ∀ name ∈ second, IsName name) (filled' : second ≠ [])
    (same : normalise (join base ("/".intercalate first)) =
      normalise (join base ("/".intercalate second))) : first = second := by
  -- Both texts have the same front and the same names of the base in them.
  rw [normalise_join base proper filled, normalise_join base proper' filled'] at same
  have behind := congrArg parts ((String.append_right_inj _).mp same)
  -- Splitting them at the slashes gives the names back.
  rw [parts_resolved base proper filled, parts_resolved base proper' filled'] at behind
  exact List.append_cancel_left behind

end Resolved

end Flowprint.Path
