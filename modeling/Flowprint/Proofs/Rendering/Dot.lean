import Flowprint.Flowgraph.Edit
import Flowprint.Proofs.Text.Hexadecimal
import Flowprint.Proofs.Text.Separated
import Flowprint.Rendering.Dot

/-!
A drawing tells the nodes, the edges and the shown code of a function, whatever texts are in it.

Between quotes a backslash protects the character behind it, and a reader that knows nothing else
finds the end of every label and takes back every line of it.
-/

namespace Flowprint

namespace Dot

/-- What stands in front of the quote that closes a text, and what stands behind that quote. -/
def scanQuoted? : List Char → Option (List Char × List Char)
  | [] => none
  | '"' :: rest => some ([], rest)
  -- The character behind a backslash is passed over with it, and there has to be one.
  | '\\' :: [] => none
  | '\\' :: c :: rest => (scanQuoted? rest).map fun found => ('\\' :: c :: found.1, found.2)
  | c :: rest => (scanQuoted? rest).map fun found => (c :: found.1, found.2)

/-- The lines of a label whose first line has been read up to some point already. -/
def labelLines? (taken : List Char) : List Char → Option (List String)
  -- Nothing may be left of a line that no mark ends.
  | [] => if taken = [] then some [] else none
  | '\\' :: '\\' :: rest => labelLines? (taken ++ ['\\']) rest
  | '\\' :: '"' :: rest => labelLines? (taken ++ ['"']) rest
  | '\\' :: 'l' :: rest => (labelLines? [] rest).map (String.ofList taken :: ·)
  -- A backslash protects nothing else, and a quote cannot stand alone.
  | '\\' :: _ => none
  | '"' :: _ => none
  | c :: rest => labelLines? (taken ++ [c]) rest

/-! Scanning goes over everything that is written between quotes. -/

/-- The closing quote is looked for behind a text, as if the text were not there. -/
def Passed (text : List Char) : Prop :=
  ∀ rest, scanQuoted? (text ++ rest) =
    (scanQuoted? rest).map fun found => (text ++ found.1, found.2)

namespace Passed

variable {text more : List Char}

/-- The empty text is passed over. -/
theorem nil : Passed [] := by
  -- Nothing is passed over, whatever stands behind it.
  intro rest
  simp

/-- One text is passed over after the other. -/
theorem append (one : Passed text) (other : Passed more) : Passed (text ++ more) := by
  intro rest
  -- What is put in front of the text found behind both is put there in two steps.
  rw [List.append_assoc, one, other, Option.map_map]
  simp [Function.comp_def]

/-- Texts that are passed over one by one are passed over together. -/
theorem flatMap {α : Type} {pieces : List α} {write : α → List Char}
    (each : ∀ piece, Passed (write piece)) : Passed (pieces.flatMap write) := by
  -- The texts are passed over from left to right.
  induction pieces with
  | nil => exact nil
  | cons piece rest ih =>
    rw [List.flatMap_cons]
    exact (each piece).append ih

/-- A quote right behind the text closes it. -/
theorem closes (passed : Passed text) (rest : List Char) :
    scanQuoted? (text ++ '"' :: rest) = some (text, rest) := by
  -- Passing over leaves the scan at the quote.
  rw [passed, scanQuoted?]
  simp

/-- Where two texts are closed, they agree in what is closed and in what follows. -/
theorem closed_inj (one : Passed text) (other : Passed more) {rest rerest : List Char}
    (same : text ++ '"' :: rest = more ++ '"' :: rerest) : text = more ∧ rest = rerest := by
  -- Both sides are scanned alike, and each closes at its own quote.
  have found : some (text, rest) = some (more, rerest) := by
    rw [← one.closes rest, ← other.closes rerest, same]
  exact Prod.mk.inj (Option.some.inj found)

end Passed

/-- One character as it is written between double quotes. -/
def escapeChar (c : Char) : List Char :=
  -- A backslash protects itself and the quote, and a line break stands as it is.
  if c = '\\' then ['\\', '\\'] else if c = '"' then ['\\', '"'] else [c]

/-- A backslash and a quote are protected, and any other character is written as it stands. -/
theorem escapeChar_cases (c : Char) :
    (c = '\\' ∧ escapeChar c = ['\\', '\\']) ∨ (c = '"' ∧ escapeChar c = ['\\', '"']) ∨
      (c ≠ '\\' ∧ c ≠ '"' ∧ escapeChar c = [c]) := by
  -- There are three cases, of which the first that applies decides.
  unfold escapeChar
  by_cases backslash : c = '\\'
  · simp [backslash]
  · by_cases quote : c = '"'
    · simp [quote]
    · simp [backslash, quote]

/-- What is written for one character is passed over as a whole. -/
theorem passed_escapeChar (c : Char) : Passed (escapeChar c) := by
  -- A protected character is skipped with its backslash, and any other one stands for itself.
  intro rest
  rcases escapeChar_cases c with ⟨-, written⟩ | ⟨-, written⟩ | ⟨noBackslash, noQuote, written⟩
  · rw [written]
    rfl
  · rw [written]
    rfl
  · rw [written]
    simp [scanQuoted?, noBackslash]

/-- Protecting all backslashes first and all quotes then is the same as escaping in one go. -/
theorem toList_escape (text : String) : (escape text).toList = text.toList.flatMap escapeChar := by
  rw [escape, String.toList_ofList]
  -- Protecting is done character by character, and so is protecting twice.
  rw [protect, protect, List.flatMap_assoc]
  refine congrArg text.toList.flatMap (funext fun c => ?_)
  rcases escapeChar_cases c with ⟨rfl, written⟩ | ⟨rfl, written⟩ | ⟨noBackslash, noQuote, written⟩
  · rw [written]
    rfl
  · rw [written]
    rfl
  · simp [written, noBackslash, noQuote]

/-- The other way round, the backslashes in front of the quotes would be protected again. -/
example : String.ofList (protect '\\' (protect '"' ['"'])) ≠ escape "\"" := by decide

/-- A text without special characters is written as it stands. -/
theorem flatMap_escapeChar {text : List Char} (unquoted : '"' ∉ text) (unescaped : '\\' ∉ text) :
    text.flatMap escapeChar = text := by
  -- Each character stands for itself.
  induction text with
  | nil => rfl
  | cons c rest ih =>
    rw [List.mem_cons, not_or] at unquoted unescaped
    have plain : escapeChar c = [c] := by
      simp [escapeChar, Ne.symm unescaped.1, Ne.symm unquoted.1]
    rw [List.flatMap_cons, ih unquoted.2 unescaped.2, plain, List.singleton_append]

/-- Nothing is special in the form of an address. -/
theorem escape_markedHex (address : Address) :
    address.markedHex.toList.flatMap escapeChar = address.markedHex.toList :=
  -- Neither a quote nor a backslash is a character of an address.
  flatMap_escapeChar (Address.notMem_markedHex (by decide) (by decide))
    (Address.notMem_markedHex (by decide) (by decide))

/-- The form of an address is passed over. -/
theorem passed_markedHex (address : Address) : Passed address.markedHex.toList := by
  -- The form is its own escaped form, and an escaped text is passed over.
  rw [← escape_markedHex]
  exact Passed.flatMap passed_escapeChar

/-! Reading a label undoes the writing of its lines. -/

/-- One line of a label with the mark behind it. -/
def labelLine (line : String) : List Char := line.toList.flatMap escapeChar ++ ['\\', 'l']

/-- A line of a label is passed over together with its mark. -/
theorem passed_labelLine (line : String) : Passed (labelLine line) := by
  -- The mark is a backslash with a letter, which are passed over together.
  have mark : Passed ['\\', 'l'] := fun _ => rfl
  exact (Passed.flatMap passed_escapeChar).append mark

/-- What is written for a text is read as the text. -/
theorem labelLines?_escape (taken text rest : List Char) :
    labelLines? taken (text.flatMap escapeChar ++ rest) = labelLines? (taken ++ text) rest := by
  -- A backslash of the text was doubled, so no mark is ever read where none was written.
  induction text generalizing taken with
  | nil => simp
  | cons c text ih =>
    rw [List.flatMap_cons, List.append_assoc]
    -- What is taken grows by the character, however it is written.
    have step (behind : List Char) :
        labelLines? taken (escapeChar c ++ behind) = labelLines? (taken ++ [c]) behind := by
      rcases escapeChar_cases c with
        ⟨rfl, written⟩ | ⟨rfl, written⟩ | ⟨noBackslash, noQuote, written⟩
      · rw [written]
        rfl
      · rw [written]
        rfl
      · rw [written]
        simp [labelLines?, noBackslash]
    rw [step, ih, List.append_assoc, List.singleton_append]

/-- The lines that are written in a label are read from it. -/
theorem labelLines?_flatMap (lines : List String) :
    labelLines? [] (lines.flatMap labelLine) = some lines := by
  induction lines with
  | nil => rfl
  | cons line rest ih =>
    -- The mark behind the line is read with nothing of the line left in front of it.
    rw [List.flatMap_cons, labelLine, List.append_assoc, labelLines?_escape]
    simp [labelLines?, ih]

/-! The lines of a drawing are told apart one after the other. -/

/-- What a line of a drawing stands for. -/
inductive Statement where
  /-- A node with its label as it is written. -/
  | node (address : Address) (label : String)
  /-- An edge, whether or not its ends are nodes. -/
  | edge (ends : Edge)

namespace Statement

/-- The line of a statement. -/
def line : Statement → String
  | node address label => nodeLine address label
  | edge ends => edgeLine ends

/-- The address that a line opens with. -/
def subject : Statement → Address
  | node address _ => address
  | edge ends => ends.1

/-- What a line says of its subject, from behind the quote that closes it. -/
def predicate : Statement → String
  | node _ label => " [label=\"" ++ label ++ "\"];"
  | edge ends => " -> \"" ++ ends.2.markedHex ++ "\";"

/-- The end of a label is not found inside it. -/
def Sound : Statement → Prop
  | node _ label => Passed label.toList
  | edge _ => True

/-- Every line opens with its subject between quotes. -/
theorem toList_line (statement : Statement) :
    statement.line.toList = ' ' :: ' ' :: '"' ::
      (statement.subject.markedHex.toList ++ '"' :: statement.predicate.toList) := by
  -- Both kinds of lines are written from the same pieces in the same order.
  cases statement with
  | node address label => simp [line, subject, predicate, nodeLine]
  | edge ends => simp [line, subject, predicate, edgeLine]

/-- Behind its subject a node is said to have a label. -/
theorem toList_predicate_node (address : Address) (label : String) :
    (predicate (.node address label)).toList =
      ' ' :: '[' :: 'l' :: 'a' :: 'b' :: 'e' :: 'l' :: '=' :: '"' ::
        (label.toList ++ ['"', ']', ';']) := by
  -- The two fixed parts stand around the label.
  simp [predicate]

/-- Behind its subject an edge has its other end. -/
theorem toList_predicate_edge (ends : Edge) :
    (predicate (.edge ends)).toList =
      ' ' :: '-' :: '>' :: ' ' :: '"' :: (ends.2.markedHex.toList ++ ['"', ';']) := by
  -- The other end stands between its quotes.
  simp [predicate]

variable {statement other : Statement} {rest rerest : List Char}

/-- A text that begins with the line of a statement begins with the line of no other statement. -/
theorem line_inj (one : statement.Sound) (two : other.Sound)
    (same : statement.line.toList ++ rest = other.line.toList ++ rerest) :
    statement = other ∧ rest = rerest := by
  -- The text of the line begins with the indent, the quote and the subject on both sides.
  simp only [toList_line, List.cons_append, List.append_assoc, List.cons.injEq, true_and] at same
  obtain ⟨forms, behind⟩ := (passed_markedHex _).closed_inj (passed_markedHex _) same
  have subjects := Address.markedHex_inj (String.toList_inj.mp forms)
  -- Behind the subject a node goes on with a bracket and an edge with an arrow.
  cases statement with
  | node address label =>
    -- Two nodes with the same label, if neither label ends before its quote.
    cases other with
    | node readdress relabel =>
      simp only [toList_predicate_node, List.cons_append, List.append_assoc, List.cons.injEq,
        List.nil_append, true_and] at behind
      obtain ⟨labels, rests⟩ := Passed.closed_inj one two behind
      rw [show address = readdress from subjects, String.toList_inj.mp labels]
      exact ⟨rfl, (List.cons.inj (List.cons.inj rests).2).2⟩
    | edge reends => simp [toList_predicate_node, toList_predicate_edge] at behind
  | edge ends =>
    cases other with
    | node readdress relabel => simp [toList_predicate_node, toList_predicate_edge] at behind
    -- Two edges with the same other end.
    | edge reends =>
      simp only [toList_predicate_edge, List.cons_append, List.append_assoc, List.cons.injEq,
        List.nil_append, true_and] at behind
      obtain ⟨stops, rests⟩ := (passed_markedHex _).closed_inj (passed_markedHex _) behind
      have stop := Address.markedHex_inj (String.toList_inj.mp stops)
      rw [show ends = reends from Prod.ext subjects stop]
      exact ⟨rfl, (List.cons.inj rests).2⟩

/-- The line of a statement is not the one that ends a drawing. -/
theorem line_ne_end : statement.line.toList ++ rest ≠ '\x7d' :: rerest := by
  -- A statement is indented.
  rw [toList_line]
  simp

end Statement

/-- The node of a statement and its label. -/
def Statement.label? : Statement → Option (Address × String)
  | node address label => some (address, label)
  | edge _ => none

/-- The edge of a statement. -/
def Statement.ends? : Statement → Option Edge
  | node _ _ => none
  | edge ends => some ends

/-- What the lines of a drawing stand for. -/
def statements (graph : Graph) (label : Address → String) : List Statement :=
  graph.nodes.map (fun address => .node address (label address)) ++ graph.edges.map .edge

/-- Statements are sound as soon as all labels are. -/
theorem sound_statements {graph : Graph} {label : Address → String}
    (passed : ∀ address, Passed (label address).toList) :
    ∀ statement ∈ statements graph label, statement.Sound := by
  -- The labels of nodes are sound by assumption, and edges have none.
  intro statement member
  rcases List.mem_append.mp member with inNodes | inEdges
  · obtain ⟨address, -, rfl⟩ := List.mem_map.mp inNodes
    exact passed address
  · obtain ⟨ends, -, rfl⟩ := List.mem_map.mp inEdges
    exact trivial

/-- Between its first two lines and its last one a drawing has one line for each statement. -/
theorem draw_eq (graph : Graph) (label : Address → String) :
    draw graph label = unlines ("digraph g \x7b" :: "  node [shape=box, fontname=\"monospace\"];" ::
      ((statements graph label).map Statement.line ++ ["\x7d"])) := by
  -- Each node and each edge makes one statement of one line.
  simp [draw, statements, Statement.line, Function.comp_def]

/-- What the lines of a drawing say, from its third line on. -/
def body (statements : List Statement) : List Char :=
  (statements.map Statement.line ++ ["\x7d"]).flatMap fun line => line.toList ++ ['\n']

/-- The body begins with its first statement. -/
theorem body_cons (statement : Statement) (rest : List Statement) :
    body (statement :: rest) = statement.line.toList ++ '\n' :: body rest := by
  -- One statement adds its line in front.
  simp [body]

/-- The statements are known by their lines, although a label may hold line breaks. -/
theorem body_inj {ones others : List Statement} (one : ∀ statement ∈ ones, statement.Sound)
    (other : ∀ statement ∈ others, statement.Sound) (same : body ones = body others) :
    ones = others := by
  have last : body [] = ['\x7d', '\n'] := by simp [body]
  -- One line is taken off on both sides, until one of them comes to its end.
  induction ones generalizing others with
  | nil =>
    cases others with
    | nil => rfl
    | cons statement rest =>
      -- One side is at its end, which no statement looks like.
      rw [last, body_cons] at same
      exact absurd same.symm Statement.line_ne_end
  | cons statement rest ih =>
    cases others with
    | nil =>
      rw [last, body_cons] at same
      exact absurd same Statement.line_ne_end
    | cons restatement rerest =>
      rw [List.forall_mem_cons] at one other
      -- Both first statements are the same, and the rest follows in the same way.
      rw [body_cons, body_cons] at same
      obtain ⟨rfl, behind⟩ := Statement.line_inj one.1 other.1 same
      rw [ih one.2 other.2 (List.cons.inj behind).2]

/-- The labels of all nodes are in the statements. -/
theorem filterMap_label? (graph : Graph) (label : Address → String) :
    (statements graph label).filterMap Statement.label? =
      graph.nodes.map fun address => (address, label address) := by
  -- No edge has a label.
  have edges : graph.edges.filterMap (Statement.label? ∘ .edge) = [] :=
    List.filterMap_eq_nil_iff.mpr fun _ _ => rfl
  rw [statements, List.filterMap_append, List.filterMap_map, List.filterMap_map, edges,
    List.append_nil]
  exact congrFun List.filterMap_eq_map' graph.nodes

/-- All edges are in the statements. -/
theorem filterMap_ends? (graph : Graph) (label : Address → String) :
    (statements graph label).filterMap Statement.ends? = graph.edges := by
  -- No node has ends.
  have nodes :
      graph.nodes.filterMap (Statement.ends? ∘ fun address => .node address (label address)) = [] :=
    List.filterMap_eq_nil_iff.mpr fun _ _ => rfl
  rw [statements, List.filterMap_append, List.filterMap_map, List.filterMap_map, nodes,
    List.nil_append]
  exact List.filterMap_some

/-- Nodes and edges are told apart in the statements, and so are the labels of the nodes. -/
theorem statements_inj {graph other : Graph} {label relabel : Address → String}
    (same : statements graph label = statements other relabel) :
    graph.nodes = other.nodes ∧ graph.edges = other.edges ∧
      ∀ node ∈ graph.nodes, label node = relabel node := by
  -- Picking out either kind of statement gives back the list that it came from.
  have labels : graph.nodes.map (fun address => (address, label address)) =
      other.nodes.map fun address => (address, relabel address) := by
    rw [← filterMap_label?, ← filterMap_label?, same]
  have edges : graph.edges = other.edges := by
    rw [← filterMap_ends? graph label, ← filterMap_ends? other relabel, same]
  have nodes : graph.nodes = other.nodes := by
    simpa [Function.comp_def] using congrArg (List.map Prod.fst) labels
  rw [← nodes] at labels
  exact ⟨nodes, edges, fun node member => (Prod.mk.inj (List.map_inj_left.mp labels node member)).2⟩

/-- Graphs with the same drawing have the same nodes with the same labels, and the same edges. -/
theorem draw_inj {graph other : Graph} {label relabel : Address → String}
    (one : ∀ address, Passed (label address).toList)
    (two : ∀ address, Passed (relabel address).toList)
    (same : draw graph label = draw other relabel) :
    graph.nodes = other.nodes ∧ graph.edges = other.edges ∧
      ∀ node ∈ graph.nodes, label node = relabel node := by
  -- The first two lines are the same in every drawing.
  have texts := congrArg String.toList same
  rw [draw_eq, draw_eq, toList_unlines, toList_unlines] at texts
  simp only [List.flatMap_cons] at texts
  have bodies := List.append_cancel_left (List.append_cancel_left texts)
  exact statements_inj (body_inj (sound_statements one) (sound_statements two) bodies)

end Dot

/-- Graphs with the same drawing are the same graph. -/
theorem Graph.toDot_inj {graph other : Graph} (same : graph.toDot = other.toDot) :
    graph = other := by
  -- The label of a node is its address, which is passed over.
  obtain ⟨nodes, edges, -⟩ := Dot.draw_inj Dot.passed_markedHex Dot.passed_markedHex same
  exact Graph.ext nodes edges

namespace Flowgraph

open Dot

/-- The lines of a label are the address and the instructions of the block. -/
def shownLines (function : Flowgraph) (address : Address) : List String :=
  address.markedHex :: (function.blockAt address).map Instruction.render

/-- A label is written line by line, the address as well as the instructions. -/
theorem toList_dotLabel (function : Flowgraph) (address : Address) :
    (function.dotLabel address).toList = (function.shownLines address).flatMap labelLine := by
  -- The address is not escaped, which makes no difference to it.
  simp [dotLabel, shownLines, labelLine, toList_escape, escape_markedHex, String.toList_join,
    List.flatMap_map]

/-- No text of an instruction ends a label. -/
theorem passed_dotLabel (function : Flowgraph) (address : Address) :
    Passed (function.dotLabel address).toList := by
  -- A label is a row of lines, each of which is passed over.
  rw [toList_dotLabel]
  exact Passed.flatMap passed_labelLine

/-- A label is read as the lines that it shows. -/
theorem labelLines?_dotLabel (function : Flowgraph) (address : Address) :
    labelLines? [] (function.dotLabel address).toList = some (function.shownLines address) := by
  -- The lines come back from the row that they were put into.
  rw [toList_dotLabel]
  exact labelLines?_flatMap (function.shownLines address)

/-- The line of a node in the drawing of a function. -/
def dotLine (function : Flowgraph) (address : Address) : String :=
  nodeLine address (function.dotLabel address)

/-- A drawing up to the quote that opens the label of a node, behind the lines of some nodes. -/
def dotFront (function : Flowgraph) (before : List Address) (node : Address) : String :=
  unlines ("digraph g \x7b" :: "  node [shape=box, fontname=\"monospace\"];" ::
    before.map function.dotLine) ++ "  \"" ++ node.markedHex ++ "\" [label=\""

/-- A drawing from behind the quote that closes a label, with the lines of the nodes left. -/
def dotBack (function : Flowgraph) (after : List Address) : String :=
  "];\n" ++ unlines (after.map function.dotLine ++ function.edges.map edgeLine ++ ["\x7d"])

/-- At every node a drawing falls into what is in front of the label, the label, and the rest. -/
theorem toDot_split (function : Flowgraph) {before after : List Address} {node : Address}
    (split : function.nodes = before ++ node :: after) :
    function.toDot = function.dotFront before node ++ function.dotLabel node ++ "\"" ++
      function.dotBack after := by
  -- The lines are one text, which is cut inside the line of the node.
  have line : (fun address => nodeLine address (function.dotLabel address)) = function.dotLine :=
    rfl
  apply String.toList_inj.mp
  rw [toDot, draw, split, line]
  simp [dotFront, dotBack, dotLine, nodeLine, toList_unlines]

/--
A drawing is unambiguous, and no text of an instruction can break it.

Functions with the same drawing have the same nodes, the same edges and at every node the same
instructions as they are shown. In every drawing the label of every node is closed by the quote that
was written behind it, and what is read from it is the address and the instructions as they are
shown.
-/
theorem toDot_faithful :
    (∀ function other : Flowgraph, function.toDot = other.toDot →
      function.nodes = other.nodes ∧ function.edges = other.edges ∧
      ∀ node ∈ function.nodes, (function.blockAt node).map Instruction.render =
        (other.blockAt node).map Instruction.render) ∧
    ∀ (function : Flowgraph) (before after : List Address) (node : Address),
      function.nodes = before ++ node :: after →
      function.toDot = function.dotFront before node ++ function.dotLabel node ++ "\"" ++
        function.dotBack after ∧
      scanQuoted? (function.dotLabel node ++ "\"" ++ function.dotBack after).toList =
        some ((function.dotLabel node).toList, (function.dotBack after).toList) ∧
      labelLines? [] (function.dotLabel node).toList =
        some (node.markedHex :: (function.blockAt node).map Instruction.render) := by
  refine ⟨?_, ?_⟩
  · -- Same drawings have the same statements, and a label is read line by line.
    intro function other same
    obtain ⟨nodes, edges, labels⟩ := draw_inj function.passed_dotLabel other.passed_dotLabel same
    refine ⟨nodes, edges, fun node member => ?_⟩
    -- The same label is read as the same lines.
    have lines : some (function.shownLines node) = some (other.shownLines node) := by
      rw [← labelLines?_dotLabel, ← labelLines?_dotLabel, labels node member]
    exact (List.cons.inj (Option.some.inj lines)).2
  · -- The label stands between the quotes, and it ends at the second one.
    intro function before after node split
    refine ⟨function.toDot_split split, ?_, function.labelLines?_dotLabel node⟩
    have closed := (function.passed_dotLabel node).closes (function.dotBack after).toList
    rw [String.toList_append, String.toList_append, List.append_assoc]
    exact closed

/-- Quotes, backslashes, marks and line breaks in texts, with operands that look like others. -/
theorem toDot_faithful_edges :
    let hard : Instruction := ⟨"\\", ["\"];\n", "\\l", "a\\", ""]⟩
    let function := build [.node 1, .node (-3), .edge (1, 9), .block 1 [hard, ⟨"mov", ["a, b"]⟩]]
    let other := build [.edge (1, 9), .node 1, .block 1 [hard, ⟨"mov", ["a", "b"]⟩], .node (-3)]
    function.toDot = other.toDot ∧ function.nodes = [] ++ 1 :: [-3] ∧
    function.edges = other.edges ∧
    (function.blockAt 1).map Instruction.render = (other.blockAt 1).map Instruction.render ∧
    labelLines? [] (function.dotLabel 1).toList =
      some ["0x1", "\\ \"];\n, \\l, a\\, ", "mov a, b"] := by
  intro hard function other
  -- An operand with a separator inside is shown like two operands, and more is not promised.
  have same : function.toDot = other.toDot := by decide +kernel
  have split : function.nodes = [] ++ 1 :: [-3] := by decide
  obtain ⟨-, edges, shown⟩ := toDot_faithful.1 function other same
  obtain ⟨-, -, lines⟩ := toDot_faithful.2 function [] [-3] 1 split
  have present : (1 : Address) ∈ function.nodes := by
    rw [split]
    exact List.mem_cons_self
  refine ⟨same, split, edges, shown 1 present, lines.trans ?_⟩
  decide +kernel

end Flowgraph

end Flowprint
