import Flowprint.Text.Digit
import Flowprint.Text.Quoted

/-! Arguments of a command are sorted into options and values before any option takes effect. -/

namespace Flowprint.Command

/-- What an option is for. -/
inductive Choice where
  /-- Show how the command is used. -/
  | help
  /-- Add sources. -/
  | sources
  /-- Name the folder for reports. -/
  | reports
  /-- Show the code of every function. -/
  | listing
  /-- Show no table. -/
  | noTable
  /-- Report success in any case. -/
  | noError
  /-- Show no messages. -/
  | quiet
  deriving DecidableEq, Repr

/-- The spellings of a choice. -/
def Choice.spellings : Choice → List String
  | help => ["-h", "--help"]
  | sources => ["-i", "--src"]
  | reports => ["-o", "--reports"]
  | listing => ["--disassembly"]
  | noTable => ["--no-summary"]
  | noError => ["--no-error"]
  | quiet => ["-q", "--quiet"]

/-- A choice as it is named in a complaint. -/
def Choice.name (choice : Choice) : String := "/".intercalate choice.spellings

/-- All spellings with their choices, in the order in which candidates are listed. -/
def spellings : List (String × Choice) :=
  [Choice.help, .sources, .reports, .listing, .noTable, .noError, .quiet].flatMap fun choice =>
    choice.spellings.map (·, choice)

/-- Why a command line is not understood. -/
inductive UsageFault where
  /-- The beginning of an option fits several. -/
  | ambiguous (argument : String) (candidates : List String)
  /-- An option that takes values has none. -/
  | noValues (choice : Choice)
  /-- An option that takes one value has none. -/
  | noValue (choice : Choice)
  /-- An option that takes no value has one. -/
  | idleValue (choice : Choice) (value : String)
  /-- No sources are named. -/
  | noSources
  /-- Some arguments have no meaning. -/
  | unrecognized (arguments : List String)
  deriving DecidableEq, Repr

/-- The words for a fault. -/
def UsageFault.message : UsageFault → String
  | ambiguous argument candidates =>
    "ambiguous option: " ++ argument ++ " could match " ++ ", ".intercalate candidates
  | noValues choice => "argument " ++ choice.name ++ ": expected at least one argument"
  | noValue choice => "argument " ++ choice.name ++ ": expected one argument"
  | idleValue choice value =>
    "argument " ++ choice.name ++ ": ignored explicit argument " ++ Text.quoted value
  | noSources => "the following arguments are required: " ++ Choice.sources.name
  | unrecognized arguments => "unrecognized arguments: " ++ " ".intercalate arguments

/-- An argument by its form. -/
inductive Argument where
  /-- A value for an option. -/
  | value (text : String)
  /-- An option by one of its spellings, perhaps with a text attached. -/
  | option (choice : Choice) (spelling : String) (attached : Option String)
  /-- Something that looks like an option and is none. -/
  | unknown (text : String)
  deriving DecidableEq, Repr

namespace Argument

/-- The choice with exactly this spelling. -/
def choice? (spelling : String) : Option Choice :=
  (spellings.find? (·.1 = spelling)).map (·.2)

/-- Splits a text at its first equals sign. -/
def splitEquals? : List Char → Option (List Char × List Char)
  | [] => none
  | c :: rest =>
    if c = '=' then some ([], rest)
    else (splitEquals? rest).map fun halves => (c :: halves.1, halves.2)

/-- A minus sign and digits, perhaps with a decimal point before the last of them. -/
def isNegative (text : List Char) : Bool :=
  match text with
  | '-' :: marks =>
    -- A line break at the very end does not count.
    let marks := if marks.getLast? = some '\n' then marks.dropLast else marks
    match marks.dropWhile Text.isDigit with
    | [] => !marks.isEmpty
    | '.' :: decimals => !decimals.isEmpty && decimals.all Text.isDigit
    | _ => false
  | _ => false

/-- The options that an abbreviation can stand for, each with the text attached to it. -/
def candidates (text : List Char) : List Argument :=
  match text with
  | '-' :: '-' :: _ =>
    -- A long option may be cut short, and its value stands behind an equals sign.
    let (beginning, attached) : List Char × Option String :=
      match splitEquals? text with
      | some (beginning, after) => (beginning, some (String.ofList after))
      | none => (text, none)
    (spellings.filter fun entry => beginning.isPrefixOf entry.1.toList).map fun entry =>
      .option entry.2 entry.1 attached
  | '-' :: letter :: rest =>
    -- The value of a short option stands right behind its letter.
    let spelling := String.ofList ['-', letter]
    (choice? spelling).toList.map fun choice =>
      .option choice spelling (some (String.ofList rest))
  | _ => []

/-- The argument with exactly this spelling before an equals sign, if there is one. -/
def attached? (text : List Char) : Option Argument := do
  let (spelling, after) ← splitEquals? text
  let choice ← choice? (String.ofList spelling)
  return .option choice (String.ofList spelling) (some (String.ofList after))

/-- The form of an argument. -/
def classify (text : String) : Except UsageFault Argument :=
  -- An exact spelling wins over an abbreviation, and an abbreviation over a number.
  if text.toList.head? ≠ some '-' then .ok (.value text)
  else
    match choice? text with
    | some choice => .ok (.option choice text none)
    | none =>
      if text = "-" then .ok (.value text)
      else
        match attached? text.toList, candidates text.toList with
        | some argument, _ => .ok argument
        | none, [] =>
          if isNegative text.toList || ' ' ∈ text.toList then .ok (.value text)
          else .ok (.unknown text)
        | none, [argument] => .ok argument
        | none, several =>
          .error (.ambiguous text (several.filterMap fun candidate =>
            match candidate with
            | .option _ spelling _ => some spelling
            | _ => none))

end Argument

end Flowprint.Command
