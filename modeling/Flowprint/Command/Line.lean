import Flowprint.Command.Argument
import Flowprint.Command.Options

/-! A command line is read from left to right, and every option takes effect where it stands. -/

namespace Flowprint.Command

/-- Why a command line gives no options to run with. -/
inductive Refusal where
  /-- Help is asked for. -/
  | help
  /-- The command line is not understood. -/
  | usage (fault : UsageFault)
  deriving DecidableEq, Repr

/-- An option that waits for values, behind others that wait with it to take effect. -/
inductive Pending where
  /-- Nothing waits. -/
  | nothing
  /-- Sources are collected. -/
  | sources (before : List Choice) (values : List String)
  /-- The folder for reports is to come. -/
  | reports (before : List Choice)
  deriving DecidableEq

/-- What has been read of a command line. -/
structure Reading where
  /-- The options so far. -/
  options : Options := {}
  /-- The option for sources was there, even if it added none. -/
  sourced : Bool := false
  /-- The arguments without a meaning. -/
  leftovers : List String := []
  /-- The option that waits for values. -/
  pending : Pending := .nothing
  deriving DecidableEq

namespace Reading

/-- Lets an option without a value take effect. -/
def switch (reading : Reading) (choice : Choice) : Except Refusal Reading :=
  match choice with
  | .help => .error .help
  | .listing => .ok { reading with options.showListing := true }
  | .noTable => .ok { reading with options.showTable := false }
  | .noError => .ok { reading with options.ignoreErrors := true }
  | .quiet => .ok { reading with options.quiet := true }
  -- Options with values take effect when their values are known.
  | .sources => .ok reading
  | .reports => .ok reading

/-- Lets options without values take effect, one after the other. -/
def switchAll (reading : Reading) (choices : List Choice) : Except Refusal Reading :=
  choices.foldlM switch reading

/-- Adds sources. -/
def addSources (reading : Reading) (values : List String) : Reading :=
  { reading with
    options.sources := reading.options.sources ++ values
    sourced := true
    pending := .nothing }

/-- Names the folder for reports; without a value, any name given before is taken back. -/
def setReports (reading : Reading) (value : Option String) : Reading :=
  { reading with options.reports := value, pending := .nothing }

/-- Keeps an argument that has no meaning. -/
def leave (reading : Reading) (argument : String) : Reading :=
  { reading with leftovers := reading.leftovers ++ [argument] }

/-- Ends the option that waits for values. -/
def close (reading : Reading) : Except Refusal Reading :=
  match reading.pending with
  | .nothing => .ok reading
  | .reports _ => .error (.usage (.noValue .reports))
  | .sources _ [] => .error (.usage (.noValues .sources))
  -- The options in front of the sources had to wait as well.
  | .sources before values => do return (← reading.switchAll before).addSources values

/-- Takes an option with nothing attached to it, after others in the same argument. -/
def chooseBare (reading : Reading) (before : List Choice) (choice : Choice) :
    Except Refusal Reading :=
  match choice with
  | .sources => .ok { reading with pending := .sources before [] }
  | .reports => .ok { reading with pending := .reports before }
  | choice => reading.switchAll (before ++ [choice])

/-- A text attached to an option is its value, except that two dashes alone are no value. -/
def attachedValue? (text : List Char) : Option String :=
  if text = ['-', '-'] then none else some (String.ofList text)

/--
Takes an option with a text attached to it, after others in the same argument.

Behind an option of one letter that takes no value, the text is read as further options of one
letter, and the first letter that is none of them spoils it.
-/
def chooseWith (reading : Reading) (before : List Choice) (choice : Choice) (short : Bool)
    (text : List Char) : Except Refusal Reading :=
  match choice, text with
  | .sources, _ => do return (← reading.switchAll before).addSources (attachedValue? text).toList
  | .reports, _ => do return (← reading.switchAll before).setReports (attachedValue? text)
  -- An empty text is attached where an equals sign stands at the very end.
  | choice, [] => .error (.usage (.idleValue choice ""))
  | choice, letter :: rest =>
    -- Only options of one letter can be written together.
    match if short then Argument.choice? (String.ofList ['-', letter]) else none, rest with
    | none, _ => .error (.usage (.idleValue choice (String.ofList text)))
    | some next, [] => reading.chooseBare (before ++ [choice]) next
    | some next, c :: more => chooseWith reading (before ++ [choice]) next true (c :: more)
  termination_by structural text

/-- Takes an option. -/
def choose (reading : Reading) (choice : Choice) (spelling : String) (attached : Option String) :
    Except Refusal Reading :=
  match attached with
  | none => reading.chooseBare [] choice
  | some text => reading.chooseWith [] choice (spelling.length = 2) text.toList

/-- Takes one argument. -/
def step (reading : Reading) (argument : Argument) : Except Refusal Reading :=
  match argument with
  -- A value belongs to the option that waits for it.
  | .value text =>
    match reading.pending with
    | .nothing => .ok (reading.leave text)
    | .sources before values => .ok { reading with pending := .sources before (values ++ [text]) }
    | .reports before => do return (← reading.switchAll before).setReports (some text)
  -- Any option ends the one before it, and it may be too early for that.
  | .option choice spelling attached => do (← reading.close).choose choice spelling attached
  | .unknown text => do return (← reading.close).leave text

/-- The options of a command line that has been read to its end. -/
def finish (reading : Reading) (rest : List String) : Except Refusal Options := do
  -- The lack of sources is told before arguments without a meaning.
  let reading ← reading.close
  let leftovers := reading.leftovers ++ rest
  if !reading.sourced then .error (.usage .noSources)
  else if !leftovers.isEmpty then .error (.usage (.unrecognized leftovers))
  else
    return { reading.options with exportReports := reading.options.folder ≠ "" }

end Reading

/-- The options that some arguments choose; from two dashes on, arguments have no meaning. -/
def read (arguments : List String) : Except Refusal Options := do
  -- All arguments are sorted before the first one takes effect.
  let front := arguments.takeWhile (· ≠ "--")
  let rest := arguments.dropWhile (· ≠ "--")
  match front.mapM Argument.classify with
  | .error fault => .error (.usage fault)
  | .ok classified => (← classified.foldlM Reading.step {}).finish rest

end Flowprint.Command
