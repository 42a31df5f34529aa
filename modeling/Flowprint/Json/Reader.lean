import Flowprint.Json.Value
import Flowprint.Json.Token

/-! Tokens are put together to a value by a machine that keeps the open containers on a stack. -/

namespace Flowprint.Json

/-- An open container that waits for a value inside it. -/
inductive Frame where
  /-- An array with its items so far, latest first. -/
  | array (items : List Json)
  /-- An object with its fields so far and the key of the value to come. -/
  | object (fields : List (String × Json)) (key : String)

/-- What may come next. -/
inductive Awaited where
  /-- A value. -/
  | value
  /-- The first item of an array, or its end. -/
  | firstItem
  /-- The first key of an object, or its end. -/
  | firstKey
  /-- A further key of an object. -/
  | key (fields : List (String × Json))
  /-- The colon after a key. -/
  | colon (fields : List (String × Json)) (key : String)
  /-- Whatever may follow a finished value. -/
  | after (value : Json)

/-- A reading in progress. -/
structure Reader where
  /-- The containers around the place of reading, innermost first. -/
  frames : List Frame
  /-- What may come next. -/
  awaited : Awaited

namespace Reader

/-- Before the first token. -/
def start : Reader := ⟨[], .value⟩

/-- The value of a token that is a value by itself. -/
def scalar? : Token → Option Json
  | .null => some .null
  | .bool value => some (.bool value)
  | .string text => some (.string text)
  | .number (.integer value) => some (.integer value)
  | .number (.decimal value) => some (.decimal value)
  | _ => none

/-- Takes a token that has to begin a value, with no more than `depth` containers open. -/
def begin? (depth : Nat) (frames : List Frame) (token : Token) : Option Reader :=
  -- Each open container has one frame, so the frames count the depth.
  match token with
  | .openArray =>
    if frames.length < depth then some ⟨.array [] :: frames, .firstItem⟩ else none
  | .openObject =>
    if frames.length < depth then some ⟨frames, .firstKey⟩ else none
  | token => (scalar? token).map fun value => ⟨frames, .after value⟩

/-- Takes a token after a finished value: a comma goes on, and a bracket ends the container. -/
def continue? (frames : List Frame) (value : Json) (token : Token) : Option Reader :=
  match frames, token with
  | .array items :: outer, .comma => some ⟨.array (value :: items) :: outer, .value⟩
  | .array items :: outer, .closeArray => some ⟨outer, .after (.array (value :: items).reverse)⟩
  | .object fields key :: outer, .comma => some ⟨outer, .key (putField key value fields)⟩
  | .object fields key :: outer, .closeObject =>
    some ⟨outer, .after (.object (putField key value fields))⟩
  | _, _ => none

/-- Takes one token. -/
def step (depth : Nat) (reader : Reader) (token : Token) : Option Reader :=
  -- Only the start of a container admits its end, so no comma stands before a closing mark.
  match reader.awaited, token with
  | .value, token => begin? depth reader.frames token
  | .firstItem, .closeArray => some ⟨reader.frames.tail, .after (.array [])⟩
  | .firstItem, token => begin? depth reader.frames token
  | .firstKey, .closeObject => some ⟨reader.frames, .after (.object [])⟩
  | .firstKey, .string key => some ⟨reader.frames, .colon [] key⟩
  | .key fields, .string key => some ⟨reader.frames, .colon fields key⟩
  | .colon fields key, .colon => some ⟨.object fields key :: reader.frames, .value⟩
  | .after value, token => continue? reader.frames value token
  | _, _ => none

/-- The value, if nothing is open any more. -/
def finish (reader : Reader) : Option Json :=
  match reader.frames, reader.awaited with
  | [], .after value => some value
  | _, _ => none

end Reader

/-- Puts tokens together to one value with at most `depth` containers inside each other. -/
def ofTokens? (depth : Nat) (tokens : List Token) : Option Json := do
  let done ← tokens.foldlM (Reader.step depth) Reader.start
  done.finish

/-- How deep containers may stand inside each other in a document. -/
def maxDepth : Nat := 1024

/-- Reads a text that has to be one JSON value with finite numbers and bounded depth. -/
def read? (text : String) : Option Json := do
  -- A number that is too large refuses the text even where its value would be dropped.
  let tokens ← Token.scan? text.toList
  if tokens.all Token.acceptable then ofTokens? maxDepth tokens else none

/-- Reads bytes, which have to be UTF-8. -/
def readBytes? (bytes : ByteArray) : Option Json := do
  read? (← String.fromUTF8? bytes)

end Flowprint.Json
