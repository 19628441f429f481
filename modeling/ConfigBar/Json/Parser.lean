import ConfigBar.Json.Token
/-!
# Reading JSON

The reader goes through the tokens once, with the open arrays and objects on a stack, so it is
structurally recursive and values may be nested as deep as memory allows.
-/

namespace ConfigBar.Json

/-- An array or object that is being read, innermost first on the stack. Items and members that
are complete are held in reverse. -/
inductive Frame where
  | array (done : List Json)
  | object (done : List (JsonText × Json)) (key : JsonText)

/-- What the reader has to see next. -/
inductive Expectation where
  /-- A value. -/
  | value
  /-- A value or the end of an array that has just been opened. -/
  | firstItem
  /-- A key or the end of an object that has just been opened. -/
  | firstKey
  /-- A key, with the members read so far. -/
  | key (done : List (JsonText × Json))
  /-- The colon after a key. -/
  | colon (done : List (JsonText × Json)) (key : JsonText)
  /-- Whatever follows a value that is complete. -/
  | after (value : Json)

/-- Where the reader goes with a token that begins a value, or `none` for another token. -/
def beginValue? (stack : List Frame) : Token → Option (Expectation × List Frame)
  | .null => some (.after .null, stack)
  | .bool b => some (.after (.bool b), stack)
  | .number n => some (.after (.number n), stack)
  | .string s => some (.after (.string s), stack)
  | .openArray => some (.firstItem, .array [] :: stack)
  | .openObject => some (.firstKey, stack)
  | _ => none

/-- Where the reader goes with one token. -/
def advance? (stack : List Frame) : Expectation → Token → Option (Expectation × List Frame)
  | .value, t => beginValue? stack t
  | .firstItem, .closeArray =>
    match stack with
    | .array done :: stack => some (.after (.array done.reverse), stack)
    | _ => none
  | .firstItem, t => beginValue? stack t
  | .firstKey, .closeObject => some (.after (.object []), stack)
  | .firstKey, .string k => some (.colon [] k, stack)
  | .key done, .string k => some (.colon done k, stack)
  | .colon done k, .colon => some (.value, .object done k :: stack)
  | .after v, .comma =>
    match stack with
    | .array done :: stack => some (.value, .array (v :: done) :: stack)
    | .object done k :: stack => some (.key ((k, v) :: done), stack)
    | [] => none
  | .after v, .closeArray =>
    match stack with
    | .array done :: stack => some (.after (.array (v :: done).reverse), stack)
    | _ => none
  | .after v, .closeObject =>
    match stack with
    | .object done k :: stack => some (.after (.object ((k, v) :: done).reverse), stack)
    | _ => none
  | _, _ => none

/-- Reads the rest of the tokens. The text ends where one value is complete and nothing is open. -/
def readTokens? : Expectation → List Frame → List Token → Option Json
  | .after v, [], [] => some v
  | _, _, [] => none
  | e, stack, t :: ts =>
    match advance? stack e t with
    | none => none
    | some (e, stack) => readTokens? e stack ts

/-- Reads a JSON text: one value, with blanks around it. -/
def parse? (s : String) : Option Json := (Token.lex s.toList).bind (readTokens? .value [])

end ConfigBar.Json
