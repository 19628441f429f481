import ConfigBar.Toml.Text
import ConfigBar.Toml.Number
import ConfigBar.Toml.Moment
/-!
# Reading TOML

The reader turns a text into its lines. Blanks, comments and line breaks may stand between the
items of an array and everywhere in an inline table but within a key, and a comma may follow the
last item or pair. Every step of the reader takes at least one character, so the length of the text bounds the
steps.
-/

namespace ConfigBar.Toml

/-! ## Blanks and comments -/

/-- Skips blanks, line breaks and comments. -/
def skipTrivia? (inComment : Bool) : List Char → Option (List Char)
  | [] => some []
  | '\n' :: cs => skipTrivia? false cs
  | '\r' :: '\n' :: cs => skipTrivia? false cs
  | c :: cs =>
    if inComment then if isControl c then none else skipTrivia? true cs
    else if isSpace c then skipTrivia? false cs
    else if c = '#' then skipTrivia? true cs
    else some (c :: cs)

/-- Skips the blanks within a line. -/
def skipSpace (cs : List Char) : List Char := cs.dropWhile isSpace

/-- Reads the end of a line: blanks, perhaps a comment, and a line break or the end of the text. -/
def lineEnd? (inComment : Bool) : List Char → Option (List Char)
  | [] => some []
  | '\n' :: cs => some cs
  | '\r' :: '\n' :: cs => some cs
  | c :: cs =>
    if inComment then if isControl c then none else lineEnd? true cs
    else if isSpace c then lineEnd? false cs
    else if c = '#' then lineEnd? true cs
    else none

/-! ## Keys -/

/-- A character of a key without quotes. -/
def isBareKey (c : Char) : Bool := c.isAlphanum || c == '_' || c == '-'

/-- Reads one part of a key. -/
def keyPart? (cs : List Char) : Option (String × List Char) :=
  match string? false cs with
  | some r => some r
  | none =>
    let bare := cs.takeWhile isBareKey
    if bare.isEmpty then none else some (String.ofList bare, cs.dropWhile isBareKey)

/-- Reads a key of no more than so many parts, and the blanks after it. -/
def key? : (limit : Nat) → List Char → Option (Key × List Char)
  | 0, _ => none
  | limit + 1, cs => do
    let (part, cs) ← keyPart? cs
    match skipSpace cs with
    | '.' :: cs =>
      let (parts, rest) ← key? limit (skipSpace cs)
      some (part :: parts, rest)
    | rest => some ([part], rest)

/-- Reads a key and the sign that its value follows, with what may stand around the sign: blanks,
and in an inline table also line breaks and comments. -/
def assignment? (isInline : Bool) (cs : List Char) : Option (Key × List Char) := do
  let skip cs := if isInline then skipTrivia? false cs else some (skipSpace cs)
  let (key, cs) ← key? partLimit cs
  match ← skip cs with
  | '=' :: cs => some (key, ← skip cs)
  | _ => none

/-! ## Values -/

/-- A character that is a sign of its own between values. -/
def isMark (c : Char) : Bool :=
  c == '\n' || c == '\r' || c == '#' || c == ',' || c == '=' || c == '[' || c == ']' ||
    c == '{' || c == '}'

/-- Does a value without quotes go on here, after blanks? -/
def goesOn : List Char → Bool
  | [] => false
  | c :: _ => !(isMark c || c == '.' || c == '"' || c == '\'')

/-- Splits off the characters of a value without quotes. There may be blanks within it. -/
def atom : List Char → List Char × List Char
  | [] => ([], [])
  | c :: cs =>
    if isMark c || (isSpace c && !goesOn (skipSpace cs)) then ([], c :: cs)
    else
      let (text, rest) := atom cs
      (c :: text, rest)

/-- Reads the whole of an atom. -/
def ofAtom? (cs : List Char) : Option Scalar :=
  if cs = "true".toList then some (.flag true)
  else if cs = "false".toList then some (.flag false)
  else
    match integer? cs, float? cs, Moment.normal? cs with
    | some n, _, _ => some (.integer n)
    | none, some x, _ => some (.float x)
    | none, none, some moment => some (.moment (String.ofList moment))
    | none, none, none => none

/-- Reads a value without parts. -/
def scalar? (cs : List Char) : Option (Scalar × List Char) :=
  match string? true cs with
  | some (s, rest) => some (.text s, rest)
  | none =>
    let (text, rest) := atom cs
    (ofAtom? text).map fun s => (s, rest)

mutual

/-- Reads a value. -/
def value? : (fuel : Nat) → List Char → Option (Value × List Char)
  | 0, _ => none
  | fuel + 1, '[' :: cs => do
    let (items, rest) ← items? fuel (← skipTrivia? false cs)
    some (.array items, rest)
  | fuel + 1, '{' :: cs => do
    let (pairs, rest) ← pairs? fuel (← skipTrivia? false cs)
    some (.inline pairs, rest)
  | _ + 1, cs => (scalar? cs).map fun p => (.scalar p.1, p.2)

/-- Reads the items of an array up to its closing bracket. -/
def items? : (fuel : Nat) → List Char → Option (List Value × List Char)
  | 0, _ => none
  | _ + 1, ']' :: cs => some ([], cs)
  | fuel + 1, cs => do
    let (v, cs) ← value? fuel cs
    match ← skipTrivia? false cs with
    | ']' :: cs => some ([v], cs)
    | ',' :: cs =>
      let (vs, rest) ← items? fuel (← skipTrivia? false cs)
      some (v :: vs, rest)
    | _ => none

/-- Reads a key and its value. -/
def pair? (isInline : Bool) : (fuel : Nat) → List Char → Option ((Key × Value) × List Char)
  | 0, _ => none
  | fuel + 1, cs => do
    let (key, cs) ← assignment? isInline cs
    let (v, rest) ← value? fuel cs
    some ((key, v), rest)

/-- Reads the pairs of an inline table up to its closing brace. -/
def pairs? : (fuel : Nat) → List Char → Option (List (Key × Value) × List Char)
  | 0, _ => none
  | _ + 1, '}' :: cs => some ([], cs)
  | fuel + 1, cs => do
    let (p, cs) ← pair? true fuel cs
    match ← skipTrivia? false cs with
    | '}' :: cs => some ([p], cs)
    | ',' :: cs =>
      let (ps, rest) ← pairs? fuel (← skipTrivia? false cs)
      some (p :: ps, rest)
    | _ => none

end

/-! ## Lines -/

/-- Reads the opening of a section after its first bracket. -/
def header? (cs : List Char) : Option (Header × List Char) := do
  let (isItem, cs) := match cs with
    | '[' :: cs => (true, cs)
    | cs => (false, cs)
  let (key, cs) ← key? partLimit (skipSpace cs)
  match isItem, cs with
  | true, ']' :: ']' :: cs => some (⟨key, true⟩, cs)
  | false, ']' :: cs => some (⟨key, false⟩, cs)
  | _, _ => none

/-- Reads a line that is not blank. -/
def line? (cs : List Char) : Option (Line × List Char) := do
  let (line, cs) ← match cs with
    | '[' :: cs => (header? cs).map fun p => (Line.header p.1, p.2)
    | cs => (pair? false (2 * cs.length) cs).map fun p => (Line.pair p.1.1 p.1.2, p.2)
  some (line, ← lineEnd? false cs)

/-- Reads all lines. -/
def lines? : (fuel : Nat) → List Char → Option (List Line)
  | 0, _ => none
  | fuel + 1, cs =>
    match skipTrivia? false cs with
    | none => none
    | some [] => some []
    | some cs => do
      let (line, rest) ← line? cs
      some (line :: (← lines? fuel rest))

/-- A text without the mark of its byte order. -/
def withoutMark : List Char → List Char
  | '\uFEFF' :: cs => cs
  | cs => cs

/-- The deepest nesting of arrays and inline tables that a text may have. -/
def depthLimit : Nat := 80

/-- The lines of a TOML text. -/
def parse? (s : String) : Option (List Line) :=
  let cs := withoutMark s.toList
  (lines? (cs.length + 1) cs).filter fun ls => ls.all (·.depth ≤ depthLimit)

end ConfigBar.Toml
