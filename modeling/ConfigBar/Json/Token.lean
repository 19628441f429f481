import ConfigBar.Json.Value
import ConfigBar.Text.Hexadecimal
/-!
# JSON tokens

A JSON text is a list of tokens with blanks between them. `Token.lex` reads the tokens;
`Token.chars` writes one.

* Only space, tab, line feed and carriage return are blanks.
* A number has no plus sign and no leading zeros, and digits on both sides of its point.
* A control character inside a string is an error; every other character stands for itself, and
  the escapes are the short ones and `\u` with four hexadecimal digits. Two escapes that form a
  surrogate pair are one character; any other escape of half a pair leaves the string without text.
-/

namespace ConfigBar.Json

open ConfigBar.Number (Numeral Exponent)

/-- A token of a JSON text. -/
inductive Token where
  | openArray
  | closeArray
  | openObject
  | closeObject
  | comma
  | colon
  | null
  | bool (value : Bool)
  | number (numeral : Numeral)
  | string (text : JsonText)
  deriving DecidableEq, Repr

namespace Token

/-- The blanks between tokens. -/
def isSpace (c : Char) : Bool := c = ' ' || c = '\n' || c = '\t' || c = '\r'

/-! ## Strings -/

/-- One character of a string, or half of a surrogate pair. -/
inductive Unit where
  | char (c : Char)
  | half (code : Nat)
  deriving DecidableEq, Repr

/-- The value of four hexadecimal digits. -/
def hexValue4? (a b c d : Char) : Option Nat :=
  (Text.takeHex? 0 4 [a, b, c, d]).map Prod.fst

/-- What a code of four hexadecimal digits stands for. -/
def unitOfCode (n : Nat) : Unit :=
  if 0xD800 ≤ n ∧ n < 0xE000 then .half n else .char (Char.ofNat n)

/-- The character that a short escape stands for. -/
def shortEscape? : Char → Option Char
  | '"' => some '"'
  | '\\' => some '\\'
  | '/' => some '/'
  | 'b' => some '\x08'
  | 'f' => some '\x0c'
  | 'n' => some '\n'
  | 'r' => some '\r'
  | 't' => some '\t'
  | _ => none

/-- Reads a string up to its closing quote. The opening quote has been read. -/
def units? : List Char → Option (List Unit × List Char)
  | [] => none
  | '"' :: cs => some ([], cs)
  | '\\' :: 'u' :: a :: b :: c :: d :: cs => do
    let n ← hexValue4? a b c d
    let (us, rest) ← units? cs
    some (unitOfCode n :: us, rest)
  | '\\' :: e :: cs => do
    let c ← shortEscape? e
    let (us, rest) ← units? cs
    some (.char c :: us, rest)
  | '\\' :: [] => none
  | c :: cs =>
    if c < ' ' then none
    else do
      let (us, rest) ← units? cs
      some (.char c :: us, rest)

/-- The characters of a string, if every half of a pair has its other half. -/
def charsOfUnits? : List Unit → Option (List Char)
  | [] => some []
  | .char c :: us => (charsOfUnits? us).map (c :: ·)
  | .half hi :: .half lo :: us =>
    if hi < 0xDC00 ∧ 0xDC00 ≤ lo then
      (charsOfUnits? us).map (Char.ofNat (0x10000 + (hi - 0xD800) * 0x400 + (lo - 0xDC00)) :: ·)
    else none
  | .half _ :: _ => none

/-- The text of a string. -/
def textOfUnits (us : List Unit) : JsonText := (charsOfUnits? us).map String.ofList

/-! ## Numbers -/

/-- Splits off the digits at the front. -/
def digits (cs : List Char) : List Char × List Char :=
  (cs.takeWhile Char.isDigit, cs.dropWhile Char.isDigit)

/-- Reads the fraction, if there is one. A point must be followed by a digit. -/
def fraction? : List Char → Option (List Char × List Char)
  | '.' :: cs => if (digits cs).1.isEmpty then none else some (digits cs)
  | cs => some ([], cs)

/-- Splits off a sign at the front. -/
def sign : List Char → Option Char × List Char
  | '+' :: cs => (some '+', cs)
  | '-' :: cs => (some '-', cs)
  | cs => (none, cs)

/-- Reads the exponent, if there is one. Its mark and sign must be followed by a digit. -/
def exponent? : List Char → Option (Option Exponent × List Char)
  | c :: cs =>
    if c = 'e' ∨ c = 'E' then
      let (s, cs) := sign cs
      let (ds, rest) := digits cs
      if ds.isEmpty then none else some (some ⟨s, ds⟩, rest)
    else some (none, c :: cs)
  | [] => some (none, [])

/-- Reads a number. -/
def numeral? (cs : List Char) : Option (Numeral × List Char) := do
  let (negative, cs) := match cs with
    | '-' :: cs => (true, cs)
    | cs => (false, cs)
  let (whole, cs) := digits cs
  if whole.isEmpty || (whole.head? = some '0' && 1 < whole.length) then none
  else
    let (frac, cs) ← fraction? cs
    let (exp, cs) ← exponent? cs
    some (⟨negative, whole, frac, exp⟩, cs)

/-! ## Lexing -/

/-- Reads the token at the front of a text that starts with no blank. -/
def next? (cs : List Char) : Option (Token × List Char) :=
  match cs with
  | '[' :: cs => some (openArray, cs)
  | ']' :: cs => some (closeArray, cs)
  | '{' :: cs => some (openObject, cs)
  | '}' :: cs => some (closeObject, cs)
  | ',' :: cs => some (comma, cs)
  | ':' :: cs => some (colon, cs)
  | 'n' :: 'u' :: 'l' :: 'l' :: cs => some (null, cs)
  | 't' :: 'r' :: 'u' :: 'e' :: cs => some (bool true, cs)
  | 'f' :: 'a' :: 'l' :: 's' :: 'e' :: cs => some (bool false, cs)
  | '"' :: cs => (units? cs).map fun p => (string (textOfUnits p.1), p.2)
  | cs => (numeral? cs).map fun p => (number p.1, p.2)

/-- Reads tokens until the text ends. Every token takes at least one character, so a text has no
more tokens than `fuel`, its length. -/
def lexWithin : (fuel : Nat) → List Char → Option (List Token)
  | 0, cs => if (cs.dropWhile isSpace).isEmpty then some [] else none
  | fuel + 1, cs =>
    match cs.dropWhile isSpace with
    | [] => some []
    | c :: cs => do
      let (t, rest) ← next? (c :: cs)
      let ts ← lexWithin fuel rest
      some (t :: ts)

/-- The tokens of a text. -/
def lex (cs : List Char) : Option (List Token) := lexWithin cs.length cs

end Token

end ConfigBar.Json
