import ConfigBar.Json.Value
/-!
# Writing JSON

Two layouts: `compress` writes a value without any blanks, `pretty` puts each item and each member
on a line of its own, indented by two spaces a level, and keeps empty arrays and objects together.

In strings the quote, the backslash and the control characters below the space are escaped, the
latter by a short escape where there is one. A string without text is written as an empty one.
-/

namespace ConfigBar.Json

/-- A hexadecimal digit, small. -/
def hexDigit (n : Nat) : Char := if n < 10 then Char.ofNat (0x30 + n) else Char.ofNat (0x57 + n)

/-- One character of a string, escaped where it has to be. -/
def escapeChar (c : Char) : List Char :=
  if c = '"' then ['\\', '"']
  else if c = '\\' then ['\\', '\\']
  else if c = '\x08' then ['\\', 'b']
  else if c = '\x0c' then ['\\', 'f']
  else if c = '\n' then ['\\', 'n']
  else if c = '\r' then ['\\', 'r']
  else if c = '\t' then ['\\', 't']
  else if c < ' ' then ['\\', 'u', '0', '0', hexDigit (c.toNat / 16), hexDigit (c.toNat % 16)]
  else [c]

/-- A string between quotes. -/
def quote (cs : List Char) : List Char := '"' :: (cs.flatMap escapeChar ++ ['"'])

/-- The text of a string between quotes. -/
def quoteText (t : JsonText) : List Char := quote (t.getD "").toList

mutual

/-- A value without blanks. -/
def compressChars : Json → List Char
  | .null => ['n', 'u', 'l', 'l']
  | .bool true => ['t', 'r', 'u', 'e']
  | .bool false => ['f', 'a', 'l', 's', 'e']
  | .number n => n.chars
  | .string t => quoteText t
  | .array items => '[' :: (compressItems items ++ [']'])
  | .object members => '{' :: (compressMembers members ++ ['}'])

/-- The items of an array, with commas between them. -/
def compressItems : List Json → List Char
  | [] => []
  | [v] => compressChars v
  | v :: w :: vs => compressChars v ++ ',' :: compressItems (w :: vs)

/-- The members of an object, with commas between them. -/
def compressMembers : List (JsonText × Json) → List Char
  | [] => []
  | [(k, v)] => quoteText k ++ ':' :: compressChars v
  | (k, v) :: m :: ms => quoteText k ++ ':' :: (compressChars v ++ ',' :: compressMembers (m :: ms))

end

/-- A value without blanks. -/
def compress (v : Json) : String := String.ofList (compressChars v)

/-- The start of a line, indented by `level` steps. -/
def newLine (level : Nat) : List Char := '\n' :: List.replicate (2 * level) ' '

mutual

/-- A value on indented lines. -/
def prettyChars (level : Nat) : Json → List Char
  | .array [] => ['[', ']']
  | .array (v :: vs) => '[' :: (prettyItems (level + 1) (v :: vs) ++ newLine level ++ [']'])
  | .object [] => ['{', '}']
  | .object (m :: ms) => '{' :: (prettyMembers (level + 1) (m :: ms) ++ newLine level ++ ['}'])
  | v => compressChars v

/-- The items of an array, each on its line. -/
def prettyItems (level : Nat) : List Json → List Char
  | [] => []
  | [v] => newLine level ++ prettyChars level v
  | v :: w :: vs => newLine level ++ prettyChars level v ++ ',' :: prettyItems level (w :: vs)

/-- The members of an object, each on its line. -/
def prettyMembers (level : Nat) : List (JsonText × Json) → List Char
  | [] => []
  | [(k, v)] => newLine level ++ quoteText k ++ [':', ' '] ++ prettyChars level v
  | (k, v) :: m :: ms =>
    newLine level ++ quoteText k ++ [':', ' '] ++ prettyChars level v ++
      ',' :: prettyMembers level (m :: ms)

end

/-- A value on indented lines. -/
def pretty (v : Json) : String := String.ofList (prettyChars 0 v)

end ConfigBar.Json
