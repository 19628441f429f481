import ConfigBar.Text.Hexadecimal
/-!
# TOML strings

Strings stand between double quotes, with escapes, or between single quotes, without; three quotes
make a string that may go over lines. A line break right after three opening quotes does not count,
and up to two quotes may stand before three closing ones.

Control characters other than the tab are errors, and a carriage return may only stand before a
line feed.
-/

namespace ConfigBar.Toml

/-- A character that may not stand in a text. -/
def isControl (c : Char) : Bool := (c < ' ' && c != '\t') || c == '\x7f'

/-- The blanks within a line. -/
def isSpace (c : Char) : Bool := c == ' ' || c == '\t'

/-- The rest after a line break. -/
def afterBreak? : List Char → Option (List Char)
  | '\n' :: cs => some cs
  | '\r' :: '\n' :: cs => some cs
  | _ => none

/-- How a string is written. -/
structure Quoting where
  quote : Char
  isLong : Bool
  deriving DecidableEq, Repr

/-- Are there escapes? -/
def Quoting.hasEscapes (q : Quoting) : Bool := q.quote == '"'

/-- The quotes that belong to a string and the rest after it, if the string ends here. -/
def Quoting.closing? (q : Quoting) (cs : List Char) : Option (List Char × List Char) :=
  let count := (cs.takeWhile (· == q.quote)).length
  if q.isLong then
    if count < 3 then none
    else some (List.replicate (min count 5 - 3) q.quote, cs.drop (min count 5))
  else if count = 0 then none
  else some ([], cs.drop 1)

/-- The character with a code, if there is one. -/
def charOfCode? (n : Nat) : Option Char := if n.isValidChar then some (Char.ofNat n) else none

/-- The character that a short escape stands for. -/
def shortEscape? : Char → Option Char
  | '"' => some '"'
  | '\\' => some '\\'
  | 'b' => some '\x08'
  | 'e' => some '\x1b'
  | 'f' => some '\x0c'
  | 'n' => some '\n'
  | 'r' => some '\r'
  | 't' => some '\t'
  | _ => none

/-- The number of digits of an escape by code. -/
def codeLength? : Char → Option Nat
  | 'x' => some 2
  | 'u' => some 4
  | 'U' => some 8
  | _ => none

/-- Drops blanks and line breaks. -/
def dropBlankLines : List Char → List Char
  | '\r' :: '\n' :: cs => dropBlankLines cs
  | c :: cs => if isSpace c || c == '\n' then dropBlankLines cs else c :: cs
  | [] => []

/-- What an escape stands for and the rest after it. The backslash has been read; at the end of a
line it takes away all blanks and line breaks that follow. -/
def Quoting.escape? (q : Quoting) : List Char → Option (List Char × List Char)
  | [] => none
  | c :: cs =>
    match shortEscape? c, codeLength? c with
    | some e, _ => some ([e], cs)
    | none, some count => do
      let (n, rest) ← Text.takeHex? 0 count cs
      some ([← charOfCode? n], rest)
    | none, none =>
      if q.isLong && (afterBreak? ((c :: cs).dropWhile isSpace)).isSome then
        some ([], dropBlankLines (c :: cs))
      else none

/-- Reads a string up to its closing quotes. Every step takes at least one character, so the length
of the text is enough fuel. -/
def Quoting.body? (q : Quoting) : (fuel : Nat) → List Char → Option (List Char × List Char)
  | 0, _ => none
  | fuel + 1, cs =>
    match q.closing? cs with
    | some r => some r
    | none => do
      let (front, rest) ← match cs with
        | [] => none
        | c :: cs =>
          if c = '\\' && q.hasEscapes then q.escape? cs
          else if q.isLong && c = '\n' then some ([c], cs)
          else if q.isLong && c = '\r' then (afterBreak? (c :: cs)).map fun cs => (['\r', '\n'], cs)
          else if isControl c then none
          else some ([c], cs)
      let (back, rest) ← q.body? fuel rest
      some (front ++ back, rest)

/-- Reads the string at the front of a text, if one starts there. -/
def string? (allowLong : Bool) (cs : List Char) : Option (String × List Char) :=
  match cs with
  | c :: rest =>
    if c = '"' || c = '\'' then
      let long := allowLong && rest.take 2 = [c, c]
      let start := if long then let body := rest.drop 2; (afterBreak? body).getD body else rest
      ((Quoting.mk c long).body? (cs.length + 1) start).map fun p => (String.ofList p.1, p.2)
    else none
  | [] => none

end ConfigBar.Toml
