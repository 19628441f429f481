import ConfigBar.Text.Blank
import ConfigBar.Text.Hexadecimal
/-!
# Atoms of patterns

The smallest parts of the patterns that a filter of the log may compare values with: characters,
the mark for any character, assertions on a place, and classes with a name of one letter. `Mode`
says what the flags of a pattern are at a place. Whether a part is supported depends on it: there
are no tables of the classes, the words and the cases of all scripts, and what a pattern matches is
always text.
-/

namespace ConfigBar.Pattern

/-- The flags at a place of a pattern. -/
structure Mode where
  /-- Upper and lower case are the same. -/
  ignoresCase : Bool
  /-- Characters are those of all scripts. -/
  isUnicode : Bool
  /-- Blanks and comments are not part of the pattern. -/
  isVerbose : Bool
  deriving DecidableEq, Repr

/-- The flags at the start of a pattern. -/
def Mode.initial : Mode := ⟨false, true, false⟩

/-- Skips the comments and blanks of a verbose pattern. -/
def skipVerbose (inComment : Bool) : List Char → List Char
  | [] => []
  | c :: cs =>
    if inComment then skipVerbose (c != '\n') cs
    else if Text.isBlank c then skipVerbose false cs
    else if c = '#' then skipVerbose true cs
    else c :: cs

/-- Skips what does not belong to a pattern. -/
def Mode.skip (m : Mode) (cs : List Char) : List Char :=
  if m.isVerbose then skipVerbose false cs else cs

/-- A smallest part of a pattern. -/
inductive Atom where
  /-- A character. As a byte, it is written by two hexadecimal digits. -/
  | char (value : Char) (isByte : Bool)
  | any
  /-- The start or the end of a line or the text. -/
  | edge
  /-- The start, the end or neither of a word. -/
  | wordEdge
  /-- A class with a name of one letter, or what is not in it. -/
  | named (isNegated : Bool)
  deriving DecidableEq, Repr

namespace Atom

/-- May an atom stand in a pattern? -/
def isSupported (m : Mode) : Atom → Bool
  | char value isByte =>
    if m.isUnicode then !m.ignoresCase else !(isByte && 0x80 ≤ value.toNat)
  | any => m.isUnicode
  | edge => true
  | wordEdge => !m.isUnicode
  | named isNegated => !m.isUnicode && !isNegated

/-- May an atom stand in a class? -/
def isSupportedInClass (m : Mode) : Atom → Bool
  | char value _ => if m.isUnicode then !m.ignoresCase else value.toNat < 0x80
  | named isNegated => !m.isUnicode && !isNegated
  | _ => false

/-- Reads the digits of a character by its code. -/
def hexDigits? (m : Mode) : (count : Nat) → List Char → Option (List Char × List Char)
  | 0, cs => some ([], cs)
  | count + 1, cs =>
    match m.skip cs with
    | [] => none
    | c :: rest =>
      if (Text.hexValue? c).isSome then (hexDigits? m count rest).map fun p => (c :: p.1, p.2)
      else none

/-- Reads a character by its code. -/
def coded? (m : Mode) (count : Nat) (cs : List Char) : Option (Atom × List Char) := do
  let (ds, rest) ← hexDigits? m count cs
  let n := ds.foldl (fun n d => n * 16 + (Text.hexValue? d).getD 0) 0
  if n.isValidChar then some (char (Char.ofNat n) (count = 2), rest) else none

/-- The control character that a letter after a backslash stands for. -/
def control? (c : Char) : Option Char :=
  if c = 'a' then some '\x07'
  else if c = 'f' then some '\x0c'
  else if c = 't' then some '\t'
  else if c = 'n' then some '\n'
  else if c = 'r' then some '\r'
  else if c = 'v' then some '\x0b'
  else none

/-- Reads an atom after a backslash. Letters and digits have meanings of their own or none, all other
ASCII characters stand for themselves. -/
def escaped? (m : Mode) : List Char → Option (Atom × List Char)
  | [] => none
  | c :: cs =>
    if c = 'x' then coded? m 2 cs
    else if c = 'u' then coded? m 4 cs
    else if c = 'U' then coded? m 8 cs
    else if c = 'd' ∨ c = 's' ∨ c = 'w' then some (named false, cs)
    else if c = 'D' ∨ c = 'S' ∨ c = 'W' then some (named true, cs)
    else if c = 'A' ∨ c = 'z' then some (edge, cs)
    else if c = 'b' ∨ c = 'B' ∨ c = '<' ∨ c = '>' then some (wordEdge, cs)
    else if c.isAlphanum ∨ 0x80 ≤ c.toNat then (control? c).map fun c => (char c false, cs)
    else some (char c false, cs)

end Atom

end ConfigBar.Pattern
