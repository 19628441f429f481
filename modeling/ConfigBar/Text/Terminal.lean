import ConfigBar.Text.Pieces
/-!
# Control sequences of a terminal

An escape character starts a control sequence: a command that a terminal carries out and does not
show. `shown` is what a terminal shows of a text.

A control character within a command is carried out at once and counts as shown; the characters of
the other kinds of sequences are swallowed. Two control characters, cancel and substitute, break a
sequence off, and what follows is text. An escape character always starts a new sequence, so a text
falls into pieces that can be read one by one (`shownPiece`). Only the last piece is special: if its
sequence never ends, but something of it is shown, then all of it is (`shownLast`). And a text that
is nothing but a sequence without an end shows it without the escape character (`shownAlone`).
-/

namespace ConfigBar.Text

/-- What part of a control sequence is read. -/
inductive SequencePlace where
  /-- After the escape character and perhaps marks. -/
  | command (hasMarks : Bool)
  /-- In the parameters of a command, at their start or later. -/
  | parameters (isStart : Bool)
  /-- In the marks after the parameters of a command. -/
  | marks
  /-- In parameters that belong to no command. -/
  | unknown
  /-- In a text for the terminal, which a bell may end. -/
  | title
  /-- In a text for a device, before or after the name of what it is for. -/
  | device (hasName : Bool)
  /-- In a text for nobody. -/
  | message
  /-- In the text after the sequence, which has come to its end or was broken off. -/
  | text (isComplete : Bool)
  deriving DecidableEq, Repr

namespace SequencePlace

/-- Is a code point in a range? -/
def isWithin (c : Char) (first last : Nat) : Bool := first ≤ c.toNat && c.toNat ≤ last

/-- Does a character break a sequence off? -/
def isBreak (c : Char) : Bool := c = '\x18' || c = '\x1a'

/-- The place after the escape character and a character that is no mark. -/
def ofCommand (c : Char) : SequencePlace :=
  if c = '[' then parameters true
  else if c = ']' then title
  else if c = 'P' then device false
  else if c = 'X' ∨ c = '^' ∨ c = '_' then message
  else if isWithin c 0x30 0x7E then text true
  else command false

/-- Does a character end a text for a device? The last byte of its encoding decides. -/
def isDeviceEnd (c : Char) : Bool := 0x80 ≤ c.toNat && c.toNat % 0x40 = 0x1C

/-- The place after one more character, which is no escape character. -/
def advance (c : Char) : SequencePlace → SequencePlace
  | text isComplete => text isComplete
  | title => if c = '\x07' || isBreak c then text true else title
  | place =>
    if isBreak c then text false
    else
      match place with
      | command hasMarks =>
        if isWithin c 0x20 0x2F then command true
        else if !hasMarks then ofCommand c
        else if isWithin c 0x30 0x7E then text true
        else place
      | parameters isStart =>
        if isWithin c 0x20 0x2F then marks
        else if isWithin c 0x30 0x3B then parameters false
        else if isWithin c 0x3C 0x3F then if isStart then parameters false else unknown
        else if isWithin c 0x40 0x7E then text true
        else place
      | marks =>
        if isWithin c 0x30 0x3F then unknown else if isWithin c 0x40 0x7E then text true else place
      | unknown => if isWithin c 0x40 0x7E then text false else place
      | device hasName =>
        if hasName then if isDeviceEnd c then text false else place
        else device (isWithin c 0x40 0x7E)
      | _ => place

/-- Is a character shown? -/
def shows (c : Char) : SequencePlace → Bool
  | text _ => true
  | title => isBreak c
  | device _ => isBreak c
  | message => isBreak c
  | _ => c.toNat < 0x20

/-- The place after a text without escape characters. -/
def run (place : SequencePlace) (cs : List Char) : SequencePlace :=
  cs.foldl (fun p c => p.advance c) place

/-- What is shown of a text without escape characters, read from a place on. -/
def shownFrom : SequencePlace → List Char → List Char
  | _, [] => []
  | place, c :: cs =>
    if place.shows c then c :: shownFrom (place.advance c) cs else shownFrom (place.advance c) cs

end SequencePlace

/-- What is shown of a sequence and the text after it, up to the next escape character. -/
def shownPiece (piece : List Char) : List Char := (SequencePlace.command false).shownFrom piece

/-- Does the sequence of a piece come to its end? -/
def isComplete (piece : List Char) : Bool := (SequencePlace.command false).run piece = .text true

/-- What is shown of the last sequence of a text and the text after it. -/
def shownLast (piece : List Char) : List Char :=
  if isComplete piece ∨ shownPiece piece = [] then shownPiece piece else '\x1b' :: piece

/-- What is shown of the only sequence of a text with nothing before it. -/
def shownAlone (piece : List Char) : List Char :=
  if isComplete piece ∨ shownPiece piece ≠ [] then shownLast piece else piece

/-- What is shown of sequences, each with the text after it. -/
def shownPieces : List (List Char) → List Char
  | [] => []
  | [piece] => shownLast piece
  | piece :: pieces => shownPiece piece ++ shownPieces pieces

/-- What a terminal shows of a text. -/
def shown (cs : List Char) : List Char :=
  match pieces '\x1b' cs with
  | [[], piece] => shownAlone piece
  | text :: sequences => text ++ shownPieces sequences
  | [] => []

end ConfigBar.Text
