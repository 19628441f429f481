import ConfigBar.Text.Pieces
/-!
# Styles of a terminal

A style code is a control sequence that changes how a terminal writes what follows, or that holds a
text for the terminal or a device, such as a link. Such a text without an end goes on to the end of
the line. A text that is cut into lines keeps its styles: each line starts with the codes that are
active where it was cut, and ends with the code that takes all styles away if any is active there.
Only that code itself ends the styles before it.
-/

namespace ConfigBar.Text

/-- What part of a style code is read. -/
inductive StylePlace where
  /-- Before the escape character. -/
  | start
  /-- After the escape character. -/
  | escape
  /-- After a parenthesis that may choose a set of characters. -/
  | charset
  /-- In the marks before the numbers. -/
  | marks
  /-- After some digits of a number. -/
  | digits (count : Nat)
  /-- After the separator of two numbers. -/
  | separator
  /-- In a text for the terminal or a device. -/
  | message
  /-- In such a text, after an escape character that may end it. -/
  | messageEscape
  /-- After the end of a code. -/
  | done
  deriving DecidableEq, Repr

namespace StylePlace

/-- Does a code end with the character? -/
def isFinal (c : Char) : Bool :=
  ('A' ≤ c && c ≤ 'P') || c == 'R' || c == 'Z' || c == 'c' || ('f' ≤ c && c ≤ 'n') || c == 'q' ||
    c == 'r' || c == 'y' || c == '=' || c == '>' || c == '<'

/-- Reads one character of a code. The result is `none` if the character does not belong to it. -/
def advance? (c : Char) : StylePlace → Option StylePlace
  | start => if c = '\x1b' ∨ c = '\u009b' then some escape else none
  | escape =>
    if c = '(' ∨ c = ')' then some charset
    else if c = '[' ∨ c = '#' ∨ c = '?' ∨ c = ';' then some marks
    else if c = ']' ∨ c = 'P' then some message
    else if c.isDigit then some (digits 1)
    else if isFinal c then some done
    else none
  | charset =>
    if c = '(' ∨ c = ')' ∨ c = '[' ∨ c = '#' ∨ c = '?' ∨ c = ';' then some marks
    else if '0' ≤ c && c ≤ '2' then some done
    else if c.isDigit then some (digits 1)
    else if isFinal c then some done
    else none
  | marks =>
    if c = '(' ∨ c = ')' ∨ c = '[' ∨ c = '#' ∨ c = '?' ∨ c = ';' then some marks
    else if c.isDigit then some (digits 1)
    else if isFinal c then some done
    else none
  | digits count =>
    if c.isDigit && count ≤ 4 then some (digits (count + 1))
    else if c = ';' && count ≤ 4 then some separator
    else if isFinal c && count ≤ 4 then some done
    else none
  | separator =>
    if c = ';' then some separator
    else if c.isDigit then some (digits 1)
    else if isFinal c then some done
    else none
  | message =>
    if c = '\x07' then some done
    else if c = '\x1b' then some messageEscape
    else some message
  | messageEscape =>
    if c = '\\' then some done
    else if c = '\x1b' then some messageEscape
    else some message
  | done => none

/-- May a code end here? A last digit can be the end of a code by itself, and so can any character
of a text for the terminal or a device. -/
def isEnd : StylePlace → Bool
  | digits _ => true
  | message => true
  | messageEscape => true
  | done => true
  | _ => false

/-- The length of the longest code that goes on from a place with the characters: `longest` is the
length of the longest one so far, `count` the number of characters that have been read. -/
def codeLength? (longest : Option Nat) (count : Nat) : StylePlace → List Char → Option Nat
  | _, [] => longest
  | place, c :: cs =>
    match place.advance? c with
    | none => longest
    | some place => codeLength? (if place.isEnd then some (count + 1) else longest) (count + 1) place cs

end StylePlace

/-- The style codes in a text. -/
def styleCodes : List Char → List (List Char)
  | [] => []
  | c :: cs =>
    match StylePlace.codeLength? none 0 .start (c :: cs) with
    | some (n + 1) => (c :: cs).take (n + 1) :: styleCodes (cs.drop n)
    | _ => styleCodes cs
termination_by cs => cs.length
decreasing_by
  · simp only [List.length_drop, List.length_cons]
    omega
  · simp

/-- The code that takes all styles away. -/
def plainCode : List Char := ['\x1b', '[', '0', 'm']

/-- The active codes after one more. -/
def activate (active : List (List Char)) (code : List Char) : List (List Char) :=
  if code = plainCode then [] else active ++ [code]

/-- The lines of a text with the codes that keep its styles. -/
def styledLines (active : List (List Char)) : List (List Char) → List (List Char)
  | [] => []
  | line :: lines =>
    let after := (styleCodes line).foldl activate active
    (active.flatten ++ line ++ if after.isEmpty then [] else plainCode) :: styledLines after lines

end ConfigBar.Text
