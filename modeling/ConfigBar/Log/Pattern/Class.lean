import ConfigBar.Log.Pattern.Atom
/-!
# Classes of characters

A class stands between brackets. It lists characters, ranges, classes with names and further classes
in brackets; lists may be joined by operators. The reader gives the depth of a class, which counts
the brackets, the operators and the lists of two or more items that are nested in it.
-/

namespace ConfigBar.Pattern

/-- The depth of a list of items with given depths. A list of one item is that item. -/
def depthOfList : List Nat → Nat
  | [] => 0
  | [depth] => depth
  | depths => depths.foldl max 0 + 1

/-- The names of the classes between colons. -/
def classNames : List String :=
  ["alnum", "alpha", "ascii", "blank", "cntrl", "digit", "graph", "lower", "print", "punct",
    "space", "upper", "word", "xdigit"]

/-- Reads a class with a name after its bracket. The result says whether it is negated. -/
def namedClass? : List Char → Option (Bool × List Char)
  | ':' :: cs =>
    let (isNegated, cs) := match cs with
      | '^' :: cs => (true, cs)
      | cs => (false, cs)
    match cs.dropWhile (· != ':') with
    | ':' :: ']' :: rest =>
      if classNames.contains (String.ofList (cs.takeWhile (· != ':'))) then some (isNegated, rest)
      else none
    | _ => none
  | _ => none

/-- An open bracket: the depths of the items since the last operator, and the depth of what stands
before that operator. -/
structure ClassLevel where
  items : List Nat
  left : Option Nat
  deriving DecidableEq, Repr

namespace ClassLevel

/-- The depth of all that stands in the bracket so far. -/
def depth (l : ClassLevel) : Nat :=
  match l.left with
  | some left => max left (depthOfList l.items) + 1
  | none => depthOfList l.items

/-- Adds an item. -/
def add (depth : Nat) (l : ClassLevel) : ClassLevel := { l with items := depth :: l.items }

/-- The bracket after an operator. -/
def operator (l : ClassLevel) : ClassLevel := ⟨[], some l.depth⟩

end ClassLevel

/-- Counts the dashes at the front. Every step takes at least one character, so the length of the
text is enough fuel. -/
def dashes (m : Mode) : (fuel : Nat) → List Char → Nat × List Char
  | fuel + 1, '-' :: cs =>
    let (n, rest) := dashes m fuel (m.skip cs)
    (n + 1, rest)
  | _, cs => (0, cs)

/-- Reads what follows an opening bracket: a negation, and the characters that stand for themselves
only there. -/
def openClass? (m : Mode) (cs : List Char) : Option (ClassLevel × List Char) :=
  let cs := m.skip cs
  let (isNegated, cs) := match cs with
    | '^' :: cs => (true, m.skip cs)
    | cs => (false, cs)
  if isNegated && !m.isUnicode then none
  else
    let (count, cs) := dashes m cs.length cs
    let (count, cs) := match count, cs with
      | 0, ']' :: cs => (1, m.skip cs)
      | count, cs => (count, cs)
    if cs.isEmpty || (count ≠ 0 && !(Atom.char '-' false).isSupportedInClass m) then none
    else some (⟨List.replicate count 0, none⟩, cs)

/-- The character after a dash, blanks and comments apart. A comment ends at its first character that
is no blank, and the end of the text is not looked for past blanks. -/
def afterDash? (m : Mode) (cs : List Char) : Option Char :=
  if m.isVerbose then
    match cs.dropWhile Text.isBlank with
    | '#' :: rest =>
      match rest.dropWhile Text.isBlank with
      | [] => cs.head?
      | c :: _ => some c
    | [] => cs.head?
    | c :: _ => some c
  else cs.head?

/-- Reads one character or one atom after a backslash in a class. -/
def classAtom? (m : Mode) : List Char → Option (Atom × List Char)
  | '\\' :: cs => Atom.escaped? m cs
  | c :: cs => some (.char c false, cs)
  | [] => none

/-- Reads an atom in a class, or a range. -/
def classRange? (m : Mode) (cs : List Char) : Option (List Char) := do
  let (first, cs) ← classAtom? m cs
  if !first.isSupportedInClass m then none
  else
    match m.skip cs with
    | [] => none
    | '-' :: rest =>
      let next := afterDash? m rest
      if next = some ']' || next = some '-' then some ('-' :: rest)
      else
        let (last, rest) ← classAtom? m (m.skip rest)
        match first, last with
        | .char a _, .char b _ =>
          if last.isSupportedInClass m && a.toNat ≤ b.toNat then some rest else none
        | _, _ => none
    | cs => some cs

/-- Reads a class after its bracket. The levels are the brackets that are open, the innermost first.
Every step takes at least one character, so the length of the text is enough fuel. -/
def class? (m : Mode) : (fuel : Nat) → List ClassLevel → List Char → Option (Nat × List Char)
  | 0, _, _ => none
  | _, [], _ => none
  | fuel + 1, level :: outer, cs =>
    match m.skip cs with
    | [] => none
    | '[' :: cs =>
      match namedClass? cs with
      | some (isNegated, rest) =>
        if if m.isUnicode then !m.ignoresCase else !isNegated then
          class? m fuel (level.add 0 :: outer) rest
        else none
      | none => do
        let (inner, rest) ← openClass? m cs
        class? m fuel (inner :: level :: outer) rest
    | ']' :: cs =>
      match outer with
      | [] => some (level.depth + 1, cs)
      | parent :: outer => class? m fuel (parent.add (level.depth + 1) :: outer) cs
    | '&' :: '&' :: cs => class? m fuel (level.operator :: outer) cs
    | '-' :: '-' :: cs => class? m fuel (level.operator :: outer) cs
    | '~' :: '~' :: cs => class? m fuel (level.operator :: outer) cs
    | cs => do class? m fuel (level.add 0 :: outer) (← classRange? m cs)

end ConfigBar.Pattern
