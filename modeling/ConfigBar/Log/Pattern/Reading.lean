import ConfigBar.Log.Pattern.Class
import ConfigBar.Text.Letter
/-!
# Reading patterns

A pattern is a choice of sequences of atoms, classes and groups, each of which may be repeated.
Flags hold from where they are set to the end of the group around them. A pattern is supported
(`isSupported`) if it can be read, all its parts are supported where they stand, and it is not
nested too deeply.

A count of repetitions stands in braces, and so does a class with a long name; but a brace ends the
value that a pattern is for, so there is no count that could be read.
-/

namespace ConfigBar.Pattern

/-- An item of a sequence: flags, which cannot be repeated, or a part with its depth. -/
inductive Item where
  | flags
  | part (depth : Nat)
  deriving DecidableEq, Repr

/-- The depth of an item. -/
def Item.depth : Item → Nat
  | flags => 0
  | part depth => depth

/-- A group that is open, or the pattern as a whole: the items of the sequence that is read, the last
one first, and the depths of the sequences before it. -/
structure Group where
  items : List Item
  sequences : List Nat
  deriving DecidableEq, Repr

namespace Group

/-- The start of a group. -/
def empty : Group := ⟨[], []⟩

/-- Adds an item. -/
def add (i : Item) (g : Group) : Group := { g with items := i :: g.items }

/-- Ends a sequence. -/
def next (g : Group) : Group := ⟨[], depthOfList (g.items.map Item.depth) :: g.sequences⟩

/-- The depth of what the group holds. -/
def depth (g : Group) : Nat := depthOfList g.next.sequences

/-- Repeats the last item. -/
def repeat? (g : Group) : Option Group :=
  match g.items with
  | .part depth :: items => some { g with items := .part (depth + 1) :: items }
  | _ => none

end Group

/-- How far a pattern is read. -/
structure Reader where
  mode : Mode
  group : Group
  /-- The groups around, the innermost first, with the flags that hold in them. -/
  outer : List (Mode × Group)
  /-- The names that groups have. -/
  names : List String
  deriving DecidableEq, Repr

/-! ## Groups and flags -/

/-- The letters of the flags. -/
def flagLetters : List Char := ['i', 'm', 's', 'U', 'u', 'R', 'x']

/-- The flags up to a mark that ends them. No flag stands twice, and there is one minus sign at
most, not at the end. -/
def flags? (read : List Char) : List Char → Option (List Char × List Char)
  | [] => none
  | c :: cs =>
    if c = ':' ∨ c = ')' then
      if read.head? = some '-' then none else some (read.reverse, c :: cs)
    else if read.contains c || !('-' :: flagLetters).contains c then none
    else flags? (c :: read) cs

/-- The mode after a flag is set or taken back. -/
def Mode.set (isOn : Bool) (m : Mode) (flag : Char) : Mode :=
  if flag = 'i' then { m with ignoresCase := isOn }
  else if flag = 'u' then { m with isUnicode := isOn }
  else if flag = 'x' then { m with isVerbose := isOn }
  else m

/-- The mode after flags. -/
def Mode.apply (m : Mode) (flags : List Char) : Mode :=
  let on := flags.takeWhile (· != '-')
  let off := (flags.dropWhile (· != '-')).drop 1
  off.foldl (Mode.set false) (on.foldl (Mode.set true) m)

/-- May the character stand in the name of a group? -/
def isNameChar (c : Char) : Bool :=
  c == '_' || c == '.' || c == '[' || c == ']' || Text.isLetterOrNumeral c

/-- Reads the name of a group up to its closing bracket. -/
def groupName? (cs : List Char) : Option (String × List Char) :=
  let name := cs.takeWhile (· != '>')
  match cs.dropWhile (· != '>') with
  | '>' :: rest =>
    if name.head?.any (fun c => c == '_' || Text.isLetter c) && name.all isNameChar then
      some (String.ofList name, rest)
    else none
  | _ => none

namespace Reader

/-- Opens a group in which a mode holds. -/
def enter (m : Mode) (r : Reader) : Reader :=
  { r with mode := m, group := .empty, outer := (r.mode, r.group) :: r.outer }

/-- Opens a group with a name that no other group has. -/
def enterNamed? (cs : List Char) (r : Reader) : Option (Reader × List Char) := do
  let (name, rest) ← groupName? cs
  if r.names.contains name then none
  else some ({ r.enter r.mode with names := name :: r.names }, rest)

/-- Reads flags, which hold from here on or in a group. -/
def setFlags? (cs : List Char) (r : Reader) : Option (Reader × List Char) := do
  let (flags, rest) ← flags? [] cs
  let m := r.mode.apply flags
  match rest with
  | ')' :: rest =>
    if flags.isEmpty then none else some ({ r with mode := m, group := r.group.add .flags }, rest)
  | _ => some (r.enter m, rest.drop 1)

/-- Reads the start of a group after its parenthesis. -/
def open? (cs : List Char) (r : Reader) : Option (Reader × List Char) :=
  match r.mode.skip cs with
  | '?' :: '=' :: _ => none
  | '?' :: '!' :: _ => none
  | '?' :: '<' :: '=' :: _ => none
  | '?' :: '<' :: '!' :: _ => none
  | '?' :: 'P' :: '<' :: cs => r.enterNamed? cs
  | '?' :: '<' :: cs => r.enterNamed? cs
  | '?' :: cs => r.setFlags? cs
  | cs => some (r.enter r.mode, cs)

/-- Closes a group. -/
def close? (r : Reader) : Option Reader :=
  match r.outer with
  | (m, g) :: outer =>
    some { r with mode := m, group := g.add (.part (r.group.depth + 1)), outer := outer }
  | [] => none

/-- Adds an atom. -/
def add? (a : Atom) (r : Reader) : Option Reader :=
  if a.isSupported r.mode then some { r with group := r.group.add (.part 0) } else none

/-- Reads one part of a pattern after blanks and comments. -/
def step? (r : Reader) : List Char → Option (Reader × List Char)
  | [] => none
  | c :: cs =>
    if c = '(' then r.open? cs
    else if c = ')' then r.close?.map (·, cs)
    else if c = '|' then some ({ r with group := r.group.next }, cs)
    else if c = '[' then do
      let (level, rest) ← openClass? r.mode cs
      let (depth, rest) ← class? r.mode cs.length [level] rest
      some ({ r with group := r.group.add (.part depth) }, rest)
    else if c = '?' ∨ c = '*' ∨ c = '+' then do
      let group ← r.group.repeat?
      some ({ r with group := group }, match cs with
        | '?' :: cs => cs
        | cs => cs)
    else if c = '{' then none
    else if c = '\\' then do
      let (a, rest) ← Atom.escaped? r.mode cs
      some (← r.add? a, rest)
    else if c = '.' then (r.add? .any).map (·, cs)
    else if c = '^' ∨ c = '$' then (r.add? .edge).map (·, cs)
    else (r.add? (.char c false)).map (·, cs)

/-- Reads a pattern to its end, and gives its depth. Every step takes at least one character, so the
length of the text is enough fuel. -/
def depth? : (fuel : Nat) → Reader → List Char → Option Nat
  | 0, _, _ => none
  | fuel + 1, r, cs =>
    match r.mode.skip cs with
    | [] => if r.outer.isEmpty then some r.group.depth else none
    | cs => (r.step? cs).bind fun p => depth? fuel p.1 p.2

end Reader

/-- The deepest nesting of a pattern. -/
def depthLimit : Nat := 250

/-- Is a text a pattern that is supported? -/
def isSupported (cs : List Char) : Bool :=
  (Reader.depth? (cs.length + 1) ⟨.initial, .empty, [], []⟩ cs).any (· ≤ depthLimit)

end ConfigBar.Pattern
