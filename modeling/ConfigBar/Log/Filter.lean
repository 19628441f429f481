import ConfigBar.Log.Record
import ConfigBar.Log.Pattern.Reading
import ConfigBar.Text.Numeral
import ConfigBar.Text.Pieces
/-!
# Filters of the log

A filter is a list of directives. A directive lets records pass up to a level if their target starts
with its target and they hold its field; the most specific directive that fits a record decides.
The text of a directive is `target[span{field=value}]=level`, in which most parts may be missing:

* a text of its own is a level if it names one, else a target of which everything passes,
* a directive for a span, or for a field with a value, fits no record, because there are no spans;
  still the value must be a boolean, a number or a pattern.

Blanks at both ends of a directive do not count for its form. Its parts, however, are cut out of the
text with its blanks at the places that they have without them, and the last part goes on to the
end.
-/

namespace ConfigBar

/-- What passes a directive: everything up to a level, or nothing. -/
abbrev Threshold := Option LogLevel

/-- Does a level pass a threshold? -/
def Threshold.passes (t : Threshold) (l : LogLevel) : Bool := t.any fun limit => l.rank ≤ limit.rank

/-- The name of a threshold. -/
def Threshold.word (t : Threshold) : String := (t.map LogLevel.word).getD "off"

/-- A directive of a filter. -/
structure LogDirective where
  target : Option String
  field : Option String
  threshold : Threshold
  /-- A span or a value of the field keeps the directive from every record. -/
  isBound : Bool
  deriving DecidableEq, Repr

/-- A filter of the log. -/
structure LogFilter where
  directives : List LogDirective
  deriving DecidableEq, Repr

/-! ## Cutting by bytes -/

namespace Text

/-- The rest of a text after a number of bytes, if a character ends there. -/
def dropBytes? : (bytes : Nat) → List Char → Option (List Char)
  | 0, cs => some cs
  | _ + 1, [] => none
  | bytes + 1, c :: cs =>
    if c.utf8Size ≤ bytes + 1 then dropBytes? (bytes + 1 - c.utf8Size) cs else none

/-- The front of a text up to a number of bytes, if a character ends there. -/
def takeBytes? : (bytes : Nat) → List Char → Option (List Char)
  | 0, _ => some []
  | _ + 1, [] => none
  | bytes + 1, c :: cs =>
    if c.utf8Size ≤ bytes + 1 then (takeBytes? (bytes + 1 - c.utf8Size) cs).map (c :: ·) else none

/-- The part of a text between two places, given in bytes. -/
def between? (first last : Nat) (cs : List Char) : Option (List Char) :=
  (dropBytes? first cs).bind (takeBytes? (last - first))

end Text

namespace LogDirective

/-! ## Reading -/

/-- Reads the name of a threshold, whatever the case of its letters, or its rank. -/
def threshold? (cs : List Char) : Option Threshold :=
  match Text.natOfSigned? cs with
  | some 0 => some none
  | some n => (LogLevel.ofRank? n).map some
  | none =>
    let word := String.ofList (cs.map Char.toLower)
    if word = "off" then some none else (LogLevel.ofWord? word).map some

/-- The directive that lets everything pass. -/
def everything : LogDirective := ⟨none, none, some .trace, false⟩

/-- The text without its sign. -/
def unsigned : List Char → List Char
  | '+' :: cs => cs
  | '-' :: cs => cs
  | cs => cs

/-- Is a text a power of ten after its letter, or empty? -/
def isPower : List Char → Bool
  | [] => true
  | e :: cs =>
    let ds := unsigned cs
    (e == 'e' || e == 'E') && !ds.isEmpty && ds.all Char.isDigit

/-- Is a text a number, perhaps with a point and a power of ten, or one of the names of what is no
finite number? -/
def isNumber (cs : List Char) : Bool :=
  let cs := unsigned cs
  let whole := cs.takeWhile Char.isDigit
  let (fraction, rest) := match cs.dropWhile Char.isDigit with
    | '.' :: cs => (cs.takeWhile Char.isDigit, cs.dropWhile Char.isDigit)
    | cs => ([], cs)
  let name := String.ofList (cs.map Char.toLower)
  (!(whole.isEmpty && fraction.isEmpty) && isPower rest) ||
    name == "inf" || name == "infinity" || name == "nan"

/-- Is a text the value of a field? -/
def isValue (cs : List Char) : Bool := isNumber cs || Pattern.isSupported cs

/-- What the reader of a directive is in. The numbers are the places, in bytes, at which its part
begins. -/
inductive Place where
  | start
  | levelOrTarget (first : Nat)
  | span (first : Nat)
  | field (first : Nat)
  | fields
  | target
  | level (first : Nat)
  deriving DecidableEq, Repr

/-- May a directive start with the character? -/
def isStart (c : Char) : Bool := c == '-' || c == ':' || c == '_' || Text.isLetterOrNumeral c

/-- Adds the field. With a value it binds the directive. -/
def setField? (d : LogDirective) (text : List Char) : Option LogDirective :=
  match Text.pieces '=' text with
  | [[]] => none
  | [name] => some { d with field := some (String.ofList name) }
  | name :: value :: _ =>
    if isValue value then some { d with field := some (String.ofList name), isBound := true }
    else none
  | [] => none

/-- Reads the character at a place of a text. -/
def advance? (text : List Char) (d : LogDirective) (i : Nat) (c : Char) :
    Place → Option (LogDirective × Place)
  | .start =>
    if c = '[' then some (d, .span (i + 1)) else if isStart c then some (d, .levelOrTarget i) else none
  | .levelOrTarget first =>
    if c = '=' ∨ c = '[' then
      (Text.between? first i text).map fun target =>
        ({ d with target := some (String.ofList target) },
          if c = '=' then .level (i + 1) else .span (i + 1))
    else some (d, .levelOrTarget first)
  | .span first =>
    if c = ']' then (Text.between? first i text).map fun _ => ({ d with isBound := true }, .target)
    else if c = '{' then
      (Text.between? first i text).map fun span =>
        ({ d with isBound := d.isBound || !span.isEmpty }, .field (i + 1))
    else some (d, .span first)
  | .field first =>
    if c = '}' then
      ((Text.between? first i text).bind d.setField?).map fun d => (d, .fields)
    else some (d, .field first)
  | .fields => if c = ']' then some (d, .target) else none
  | .target => if c = '=' then some (d, .level (i + 1)) else none
  | .level first => some (d, .level first)

/-- What a directive is when its text ends. -/
def finish? (text : List Char) (d : LogDirective) : Place → Option LogDirective
  | .levelOrTarget first =>
    (Text.dropBytes? first text).map fun rest =>
      match threshold? rest with
      | some t => { d with threshold := t }
      | none => { d with target := some (String.ofList rest) }
  | .level first =>
    (Text.dropBytes? first text).bind fun rest =>
      if rest.isEmpty then some d else (threshold? rest).map fun t => { d with threshold := t }
  | .target => some d
  | _ => none

/-- Reads the characters of a directive from a place on. -/
def read? (text : List Char) (d : LogDirective) (place : Place) (i : Nat) :
    List Char → Option LogDirective
  | [] => d.finish? text place
  | c :: cs => (d.advance? text i c place).bind fun p => read? text p.1 p.2 (i + c.utf8Size) cs

/-- Reads a directive. -/
def parse? (text : List Char) : Option LogDirective :=
  everything.read? text .start 0 (Text.trimChars text)

/-! ## Matching -/

/-- Does the directive decide about a record? -/
def fits (d : LogDirective) (r : LogRecord) : Bool :=
  !d.isBound && d.target.all (fun t => (Text.after? t.toList r.target.toList).isSome) &&
    d.field.all r.names.contains

/-- How two texts that may be missing are ordered, a missing one first. -/
def compareOptions : Option String → Option String → Ordering
  | none, none => .eq
  | none, some _ => .lt
  | some _, none => .gt
  | some a, some b => compare a b

/-- How specific two directives are: the longer target and then the field matter first, then the
texts of the target and the field. -/
def order (a b : LogDirective) : Ordering :=
  let size (d : LogDirective) := (d.target.map fun t => t.utf8ByteSize + 1).getD 0
  (compare (size a) (size b)).then <|
    (compare a.field.isSome.toNat b.field.isSome.toNat).then <|
      (compareOptions a.target b.target).then (compareOptions a.field b.field)

end LogDirective

namespace LogFilter

/-- Does a record pass? The most specific directive that fits decides, of equal ones the last. -/
def passes (f : LogFilter) (r : LogRecord) : Bool :=
  let fitting := f.directives.filter fun d => d.fits r
  match fitting with
  | [] => false
  | d :: ds => (ds.foldl (fun a b => if (a.order b).isLE then b else a) d).threshold.passes r.level

/-- Reads a filter: directives with commas between them. A filter without directives lets errors
pass. -/
def parse? (text : String) : Option LogFilter := do
  let parts := (Text.pieces ',' text.toList).filter (· ≠ [])
  let ds ← parts.mapM LogDirective.parse?
  some ⟨if ds.isEmpty then [{ LogDirective.everything with threshold := some .error }] else ds⟩

/-- The parts of the program whose records follow the level of the user. -/
def ownTargets : List String :=
  ["layoutcfg_cli", "layoutcfg_catalog", "layoutcfg_core", "layoutcfg_model"]

/-- The filter for a level. Records from elsewhere pass from warnings on, or less. -/
def ofThreshold (t : Threshold) : LogFilter :=
  let elsewhere : Threshold := if t = none ∨ t = some .error then t else some .warn
  ⟨⟨none, none, elsewhere, false⟩ :: ownTargets.map fun target => ⟨some target, none, t, false⟩⟩

end LogFilter

end ConfigBar
