import ConfigBar.Toml.Syntax
import ConfigBar.Text.Numeral
/-!
# TOML dates and times

A date, a time of day, or both, and then perhaps an offset from the universal time. The normal form
puts a `T` between date and time, writes the seconds also where they are left out, and of their
fraction no more than nine digits, without the zeros at its end.
-/

namespace ConfigBar.Toml.Moment

/-- Reads exactly `count` digits. -/
def number? (count : Nat) (cs : List Char) : Option (List Char × Nat × List Char) :=
  let ds := cs.take count
  if ds.length = count && ds.all Char.isDigit then
    some (ds, Nat.ofDigitChars 10 ds 0, cs.drop count)
  else none

/-- Reads two digits whose value is not above a limit. -/
def pair? (limit : Nat) (cs : List Char) : Option (List Char × List Char) := do
  let (ds, n, rest) ← number? 2 cs
  if n ≤ limit then some (ds, rest) else none

/-- Reads one character. -/
def mark? (mark : Char) : List Char → Option (List Char)
  | c :: cs => if c = mark then some cs else none
  | [] => none

/-- The number of days of a month. -/
def daysOf (year month : Nat) : Nat :=
  let isLeap := year % 4 = 0 && (year % 100 ≠ 0 || year % 400 = 0)
  match month with
  | 2 => if isLeap then 29 else 28
  | 4 => 30
  | 6 => 30
  | 9 => 30
  | 11 => 30
  | _ => 31

/-- Reads a date. -/
def date? (cs : List Char) : Option (List Char × List Char) := do
  let (year, y, cs) ← number? 4 cs
  let (month, m, cs) ← number? 2 (← mark? '-' cs)
  let (day, d, cs) ← number? 2 (← mark? '-' cs)
  if 1 ≤ m && m ≤ 12 && 1 ≤ d && d ≤ daysOf y m then
    some (year ++ '-' :: month ++ '-' :: day, cs)
  else none

/-- A fraction of a second in its normal form, with the point before it. A fraction of zero is not
written. -/
def normalFraction (ds : List Char) : List Char :=
  match ((ds.take 9).reverse.dropWhile (· = '0')).reverse with
  | [] => []
  | ds => '.' :: ds

/-- Reads a fraction of a second, if there is one. -/
def fraction? : List Char → Option (List Char × List Char)
  | '.' :: cs =>
    let ds := cs.takeWhile Char.isDigit
    if ds.isEmpty then none else some (normalFraction ds, cs.dropWhile Char.isDigit)
  | cs => some ([], cs)

/-- Reads the seconds and their fraction. Without seconds the minute has just begun. -/
def seconds? : List Char → Option (List Char × List Char)
  | ':' :: cs => do
    let (second, cs) ← pair? 60 cs
    let (fraction, cs) ← fraction? cs
    some (':' :: second ++ fraction, cs)
  | cs => some ([':', '0', '0'], cs)

/-- Reads a time of day. The seconds may be left out. -/
def time? (cs : List Char) : Option (List Char × List Char) := do
  let (hour, cs) ← pair? 23 cs
  let (minute, cs) ← pair? 59 (← mark? ':' cs)
  let (second, cs) ← seconds? cs
  some (hour ++ ':' :: minute ++ second, cs)

/-- Reads an offset, if there is one. -/
def offset? : List Char → Option (List Char)
  | [] => some []
  | ['Z'] => some ['Z']
  | ['z'] => some ['Z']
  | sign :: cs => do
    if sign ≠ '+' ∧ sign ≠ '-' then none
    else
      let (hour, cs) ← pair? 23 cs
      let (minute, cs) ← pair? 59 (← mark? ':' cs)
      let sign := if hour ++ minute = ['0', '0', '0', '0'] then '+' else sign
      if cs.isEmpty then some (sign :: hour ++ ':' :: minute) else none

/-- Is a character the mark between date and time? -/
def isSeparator (c : Char) : Bool := c == 'T' || c == 't' || c == ' '

/-- The normal form of a date, a time or both. -/
def normal? (cs : List Char) : Option (List Char) :=
  match date? cs with
  | some (date, []) => some date
  | some (date, c :: cs) =>
    if isSeparator c then do
      let (time, cs) ← time? cs
      some (date ++ 'T' :: time ++ (← offset? cs))
    else none
  | none =>
    match time? cs with
    | some (time, []) => some time
    | _ => none

end ConfigBar.Toml.Moment
