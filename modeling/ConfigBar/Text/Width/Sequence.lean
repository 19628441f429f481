import ConfigBar.Text.Width.Table
import ConfigBar.Text.Width.Emoji
/-!
# Characters that share columns

Next to each other some characters take other columns than alone: a flag is two letters, a family is
several emoji with joiners between them, and some scripts draw two letters as one. Whether a
character does so depends on what follows it, so a text is measured from its end: `Outlook` says
how the text goes on after a place, and `Outlook.step` gives the columns that one more character adds
in front of it, perhaps none or less than none, and the outlook from there.
-/

namespace ConfigBar.Text

/-! ## Characters by themselves -/

/-- The columns of a character by itself. -/
def charWidth (c : Char) : Nat :=
  if c.toNat < 0x80 then 1
  else if c = '\u17D8' then 3
  else if c = '\u17A4' then 2
  else if isAmong zeroWidthRanges c then 0
  else if inRanges wideRanges c.toNat then 2
  else 1

/-- Is a character a form of the Arabic letter alef? -/
def isAlef (c : Char) : Bool :=
  inRanges [(0x622, 0x623), (0x625, 0x625), (0x627, 0x627), (0x671, 0x673), (0x675, 0x675),
    (0x773, 0x774), (0x870, 0x882)] c.toNat

/-- Is a character a form of the Arabic letter lam? -/
def isLam (c : Char) : Bool :=
  inRanges [(0x644, 0x644), (0x6B5, 0x6B8), (0x76A, 0x76A), (0x8A6, 0x8A6), (0x8C7, 0x8C7)] c.toNat

/-- The characters without width that Arabic letters do not join across. -/
def stiffRanges : List (Nat × Nat) :=
  [(0x605, 0x605), (0x890, 0x891), (0x8E2, 0x8E2), (0x9BE, 0x9BE), (0x9D7, 0x9D7), (0xB3E, 0xB3E),
    (0xB57, 0xB57), (0xBBE, 0xBBE), (0xBD7, 0xBD7), (0xCC0, 0xCC0), (0xCC2, 0xCC2), (0xCC7, 0xCC8),
    (0xCCA, 0xCCB), (0xCD5, 0xCD6), (0xD3E, 0xD3E), (0xD4E, 0xD4E), (0xD57, 0xD57), (0xDCF, 0xDCF),
    (0xDDF, 0xDDF), (0x1160, 0x11FF), (0x1715, 0x1715), (0x1734, 0x1734), (0x180E, 0x180E),
    (0x1B35, 0x1B35), (0x1B3B, 0x1B3B), (0x1B3D, 0x1B3D), (0x1B43, 0x1B44), (0x1BAA, 0x1BAA),
    (0x1BF2, 0x1BF3), (0x200C, 0x200D), (0x2065, 0x2069), (0x302E, 0x302F), (0x3164, 0x3164),
    (0xA8FA, 0xA8FA), (0xA953, 0xA953), (0xA9C0, 0xA9C0), (0xD7B0, 0xD7C6), (0xD7CB, 0xD7FB),
    (0xFFA0, 0xFFA0), (0xFFF0, 0xFFF8), (0x111C0, 0x111C0), (0x111C2, 0x111C3),
    (0x11235, 0x11235), (0x1133E, 0x1133E), (0x1134D, 0x1134D), (0x11357, 0x11357),
    (0x113B8, 0x113B8), (0x113C2, 0x113C2), (0x113C5, 0x113C5), (0x113C7, 0x113C9),
    (0x113CF, 0x113CF), (0x113D1, 0x113D1), (0x114B0, 0x114B0), (0x114BD, 0x114BD),
    (0x115AF, 0x115AF), (0x116B6, 0x116B6), (0x11930, 0x11930), (0x1193D, 0x1193D),
    (0x1193F, 0x1193F), (0x11941, 0x11941), (0x11A84, 0x11A89),
    (0x11D46, 0x11D46), (0x11F02, 0x11F02), (0x11F41, 0x11F41), (0x16FF0, 0x16FF1),
    (0x1D165, 0x1D166), (0x1D16D, 0x1D172), (0xE0000, 0xE0000), (0xE0002, 0xE001F),
    (0xE0080, 0xE00FF), (0xE01F0, 0xE0FFF)]

/-- Do Arabic letters join across a character? -/
def isTransparent (c : Char) : Bool := charWidth c == 0 && !inRanges stiffRanges c.toNat

/-- Is a character a combining mark that is not shown? -/
def isHiddenMark (c : Char) : Bool :=
  inRanges [(0x34F, 0x34F), (0x17B4, 0x17B5), (0x180B, 0x180D), (0x180F, 0x180F), (0x200D, 0x200D),
    (0xFE00, 0xFE0F), (0xE0100, 0xE01EF)] c.toNat

/-- Does a Khmer letter have a form below the line? -/
def isCoengLetter (c : Char) : Bool :=
  inRanges [(0x1780, 0x1782), (0x1784, 0x1787), (0x1789, 0x178C), (0x178E, 0x1793),
    (0x1795, 0x1798), (0x179B, 0x179D), (0x17A0, 0x17A0), (0x17A2, 0x17A2), (0x17A7, 0x17A7),
    (0x17AB, 0x17AC), (0x17AF, 0x17AF)] c.toNat

/-- Is a character a Tifinagh consonant? -/
def isTifinaghConsonant (c : Char) : Bool := inRanges [(0x2D31, 0x2D65), (0x2D6F, 0x2D6F)] c.toNat

/-- Is a character one of the curved quotation marks? -/
def isCurvedQuote (c : Char) : Bool := inRanges [(0x2018, 0x2019), (0x201C, 0x201D)] c.toNat

/-! ## How a text goes on -/

/-- The second part of two letters that are drawn as one. -/
inductive LigatureEnd where
  | alef
  | lamed
  | ya
  | yaWithVowel
  | tifinagh
  | tifinaghJoined
  | lisuTone
  | orkhonI
  | coengLetter
  deriving DecidableEq, Repr

/-- What a text begins with after a place, as far as it matters before the place. -/
inductive Opening where
  | plain
  | lineFeed
  | emoji
  | modifier
  /-- A row of regional indicators. -/
  | regional (count : Nat)
  /-- A joiner before an emoji. -/
  | joinedEmoji
  /-- A keycap, a joiner and an emoji. -/
  | joinedKeycap
  /-- A row of regional indicators, a joiner and an emoji. -/
  | joinedRegional (count : Nat)
  /-- Letters and the end of a tag, a joiner and an emoji. -/
  | tagLetters (count : Nat)
  /-- Digits, letters and the end of a tag, a joiner and an emoji. -/
  | tagDigits (count : Nat)
  | ligature (part : LigatureEnd)
  /-- The Kirat Rai vowel e, or two of them as one. -/
  | kiratVowel (isDouble : Bool)
  deriving DecidableEq, Repr

/-- A variation selector. -/
inductive Selector where
  | emoji
  | text
  | fullWidth
  deriving DecidableEq, Repr

/-- The variation selector that a character is. -/
def selector? (c : Char) : Option Selector :=
  if c = '\uFE0F' then some .emoji
  else if c = '\uFE0E' then some .text
  else if c = '\uFE01' then some .fullWidth
  else none

/-- How a text goes on after a place. -/
structure Outlook where
  opening : Opening
  /-- A joiner stands before the second part of two letters. -/
  hasJoiner : Bool
  /-- A variation selector stands before all else. -/
  selector : Option Selector
  deriving DecidableEq, Repr

namespace Opening

/-- What a character opens a text with. -/
def ofChar (c : Char) : Opening :=
  if c = '\n' then .lineFeed
  else if isEmoji c then .emoji
  else if isModifier c then .modifier
  else if isRegionalIndicator c then .regional 1
  else if isAlef c then .ligature .alef
  else if c = '\u05DC' then .ligature .lamed
  else if c = '\u1A10' then .ligature .ya
  else if isTifinaghConsonant c then .ligature .tifinagh
  else if c = '\uA4FC' ∨ c = '\uA4FD' then .ligature .lisuTone
  else if c.toNat = 0x10C03 then .ligature .orkhonI
  else if isCoengLetter c then .ligature .coengLetter
  else if c.toNat = 0x16D67 then .kiratVowel false
  else if c.toNat = 0x16D68 then .kiratVowel true
  else .plain

/-- Is a joiner followed by an emoji? -/
def isJoined (o : Opening) : Bool := o = .joinedEmoji || o = .joinedKeycap

/-- Is it the second part of two letters that are drawn as one? -/
def isLigature : Opening → Bool
  | ligature _ => true
  | _ => false

/-- What a character makes together with the second part of two letters. -/
def joinLetters? (c : Char) (hasJoiner : Bool) : LigatureEnd → Option (Int × Opening)
  | .alef =>
    if isLam c then some (0, .plain)
    else if isTransparent c then some (0, .ligature .alef)
    else none
  | .lamed => if hasJoiner && c = '\u05D0' then some (0, .plain) else none
  | .ya => if hasJoiner && c = '\u1A17' then some (0, .ligature .yaWithVowel) else none
  | .yaWithVowel => if c = '\u1A15' then some (0, .plain) else none
  | .tifinagh =>
    if c = '\u2D7F' then some (1, .ligature .tifinaghJoined)
    else if hasJoiner && isTifinaghConsonant c then some (0, .plain)
    else none
  | .tifinaghJoined => if isTifinaghConsonant c then some (-1, .plain) else none
  | .lisuTone => if inRanges [(0xA4F8, 0xA4FB)] c.toNat then some (0, .plain) else none
  | .orkhonI => if hasJoiner && c.toNat = 0x10C32 then some (0, .plain) else none
  | .coengLetter => if c = '\u17D2' then some (-1, .plain) else none

/-- What a character makes together with a joiner and an emoji. -/
def joinEmoji? (c : Char) : Option (Int × Opening) :=
  if c = '\u20E3' then some (0, .joinedKeycap)
  else if isRegionalIndicator c then some (1, .joinedRegional 1)
  else if isModifier c then some (0, .modifier)
  else if c.toNat = 0xE007F then some (0, .tagLetters 0)
  else if isEmoji c then some (0, .emoji)
  else none

/-- Is a character a letter of a tag? -/
def isTagLetter (c : Char) : Bool := inRanges [(0xE0061, 0xE007A)] c.toNat

/-- Is a character a digit of a tag? -/
def isTagDigit (c : Char) : Bool := inRanges [(0xE0030, 0xE0039)] c.toNat

/-- Is a character the flag that a tag belongs to? -/
def isTagBase (c : Char) : Bool := c.toNat = 0x1F3F4

/-- What a character makes together with the opening after it: the columns that it adds, and the
opening from there. -/
def join? (c : Char) (hasJoiner : Bool) : Opening → Option (Int × Opening)
  | plain => none
  | lineFeed => none
  | emoji => if c = '\u200D' then some (0, joinedEmoji) else none
  | modifier =>
    if isModifierBase c then some (0, emoji)
    else if c = '\u200D' then some (0, joinedEmoji)
    else none
  | regional count =>
    if isRegionalIndicator c then some (1, regional (count + 1))
    else if c = '\u200D' && 2 ≤ count then some (0, joinedEmoji)
    else none
  | joinedEmoji => joinEmoji? c
  | joinedKeycap => none
  | joinedRegional count =>
    if isRegionalIndicator c then some (if count % 2 = 1 then -1 else 3, joinedRegional (count + 1))
    else if c = '\u200D' && 2 ≤ count then some (0, joinedEmoji)
    else none
  | tagLetters count =>
    if isTagLetter c && count ≤ 5 then some (0, tagLetters (count + 1))
    else if isTagDigit c && count ≤ 4 then some (0, tagDigits 1)
    else if isTagBase c && 3 ≤ count then some (0, emoji)
    else none
  | tagDigits count =>
    if isTagDigit c && count ≤ 2 then some (0, tagDigits (count + 1))
    else if isTagBase c && count = 3 then some (0, emoji)
    else none
  | ligature part => joinLetters? c hasJoiner part
  | kiratVowel isDouble =>
    if c.toNat = 0x16D63 then some (0, plain)
    else if isDouble then none
    else if c.toNat = 0x16D67 then some (0, kiratVowel true)
    else if c.toNat = 0x16D68 then some (1, kiratVowel false)
    else if c.toNat = 0x16D69 then some (0, plain)
    else none

end Opening

namespace Outlook

/-- The outlook with an opening and nothing before it. -/
def ofOpening (o : Opening) : Outlook := ⟨o, false, none⟩

/-- The outlook at the end of a text. -/
def final : Outlook := ofOpening .plain

/-- The outlook before a variation selector. Only letters that may be drawn as one with others, and
for emoji a joiner before an emoji, still matter behind it. -/
def select (o : Outlook) (s : Selector) : Outlook :=
  if o.opening.isLigature || (s = .emoji && o.opening.isJoined) then { o with selector := some s }
  else ⟨.plain, false, some s⟩

/-- The outlook without a variation selector that does not fit the character before it. -/
def unselect (o : Outlook) : Outlook :=
  if o.selector = some .emoji && !o.opening.isLigature then final else { o with selector := none }

/-- The columns that a character adds before an outlook without a variation selector. -/
def stepBare (c : Char) (o : Outlook) : Int × Outlook :=
  if o.opening.isLigature && o.opening ≠ .ligature .alef && c = '\u200D' then
    (0, { o with hasJoiner := true })
  else if o.opening.isLigature && o.opening ≠ .ligature .alef && isHiddenMark c then (0, o)
  else
    match o.opening.join? c o.hasJoiner with
    | some (columns, opening) => (columns, ofOpening opening)
    | none => (charWidth c, ofOpening (.ofChar c))

/-- The columns that a character adds before an outlook, and the outlook from there. -/
def step (c : Char) (o : Outlook) : Int × Outlook :=
  if o.selector = some .emoji && hasVariations c then
    (if o.opening.isJoined then 0 else 2, ofOpening .emoji)
  else if c.toNat ≤ 0xA0 then
    (if c = '\r' && o.opening = .lineFeed then 0 else 1, ofOpening (.ofChar c))
  else
    match selector? c with
    | some s => (0, (if o.selector = some .emoji then o.unselect else o).select s)
    | none =>
      if o.selector = some .text && hasNarrowVariation c then (1, final)
      else if o.selector = some .fullWidth && isCurvedQuote c then (2, final)
      else stepBare c o.unselect

end Outlook

end ConfigBar.Text
