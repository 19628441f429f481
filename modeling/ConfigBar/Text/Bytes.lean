/-!
# Bytes as text

Bytes that are meant to be UTF-8 can be shown whether they are or not: `ofBytes` puts a replacement
character wherever a character is begun and not finished, and for each byte that begins none.
-/

namespace ConfigBar.Text

/-- The beginning of a character: its bits so far, how many bytes are missing, and the least and the
greatest byte that may come next. -/
structure CharStart where
  bits : Nat
  missing : Nat
  least : Nat
  greatest : Nat
  deriving DecidableEq, Repr

namespace CharStart

/-- What a byte begins, if it begins a character of more than one byte. After four of the bytes not
all others may come: the code point would be too small, too large or half of a pair. -/
def ofByte? (b : Nat) : Option CharStart :=
  if 0xC2 ≤ b ∧ b ≤ 0xDF then some ⟨b % 0x20, 1, 0x80, 0xBF⟩
  else if b = 0xE0 then some ⟨0, 2, 0xA0, 0xBF⟩
  else if b = 0xED then some ⟨0xD, 2, 0x80, 0x9F⟩
  else if 0xE1 ≤ b ∧ b ≤ 0xEF then some ⟨b % 0x10, 2, 0x80, 0xBF⟩
  else if b = 0xF0 then some ⟨0, 3, 0x90, 0xBF⟩
  else if 0xF1 ≤ b ∧ b ≤ 0xF3 then some ⟨b % 8, 3, 0x80, 0xBF⟩
  else if b = 0xF4 then some ⟨4, 3, 0x80, 0x8F⟩
  else none

/-- Adds a byte, if it may come next. -/
def add? (s : CharStart) (b : Nat) : Option CharStart :=
  if s.least ≤ b ∧ b ≤ s.greatest then some ⟨s.bits * 0x40 + b % 0x40, s.missing - 1, 0x80, 0xBF⟩
  else none

end CharStart

/-- What is shown in the place of bytes that are no character. -/
def replacement : Char := '\uFFFD'

/-- What a byte between characters shows, and the character that it begins. -/
def firstByte (b : Nat) : List Char × Option CharStart :=
  if b < 0x80 then ([Char.ofNat b], none)
  else
    match CharStart.ofByte? b with
    | some s => ([], some s)
    | none => ([replacement], none)

/-- What a byte shows after the beginning of a character, and what is begun then. -/
def nextByte (s : CharStart) (b : Nat) : List Char × Option CharStart :=
  match s.add? b with
  | some s => if s.missing = 0 then ([Char.ofNat s.bits], none) else ([], some s)
  | none => let (shown, begun) := firstByte b; (replacement :: shown, begun)

/-- What bytes show after the beginning of a character, if one is begun. -/
def charsOfBytes : Option CharStart → List UInt8 → List Char
  | none, [] => []
  | some _, [] => [replacement]
  | none, b :: bs => let (shown, begun) := firstByte b.toNat; shown ++ charsOfBytes begun bs
  | some s, b :: bs => let (shown, begun) := nextByte s b.toNat; shown ++ charsOfBytes begun bs

/-- The text that bytes show. -/
def ofBytes (bytes : List UInt8) : String := String.ofList (charsOfBytes none bytes)

end ConfigBar.Text
