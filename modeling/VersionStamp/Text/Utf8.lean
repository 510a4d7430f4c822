/-
# VersionStamp.Text.Utf8 — reading bytes as text

Two readings of bytes.  `text?` is strict: it answers only for well-formed UTF-8, and is used for
files that will be written again.  `lossyText` always answers, and is used for what another program
printed: it writes U+FFFD for every maximal piece that begins like a character and then breaks off,
and for every byte that cannot begin one.

The lossy reading goes byte by byte.  Between two characters there is nothing to remember; inside a
character `Pending` says what has been collected, how many bytes are owed, and which bytes may come
next.  Only the byte after the first is limited further than to 80–BF: the limits exclude overlong
forms, surrogates and code points beyond U+10FFFF, and so every completed value is a character.
-/

namespace VersionStamp.Text

/-- The text that the bytes spell, if they are well-formed UTF-8. -/
def text? (bytes : ByteArray) : Option String := String.fromUTF8? bytes

/-- The bytes that spell the text. -/
def bytes (s : String) : ByteArray := s.toUTF8

/-- Equality of byte sequences is decided byte by byte, wherever types that hold them derive it. -/
instance instDecidableEqBytes : DecidableEq ByteArray := ByteArray.instDecidableEq

/-- What is written can be read. -/
theorem text?_bytes (s : String) : text? (bytes s) = some s := by
  rw [text?, bytes, String.fromUTF8?]
  exact dif_pos s.isValidUTF8

/-- What is known inside a character: the bits so far, how many bytes are owed after the next one,
and the limits of the next one. -/
structure Pending where
  bits : Nat
  owed : Nat
  low : Nat
  high : Nat
  deriving DecidableEq, Repr

/-- What one byte does between two characters. -/
inductive Lead where
  | complete (c : Char)
  | opens (p : Pending)
  | broken
  deriving DecidableEq, Repr

/-- The role of a byte between two characters. -/
def Lead.ofByte (b : Nat) : Lead :=
  if b < 0x80 then .complete (Char.ofNat b)
  else if b < 0xC2 then .broken
  else if b < 0xE0 then .opens ⟨b - 0xC0, 0, 0x80, 0xBF⟩
  else if b = 0xE0 then .opens ⟨0x0, 1, 0xA0, 0xBF⟩
  else if b = 0xED then .opens ⟨0xD, 1, 0x80, 0x9F⟩
  else if b < 0xF0 then .opens ⟨b - 0xE0, 1, 0x80, 0xBF⟩
  else if b = 0xF0 then .opens ⟨0x0, 2, 0x90, 0xBF⟩
  else if b < 0xF4 then .opens ⟨b - 0xF0, 2, 0x80, 0xBF⟩
  else if b = 0xF4 then .opens ⟨0x4, 2, 0x80, 0x8F⟩
  else .broken

/-- REPLACEMENT CHARACTER, which stands for what could not be read. -/
def replacement : Char := '\uFFFD'

/-- The characters that the bytes spell from a given state on. -/
def lossyFrom : Option Pending → List Nat → List Char
  | none, [] => []
  | some _, [] => [replacement]
  | none, b :: rest =>
    match Lead.ofByte b with
    | .complete c => c :: lossyFrom none rest
    | .opens p => lossyFrom (some p) rest
    | .broken => replacement :: lossyFrom none rest
  | some p, b :: rest =>
    if p.low ≤ b ∧ b ≤ p.high then
      let bits := p.bits * 64 + (b - 0x80)
      match p.owed with
      | 0 => Char.ofNat bits :: lossyFrom none rest
      | owed + 1 => lossyFrom (some ⟨bits, owed, 0x80, 0xBF⟩) rest
    else
      match Lead.ofByte b with
      | .complete c => replacement :: c :: lossyFrom none rest
      | .opens q => replacement :: lossyFrom (some q) rest
      | .broken => replacement :: replacement :: lossyFrom none rest

/-- The text that the bytes spell, with U+FFFD wherever they spell none. -/
def lossyText (bytes : ByteArray) : String :=
  String.ofList (lossyFrom none (bytes.data.toList.map UInt8.toNat))

end VersionStamp.Text
