/-
# VersionStamp.Text.Plain — a text without terminal controls

A text that goes to a terminal may hold more than what is to be read: an escape character begins a
sequence that moves the cursor, sets a colour or names the window (ECMA-48).  Where a text is not
shown on a terminal, such sequences and all other controls are left out.  Blanks, line ends and
every character beyond ASCII stay.

A sequence is read up to its end, which depends on its kind (`Sequence.after`).  A blank control in
the middle of a short sequence is shown, and so is the text after it: the sequence is taken up again
only by the next control.
-/

namespace VersionStamp.Text

/-- The controls that only set out a text. -/
def isBlankControl (c : Char) : Bool := c = '\t' || c = '\n' || c = '\x0c' || c = '\r'

/-- The character is shown where no sequence is being read. -/
def isShown (c : Char) : Bool :=
  isBlankControl c || (0x20 ≤ c.toNat && c.toNat != 0x7F)

/-- What sequence is being read, and how far. -/
inductive Sequence where
  /-- None. -/
  | ground
  /-- An escape character has been read. -/
  | escape
  | escapeIntermediate
  /-- A control sequence, which a letter ends. -/
  | csi
  /-- The head of a device control string. -/
  | dcsEntry
  | dcsParameter
  | dcsIntermediate
  /-- The data of a device control string, or a message to the terminal. -/
  | data
  /-- An operating system command, which BEL ends. -/
  | osc
  deriving DecidableEq, Repr

namespace Sequence

/-- A character of data ends it if the byte of the string terminator is among its bytes. -/
def endsData (c : Char) : Bool := (String.utf8EncodeChar c).contains 0x9C

/-- Where a character leads.  An escape character begins a new sequence, whatever was being read. -/
def after (s : Sequence) (c : Char) : Sequence :=
  let code := c.toNat
  if code = 0x1B then escape
  else if code = 0x18 ∨ code = 0x1A then ground
  else match s with
    | ground => ground
    | escape =>
      match c with
      | '[' => csi
      | ']' => osc
      | 'P' => dcsEntry
      | 'X' | '^' | '_' => data
      | _ =>
        if 0x20 ≤ code ∧ code < 0x30 then escapeIntermediate
        else if 0x30 ≤ code ∧ code < 0x7F then ground
        else escape
    | escapeIntermediate => if 0x30 ≤ code ∧ code < 0x7F then ground else s
    | csi => if 0x40 ≤ code ∧ code < 0x7F then ground else s
    | dcsEntry =>
      if 0x20 ≤ code ∧ code < 0x30 then dcsIntermediate
      else if 0x30 ≤ code ∧ code < 0x40 then dcsParameter
      else if 0x40 ≤ code ∧ code < 0x7F then data
      else s
    | dcsParameter =>
      if 0x20 ≤ code ∧ code < 0x30 then dcsIntermediate
      else if 0x3C ≤ code ∧ code < 0x7F then data
      else s
    | dcsIntermediate => if 0x30 ≤ code ∧ code < 0x7F then data else s
    | data => if endsData c then ground else s
    | osc => if code = 0x07 then ground else s

/-- The character is shown all the same. -/
def shows (s : Sequence) (c : Char) : Bool :=
  match s with
  | ground => isShown c
  | escape | escapeIntermediate | csi => isBlankControl c
  | dcsEntry | dcsParameter | dcsIntermediate | data | osc => false

end Sequence

/-- The characters shown from some point on.  While text is `showing`, a sequence that was broken
off before it waits for the next control; a character beyond ASCII ends it. -/
def plainFrom (s : Sequence) (showing : Bool) : List Char → List Char
  | [] => []
  | c :: cs =>
    if showing then
      if isShown c then c :: plainFrom (if c.toNat < 0x80 then s else .ground) true cs
      else plainFrom (s.after c) false cs
    else if s.shows c then c :: plainFrom (s.after c) true cs
    else plainFrom (s.after c) false cs

/-- The text without terminal controls. -/
def plain (s : String) : String := String.ofList (plainFrom .ground false s.toList)

end VersionStamp.Text
