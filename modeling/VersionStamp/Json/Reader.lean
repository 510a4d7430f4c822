/-
# VersionStamp.Json.Reader — reading a JSON document

`JsonValue.read` reads a text that is one JSON document with white space around it.  Any other text
has a fault, and the first one is reported: what is wrong, and where.

A place in the text is a line, counted from one, and a column, the number of bytes of that line up
to the place.  Many faults lie in the next byte; then the place is behind that byte, be it the whole
character or not.  A bad escape by number lies in the next four bytes, and the place is behind them.

How deep brackets may be nested and which numbers are too large is the matter of the reader, not of
the format, so the readers below take `JsonLimits`.  The depth is also what the recursion is on; a
loop over elements, members or characters takes at least one character at each turn, so the length
of the text bounds every loop.
-/
import VersionStamp.Json.Magnitude
import VersionStamp.Json.Value

namespace VersionStamp

/-- What can be wrong with a JSON document. -/
inductive JsonFault where
  | endInArray
  | endInObject
  | endInString
  | endInValue
  | expectedColon
  | expectedCommaInArray
  | expectedCommaInObject
  | expectedWord
  | expectedValue
  | badEscape
  | badNumber
  | controlInString
  | keyNotString
  | loneSurrogate
  | trailingComma
  | trailingCharacters
  | escapeBreaksOff
  | numberTooLarge
  | tooDeep
  deriving DecidableEq, Repr

/-- The text of a fault. -/
def JsonFault.text : JsonFault → String
  | endInArray => "EOF while parsing a list"
  | endInObject => "EOF while parsing an object"
  | endInString => "EOF while parsing a string"
  | endInValue => "EOF while parsing a value"
  | expectedColon => "expected `:`"
  | expectedCommaInArray => "expected `,` or `]`"
  | expectedCommaInObject => "expected `,` or `\x7d`"
  | expectedWord => "expected ident"
  | expectedValue => "expected value"
  | badEscape => "invalid escape"
  | badNumber => "invalid number"
  | controlInString =>
    "control character (\\u0000-\\u001F) found while parsing a string"
  | keyNotString => "key must be a string"
  | loneSurrogate => "lone leading surrogate in hex escape"
  | trailingComma => "trailing comma"
  | trailingCharacters => "trailing characters"
  | escapeBreaksOff => "unexpected end of hex escape"
  | numberTooLarge => "number out of range"
  | tooDeep => "recursion limit exceeded"

/-- A fault, the text that was still to be read, and how many bytes of it the fault takes in. -/
structure JsonError where
  fault : JsonFault
  rest : List Char
  ahead : Nat
  deriving DecidableEq, Repr

/-- What a reader takes: how deep brackets may be nested, and which numbers are too large for it.
An exponent that takes more than 31 bits is too large for every reader. -/
structure JsonLimits where
  depth : Nat
  isTooLarge : Json.Magnitude → Bool

namespace JsonLimits

/-- The limits of a reader that keeps numbers in floating-point words. -/
def floating : JsonLimits := ⟨127, Json.Magnitude.isTooLarge⟩

/-- The limits of a reader that keeps numbers as they are spelled, so that none is too large. -/
def spelled : JsonLimits := ⟨127, fun _ => false⟩

end JsonLimits

namespace JsonValue

/-! Every reader below answers with what it read and the rest of the text. -/

/-- The fault lies before the rest of the text. -/
def fail {α : Type} (fault : JsonFault) (rest : List Char) : Except JsonError α :=
  .error ⟨fault, rest, 0⟩

/-- The fault lies in the next byte. -/
def failAt {α : Type} (fault : JsonFault) (rest : List Char) : Except JsonError α :=
  .error ⟨fault, rest, 1⟩

/-- The bytes that characters take in a text. -/
def bytesOf (cs : List Char) : List UInt8 := cs.flatMap String.utf8EncodeChar

/-- The text after white space. -/
def skipSpace (cs : List Char) : List Char :=
  cs.dropWhile fun c => c = ' ' || c = '\n' || c = '\t' || c = '\r'

/-! ## Words and numbers -/

/-- Reads the rest of a word whose first letter has told which one it is. -/
def readWord (value : JsonValue) : List Char → List Char → Except JsonError (JsonValue × List Char)
  | [], cs => .ok (value, cs)
  | _ :: _, [] => fail .endInValue []
  | w :: ws, c :: cs => if c = w then readWord value ws cs else failAt .expectedWord (c :: cs)

/-- A number that has been read, unless it is too large. -/
def endNumber (limits : JsonLimits) (read : List Char) (m : Json.Magnitude) (cs : List Char) :
    Except JsonError (JsonValue × List Char) :=
  if limits.isTooLarge m then fail .numberTooLarge cs else .ok (.number read, cs)

/-- Reads an exponent, if there is one, after a number of some magnitude.  One that is too large by
far is noticed before it ends. -/
def readExponent (limits : JsonLimits) (read : List Char) (m : Json.Magnitude) :
    List Char → Except JsonError (JsonValue × List Char)
  | e :: cs =>
    if e = 'e' ∨ e = 'E' then
      let (sign, after) := match cs with
        | '+' :: rest => (['+'], rest)
        | '-' :: rest => (['-'], rest)
        | rest => ([], rest)
      match after with
      | [] => fail .endInValue []
      | d :: _ =>
        if d.isDigit then
          let digits := after.takeWhile Char.isDigit
          let rest := after.dropWhile Char.isDigit
          let read := read ++ e :: sign ++ digits
          match Json.exponentFrom 0 digits with
          | .ok exponent =>
            endNumber limits read (m.scaled (if sign = ['-'] then -exponent else exponent)) rest
          | .error left =>
            if m.significand = 0 ∨ sign = ['-'] then .ok (.number read, rest)
            else fail .numberTooLarge (left ++ rest)
        else failAt .badNumber after
    else endNumber limits read m (e :: cs)
  | [] => endNumber limits read m []

/-- Reads a fraction and an exponent, if they are there, after a number of some magnitude. -/
def readFraction (limits : JsonLimits) (read : List Char) (m : Json.Magnitude) :
    List Char → Except JsonError (JsonValue × List Char)
  | '.' :: cs =>
    match cs with
    | [] => failAt .endInValue []
    | d :: _ =>
      if d.isDigit then
        let digits := cs.takeWhile Char.isDigit
        readExponent limits (read ++ '.' :: digits) (m.withFraction digits)
          (cs.dropWhile Char.isDigit)
      else failAt .badNumber cs
  | cs => readExponent limits read m cs

/-- Reads a number after its sign.  A zero is not followed by another digit. -/
def readNumber (limits : JsonLimits) (sign cs : List Char) :
    Except JsonError (JsonValue × List Char) :=
  let digits := cs.takeWhile Char.isDigit
  match digits with
  | [] => if cs = [] then fail .endInValue [] else failAt .badNumber cs
  | '0' :: _ :: _ => failAt .badNumber (cs.drop 1)
  | digits =>
    readFraction limits (sign ++ digits) (Json.Magnitude.ofWhole digits)
      (cs.dropWhile Char.isDigit)

/-! ## Strings -/

/-- The value of a hexadecimal digit. -/
def hexDigit? (c : Char) : Option Nat :=
  if '0' ≤ c ∧ c ≤ '9' then some (c.toNat - '0'.toNat)
  else if 'a' ≤ c ∧ c ≤ 'f' then some (c.toNat - 'a'.toNat + 10)
  else if 'A' ≤ c ∧ c ≤ 'F' then some (c.toNat - 'A'.toNat + 10)
  else none

/-- The code unit that four hexadecimal digits give, and the text after them. -/
def unit? : List Char → Option (Nat × List Char)
  | a :: b :: c :: d :: cs => do
    return ((((← hexDigit? a) * 16 + (← hexDigit? b)) * 16 + (← hexDigit? c)) * 16 +
      (← hexDigit? d), cs)
  | _ => none

/-- Reads four hexadecimal digits; a text of fewer than four bytes ends too early for them. -/
def readHex (cs : List Char) : Except JsonError (Nat × List Char) :=
  match unit? cs with
  | some read => .ok read
  | none => if (bytesOf cs).length < 4 then fail .endInString [] else .error ⟨.badEscape, cs, 4⟩

/-- The code unit is the first half of a surrogate pair. -/
def isLeading (unit : Nat) : Bool := 0xD800 ≤ unit && unit < 0xDC00

/-- The code unit is the second half of a surrogate pair. -/
def isTrailing (unit : Nat) : Bool := 0xDC00 ≤ unit && unit < 0xE000

/-- Reads a character after `\u`.  One beyond the Basic Multilingual Plane takes two escapes. -/
def readUnicode (cs : List Char) : Except JsonError (Char × List Char) := do
  let (unit, cs) ← readHex cs
  if isTrailing unit then fail .loneSurrogate cs
  else if isLeading unit then
    match cs with
    | [] => fail .endInString []
    | '\\' :: [] => fail .endInString []
    | '\\' :: 'u' :: cs => do
      let (second, cs) ← readHex cs
      if isTrailing second then
        return (Char.ofNat (0x10000 + (unit - 0xD800) * 0x400 + (second - 0xDC00)), cs)
      else fail .loneSurrogate cs
    | '\\' :: cs => failAt .escapeBreaksOff cs
    | cs => failAt .escapeBreaksOff cs
  else return (Char.ofNat unit, cs)

/-- Reads a character after a backslash. -/
def readEscape : List Char → Except JsonError (Char × List Char)
  | [] => fail .endInString []
  | '"' :: cs => .ok ('"', cs)
  | '\\' :: cs => .ok ('\\', cs)
  | '/' :: cs => .ok ('/', cs)
  | 'b' :: cs => .ok ('\x08', cs)
  | 'f' :: cs => .ok ('\x0c', cs)
  | 'n' :: cs => .ok ('\n', cs)
  | 'r' :: cs => .ok ('\r', cs)
  | 't' :: cs => .ok ('\t', cs)
  | 'u' :: cs => readUnicode cs
  | cs => failAt .badEscape cs

/-- Reads a string after its opening quote; `read` holds what has been read of it, reversed. -/
def readString (read : List Char) (cs : List Char) : Nat → Except JsonError (List Char × List Char)
  | 0 => fail .endInString cs
  | fuel + 1 =>
    match cs with
    | [] => fail .endInString []
    | '"' :: cs => .ok (read.reverse, cs)
    | '\\' :: cs => do
      let (c, cs) ← readEscape cs
      readString (c :: read) cs fuel
    | c :: cs =>
      if c.toNat < 32 then fail .controlInString cs else readString (c :: read) cs fuel

/-! ## Arrays, objects, values -/

/-- Reads the elements of an array up to its closing bracket, after the first one if `first` does
not hold.  `element` reads one element. -/
def readElements (element : List Char → Except JsonError (JsonValue × List Char)) (first : Bool)
    (cs : List Char) : Nat → Except JsonError (List JsonValue × List Char)
  | 0 => failAt .endInArray cs
  | fuel + 1 => do
    let cs := skipSpace cs
    let elementFrom (cs : List Char) : Except JsonError (List JsonValue × List Char) := do
      let (v, cs) ← element cs
      let (vs, cs) ← readElements element false cs fuel
      return (v :: vs, cs)
    match cs with
    | [] => failAt .endInArray []
    | ']' :: rest => return ([], rest)
    | c :: rest =>
      if first then elementFrom cs
      else if c = ',' then
        match skipSpace rest with
        | [] => failAt .endInValue []
        | ']' :: after => failAt .trailingComma (']' :: after)
        | rest => elementFrom rest
      else failAt .expectedCommaInArray cs

/-- Reads the colon between a key and its value. -/
def readColon (cs : List Char) : Except JsonError (List Char) :=
  match skipSpace cs with
  | [] => failAt .endInObject []
  | ':' :: rest => .ok rest
  | rest => failAt .expectedColon rest

/-- Reads the members of an object up to its closing bracket, after the first one if `first` does
not hold.  `value` reads one value. -/
def readMembers (value : List Char → Except JsonError (JsonValue × List Char)) (first : Bool)
    (cs : List Char) : Nat → Except JsonError (List (List Char × JsonValue) × List Char)
  | 0 => failAt .endInObject cs
  | fuel + 1 => do
    let cs := skipSpace cs
    let memberFrom (cs : List Char) :
        Except JsonError (List (List Char × JsonValue) × List Char) := do
      match cs with
      | '"' :: cs => do
        let (key, cs) ← readString [] cs (fuel + 1)
        let cs ← readColon cs
        let (v, cs) ← value cs
        let (ms, cs) ← readMembers value false cs fuel
        return ((key, v) :: ms, cs)
      | cs => failAt .keyNotString cs
    match cs with
    | [] => failAt .endInObject []
    | '\x7d' :: rest => return ([], rest)
    | c :: rest =>
      if first then memberFrom cs
      else if c = ',' then
        match skipSpace rest with
        | [] => failAt .endInValue []
        | '\x7d' :: after => failAt .trailingComma ('\x7d' :: after)
        | rest => memberFrom rest
      else failAt .expectedCommaInObject cs

/-- Reads a value in which brackets are nested at most `depth` deep, from a text shorter than
`bound`. -/
def readValue (limits : JsonLimits) (bound depth : Nat) (cs : List Char) :
    Except JsonError (JsonValue × List Char) :=
  match skipSpace cs with
  | [] => failAt .endInValue []
  | 'n' :: cs => readWord .null ['u', 'l', 'l'] cs
  | 't' :: cs => readWord (.bool true) ['r', 'u', 'e'] cs
  | 'f' :: cs => readWord (.bool false) ['a', 'l', 's', 'e'] cs
  | '-' :: cs => readNumber limits ['-'] cs
  | '"' :: cs => do
    let (text, cs) ← readString [] cs bound
    return (.string text, cs)
  | '[' :: rest =>
    match depth with
    | 0 => failAt .tooDeep ('[' :: rest)
    | depth + 1 => do
      let (vs, rest) ← readElements (readValue limits bound depth) true rest bound
      return (.array vs, rest)
  | '\x7b' :: rest =>
    match depth with
    | 0 => failAt .tooDeep ('\x7b' :: rest)
    | depth + 1 => do
      let (ms, rest) ← readMembers (readValue limits bound depth) true rest bound
      return (.object ms, rest)
  | c :: cs =>
    if c.isDigit then readNumber limits [] (c :: cs) else failAt .expectedValue (c :: cs)

/-- Reads a text that is one value with white space around it. -/
def readWithin (limits : JsonLimits) (cs : List Char) : Except JsonError JsonValue := do
  let (v, rest) ← readValue limits (cs.length + 1) limits.depth cs
  match skipSpace rest with
  | [] => return v
  | rest => failAt .trailingCharacters rest

/-- Reads a text that is one value with white space around it, of numbers that a floating-point
word can keep. -/
def read (cs : List Char) : Except JsonError JsonValue := readWithin .floating cs

end JsonValue

/-! ## Where a fault lies -/

/-- Line and column after some bytes of a text. -/
def placeAfter (read : List UInt8) : Nat × Nat :=
  let newLine := '\n'.toUInt8
  (read.count newLine + 1, (read.reverse.takeWhile (· ≠ newLine)).length)

/-- Line and column of an error in a text. -/
def JsonError.place (e : JsonError) (text : List Char) : Nat × Nat :=
  let bytes := JsonValue.bytesOf text
  placeAfter (bytes.take (bytes.length - (JsonValue.bytesOf e.rest).length + e.ahead))

/-- The message of an error in a text. -/
def JsonError.message (e : JsonError) (text : List Char) : String :=
  let (line, column) := e.place text
  s!"{e.fault.text} at line {line} column {column}"

end VersionStamp
