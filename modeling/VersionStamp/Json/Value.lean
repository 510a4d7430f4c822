/-
# VersionStamp.Json.Value — JSON values and their indented form

A report for other programs is one JSON document.  A `JsonValue` is what such a document holds; the
members of an object keep their order.  A number is kept as it is spelled, so no number changes on
its way through.

`JsonValue.pretty` prints a value over several lines: each element of an array and each member of an
object has a line of its own, indented by two blanks more than the bracket that opens it.
-/

namespace VersionStamp

/-- A JSON value. -/
inductive JsonValue where
  | null
  | bool (b : Bool)
  | number (spelling : List Char)
  | string (text : List Char)
  | array (elements : List JsonValue)
  | object (members : List (List Char × JsonValue))
  deriving Repr

namespace JsonValue

/-- A text as a value. -/
def ofString (s : String) : JsonValue := .string s.toList

/-- A natural number as a value. -/
def ofNat (n : Nat) : JsonValue := .number (Nat.toDigits 10 n)

/-! ## Strings -/

/-- How a character is written in a string: the quote, the backslash and the controls are escaped,
every other character stands for itself. -/
def escapedChar (c : Char) : List Char :=
  match c with
  | '"' => ['\\', '"']
  | '\\' => ['\\', '\\']
  | '\x08' => ['\\', 'b']
  | '\x0c' => ['\\', 'f']
  | '\n' => ['\\', 'n']
  | '\r' => ['\\', 'r']
  | '\t' => ['\\', 't']
  | c =>
    if c.toNat < 32 then
      ['\\', 'u', '0', '0', Nat.digitChar (c.toNat / 16), Nat.digitChar (c.toNat % 16)]
    else [c]

/-- A string in its quotes. -/
def quoted (text : List Char) : List Char := '"' :: text.flatMap escapedChar ++ ['"']

/-! ## Values -/

/-- The start of a line at a depth of nesting. -/
def newLine (depth : Nat) : List Char := '\n' :: List.replicate (2 * depth) ' '

mutual

/-- A value, where the line it begins on is nested `depth` deep. -/
def write (depth : Nat) : JsonValue → List Char
  | .null => ['n', 'u', 'l', 'l']
  | .bool true => ['t', 'r', 'u', 'e']
  | .bool false => ['f', 'a', 'l', 's', 'e']
  | .number spelling => spelling
  | .string text => quoted text
  | .array [] => ['[', ']']
  | .array (v :: vs) =>
    '[' :: newLine (depth + 1) ++ write (depth + 1) v ++ writeElements (depth + 1) vs ++
      newLine depth ++ [']']
  | .object [] => ['\x7b', '\x7d']
  | .object (m :: ms) =>
    '\x7b' :: newLine (depth + 1) ++ writeMember (depth + 1) m ++ writeMembers (depth + 1) ms ++
      newLine depth ++ ['\x7d']

/-- The elements after the first, each on a line of its own. -/
def writeElements (depth : Nat) : List JsonValue → List Char
  | [] => []
  | v :: vs => ',' :: newLine depth ++ write depth v ++ writeElements depth vs

/-- One member of an object. -/
def writeMember (depth : Nat) : List Char × JsonValue → List Char
  | (key, v) => quoted key ++ [':', ' '] ++ write depth v

/-- The members after the first, each on a line of its own. -/
def writeMembers (depth : Nat) : List (List Char × JsonValue) → List Char
  | [] => []
  | m :: ms => ',' :: newLine depth ++ writeMember depth m ++ writeMembers depth ms

end

/-- A value in its indented form. -/
def pretty (v : JsonValue) : String := String.ofList (v.write 0)

end JsonValue

end VersionStamp
