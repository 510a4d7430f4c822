/-
# VersionStamp.Transcript — git's answers, written down

The program can be run against answers that git gave at another time.  They are written down as a
JSON array of objects, each with the arguments of a question (`args`, without the repository and the
settings), and how git answered it: `status`, `stdout` and `stderr`.  A question that is not written
down is answered as git answers one that it cannot make sense of.  A text that is no transcript is
refused, with the place of the fault if it is not even JSON.
-/
import VersionStamp.Git
import VersionStamp.Json.Reader
import VersionStamp.Text.Utf8

namespace VersionStamp

namespace JsonValue

/-- The member of an object with a given name; the first one, if there are several. -/
def member? (v : JsonValue) (name : String) : Option JsonValue :=
  match v with
  | .object members => members.lookup name.toList
  | _ => none

/-- The text of a string. -/
def text? : JsonValue → Option String
  | .string text => some (String.ofList text)
  | _ => none

/-- A natural number, spelled with digits alone. -/
def nat? : JsonValue → Option Nat
  | .number spelling =>
    if spelling.all Char.isDigit then some (Nat.ofDigitChars 10 spelling 0) else none
  | _ => none

/-- The elements of an array. -/
def elements? : JsonValue → Option (List JsonValue)
  | .array elements => some elements
  | _ => none

end JsonValue

/-- Questions and git's answers to them. -/
abbrev Transcript := List (List String × Reply)

namespace Transcript

/-- The text of a member; a missing one is empty. -/
def textOf (v : JsonValue) (name : String) : Option String :=
  match v.member? name with
  | some value => value.text?
  | none => some ""

/-- One question with its answer. -/
def entry? (v : JsonValue) : Option (List String × Reply) := do
  let query ← (← (← v.member? "args").elements?).mapM JsonValue.text?
  let status ← match v.member? "status" with
    | some value => value.nat?
    | none => some 0
  return (query, ⟨status, Text.bytes (← textOf v "stdout"), Text.bytes (← textOf v "stderr")⟩)

/-- The transcript that a text holds. -/
def ofText (text : String) : Except Failure Transcript :=
  match JsonValue.read text.toList with
  | .error fault => .error (.ofJsonError (fault.message text.toList))
  | .ok document =>
    match document.elements?.bind (·.mapM entry?) with
    | some transcript => .ok transcript
    | none => .error (.message "Not an array of questions with their answers" none [])

/-- The answer to a question that is not written down. -/
def unknown : Reply := ⟨128, Text.bytes "", Text.bytes "fatal: no rule\n"⟩

/-- Git as the transcript knows it. -/
def git (t : Transcript) : Git := .present fun call => (t.lookup call.query).getD unknown

end Transcript

end VersionStamp
