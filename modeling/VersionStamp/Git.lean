/-
# VersionStamp.Git — asking git, and keeping the questions

Git is another program.  All that is known of it is what it answers: a `Git` gives a reply to every
call, or cannot be started at all.  A `Conversation` is a computation that asks git; it carries the
calls that were made beside the outcome, so that what was asked can be stated and shown.

Every call names the repository, and settings that keep a user's configuration from changing the
form of the answers.  It also names the directory above which git must not look for a repository.
-/
import VersionStamp.Failure
import VersionStamp.Path
import VersionStamp.Text.Utf8

namespace VersionStamp

/-! ## Calls and replies -/

/-- A question for git about one repository. -/
structure Call where
  repository : String
  query : List String
  deriving DecidableEq, Repr

namespace Call

/-- The settings that fix the form of git's answers. -/
def settings : List String := ["-c", "log.showSignature=false", "-c", "core.quotePath=false"]

/-- All arguments that git is started with. -/
def arguments (c : Call) : List String := ["-C", c.repository] ++ settings ++ c.query

/-- The directory above which git must not look for a repository. -/
def ceiling (c : Call) : Option String := (Path.parent? c.repository).filter (· ≠ "")

/-- The names of the variables that git is started with; no others are passed on. -/
def environment (c : Call) : List String :=
  (c.ceiling.map fun _ => "GIT_CEILING_DIRECTORIES").toList ++ ["HOME", "PATH"]

/-- No argument holds a NUL, so that the call can be made. -/
def isPossible (c : Call) : Bool := c.arguments.all fun a => !a.toList.contains '\x00'

end Call

/-- What git answered: how it ended and what it printed. -/
structure Reply where
  status : Nat
  stdout : ByteArray
  stderr : ByteArray
  deriving DecidableEq

/-- Git reported success. -/
def Reply.succeeded (r : Reply) : Bool := r.status = 0

/-- Git's behaviour: it cannot be started, or it answers every call.  That it is there for one call
and cannot be started for another is not among the possibilities. -/
inductive Git where
  | absent
  | present (reply : Call → Reply)

/-! ## Conversations

Asking is the only way to get an answer, and it leaves a trace.  A conversation that breaks off
keeps the calls that were made up to there. -/

/-- A computation that asks git: the calls it made, in order, and how it ended. -/
structure Conversation (α : Type) where
  calls : List Call
  outcome : Except Failure α

namespace Conversation

variable {α β : Type}

/-- Nothing is asked. -/
def ofExcept (outcome : Except Failure α) : Conversation α := ⟨[], outcome⟩

/-- The second part follows if the first one succeeds; the calls of both are kept. -/
def bind (first : Conversation α) (next : α → Conversation β) : Conversation β :=
  match first.outcome with
  | .error failure => ⟨first.calls, .error failure⟩
  | .ok value => ⟨first.calls ++ (next value).calls, (next value).outcome⟩

instance : Monad Conversation where
  pure value := ⟨[], .ok value⟩
  bind := bind

end Conversation

/-- Asks git one question.  `purpose` tells what it was for if git cannot be started. -/
def Git.ask (git : Git) (purpose : String) (call : Call) : Conversation Reply :=
  if call.isPossible then
    match git with
    | .absent => ⟨[], .error (.attempting purpose (.system .notFound))⟩
    | .present reply => ⟨[call], .ok (reply call)⟩
  else ⟨[], .error (.attempting purpose .nulInArgument)⟩

end VersionStamp
