/-
# VersionStamp.CommandLine.Reader — what the arguments ask for

The arguments are read from left to right.  What has been given is *settled* only when something new
is given: until then it is pending, as the value of an option may still follow.  A fault in what is
pending shows when it is settled, and so may a help option further on act before a missing commit is
noticed, but not before a missing value.

After `--` every argument counts as a commit, whatever it looks like.
-/
import VersionStamp.CommandLine.Similarity
import VersionStamp.Text.Plain
import VersionStamp.Update

namespace VersionStamp.CommandLine

/-- What is wrong with the arguments.  `used` lists the options that had been settled, and
`anySettled` tells whether anything had been. -/
inductive UsageError where
  | missingCommit (used : List Opt)
  | extraArgument (argument : String)
  | unknownLetter (letter : Char)
  | unknownName (name : String) (used : List Opt) (commitGiven : Bool)
  | mistypedName (name : String) (meant : Opt) (used : List Opt)
  | unexpectedValue (value : String) (option : Opt) (anySettled : Bool)
  | missingValue
  | repeatedOption (option : Opt)
  deriving DecidableEq, Repr

namespace UsageError

/-- The usage line that names some options, and then the commit or what stands for it. -/
def usageWith (options : List Opt) (last : String) : String :=
  " ".intercalate ("Usage: update-version" :: options.map Opt.shown ++ [last])

@[inherit_doc usageWith]
def usageOf (options : List Opt) : String := usageWith options commitShown

/-- A letter as the argument that it was in. -/
def letterShown (letter : Char) : String := "-" ++ letter.toString

/-- A long name as the argument that it was in. -/
def nameShown (name : String) : String := "--" ++ name

/-- What is wrong.  An argument is shown without terminal controls. -/
def complaint : UsageError → String
  | missingCommit _ => s!"the following required arguments were not provided:\n  {commitShown}"
  | extraArgument argument => s!"unexpected argument '{Text.plain argument}' found"
  | unknownLetter letter => s!"unexpected argument '{Text.plain (letterShown letter)}' found"
  | unknownName name _ _ | mistypedName name _ _ =>
    s!"unexpected argument '{Text.plain (nameShown name)}' found"
  | unexpectedValue value option _ =>
    s!"unexpected value '{Text.plain value}' for '{option.shown}' found; no more were expected"
  | missingValue =>
    s!"a value is required for '{Opt.source.shown}' but none was supplied"
  | repeatedOption option => s!"the argument '{option.shown}' cannot be used multiple times"

/-- How an argument that looks like an option becomes a commit. -/
def tipFor (argument : String) : String :=
  s!"to pass '{Text.plain argument}' as a value, use '-- {Text.plain argument}'"

/-- What could be done about it. -/
def tip? : UsageError → Option String
  | unknownLetter letter => some (tipFor (letterShown letter))
  | unknownName name _ _ => some (tipFor (nameShown name))
  | mistypedName _ meant _ => some s!"a similar argument exists: '--{meant.long}'"
  | _ => none

/-- How the program is used, with regard to what was given. -/
def usage? : UsageError → Option String
  | missingCommit used => some (usageOf used)
  | unknownName _ used commitGiven =>
    some (if used.isEmpty && !commitGiven then generalUsage else usageOf used)
  | mistypedName _ option used =>
    some (usageOf (if used.contains option then used else used ++ [option]))
  | unexpectedValue _ option false => some (usageOf [option])
  | unexpectedValue _ option true =>
    some (usageWith ([option].filter (!·.isSetting)) choiceShown)
  | missingValue => none
  | extraArgument _ | unknownLetter _ | repeatedOption _ => some generalUsage

/-- The whole message. -/
def text (e : UsageError) : String :=
  let paragraphs := [s!"error: {e.complaint}"] ++ (e.tip?.map fun tip => s!"  tip: {tip}").toList ++
    e.usage?.toList ++ ["For more information, try '--help'."]
  "\n\n".intercalate paragraphs ++ "\n"

end UsageError

/-! ## Reading -/

/-- What was given last and is not settled yet. -/
inductive Pending where
  | nothing
  | commit (revision : String)
  /-- The source option, whose value may still be to come. -/
  | source (value : Option String)
  deriving DecidableEq, Repr

/-- What the arguments read so far ask for. -/
structure Given where
  commit : Option String
  source : Option String
  /-- The options settled, in the order given. -/
  used : List Opt
  pending : Pending
  deriving DecidableEq, Repr

namespace Given

/-- Before the first argument. -/
def nothing : Given := ⟨none, none, [], .nothing⟩

/-- Something has been settled. -/
def anySettled (g : Given) : Bool := g.commit.isSome || !g.used.isEmpty

/-- Gives the source option a value.  A second time is refused, and takes the first one away. -/
def setSource (g : Given) (value : String) : Given × Option UsageError :=
  if g.used.contains .source then
    ({ g with used := g.used.erase .source }, some (.repeatedOption .source))
  else
    let g := { g with used := g.used ++ [.source] }
    if value = "" then (g, some .missingValue) else ({ g with source := some value }, none)

/-- Settles what is pending. -/
def settle (g : Given) : Given × Option UsageError :=
  let settled := { g with pending := .nothing }
  match g.pending with
  | .nothing => (g, none)
  | .commit revision => ({ settled with commit := some revision }, none)
  | .source none => (settled, some .missingValue)
  | .source (some value) => settled.setSource value

/-- Settles what is pending, and goes on if nothing is wrong with it. -/
def settled (g : Given) : Except UsageError Given :=
  match g.settle with
  | (g, none) => .ok g
  | (_, some e) => .error e

/-- Sets an option that has no value. -/
def setFlag (g : Given) (option : Opt) : Except UsageError Given :=
  if g.used.contains option then .error (.repeatedOption option)
  else .ok { g with used := g.used ++ [option] }

/-- Takes an argument as the commit. -/
def takeCommit (g : Given) (argument : String) : Except UsageError Given := do
  let taken := match g.commit, g.pending with
    | some _, _ | _, .commit _ => true
    | _, _ => false
  if taken then .error (.extraArgument argument)
  else return { (← g.settled) with pending := .commit argument }

end Given

/-- What the arguments ask for. -/
inductive Demand where
  | run (request : Request)
  /-- To print a text and do nothing else. -/
  | print (text : String)
  deriving DecidableEq, Repr

/-- What one argument leads to: more reading, or an answer at once. -/
abbrev Step := Except UsageError (Given ⊕ Demand)

/-- A long option, whose value may stand after an equals sign. -/
def readLong (g : Given) (name : List Char) (value : Option (List Char)) : Step :=
  match Opt.ofLong? name with
  | none =>
    let (g, _) := g.settle
    let given := String.ofList name
    .error <| match meant? name with
      | some meant => .mistypedName given meant g.used
      | none => .unknownName given g.used g.commit.isSome
  | some .source => do
    let g ← g.settled
    match value with
    | none => return .inl { g with pending := .source none }
    | some value =>
      match g.setSource (String.ofList value) with
      | (g, none) => return .inl g
      | (_, some e) => .error e
  | some option =>
    match value with
    | some value => .error (.unexpectedValue (String.ofList value) option g.anySettled)
    | none => do
      let g ← g.settled
      match option with
      | .help => return .inr (.print longHelp)
      | .version => return .inr (.print versionText)
      | option => return .inl (← g.setFlag option)

/-- The letters after a single dash.  The first known one ends the program. -/
def readLetter (g : Given) (letter : Char) : Step :=
  match Opt.ofShort? letter with
  | some .help => do
    let _ ← g.settled
    return .inr (.print shortHelp)
  | some .version => do
    let _ ← g.settled
    return .inr (.print versionText)
  | _ => .error (.unknownLetter letter)

/-- One argument before `--`. -/
def readArgument (g : Given) (argument : String) : Step :=
  match argument.toList with
  | '-' :: '-' :: rest =>
    let name := rest.takeWhile (· ≠ '=')
    match rest.dropWhile (· ≠ '=') with
    | [] => readLong g name none
    | _ :: value => readLong g name (some value)
  | '-' :: letter :: _ => readLetter g letter
  | _ =>
    match g.pending with
    | .source none => .ok (.inl { g with pending := .source (some argument) })
    | _ => return .inl (← g.takeCommit argument)

/-- What is asked for when all arguments have been read. -/
def Given.finish (g : Given) : Except UsageError Demand := do
  let g ← g.settled
  match g.commit with
  | none => .error (.missingCommit g.used)
  | some commit =>
    return .run ⟨commit, g.source, g.used.contains .dryRun, g.used.contains .json⟩

/-- Reads the arguments from some point on. -/
def readFrom (g : Given) : List String → Except UsageError Demand
  | [] => g.finish
  | argument :: rest =>
    if argument = "--" then do (← rest.foldlM Given.takeCommit g).finish
    else do
      match ← readArgument g argument with
      | .inl g => readFrom g rest
      | .inr demand => return demand

/-- What the arguments ask for. -/
def read (arguments : List String) : Except UsageError Demand := readFrom .nothing arguments

end VersionStamp.CommandLine
