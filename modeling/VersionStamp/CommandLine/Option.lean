/-
# VersionStamp.CommandLine.Option — the options of the program, and its help

The program takes one commit and a few options.  Help is printed in two lengths: the short one has a
line for each item, the long one a paragraph.
-/

namespace VersionStamp.CommandLine

/-- The options of the program. -/
inductive Opt where
  | source
  | dryRun
  | json
  | help
  | version
  deriving DecidableEq, Repr

namespace Opt

/-- Every option. -/
def all : List Opt := [source, dryRun, json, help, version]

/-- The long name of an option, without its dashes. -/
def long : Opt → String
  | source => "upstream"
  | dryRun => "dry-run"
  | json => "json"
  | help => "help"
  | version => "version"

/-- The letter of an option, if it has one. -/
def short? : Opt → Option Char
  | help => some 'h'
  | version => some 'V'
  | _ => none

/-- How an option is shown in messages. -/
def shown : Opt → String
  | source => "--upstream <DIR>"
  | option => "--" ++ option.long

/-- The option says how the program runs; the others ask for a text in its place. -/
def isSetting : Opt → Bool
  | help | version => false
  | _ => true

/-- The option with a long name. -/
def ofLong? (name : List Char) : Option Opt := all.find? (·.long.toList = name)

/-- The option with a letter. -/
def ofShort? (letter : Char) : Option Opt := all.find? (·.short? = some letter)

end Opt

/-! ## Texts -/

/-- What the commit is called in messages. -/
def commitName : String := "COMMIT"

/-- How the commit is shown in messages. -/
def commitShown : String := "<" ++ commitName ++ ">"

/-- How a choice between the commit and the settings is shown in messages. -/
def choiceShown : String :=
  "<" ++ "|".intercalate (commitName :: (Opt.all.filter Opt.isSetting).map Opt.shown) ++ ">"

/-- The name and the version of the program. -/
def versionText : String := "update-version 0.1.0\n"

/-- What ends both helps. -/
def exampleText : String := "Example: update-version 9c5ced3599\n"

/-- How the program is used in general. -/
def generalUsage : String := "Usage: update-version [OPTIONS] <COMMIT>"

/-- The short help. -/
def shortHelp : String :=
  "Sync release version and manifest dates from an upstream pikchr commit " ++
  "into the C header and Go grammar\n\n" ++
  generalUsage ++ "\n\n" ++
  "Arguments:\n" ++
  "  <COMMIT>  Upstream commit to take the version and date from\n\n" ++
  "Options:\n" ++
  "      --upstream <DIR>  Override upstream repository path (default: ../pikchr)\n" ++
  "      --dry-run         Show the changes without writing any file\n" ++
  "      --json            Output a JSON report instead of progress messages\n" ++
  "  -h, --help            Print help (see more with '--help')\n" ++
  "  -V, --version         Print version\n\n" ++
  exampleText

/-- The long help. -/
def longHelp : String :=
  "Update version information from an upstream pikchr commit\n\n" ++
  "Rewrites c/VERSION.h and the version constants in internal/pikchr.y " ++
  "so both match the given commit of the sibling pikchr repository.\n\n" ++
  generalUsage ++ "\n\n" ++
  "Arguments:\n" ++
  "  <COMMIT>\n" ++
  "          Upstream commit to take the version and date from\n\n" ++
  "Options:\n" ++
  "      --upstream <DIR>\n" ++
  "          Override upstream repository path (default: ../pikchr)\n\n" ++
  "      --dry-run\n" ++
  "          Show the changes without writing any file\n\n" ++
  "      --json\n" ++
  "          Output a JSON report instead of progress messages\n\n" ++
  "  -h, --help\n" ++
  "          Print help (see a summary with '-h')\n\n" ++
  "  -V, --version\n" ++
  "          Print version\n\n" ++
  exampleText

end VersionStamp.CommandLine
