/-
# VersionStamp.Report — what a run prints

A run tells what it does as it goes along, or prints one JSON document at its end.  Both show the
target files by their paths as seen from the root.
-/
import VersionStamp.Json.Value
import VersionStamp.Plan

namespace VersionStamp.Report

/-- The path of a target file as seen from the root. -/
def pathOf (layout : Layout) (r : Rendered) : String := Path.relativeTo layout.root r.path

/-! ## In words -/

/-- Before git is asked. -/
def opening (layout : Layout) : String :=
  s!"🔍 Getting commit info from {layout.source}...\n"

/-- What the commit is. -/
def commit (plan : Plan) : String :=
  "\n" ++
  s!"  Commit:  {plan.commit}\n" ++
  s!"  SHA:     {plan.record.sha}\n" ++
  s!"  Date:    {plan.record.fullDate}\n" ++
  s!"  Version: {plan.stamp.release}\n" ++
  "\n"

/-- A target file that needs no change. -/
def upToDate (layout : Layout) (r : Rendered) : String :=
  s!"   {pathOf layout r} already up to date ({r.target.name})\n"

/-- The change that one target file would see. -/
def foreseen (layout : Layout) (r : Rendered) : String :=
  if r.isChanged then
    let path := pathOf layout r
    s!"📝 {path} ({r.target.name}):\n" ++ r.diff path ++ "\n"
  else upToDate layout r

/-- What became of one target file.  A constant that is assigned more than once is pointed out. -/
def done (layout : Layout) (r : Rendered) (status : Status) : String :=
  let total := r.substitutions.foldl (fun n s => n + s.replacements) 0
  let line := match status with
    | .updated =>
      if r.substitutions.isEmpty then s!"✅ Updated {pathOf layout r} ({r.target.name})\n"
      else s!"✅ Updated {pathOf layout r} ({r.target.name}, {total} substitutions)\n"
    | .unchanged => upToDate layout r
    | .pending => s!"   {pathOf layout r} would be updated ({r.target.name})\n"
  let repeated := (r.substitutions.filter (1 < ·.replacements)).map fun s =>
    s!"   ⚠️  {s.constant.name} matched {s.replacements} times; all occurrences replaced\n"
  line ++ String.join repeated

/-- After a run that wrote nothing on purpose. -/
def dryRunClosing : String := "🔍 Dry-run mode (no changes applied)\n"

/-- After a run that brought the files up to date. -/
def closing : String :=
  "\n" ++
  "✅ Version information updated successfully!\n" ++
  "\n" ++
  "Next steps:\n" ++
  "  1. Regenerate internal/pikchr.go: " ++
  "cd internal && ../../golemon/bin/golemon pikchr.y\n" ++
  "  2. Run tests: ./dotest.sh\n" ++
  "  3. Commit changes\n"

/-! ## As JSON -/

/-- An object whose keys are given as strings. -/
def object (members : List (String × JsonValue)) : JsonValue :=
  .object (members.map fun (key, value) => (key.toList, value))

/-- The values of a stamp. -/
def stampJson (s : Stamp) : JsonValue :=
  object [("release_version", .ofString s.release), ("manifest_date", .ofString s.manifestDate),
    ("manifest_isodate", .ofString s.manifestIsoDate)]

/-- The count of one constant. -/
def substitutionJson (s : Substitution) : JsonValue :=
  object [("constant", .ofString s.constant.name), ("replacements", .ofNat s.replacements)]

/-- One target file; where nothing is substituted, nothing is told about it. -/
def renderedJson (layout : Layout) (r : Rendered) (status : Status) : JsonValue :=
  let counts := if r.substitutions.isEmpty then []
    else [("substitutions", .array (r.substitutions.map substitutionJson))]
  object ([("path", .ofString (pathOf layout r)), ("status", .ofString status.name)] ++ counts)

/-- The report of a run. -/
def json (layout : Layout) (plan : Plan) (dryRun : Bool) (statuses : List Status) : JsonValue :=
  object [
    ("commit", .ofString plan.commit),
    ("sha", .ofString plan.record.sha),
    ("full_date", .ofString plan.record.fullDate),
    ("version", stampJson plan.stamp),
    ("dry_run", .bool dryRun),
    ("artifacts", .array (plan.rendered.zipWith (renderedJson layout) statuses))]

end VersionStamp.Report
