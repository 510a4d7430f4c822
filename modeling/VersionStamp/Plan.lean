/-
# VersionStamp.Plan — everything that is to be written, and writing it

Both target files are rendered before either is written, so that every fault in the metadata or in
a target shows while the files are still as they were.  Writing then goes in order, the header
first.  If a later file cannot be written after an earlier one was, the failure names both.
-/
import VersionStamp.Layout
import VersionStamp.Rendered
import VersionStamp.Repository

namespace VersionStamp

/-! ## Rendering

A file is rendered from its path and a stamp.  What stands there is read first: it is what the new
text is compared with, and for the grammar it is what the new text is made from. -/

namespace Rendered

/-- Renders the header.  It need not exist yet. -/
def header (w : Workspace) (path : String) (s : Stamp) : Except Failure Rendered := do
  let previous ← match w.readText path with
    | .ok text => .ok (some text)
    | .error (.system .notFound) => .ok none
    | .error cause => inAttemptAt (fun _ => s!"Failed to read {path}") (.error cause)
  return ⟨.header, path, previous, Header.content s, []⟩

/-- Renders the grammar.  It has to exist and to assign every constant. -/
def grammar (w : Workspace) (path : String) (s : Stamp) : Except Failure Rendered := do
  let previous ← inAttemptAt (fun _ => s!"Failed to read {path}") (w.readText path)
  let (content, substitutions) := substitute previous s
  match substitutions.find? (·.replacements = 0) with
  | some missing => .error (.constantNotFound path missing.constant.name)
  | none => .ok ⟨.grammar, path, some previous, content, substitutions⟩

/-- Writes the new text, unless the file has it already.  Tells whether it was written. -/
def write (w : Workspace) (r : Rendered) : Except Failure (Workspace × Bool) := do
  if r.isChanged then
    let w ← inAttemptAt (fun _ => s!"Failed to write {r.path}") (w.writeText r.path r.content)
    return (w, true)
  else return (w, false)

end Rendered

/-! ## Planning

Git is asked before any file is read, and all files are read before one is written. -/

/-- What one run is going to write, and from what. -/
structure Plan where
  commit : String
  record : CommitRecord
  stamp : Stamp
  rendered : List Rendered
  deriving DecidableEq

/-- The plan for a commit. -/
def Plan.make (w : Workspace) (git : Git) (layout : Layout) (commit : String) :
    Conversation Plan := do
  let repository ← Repository.ofDirectory git layout.source
  let record ← repository.resolve git commit
  .ofExcept do
    let stamp ← Stamp.ofCommit record
    let header ← Rendered.header w layout.versionHeader stamp
    let grammar ← Rendered.grammar w layout.grammarFile stamp
    return ⟨commit, record, stamp, [header, grammar]⟩

/-! ## Writing

The files are written in their order.  A write that fails is the failure of the run if it is the
first; after another write it is told together with the file that was written, because the two
targets now disagree. -/

/-- What became of a target file. -/
inductive Status where
  | updated
  | unchanged
  /-- The file would be updated, in a run that writes nothing. -/
  | pending
  deriving DecidableEq, Repr

/-- The word for a status. -/
def Status.name : Status → String
  | updated => "updated"
  | unchanged => "unchanged"
  | pending => "pending"

/-- Writes the files in order.  `first` is the path of the first file written so far.  When a write
fails, the files before it stay written. -/
def writeAll (w : Workspace) (first : Option String) :
    List Rendered → Workspace × Except Failure (List Status)
  | [] => (w, .ok [])
  | r :: rest =>
    match r.write w with
    | .error failure =>
      match first with
      | none => (w, .error failure)
      | some updated => (w, .error (.partialWrite updated r.path failure))
    | .ok (w, true) =>
      let (w, statuses) := writeAll w (first.or (some r.path)) rest
      (w, statuses.map (.updated :: ·))
    | .ok (w, false) =>
      let (w, statuses) := writeAll w first rest
      (w, statuses.map (.unchanged :: ·))

/-- Carries a plan out. -/
def Plan.apply (plan : Plan) (w : Workspace) : Workspace × Except Failure (List Status) :=
  writeAll w none plan.rendered

/-- What carrying a plan out would do. -/
def Plan.foresee (plan : Plan) : List Status :=
  plan.rendered.map fun r => if r.isChanged then .pending else .unchanged

end VersionStamp
