/-
# VersionStamp.Update — one run of the program

A run finds the layout around the current directory, makes a plan, and carries it out or, in a dry
run, only shows it.  A run that fails prints nothing more; what it has printed by then stays
printed.
-/
import VersionStamp.Report

namespace VersionStamp

/-- What a run is asked to do. -/
structure Request where
  commit : String
  source : Option String
  dryRun : Bool
  json : Bool
  deriving DecidableEq, Repr

/-- What a run did: the calls to git, the files it left, what it printed, and how it ended. -/
structure Outcome where
  calls : List Call
  tree : FileTree
  stdout : String
  result : Except Failure Unit

namespace Update

/-- The current directory as a path.  The system is taken to know it, and to name it by a text. -/
def currentPath (w : Workspace) : String := "/" ++ "/".intercalate w.cwd

/-- What a run does once it has a plan: the statuses, the files, and what it prints on the way. -/
def carryOut (w : Workspace) (layout : Layout) (request : Request) (plan : Plan) :
    Workspace × Except Failure (List Status) × String :=
  if request.dryRun then
    (w, .ok plan.foresee, String.join (plan.rendered.map (Report.foreseen layout)))
  else
    let (w, statuses) := plan.apply w
    match statuses with
    | .error failure => (w, .error failure, "")
    | .ok statuses =>
      (w, .ok statuses, String.join (plan.rendered.zipWith (Report.done layout) statuses))

/-- Runs the program. -/
def run (w : Workspace) (git : Git) (request : Request) : Outcome :=
  let say (text : String) : String := if request.json then "" else text
  match Layout.discover w (currentPath w) request.source with
  | .error failure => ⟨[], w.tree, "", .error failure⟩
  | .ok layout =>
    let conversation := Plan.make w git layout request.commit
    let opening := say (Report.opening layout)
    match conversation.outcome with
    | .error failure => ⟨conversation.calls, w.tree, opening, .error failure⟩
    | .ok plan =>
      let (after, result, shown) := carryOut w layout request plan
      let told := opening ++ say (Report.commit plan) ++ say shown
      match result with
      | .error failure => ⟨conversation.calls, after.tree, told, .error failure⟩
      | .ok statuses =>
        let last :=
          if request.json then (Report.json layout plan request.dryRun statuses).pretty ++ "\n"
          else if request.dryRun then Report.dryRunClosing
          else Report.closing
        ⟨conversation.calls, after.tree, told ++ last, .ok ()⟩

end Update

end VersionStamp
