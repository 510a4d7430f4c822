/-
# VersionStamp.Proofs.Running — how a run ends

A run ends in one of three ways (`Update.run_cases`): it fails plainly and leaves the files as they
were; it was a dry run, and leaves them too; or it has finished (`Update.Finished`), with a plan
that was made from the files before it and both files brought to their new texts.

Which plan there is, and what git is asked for it, does not depend on whether the run writes
(`Update.planned`, `Update.calls_run_congr`); each way to go on from there has its lemma, which says
what is left and what is printed.  What a finished run leaves to be read is what was rendered.
-/
import VersionStamp.Proofs.Writing

namespace VersionStamp

open Workspace

/-- All that a run prints that writes its files and comes to its end. -/
def Report.complete (layout : Layout) (request : Request) (plan : Plan) (statuses : List Status) :
    String :=
  if request.json then (Report.json layout plan request.dryRun statuses).pretty ++ "\n"
  else
    Report.opening layout ++ Report.commit plan ++
      String.join (plan.rendered.zipWith (Report.done layout) statuses) ++ Report.closing

/-- What becomes of a file in a dry run. -/
def Rendered.foreseen (r : Rendered) : Status := if r.isChanged then .pending else .unchanged

/-- What a dry run shows of one target file, going by its status. -/
def Report.shown (layout : Layout) (r : Rendered) : Status → String
  | .pending =>
    s!"📝 {pathOf layout r} ({r.target.name}):\n" ++ r.diff (pathOf layout r) ++ "\n"
  | .updated | .unchanged => upToDate layout r

theorem Report.foreseen_eq (layout : Layout) (r : Rendered) :
    foreseen layout r = shown layout r r.foreseen := by
  unfold foreseen Rendered.foreseen
  split
  · rfl
  · rfl

/-- All that a dry run prints that comes to its end. -/
def Report.preview (layout : Layout) (request : Request) (plan : Plan) (statuses : List Status) :
    String :=
  if request.json then (Report.json layout plan request.dryRun statuses).pretty ++ "\n"
  else
    Report.opening layout ++ Report.commit plan ++
      String.join (plan.rendered.zipWith (Report.shown layout) statuses) ++ Report.dryRunClosing

namespace Update

/-- What a run leaves to the next one, which starts in the same directory. -/
def next (w : Workspace) (git : Git) (request : Request) : Workspace :=
  { w with tree := (run w git request).tree }

variable {w between after : Workspace} {git : Git} {request : Request} {layout : Layout}
  {previous : Option String} {text : String} {plan : Plan} {statuses : List Status}
  {loc : Location} {failure : Failure}

/-! ## From the plan on

A run first makes its plan, and only then looks at whether it may write.  There are four ways to go
on: without a plan it fails, dry it prints what it would do, and real it either carries the plan
out or stops where a write fails.  Each way has a lemma for the result, the files and what is
printed; the calls to git are over by then and are the same for all of them. -/

/-- What a run is going to do, and where: this much does not depend on whether it writes. -/
def planned (w : Workspace) (git : Git) (request : Request) : Except Failure (Layout × Plan) := do
  let layout ← Layout.discover w (currentPath w) request.source
  let plan ← (Plan.make w git layout request.commit).outcome
  return (layout, plan)

theorem planned_eq_ok_iff : planned w git request = .ok (layout, plan) ↔
    Layout.discover w (currentPath w) request.source = .ok layout ∧
      (Plan.make w git layout request.commit).outcome = .ok plan := by
  simp only [planned, bind_eq_ok_iff]
  constructor
  · rintro ⟨layout', discovered, plan', made, same⟩
    obtain ⟨rfl, rfl⟩ := Prod.mk.inj (Except.ok.inj same)
    exact ⟨discovered, made⟩
  · rintro ⟨discovered, made⟩
    exact ⟨layout, discovered, plan, made, rfl⟩

theorem run_of_unplanned (unplanned : planned w git request = .error failure) :
    (run w git request).result = .error failure ∧ (run w git request).tree = w.tree := by
  simp only [planned, bind_eq_error_iff] at unplanned
  rcases unplanned with undiscovered | ⟨layout, discovered, unmade | ⟨plan, -, nothing⟩⟩
  · simp [run, undiscovered]
  · simp [run, discovered, unmade]
  · exact nomatch nothing

theorem isPlain_of_unplanned (unplanned : planned w git request = .error failure) :
    failure.IsPlain := by
  simp only [planned, bind_eq_error_iff] at unplanned
  rcases unplanned with undiscovered | ⟨layout, -, unmade | ⟨plan, -, nothing⟩⟩
  · unfold Layout.discover at undiscovered
    dsimp only at undiscovered
    split at undiscovered
    · exact nomatch undiscovered
    · obtain rfl := Except.error.inj undiscovered
      trivial
  · exact Plan.isPlain_of_make unmade
  · exact nomatch nothing

theorem run_of_apply_error (real : request.dryRun = false)
    (made : planned w git request = .ok (layout, plan))
    (failed : plan.apply w = (after, .error failure)) :
    (run w git request).result = .error failure ∧ (run w git request).tree = after.tree := by
  obtain ⟨discovered, made⟩ := planned_eq_ok_iff.mp made
  simp [run, discovered, made, carryOut, real, failed]

/-- A dry run with a plan comes to its end, and tells what it would do. -/
theorem run_of_dry (dry : request.dryRun = true)
    (made : planned w git request = .ok (layout, plan)) :
    (run w git request).result = .ok () ∧ (run w git request).tree = w.tree ∧
      (run w git request).stdout =
        Report.preview layout request plan (plan.rendered.map Rendered.foreseen) := by
  obtain ⟨discovered, made⟩ := planned_eq_ok_iff.mp made
  have shown : plan.rendered.map (Report.foreseen layout) =
      plan.rendered.zipWith (Report.shown layout) (plan.rendered.map Rendered.foreseen) := by
    rw [List.zipWith_map_right, List.zipWith_self]
    exact List.map_congr_left fun r _ => Report.foreseen_eq layout r
  have carried : carryOut w layout request plan = (w, .ok (plan.rendered.map Rendered.foreseen),
      String.join (plan.rendered.zipWith (Report.shown layout)
        (plan.rendered.map Rendered.foreseen))) := by
    rw [carryOut, if_pos dry, shown]
    rfl
  unfold run Report.preview
  simp only [discovered, made, carried, dry]
  cases request.json with
  | true => simp
  | false => simp

theorem run_of_apply (real : request.dryRun = false)
    (discovered : Layout.discover w (currentPath w) request.source = .ok layout)
    (made : (Plan.make w git layout request.commit).outcome = .ok plan)
    (applied : plan.apply w = (after, .ok statuses)) :
    (run w git request).result = .ok () ∧ (run w git request).tree = after.tree ∧
      (run w git request).stdout = Report.complete layout request plan statuses := by
  have carried : carryOut w layout request plan = (after, .ok statuses,
      String.join (plan.rendered.zipWith (Report.done layout) statuses)) := by
    simp [carryOut, real, applied]
  unfold run Report.complete
  simp only [discovered, made, carried, real]
  cases request.json with
  | true => simp
  | false => simp

theorem calls_run_of_undiscovered {failure : Failure}
    (undiscovered : Layout.discover w (currentPath w) request.source = .error failure) :
    (run w git request).calls = [] := by
  simp only [run, undiscovered]

theorem calls_run (discovered : Layout.discover w (currentPath w) request.source = .ok layout) :
    (run w git request).calls = (Plan.make w git layout request.commit).calls := by
  simp only [run, discovered]
  cases (Plan.make w git layout request.commit).outcome with
  | error failure => rfl
  | ok plan =>
      dsimp only
      cases (carryOut w layout request plan).2.1 with
      | error failure => rfl
      | ok statuses => rfl

theorem calls_run_congr {request' : Request} (commit : request'.commit = request.commit)
    (source : request'.source = request.source) :
    (run w git request').calls = (run w git request).calls := by
  cases discovered : Layout.discover w (currentPath w) request.source with
  | error failure =>
      rw [calls_run_of_undiscovered discovered, calls_run_of_undiscovered (source ▸ discovered)]
  | ok layout => rw [calls_run discovered, calls_run (source ▸ discovered), commit]

/-! ## Runs that have finished

A real run that succeeds has a plan that was made from the files before it and two writes, and
`Finished` collects what is known of them.  Everything that is said of the files after a run is
drawn from it: what the targets read as, where they stand, and that nothing else has changed. -/

/-- A run that writes its files has come to its end. -/
structure Finished (w : Workspace) (git : Git) (request : Request) (layout : Layout)
    (previous : Option String) (text : String) (plan : Plan) (between after : Workspace) :
    Prop where
  discovered : Layout.discover w (currentPath w) request.source = .ok layout
  made : Plan.Made w git layout request.commit previous text plan
  header : Brought w (.headerAt layout.versionHeader previous plan.stamp) between
  grammar : Brought between (.grammarAt layout.grammarFile text plan.stamp) after
  tree_eq : (run w git request).tree = after.tree
  stdout_eq : (run w git request).stdout =
    Report.complete layout request plan (plan.rendered.map Rendered.status)

theorem run_cases (w : Workspace) (git : Git) (request : Request) :
    (∃ failure, (run w git request).result = .error failure ∧ failure.IsPlain ∧
      (run w git request).tree = w.tree) ∨
    (run w git request).result = .ok () ∧
      (request.dryRun = true ∧ (run w git request).tree = w.tree ∨
        request.dryRun = false ∧ ∃ layout previous text plan between after,
          Finished w git request layout previous text plan between after) := by
  cases made : planned w git request with
  | error failure =>
      obtain ⟨failed, tree⟩ := run_of_unplanned made
      exact .inl ⟨failure, failed, isPlain_of_unplanned made, tree⟩
  | ok drawn =>
      obtain ⟨layout, plan⟩ := drawn
      cases real : request.dryRun with
      | true =>
          obtain ⟨result, tree, -⟩ := run_of_dry real made
          exact .inr ⟨result, .inl ⟨rfl, tree⟩⟩
      | false =>
          obtain ⟨discovered, plan_made⟩ := planned_eq_ok_iff.mp made
          obtain ⟨previous, text, of_files⟩ := Plan.make_eq_ok_iff.mp plan_made
          rcases Plan.apply_cases of_files with ⟨cause, failed⟩ |
            ⟨between, after, header, grammar, applied⟩
          · obtain ⟨result, tree⟩ := run_of_apply_error real made failed
            exact .inl ⟨_, result, Failure.isPlain_attempting _ cause, tree⟩
          · obtain ⟨result, tree, stdout⟩ := run_of_apply real discovered plan_made applied
            exact .inr ⟨result, .inr ⟨rfl, layout, previous, text, plan, between, after,
              discovered, of_files, header, grammar, tree, stdout⟩⟩

theorem exists_finished (real : request.dryRun = false)
    (succeeded : (run w git request).result = .ok ()) :
    ∃ layout previous text plan between after,
      Finished w git request layout previous text plan between after := by
  rcases run_cases w git request with ⟨failure, failed, -⟩ | ⟨-, ⟨dry, -⟩ | ⟨-, finished⟩⟩
  · exact nomatch succeeded.symm.trans failed
  · exact nomatch real.symm.trans dry
  · exact finished

/-- A real run with a plan for a header that can be written comes to its end. -/
theorem exists_finished_of_made (real : request.dryRun = false)
    (discovered : Layout.discover w (currentPath w) request.source = .ok layout)
    (made : Plan.Made w git layout request.commit previous text plan)
    (located : w.locate layout.versionHeader = .ok loc)
    (no_directory : w.tree.node? loc ≠ some .directory) :
    (run w git request).result = .ok () ∧
      ∃ between after, Finished w git request layout previous text plan between after := by
  obtain ⟨front, split⟩ := layout.exists_segments_versionHeader
  obtain ⟨between, written⟩ := @Rendered.exists_write_of_locate w
    (.headerAt layout.versionHeader previous plan.stamp) front _ loc split
    Layout.isFileName_header located no_directory
  obtain ⟨header, after, -, grammar, applied⟩ := Plan.apply_of_write made written
  obtain ⟨result, tree, stdout⟩ :=
    run_of_apply real discovered (Plan.make_eq_ok_iff.mpr ⟨_, _, made⟩) applied
  exact ⟨result, between, after, discovered, made, header, grammar, tree, stdout⟩

namespace Finished

variable (finished : Finished w git request layout previous text plan between after)
include finished

theorem sameDirectories : SameDirectories w after :=
  finished.header.sameDirectories.trans finished.grammar.sameDirectories

theorem next_eq : next w git request = after := by
  rw [next, finished.tree_eq, ← finished.sameDirectories.cwd]

theorem readText_header :
    after.readText layout.versionHeader = .ok (Header.content plan.stamp) := by
  have written : between.readText layout.versionHeader = .ok (Header.content plan.stamp) :=
    finished.header.readText_eq finished.made.holds
  obtain ⟨loc, -, located, -⟩ := readText_eq_ok_iff.mp written
  refine finished.grammar.readText_of_ne located (fun loc' located' => ?_) written
  exact (Layout.ne_of_locate_targets located located').symm

theorem readText_between : between.readText layout.grammarFile = .ok text :=
  finished.made.readText_grammar finished.header

theorem readText_grammar :
    after.readText layout.grammarFile = .ok (substitute text plan.stamp).1 := by
  rw [← Rendered.content_grammarAt layout.grammarFile]
  exact finished.grammar.readText_eq finished.readText_between

theorem exists_locate : ∃ header grammar, w.locate layout.versionHeader = .ok header ∧
    w.locate layout.grammarFile = .ok grammar ∧ w.tree.node? header ≠ some .directory := by
  obtain ⟨header, at_header, no_directory⟩ := finished.header.exists_locate finished.made.holds
  obtain ⟨grammar, -, at_grammar, -⟩ := readText_eq_ok_iff.mp finished.made.read
  exact ⟨header, grammar, at_header, at_grammar, no_directory⟩

theorem node?_eq {header grammar : Location}
    (at_header : w.locate layout.versionHeader = .ok header)
    (at_grammar : w.locate layout.grammarFile = .ok grammar) (loc : Location) :
    after.tree.node? loc =
      if loc = grammar then some (.file (Text.bytes (substitute text plan.stamp).1))
      else if loc = header then some (.file (Text.bytes (Header.content plan.stamp)))
      else w.tree.node? loc := by
  have at_grammar' := (locate_eq_ok_congr finished.header.sameDirectories _ _).mpr at_grammar
  rw [finished.grammar.node?_eq finished.readText_between at_grammar',
    finished.header.node?_eq finished.made.holds at_header, Rendered.content_grammarAt]
  rfl

theorem located_of_node?_ne (differs : after.tree.node? loc ≠ w.tree.node? loc) :
    w.locate layout.versionHeader = .ok loc ∨ w.locate layout.grammarFile = .ok loc := by
  by_cases first : between.tree.node? loc = w.tree.node? loc
  · rw [← first] at differs
    have located := finished.grammar.locate_of_node?_ne differs
    exact .inr ((locate_eq_ok_congr finished.header.sameDirectories _ _).mp located)
  · exact .inl (finished.header.locate_of_node?_ne first)

end Finished

end Update

/-! ## A checkout to run in

The runs that are written out behind the theorems all start from a checkout with one grammar,
beside a repository with one commit. -/

namespace Sample

/-- A repository with one commit, whose version file has this text. -/
def git (version : String) : Git := .present fun call =>
  match call.query with
  | ["rev-parse", "--is-inside-work-tree"] => ⟨0, Text.bytes "true\n", .empty⟩
  | ["rev-parse", "--verify", "--quiet", _] => ⟨0, Text.bytes "c0ffee\n", .empty⟩
  | ["show", "-s", "--format=%ci", _] => ⟨0, Text.bytes "2025-03-05 00:29:51 +0000\n", .empty⟩
  | _ => ⟨0, Text.bytes version, .empty⟩

/-- A downstream checkout beside the repository, with this grammar and no header yet. -/
def checkout (grammar : String) : Workspace where
  tree := ((FileTree.empty.makeDirectory ["pikchr"]).makeDirectory ["down", "c"]).place
    ["down", "internal", "pikchr.y"] (Text.bytes grammar)
  cwd := ["down"]

/-- The files are to be brought up to date with the newest commit. -/
def request : Request := ⟨"HEAD", none, false, false⟩

end Sample

end VersionStamp
