/-
# VersionStamp.Proofs.Resuming — running again after a write that failed

When the grammar cannot be written after the header was, nothing is rolled back.  The operator is
told which file is stale, to mend the cause, and to run again.  What such a run has left is the tree
in which the header alone is written.

The plan made from that tree differs from the one that was broken off in one thing only: the header
is known to have its new text (`Rendered.settled`).  So what is left to do is the same write of the
same grammar, and both ways end in one tree (`Plan.resume_after_header`).
-/
import VersionStamp.Proofs.Running

namespace VersionStamp

open Workspace

namespace Rendered

/-- The file as it is rendered once it has its new text. -/
def settled (r : Rendered) : Rendered := { r with previous := some r.content }

@[simp] theorem isChanged_settled (r : Rendered) : r.settled.isChanged = false := by
  simp [settled, isChanged]

theorem write_settled (w : Workspace) (r : Rendered) : r.settled.write w = .ok (w, false) := by
  rw [write, isChanged_settled]
  rfl

end Rendered

variable {w between : Workspace} {git : Git} {layout : Layout} {commit text : String}
  {previous : Option String} {plan : Plan} {header grammar : Rendered} {wrote : Bool}

theorem writeAll_pair_of_write_error (written : header.write w = .ok (between, wrote))
    {r : Rendered} {cause : Failure} (failed : r.write between = .error cause) :
    writeAll w none [header, r] = (between,
      .error (if wrote then .partialWrite header.path r.path cause else cause)) := by
  cases wrote with
  | true => simp [writeAll, written, failed, Except.map]
  | false => simp [writeAll, written, failed, Except.map]

/-! ## What is left of a plan

A plan is made from what can be read, and after the header is written all of that reads as before
but for the header itself.  So the plan that is made then is known without making it
(`Made.remaining`), and carrying out either plan ends with the same write to the grammar
(`apply_remaining`). -/

namespace Plan

/-- What is left of a plan once its header is written. -/
def remaining (plan : Plan) (header grammar : Rendered) : Plan :=
  { plan with rendered := [header.settled, grammar] }

theorem Made.eq_of_rendered (made : Made w git layout commit previous text plan)
    (rendered : plan.rendered = [header, grammar]) :
    header = .headerAt layout.versionHeader previous plan.stamp ∧
      grammar = .grammarAt layout.grammarFile text plan.stamp := by
  simpa [made.rendered_eq, eq_comm] using rendered

theorem Made.remaining (made : Made w git layout commit previous text plan)
    (rendered : plan.rendered = [header, grammar])
    (written : header.write w = .ok (between, wrote)) :
    Made between git layout commit (some (Header.content plan.stamp)) text
      (plan.remaining header grammar) := by
  obtain ⟨rfl, rfl⟩ := made.eq_of_rendered rendered
  obtain ⟨brought, -⟩ := apply_of_write made written
  exact ⟨made.recorded, made.accepted, brought.readText_eq made.holds,
    made.readText_grammar brought, made.all_found, made.commit_eq, rfl⟩

theorem apply_remaining (made : Made w git layout commit previous text plan)
    (rendered : plan.rendered = [header, grammar])
    (written : header.write w = .ok (between, wrote)) :
    ∃ after, (plan.remaining header grammar).apply between =
        (after, .ok [.unchanged, grammar.status]) ∧
      plan.apply w = (after, .ok [header.status, grammar.status]) := by
  have rest := made.remaining rendered written
  obtain ⟨rfl, rfl⟩ := made.eq_of_rendered rendered
  obtain ⟨-, after, second, -, applied⟩ := apply_of_write made written
  obtain ⟨-, after', second', -, applied'⟩ := apply_of_write rest
    (Rendered.write_settled between (.headerAt layout.versionHeader previous plan.stamp))
  -- It is one and the same write, so it ends in one tree.
  have same : after' = after := (Prod.mk.inj (Except.ok.inj (second'.symm.trans second))).1
  refine ⟨after, ?_, ?_⟩
  · rw [applied', same]
    simp [Plan.remaining, Rendered.status]
  · rw [applied, rendered]
    rfl

/-- A plan made where only the header of another was written finds the header up to date and the
same grammar to write, and it ends in the tree in which the first plan would have ended.  A second
write that fails has left just the tree to start from, whichever file it was to write. -/
theorem resume_after_header (planned : (make w git layout commit).outcome = .ok plan)
    (rendered : plan.rendered = [header, grammar]) (stale : grammar.isChanged = true)
    (written : header.write w = .ok (between, wrote)) :
    (make between git layout commit).outcome = .ok (plan.remaining header grammar) ∧
    (plan.remaining header grammar).rendered.map Rendered.isChanged = [false, true] ∧
    (∃ after, (plan.remaining header grammar).apply between =
        (after, .ok [.unchanged, .updated]) ∧
      plan.apply w = (after, .ok [header.status, .updated])) ∧
    ∀ r cause, r.write between = .error cause → writeAll w none [header, r] =
      (between, .error (if wrote then .partialWrite header.path r.path cause else cause)) := by
  obtain ⟨previous, text, made⟩ := make_eq_ok_iff.mp planned
  refine ⟨make_eq_ok_iff.mpr ⟨_, _, made.remaining rendered written⟩, ?_, ?_,
    fun r cause => writeAll_pair_of_write_error written⟩
  · simp [Plan.remaining, stale]
  · obtain ⟨after, rest, whole⟩ := apply_remaining made rendered written
    have updated : grammar.status = .updated := by simp [Rendered.status, stale]
    rw [updated] at rest whole
    exact ⟨after, rest, whole⟩

/-- A checkout with a header and a grammar of an older version. -/
def outdated : Workspace where
  tree := (Sample.checkout
    "ReleaseVersion = \"1.0\"\nManifestDate = \"x\"\nManifestISODate = \"y\"\n").tree.place
      ["down", "c", "VERSION.h"] (Text.bytes "old\n")
  cwd := ["down"]

/-- Both files of the checkout are to be written, and a plan that finds the first one written ends
where the first plan would have. -/
theorem resume_outdated : ∃ header grammar between after plan,
    (make outdated (Sample.git "2.0\n") ⟨"/down", "/pikchr"⟩ "HEAD").outcome = .ok plan ∧
    plan.rendered = [header, grammar] ∧ grammar.isChanged = true ∧
    header.write outdated = .ok (between, true) ∧
    (make between (Sample.git "2.0\n") ⟨"/down", "/pikchr"⟩ "HEAD").outcome =
      .ok (plan.remaining header grammar) ∧
    (plan.remaining header grammar).apply between = (after, .ok [.unchanged, .updated]) ∧
    plan.apply outdated = (after, .ok [.updated, .updated]) := by
  have both : (make outdated (Sample.git "2.0\n") ⟨"/down", "/pikchr"⟩ "HEAD").outcome.map
      (fun plan => plan.rendered.map fun r => (r.isChanged, (r.write outdated).map Prod.snd)) =
        .ok [(true, .ok true), (true, .ok true)] := by decide +kernel
  cases planned : (make outdated (Sample.git "2.0\n") ⟨"/down", "/pikchr"⟩ "HEAD").outcome with
  | error failure => exact nomatch planned ▸ both
  | ok plan =>
      obtain ⟨previous, text, made⟩ := make_eq_ok_iff.mp planned
      have rendered := made.rendered_eq
      generalize Rendered.headerAt _ _ _ = header at rendered
      generalize Rendered.grammarAt _ _ _ = grammar at rendered
      simp only [planned, rendered, Except.map, List.map_cons, List.map_nil, Except.ok.injEq,
        List.cons.injEq, Prod.mk.injEq] at both
      obtain ⟨⟨changed, can_write⟩, ⟨stale, -⟩, -⟩ := both
      cases written : header.write outdated with
      | error failure => exact nomatch written ▸ can_write
      | ok result =>
          obtain ⟨between, wrote⟩ := result
          obtain rfl : wrote = true := by simpa [written, Except.map] using can_write
          obtain ⟨planned', -, ⟨after, rest, whole⟩, -⟩ :=
            resume_after_header planned rendered stale written
          have updated : header.status = .updated := by simp [Rendered.status, changed]
          exact ⟨header, grammar, between, after, plan, rfl, rendered, stale, written, planned',
            rest, updated ▸ whole⟩

end Plan

namespace Update

/-- Running again where only the header of a plan was written ends as the whole run would have. -/
theorem run_after_header {request : Request} (real : request.dryRun = false)
    (discovered : Layout.discover w (currentPath w) request.source = .ok layout)
    (planned : (Plan.make w git layout request.commit).outcome = .ok plan)
    (rendered : plan.rendered = [header, grammar])
    (written : header.write w = .ok (between, wrote)) :
    (run between git request).result = .ok () ∧
    (run between git request).tree = (run w git request).tree ∧
    (run between git request).stdout =
      Report.complete layout request (plan.remaining header grammar)
        [.unchanged, grammar.status] := by
  obtain ⟨previous, text, made⟩ := Plan.make_eq_ok_iff.mp planned
  have made' := made.remaining rendered written
  obtain ⟨after, rest, whole⟩ := Plan.apply_remaining made rendered written
  have same : SameDirectories w between := by
    obtain ⟨rfl, -⟩ := made.eq_of_rendered rendered
    exact (Plan.apply_of_write made written).1.sameDirectories
  have discovered' : Layout.discover between (currentPath between) request.source = .ok layout := by
    rw [Layout.discover_congr same, currentPath, same.cwd]
    exact discovered
  obtain ⟨-, tree, -⟩ := run_of_apply real discovered planned whole
  obtain ⟨result, tree', stdout⟩ :=
    run_of_apply real discovered' (Plan.make_eq_ok_iff.mpr ⟨_, _, made'⟩) rest
  exact ⟨result, tree'.trans tree.symm, stdout⟩

end Update

end VersionStamp
