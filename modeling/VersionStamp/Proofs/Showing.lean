/-
# VersionStamp.Proofs.Showing — the change that is shown is the change that is made

What a dry run shows of a file is a patch from the text that stands there to the one that a real run
leaves.  The patch is right about every line.  It can be wrong about line numbers, though only in a
hunk that begins or ends with changes of one kind at the start or the end of both texts
(`misnumbered_hunk`).
-/
import VersionStamp.Proofs.Diffing
import VersionStamp.Proofs.Foresight

namespace VersionStamp

open Patch Workspace

/-- The change of a target file is shown by what is printed of it.  A file that does not exist
counts as empty. -/
theorem Rendered.shows_diff (r : Rendered) (label : String) :
    Shows label (r.previous.getD "") r.content (r.diff label) :=
  Diff.shows_unified label (r.previous.getD "") r.content

namespace Update

variable {w : Workspace} {git : Git} {request : Request} {layout : Layout} {plan : Plan}
  {r : Rendered}

/-- A dry run prints the change of every file that would change. -/
theorem exists_stdout_of_dry (made : planned w git request = .ok (layout, plan))
    (mem : r ∈ plan.rendered) (changed : r.isChanged = true) :
    ∃ before after, (run w git { request with dryRun := true, json := false }).stdout =
      before ++ r.diff (Report.pathOf layout r) ++ after := by
  obtain ⟨-, -, stdout_eq⟩ :=
    @run_of_dry w git { request with dryRun := true, json := false } layout plan rfl made
  have shown : Report.shown layout r r.foreseen ∈
      plan.rendered.zipWith (Report.shown layout) (plan.rendered.map Rendered.foreseen) := by
    rw [List.zipWith_map_right, List.zipWith_self]
    exact List.mem_map_of_mem mem
  obtain ⟨front, back, split⟩ := List.append_of_mem shown
  have pending : r.foreseen = .pending := by rw [Rendered.foreseen, if_pos changed]
  rw [stdout_eq, Report.preview, if_neg (by simp), split, pending, Report.shown, String.join_append,
    String.join_cons]
  exact ⟨Report.opening layout ++ Report.commit plan ++ (String.join front ++
    s!"📝 {Report.pathOf layout r} ({r.target.name}):\n"), "\n" ++ String.join back ++
      Report.dryRunClosing, by simp only [String.append_assoc]⟩

/-- What a plan shows is the change from the file as it stands to the file as a real run leaves
it. -/
theorem holds_and_readText (made : planned w git request = .ok (layout, plan))
    (mem : r ∈ plan.rendered) :
    w.Holds r.path r.previous ∧
      ((run w git { request with dryRun := false }).result = .ok () →
        (next w git { request with dryRun := false }).readText r.path = .ok r.content) := by
  obtain ⟨discovered, plan_made⟩ := planned_eq_ok_iff.mp made
  obtain ⟨previous, text, of_files⟩ := Plan.make_eq_ok_iff.mp plan_made
  have holds : w.Holds r.path r.previous := by
    rw [of_files.rendered_eq] at mem
    rcases List.mem_pair.mp mem with rfl | rfl
    · exact of_files.holds
    · exact of_files.read
  refine ⟨holds, fun succeeded => ?_⟩
  rcases Plan.apply_cases of_files with ⟨cause, failed⟩ | ⟨between, after, header, grammar, applied⟩
  · have stuck : (run w git { request with dryRun := false }).result = .error _ ∧ _ :=
      run_of_apply_error rfl made failed
    exact nomatch succeeded.symm.trans stuck.1
  · have ⟨_, tree_eq, stdout_eq⟩ :
        (run w git { request with dryRun := false }).result = .ok () ∧ _ ∧ _ :=
      run_of_apply rfl discovered plan_made applied
    have finished : Finished w git { request with dryRun := false } layout previous text plan
        between after := ⟨discovered, of_files, header, grammar, tree_eq, stdout_eq⟩
    rw [finished.next_eq]
    rw [of_files.rendered_eq] at mem
    rcases List.mem_pair.mp mem with rfl | rfl
    · exact finished.readText_header
    · rw [Rendered.content_grammarAt]
      exact finished.readText_grammar

/-- A grammar that assigns the version twice, the second time as it is to be. -/
def repeated : String :=
  "ManifestDate = \"2025-03-05 00:29:51\"; ManifestISODate = \"20250305\"\n" ++
    "ReleaseVersion = \"1.0\"\nReleaseVersion = \"2.0\"\n"

end Update

end VersionStamp
