/-
# VersionStamp.Proofs.SecondRun — a run after a run

After a run has brought both files up to date, a second one for the same commit should find nothing
to do.  It does exactly if the first has left the grammar *filled* (`IsFilled`): each constant is
assigned, and each assignment that is met has its value.

A run can leave a grammar that is not filled.  The literal of one constant can hold what begins an
assignment of another, and then the later of the two passes overwrites it: the first run counts the
assignment, and the second no longer finds it.  A release version that ends in `=` can bring
assignments into the text.  Where it does not, that a constant has vanished is all that can go
wrong; and none vanishes if assignments of different constants keep apart.
-/
import VersionStamp.Proofs.Agreement
import VersionStamp.Proofs.Overlap

namespace VersionStamp.Update

open Workspace

variable {w : Workspace} {git : Git} {request : Request}

/-- The run succeeds, changes nothing, and reports that both files are unchanged. -/
structure IsNoOp (w : Workspace) (git : Git) (request : Request) (layout : Layout) : Prop where
  succeeds : (run w git request).result = .ok ()
  tree_eq : (run w git request).tree = w.tree
  reports : ∃ plan, (Plan.make w git layout request.commit).outcome = .ok plan ∧
    (run w git request).stdout = Report.complete layout request plan [.unchanged, .unchanged]

/-- Where the header is up to date, a run is a no-op exactly if the grammar is filled. -/
theorem isNoOp_iff {layout : Layout} {record : CommitRecord} {s : Stamp} {text : String}
    (real : request.dryRun = false)
    (discovered : Layout.discover w (currentPath w) request.source = .ok layout)
    (recorded : layout.record git request.commit = .ok record)
    (accepted : Stamp.ofCommit record = .ok s)
    (header : w.readText layout.versionHeader = .ok (Header.content s))
    (grammar : w.readText layout.grammarFile = .ok text) :
    IsNoOp w git request layout ↔ IsFilled s text.toList := by
  rw [isFilled_iff]
  constructor
  · rintro ⟨succeeds, tree_eq, -⟩
    obtain ⟨layout', previous, text', plan, between, after, finished⟩ :=
      exists_finished real succeeds
    obtain rfl := Except.ok.inj (discovered.symm.trans finished.discovered)
    obtain rfl := Except.ok.inj (recorded.symm.trans finished.made.recorded)
    obtain rfl := Except.ok.inj (accepted.symm.trans finished.made.accepted)
    obtain rfl := Except.ok.inj (grammar.symm.trans finished.made.read)
    -- The tree is the same, so the grammar reads as what was rendered and as what it was.
    have unchanged : after = w := by
      rw [← finished.next_eq, next, tree_eq]
    have rendered := finished.readText_grammar
    rw [unchanged, grammar, Except.ok.injEq] at rendered
    refine ⟨?_, finished.made.all_found⟩
    have spelled := congrArg String.toList rendered
    rwa [substitute, String.toList_ofList, eq_comm] at spelled
  · rintro ⟨same, all_found⟩
    have settled : (substitute text s).1 = text := by
      rw [substitute]
      dsimp only
      rw [same, String.ofList_toList]
    have holds : w.Holds layout.versionHeader (some (Header.content s)) := header
    have made := Plan.make_eq_ok_iff.mpr
      ⟨_, _, Plan.made_draw recorded accepted holds grammar all_found⟩
    have no_change : ∀ r ∈ (Plan.draw layout request.commit record s (some (Header.content s))
        text).rendered, r.isChanged = false := by
      simp [Plan.draw, Rendered.isChanged, Rendered.headerAt, Rendered.grammarAt, settled]
    obtain ⟨result, tree, stdout⟩ :=
      run_of_apply real discovered made (writeAll_of_unchanged none no_change)
    exact ⟨result, tree, _, made, stdout⟩

/-- A second run is a no-op exactly if the grammar that the first has left is filled.  Unless the
release version ends in `=`, it is filled if each constant is still assigned in it, and that is so
if assignments of different constants kept apart in the grammar before. -/
theorem second_run_noop_iff (real : request.dryRun = false)
    (succeeded : (run w git request).result = .ok ()) :
    ∃ layout record stamp text text',
      Layout.discover w (currentPath w) request.source = .ok layout ∧
      layout.record git request.commit = .ok record ∧ Stamp.ofCommit record = .ok stamp ∧
      w.readText layout.grammarFile = .ok text ∧
      (next w git request).readText layout.grammarFile = .ok text' ∧
      (IsNoOp (next w git request) git request layout ↔ IsFilled stamp text'.toList) ∧
      (stamp.release.toList.getLast? ≠ some '=' →
        (IsFilled stamp text'.toList ↔ ∀ c : Constant, c.IsAssigned text'.toList) ∧
        (Constant.Separate text.toList → IsNoOp (next w git request) git request layout)) := by
  obtain ⟨layout, previous, text, plan, between, after, finished⟩ :=
    exists_finished real succeeded
  have accepted := finished.made.accepted
  have discovered : Layout.discover after (currentPath after) request.source = .ok layout := by
    rw [Layout.discover_congr finished.sameDirectories, currentPath, finished.sameDirectories.cwd]
    exact finished.discovered
  have noop_iff : IsNoOp after git request layout ↔
      IsFilled plan.stamp (substitute text plan.stamp).1.toList :=
    isNoOp_iff real discovered finished.made.recorded accepted finished.readText_header
      finished.readText_grammar
  refine ⟨layout, plan.record, plan.stamp, text, (substitute text plan.stamp).1,
    finished.discovered, finished.made.recorded, accepted, finished.made.read, ?_⟩
  rw [finished.next_eq]
  refine ⟨finished.readText_grammar, noop_iff, fun no_sign => ?_⟩
  have filled_iff := isFilled_iff_isAssigned fun c =>
    (carries_substitute accepted no_sign text c).assigned
  refine ⟨filled_iff, fun separate => noop_iff.mpr (filled_iff.mpr fun c => ?_)⟩
  have at_turn := (missing?_eq_none_iff Constant.nodup_all).mp finished.made.all_found c c.mem_all
  have present := isAssigned_of_textFor accepted no_sign at_turn
  have stays := isAssigned_substituteEach accepted no_sign separate present Constant.all
  rwa [substitute_eq, String.toList_ofList]

/-- A grammar in which the manifest date is assigned inside the literal of another constant. -/
def vanishing : String := "ReleaseVersion=\"x\"ManifestISODate = \"ManifestDate=\"\""

/-- The first run overwrites the manifest date, and the second does not find it. -/
theorem second_run_fails_of_vanishing :
    (run (Sample.checkout vanishing) (Sample.git "2.0\n") Sample.request).result = .ok () ∧
    (run (next (Sample.checkout vanishing) (Sample.git "2.0\n") Sample.request)
      (Sample.git "2.0\n") Sample.request).result =
        .error (.constantNotFound "/down/internal/pikchr.y" "ManifestDate") ∧
    ∃ layout record stamp text, Stamp.ofCommit record = .ok stamp ∧
      (next (Sample.checkout vanishing) (Sample.git "2.0\n") Sample.request).readText
        (Layout.grammarFile layout) = .ok text ∧ ¬ IsFilled stamp text.toList := by
  have succeeded : (run (Sample.checkout vanishing) (Sample.git "2.0\n")
      Sample.request).result = .ok () := by decide +kernel
  have failed : (run (next (Sample.checkout vanishing) (Sample.git "2.0\n") Sample.request)
      (Sample.git "2.0\n") Sample.request).result =
        .error (.constantNotFound "/down/internal/pikchr.y" "ManifestDate") := by decide +kernel
  obtain ⟨layout, record, stamp, -, text, -, -, accepted, -, read, noop_iff, -⟩ :=
    second_run_noop_iff rfl succeeded
  refine ⟨succeeded, failed, layout, record, stamp, text, accepted, read, fun filled => ?_⟩
  exact nomatch (noop_iff.mpr filled).succeeds.symm.trans failed

end VersionStamp.Update
