/-
# VersionStamp.Proofs.Foresight — what a dry run tells of the real run

A dry run makes the same plan and does not carry it out.  It asks git the same questions and fails
for the same reasons, except one: it cannot see that the header will not be written.

What it tells of a file is `Foretold`: the file is pending if the real run reports it as updated,
which is so if its bytes are then others than they were, or if it was not there.  The status comes
from comparing texts, and the bytes are what the run leaves; they agree because a file that is read
as text is the bytes of that text.
-/
import VersionStamp.Proofs.Running

namespace VersionStamp

open Workspace

/-! ## Texts and bytes

Statuses come from texts that were decoded, and files are bytes.  Decoding loses nothing where it
succeeds, so two texts differ exactly if their bytes do. -/

theorem Text.bytes_inj {s t : String} (same : bytes s = bytes t) : s = t := by
  have spelled := text?_bytes s
  rw [same, text?_bytes] at spelled
  exact (Option.some.inj spelled).symm

namespace Workspace

variable {w w' : Workspace} {path text : String} {previous : Option String}

theorem readBytes_of_readText (read : w.readText path = .ok text) :
    w.readBytes path = .ok (Text.bytes text) := by
  obtain ⟨loc, bytes, located, at_loc, spells⟩ := readText_eq_ok_iff.mp read
  simp [readBytes, located, at_loc, Text.bytes_of_text? spells, bind, Except.bind]

theorem readBytes_of_missing (missing : w.readText path = .error (.system .notFound)) :
    w.readBytes path = .error (.system .notFound) := by
  unfold readText at missing
  rcases bind_eq_error_iff.mp missing with unread | ⟨bytes, -, unspelled⟩
  · exact unread
  · split at unspelled
    · exact nomatch unspelled
    · exact nomatch unspelled

end Workspace

namespace Rendered

variable {w after : Workspace} {r : Rendered}

theorem isChanged_iff_readBytes_ne (holds : w.Holds r.path r.previous)
    (read : after.readText r.path = .ok r.content) :
    r.isChanged = true ↔ after.readBytes r.path ≠ w.readBytes r.path := by
  rw [readBytes_of_readText read, isChanged, decide_eq_true_iff]
  cases previous : r.previous with
  | none =>
      rw [previous] at holds
      rw [readBytes_of_missing holds]
      simp
  | some text =>
      rw [previous] at holds
      rw [readBytes_of_readText holds]
      refine not_congr ⟨fun same => ?_, fun same => ?_⟩
      · rw [Option.some.inj same]
      · rw [Text.bytes_inj (Except.ok.inj same)]

end Rendered

/-! ## What is foretold

Both runs make the same plan.  For each of its files the status that the dry run gives and the one
that the real run gives are read off the same comparison. -/

/-- What a dry run tells of a file, and what a real run tells of it and does to it. -/
structure Foretold (w after : Workspace) (r : Rendered) (dry real : Status) : Prop where
  pending_iff_updated : dry = .pending ↔ real = .updated
  updated_iff_differs : real = .updated ↔ after.readBytes r.path ≠ w.readBytes r.path
  unchanged_otherwise : dry ≠ .pending → dry = .unchanged ∧ real = .unchanged
  written : after.readBytes r.path = .ok (Text.bytes r.content)

theorem foretold_of_readText {w after : Workspace} {r : Rendered}
    (holds : w.Holds r.path r.previous) (read : after.readText r.path = .ok r.content) :
    Foretold w after r r.foreseen r.status := by
  have changed_iff := Rendered.isChanged_iff_readBytes_ne holds read
  have written := readBytes_of_readText read
  unfold Rendered.foreseen Rendered.status
  cases changed : r.isChanged with
  | true =>
      have differs := changed_iff.mp changed
      exact ⟨by simp, by simpa using differs, by simp, written⟩
  | false =>
      have same : after.readBytes r.path = w.readBytes r.path := by
        simpa [changed] using changed_iff
      exact ⟨by simp, by simpa using same, by simp, written⟩

namespace Update

variable {w between after : Workspace} {git : Git} {request : Request} {layout : Layout}
  {previous : Option String} {text : String} {plan : Plan}

/-- The statuses that a dry run foresees are those of a run that finishes. -/
theorem Finished.foretold
    (finished : Finished w git request layout previous text plan between after)
    {r : Rendered} (mem : r ∈ plan.rendered) : Foretold w after r r.foreseen r.status := by
  rw [finished.made.rendered_eq] at mem
  rcases List.mem_pair.mp mem with rfl | rfl
  · exact foretold_of_readText finished.made.holds finished.readText_header
  · refine foretold_of_readText finished.made.read ?_
    rw [Rendered.content_grammarAt]
    exact finished.readText_grammar

/-- A dry run writes nothing, asks git the same, and fails only if the real run fails the same way.
If it does not fail, the real run fails at most to write the header, and otherwise does to each file
what the dry run has told of it. -/
theorem dry_run_foretells (w : Workspace) (git : Git) (request : Request) :
    let dry := run w git { request with dryRun := true }
    let real := run w git { request with dryRun := false }
    dry.tree = w.tree ∧ dry.calls = real.calls ∧
    (∀ failure, dry.result = .error failure → real.result = .error failure) ∧
    (dry.result = .ok () →
      (∃ layout cause, Layout.discover w (currentPath w) request.source = .ok layout ∧
        real.result = .error (.attempting s!"Failed to write {layout.versionHeader}" cause)) ∨
      real.result = .ok () ∧ ∃ layout plan, planned w git request = .ok (layout, plan) ∧
        dry.stdout = Report.preview layout { request with dryRun := true } plan
          (plan.rendered.map Rendered.foreseen) ∧
        real.stdout = Report.complete layout { request with dryRun := false } plan
          (plan.rendered.map Rendered.status) ∧
        plan.rendered.map Rendered.path = [layout.versionHeader, layout.grammarFile] ∧
        ∀ r ∈ plan.rendered, Foretold w { w with tree := real.tree } r r.foreseen r.status) := by
  intro dry real
  have same_calls : dry.calls = real.calls := calls_run_congr rfl rfl
  -- Both runs have the same plan, or none; only the real one goes on to write.
  cases made : planned w git request with
  | error failure =>
      have unplanned : dry.result = .error failure ∧ dry.tree = w.tree := run_of_unplanned made
      have unplanned' : real.result = .error failure ∧ real.tree = w.tree := run_of_unplanned made
      refine ⟨unplanned.2, same_calls, ?_, ?_⟩
      · intro failure' failed
        rw [← failed, unplanned.1, unplanned'.1]
      · intro succeeded
        exact nomatch succeeded.symm.trans unplanned.1
  | ok drawn =>
      obtain ⟨layout, plan⟩ := drawn
      obtain ⟨succeeded, tree, preview⟩ :
          dry.result = .ok () ∧ dry.tree = w.tree ∧ dry.stdout =
            Report.preview layout { request with dryRun := true } plan
              (plan.rendered.map Rendered.foreseen) := run_of_dry rfl made
      refine ⟨tree, same_calls, ?_, fun _ => ?_⟩
      · intro failure failed
        exact nomatch succeeded.symm.trans failed
      obtain ⟨discovered, plan_made⟩ := planned_eq_ok_iff.mp made
      obtain ⟨previous, text, of_files⟩ := Plan.make_eq_ok_iff.mp plan_made
      rcases Plan.apply_cases of_files with ⟨cause, failed⟩ |
        ⟨between, after, header, grammar, applied⟩
      · have stuck : real.result = .error _ ∧ real.tree = w.tree :=
          run_of_apply_error rfl made failed
        exact .inl ⟨layout, cause, discovered, stuck.1⟩
      · obtain ⟨result, real_tree, complete⟩ :
            real.result = .ok () ∧ real.tree = after.tree ∧ real.stdout =
              Report.complete layout { request with dryRun := false } plan
                (plan.rendered.map Rendered.status) :=
          run_of_apply rfl discovered plan_made applied
        have finished : Finished w git { request with dryRun := false } layout previous text plan
            between after := ⟨discovered, of_files, header, grammar, real_tree, complete⟩
        refine .inr ⟨result, layout, plan, rfl, preview, complete, ?_, fun r mem => ?_⟩
        · rw [of_files.rendered_eq]
          rfl
        · have after_eq : { w with tree := real.tree } = after := finished.next_eq
          rw [after_eq]
          exact finished.foretold mem

/-- A checkout without a header, where the grammar is up to date. -/
def headless : Workspace := Sample.checkout
  ("ReleaseVersion = \"2.0\"\nManifestDate = \"2025-03-05 00:29:51\"\n" ++
    "ManifestISODate = \"20250305\"\n")

/-- The header is pending and is then made; the grammar is unchanged. -/
theorem headless_foretold :
    (run headless (Sample.git "2.0\n") { Sample.request with dryRun := false }).result = .ok () ∧
    ∃ plan : Plan,
      plan.rendered.map Rendered.foreseen = [.pending, .unchanged] ∧
      plan.rendered.map Rendered.status = [.updated, .unchanged] ∧
      ∀ r ∈ plan.rendered, Foretold headless
        (next headless (Sample.git "2.0\n") { Sample.request with dryRun := false })
        r r.foreseen r.status := by
  have changes : (planned headless (Sample.git "2.0\n") Sample.request).map
      (fun drawn => drawn.2.rendered.map Rendered.isChanged) = .ok [true, false] := by
    decide +kernel
  have succeeded : (run headless (Sample.git "2.0\n")
      { Sample.request with dryRun := false }).result = .ok () := by decide +kernel
  refine ⟨succeeded, ?_⟩
  generalize headless = w at *
  generalize Sample.git "2.0\n" = git at *
  obtain ⟨-, -, fails, foretells⟩ := dry_run_foretells w git Sample.request
  cases dry : (run w git { Sample.request with dryRun := true }).result with
  | error failure => exact nomatch succeeded.symm.trans (fails failure dry)
  | ok done =>
      rcases foretells dry with ⟨layout, cause, -, failed⟩ |
        ⟨-, layout, plan, made, -, -, -, foretold⟩
      · exact nomatch succeeded.symm.trans failed
      · rw [made] at changes
        have changed := Except.ok.inj changes
        refine ⟨plan, ?_, ?_, foretold⟩
        · have foreseen := congrArg (List.map fun c => if c then Status.pending else .unchanged)
            changed
          rw [List.map_map] at foreseen
          exact foreseen
        · have status := congrArg (List.map fun c => if c then Status.updated else .unchanged)
            changed
          rw [List.map_map] at status
          exact status

end Update

end VersionStamp
