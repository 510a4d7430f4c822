/-
# VersionStamp.Proofs.Agreement — both target files carry one stamp

After a run that has written, the header is the three definitions of the stamp, and the grammar
assigns no other values than those of the stamp, wherever a reader of the file begins to look.
This holds whatever the grammar held before, however many assignments it has and however they
overlap, unless the release version ends in `=`: then it can itself be read as the beginning of an
assignment.
-/
import VersionStamp.Proofs.Running

namespace VersionStamp

open Workspace

theorem Header.content_eq (s : Stamp) : Header.content s =
    "#define RELEASE_VERSION \"" ++ s.release ++ "\"\n" ++
    "#define MANIFEST_DATE \"" ++ s.manifestDate ++ "\"\n" ++
    "#define MANIFEST_ISODATE \"" ++ s.manifestIsoDate ++ "\"\n" := by
  apply String.toList_injective
  simp [content, define, toString]

/-- The text assigns nothing to a constant but the value of the stamp: not where a scan from left to
right finds an assignment, and nowhere else. -/
structure Carries (s : Stamp) (cs : List Char) (c : Constant) : Prop where
  met : ∃ met, Constant.Scan c.name.toList cs met ∧ ∀ f ∈ met, f.literal = (c.value s).toList
  assigned : ∀ literal, Constant.Assigns c.name.toList literal cs → literal = (c.value s).toList

theorem carries_substitute {s : Stamp} {record : CommitRecord}
    (accepted : Stamp.ofCommit record = .ok s) (no_sign : s.release.toList.getLast? ≠ some '=')
    (text : String) (c : Constant) : Carries s (substitute text s).1.toList c := by
  rw [substitute, String.toList_ofList]
  have assigned : ∀ literal, Constant.Assigns c.name.toList literal
      (substituteEach s Constant.all text.toList).1 → literal = (c.value s).toList :=
    fun _ => eq_of_assigns_substitute accepted no_sign
  have scan := (Constant.scan_iff c (substituteEach s Constant.all text.toList).1 _).mpr rfl
  exact ⟨⟨_, scan, fun f mem => assigned f.literal (scan.assigns f mem)⟩, assigned⟩

namespace Update

variable {w : Workspace} {git : Git} {request : Request}

/-- After a real run that succeeds, the header is the three definitions, and the grammar carries
the same values for every constant, unless the release version ends in `=`. -/
theorem targets_agree_of_run_ok (real : request.dryRun = false)
    (succeeded : (run w git request).result = .ok ()) :
    ∃ layout record stamp text, Layout.discover w (currentPath w) request.source = .ok layout ∧
      layout.record git request.commit = .ok record ∧ Stamp.ofCommit record = .ok stamp ∧
      (next w git request).readText layout.versionHeader = .ok (
        "#define RELEASE_VERSION \"" ++ stamp.release ++ "\"\n" ++
        "#define MANIFEST_DATE \"" ++ stamp.manifestDate ++ "\"\n" ++
        "#define MANIFEST_ISODATE \"" ++ stamp.manifestIsoDate ++ "\"\n") ∧
      (next w git request).readText layout.grammarFile = .ok text ∧
      (stamp.release.toList.getLast? ≠ some '=' → ∀ c, Carries stamp text.toList c) := by
  obtain ⟨layout, previous, text, plan, between, after, finished⟩ := exists_finished real succeeded
  have accepted := finished.made.accepted
  refine ⟨layout, plan.record, plan.stamp, (substitute text plan.stamp).1, finished.discovered,
    finished.made.recorded, accepted, ?_, ?_, ?_⟩
  · rw [finished.next_eq, finished.readText_header, Header.content_eq]
  · rw [finished.next_eq, finished.readText_grammar]
  · intro no_sign c
    exact carries_substitute accepted no_sign text c

/-- A grammar that ends in a comment with two assignments, of which one begins inside the other. -/
def overlapping : String :=
  "ReleaseVersion = \"1\"\nManifestDate = \"2\"\nManifestISODate = \"3\"\n" ++
    "// ReleaseVersion = \"ManifestDate = \"4\"\n"

theorem targets_agree_of_overlapping :
    ∃ layout stamp text, stamp.release = "2.0" ∧
      (next (Sample.checkout overlapping) (Sample.git "2.0\n") Sample.request).readText
        (Layout.grammarFile layout) = .ok text ∧ ∀ c, Carries stamp text.toList c := by
  have succeeded : (run (Sample.checkout overlapping) (Sample.git "2.0\n")
      Sample.request).result = .ok () := by decide +kernel
  obtain ⟨layout, record, stamp, text, discovered, recorded, accepted, -, read, carries⟩ :=
    targets_agree_of_run_ok rfl succeeded
  have told : ((Layout.discover (Sample.checkout overlapping)
        (currentPath (Sample.checkout overlapping)) Sample.request.source).bind fun layout =>
      (layout.record (Sample.git "2.0\n") Sample.request.commit).bind fun record =>
      (Stamp.ofCommit record).map Stamp.release) = .ok "2.0" := by decide +kernel
  have release : stamp.release = "2.0" := by
    simpa [discovered, recorded, accepted, Except.bind, Except.map] using told
  exact ⟨layout, stamp, text, release, read, carries (by rw [release]; decide)⟩

end Update

end VersionStamp
