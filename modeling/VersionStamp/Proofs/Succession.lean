/-
# VersionStamp.Proofs.Succession — runs for one commit after another

A checkout is brought to one commit, then to another, and so on.  What the last run leaves should
not tell which runs there were before it.  It does not, if assignments of different constants keep
apart in the grammar to begin with and no release version ends in `=`: then the last run alone
leaves the same files, and counts the same (`last_run_alone`).

What carries the induction over the runs is `Alike`.  A run leaves a grammar that substitutes like
the one it found, whatever it holds; and it leaves everything but the two targets as it was.
-/
import VersionStamp.Proofs.Refilling
import VersionStamp.Proofs.Running

namespace VersionStamp

open Workspace

theorem Layout.paths_eq {l l' : Layout} (same : l'.root = l.root) :
    l'.versionHeader = l.versionHeader ∧ l'.grammarFile = l.grammarFile := by
  rw [versionHeader, versionHeader, grammarFile, grammarFile, same]
  exact ⟨rfl, rfl⟩

namespace Update

/-! ## Runs one after another

A succession lists whom each run asks and for what; where it runs, and what it finds there, is what
the run before has left.  Only runs that succeed count, and the version they stamp must not read as
the beginning of an assignment. -/

/-- The stamp that a run is going to write. -/
def stamp (w : Workspace) (git : Git) (request : Request) : Except Failure Stamp := do
  let layout ← Layout.discover w (currentPath w) request.source
  let record ← layout.record git request.commit
  Stamp.ofCommit record

/-- One of several runs: whom it asks, and for what. -/
structure Errand where
  git : Git
  request : Request

/-- A real run that succeeds, with a release version that does not end in `=`. -/
structure Stamps (w : Workspace) (git : Git) (request : Request) : Prop where
  real : request.dryRun = false
  succeeds : (run w git request).result = .ok ()
  no_sign : ∀ s, stamp w git request = .ok s → s.release.toList.getLast? ≠ some '='

theorem stamps_of_release {w : Workspace} {git : Git} {request : Request} (version : String)
    (real : request.dryRun = false) (succeeds : (run w git request).result = .ok ())
    (told : (stamp w git request).map Stamp.release = .ok version)
    (no_sign : version.toList.getLast? ≠ some '=') : Stamps w git request := by
  refine ⟨real, succeeds, fun s made => ?_⟩
  rw [made] at told
  obtain rfl := Except.ok.inj told
  exact no_sign

/-- Runs that follow each other, and what the last of them leaves. -/
inductive Succession : Workspace → List Errand → Workspace → Prop
  | stay (w : Workspace) : Succession w [] w
  | step {w after : Workspace} {errand : Errand} {errands : List Errand}
      (stamps : Stamps w errand.git errand.request)
      (rest : Succession (next w errand.git errand.request) errands after) :
      Succession w (errand :: errands) after

variable {w before between after : Workspace} {git : Git} {request : Request}
  {layout layout' : Layout} {previous : Option String} {text text' : String} {plan : Plan}

theorem Finished.isInert (finished : Finished w git request layout previous text plan between after)
    (stamps : Stamps w git request) : plan.stamp.IsInert := by
  refine ⟨⟨plan.record, finished.made.accepted⟩, stamps.no_sign plan.stamp ?_⟩
  simp only [stamp, finished.discovered, finished.made.recorded, finished.made.accepted,
    bind, Except.bind]

theorem Finished.paths_eq
    (finished : Finished w git request layout previous text plan between after)
    (root : layout'.root = currentPath w) : layout.versionHeader = layout'.versionHeader ∧
      layout.grammarFile = layout'.grammarFile :=
  Layout.paths_eq ((Layout.root_eq_of_discover finished.discovered).trans root.symm)

/-! ## What runs leave to a later one

`Alike` compares a later workspace with the first one.  Its grammar need not be the same text; it
has to substitute like it, with every stamp.  A run keeps this, because what it has put into the
grammar leaves no trace in a second substitution, and by induction so do runs that follow each
other. -/

/-- A later run finds a grammar that substitutes like the text, and everything but the targets as it
was. -/
structure Alike (layout : Layout) (text : String) (w before : Workspace) : Prop where
  directories : SameDirectories w before
  grammar : ∃ text', before.readText layout.grammarFile = .ok text' ∧
    Constant.KeepApart text'.toList ∧
    ∀ s : Stamp, s.IsInert → substitute text' s = substitute text s
  elsewhere : ∀ loc, before.tree.node? loc ≠ w.tree.node? loc →
    w.locate layout.versionHeader = .ok loc ∨ w.locate layout.grammarFile = .ok loc

theorem Alike.refl (read : w.readText layout.grammarFile = .ok text)
    (apart : Constant.KeepApart text.toList) : Alike layout text w w :=
  ⟨.refl w, ⟨text, read, apart, fun _ _ => rfl⟩, fun _ differs => absurd rfl differs⟩

theorem Alike.currentPath_eq (alike : Alike layout text w before) :
    currentPath before = currentPath w := by
  rw [currentPath, currentPath, alike.directories.cwd]

/-- One more run leaves things alike. -/
theorem Alike.step (alike : Alike layout text w before) (root : layout.root = currentPath w)
    (stamps : Stamps before git request) : Alike layout text w (next before git request) := by
  obtain ⟨layout', previous, text', plan, between, after, finished⟩ :=
    exists_finished stamps.real stamps.succeeds
  have inert := finished.isInert stamps
  obtain ⟨header_eq, grammar_eq⟩ := finished.paths_eq (root.trans alike.currentPath_eq.symm)
  rw [finished.next_eq]
  constructor
  · exact alike.directories.trans finished.sameDirectories
  · obtain ⟨text'', read, apart, same⟩ := alike.grammar
    obtain rfl := Except.ok.inj (read.symm.trans (grammar_eq ▸ finished.made.read))
    refine ⟨_, grammar_eq ▸ finished.readText_grammar, ?_, fun s inert' => ?_⟩
    · rw [substitute_eq, String.toList_ofList]
      exact apart.substituteEach inert Constant.all
    · rw [substitute_of_substitute apart inert inert', same s inert']
  · intro loc differs
    by_cases this_run : after.tree.node? loc = before.tree.node? loc
    · exact alike.elsewhere loc (this_run ▸ differs)
    · rw [← header_eq, ← grammar_eq, ← locate_eq_ok_congr alike.directories,
        ← locate_eq_ok_congr alike.directories]
      exact finished.located_of_node?_ne this_run

theorem Succession.alike {errands : List Errand} (succession : Succession before errands after)
    (alike : Alike layout text w before) (root : layout.root = currentPath w) :
    Alike layout text w after := by
  induction succession with
  | stay _ => exact alike
  | step stamps _ ih => exact ih (alike.step root stamps)

theorem Succession.exists_header {errands : List Errand}
    (succession : Succession w errands before) (root : layout.root = currentPath w)
    (stamps : Stamps before git request) :
    ∃ previous loc, w.Holds layout.versionHeader previous ∧
      w.locate layout.versionHeader = .ok loc ∧ w.tree.node? loc ≠ some .directory := by
  have of_stamps : ∀ {git request}, Stamps w git request →
      ∃ previous loc, w.Holds layout.versionHeader previous ∧
        w.locate layout.versionHeader = .ok loc ∧ w.tree.node? loc ≠ some .directory := by
    intro git request stamps
    obtain ⟨layout', previous, _, plan, _, _, finished⟩ :=
      exists_finished stamps.real stamps.succeeds
    have header_eq := (finished.paths_eq root).1
    obtain ⟨loc, -, located, -, no_directory⟩ := finished.exists_locate
    rw [← header_eq]
    exact ⟨previous, loc, finished.made.holds, located, no_directory⟩
  cases succession with
  | stay _ => exact of_stamps stamps
  | step stamps _ => exact of_stamps stamps

/-! ## The last run

Alone, the last run finds the first text, and a header that can be written whether there is one or
not.  It makes the same stamp, renders what substitutes alike, and leaves the same bytes in both
places. -/

/-- What the last run leaves, and what it counts, is what it would have left and counted alone. -/
theorem last_run_alone {text : String} (apart : Constant.KeepApart text.toList) :
    (∀ s s' : Stamp, s.IsInert → s'.IsInert →
      substitute (substitute text s).1 s' = substitute text s') ∧
    ∀ {w before : Workspace} {errands : List Errand} {git : Git} {request : Request}
      {layout : Layout}, layout.root = currentPath w →
      w.readText layout.grammarFile = .ok text → Succession w errands before →
      Stamps before git request →
      (run w git request).result = .ok () ∧
      (∀ loc, (run w git request).tree.node? loc = (run before git request).tree.node? loc) ∧
      ∃ layout plan plan', (Plan.make before git layout request.commit).outcome = .ok plan ∧
        (run before git request).stdout =
          Report.complete layout request plan (plan.rendered.map Rendered.status) ∧
        (Plan.make w git layout request.commit).outcome = .ok plan' ∧
        (run w git request).stdout =
          Report.complete layout request plan' (plan'.rendered.map Rendered.status) ∧
        plan'.rendered.map Rendered.substitutions = plan.rendered.map Rendered.substitutions := by
  refine ⟨fun s s' => substitute_of_substitute apart, ?_⟩
  intro w before errands git request layout₀ root read succession stamps
  have alike := succession.alike (.refl read apart) root
  obtain ⟨previous₀, loc, holds, located, no_directory⟩ := succession.exists_header root stamps
  obtain ⟨layout, previous, text', plan, between, after, finished⟩ :=
    exists_finished stamps.real stamps.succeeds
  have inert := finished.isInert stamps
  obtain ⟨header_eq, grammar_eq⟩ := finished.paths_eq (root.trans alike.currentPath_eq.symm)
  rw [← header_eq] at holds located
  rw [← grammar_eq] at read
  obtain ⟨text'', read', -, same⟩ := alike.grammar
  obtain rfl := Except.ok.inj (read'.symm.trans (grammar_eq ▸ finished.made.read))
  have same := same plan.stamp inert
  -- The same plan, but for what the files held, is made from the files as they were at first.
  have discovered : Layout.discover w (currentPath w) request.source = .ok layout := by
    rw [← finished.discovered, Layout.discover_congr alike.directories, alike.currentPath_eq]
  have all_found : missing? plan.stamp Constant.all text.toList = none := by
    rw [missing?_all_eq, ← same, ← missing?_all_eq]
    exact finished.made.all_found
  have made := Plan.made_draw finished.made.recorded finished.made.accepted holds read all_found
  obtain ⟨succeeds, between', after', alone⟩ :=
    exists_finished_of_made stamps.real discovered made located no_directory
  refine ⟨succeeds, fun loc => ?_, layout, plan, _, Plan.make_eq_ok_iff.mpr ⟨_, _, finished.made⟩,
    finished.stdout_eq, Plan.make_eq_ok_iff.mpr ⟨_, _, made⟩, alone.stdout_eq, ?_⟩
  · obtain ⟨header, grammar, at_header, at_grammar, -⟩ := alone.exists_locate
    have at_header' := (locate_eq_ok_congr alike.directories _ _).mpr at_header
    have at_grammar' := (locate_eq_ok_congr alike.directories _ _).mpr at_grammar
    have kept : loc ≠ grammar → loc ≠ header →
        w.tree.node? loc = before.tree.node? loc := by
      intro no_grammar no_header
      by_contra differs
      rcases alike.elsewhere loc (Ne.symm differs) with here | here
      · rw [← header_eq, at_header] at here
        exact no_header (Except.ok.inj here).symm
      · rw [← grammar_eq, at_grammar] at here
        exact no_grammar (Except.ok.inj here).symm
    rw [alone.tree_eq, finished.tree_eq, alone.node?_eq at_header at_grammar,
      finished.node?_eq at_header' at_grammar']
    simp only [Plan.draw, same]
    split_ifs with here here
    · rfl
    · rfl
    · exact kept ‹_› here
  · rw [finished.made.rendered_eq]
    simp [Plan.draw, Rendered.headerAt, Rendered.grammarAt, same]

/-- A grammar in which the literal of a release version begins an assignment of its own. -/
def nested : String :=
  "ReleaseVersion = \"ReleaseVersion = \"ManifestDate = \"1\"\nManifestISODate = \"2\"\n"

/-- The grammar after a first run, to 2.0. -/
def restamped : Workspace := next (Sample.checkout nested) (Sample.git "2.0\n") Sample.request

/-- The grammar is brought to 3.0 by way of 2.0, and at once, with the same files in the end. -/
theorem last_run_alone_of_nested :
    Constant.KeepApart nested.toList ∧
      (Sample.checkout nested).readText "/down/internal/pikchr.y" = .ok nested ∧
      Stamps (Sample.checkout nested) (Sample.git "2.0\n") Sample.request ∧
      Stamps restamped (Sample.git "3.0\n") Sample.request ∧
      (run (Sample.checkout nested) (Sample.git "3.0\n") Sample.request).result = .ok () ∧
      ∀ loc, (run (Sample.checkout nested) (Sample.git "3.0\n") Sample.request).tree.node? loc =
        (run restamped (Sample.git "3.0\n") Sample.request).tree.node? loc := by
  have apart : Constant.KeepApart nested.toList := by decide +kernel
  have read : (Sample.checkout nested).readText "/down/internal/pikchr.y" = .ok nested := by
    decide +kernel
  have first : Stamps (Sample.checkout nested) (Sample.git "2.0\n") Sample.request :=
    stamps_of_release "2.0" rfl (by decide +kernel) (by decide +kernel) (by decide)
  have second : Stamps restamped (Sample.git "3.0\n") Sample.request :=
    stamps_of_release "3.0" rfl (by decide +kernel) (by decide +kernel) (by decide)
  have root : Layout.root ⟨"/down", "/pikchr"⟩ = currentPath (Sample.checkout nested) := by
    decide +kernel
  have history : Succession (Sample.checkout nested) [⟨Sample.git "2.0\n", Sample.request⟩]
      restamped := .step first (.stay restamped)
  obtain ⟨succeeds, same, -⟩ := (last_run_alone apart).2 root read history second
  exact ⟨apart, read, first, second, succeeds, same⟩

end Update

end VersionStamp
