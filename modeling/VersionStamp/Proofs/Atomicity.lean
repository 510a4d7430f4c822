/-
# VersionStamp.Proofs.Atomicity — a run does everything or nothing

A run that fails leaves the tree as it was, and the process ends with 3 if the metadata or the
grammar is not of the expected form, and with 2 otherwise.  A failure in the middle is not among
the ways to end: that a file was written and the other could not be, is a cause that no run
reports.

Any run, also one that succeeds, makes and removes no directory, changes two places at most, and
makes one file at most: the header.
-/
import VersionStamp.Program
import VersionStamp.Proofs.Running

namespace VersionStamp

open Workspace

namespace Update

/-- The places of the two target files. -/
def headerPlace (w : Workspace) : Location := w.cwd ++ ["c", "VERSION.h"]

@[inherit_doc headerPlace]
def grammarPlace (w : Workspace) : Location := w.cwd ++ ["internal", "pikchr.y"]

variable {w between after : Workspace} {git : Git} {request : Request} {layout : Layout}
  {previous : Option String} {text : String} {plan : Plan} {loc : Location}

section Places

variable (proper : ∀ name ∈ w.cwd, IsEntryName name)
  (discovered : Layout.discover w (currentPath w) request.source = .ok layout)
include proper discovered

theorem eq_headerPlace (located : w.locate layout.versionHeader = .ok loc) :
    loc = headerPlace w := by
  rw [Layout.versionHeader, Layout.root_eq_of_discover discovered] at located
  exact eq_of_locate_beneath proper (by decide) (by decide) (by decide) located

theorem eq_grammarPlace (located : w.locate layout.grammarFile = .ok loc) :
    loc = grammarPlace w := by
  rw [Layout.grammarFile, Layout.root_eq_of_discover discovered] at located
  exact eq_of_locate_beneath proper (by decide) (by decide) (by decide) located

end Places

/-- What a run can do to a tree. -/
structure Touches (w : Workspace) (tree : FileTree) : Prop where
  /-- No directory is made, and none is removed. -/
  directory_iff : ∀ loc, tree.node? loc = some .directory ↔ w.tree.node? loc = some .directory
  /-- What has changed is a target file. -/
  changed : ∀ loc, tree.node? loc ≠ w.tree.node? loc → loc = headerPlace w ∨ loc = grammarPlace w
  /-- What has come into being is the header. -/
  created : ∀ loc, w.tree.node? loc = none → tree.node? loc ≠ none → loc = headerPlace w

theorem Touches.refl (w : Workspace) : Touches w w.tree :=
  ⟨fun _ => Iff.rfl, fun _ differs => absurd rfl differs, fun _ none_there some_there =>
    absurd none_there some_there⟩

theorem Finished.touches
    (finished : Finished w git request layout previous text plan between after)
    (proper : ∀ name ∈ w.cwd, IsEntryName name) : Touches w after.tree where
  directory_iff := finished.sameDirectories.directory_iff
  changed := by
    intro loc differs
    rcases finished.located_of_node?_ne differs with header | grammar
    · exact .inl (eq_headerPlace proper finished.discovered header)
    · exact .inr (eq_grammarPlace proper finished.discovered grammar)
  created := by
    intro loc none_there some_there
    rcases finished.located_of_node?_ne (none_there ▸ some_there) with header | grammar
    · exact eq_headerPlace proper finished.discovered header
    · -- The grammar has been read, so it was there.
      obtain ⟨loc', bytes, located, at_loc, -⟩ := readText_eq_ok_iff.mp finished.made.read
      obtain rfl := Except.ok.inj (grammar.symm.trans located)
      exact nomatch none_there.symm.trans at_loc

/-- A run that fails has left everything as it was, the failure is told plainly, and the process
ends with the number of its class.  No run touches more than the target files; the places are named
for a current directory as the system gives it, by the names of its entries. -/
theorem run_all_or_nothing (w : Workspace) (git : Git) (request : Request) :
    (∀ failure, (run w git request).result = .error failure →
      (run w git request).tree = w.tree ∧
      (∀ updated stale cause, failure ≠ .partialWrite updated stale cause) ∧
      (∀ text hint contexts, failure ≠ .message text hint contexts) ∧
      ∀ arguments, CommandLine.read arguments = .ok (.run request) →
        (Program.run w git arguments).exitCode =
          match failure with
          | .malformedDate _ | .invalidReleaseVersion _ | .constantNotFound _ _ => 3
          | _ => 2) ∧
    ((∀ name ∈ w.cwd, IsEntryName name) → Touches w (run w git request).tree) := by
  constructor
  · intro failure failed
    rcases run_cases w git request with ⟨failure', failed', plain, tree_eq⟩ | ⟨succeeded, -⟩
    · obtain rfl := Except.error.inj (failed'.symm.trans failed)
      refine ⟨tree_eq, ?_, ?_, ?_⟩
      · rintro updated stale cause rfl
        exact plain
      · rintro text hint contexts rfl
        exact plain
      · intro arguments understood
        have ended : (Program.run w git arguments).exitCode = failure'.exitCode.toNat := by
          simp [Program.run, understood, failed']
        rw [ended]
        cases failure' with
        | partialWrite _ _ _ => exact plain.elim
        | message _ _ _ => exact plain.elim
        | _ => rfl
    · exact nomatch succeeded.symm.trans failed
  · intro proper
    rcases run_cases w git request with ⟨-, -, -, tree_eq⟩ |
      ⟨-, ⟨-, tree_eq⟩ | ⟨-, _, _, _, _, _, _, finished⟩⟩
    · rw [tree_eq]
      exact .refl w
    · rw [tree_eq]
      exact .refl w
    · rw [finished.tree_eq]
      exact finished.touches proper

/-- A grammar that lacks two constants is left alone, and the header is not made. -/
theorem nothing_done_without_constants :
    let w := Sample.checkout "ReleaseVersion = \"1.0\"\n"
    (∀ name ∈ w.cwd, IsEntryName name) ∧
      (run w (Sample.git "2.0\n") Sample.request).tree = w.tree ∧
      (Program.run w (Sample.git "2.0\n") ["HEAD"]).exitCode = 3 ∧
      Touches w (run w (Sample.git "2.0\n") Sample.request).tree := by
  intro w
  have proper : ∀ name ∈ w.cwd, IsEntryName name := by decide
  have failed : (run w (Sample.git "2.0\n") Sample.request).result =
      .error (.constantNotFound "/down/internal/pikchr.y" "ManifestDate") := by decide +kernel
  have understood : CommandLine.read ["HEAD"] = .ok (.run Sample.request) := by rfl
  obtain ⟨failing, touches⟩ := run_all_or_nothing w (Sample.git "2.0\n") Sample.request
  obtain ⟨same, -, -, exits⟩ := failing _ failed
  exact ⟨proper, same, exits _ understood, touches proper⟩

end Update

end VersionStamp
