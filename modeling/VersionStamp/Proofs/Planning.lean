/-
# VersionStamp.Proofs.Planning — what a plan is made of

Making a plan asks git first and then only reads: the answers do not depend on the files, and the
files are those before the run.  `Plan.make` is taken apart here into the record that git gives
(`Layout.record`) and what is rendered from it (`Plan.render`), with one lemma for each rendered
file, so that nothing later has to unfold them.

A plan that is made knows the files it was made from (`Plan.Made`).  A plan that fails, fails for
one of the causes that a reader can be told plainly: nothing has been written that could be left
half done (`Failure.IsPlain`).
-/
import VersionStamp.Proofs.Substitution
import VersionStamp.Proofs.Walking
import VersionStamp.Update

namespace VersionStamp

/-! ## Failures before anything is written

Two kinds of failure are told in a way of their own: a write left half done, and a bare message.
Everything that can go wrong while a plan is made is of the other kinds. -/

/-- The cause is neither a write that was left half done nor a bare message. -/
def Failure.IsPlain : Failure → Prop
  | .partialWrite _ _ _ | .message _ _ _ => False
  | _ => True

theorem Failure.isPlain_attempting (purpose : String) (cause : IoError) :
    (Failure.attempting purpose cause).IsPlain := trivial

/-! ## Asking git

A conversation fails plainly if each of its parts does, and git's part is one call at a time.
Nothing is said here of what is asked, only of how it can go wrong. -/

namespace Conversation

variable {α β : Type}

theorem outcome_bind (first : Conversation α) (next : α → Conversation β) :
    (first >>= next).outcome = first.outcome >>= fun a => (next a).outcome := by
  change (Conversation.bind first next).outcome = _
  unfold Conversation.bind
  cases first.outcome with
  | error failure => rfl
  | ok a => rfl

/-- The conversation does not fail in another way than plainly. -/
def FailsPlainly (x : Conversation α) : Prop :=
  ∀ failure, x.outcome = .error failure → failure.IsPlain

theorem failsPlainly_bind {first : Conversation α} {next : α → Conversation β}
    (plain : first.FailsPlainly) (plain' : ∀ a, (next a).FailsPlainly) :
    (first >>= next).FailsPlainly := by
  intro failure failed
  rw [outcome_bind] at failed
  cases result : first.outcome with
  | error failure' =>
      rw [result] at failed
      obtain rfl := Except.error.inj failed
      exact plain _ result
  | ok a =>
      rw [result] at failed
      exact plain' a _ failed

theorem failsPlainly_pure (a : α) : (pure a : Conversation α).FailsPlainly := nofun

theorem failsPlainly_error {failure : Failure} (plain : failure.IsPlain) :
    (ofExcept (.error failure) : Conversation α).FailsPlainly := by
  intro failure' failed
  obtain rfl := Except.error.inj failed
  exact plain

end Conversation

open Conversation

theorem Git.failsPlainly_ask (git : Git) (purpose : String) (call : Call) :
    (git.ask purpose call).FailsPlainly := by
  intro failure failed
  unfold Git.ask at failed
  split at failed
  · split at failed
    · obtain rfl := Except.error.inj failed
      exact Failure.isPlain_attempting _ _
    · exact nomatch failed
  · obtain rfl := Except.error.inj failed
    exact Failure.isPlain_attempting _ _

namespace Repository

theorem failsPlainly_ofDirectory (git : Git) (path : String) :
    (ofDirectory git path).FailsPlainly := by
  refine failsPlainly_bind (git.failsPlainly_ask _ _) fun reply => ?_
  split
  · exact failsPlainly_pure _
  · split
    · exact failsPlainly_error (by trivial)
    · exact failsPlainly_error (by trivial)

theorem failsPlainly_commitId (r : Repository) (git : Git) (revision : String) :
    (r.commitId git revision).FailsPlainly :=
  failsPlainly_bind (git.failsPlainly_ask _ _) fun _ => failsPlainly_pure _

theorem failsPlainly_commitDate (r : Repository) (git : Git) (sha : String) :
    (r.commitDate git sha).FailsPlainly := by
  refine failsPlainly_bind (git.failsPlainly_ask _ _) fun reply => ?_
  split
  · exact failsPlainly_pure _
  · exact failsPlainly_error (by trivial)

theorem failsPlainly_fileAt (r : Repository) (git : Git) (sha file : String) :
    (r.fileAt git sha file).FailsPlainly :=
  failsPlainly_bind (git.failsPlainly_ask _ _) fun _ => failsPlainly_pure _

theorem failsPlainly_resolve (r : Repository) (git : Git) (revision : String) :
    (r.resolve git revision).FailsPlainly := by
  unfold resolve
  extract_lets told
  -- `told` is what follows when the id is known, or is known not to be there.
  have plain : ∀ found, (told found).FailsPlainly := by
    intro found
    cases found with
    | none => exact failsPlainly_error (by trivial)
    | some sha =>
        refine failsPlainly_bind (r.failsPlainly_commitDate git sha) fun _ => ?_
        exact failsPlainly_bind (r.failsPlainly_fileAt git sha versionFile) fun _ =>
          failsPlainly_pure _
  split
  · exact failsPlainly_bind (r.failsPlainly_commitId git revision) plain
  · exact failsPlainly_bind (failsPlainly_pure none) plain

end Repository

/-- What git tells about a commit of the source repository. -/
def Layout.record (l : Layout) (git : Git) (commit : String) : Except Failure CommitRecord :=
  (Repository.ofDirectory git l.source >>= fun repository => repository.resolve git commit).outcome

theorem Layout.isPlain_of_record {l : Layout} {git : Git} {commit : String} {failure : Failure}
    (failed : l.record git commit = .error failure) : failure.IsPlain :=
  failsPlainly_bind (Repository.failsPlainly_ofDirectory git l.source)
    (fun repository => repository.failsPlainly_resolve git commit) failure failed

/-! ## Rendering

Rendering a file reads it and computes the rest, so each file has one lemma for when it succeeds
and with what.  The header may be missing; a grammar may not, and it must have every constant. -/

/-- What is known of a file that is about to be written: its text, or that there is none. -/
def Workspace.Holds (w : Workspace) (path : String) : Option String → Prop
  | some text => w.readText path = .ok text
  | none => w.readText path = .error (.system .notFound)

variable {w : Workspace} {git : Git} {layout : Layout} {commit path text : String} {s : Stamp}
  {previous : Option String} {failure : Failure} {plan : Plan}

namespace Rendered

/-- The header as it is rendered. -/
def headerAt (path : String) (previous : Option String) (s : Stamp) : Rendered :=
  ⟨.header, path, previous, Header.content s, []⟩

/-- The grammar as it is rendered. -/
def grammarAt (path text : String) (s : Stamp) : Rendered :=
  ⟨.grammar, path, some text, (substitute text s).1, (substitute text s).2⟩

theorem content_grammarAt (path text : String) (s : Stamp) :
    (grammarAt path text s).content = (substitute text s).1 := by
  rw [grammarAt]

theorem header_eq_ok_iff {r : Rendered} :
    header w path s = .ok r ↔ ∃ previous, w.Holds path previous ∧ r = headerAt path previous s := by
  unfold header
  cases read : w.readText path with
  | ok text =>
      constructor
      · intro rendered
        exact ⟨some text, read, (Except.ok.inj rendered).symm⟩
      · rintro ⟨previous, holds, rfl⟩
        cases previous with
        | none => exact absurd (read.symm.trans holds) nofun
        | some text' =>
            obtain rfl := Except.ok.inj (read.symm.trans holds)
            rfl
  | error cause =>
      by_cases missing : cause = .system .notFound
      · subst missing
        constructor
        · intro rendered
          exact ⟨none, read, (Except.ok.inj rendered).symm⟩
        · rintro ⟨previous, holds, rfl⟩
          cases previous with
          | none => rfl
          | some text' => exact absurd (read.symm.trans holds) nofun
      · refine iff_of_false ?_ ?_
        · split
          · next same => exact absurd same nofun
          · next same => exact absurd (Except.error.inj same) missing
          · nofun
        · rintro ⟨previous, holds, -⟩
          cases previous with
          | none => exact missing (Except.error.inj (read.symm.trans holds))
          | some text' => exact absurd (read.symm.trans holds) nofun

theorem header_eq_error (failed : header w path s = .error failure) :
    ∃ purpose cause, failure = .attempting purpose cause := by
  unfold header at failed
  split at failed
  · exact nomatch failed
  · exact nomatch failed
  · exact ⟨_, _, (Except.error.inj failed).symm⟩

theorem grammar_of_readText (read : w.readText path = .ok text) :
    grammar w path s =
      match missing? s Constant.all text.toList with
      | some missing => .error (.constantNotFound path missing.constant.name)
      | none => .ok (grammarAt path text s) := by
  rw [missing?_all_eq, grammar, read, inAttemptAt_eq_mapError]
  cases found : (substitute text s).2.find? (·.replacements = 0) with
  | none => simp [Except.mapError, Bind.bind, Except.bind, grammarAt, found]
  | some missing => simp [Except.mapError, Bind.bind, Except.bind, found]

theorem grammar_eq_ok_iff {r : Rendered} :
    grammar w path s = .ok r ↔ ∃ text, w.readText path = .ok text ∧
      missing? s Constant.all text.toList = none ∧ r = grammarAt path text s := by
  cases read : w.readText path with
  | error cause =>
      refine iff_of_false ?_ ?_
      · unfold grammar
        rw [read]
        nofun
      · rintro ⟨text, found, -⟩
        exact nomatch found
  | ok text =>
      rw [grammar_of_readText read]
      cases all_found : missing? s Constant.all text.toList with
      | some missing =>
          refine iff_of_false nofun ?_
          rintro ⟨text', same, none_missing, -⟩
          obtain rfl := Except.ok.inj same
          exact nomatch all_found.symm.trans none_missing
      | none =>
          constructor
          · intro rendered
            exact ⟨text, rfl, all_found, (Except.ok.inj rendered).symm⟩
          · rintro ⟨text', same, -, rfl⟩
            obtain rfl := Except.ok.inj same
            rfl

theorem isPlain_of_grammar (failed : grammar w path s = .error failure) : failure.IsPlain := by
  cases read : w.readText path with
  | error cause =>
      unfold grammar at failed
      rw [read] at failed
      obtain rfl := Except.error.inj failed
      exact Failure.isPlain_attempting _ _
  | ok text =>
      rw [grammar_of_readText read] at failed
      split at failed
      · obtain rfl := Except.error.inj failed
        trivial
      · exact nomatch failed

end Rendered

/-! ## Plans

The plan is what git tells, put through the checks of the stamp and rendered for two files, in this
order.  `Made` gathers what is known once that has succeeded, and it is what later modules take a
plan apart with. -/

namespace Plan

/-- The plan for a commit of which git has told. -/
def render (w : Workspace) (layout : Layout) (commit : String) (record : CommitRecord) :
    Except Failure Plan := do
  let stamp ← Stamp.ofCommit record
  let header ← Rendered.header w layout.versionHeader stamp
  let grammar ← Rendered.grammar w layout.grammarFile stamp
  return ⟨commit, record, stamp, [header, grammar]⟩

/-- Git is asked first, and what it tells does not depend on the files. -/
theorem outcome_make (w : Workspace) (git : Git) (layout : Layout) (commit : String) :
    (make w git layout commit).outcome =
      layout.record git commit >>= render w layout commit := by
  unfold make Layout.record
  rw [outcome_bind, outcome_bind, bind_assoc]
  refine bind_congr fun repository => ?_
  rw [outcome_bind]
  rfl

/-- The plan is made from what git tells, from the header as it was before, if there was one, and
from the text of the grammar, in which every constant was found. -/
structure Made (w : Workspace) (git : Git) (layout : Layout) (commit : String)
    (previous : Option String) (text : String) (plan : Plan) : Prop where
  recorded : layout.record git commit = .ok plan.record
  accepted : Stamp.ofCommit plan.record = .ok plan.stamp
  holds : w.Holds layout.versionHeader previous
  read : w.readText layout.grammarFile = .ok text
  all_found : missing? plan.stamp Constant.all text.toList = none
  commit_eq : plan.commit = commit
  rendered_eq : plan.rendered =
    [.headerAt layout.versionHeader previous plan.stamp,
      .grammarAt layout.grammarFile text plan.stamp]

theorem make_eq_ok_iff : (make w git layout commit).outcome = .ok plan ↔
    ∃ previous text, Made w git layout commit previous text plan := by
  rw [outcome_make]
  simp only [render, bind_eq_ok_iff, Rendered.header_eq_ok_iff, Rendered.grammar_eq_ok_iff]
  constructor
  · rintro ⟨record, recorded, stamp, accepted, _, ⟨previous, holds, rfl⟩, _,
      ⟨text, read, all_found, rfl⟩, made⟩
    obtain rfl := Except.ok.inj made
    exact ⟨previous, text, recorded, accepted, holds, read, all_found, rfl, rfl⟩
  · rintro ⟨previous, text, made⟩
    refine ⟨plan.record, made.recorded, plan.stamp, made.accepted, _, ⟨previous, made.holds, rfl⟩,
      _, ⟨text, made.read, made.all_found, rfl⟩, ?_⟩
    rw [← made.rendered_eq, ← made.commit_eq]
    rfl

/-- The plan for a commit with this stamp, from the header and the grammar as they are now. -/
def draw (layout : Layout) (commit : String) (record : CommitRecord) (s : Stamp)
    (previous : Option String) (text : String) : Plan :=
  ⟨commit, record, s,
    [.headerAt layout.versionHeader previous s, .grammarAt layout.grammarFile text s]⟩

theorem made_draw {record : CommitRecord} (recorded : layout.record git commit = .ok record)
    (accepted : Stamp.ofCommit record = .ok s) (holds : w.Holds layout.versionHeader previous)
    (read : w.readText layout.grammarFile = .ok text)
    (all_found : missing? s Constant.all text.toList = none) :
    Made w git layout commit previous text (draw layout commit record s previous text) :=
  ⟨recorded, accepted, holds, read, all_found, rfl, rfl⟩

/-- Once the metadata is accepted and the grammar is read, a constant is reported if the header does
not stand in the way. -/
theorem make_eq_constantNotFound_iff {record : CommitRecord}
    (recorded : layout.record git commit = .ok record) (accepted : Stamp.ofCommit record = .ok s)
    (read : w.readText layout.grammarFile = .ok text) {name : String} :
    (make w git layout commit).outcome = .error (.constantNotFound layout.grammarFile name) ↔
      (∃ previous, w.Holds layout.versionHeader previous) ∧
        ∃ missing, missing? s Constant.all text.toList = some missing ∧
          missing.constant.name = name := by
  have rest : (make w git layout commit).outcome =
      Rendered.header w layout.versionHeader s >>= fun header =>
        Rendered.grammar w layout.grammarFile s >>= fun grammar =>
          pure ⟨commit, record, s, [header, grammar]⟩ := by
    rw [outcome_make, recorded]
    change Stamp.ofCommit record >>= _ = _
    rw [accepted]
    rfl
  rw [rest]
  -- The header is rendered first, and what stands in its way is never told as a missing constant.
  cases rendered : Rendered.header w layout.versionHeader s with
  | error failure =>
      obtain ⟨purpose, cause, rfl⟩ := Rendered.header_eq_error rendered
      refine iff_of_false nofun ?_
      rintro ⟨⟨previous, holds⟩, -⟩
      exact nomatch rendered.symm.trans (Rendered.header_eq_ok_iff.mpr ⟨previous, holds, rfl⟩)
  | ok header =>
      obtain ⟨previous, holds, -⟩ := Rendered.header_eq_ok_iff.mp rendered
      have readable : ∃ previous, w.Holds layout.versionHeader previous := ⟨previous, holds⟩
      rw [and_iff_right readable]
      change Rendered.grammar w layout.grammarFile s >>= _ = _ ↔ _
      rw [Rendered.grammar_of_readText read]
      cases missing? s Constant.all text.toList with
      | none => exact iff_of_false nofun nofun
      | some missing =>
          constructor
          · intro failed
            exact ⟨missing, rfl, (Failure.constantNotFound.inj (Except.error.inj failed)).2⟩
          · rintro ⟨missing', same, rfl⟩
            obtain rfl := Option.some.inj same
            rfl

/-- A plan that cannot be made fails plainly, since nothing has been written yet. -/
theorem isPlain_of_make (failed : (make w git layout commit).outcome = .error failure) :
    failure.IsPlain := by
  rw [outcome_make] at failed
  simp only [render, bind_eq_error_iff] at failed
  rcases failed with untold | ⟨record, -, rejected | ⟨stamp, -, no_header |
    ⟨header, -, no_grammar | ⟨grammar, -, made⟩⟩⟩⟩
  · exact Layout.isPlain_of_record untold
  · rcases Stamp.ofCommit_eq_error rejected with rfl | rfl
    · trivial
    · trivial
  · obtain ⟨purpose, cause, rfl⟩ := Rendered.header_eq_error no_header
    exact Failure.isPlain_attempting purpose cause
  · exact Rendered.isPlain_of_grammar no_grammar
  · exact nomatch made

end Plan

end VersionStamp
