/-
# VersionStamp.Proofs.Answers — which answers of git a run goes by

A run asks git four questions: whether the source directory is inside a work tree, which commit is
meant, when it was made, and what its version file holds.  A negative answer should end the run
before anything is written.  The answers are positive (`IsPositive`) if git says `true`, names a
commit, tells its date, and shows the version file or says that the commit has none.

Two negative answers do not end a run (`Update.answers_of_run`).  Of the first question only the
exit status is looked at, so `false` passes for `true`, as git says it of a bare repository.  Of the
last question every failure passes for a missing file, whatever git says, and the release version is
then the default.
-/
import VersionStamp.Proofs.Running

namespace VersionStamp

/-! ## Questions and answers

Each question has its call and a way to read the reply, and a lemma that says when asking it
succeeds and with what.  Once git has replied, a question fails by the exit status at most, or by
an empty id; the rest of a reply is read and not judged. -/

/-- Git is there, the call can be made, and this is the reply. -/
def Git.Answers (git : Git) (call : Call) (reply : Reply) : Prop :=
  call.isPossible = true ∧ ∃ replies, git = .present replies ∧ replies call = reply

variable {git : Git} {call : Call} {reply reply' : Reply} {purpose path revision sha : String}
  {record : CommitRecord}

theorem Git.Answers.unique (answers : git.Answers call reply) (answers' : git.Answers call reply') :
    reply' = reply := by
  obtain ⟨-, replies, rfl, rfl⟩ := answers
  obtain ⟨-, replies', same, rfl⟩ := answers'
  rw [Git.present.inj same]

theorem Git.ask_eq_ok_iff :
    (git.ask purpose call).outcome = .ok reply ↔ git.Answers call reply := by
  unfold ask Answers
  by_cases possible : call.isPossible = true
  · rw [if_pos possible]
    cases git with
    | absent => simp [possible]
    | present replies => simp [possible]
  · simp [possible]

namespace Repository

open Conversation

/-- Whether the path is inside a work tree. -/
def insideQuery (path : String) : Call := ⟨path, ["rev-parse", "--is-inside-work-tree"]⟩

/-- Which commit a revision names. -/
def idQuery (path revision : String) : Call :=
  ⟨path, ["rev-parse", "--verify", "--quiet", revision ++ "^\x7bcommit\x7d"]⟩

/-- When a commit was made. -/
def dateQuery (path sha : String) : Call := ⟨path, ["show", "-s", "--format=%ci", sha]⟩

/-- What the version file of a commit holds. -/
def versionQuery (path sha : String) : Call := ⟨path, ["show", s!"{sha}:{versionFile}"]⟩

/-- The id of a commit in a reply. -/
def idIn (reply : Reply) : String := Text.trimmed (Text.lossyText reply.stdout)

/-- The date of a commit in a reply. -/
def dateIn (reply : Reply) : String :=
  String.ofList (Text.trim (Text.firstLine (Text.lossyText reply.stdout).toList))

/-- The content of a file in a reply, if git shows one. -/
def contentIn (reply : Reply) : Option ByteArray :=
  if reply.succeeded then some reply.stdout else none

theorem ofDirectory_eq_ok_iff {r : Repository} : (ofDirectory git path).outcome = .ok r ↔
    ∃ inside, git.Answers (insideQuery path) inside ∧ inside.succeeded = true ∧ r = ⟨path⟩ := by
  unfold ofDirectory
  simp only [outcome_bind, bind_eq_ok_iff, Git.ask_eq_ok_iff]
  refine exists_congr fun inside => and_congr Iff.rfl ?_
  by_cases succeeded : inside.succeeded = true
  · rw [if_pos succeeded]
    simp [succeeded, pure, eq_comm]
  · rw [if_neg succeeded]
    refine iff_of_false ?_ fun h => succeeded h.1
    split
    · nofun
    · nofun

theorem commitId_eq_ok_iff {r : Repository} {found : Option String} :
    (r.commitId git revision).outcome = .ok found ↔
      ∃ id, git.Answers (idQuery r.path revision) id ∧
        found = if id.succeeded ∧ idIn id ≠ "" then some (idIn id) else none := by
  unfold commitId
  simp only [outcome_bind, bind_eq_ok_iff, Git.ask_eq_ok_iff]
  refine exists_congr fun id => and_congr Iff.rfl ?_
  exact ⟨fun told => (Except.ok.inj told).symm, fun found_eq => by rw [found_eq]; rfl⟩

theorem commitDate_eq_ok_iff {r : Repository} {fullDate : String} :
    (r.commitDate git sha).outcome = .ok fullDate ↔
      ∃ date, git.Answers (dateQuery r.path sha) date ∧ date.succeeded = true ∧
        fullDate = dateIn date := by
  unfold commitDate
  simp only [outcome_bind, bind_eq_ok_iff, Git.ask_eq_ok_iff]
  refine exists_congr fun date => and_congr Iff.rfl ?_
  by_cases succeeded : date.succeeded = true
  · rw [if_pos succeeded]
    simp [succeeded, pure, dateIn, eq_comm]
  · rw [if_neg succeeded]
    exact iff_of_false nofun fun h => succeeded h.1

theorem fileAt_eq_ok_iff {r : Repository} {content : Option ByteArray} :
    (r.fileAt git sha versionFile).outcome = .ok content ↔
      ∃ version, git.Answers (versionQuery r.path sha) version ∧ content = contentIn version := by
  unfold fileAt
  simp only [outcome_bind, bind_eq_ok_iff, Git.ask_eq_ok_iff]
  refine exists_congr fun version => and_congr Iff.rfl ?_
  exact ⟨fun shown => (Except.ok.inj shown).symm, fun content_eq => by rw [content_eq]; rfl⟩

/-- Git has answered the four questions about a revision. -/
structure Answered (git : Git) (path revision : String) (inside id date version : Reply) :
    Prop where
  of_inside : git.Answers (insideQuery path) inside
  of_id : git.Answers (idQuery path revision) id
  of_date : git.Answers (dateQuery path (idIn id)) date
  of_version : git.Answers (versionQuery path (idIn id)) version

theorem resolve_eq_ok_iff {r : Repository} : (r.resolve git revision).outcome = .ok record ↔
    isRevision revision = true ∧ ∃ id date version,
      git.Answers (idQuery r.path revision) id ∧ id.succeeded = true ∧ idIn id ≠ "" ∧
      git.Answers (dateQuery r.path (idIn id)) date ∧ date.succeeded = true ∧
      git.Answers (versionQuery r.path (idIn id)) version ∧
      record = ⟨idIn id, dateIn date, releaseOf (contentIn version)⟩ := by
  unfold resolve
  by_cases proper : isRevision revision = true
  · rw [if_pos proper]
    simp only [outcome_bind, bind_eq_ok_iff, commitId_eq_ok_iff]
    rw [and_iff_right proper]
    constructor
    · rintro ⟨found, ⟨id, of_id, rfl⟩, told⟩
      split at told
      · exact nomatch told
      · next sha named =>
        obtain ⟨⟨succeeded, nonempty⟩, rfl⟩ :
            (id.succeeded = true ∧ idIn id ≠ "") ∧ idIn id = sha := by
          simpa [Option.ite_none_right_eq_some] using named
        simp only [outcome_bind, bind_eq_ok_iff, commitDate_eq_ok_iff, fileAt_eq_ok_iff] at told
        obtain ⟨_, ⟨date, of_date, dated, rfl⟩, _, ⟨version, of_version, rfl⟩, same⟩ := told
        exact ⟨id, date, version, of_id, succeeded, nonempty, of_date, dated, of_version,
          (Except.ok.inj same).symm⟩
    · rintro ⟨id, date, version, of_id, succeeded, nonempty, of_date, dated, of_version, rfl⟩
      refine ⟨some (idIn id), ⟨id, of_id, (if_pos ⟨succeeded, nonempty⟩).symm⟩, ?_⟩
      simp only [outcome_bind, bind_eq_ok_iff, commitDate_eq_ok_iff, fileAt_eq_ok_iff]
      exact ⟨_, ⟨date, of_date, dated, rfl⟩, _, ⟨version, of_version, rfl⟩, rfl⟩
  · rw [if_neg proper]
    exact iff_of_false nofun fun h => proper h.1

end Repository

open Repository

/-- Git tells about a commit exactly if it has answered, says that the directory is fine, names the
commit, and tells its date.  What it says besides is not looked at. -/
theorem Layout.record_eq_ok_iff {layout : Layout} :
    layout.record git revision = .ok record ↔
      isRevision revision = true ∧ ∃ inside id date version,
        Answered git layout.source revision inside id date version ∧
        inside.succeeded = true ∧ id.succeeded = true ∧ idIn id ≠ "" ∧ date.succeeded = true ∧
        record = ⟨idIn id, dateIn date, releaseOf (contentIn version)⟩ := by
  simp only [Layout.record, Conversation.outcome_bind, bind_eq_ok_iff, ofDirectory_eq_ok_iff,
    resolve_eq_ok_iff]
  constructor
  · rintro ⟨_, ⟨inside, of_inside, succeeded, rfl⟩, proper, id, date, version, of_id, succeeded',
      nonempty, of_date, dated, of_version, rfl⟩
    exact ⟨proper, inside, id, date, version, ⟨of_inside, of_id, of_date, of_version⟩, succeeded,
      succeeded', nonempty, dated, rfl⟩
  · rintro ⟨proper, inside, id, date, version, answered, succeeded, succeeded', nonempty, dated,
      rfl⟩
    exact ⟨_, ⟨inside, answered.of_inside, succeeded, rfl⟩, proper, id, date, version,
      answered.of_id, succeeded', nonempty, answered.of_date, dated, answered.of_version, rfl⟩

/-! ## Positive answers

What the answers should be is said here without the program: git prints `true`, names a commit,
tells its date, and shows the file or says that there is none.  The theorem then compares this with
what a run goes by. -/

/-- Git has printed the word. -/
def Reply.Prints (r : Reply) (word : String) : Prop := Text.trimmed (Text.lossyText r.stdout) = word

/-- Git says that the commit has no such file. -/
def Reply.TellsAbsent (r : Reply) : Prop :=
  Text.holds "does not exist in".toList (Text.lossyText r.stderr).toList = true ∨
    Text.holds "exists on disk, but not in".toList (Text.lossyText r.stderr).toList = true

/-- All four answers are positive: the directory is inside a work tree, the commit has a name and a
date, and its version file is shown or known to be missing. -/
structure IsPositive (inside id date version : Reply) : Prop where
  in_work_tree : inside.succeeded = true ∧ inside.Prints "true"
  is_commit : id.succeeded = true ∧ idIn id ≠ ""
  dated : date.succeeded = true
  shown_or_absent : version.succeeded = true ∨ version.TellsAbsent

theorem Repository.Answered.unique {inside id date version inside' id' date' version' : Reply}
    (answered : Answered git path revision inside id date version)
    (answered' : Answered git path revision inside' id' date' version') :
    inside' = inside ∧ id' = id ∧ date' = date ∧ version' = version := by
  have same_id := answered.of_id.unique answered'.of_id
  have of_date := same_id ▸ answered'.of_date
  have of_version := same_id ▸ answered'.of_version
  exact ⟨answered.of_inside.unique answered'.of_inside, same_id, answered.of_date.unique of_date,
    answered.of_version.unique of_version⟩

namespace Update

/-- Git has answered the questions of a run positively. -/
def Affirmed (w : Workspace) (git : Git) (request : Request) : Prop :=
  ∃ layout inside id date version,
    Layout.discover w (currentPath w) request.source = .ok layout ∧
    Answered git layout.source request.commit inside id date version ∧
    IsPositive inside id date version

variable {w : Workspace} {request : Request}

/-- A run that writes has been told which commit is meant, and when it was made.  Unless git affirms
all it was asked, the run fails and leaves the files as they were, with two exceptions: that the
directory is not inside a work tree goes unnoticed, and so does a version file that cannot be shown.
It is then the default release version that is written. -/
theorem answers_of_run (real : request.dryRun = false) :
    (∃ failure, (run w git request).result = .error failure ∧
      (run w git request).tree = w.tree) ∨
    (run w git request).result = .ok () ∧ ∃ layout plan inside id date version,
      planned w git request = .ok (layout, plan) ∧
      Answered git layout.source request.commit inside id date version ∧
      inside.succeeded = true ∧ id.succeeded = true ∧ idIn id ≠ "" ∧ date.succeeded = true ∧
      (version.succeeded = false → plan.stamp.release = "1.0") ∧
      (Affirmed w git request ↔
        inside.Prints "true" ∧ (version.succeeded = true ∨ version.TellsAbsent)) := by
  rcases run_cases w git request with ⟨failure, failed, -, tree⟩ |
    ⟨succeeded, ⟨dry, -⟩ | ⟨-, layout, previous, text, plan, between, after, finished⟩⟩
  · exact .inl ⟨failure, failed, tree⟩
  · exact nomatch real.symm.trans dry
  obtain ⟨-, inside, id, date, version, answered, in_directory, is_commit, named, dated,
    record_eq⟩ := Layout.record_eq_ok_iff.mp finished.made.recorded
  have made : planned w git request = .ok (layout, plan) := planned_eq_ok_iff.mpr
    ⟨finished.discovered, Plan.make_eq_ok_iff.mpr ⟨_, _, finished.made⟩⟩
  refine .inr ⟨succeeded, layout, plan, inside, id, date, version, made, answered, in_directory,
    is_commit, named, dated, fun failed => ?_, ?_⟩
  · rw [Stamp.release_of_ofCommit finished.made.accepted, record_eq, contentIn, failed]
    change Text.trimmed defaultRelease = "1.0"
    decide
  · constructor
    · rintro ⟨layout', inside', id', date', version', discovered, answered', positive⟩
      obtain rfl := Except.ok.inj (finished.discovered.symm.trans discovered)
      obtain ⟨rfl, rfl, rfl, rfl⟩ := answered.unique answered'
      exact ⟨positive.in_work_tree.2, positive.shown_or_absent⟩
    · rintro ⟨says_true, shown⟩
      exact ⟨layout, inside, id, date, version, finished.discovered, answered,
        ⟨in_directory, says_true⟩, ⟨is_commit, named⟩, dated, shown⟩

/-- A git that gives these answers to the first and to the last question. -/
def answering (inside version : Reply) : Git := .present fun call =>
  match call.query with
  | [command, _] => if command = "show" then version else inside
  | ["show", _, _, _] => ⟨0, Text.bytes "2025-03-05 00:29:51 +0000\n", .empty⟩
  | _ => ⟨0, Text.bytes "c0ffee\n", .empty⟩

theorem answered_answering {inside version inside' id' date' version' : Reply}
    (answered : Answered (answering inside version) path revision inside' id' date' version') :
    inside' = inside ∧ version' = version := by
  obtain ⟨⟨-, replies, same, rfl⟩, -, -, ⟨-, replies', same', rfl⟩⟩ := answered
  rw [← Git.present.inj same, ← Git.present.inj same']
  simp [insideQuery, versionQuery]

/-- The source directory is a bare repository, which is no work tree. -/
def bare : Git := answering ⟨0, Text.bytes "false\n", .empty⟩ ⟨0, Text.bytes "2.0\n", .empty⟩

/-- The tree of the commit is damaged, so that the version file cannot be shown. -/
def damaged : Git := answering ⟨0, Text.bytes "true\n", .empty⟩
  ⟨128, .empty, Text.bytes "fatal: unable to read tree (c0ffee)\n"⟩

/-- Either way the files are written. -/
theorem negative_answers_unnoticed :
    let w := Sample.checkout
      "ReleaseVersion = \"2.0\"\nManifestDate = \"x\"\nManifestISODate = \"y\"\n"
    (¬ Affirmed w bare Sample.request ∧ (run w bare Sample.request).result = .ok () ∧
      (run w bare Sample.request).tree ≠ w.tree) ∧
    ¬ Affirmed w damaged Sample.request ∧ (run w damaged Sample.request).result = .ok () ∧
      (next w damaged Sample.request).readText "/down/internal/pikchr.y" = .ok
        ("ReleaseVersion = \"1.0\"\nManifestDate = \"2025-03-05 00:29:51\"\n" ++
          "ManifestISODate = \"20250305\"\n") := by
  intro w
  have written : (run w bare Sample.request).result = .ok () := by decide +kernel
  have changed : (run w bare Sample.request).tree ≠ w.tree := by decide +kernel
  have written' : (run w damaged Sample.request).result = .ok () := by decide +kernel
  have defaulted : (next w damaged Sample.request).readText "/down/internal/pikchr.y" = .ok
      ("ReleaseVersion = \"1.0\"\nManifestDate = \"2025-03-05 00:29:51\"\n" ++
        "ManifestISODate = \"20250305\"\n") := by decide +kernel
  refine ⟨⟨?_, written, changed⟩, ?_, written', defaulted⟩
  · obtain ⟨failure, failed, -⟩ | ⟨-, layout, plan, inside, id, date, version, -, answered, -, -, -,
      -, -, affirmed_iff⟩ := @answers_of_run bare w Sample.request rfl
    · exact nomatch written.symm.trans failed
    · obtain ⟨rfl, -⟩ := answered_answering answered
      rw [affirmed_iff]
      rintro ⟨says_true, -⟩
      exact absurd says_true (by unfold Reply.Prints; decide +kernel)
  · obtain ⟨failure, failed, -⟩ | ⟨-, layout, plan, inside, id, date, version, -, answered, -, -, -,
      -, -, affirmed_iff⟩ := @answers_of_run damaged w Sample.request rfl
    · exact nomatch written'.symm.trans failed
    · obtain ⟨-, rfl⟩ := answered_answering answered
      rw [affirmed_iff]
      rintro ⟨-, shown | absent⟩
      · exact nomatch shown
      · exact absurd absent (by unfold Reply.TellsAbsent; decide +kernel)

end Update

end VersionStamp
