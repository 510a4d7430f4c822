/-
# VersionStamp.Proofs.Questions — what git is asked, and what of its answers matters

A run asks git four questions at most: whether the source directory is inside a work tree, which
commit is meant, when that commit was made, and what its version file holds.  The last two name the
commit by the id that git gave, not by the name it was asked for.  A run may stop asking, but it
never asks anything else.

So the script of a conversation is known before it begins, except for the id in it.  `Scripted` says
that a conversation keeps to a script: its calls begin the script, they are all of it if the
conversation succeeds, and only the answers to the script matter.  Conversations that keep to
scripts can be put together (`Scripted.bind`), and the whole run is put together in this way.
-/
import VersionStamp.Proofs.Answers

namespace VersionStamp

/-- What git answers to a call, if it can be started. -/
def Git.reply? : Git → Call → Option Reply
  | absent, _ => none
  | present replies, call => some (replies call)

theorem Git.Answers.reply?_eq {git : Git} {call : Call} {reply : Reply}
    (answers : git.Answers call reply) : git.reply? call = some reply := by
  obtain ⟨-, replies, rfl, rfl⟩ := answers
  rfl

theorem Call.environment_subset (c : Call) :
    c.environment ⊆ ["GIT_CEILING_DIRECTORIES", "HOME", "PATH"] := by
  unfold Call.environment
  cases c.ceiling with
  | none => simp
  | some above => simp

/-! ## Keeping to a script

A script is what a conversation asks if nothing goes wrong.  It may depend on the git that is
talked to, since the id in it is git's own answer; the last clause of `Scripted` says that it
depends on nothing else.  A conversation that has failed keeps to any script, and one that asks
nothing keeps to the empty one, so conversations can be put together whatever their outcomes are. -/

/-- With this git, the conversation keeps to the script: it asks what the script says, breaks off
only if it fails, and would be the same with any git that answers the script in the same way. -/
structure Scripted {α : Type} (talk : Git → Conversation α) (git : Git) (script : List Call) :
    Prop where
  within_script : (talk git).calls <+: script
  complete : ∀ a, (talk git).outcome = .ok a → (talk git).calls = script
  determined : ∀ git' : Git, (∀ call ∈ script, git'.reply? call = git.reply? call) →
    talk git' = talk git

namespace Scripted

variable {α β : Type} {git : Git} {script script' : List Call}

theorem silent {x : Conversation α} (no_calls : x.calls = []) :
    Scripted (fun _ => x) git [] where
  within_script := no_calls ▸ List.prefix_rfl
  complete := fun _ _ => no_calls
  determined := fun _ _ => rfl

theorem failed (failure : Failure) (script : List Call) :
    Scripted (fun _ => (.ofExcept (.error failure) : Conversation α)) git script where
  within_script := List.nil_prefix
  complete := nofun
  determined := fun _ _ => rfl

theorem ask (git : Git) (purpose : String) (call : Call) :
    Scripted (fun git => git.ask purpose call) git [call] where
  within_script := by
    unfold Git.ask
    split
    · cases git with
      | absent => exact List.nil_prefix
      | present replies => exact List.prefix_rfl
    · exact List.nil_prefix
  complete := by
    intro reply answered
    obtain ⟨possible, replies, rfl, -⟩ := Git.ask_eq_ok_iff.mp answered
    simp [Git.ask, possible]
  determined := by
    intro git' same
    have same := same call List.mem_cons_self
    unfold Git.ask
    cases git with
    | absent =>
        cases git' with
        | absent => rfl
        | present replies' => exact nomatch same
    | present replies =>
        cases git' with
        | absent => exact nomatch same
        | present replies' =>
            have same_reply : replies' call = replies call := Option.some.inj same
            simp only [same_reply]

/-- If two conversations keep to scripts, then one after the other they keep to both scripts. -/
theorem bind {first : Git → Conversation α} {next : α → Git → Conversation β}
    (scripted : Scripted first git script)
    (scripted' : ∀ a, (first git).outcome = .ok a → Scripted (next a) git script') :
    Scripted (fun git => first git >>= fun a => next a git) git (script ++ script') := by
  have split : ∀ git, (first git >>= fun a => next a git) =
      Conversation.bind (first git) fun a => next a git := fun _ => rfl
  have first_part : ∀ git' : Git,
      (∀ call ∈ script ++ script', git'.reply? call = git.reply? call) → first git' = first git :=
    fun git' same => scripted.determined git' fun call mem =>
      same call (List.mem_append_left script' mem)
  -- If the first part fails, its calls are all; a prefix of its script begins both scripts.
  cases outcome : (first git).outcome with
  | error failure =>
      have broken_off : (first git >>= fun a => next a git) =
          ⟨(first git).calls, .error failure⟩ := by
        rw [split, Conversation.bind, outcome]
      constructor
      · rw [broken_off]
        exact scripted.within_script.trans (List.prefix_append script script')
      · intro b succeeded
        rw [broken_off] at succeeded
        exact nomatch succeeded
      · intro git' same
        rw [split, split, first_part git' same, Conversation.bind, Conversation.bind, outcome]
  | ok a =>
      have scripted' := scripted' a outcome
      have goes_on : (first git >>= fun a => next a git) =
          ⟨script ++ (next a git).calls, (next a git).outcome⟩ := by
        rw [split, Conversation.bind, outcome, scripted.complete a outcome]
      constructor
      · rw [goes_on]
        exact (List.prefix_append_right_inj script).mpr scripted'.within_script
      · intro b succeeded
        rw [goes_on] at succeeded ⊢
        rw [scripted'.complete b succeeded]
      · intro git' same
        have second_part : next a git' = next a git := scripted'.determined git' fun call mem =>
          same call (List.mem_append_right script mem)
        rw [split, split, first_part git' same, Conversation.bind, Conversation.bind, outcome]
        simp only [second_part]

theorem bind_silent {first : Git → Conversation α} {next : α → Git → Conversation β}
    (scripted : Scripted first git script)
    (silent : ∀ a, (first git).outcome = .ok a → Scripted (next a) git []) :
    Scripted (fun git => first git >>= fun a => next a git) git script := by
  have both := scripted.bind silent
  rwa [List.append_nil] at both

end Scripted

/-! ## The script of a run

Each question has its script of one call, and `resolve` and `Plan.make` put them together with
`Scripted.bind`.  What follows the question for the id is named (`record`), because its script
contains the id that was found; where git gave none it fails without asking. -/

namespace Repository

variable {git : Git} {path revision : String}

/-- The id that git gives for a revision: what it prints, without the blanks around it. -/
def namedId (git : Git) (path revision : String) : String :=
  ((git.reply? (idQuery path revision)).map idIn).getD ""

/-- All that is asked about a revision, if git gives this id for it. -/
def questions (path revision id : String) : List Call :=
  [insideQuery path, idQuery path revision, dateQuery path id, versionQuery path id]

theorem repository_of_mem_questions {id : String} {call : Call}
    (mem : call ∈ questions path revision id) : call.repository = path := by
  simp only [questions, List.mem_cons, List.not_mem_nil, or_false] at mem
  rcases mem with rfl | rfl | rfl | rfl
  · rfl
  · rfl
  · rfl
  · rfl

theorem not_isRevision_iff :
    ¬ isRevision revision = true ↔ revision = "" ∨ revision.toList.head? = some '-' := by
  rw [← String.toList_eq_nil_iff]
  unfold isRevision
  split
  · next empty => simp [empty]
  · next rest dash => simp [dash]
  · next no_nil no_dash =>
    refine iff_of_false (by simp) ?_
    rintro (empty | dash)
    · exact no_nil empty
    · obtain ⟨rest, spelled⟩ := List.head?_eq_some_iff.mp dash
      exact no_dash rest spelled

theorem scripted_ofDirectory (git : Git) (path : String) :
    Scripted (fun git => ofDirectory git path) git [insideQuery path] := by
  refine (Scripted.ask git _ (insideQuery path)).bind_silent fun reply _ => ?_
  refine .silent ?_
  split
  · rfl
  · split
    · rfl
    · rfl

theorem scripted_commitId (r : Repository) (git : Git) (revision : String) :
    Scripted (fun git => r.commitId git revision) git [idQuery r.path revision] :=
  (Scripted.ask git _ (idQuery r.path revision)).bind_silent fun _ _ => .silent rfl

theorem scripted_commitDate (r : Repository) (git : Git) (sha : String) :
    Scripted (fun git => r.commitDate git sha) git [dateQuery r.path sha] := by
  refine (Scripted.ask git _ (dateQuery r.path sha)).bind_silent fun reply _ => ?_
  refine .silent ?_
  split
  · rfl
  · rfl

theorem scripted_fileAt (r : Repository) (git : Git) (sha : String) :
    Scripted (fun git => r.fileAt git sha versionFile) git [versionQuery r.path sha] :=
  (Scripted.ask git _ (versionQuery r.path sha)).bind_silent fun _ _ => .silent rfl

/-- What is told of a commit once git has been asked for its id. -/
def record (r : Repository) (git : Git) (revision : String) :
    Option String → Conversation CommitRecord
  | none => .ofExcept (.error (.commitNotFound revision))
  | some sha => do
    let fullDate ← r.commitDate git sha
    let content ← r.fileAt git sha versionFile
    return ⟨sha, fullDate, releaseOf content⟩

theorem resolve_of_isRevision (proper : isRevision revision = true) (r : Repository) (git : Git) :
    r.resolve git revision =
      r.commitId git revision >>= fun found => r.record git revision found := by
  unfold resolve
  rw [if_pos proper]
  refine congrArg (r.commitId git revision >>= ·) (funext fun found => ?_)
  cases found with
  | none => rfl
  | some sha => rfl

theorem resolve_of_not_isRevision (improper : ¬ isRevision revision = true) (r : Repository)
    (git : Git) : r.resolve git revision = .ofExcept (.error (.commitNotFound revision)) := by
  unfold resolve
  rw [if_neg improper]
  rfl

theorem scripted_of_not_isRevision (improper : ¬ isRevision revision = true) (r : Repository)
    (git : Git) (script : List Call) :
    Scripted (fun git => r.resolve git revision) git script := by
  have refused : (fun git => r.resolve git revision) =
      fun _ => .ofExcept (.error (.commitNotFound revision)) :=
    funext (resolve_of_not_isRevision improper r)
  rw [refused]
  exact .failed _ script

theorem scripted_record {r : Repository} {found : Option String}
    (answered : (r.commitId git revision).outcome = .ok found) :
    Scripted (fun git => r.record git revision found) git
      [dateQuery r.path (namedId git r.path revision),
        versionQuery r.path (namedId git r.path revision)] := by
  cases found with
  | none => exact .failed _ _
  | some sha =>
      obtain ⟨id, of_id, found_eq⟩ := commitId_eq_ok_iff.mp answered
      have named : namedId git r.path revision = sha := by
        rw [namedId, of_id.reply?_eq]
        split at found_eq
        · exact (Option.some.inj found_eq).symm
        · exact nomatch found_eq
      rw [named]
      exact (r.scripted_commitDate git sha).bind fun fullDate _ =>
        (r.scripted_fileAt git sha).bind_silent fun content _ => .silent rfl

theorem scripted_resolve (r : Repository) (git : Git) (revision : String) :
    Scripted (fun git => r.resolve git revision) git
      [idQuery r.path revision, dateQuery r.path (namedId git r.path revision),
        versionQuery r.path (namedId git r.path revision)] := by
  by_cases proper : isRevision revision = true
  · have asked : (fun git => r.resolve git revision) =
        fun git => r.commitId git revision >>= fun found => r.record git revision found :=
      funext (resolve_of_isRevision proper r)
    rw [asked]
    exact (r.scripted_commitId git revision).bind fun found answered => scripted_record answered
  · exact scripted_of_not_isRevision proper r git _

end Repository

open Repository

theorem Plan.scripted_make (w : Workspace) (git : Git) (layout : Layout) (commit : String) :
    Scripted (fun git => make w git layout commit) git
      (questions layout.source commit (namedId git layout.source commit)) := by
  refine (scripted_ofDirectory git layout.source).bind fun repository opened => ?_
  obtain ⟨-, -, -, rfl⟩ := ofDirectory_eq_ok_iff.mp opened
  exact (scripted_resolve ⟨layout.source⟩ git commit).bind_silent fun _ _ => .silent rfl

theorem Plan.scripted_make_of_not_isRevision {commit : String}
    (improper : ¬ isRevision commit = true) (w : Workspace) (git : Git) (layout : Layout) :
    Scripted (fun git => make w git layout commit) git [insideQuery layout.source] := by
  refine (scripted_ofDirectory git layout.source).bind_silent fun repository _ => ?_
  exact (scripted_of_not_isRevision improper repository git []).bind_silent
    fun _ _ => .silent rfl

namespace Update

variable {w : Workspace} {git git' : Git} {request : Request}

theorem discover_eq (w : Workspace) (request : Request) :
    Layout.discover w (currentPath w) request.source =
      if w.isDirectory (Layout.sourcePath (currentPath w) request.source) then
        .ok ⟨currentPath w, Layout.sourcePath (currentPath w) request.source⟩
      else .error (.repositoryNotFound (Layout.sourcePath (currentPath w) request.source)) := rfl

theorem run_congr (same : ∀ layout, Layout.discover w (currentPath w) request.source = .ok layout →
      Plan.make w git' layout request.commit = Plan.make w git layout request.commit) :
    run w git' request = run w git request := by
  unfold run
  cases discovered : Layout.discover w (currentPath w) request.source with
  | error failure => rfl
  | ok layout => simp only [same layout discovered]

/-- A run asks at most four questions, and these are always the same: the last two name the commit
by the id that the second one gave.  Nothing is asked if there is no source directory, and only the
first question if the commit would be taken for an option.  Every call names the source directory,
has the settings that fix the form of the answers, and passes on three variables at most.  What git
would answer to anything else makes no difference to the run. -/
theorem run_asks_four_questions (w : Workspace) (git : Git) (request : Request) :
    let path := Layout.sourcePath (currentPath w) request.source
    let asked := questions path request.commit (namedId git path request.commit)
    (run w git request).calls <+: asked ∧
    (w.isDirectory path = false → (run w git request).calls = []) ∧
    (request.commit = "" ∨ request.commit.toList.head? = some '-' →
      (run w git request).calls <+: asked.take 1) ∧
    (∀ call ∈ (run w git request).calls,
      call.arguments =
        ["-C", path, "-c", "log.showSignature=false", "-c", "core.quotePath=false"] ++ call.query ∧
      call.environment ⊆ ["GIT_CEILING_DIRECTORIES", "HOME", "PATH"]) ∧
    ∀ git' : Git, (∀ call ∈ asked, git'.reply? call = git.reply? call) →
      run w git' request = run w git request := by
  intro path asked
  by_cases directory : w.isDirectory path = true
  · have discovered : Layout.discover w (currentPath w) request.source =
        .ok ⟨currentPath w, path⟩ := by rw [discover_eq, if_pos directory]
    have calls_eq : (run w git request).calls = _ := calls_run discovered
    have scripted := Plan.scripted_make w git ⟨currentPath w, path⟩ request.commit
    have begins : (run w git request).calls <+: asked := calls_eq ▸ scripted.within_script
    refine ⟨begins, ?_, ?_, ?_, ?_⟩
    · intro no_directory
      exact nomatch directory.symm.trans no_directory
    · intro option_like
      have improper := not_isRevision_iff.mpr option_like
      rw [calls_eq]
      exact (Plan.scripted_make_of_not_isRevision improper w git _).within_script
    · intro call mem
      refine ⟨?_, call.environment_subset⟩
      rw [Call.arguments, repository_of_mem_questions (begins.subset mem)]
      rfl
    · intro git' same
      refine run_congr fun layout discovered' => ?_
      obtain rfl := Except.ok.inj (discovered.symm.trans discovered')
      exact scripted.determined git' same
  · have undiscovered : Layout.discover w (currentPath w) request.source =
        .error (.repositoryNotFound path) := by rw [discover_eq, if_neg directory]
    have no_calls : (run w git request).calls = [] := calls_run_of_undiscovered undiscovered
    rw [no_calls]
    refine ⟨?_, fun _ => rfl, fun _ => ?_, nofun, fun git' _ => ?_⟩
    · exact List.nil_prefix
    · exact List.nil_prefix
    · exact run_congr fun layout discovered => nomatch undiscovered.symm.trans discovered

/-- A git that answers these calls, and no others. -/
def answeringOnly (calls : List Call) : Git → Git
  | .absent => .absent
  | .present replies => .present fun call =>
    if call ∈ calls then replies call else ⟨128, .empty, Text.bytes "fatal: no rule\n"⟩

theorem reply?_answeringOnly {calls : List Call} {call : Call} (mem : call ∈ calls) (git : Git) :
    (answeringOnly calls git).reply? call = git.reply? call := by
  cases git with
  | absent => rfl
  | present replies => simp [answeringOnly, Git.reply?, mem]

/-- Four answers are enough for a run that succeeds; a commit that looks like an option is not asked
about, and without a source directory nothing is asked. -/
theorem four_answers_suffice :
    let w := Sample.checkout
      "ReleaseVersion = \"2.0\"\nManifestDate = \"x\"\nManifestISODate = \"y\"\n"
    let git := Sample.git "2.0\n"
    let asked := questions (Layout.sourcePath (currentPath w) none) "HEAD"
      (namedId git (Layout.sourcePath (currentPath w) none) "HEAD")
    (run w git Sample.request).result = .ok () ∧
      (run w (answeringOnly asked git) Sample.request).result = .ok () ∧
      (run w git { Sample.request with commit := "--all" }).calls.length ≤ 1 ∧
      (run w git { Sample.request with source := some "internal/pikchr.y" }).calls = [] := by
  intro w git asked
  have succeeded : (run w git Sample.request).result = .ok () := by decide +kernel
  have no_directory : w.isDirectory
      (Layout.sourcePath (currentPath w) (some "internal/pikchr.y")) = false := by decide +kernel
  obtain ⟨-, -, -, -, determined⟩ := run_asks_four_questions w git Sample.request
  obtain ⟨-, -, option_like, -⟩ :=
    run_asks_four_questions w git { Sample.request with commit := "--all" }
  obtain ⟨-, undiscovered, -⟩ :=
    run_asks_four_questions w git { Sample.request with source := some "internal/pikchr.y" }
  refine ⟨succeeded, ?_, (option_like (.inr rfl)).length_le, undiscovered no_directory⟩
  rw [determined (answeringOnly asked git) fun call mem => reply?_answeringOnly mem git]
  exact succeeded

end Update

end VersionStamp
