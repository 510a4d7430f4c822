/-
# VersionStamp.Proofs.Reporting — what the JSON report tells

The report is for other programs, so what counts is what another program reads in it.
`Report.Content` is that, and `Report.content?` takes it from a JSON value by the names of the
members.  From the report of a plan it takes the texts of the plan, the counts of the grammar, and
the statuses (`Report.content?_json`).  The printed report is read back as the report, by each
reader that takes the counts (`Report.readable_json`).

Asking for the report changes nothing else about a run (`Update.json_tells_the_run`).  How a run
ends and what it leaves is decided by what is planned and by how that is carried out
(`Update.ending`), and neither looks at the form of the output.
-/
import VersionStamp.Proofs.Documents
import VersionStamp.Proofs.Running
import VersionStamp.Transcript

namespace VersionStamp

/-! ## Reading values

What another program does with a JSON value: it looks members up by their names and takes texts,
numbers and truth values out of them.  Each way to write a value has its way to read it. -/

namespace JsonValue

/-- A truth value. -/
def truth? : JsonValue → Option Bool
  | .bool b => some b
  | _ => none

theorem text?_ofString (s : String) : (ofString s).text? = some s := by
  simp [ofString, text?]

theorem nat?_ofNat (n : Nat) : (ofNat n).nat? = some n := by
  have value : Nat.ofDigitChars 10 (Nat.toDigits 10 n) 0 = n :=
    Nat.ofDigitChars_toDigits (by omega) (Nat.le_refl 10)
  rw [ofNat, nat?, if_pos (List.all_eq_true.mpr isDigit_of_mem_toDigits), value]

end JsonValue

namespace Report

open JsonValue

theorem member?_object (members : List (String × JsonValue)) (name : String) :
    (object members).member? name = members.lookup name := by
  rw [object, member?]
  induction members with
  | nil => rfl
  | cons m members ih =>
      obtain ⟨key, value⟩ := m
      have same_keys : (name.toList == key.toList) = (name == key) := by
        rw [Bool.eq_iff_iff, beq_iff_eq, beq_iff_eq, String.toList_inj]
      rw [List.map_cons, List.lookup_cons, List.lookup_cons, ih, same_keys]

/-! ## Reading a report

`content?` knows the names of the members and nothing of how the report was made.  It is undone
member by member: first the counts, then the files with their statuses, and then the report. -/

/-- What a report tells about one target file.  Where there is nothing to count, it tells no counts,
which is not the same as an empty list of them. -/
structure Entry where
  path : String
  status : String
  counts : Option (List (String × Nat))
  deriving DecidableEq

/-- What a report tells. -/
structure Content where
  commit : String
  sha : String
  fullDate : String
  release : String
  manifestDate : String
  manifestIsoDate : String
  dryRun : Bool
  entries : List Entry
  deriving DecidableEq

/-- The count of one constant. -/
def count? (v : JsonValue) : Option (String × Nat) := do
  return (← (← v.member? "constant").text?, ← (← v.member? "replacements").nat?)

/-- The counts of a target file, if it tells any. -/
def counts? (v : JsonValue) : Option (Option (List (String × Nat))) :=
  match v.member? "substitutions" with
  | none => some none
  | some counts => do return some (← (← counts.elements?).mapM count?)

/-- What a value tells about one target file. -/
def entry? (v : JsonValue) : Option Entry := do
  return {
    path := ← (← v.member? "path").text?
    status := ← (← v.member? "status").text?
    counts := ← counts? v }

/-- What a value tells as a report. -/
def content? (v : JsonValue) : Option Content := do
  let version ← v.member? "version"
  return {
    commit := ← (← v.member? "commit").text?
    sha := ← (← v.member? "sha").text?
    fullDate := ← (← v.member? "full_date").text?
    release := ← (← version.member? "release_version").text?
    manifestDate := ← (← version.member? "manifest_date").text?
    manifestIsoDate := ← (← version.member? "manifest_isodate").text?
    dryRun := ← (← v.member? "dry_run").truth?
    entries := ← (← (← v.member? "artifacts").elements?).mapM entry? }

theorem mapM_map {α β γ : Type} {f : α → β} {read : β → Option γ} {g : α → γ}
    (each : ∀ a, read (f a) = some (g a)) (as : List α) :
    (as.map f).mapM read = some (as.map g) := by
  induction as with
  | nil => rfl
  | cons a as ih => simp [each, ih]

theorem mapM_zipWith {α β γ δ : Type} {f : α → β → γ} {read : γ → Option δ} {g : α → β → δ}
    (each : ∀ a b, read (f a b) = some (g a b)) (as : List α) (bs : List β) :
    (as.zipWith f bs).mapM read = some (as.zipWith g bs) := by
  induction as generalizing bs with
  | nil => rfl
  | cons a as ih =>
      cases bs with
      | nil => rfl
      | cons b bs => simp [each, ih]

/-- What is to be told about one target file. -/
def Entry.ofRendered (layout : Layout) (r : Rendered) (status : Status) : Entry where
  path := pathOf layout r
  status := status.name
  counts :=
    if r.substitutions.isEmpty then none
    else some (r.substitutions.map fun s => (s.constant.name, s.replacements))

theorem count?_substitutionJson (s : Substitution) :
    count? (substitutionJson s) = some (s.constant.name, s.replacements) := by
  simp [count?, substitutionJson, member?_object, List.lookup_cons, text?_ofString, nat?_ofNat]

theorem entry?_renderedJson (layout : Layout) (r : Rendered) (status : Status) :
    entry? (renderedJson layout r status) = some (Entry.ofRendered layout r status) := by
  have counted := mapM_map count?_substitutionJson r.substitutions
  unfold entry? counts? renderedJson Entry.ofRendered
  cases r.substitutions.isEmpty with
  | true => simp [member?_object, List.lookup_cons, text?_ofString]
  | false => simp [member?_object, List.lookup_cons, text?_ofString, elements?, counted]

/-- What is to be told about a plan. -/
def Content.ofPlan (layout : Layout) (plan : Plan) (dryRun : Bool) (statuses : List Status) :
    Content where
  commit := plan.commit
  sha := plan.record.sha
  fullDate := plan.record.fullDate
  release := plan.stamp.release
  manifestDate := plan.stamp.manifestDate
  manifestIsoDate := plan.stamp.manifestIsoDate
  dryRun := dryRun
  entries := plan.rendered.zipWith (Entry.ofRendered layout) statuses

variable {limits : JsonLimits} {layout : Layout} {plan : Plan} {dryRun : Bool}
  {statuses : List Status} {depth : Nat}

/-- The report tells what is to be told. -/
theorem content?_json : content? (json layout plan dryRun statuses) =
    some (Content.ofPlan layout plan dryRun statuses) := by
  have entries := mapM_zipWith (entry?_renderedJson layout) plan.rendered statuses
  simp [content?, json, stampJson, member?_object, List.lookup_cons, text?_ofString, truth?,
    elements?, entries, Content.ofPlan]

/-! ## Reading the printed report

The report nests brackets five deep and its only numbers are counts.  A reader of documents
therefore reads it back if it goes that deep and takes the counts. -/

theorem readable_object {members : List (String × JsonValue)}
    (each : ∀ m ∈ members, Readable limits depth m.2) :
    Readable limits (depth + 1) (object members) := by
  refine .object fun m mem => ?_
  obtain ⟨m', mem', rfl⟩ := List.mem_map.mp mem
  exact each m' mem'

theorem readable_stampJson (s : Stamp) : Readable limits (depth + 1) (stampJson s) := by
  refine readable_object ?_
  simp only [List.forall_mem_cons]
  exact ⟨.string _, .string _, .string _, nofun⟩

theorem readable_substitutionJson {s : Substitution} (admitted : Admits limits s.replacements) :
    Readable limits (depth + 1) (substitutionJson s) := by
  refine readable_object ?_
  simp only [List.forall_mem_cons]
  exact ⟨.string _, .number admitted, nofun⟩

theorem readable_renderedJson {r : Rendered} (status : Status)
    (admitted : ∀ s ∈ r.substitutions, Admits limits s.replacements) :
    Readable limits (depth + 3) (renderedJson layout r status) := by
  refine readable_object ?_
  simp only [List.cons_append, List.nil_append, List.forall_mem_cons]
  refine ⟨.string _, .string _, ?_⟩
  cases r.substitutions.isEmpty with
  | true => exact nofun
  | false =>
      simp only [Bool.false_eq_true, if_false, List.forall_mem_singleton]
      refine .array fun v mem => ?_
      obtain ⟨s, mem', rfl⟩ := List.mem_map.mp mem
      exact readable_substitutionJson (admitted s mem')

/-- A reader that takes the counts can read the report. -/
theorem readable_json
    (admitted : ∀ r ∈ plan.rendered, ∀ s ∈ r.substitutions, Admits limits s.replacements) :
    Readable limits (depth + 5) (json layout plan dryRun statuses) := by
  refine readable_object ?_
  simp only [List.forall_mem_cons]
  refine ⟨.string _, .string _, .string _, readable_stampJson _, .bool _, .array fun v mem => ?_,
    nofun⟩
  rw [← List.map_uncurry_zip_eq_zipWith] at mem
  obtain ⟨⟨r, status⟩, mem', rfl⟩ := List.mem_map.mp mem
  exact readable_renderedJson status (admitted r (List.of_mem_zip mem').1)

end Report

/-! ## A run that is asked for the report

The plan, the files and the outcome of a run do not depend on the form of its output; what is
printed does.  `ending` says the first, and the lemmas about `stdout` say what is printed instead
of the usual text: the report, or nothing if the run fails. -/

namespace Update

variable {w : Workspace} {git : Git} {request : Request} {layout : Layout} {plan : Plan}
  {previous : Option String} {text : String} {statuses : List Status} {failure : Failure}

/-- How a run ends, and the files that it leaves: what is planned and how it is carried out, neither
of which depends on the form of the output. -/
def ending (w : Workspace) (git : Git) (request : Request) : Except Failure Unit × FileTree :=
  match planned w git request with
  | .error failure => (.error failure, w.tree)
  | .ok (layout, plan) =>
    let (after, statuses, _) := carryOut w layout request plan
    (statuses.map fun _ => (), after.tree)

theorem run_eq_ending (w : Workspace) (git : Git) (request : Request) :
    ((run w git request).result, (run w git request).tree) = ending w git request := by
  unfold ending
  cases made : planned w git request with
  | error failure =>
      obtain ⟨result, tree⟩ := run_of_unplanned made
      rw [result, tree]
  | ok drawn =>
      obtain ⟨discovered, made⟩ := planned_eq_ok_iff.mp made
      simp only [run, discovered, made]
      cases (carryOut w drawn.1 request drawn.2).2.1 with
      | error failure => rfl
      | ok statuses => rfl

theorem result_of_planned (made : planned w git request = .ok (layout, plan)) :
    (run w git request).result = (carryOut w layout request plan).2.1.map fun _ => () := by
  have ends := run_eq_ending w git request
  rw [ending, made] at ends
  exact congrArg Prod.fst ends

theorem stdout_of_unplanned (json : request.json = true)
    (unplanned : planned w git request = .error failure) : (run w git request).stdout = "" := by
  simp only [planned, bind_eq_error_iff] at unplanned
  rcases unplanned with undiscovered | ⟨layout, discovered, unmade | ⟨plan, -, nothing⟩⟩
  · simp only [run, undiscovered]
  · simp [run, discovered, unmade, json]
  · cases nothing

theorem stdout_of_planned (json : request.json = true)
    (made : planned w git request = .ok (layout, plan)) :
    (run w git request).stdout = match (carryOut w layout request plan).2.1 with
      | .error _ => ""
      | .ok statuses => (Report.json layout plan request.dryRun statuses).pretty ++ "\n" := by
  obtain ⟨discovered, made⟩ := planned_eq_ok_iff.mp made
  simp only [run, discovered, made, json]
  cases (carryOut w layout request plan).2.1 with
  | error failure => rfl
  | ok statuses => simp

theorem exists_statuses (made : Plan.Made w git layout request.commit previous text plan)
    (carried : (carryOut w layout request plan).2.1 = .ok statuses) :
    ∃ header grammar, statuses = [header, grammar] := by
  unfold carryOut at carried
  split at carried
  · obtain rfl := Except.ok.inj carried
    rw [Plan.foresee, made.rendered_eq]
    exact ⟨_, _, rfl⟩
  · rcases Plan.apply_cases made with ⟨cause, failed⟩ | ⟨between, after, -, -, applied⟩
    · rw [failed] at carried
      exact nomatch carried
    · rw [applied, made.rendered_eq] at carried
      obtain rfl := Except.ok.inj carried
      exact ⟨_, _, rfl⟩

end Update

/-! ## The report of a plan that was made

Such a plan has two files, the header without counts and the grammar with three.  Their paths stand
below the root, and the report shows them from there. -/

theorem exists_counts (text : String) (s : Stamp) : ∃ releases dates isoDates,
    (substitute text s).2 =
      [⟨.releaseVersion, releases⟩, ⟨.manifestDate, dates⟩, ⟨.manifestIsoDate, isoDates⟩] := by
  rw [substitute_eq]
  simp only [Constant.all, substituteEach]
  exact ⟨_, _, _, rfl⟩

namespace Report

theorem Entry.ofRendered_headerAt (layout : Layout) (path : String) (previous : Option String)
    (s : Stamp) (status : Status) : ofRendered layout (.headerAt path previous s) status =
      ⟨Path.relativeTo layout.root path, status.name, none⟩ := rfl

theorem Entry.ofRendered_grammarAt (layout : Layout) (path text : String) (s : Stamp)
    (status : Status) : ofRendered layout (.grammarAt path text s) status =
      ⟨Path.relativeTo layout.root path, status.name,
        some ((substitute text s).2.map fun s => (s.constant.name, s.replacements))⟩ := by
  obtain ⟨releases, dates, isoDates, counts⟩ := exists_counts text s
  rw [ofRendered, Rendered.grammarAt, counts]
  rfl

end Report

theorem admits_of_made {w : Workspace} {git : Git} {layout : Layout} {commit text : String}
    {previous : Option String} {plan : Plan} {releases dates isoDates : Nat}
    (made : Plan.Made w git layout commit previous text plan)
    (counts : (substitute text plan.stamp).2 =
      [⟨.releaseVersion, releases⟩, ⟨.manifestDate, dates⟩, ⟨.manifestIsoDate, isoDates⟩])
    (few : ∀ n ∈ [releases, dates, isoDates], n < UInt64.size) :
    ∀ r ∈ plan.rendered, ∀ s ∈ r.substitutions, JsonValue.Admits .floating s.replacements := by
  rw [made.rendered_eq, List.forall_mem_cons, List.forall_mem_singleton]
  refine ⟨List.forall_mem_nil _, ?_⟩
  rw [Rendered.grammarAt, counts]
  simp only [List.forall_mem_cons] at few ⊢
  exact ⟨JsonValue.admits_floating few.1, JsonValue.admits_floating few.2.1,
    JsonValue.admits_floating few.2.2.1, List.forall_mem_nil _⟩

theorem Report.content?_of_made {w : Workspace} {git : Git} {layout : Layout} {commit text : String}
    {previous : Option String} {plan : Plan} (root : layout.root = Update.currentPath w)
    (made : Plan.Made w git layout commit previous text plan) (dryRun : Bool)
    (header grammar : Status) :
    content? (json layout plan dryRun [header, grammar]) = some {
      commit := plan.commit
      sha := plan.record.sha
      fullDate := plan.record.fullDate
      release := plan.stamp.release
      manifestDate := plan.stamp.manifestDate
      manifestIsoDate := plan.stamp.manifestIsoDate
      dryRun := dryRun
      entries := [
        ⟨"c/VERSION.h", header.name, none⟩,
        ⟨"internal/pikchr.y", grammar.name, some
          ((substitute text plan.stamp).2.map fun s => (s.constant.name, s.replacements))⟩] } := by
  have absolute : Path.isAbsolute layout.root = true := root ▸ Update.isAbsolute_currentPath w
  have header_path : Path.relativeTo layout.root layout.versionHeader = "c/VERSION.h" :=
    Path.relativeTo_join absolute (by decide) (by decide)
  have grammar_path : Path.relativeTo layout.root layout.grammarFile = "internal/pikchr.y" :=
    Path.relativeTo_join absolute (by decide) (by decide)
  rw [content?_json, Content.ofPlan, made.rendered_eq, List.zipWith_cons_cons,
    List.zipWith_cons_cons, List.zipWith_nil_right, Entry.ofRendered_headerAt,
    Entry.ofRendered_grammarAt, header_path, grammar_path]

namespace Update

open JsonValue

/-- Asking for the report as JSON changes nothing but what is printed: git is asked the same, the
run ends in the same way, and the same files are left.  A run that fails then prints nothing, and
one that succeeds prints one document and a new line.  The document is read back as it is, by a
reader that keeps the spelling of numbers, and by one that keeps them in floating-point words if
the counts have 64 bits.  It tells the texts of the plan, whatever characters are in them, and the
two target files in order, each with the status that was decided. -/
theorem json_tells_the_run (w : Workspace) (git : Git) (request : Request) :
    let plain := run w git { request with json := false }
    let told := run w git { request with json := true }
    (told.calls = plain.calls ∧ told.result = plain.result ∧ told.tree = plain.tree) ∧
    (∀ failure, told.result = .error failure → told.stdout = "") ∧
    (told.result = .ok () →
      ∃ layout previous text plan header grammar releases dates isoDates,
      ∃ document : JsonValue,
        Layout.discover w (currentPath w) request.source = .ok layout ∧
        Plan.Made w git layout request.commit previous text plan ∧
        (carryOut w layout request plan).2.1 = .ok [header, grammar] ∧
        (substitute text plan.stamp).2 =
          [⟨.releaseVersion, releases⟩, ⟨.manifestDate, dates⟩, ⟨.manifestIsoDate, isoDates⟩] ∧
        told.stdout = document.pretty ++ "\n" ∧
        JsonValue.readWithin .spelled document.pretty.toList = .ok document ∧
        ((∀ n ∈ [releases, dates, isoDates], n < UInt64.size) →
          JsonValue.read document.pretty.toList = .ok document) ∧
        Report.content? document = some {
          commit := plan.commit
          sha := plan.record.sha
          fullDate := plan.record.fullDate
          release := plan.stamp.release
          manifestDate := plan.stamp.manifestDate
          manifestIsoDate := plan.stamp.manifestIsoDate
          dryRun := request.dryRun
          entries := [
            ⟨"c/VERSION.h", header.name, none⟩,
            ⟨"internal/pikchr.y", grammar.name,
              some [("ReleaseVersion", releases), ("ManifestDate", dates),
                ("ManifestISODate", isoDates)]⟩] }) := by
  intro plain told
  -- The form of the output is no part of how a run ends.
  have ends := (run_eq_ending w git { request with json := true }).trans
    (run_eq_ending w git { request with json := false }).symm
  refine ⟨⟨calls_run_congr rfl rfl, congrArg Prod.fst ends, congrArg Prod.snd ends⟩, ?_⟩
  cases made : planned w git { request with json := true } with
  | error failure =>
      refine ⟨fun _ _ => stdout_of_unplanned rfl made, fun succeeded => ?_⟩
      exact nomatch succeeded.symm.trans (run_of_unplanned made).1
  | ok drawn =>
      obtain ⟨layout, plan⟩ := drawn
      obtain ⟨discovered, plan_made⟩ := planned_eq_ok_iff.mp made
      obtain ⟨previous, text, of_files⟩ := Plan.make_eq_ok_iff.mp plan_made
      have result := result_of_planned made
      have printed := stdout_of_planned rfl made
      cases carried : (carryOut w layout { request with json := true } plan).2.1 with
      | error failure =>
          rw [carried] at result printed
          exact ⟨fun _ _ => printed, fun succeeded => nomatch succeeded.symm.trans result⟩
      | ok statuses =>
          rw [carried] at result printed
          refine ⟨fun _ failed => absurd (failed.symm.trans result) nofun, fun _ => ?_⟩
          obtain ⟨header, grammar, rfl⟩ := exists_statuses of_files carried
          obtain ⟨releases, dates, isoDates, counts⟩ := exists_counts text plan.stamp
          have content := Report.content?_of_made (Layout.root_eq_of_discover discovered) of_files
            request.dryRun header grammar
          rw [counts] at content
          refine ⟨layout, previous, text, plan, header, grammar, releases, dates, isoDates, _,
            discovered, of_files, carried, counts, printed, ?_, ?_, content⟩
          · exact readWithin_pretty (Report.readable_json fun _ _ _ _ => admits_spelled _)
          · intro few
            exact readWithin_pretty (Report.readable_json (admits_of_made of_files counts few))

/-- A checkout in which one constant is assigned twice. -/
def outdated : Workspace := Sample.checkout
  ("ReleaseVersion = \"1.0\"\nReleaseVersion = \"\"\n" ++
    "ManifestDate = \"\"\nManifestISODate = \"\"\n")

/-- A commit whose name has a quote, a backslash and a control in it. -/
def oddlyNamed : Request := ⟨"v\"1\\\x01é", none, false, true⟩

/-- The odd name is told as it is, with the counts, and without a name nothing is told. -/
theorem odd_name_told :
    (run outdated (Sample.git "2.0\n") oddlyNamed).result = .ok () ∧
    (∃ document : JsonValue,
      (run outdated (Sample.git "2.0\n") oddlyNamed).stdout = document.pretty ++ "\n" ∧
      JsonValue.readWithin .spelled document.pretty.toList = .ok document ∧
      JsonValue.read document.pretty.toList = .ok document ∧
      (Report.content? document).map
          (fun told => (told.commit, told.entries.map fun e => (e.path, e.counts))) =
        some ("v\"1\\\x01é", [("c/VERSION.h", none), ("internal/pikchr.y",
          some [("ReleaseVersion", 2), ("ManifestDate", 1), ("ManifestISODate", 1)])])) ∧
    (run outdated (Sample.git "2.0\n") { oddlyNamed with commit := "" }).result =
      .error (.commitNotFound "") ∧
    (run outdated (Sample.git "2.0\n") { oddlyNamed with commit := "" }).stdout = "" := by
  have succeeded : (run outdated (Sample.git "2.0\n") oddlyNamed).result = .ok () := by
    decide +kernel
  have failed : (run outdated (Sample.git "2.0\n") { oddlyNamed with commit := "" }).result =
      .error (.commitNotFound "") := by decide +kernel
  have evaluated : (planned outdated (Sample.git "2.0\n") oddlyNamed).map (fun drawn =>
      drawn.2.rendered.map fun r => r.substitutions.map Substitution.replacements) =
        .ok [[], [2, 1, 1]] := by decide +kernel
  obtain ⟨-, -, tells⟩ := json_tells_the_run outdated (Sample.git "2.0\n") oddlyNamed
  obtain ⟨-, silent, -⟩ :=
    json_tells_the_run outdated (Sample.git "2.0\n") { oddlyNamed with commit := "" }
  obtain ⟨layout, previous, text, plan, header, grammar, releases, dates, isoDates, document,
    discovered, made, -, counts, printed, exact_read, read, content⟩ := tells succeeded
  have drawn : planned outdated (Sample.git "2.0\n") oddlyNamed = .ok (layout, plan) :=
    planned_eq_ok_iff.mpr ⟨discovered, Plan.make_eq_ok_iff.mpr ⟨previous, text, made⟩⟩
  obtain ⟨rfl, rfl, rfl⟩ : releases = 2 ∧ dates = 1 ∧ isoDates = 1 := by
    rw [drawn] at evaluated
    have counted := Except.ok.inj evaluated
    simpa [made.rendered_eq, Rendered.headerAt, Rendered.grammarAt, counts] using counted
  refine ⟨succeeded, ⟨document, printed, exact_read, read (by decide), ?_⟩, failed,
    silent _ failed⟩
  rw [content, Option.map_some, made.commit_eq]
  rfl

end Update

end VersionStamp
