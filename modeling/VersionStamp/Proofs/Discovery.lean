/-
# VersionStamp.Proofs.Discovery — where the source repository is looked for

The source repository is expected beside the downstream checkout, or where it is named.  `expected`
says which place that is, in terms of places: the sibling of the root, or the named path read from
the root.  The path that the layout has for it is put together from texts, by taking parents and
joining, and it always names that place (`place_sourcePath`), however the root and the named path
are spelled.

A layout is found exactly if that path leads to a directory (`discover_source`).  In a tree that
holds together, and for a path that never goes back, this means only that there is a directory at
the place (`leadsToDirectory_iff`).
-/
import Mathlib.Data.List.Induction
import VersionStamp.Proofs.Targets

namespace VersionStamp

/-! ## Trees that hold together

The trees of a file system have no file that stands in nothing.  Nothing else is asked of trees
here, and only to say it more simply when a path leads to a directory: a path without `..` passes
only through directories above the one that it names. -/

/-- Whatever there is stands in a directory. -/
def FileTree.IsNested (tree : FileTree) : Prop :=
  ∀ loc name, tree.node? (loc ++ [name]) ≠ none → tree.node? loc = some .directory

theorem FileTree.isNested_of_entries {tree : FileTree}
    (above : ∀ entry ∈ tree.entries, tree.node? entry.1.dropLast = some .directory) :
    tree.IsNested := by
  intro loc name there
  rw [node?, if_neg (List.concat_ne_nil name loc), Ne, List.lookup_eq_none_iff] at there
  push Not at there
  obtain ⟨entry, mem, here⟩ := there
  have here : loc ++ [name] = entry.1 := by simpa using here
  have above := above entry mem
  rwa [← here, List.dropLast_concat] at above

theorem FileTree.IsNested.directory_of_append {tree : FileTree} (nested : tree.IsNested)
    {loc more : Location} (there : tree.node? (loc ++ more) = some .directory) :
    tree.node? loc = some .directory := by
  induction more using List.reverseRecOn with
  | nil => rwa [List.append_nil] at there
  | append_singleton more name ih =>
      rw [← List.append_assoc] at there
      exact ih (nested _ name (by rw [there]; exact Option.some_ne_none _))

theorem Path.exists_follow_eq_append {segments : List Path.Segment}
    (no_back : ['.', '.'] ∉ segments) (here : Location) :
    ∃ more, Path.follow here segments = here ++ more := by
  induction segments generalizing here with
  | nil => exact ⟨[], (List.append_nil here).symm⟩
  | cons s rest ih =>
      rw [List.mem_cons, not_or] at no_back
      obtain ⟨more, followed⟩ := ih no_back.2 (Path.enter here s)
      rw [Path.follow_cons, followed]
      cases in_place : Path.stays s with
      | true => exact ⟨more, by rw [Path.enter_of_stays in_place]⟩
      | false =>
          refine ⟨String.ofList s :: more, ?_⟩
          rw [Path.enter_name in_place (Ne.symm no_back.1), List.append_assoc,
            List.singleton_append]

namespace Workspace

variable {w : Workspace} {path : String}

/-- In a tree that holds together, a path that never goes back leads to a directory exactly if
there is one at its place. -/
theorem leadsToDirectory_iff (nested : w.tree.IsNested) (admissible : IsAdmissible path)
    (no_back : ['.', '.'] ∉ Path.segments path) :
    LeadsToDirectory w.tree path ↔ w.tree.node? (Path.place path) = some .directory := by
  constructor
  · intro leads
    exact leads.directories _ List.prefix_rfl
  · intro directory
    refine ⟨admissible, ?_⟩
    rintro front ⟨back, split⟩
    have no_back' : ['.', '.'] ∉ back := by
      intro mem
      exact no_back (split ▸ List.mem_append_right front mem)
    obtain ⟨more, followed⟩ := Path.exists_follow_eq_append no_back' (Path.follow [] front)
    rw [Path.place, ← split, Path.follow_append, followed] at directory
    exact nested.directory_of_append directory

end Workspace

open Workspace

namespace Layout

variable {root : String} {named : Option String} {l : Layout} {w : Workspace}

/-! ## The path of the source repository

The sibling is found by taking the parent of the root and joining a name, both on texts.  The
result is compared with `expected`, which knows places alone.  The one case that needs `..` to be
absent is that of the parent. -/

/-- The place where the source repository is expected: beside the root, or where it is named. -/
def expected (root : String) : Option String → Location
  | none => (Path.place root).dropLast ++ [sourceName]
  | some path =>
    if Path.isAbsolute path then Path.place path
    else Path.follow (Path.place root) (Path.segments path)

theorem isAbsolute_sourcePath (absolute : Path.isAbsolute root = true) (named : Option String) :
    Path.isAbsolute (sourcePath root named) = true := by
  unfold sourcePath
  cases named with
  | some path => exact Path.isAbsolute_join absolute path
  | none =>
      rcases Path.parent?_cases absolute with ⟨parent, -⟩ | ⟨above, last, parent, absolute', -⟩
      · rw [parent]
        exact Path.isAbsolute_join (Path.isAbsolute_join absolute "..") sourceName
      · rw [parent]
        exact Path.isAbsolute_join absolute' sourceName

theorem isAbsolute_sourceName : Path.isAbsolute sourceName = false := by decide

theorem place_join_sourceName (a : String) :
    Path.place (Path.join a sourceName) = Path.place a ++ [sourceName] :=
  Path.place_join_names isAbsolute_sourceName (by decide) (by decide) a

/-- Whatever the root looks like, the path of the source repository names the expected place. -/
theorem place_sourcePath (absolute : Path.isAbsolute root = true)
    (no_back : ['.', '.'] ∉ Path.segments root) (named : Option String) :
    Path.place (sourcePath root named) = expected root named := by
  unfold sourcePath expected
  cases named with
  | some path =>
      dsimp only
      cases named_absolute : Path.isAbsolute path with
      | true => rw [Path.join_of_isAbsolute named_absolute, if_pos rfl]
      | false => rw [Path.place_join named_absolute, if_neg Bool.false_ne_true]
  | none =>
      rcases Path.parent?_cases absolute with ⟨parent, none_left⟩ | ⟨above, last, parent, -, split⟩
      · -- The root of the tree: going back from there stays there.
        have top : Path.place root = [] := by rw [Path.place_eq_follow, none_left]; rfl
        rw [parent]
        dsimp only
        rw [place_join_sourceName, Path.place_join (by decide), top]
        rfl
      · have on : last ≠ ['.', '.'] := by
          rintro rfl
          have last_mem : ['.', '.'] ∈ Path.components root := split ▸ List.mem_concat_self
          exact no_back (List.mem_of_mem_filter last_mem)
        rw [parent]
        dsimp only
        rw [place_join_sourceName, Path.place_eq_concat split on, List.dropLast_concat]

/-! ## Finding a layout

There is one question to the tree, whether the path leads to a directory, and one failure. -/

theorem discover_eq_ok_iff (absolute : Path.isAbsolute root = true) :
    discover w root named = .ok l ↔ l = ⟨root, sourcePath root named⟩ ∧
      LeadsToDirectory w.tree (sourcePath root named) := by
  rw [← isDirectory_iff (isAbsolute_sourcePath absolute named)]
  unfold discover
  dsimp only
  split_ifs with directory
  · simp [directory, eq_comm]
  · simp [directory]

theorem discover_eq_error_iff (absolute : Path.isAbsolute root = true) {failure : Failure} :
    discover w root named = .error failure ↔
      failure = .repositoryNotFound (sourcePath root named) ∧
        ¬ LeadsToDirectory w.tree (sourcePath root named) := by
  rw [← isDirectory_iff (isAbsolute_sourcePath absolute named)]
  unfold discover
  dsimp only
  split_ifs with directory
  · simp [directory]
  · simp [directory, eq_comm]

/-! ## The targets

The targets are joined to the root, so they are beneath it, each at the place that its two names
say. -/

theorem place_versionHeader (l : Layout) :
    Path.place l.versionHeader = Path.place l.root ++ ["c", "VERSION.h"] :=
  Path.place_join_names (by decide) (by decide) (by decide) l.root

theorem place_grammarFile (l : Layout) :
    Path.place l.grammarFile = Path.place l.root ++ ["internal", "pikchr.y"] :=
  Path.place_join_names (by decide) (by decide) (by decide) l.root

theorem place_targets_ne (l : Layout) :
    Path.place l.versionHeader ≠ Path.place l.grammarFile := by
  rw [place_versionHeader, place_grammarFile]
  intro same
  exact absurd (List.append_cancel_left same) (by decide)

/-- However an absolute root without `..` is spelled, and whatever is named, the layout has a path
of the expected place; a named path that is absolute is taken as it is.  The layout is found exactly
if this path leads to a directory, which is then at the expected place, and a failure names the
path.  The targets are two files beneath the root. -/
theorem discover_source (absolute : Path.isAbsolute root = true)
    (no_back : ['.', '.'] ∉ Path.segments root) (w : Workspace) (named : Option String) :
    Path.place (sourcePath root named) = expected root named ∧
    (∀ path, named = some path → Path.isAbsolute path = true → sourcePath root named = path) ∧
    (∀ l, discover w root named = .ok l ↔ l = ⟨root, sourcePath root named⟩ ∧
      LeadsToDirectory w.tree (sourcePath root named)) ∧
    (∀ failure, discover w root named = .error failure ↔
      failure = .repositoryNotFound (sourcePath root named) ∧
        ¬ LeadsToDirectory w.tree (sourcePath root named)) ∧
    (w.tree.IsNested → IsAdmissible (sourcePath root named) →
      ['.', '.'] ∉ Path.segments (sourcePath root named) →
        (LeadsToDirectory w.tree (sourcePath root named) ↔
          w.tree.node? (expected root named) = some .directory)) ∧
    ∀ l, discover w root named = .ok l →
      w.tree.node? (expected root named) = some .directory ∧
      Path.place l.versionHeader = Path.place root ++ ["c", "VERSION.h"] ∧
      Path.place l.grammarFile = Path.place root ++ ["internal", "pikchr.y"] ∧
      l.versionHeader ≠ l.grammarFile := by
  refine ⟨place_sourcePath absolute no_back named, ?_, fun l => discover_eq_ok_iff absolute,
    fun failure => discover_eq_error_iff absolute, ?_, ?_⟩
  · rintro path rfl named_absolute
    exact Path.join_of_isAbsolute named_absolute root
  · intro nested admissible no_back'
    rw [leadsToDirectory_iff nested admissible no_back', place_sourcePath absolute no_back]
  · intro l discovered
    obtain ⟨rfl, leads⟩ := (discover_eq_ok_iff absolute).mp discovered
    refine ⟨?_, place_versionHeader _, place_grammarFile _, ?_⟩
    · rw [← place_sourcePath absolute no_back named]
      exact leads.directories _ List.prefix_rfl
    · intro same
      exact place_targets_ne _ (congrArg Path.place same)

/-- Two checkouts beside each other, and another directory within the second one. -/
def siblings : FileTree :=
  (FileTree.empty.makeDirectory ["srv", "pikchr"]).makeDirectory ["srv", "gopikchr", "vendor"]

/-- A root with slashes and `.` in it has the sibling that its directory has, and naming the sibling
by a way through another directory finds it too.  A path that is no directory is not found. -/
theorem discover_source_of_siblings :
    let w : Workspace := ⟨siblings, []⟩
    let root := "/srv//./gopikchr/"
    (∃ l, discover w root none = .ok l ∧ l.source = "/srv/pikchr" ∧
      Path.place l.source = ["srv", "pikchr"]) ∧
    (∃ l, discover w root (some "vendor/../..//pikchr/") = .ok l ∧
      Path.place l.source = ["srv", "pikchr"]) ∧
    discover w root (some "../pikchr/VERSION") =
      .error (.repositoryNotFound "/srv//./gopikchr/../pikchr/VERSION") ∧
    siblings.IsNested := by
  intro w root
  have absolute : Path.isAbsolute root = true := by decide
  have no_back : ['.', '.'] ∉ Path.segments root := by decide
  have nested : siblings.IsNested := FileTree.isNested_of_entries (by decide)
  obtain ⟨beside, -, found, -, leads_iff, -⟩ := discover_source absolute no_back w none
  obtain ⟨through, -, found', -⟩ :=
    discover_source absolute no_back w (some "vendor/../..//pikchr/")
  obtain ⟨-, -, -, failed, -⟩ := discover_source absolute no_back w (some "../pikchr/VERSION")
  refine ⟨⟨_, (found _).mpr ⟨rfl, ?_⟩, by decide, beside.trans (by decide)⟩,
    ⟨_, (found' _).mpr ⟨rfl, ?_⟩, through.trans (by decide)⟩,
    (failed _).mpr ⟨by decide, ?_⟩, nested⟩
  · exact (leads_iff nested ⟨by decide, by decide, by decide, by decide⟩ (by decide)).mpr
      (by decide)
  · exact (isDirectory_iff (w := w) (by decide)).mp (by decide +kernel)
  · rw [← isDirectory_iff (by decide)]
    decide +kernel

end Layout

end VersionStamp
