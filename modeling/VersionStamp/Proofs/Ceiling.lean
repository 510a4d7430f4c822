/-
# VersionStamp.Proofs.Ceiling — above which directory git does not look

Every call tells git a directory above which it must not look for a repository.  This is meant to be
the directory that holds the source directory, so that git finds a repository there or none at all.

What git is told is the parent of the path, and the parent is the path without its last component.
If that component is a name, the parent is where the source directory is (`place_above`).  If it is
`..`, the parent is the directory that the path comes back from, which is beneath the source
directory and keeps git from nothing (`place_above_of_endsBack`).  Which of the two it is can be
read off what was named: without a name for the source directory, the path ends in `pikchr`
(`endsBack_sourcePath_iff`).
-/
import VersionStamp.Proofs.Discovery
import VersionStamp.Proofs.Questions

namespace VersionStamp

namespace Path

variable {path a b above : String} {last : Segment}

/-! ## Paths that end by going back

Whether a path ends in `..` is a question about its last component, which is that of the second
path after joining, unless the second path has none. -/

/-- The last component of the path is `..`. -/
def EndsBack (path : String) : Prop := (components path).getLast? = some ['.', '.']

instance (path : String) : Decidable (EndsBack path) :=
  inferInstanceAs (Decidable ((components path).getLast? = _))

theorem endsBack_iff_of_components (split : components path = components above ++ [last]) :
    EndsBack path ↔ last = ['.', '.'] := by
  rw [EndsBack, split, List.getLast?_concat, Option.some_inj]

theorem endsBack_join_iff (relative : isAbsolute b = false) (a : String) :
    EndsBack (join a b) ↔ EndsBack b ∨ components b = [] ∧ EndsBack a := by
  unfold EndsBack
  rw [components_join relative, List.getLast?_append]
  cases at_end : (components b).getLast? with
  | none =>
      have empty : components b = [] := List.getLast?_eq_none_iff.mp at_end
      simp [empty]
  | some last =>
      have some_component : components b ≠ [] := by
        intro empty
        rw [empty] at at_end
        exact nomatch at_end
      simp [some_component]

/-! ## The place of the parent

The parent is named by the components but the last.  Leaving a name out goes one directory up;
leaving `..` out goes back down to the directory that it was written behind. -/

theorem place_above (split : components path = components above ++ [last])
    (on : ¬ EndsBack path) : place above = (place path).dropLast := by
  have is_name : last ≠ ['.', '.'] := fun back => on ((endsBack_iff_of_components split).mpr back)
  rw [place_eq_concat split is_name, List.dropLast_concat]

/-- The parent of a path that ends by going back is a directory beneath, unless the path leads to
the root. -/
theorem place_above_of_endsBack (split : components path = components above ++ [last])
    (back : EndsBack path) (below_root : place path ≠ []) :
    ∃ name, place above = place path ++ [name] := by
  obtain rfl : last = ['.', '.'] := (endsBack_iff_of_components split).mp back
  have path_place : place path = (place above).dropLast := by
    rw [place_of_components split, enter_back]
  have above_place : place above ≠ [] := by
    intro top
    rw [path_place, top] at below_root
    exact below_root rfl
  refine ⟨(place above).getLast above_place, ?_⟩
  rw [path_place, List.dropLast_concat_getLast]

end Path

open Workspace

/-! ## The ceiling of a call

The source directory is walked to, so every beginning of its path leads to a directory, and the
parent is one of them.  Every call names the source directory; what holds of the parent of its path
holds of the ceiling of every call. -/

theorem Workspace.LeadsToDirectory.above {tree : FileTree} {path above : String}
    {last : Path.Segment} (leads : LeadsToDirectory tree path)
    (split : Path.components path = Path.components above ++ [last]) :
    tree.node? (Path.place above) = some .directory := by
  obtain ⟨front, back, segments_eq, front_eq, -⟩ := List.filter_eq_append_iff.mp split
  have directory := leads.directories front ⟨back, segments_eq.symm⟩
  rwa [← Path.follow_filter, front_eq, ← Path.place_eq_follow] at directory

namespace Layout

variable {root : String} {named : Option String} {l : Layout} {w : Workspace}

theorem endsBack_sourcePath_iff :
    Path.EndsBack (sourcePath root named) ↔ ∃ path, named = some path ∧
      (Path.EndsBack path ∨
        Path.isAbsolute path = false ∧ Path.components path = [] ∧ Path.EndsBack root) := by
  unfold sourcePath
  cases named with
  | none =>
      have ends_in_name : ∀ front, ¬ Path.EndsBack (Path.join front sourceName) := by
        intro front
        rw [Path.endsBack_join_iff isAbsolute_sourceName]
        rintro (back | ⟨no_component, -⟩)
        · exact absurd back (by decide)
        · exact absurd no_component (by decide)
      refine iff_of_false ?_ (by simp)
      dsimp only
      split
      · exact ends_in_name _
      · exact ends_in_name _
  | some path =>
      dsimp only
      cases named_absolute : Path.isAbsolute path with
      | true => simp [Path.join_of_isAbsolute named_absolute, named_absolute]
      | false => simp [Path.endsBack_join_iff named_absolute, named_absolute]

theorem ceiling_cases {call : Call} (absolute : Path.isAbsolute call.repository = true) :
    (call.ceiling = none ∧ Path.components call.repository = []) ∨
      ∃ above last, call.ceiling = some above ∧
        Path.components call.repository = Path.components above ++ [last] := by
  unfold Call.ceiling
  rcases Path.parent?_cases absolute with ⟨parent, top⟩ | ⟨above, last, parent, absolute', split⟩
  · exact .inl ⟨by rw [parent, Option.filter_none], top⟩
  · have some_text : above ≠ "" := by
      rintro rfl
      exact absurd absolute' (by decide)
    exact .inr ⟨above, last, by rw [parent, Option.filter_some, if_pos (by simpa)], split⟩

/-- Unless the source directory is the root of the tree, every call names a directory above which
git must not look.  This is the directory that holds the source directory exactly if the path of
the source directory does not end by going back, and otherwise it is beneath the source directory.
The path ends so only if the source directory is named by such a path, or if it is the root of the
checkout and the path of that ends so. -/
theorem ceiling_holds_source_iff (absolute : Path.isAbsolute root = true)
    (discovered : discover w root named = .ok l) (w' : Workspace) (git : Git) (commit : String) :
    w.locate l.source = .ok (Path.place l.source) ∧
    (Path.place l.source ≠ [] → ∀ call ∈ (Plan.make w' git l commit).calls,
      ∃ above, call.ceiling = some above ∧ w.tree.node? (Path.place above) = some .directory ∧
        (Path.place above = (Path.place l.source).dropLast ↔ ¬ Path.EndsBack l.source) ∧
        (Path.EndsBack l.source → ∃ name, Path.place above = Path.place l.source ++ [name])) ∧
    (Path.EndsBack l.source ↔ ∃ path, named = some path ∧
      (Path.EndsBack path ∨
        Path.isAbsolute path = false ∧ Path.components path = [] ∧ Path.EndsBack root)) := by
  obtain ⟨rfl, leads⟩ := (discover_eq_ok_iff absolute).mp discovered
  have absolute' := isAbsolute_sourcePath absolute named
  refine ⟨?_, ?_, endsBack_sourcePath_iff⟩
  · obtain ⟨loc, located, -⟩ :=
      isDirectory_eq_true_iff.mp ((isDirectory_iff (w := w) absolute').mpr leads)
    rw [located, eq_place_of_locate absolute' located]
  · intro below_root call mem
    have repository : call.repository = sourcePath root named :=
      Repository.repository_of_mem_questions
        ((Plan.scripted_make w' git _ commit).within_script.subset mem)
    rw [← repository] at absolute' leads below_root ⊢
    rcases ceiling_cases absolute' with ⟨-, top⟩ | ⟨above, last, ceiling, split⟩
    · -- A path without components leads to the root of the tree.
      rw [Path.place_eq_follow, top] at below_root
      exact absurd rfl below_root
    · refine ⟨above, ceiling, leads.above split, ⟨?_, Path.place_above split⟩,
        fun back => Path.place_above_of_endsBack split back below_root⟩
      intro holds back
      obtain ⟨name, beneath⟩ := Path.place_above_of_endsBack split back below_root
      rw [beneath] at holds
      have lengths := congrArg List.length holds
      simp only [List.length_append, List.length_dropLast, List.length_singleton] at lengths
      omega

/-- A checkout whose own directory is named as the source by a way through another directory: git is
told the other directory, which lies beneath the checkout and not above it. -/
theorem ceiling_beneath_source :
    let w : Workspace := ⟨FileTree.empty.makeDirectory ["down", "vendor"], ["down"]⟩
    let l : Layout := ⟨"/down", "/down/vendor/.."⟩
    discover w "/down" (some "vendor/..") = .ok l ∧ Path.place l.source = ["down"] ∧
    ∃ call ∈ (Plan.make w (Sample.git "2.0\n") l "HEAD").calls, ∃ above,
      call.ceiling = some above ∧ Path.place above ≠ (Path.place l.source).dropLast ∧
      ∃ name, Path.place above = Path.place l.source ++ [name] := by
  intro w l
  have discovered : discover w "/down" (some "vendor/..") = .ok l := by decide +kernel
  have asked : Repository.insideQuery l.source ∈
      (Plan.make w (Sample.git "2.0\n") l "HEAD").calls := by decide +kernel
  obtain ⟨-, ceilings, back_iff⟩ :=
    ceiling_holds_source_iff (by decide) discovered w (Sample.git "2.0\n") "HEAD"
  have back : Path.EndsBack l.source := back_iff.mpr ⟨_, rfl, .inl (by decide)⟩
  obtain ⟨above, ceiling, -, holds_iff, beneath⟩ := ceilings (by decide) _ asked
  exact ⟨discovered, by decide, _, asked, above, ceiling, fun holds => holds_iff.mp holds back,
    beneath back⟩

end Layout

end VersionStamp
