/-
# VersionStamp.Proofs.Targets — where the two target files are

Both target paths are the root with two more segments, of which the last is the name of the file.
So they lead to different places wherever they lead (`ne_of_locate_targets`), whatever the root
looks like.  If the root is a directory as the system names it, its path is the names on the way
with slashes between them, and the places are the ones that the layout shows
(`eq_of_locate_beneath`).  As seen from the root they are always the two that the layout shows,
whatever the root is called (`Path.relativeTo_join`).
-/
import VersionStamp.Proofs.Ways
import VersionStamp.Update

namespace VersionStamp

namespace Path

variable {a b : String}

theorem stripSegments?_of_stays {s : Segment} (in_place : stays s = true)
    (base rest : List Segment) : stripSegments? base (s :: rest) = stripSegments? base rest := by
  cases base with
  | nil => rw [stripSegments?, stripSegments?, List.dropWhile_cons_of_pos in_place]
  | cons b base => rw [stripSegments?, stripSegments?, List.dropWhile_cons_of_pos in_place]

theorem stripSegments?_append (front rest : List Segment) :
    stripSegments? (front.filter (!stays ·)) (front ++ rest) = some (rest.dropWhile stays) := by
  induction front with
  | nil => rfl
  | cons s front ih =>
      by_cases in_place : stays s = true
      · rw [List.filter_cons_of_neg (by simp [in_place]), List.cons_append,
          stripSegments?_of_stays in_place, ih]
      · rw [List.filter_cons_of_pos (by simp [in_place]), List.cons_append, stripSegments?,
          List.dropWhile_cons_of_neg in_place]
        simp [ih]

/-- From an absolute path, a relative path that is read from there is seen as it is. -/
theorem relativeTo_join (absolute : isAbsolute a = true) (relative : isAbsolute b = false)
    (moves : (segments b).dropWhile stays = segments b) : relativeTo a (join a b) = b := by
  obtain ⟨front, split, same⟩ := exists_segments_join relative a
  rw [relativeTo, if_pos ⟨absolute, isAbsolute_join absolute b⟩, split, ← components, ← same,
    stripSegments?_append, moves]
  simp [ofSegments, segments, List.intercalate_splitOn]

end Path

open Workspace

/-! ## The names of the targets

Both paths end in a name, and not in the same one.  A walk to a file ends in its name, so wherever
the two lead, it is not to one place. -/

namespace Layout

theorem exists_segments_versionHeader (l : Layout) :
    ∃ front, Path.segments l.versionHeader = front ++ ["VERSION.h".toList] := by
  have tail : Path.segments "c/VERSION.h" = ["c".toList] ++ ["VERSION.h".toList] := by decide
  obtain ⟨front, split, -⟩ := Path.exists_segments_join (b := "c/VERSION.h") (by decide) l.root
  exact ⟨front ++ ["c".toList], by rw [versionHeader, split, tail, List.append_assoc]⟩

theorem exists_segments_grammarFile (l : Layout) :
    ∃ front, Path.segments l.grammarFile = front ++ ["pikchr.y".toList] := by
  have tail : Path.segments "internal/pikchr.y" = ["internal".toList] ++ ["pikchr.y".toList] := by
    decide
  obtain ⟨front, split, -⟩ :=
    Path.exists_segments_join (b := "internal/pikchr.y") (by decide) l.root
  exact ⟨front ++ ["internal".toList], by rw [grammarFile, split, tail, List.append_assoc]⟩

theorem isFileName_header : IsFileName "VERSION.h".toList := by
  constructor <;> decide

theorem isFileName_grammar : IsFileName "pikchr.y".toList := by
  constructor <;> decide

theorem root_eq_of_discover {w : Workspace} {root : String} {named : Option String}
    {l : Layout} (discovered : discover w root named = .ok l) : l.root = root := by
  unfold discover at discovered
  dsimp only at discovered
  split at discovered
  · exact (Except.ok.inj discovered) ▸ rfl
  · exact nomatch discovered

theorem discover_congr {w w' : Workspace} (same : SameDirectories w w') (root : String)
    (named : Option String) : discover w' root named = discover w root named := by
  simp only [discover, isDirectory_congr same]

theorem ne_of_locate_targets {l : Layout} {w : Workspace} {loc loc' : Location}
    (header : w.locate l.versionHeader = .ok loc) (grammar : w.locate l.grammarFile = .ok loc') :
    loc' ≠ loc := by
  obtain ⟨front, split⟩ := l.exists_segments_versionHeader
  obtain ⟨front', split'⟩ := l.exists_segments_grammarFile
  obtain ⟨here, rfl⟩ := exists_eq_concat_of_locate split isFileName_header header
  obtain ⟨here', rfl⟩ := exists_eq_concat_of_locate split' isFileName_grammar grammar
  intro same
  have names := (List.append_inj' same rfl).2
  revert names
  decide

end Layout

/-! ## The places of the targets

Where exactly they lead takes more: the root must be a path that names its own directory.  The path
of the current directory does, if the names on the way are names that can stand in a directory
(`IsEntryName`), and further names lead on from there. -/

/-- A name that can stand in a directory. -/
structure IsEntryName (name : String) : Prop where
  is_file_name : IsFileName name.toList
  no_slash : '/' ∉ name.toList

instance (name : String) : Decidable (IsEntryName name) :=
  decidable_of_iff (IsFileName name.toList ∧ '/' ∉ name.toList)
    ⟨fun h => ⟨h.1, h.2⟩, fun h => ⟨h.is_file_name, h.no_slash⟩⟩

theorem Path.follow_names {names : List String} (proper : ∀ name ∈ names, IsFileName name.toList)
    (here : Location) : Path.follow here (names.map String.toList) = here ++ names := by
  induction names generalizing here with
  | nil => exact (List.append_nil here).symm
  | cons name names ih =>
      obtain ⟨proper_name, proper⟩ := List.forall_mem_cons.mp proper
      have entered : Path.enter here name.toList = here ++ [name] := by
        rw [Path.enter_name (by simpa using proper_name.1) proper_name.2, String.ofList_toList]
      exact (ih proper _).trans (by rw [entered, List.append_assoc, List.singleton_append])

theorem Path.place_join_names {b : String} (relative : Path.isAbsolute b = false)
    {names : List String} (split : Path.segments b = names.map String.toList)
    (proper : ∀ name ∈ names, IsFileName name.toList) (a : String) :
    Path.place (Path.join a b) = Path.place a ++ names := by
  rw [Path.place_join relative, split, Path.follow_names proper]

namespace Update

theorem currentPath_eq_rooted (w : Workspace) :
    currentPath w = Path.rooted (w.cwd.map String.toList) := by
  apply String.toList_injective
  unfold currentPath Path.rooted
  cases w.cwd with
  | nil => rfl
  | cons name names => simp [Path.ofSegments, List.intercalate_cons_cons]

theorem isAbsolute_currentPath (w : Workspace) : Path.isAbsolute (currentPath w) = true := by
  rw [currentPath_eq_rooted]
  exact Path.isAbsolute_rooted _

theorem place_currentPath {w : Workspace} (proper : ∀ name ∈ w.cwd, IsEntryName name) :
    Path.place (currentPath w) = w.cwd := by
  have slash_free : ∀ s ∈ w.cwd.map String.toList, '/' ∉ s := by
    intro s mem
    obtain ⟨name, name_mem, rfl⟩ := List.mem_map.mp mem
    exact (proper name name_mem).no_slash
  rw [Path.place_eq_follow, currentPath_eq_rooted, Path.components_rooted slash_free,
    Path.follow_filter, Path.follow_names (fun name mem => (proper name mem).is_file_name)]
  rfl

/-- Beneath the current directory, names lead to the place that they name. -/
theorem eq_of_locate_beneath {w : Workspace} (proper : ∀ name ∈ w.cwd, IsEntryName name)
    {b : String} (relative : Path.isAbsolute b = false) {names : List String}
    (split : Path.segments b = names.map String.toList)
    (named : ∀ name ∈ names, IsFileName name.toList) {loc : Location}
    (located : w.locate (Path.join (currentPath w) b) = .ok loc) : loc = w.cwd ++ names := by
  rw [eq_place_of_locate (Path.isAbsolute_join (isAbsolute_currentPath w) b) located,
    Path.place_join_names relative split named, place_currentPath proper]

end Update

end VersionStamp
