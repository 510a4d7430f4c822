/-
# VersionStamp.Proofs.Ways — where a path leads

Paths are texts, and what a path means is found by walking it through a tree.  A walk can break off,
but where it leads if it arrives is settled by the text alone: an empty segment and `.` stay, `..`
goes back, and any other segment goes on.  `Path.place` reads a path in this way, so that paths can
be compared that are spelled differently, and without a tree.

A walk arrives exactly if the system takes the path and every segment starts from a directory, and
it arrives at the place that the path names (`walk_eq_ok_iff`).  So a path names a directory exactly
if each of its beginnings does (`isDirectory_iff`).

Joining and taking the parent work on the texts.  To join is always to read the one path from the
place of the other (`place_join`).  The parent is the path without its last component
(`parent?_cases`), which is the directory above only if that component is not `..`.
-/
import VersionStamp.Proofs.Splitting
import VersionStamp.Proofs.Walking

namespace VersionStamp

namespace Path

variable {path a b above : String} {here : Location} {s last : Segment}

/-! ## Places

The meaning of a path without a tree.  Segments that stay make no difference to it, so a path can
be read by its components alone; the segments themselves matter only to a walk, which has to stand
in a directory before each of them. -/

/-- Where a segment leads from a place. -/
def enter (here : Location) (s : Segment) : Location :=
  if stays s then here
  else if s = ['.', '.'] then here.dropLast
  else here ++ [String.ofList s]

/-- Where segments lead from a place, one after another. -/
def follow (here : Location) (segments : List Segment) : Location := segments.foldl enter here

/-- The place that a path names, read from the root. -/
def place (path : String) : Location := follow [] (segments path)

/-- The segments of a path that do not stay in place. -/
def components (path : String) : List Segment := (segments path).filter (!stays ·)

theorem enter_of_stays (in_place : stays s = true) (here : Location) : enter here s = here := by
  rw [enter, if_pos in_place]

theorem enter_back (here : Location) : enter here ['.', '.'] = here.dropLast := by
  simp [enter, stays]

theorem enter_name (moves : stays s = false) (on : s ≠ ['.', '.']) (here : Location) :
    enter here s = here ++ [String.ofList s] := by
  rw [enter, if_neg (by simp [moves]), if_neg on]

theorem follow_cons (here : Location) (s : Segment) (rest : List Segment) :
    follow here (s :: rest) = follow (enter here s) rest := rfl

theorem follow_append (here : Location) (front back : List Segment) :
    follow here (front ++ back) = follow (follow here front) back := List.foldl_append

theorem follow_concat (here : Location) (front : List Segment) (s : Segment) :
    follow here (front ++ [s]) = enter (follow here front) s := follow_append here front [s]

theorem follow_filter (here : Location) (segments : List Segment) :
    follow here (segments.filter (!stays ·)) = follow here segments := by
  induction segments generalizing here with
  | nil => rfl
  | cons s rest ih =>
      cases in_place : stays s with
      | true =>
          rw [List.filter_cons_of_neg (by simp [in_place]), follow_cons,
            enter_of_stays in_place, ih]
      | false =>
          rw [List.filter_cons_of_pos (by simp [in_place]), follow_cons, follow_cons, ih]

theorem place_eq_follow (path : String) : place path = follow [] (components path) :=
  (follow_filter [] (segments path)).symm

theorem stays_of_mem_components (mem : s ∈ components path) : stays s = false := by
  simpa using (List.mem_filter.mp mem).2

/-! ## Joining

Joining puts a slash between two paths unless there is one, and drops the first if the second is
absolute.  The slash may leave an empty segment between the parts, which stays; so the components
of a joined path are those of its parts, and its place follows. -/

theorem segments_append_slash {a b : List Char} :
    segments (String.ofList (a ++ '/' :: b)) =
      segments (String.ofList a) ++ segments (String.ofList b) := by
  simp [segments, List.splitOn_append_cons_self]

theorem exists_segments_join (relative : isAbsolute b = false) (a : String) :
    ∃ front, segments (join a b) = front ++ segments b ∧
      front.filter (!stays ·) = components a := by
  unfold join
  rw [if_neg (by simp [relative])]
  split_ifs with ends
  · rcases ends with rfl | slash
    · exact ⟨[], by simp, by decide⟩
    · obtain ⟨a', a_eq⟩ := List.getLast?_eq_some_iff.mp slash
      have joined := @segments_append_slash a' b.toList
      have alone := @segments_append_slash a' []
      refine ⟨segments (String.ofList a'), by simpa [segments, a_eq] using joined, ?_⟩
      have split : segments a = segments (String.ofList a') ++ [[]] := by
        simpa [segments, a_eq] using alone
      rw [components, split, List.filter_append]
      simp [stays]
  · have joined := @segments_append_slash a.toList b.toList
    exact ⟨segments a, by simpa [segments] using joined, rfl⟩

theorem join_of_isAbsolute (absolute : isAbsolute b = true) (a : String) : join a b = b :=
  if_pos absolute

theorem isAbsolute_join (absolute : isAbsolute a = true) (b : String) :
    isAbsolute (join a b) = true := by
  have begins : a.toList.head? = some '/' := by simpa [isAbsolute] using absolute
  unfold join
  split_ifs with other ends
  · exact other
  · simp [isAbsolute, List.head?_append, begins]
  · simp [isAbsolute, List.head?_append, begins]

theorem components_join (relative : isAbsolute b = false) (a : String) :
    components (join a b) = components a ++ components b := by
  obtain ⟨front, split, same⟩ := exists_segments_join relative a
  rw [components, split, List.filter_append, same]
  rfl

/-- To join two paths is to read the second one from the place of the first. -/
theorem place_join (relative : isAbsolute b = false) (a : String) :
    place (join a b) = follow (place a) (segments b) := by
  rw [place_eq_follow, components_join relative, follow_append, ← place_eq_follow, components,
    follow_filter]

/-! ## The parent

The parent is cut off the text: segments that stay are dropped from its end, and then one segment
more.  In components this is the last one.  Whether that goes back (`..`) or on is not looked at,
and so the parent of a path may lie below its place. -/

theorem filter_dropWhile_stays (segments : List Segment) :
    (segments.dropWhile stays).filter (!stays ·) = segments.filter (!stays ·) := by
  induction segments with
  | nil => rfl
  | cons s rest ih =>
      cases in_place : stays s with
      | true =>
          rw [List.dropWhile_cons_of_pos in_place, ih, List.filter_cons_of_neg (by simp [in_place])]
      | false => rw [List.dropWhile_cons_of_neg (by simp [in_place])]

theorem exists_segments_of_isAbsolute (absolute : isAbsolute path = true) :
    ∃ rest, segments path = [] :: rest := by
  have begins : path.toList.head? = some '/' := by simpa [isAbsolute] using absolute
  obtain ⟨tail, spelled⟩ := List.head?_eq_some_iff.mp begins
  exact ⟨tail.splitOn '/', by rw [segments, spelled, List.splitOn_cons_eq_if_modifyHead]; rfl⟩

theorem segments_ofSegments {parts : List Segment} (slash_free : ∀ s ∈ parts, '/' ∉ s)
    (some_part : parts ≠ []) : segments (ofSegments parts) = parts := by
  rw [segments, ofSegments, String.toList_ofList, List.splitOn_intercalate '/' slash_free some_part]

/-- The path from the root along some segments. -/
def rooted (parts : List Segment) : String :=
  if parts = [] then "/" else ofSegments ([] :: parts)

theorem isAbsolute_rooted (parts : List Segment) : isAbsolute (rooted parts) = true := by
  cases parts with
  | nil => decide
  | cons s rest => simp [isAbsolute, rooted, ofSegments, List.intercalate_cons_cons]

theorem components_rooted {parts : List Segment} (slash_free : ∀ s ∈ parts, '/' ∉ s) :
    components (rooted parts) = parts.filter (!stays ·) := by
  cases parts with
  | nil => decide
  | cons s rest =>
      have spelled : segments (rooted (s :: rest)) = [] :: s :: rest :=
        segments_ofSegments (List.forall_mem_cons.mpr ⟨List.not_mem_nil, slash_free⟩)
          (List.cons_ne_nil [] _)
      rw [components, spelled]
      exact List.filter_cons_of_neg (by simp [stays])

theorem place_of_components (split : components path = components above ++ [last]) :
    place path = enter (place above) last := by
  rw [place_eq_follow, split, follow_concat, ← place_eq_follow]

theorem place_eq_concat (split : components path = components above ++ [last])
    (on : last ≠ ['.', '.']) : place path = place above ++ [String.ofList last] := by
  have moves : stays last = false := stays_of_mem_components (split ▸ List.mem_concat_self)
  rw [place_of_components split, enter_name moves on]

theorem filter_of_dropWhile_reverse {parts before : List Segment}
    (behind : parts.reverse.dropWhile stays = last :: before) :
    parts.filter (!stays ·) = before.reverse.filter (!stays ·) ++ [last] := by
  have moves : stays last = false := by
    have := List.head?_dropWhile_not stays parts.reverse
    simpa [behind] using this
  have reversed : (parts.filter (!stays ·)).reverse = last :: before.filter (!stays ·) := by
    rw [← List.filter_reverse, ← filter_dropWhile_stays, behind,
      List.filter_cons_of_pos (by simp [moves])]
  rw [← List.reverse_reverse (parts.filter _), reversed, List.reverse_cons, List.filter_reverse]

/-- The parent of an absolute path is the path without its last component, if it has any. -/
theorem parent?_cases (absolute : isAbsolute path = true) :
    (parent? path = none ∧ components path = []) ∨
      ∃ above last, parent? path = some above ∧ isAbsolute above = true ∧
        components path = components above ++ [last] := by
  obtain ⟨rest, split⟩ := exists_segments_of_isAbsolute absolute
  have components_eq : components path = rest.filter (!stays ·) := by
    rw [components, split, List.filter_cons_of_neg (by simp [stays])]
  unfold parent?
  rw [split]
  dsimp only
  cases behind : rest.reverse.dropWhile stays with
  | nil =>
      refine .inl ⟨if_pos rfl, ?_⟩
      rw [components_eq, ← List.reverse_eq_nil_iff, ← List.filter_reverse,
        ← filter_dropWhile_stays, behind, List.filter_nil]
  | cons last before =>
      have slash_free : ∀ s ∈ (before.dropWhile stays).reverse, '/' ∉ s := by
        intro s mem
        have in_before : s ∈ before := (List.dropWhile_subset stays) (List.mem_reverse.mp mem)
        have in_rest : s ∈ rest.reverse :=
          (List.dropWhile_subset stays) (behind ▸ List.mem_cons_of_mem last in_before)
        refine Text.not_mem_of_mem_splitOn (?_ : s ∈ segments path)
        rw [split]
        exact List.mem_cons_of_mem [] (List.mem_reverse.mp in_rest)
      refine .inr ⟨rooted (before.dropWhile stays).reverse, last, ?_, isAbsolute_rooted _, ?_⟩
      · rw [rooted, apply_ite some]
        simp only [true_and]
      · rw [components_eq, filter_of_dropWhile_reverse behind, components_rooted slash_free,
          List.filter_reverse, List.filter_reverse, filter_dropWhile_stays]

end Path

/-! ## Walks

A walk asks before each segment for a directory to start from and for a name that the system takes.
If it gets both it goes where the segment leads, so that a walk that arrives has followed its
segments. -/

namespace Workspace

open VersionStamp.Path

variable {tree : FileTree} {w : Workspace} {here loc : Location} {s : Segment}
  {segments : List Segment} {path : String}

/-- The segment is not too long for the system. -/
abbrev IsShort (s : Segment) : Prop := (String.ofList s).utf8ByteSize ≤ nameLimit

theorem isShort_of_stays (in_place : stays s = true) : IsShort s := by
  simp only [stays, Bool.or_eq_true, decide_eq_true_eq] at in_place
  rcases in_place with rfl | rfl
  · decide
  · decide

theorem step_eq_ok_iff : step tree here s = .ok loc ↔
    tree.node? here = some .directory ∧ IsShort s ∧ loc = enter here s := by
  constructor
  · intro stepped
    have directory := directory_of_step stepped
    refine ⟨directory, ?_⟩
    simp only [step, directory] at stepped
    split_ifs at stepped with in_place back long
    · exact ⟨isShort_of_stays in_place, by rw [enter, if_pos in_place, Except.ok.inj stepped]⟩
    · exact ⟨back ▸ by decide, by rw [enter, if_neg in_place, if_pos back, Except.ok.inj stepped]⟩
    · exact ⟨Nat.le_of_not_lt long,
        by rw [enter, if_neg in_place, if_neg back, Except.ok.inj stepped]⟩
  · rintro ⟨directory, short, rfl⟩
    simp only [step, directory, enter]
    split_ifs with in_place back long
    · rfl
    · rfl
    · exact absurd short (Nat.not_le_of_lt long)
    · rfl

/-- A walk arrives exactly if no segment is too long and each starts from a directory.  It arrives
where the segments lead. -/
theorem walk_eq_ok_iff : walk tree here segments = .ok loc ↔
    (∀ s ∈ segments, IsShort s) ∧
      (∀ front s, front ++ [s] <+: segments → tree.node? (follow here front) = some .directory) ∧
      loc = follow here segments := by
  -- A beginning of the path is empty, or begins with the first segment; so the induction is on the
  -- segments from the front, for every place to start from.
  induction segments generalizing here with
  | nil =>
      constructor
      · intro walked
        refine ⟨List.forall_mem_nil _, ?_, (Except.ok.inj walked).symm⟩
        intro front s begins
        exact absurd (List.prefix_nil.mp begins) (by simp)
      · rintro ⟨-, -, rfl⟩
        rfl
  | cons s rest ih =>
      rw [walk, List.foldlM_cons, bind_eq_ok_iff]
      constructor
      · rintro ⟨next, stepped, walked⟩
        obtain ⟨directory, short, rfl⟩ := step_eq_ok_iff.mp stepped
        obtain ⟨all_short, directories, rfl⟩ := ih.mp walked
        refine ⟨List.forall_mem_cons.mpr ⟨short, all_short⟩, ?_, rfl⟩
        intro front t begins
        cases front with
        | nil => exact directory
        | cons u front =>
            obtain ⟨rfl, behind⟩ := List.cons_prefix_cons.mp begins
            exact directories front t behind
      · rintro ⟨all_short, directories, rfl⟩
        obtain ⟨short, all_short⟩ := List.forall_mem_cons.mp all_short
        have directory := directories [] s (List.cons_prefix_cons.mpr ⟨rfl, List.nil_prefix⟩)
        refine ⟨enter here s, step_eq_ok_iff.mpr ⟨directory, short, rfl⟩,
          ih.mpr ⟨all_short, ?_, rfl⟩⟩
        intro front t begins
        exact directories (s :: front) t (List.cons_prefix_cons.mpr ⟨rfl, begins⟩)

theorem eq_place_of_locate (absolute : isAbsolute path = true)
    (located : w.locate path = .ok loc) : loc = place path := by
  obtain ⟨-, -, loc_eq⟩ := walk_eq_ok_iff.mp (walk_of_locate located)
  rwa [start, if_pos absolute] at loc_eq

/-- The system can be asked about the path. -/
structure IsAdmissible (path : String) : Prop where
  some_text : path ≠ ""
  no_nul : '\x00' ∉ path.toList
  short : path.utf8ByteSize ≤ pathLimit
  short_names : ∀ s ∈ Path.segments path, IsShort s

theorem locate_eq_ok_iff : w.locate path = .ok loc ↔ IsAdmissible path ∧
    (∀ front s, front ++ [s] <+: Path.segments path →
      w.tree.node? (follow (w.start path) front) = some .directory) ∧
    loc = follow (w.start path) (Path.segments path) := by
  unfold locate
  split_ifs with nul empty long
  · exact iff_of_false (fun h => nomatch h) (fun h => h.1.no_nul (by simpa using nul))
  · exact iff_of_false (fun h => nomatch h) (fun h => h.1.some_text empty)
  · exact iff_of_false (fun h => nomatch h) (fun h => absurd h.1.short (Nat.not_le_of_lt long))
  · rw [mapError_eq_ok_iff, walk_eq_ok_iff]
    constructor
    · rintro ⟨all_short, leads⟩
      exact ⟨⟨empty, by simpa using nul, Nat.le_of_not_lt long, all_short⟩, leads⟩
    · rintro ⟨admissible, leads⟩
      exact ⟨admissible.short_names, leads⟩

/-- Each beginning of the path names a directory, and so does the whole path. -/
structure LeadsToDirectory (tree : FileTree) (path : String) : Prop where
  admissible : IsAdmissible path
  directories : ∀ front, front <+: Path.segments path →
    tree.node? (follow [] front) = some .directory

theorem isDirectory_iff (absolute : isAbsolute path = true) :
    w.isDirectory path = true ↔ LeadsToDirectory w.tree path := by
  rw [isDirectory_eq_true_iff]
  constructor
  · rintro ⟨loc, located, directory⟩
    obtain ⟨admissible, directories, rfl⟩ := locate_eq_ok_iff.mp located
    rw [start, if_pos absolute] at directory directories
    refine ⟨admissible, ?_⟩
    intro front begins
    obtain ⟨back, split⟩ := begins
    cases back with
    | nil =>
        rw [List.append_nil] at split
        rwa [split]
    | cons s back => exact directories front s ⟨back, by rw [← split]; simp⟩
  · intro leads
    refine ⟨place path, locate_eq_ok_iff.mpr ⟨leads.admissible, ?_, ?_⟩,
      leads.directories _ List.prefix_rfl⟩
    · rw [start, if_pos absolute]
      intro front s begins
      exact leads.directories front ((List.prefix_append front [s]).trans begins)
    · rw [start, if_pos absolute, place]

end Workspace

end VersionStamp
