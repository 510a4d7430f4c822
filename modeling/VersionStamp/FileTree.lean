/-
# VersionStamp.FileTree — directories and files, and where they are

A tree is known by what stands at each location.  A location is the list of names on the way from
the root.  The root is always a directory.  Files hold bytes.

`write` puts a file at a location and leaves every other location as it is.  `makeDirectory` and
`place` build trees.
-/
import VersionStamp.Text.Utf8

namespace VersionStamp

/-- The names on the way from the root. -/
abbrev Location := List String

/-- What can stand at a location. -/
inductive Node where
  | directory
  | file (content : ByteArray)
  deriving DecidableEq

/-- Directories and files.  Where a location occurs twice, the first entry counts. -/
structure FileTree where
  entries : List (Location × Node)
  deriving DecidableEq

namespace FileTree

/-- The root alone. -/
def empty : FileTree := ⟨[]⟩

/-- What stands at a location. -/
def node? (tree : FileTree) (loc : Location) : Option Node :=
  if loc = [] then some .directory else tree.entries.lookup loc

/-- The entries with another node at a location, which is put last if it is new. -/
def setEntry (loc : Location) (node : Node) : List (Location × Node) → List (Location × Node)
  | [] => [(loc, node)]
  | entry :: rest =>
    if entry.1 = loc then (loc, node) :: rest else entry :: setEntry loc node rest

/-- The tree with a file of this content at a location. -/
def write (tree : FileTree) (loc : Location) (content : ByteArray) : FileTree :=
  ⟨setEntry loc (.file content) tree.entries⟩

/-- Makes a directory and those on the way to it, where there is nothing yet. -/
def makeDirectory (tree : FileTree) (loc : Location) : FileTree :=
  (List.range loc.length).foldl (fun tree i =>
    let here := loc.take (i + 1)
    match tree.node? here with
    | none => ⟨tree.entries ++ [(here, .directory)]⟩
    | some _ => tree) tree

/-- Puts a file at a location and makes the directories on the way to it. -/
def place (tree : FileTree) (loc : Location) (content : ByteArray) : FileTree :=
  (tree.makeDirectory loc.dropLast).write loc content

/-! ## What writing does

What can be seen of a tree after a write, at the place that was written and at every other one.
Nothing else about the order of the entries is relied on. -/

theorem lookup_setEntry (loc other : Location) (node : Node) (entries : List (Location × Node)) :
    (setEntry loc node entries).lookup other =
      if other = loc then some node else entries.lookup other := by
  induction entries with
  | nil =>
      rw [setEntry, List.lookup_cons]
      by_cases h : other = loc
      · simp [h]
      · have : (other == loc) = false := by simpa using h
        simp [this, h]
  | cons entry rest ih =>
      obtain ⟨here, old⟩ := entry
      by_cases hh : here = loc
      · subst hh
        rw [setEntry, if_pos rfl, List.lookup_cons, List.lookup_cons]
        by_cases h : other = here
        · simp [h]
        · have : (other == here) = false := by simpa using h
          simp [this, h]
      · rw [setEntry, if_neg hh, List.lookup_cons, List.lookup_cons, ih]
        by_cases h : other = here
        · subst h
          simp [hh]
        · have : (other == here) = false := by simpa using h
          simp [this]

/-- After writing, the location holds the file and every other one is as before. -/
theorem node?_write {tree : FileTree} {loc : Location} (below : loc ≠ []) (content : ByteArray)
    (other : Location) :
    (tree.write loc content).node? other =
      if other = loc then some (.file content) else tree.node? other := by
  by_cases h : other = []
  · subst h
    simp [node?, Ne.symm below]
  · simp [node?, h, write, lookup_setEntry]

end FileTree

end VersionStamp
