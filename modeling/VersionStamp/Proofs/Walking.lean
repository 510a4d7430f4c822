/-
# VersionStamp.Proofs.Walking — paths in a tree that is being written

A run reads two files and writes them, through paths that are walked anew each time.  What makes the
walks agree is that writing a file makes no directory and removes none: `SameDirectories` holds
between the workspace before and the one after, and a walk that arrives in one of them arrives at
the same place in the other (`locate_eq_ok_congr`).

A path whose last segment is the name of a file can be written exactly if it leads to a place that
is no directory (`locateFile_eq_ok_iff`), so what was read can be written.
-/
import Mathlib.Data.List.Basic
import VersionStamp.Workspace

namespace VersionStamp

section Except

variable {ε ε' α β : Type}

theorem bind_eq_ok_iff {x : Except ε α} {f : α → Except ε β} {b : β} :
    x >>= f = .ok b ↔ ∃ a, x = .ok a ∧ f a = .ok b := by
  cases x with
  | error e => exact iff_of_false (fun h => nomatch h) (fun ⟨_, h, _⟩ => nomatch h)
  | ok a => exact ⟨fun h => ⟨a, rfl, h⟩, fun ⟨_, rfl, h⟩ => h⟩

theorem bind_eq_error_iff {x : Except ε α} {f : α → Except ε β} {e : ε} :
    x >>= f = .error e ↔ x = .error e ∨ ∃ a, x = .ok a ∧ f a = .error e := by
  cases x with
  | error e' => simp [bind, Except.bind]
  | ok a => simp [bind, Except.bind]

theorem mapError_eq_ok_iff {x : Except ε α} {f : ε → ε'} {a : α} :
    x.mapError f = .ok a ↔ x = .ok a := by
  cases x with
  | error e => exact iff_of_false (fun h => nomatch h) (fun h => nomatch h)
  | ok b => simp [Except.mapError]

instance decidableEqExcept [DecidableEq ε] [DecidableEq α] : DecidableEq (Except ε α)
  | .ok a, .ok b => decidable_of_iff (a = b) (by simp)
  | .error e, .error f => decidable_of_iff (e = f) (by simp)
  | .ok _, .error _ => isFalse nofun
  | .error _, .ok _ => isFalse nofun

end Except

theorem Text.bytes_of_text? {content : ByteArray} {text : String}
    (spells : text? content = some text) : bytes text = content := by
  unfold text? String.fromUTF8? at spells
  split at spells
  · obtain rfl := Option.some.inj spells
    rfl
  · exact nomatch spells

namespace Workspace

/-! ## The same directories

Two workspaces may differ in every file and still be the same to a walk.  That is the relation
which a write keeps, and all that paths need. -/

/-- The two workspaces have the same directories, and the same one to start from. -/
structure SameDirectories (w w' : Workspace) : Prop where
  cwd : w'.cwd = w.cwd
  directory_iff : ∀ loc, w'.tree.node? loc = some .directory ↔ w.tree.node? loc = some .directory

theorem SameDirectories.refl (w : Workspace) : SameDirectories w w := ⟨rfl, fun _ => Iff.rfl⟩

theorem SameDirectories.trans {w₁ w₂ w₃ : Workspace} (h₁₂ : SameDirectories w₁ w₂)
    (h₂₃ : SameDirectories w₂ w₃) : SameDirectories w₁ w₃ :=
  ⟨h₂₃.cwd.trans h₁₂.cwd, fun loc => (h₂₃.directory_iff loc).trans (h₁₂.directory_iff loc)⟩

theorem sameDirectories_write {w : Workspace} {loc : Location} (content : ByteArray)
    (no_directory : w.tree.node? loc ≠ some .directory) :
    SameDirectories w { w with tree := w.tree.write loc content } := by
  have below : loc ≠ [] := by
    rintro rfl
    exact no_directory (by simp [FileTree.node?])
  refine ⟨rfl, fun other => ?_⟩
  rw [FileTree.node?_write below]
  by_cases same : other = loc
  · subst same
    simp [no_directory]
  · rw [if_neg same]

/-! ## Walks

A step asks the tree whether it starts from a directory and nothing else.  So steps, walks and
located paths come out alike in workspaces with the same directories.  They need not fail alike: a
step from a file and one from nothing are told apart, so only arrivals are compared. -/

theorem step_eq_ok_congr {tree tree' : FileTree} {here : Location}
    (same : tree'.node? here = some .directory ↔ tree.node? here = some .directory)
    (s : Path.Segment) (loc : Location) :
    step tree' here s = .ok loc ↔ step tree here s = .ok loc := by
  by_cases directory : tree.node? here = some .directory
  · simp only [step, directory, same.mpr directory]
  · have stuck : ∀ {t : FileTree}, t.node? here ≠ some .directory → step t here s ≠ .ok loc := by
      intro t no_directory
      unfold step
      split
      · exact fun h => nomatch h
      · exact fun h => nomatch h
      · next found => exact absurd found no_directory
    exact iff_of_false (stuck (directory ∘ same.mp)) (stuck directory)

theorem directory_of_step {tree : FileTree} {here loc : Location} {s : Path.Segment}
    (arrives : step tree here s = .ok loc) : tree.node? here = some .directory := by
  unfold step at arrives
  split at arrives
  · exact nomatch arrives
  · exact nomatch arrives
  · next found => exact found

/-- A walk that arrives goes the same way in a tree with the same directories. -/
theorem walk_eq_ok_congr {w w' : Workspace} (same : SameDirectories w w')
    (segments : List Path.Segment) (here loc : Location) :
    walk w'.tree here segments = .ok loc ↔ walk w.tree here segments = .ok loc := by
  induction segments generalizing here with
  | nil => exact Iff.rfl
  | cons s rest ih =>
      simp only [walk, List.foldlM_cons, bind_eq_ok_iff]
      refine exists_congr fun next => and_congr ?_ (ih next)
      exact step_eq_ok_congr (same.directory_iff here) s next

theorem walk_concat_eq_ok_iff {tree : FileTree} {here loc : Location}
    {front : List Path.Segment} {last : Path.Segment} :
    walk tree here (front ++ [last]) = .ok loc ↔
      ∃ between, walk tree here front = .ok between ∧ step tree between last = .ok loc := by
  simp [walk, List.foldlM_append, bind_eq_ok_iff]

/-! ## Locating a path

To locate a path is to check it and to walk it, and both are settled by the directories; so is
whether it leads to one. -/

theorem locate_eq_ok_congr {w w' : Workspace} (same : SameDirectories w w') (path : String)
    (loc : Location) : w'.locate path = .ok loc ↔ w.locate path = .ok loc := by
  unfold locate
  split_ifs with nul empty long
  · exact Iff.rfl
  · exact Iff.rfl
  · exact Iff.rfl
  · simp only [mapError_eq_ok_iff, start, same.cwd]
    exact walk_eq_ok_congr same _ _ _

theorem isDirectory_eq_true_iff {w : Workspace} {path : String} : w.isDirectory path = true ↔
    ∃ loc, w.locate path = .ok loc ∧ w.tree.node? loc = some .directory := by
  unfold isDirectory
  split
  · next loc found => simp [found]
  · next found => simp [found]

theorem isDirectory_congr {w w' : Workspace} (same : SameDirectories w w') (path : String) :
    w'.isDirectory path = w.isDirectory path := by
  rw [Bool.eq_iff_iff, isDirectory_eq_true_iff, isDirectory_eq_true_iff]
  exact exists_congr fun loc =>
    and_congr (locate_eq_ok_congr same path loc) (same.directory_iff loc)

/-! ## Reading and writing

A path is walked up to its last segment to write and to its end to read.  If the last segment is
the name of a file, both come to one place.  `Wrote` collects what is known after a write: the
place, its new content, and that every other place is as before. -/

/-- A segment that names a file: it does not stay in place or go up. -/
def IsFileName (s : Path.Segment) : Prop := ¬ Path.stays s = true ∧ s ≠ ['.', '.']

instance (s : Path.Segment) : Decidable (IsFileName s) := inferInstanceAs (Decidable (_ ∧ _))

theorem eq_concat_of_step {tree : FileTree} {here loc : Location} {s : Path.Segment}
    (named : IsFileName s) (stepped : step tree here s = .ok loc) :
    loc = here ++ [String.ofList s] := by
  have directory := directory_of_step stepped
  unfold step at stepped
  simp only [directory, named.1, named.2, if_false, Bool.false_eq_true] at stepped
  split at stepped
  · exact nomatch stepped
  · exact (Except.ok.inj stepped).symm

variable {w w' : Workspace} {path text : String} {front : List Path.Segment}
  {last : Path.Segment} {loc : Location}

theorem walk_of_locate (located : w.locate path = .ok loc) :
    walk w.tree (w.start path) (Path.segments path) = .ok loc := by
  unfold locate at located
  split_ifs at located
  exact mapError_eq_ok_iff.mp located

theorem exists_eq_concat_of_locate (split : Path.segments path = front ++ [last])
    (named : IsFileName last) (located : w.locate path = .ok loc) :
    ∃ here, loc = here ++ [String.ofList last] := by
  have walked := walk_of_locate located
  rw [split, walk_concat_eq_ok_iff] at walked
  obtain ⟨here, -, stepped⟩ := walked
  exact ⟨here, eq_concat_of_step named stepped⟩

/-- A path with the name of a file can be written if it leads to a place that is no directory. -/
theorem locateFile_eq_ok_iff (split : Path.segments path = front ++ [last])
    (named : IsFileName last) :
    w.locateFile path = .ok loc ↔
      w.locate path = .ok loc ∧ w.tree.node? loc ≠ some .directory := by
  have some_name : last ≠ [] := by
    rintro rfl
    exact named.1 (by decide)
  have reversed : (Path.segments path).reverse.dropWhile (· = []) = last :: front.reverse := by
    simp [split, some_name]
  have ends : ¬ ((Path.segments path).getLast? = some [] ∨ Path.stays last = true ∨
      last = ['.', '.']) := by
    simp [split, some_name, named.1, named.2]
  unfold locateFile locate
  split_ifs with nul empty long
  · exact iff_of_false (fun h => nomatch h) (fun h => nomatch h.1)
  · exact iff_of_false (fun h => nomatch h) (fun h => nomatch h.1)
  · exact iff_of_false (fun h => nomatch h) (fun h => nomatch h.1)
  · rw [reversed]
    simp only [if_neg ends, mapError_eq_ok_iff, bind_eq_ok_iff, List.reverse_reverse]
    rw [split, walk_concat_eq_ok_iff]
    -- To write, the way is walked with an empty segment at its end, which stays where it is but
    -- asks for a directory, as the last segment does when the whole path is walked.
    constructor
    · rintro ⟨here, arrived, target, stepped, free⟩
      obtain ⟨between, walked, stayed⟩ := walk_concat_eq_ok_iff.mp arrived
      have directory := directory_of_step stayed
      have same : between = here := by
        simpa [step, directory, Path.stays] using stayed
      subst same
      split at free
      · exact nomatch free
      · next no_directory =>
        obtain rfl := Except.ok.inj free
        exact ⟨⟨between, walked, stepped⟩, no_directory⟩
    · rintro ⟨⟨here, walked, stepped⟩, no_directory⟩
      have directory := directory_of_step stepped
      have stayed : step w.tree here [] = .ok here := by simp [step, directory, Path.stays]
      refine ⟨here, walk_concat_eq_ok_iff.mpr ⟨here, walked, stayed⟩, loc, stepped, ?_⟩
      split
      · next found => exact absurd found no_directory
      · rfl

theorem readText_eq_ok_iff :
    w.readText path = .ok text ↔ ∃ loc bytes, w.locate path = .ok loc ∧
      w.tree.node? loc = some (.file bytes) ∧ Text.text? bytes = some text := by
  unfold readText readBytes
  simp only [bind_eq_ok_iff]
  constructor
  · rintro ⟨bytes, ⟨loc, located, found⟩, spelled⟩
    split at found
    · exact nomatch found
    · exact nomatch found
    · next content at_loc =>
      obtain rfl := Except.ok.inj found
      split at spelled
      · next text' spells =>
        obtain rfl := Except.ok.inj spelled
        exact ⟨loc, content, located, at_loc, spells⟩
      · exact nomatch spelled
  · rintro ⟨loc, bytes, located, at_loc, spells⟩
    exact ⟨bytes, ⟨loc, located, by simp [at_loc]⟩, by simp [spells]⟩

theorem writeText_eq_ok_iff :
    w.writeText path text = .ok w' ↔ ∃ loc, w.locateFile path = .ok loc ∧
      w' = { w with tree := w.tree.write loc (Text.bytes text) } := by
  unfold writeText
  simp only [bind_eq_ok_iff]
  exact exists_congr fun loc => and_congr Iff.rfl
    ⟨fun h => (Except.ok.inj h).symm, fun h => by rw [h]; rfl⟩

/-- Writing at a path with the name of a file: one place changes, and it is not a directory. -/
structure Wrote (w : Workspace) (path text : String) (w' : Workspace) (loc : Location) : Prop where
  located : w.locate path = .ok loc
  no_directory : w.tree.node? loc ≠ some .directory
  after_eq : w' = { w with tree := w.tree.write loc (Text.bytes text) }

theorem wrote_of_writeText (split : Path.segments path = front ++ [last])
    (named : IsFileName last) (written : w.writeText path text = .ok w') :
    ∃ loc, Wrote w path text w' loc := by
  obtain ⟨loc, located, after_eq⟩ := writeText_eq_ok_iff.mp written
  obtain ⟨located, no_directory⟩ := (locateFile_eq_ok_iff split named).mp located
  exact ⟨loc, located, no_directory, after_eq⟩

namespace Wrote

theorem sameDirectories (wrote : Wrote w path text w' loc) : SameDirectories w w' := by
  rw [wrote.after_eq]
  exact sameDirectories_write _ wrote.no_directory

theorem node?_eq (wrote : Wrote w path text w' loc) (other : Location) :
    w'.tree.node? other =
      if other = loc then some (.file (Text.bytes text)) else w.tree.node? other := by
  have below : loc ≠ [] := by
    rintro rfl
    exact wrote.no_directory (by simp [FileTree.node?])
  rw [wrote.after_eq]
  exact FileTree.node?_write below _ other

theorem readText_eq (wrote : Wrote w path text w' loc) : w'.readText path = .ok text := by
  refine readText_eq_ok_iff.mpr ⟨loc, Text.bytes text, ?_, ?_, Text.text?_bytes text⟩
  · exact (locate_eq_ok_congr wrote.sameDirectories path loc).mpr wrote.located
  · rw [wrote.node?_eq, if_pos rfl]

theorem readText_of_ne {path' text' : String} {loc' : Location}
    (wrote : Wrote w path text w' loc) (located : w.locate path' = .ok loc') (apart : loc' ≠ loc)
    (read : w.readText path' = .ok text') : w'.readText path' = .ok text' := by
  obtain ⟨found, bytes, located', at_found, spells⟩ := readText_eq_ok_iff.mp read
  obtain rfl := Except.ok.inj (located.symm.trans located')
  refine readText_eq_ok_iff.mpr ⟨loc', bytes, ?_, ?_, spells⟩
  · exact (locate_eq_ok_congr wrote.sameDirectories path' loc').mpr located
  · rw [wrote.node?_eq, if_neg apart, at_found]

end Wrote

end Workspace

end VersionStamp
