/-
# VersionStamp.Proofs.InOrder — carrying out any plan whatever

A plan that a run makes has two files, and their paths are known.  Here a plan is any list of files:
a path may lead nowhere or to a directory, and two of them may lead to one file.  `Writes` says what
it is to write such a list in order, and `StopsAt` what it is to come to a file that cannot be
written.  One of the two happens, and the plan reports it (`Plan.apply_in_order`).

To write the list once more changes nothing.  Directories are the same after each write, so every
path leads where it has led before, and the files are again written one over another in the same
order; the last text of each is the one that it has (`FileTree.writeEach_writeEach`).
-/
import VersionStamp.Proofs.Writing

namespace VersionStamp

open Workspace

/-! ## Files written one over another

Writes at one location overwrite each other, and writes at two can trade places once both have an
entry; new entries are put at the end, so that the order of the first writes shows in the list.  A
file that is written again after others can therefore be moved up to its last write, and by
induction from the end a whole list of writes can be repeated without a trace. -/

namespace FileTree

variable {loc other : Location} {node node' : Node} {entries : List (Location × Node)}

theorem setEntry_setEntry_self (loc : Location) (node node' : Node)
    (entries : List (Location × Node)) :
    setEntry loc node (setEntry loc node' entries) = setEntry loc node entries := by
  induction entries with
  | nil => simp [setEntry]
  | cons entry rest ih =>
      by_cases here : entry.1 = loc
      · simp [setEntry, here]
      · simp [setEntry, here, ih]

theorem setEntry_comm (apart : other ≠ loc) (there : loc ∈ entries.map Prod.fst) :
    setEntry other node' (setEntry loc node entries) =
      setEntry loc node (setEntry other node' entries) := by
  induction entries with
  | nil => exact nomatch there
  | cons entry rest ih =>
      by_cases here : entry.1 = loc
      · have passed : entry.1 ≠ other := here ▸ apart.symm
        simp [setEntry, here, apart.symm]
      · have behind : loc ∈ rest.map Prod.fst := by
          simpa [Ne.symm here] using there
        by_cases here' : entry.1 = other
        · simp [setEntry, here', apart]
        · simp [setEntry, here, here', ih behind]

theorem mem_map_fst_setEntry (there : other ∈ entries.map Prod.fst ∨ other = loc) :
    other ∈ (setEntry loc node entries).map Prod.fst := by
  induction entries with
  | nil => simpa [setEntry] using there
  | cons entry rest ih =>
      by_cases here : entry.1 = loc
      · rw [setEntry, if_pos here]
        simpa [here, or_comm, or_assoc] using there
      · rw [setEntry, if_neg here, List.map_cons, List.mem_cons]
        rw [List.map_cons, List.mem_cons, or_assoc] at there
        exact there.imp_right ih

/-- The tree with files of these contents at these locations, written one after another. -/
def writeEach (tree : FileTree) (files : List (Location × ByteArray)) : FileTree :=
  files.foldl (fun tree file => tree.write file.1 file.2) tree

theorem writeEach_cons (tree : FileTree) (file : Location × ByteArray)
    (files : List (Location × ByteArray)) :
    tree.writeEach (file :: files) = (tree.write file.1 file.2).writeEach files := rfl

theorem writeEach_concat (tree : FileTree) (files : List (Location × ByteArray))
    (file : Location × ByteArray) :
    tree.writeEach (files ++ [file]) = (tree.writeEach files).write file.1 file.2 := by
  simp [writeEach, List.foldl_append]

/-- There is an entry for the location. -/
def Has (tree : FileTree) (loc : Location) : Prop := loc ∈ tree.entries.map Prod.fst

theorem has_write {tree : FileTree} {content : ByteArray} (there : tree.Has other ∨ other = loc) :
    (tree.write loc content).Has other := mem_map_fst_setEntry there

theorem write_write_self (tree : FileTree) (loc : Location) (content content' : ByteArray) :
    (tree.write loc content').write loc content = tree.write loc content := by
  simp [write, setEntry_setEntry_self]

theorem write_comm {tree : FileTree} {content content' : ByteArray} (apart : other ≠ loc)
    (there : tree.Has loc) :
    (tree.write loc content).write other content' =
      (tree.write other content').write loc content := by
  simp only [write, setEntry_comm apart there]

theorem has_writeEach {tree : FileTree} {files : List (Location × ByteArray)}
    (there : tree.Has loc ∨ loc ∈ files.map Prod.fst) : (tree.writeEach files).Has loc := by
  induction files generalizing tree with
  | nil => simpa [writeEach] using there
  | cons file files ih =>
      rw [List.map_cons, List.mem_cons, ← or_assoc] at there
      exact ih (there.imp_left has_write)

theorem write_writeEach_write {tree : FileTree} {files : List (Location × ByteArray)}
    (there : ∀ file ∈ files, tree.Has file.1) (loc : Location) (content : ByteArray) :
    ((tree.write loc content).writeEach files).write loc content =
      (tree.writeEach files).write loc content := by
  induction files generalizing tree with
  | nil => exact write_write_self tree loc content content
  | cons file files ih =>
      rw [List.forall_mem_cons] at there
      rw [writeEach_cons, writeEach_cons]
      by_cases same : file.1 = loc
      · rw [same, write_write_self]
      · rw [← write_comm (Ne.symm same) there.1]
        exact ih fun file' mem => has_write (.inl (there.2 file' mem))

/-- Writing all the files once more leaves the tree as it is. -/
theorem writeEach_writeEach (tree : FileTree) (files : List (Location × ByteArray)) :
    (tree.writeEach files).writeEach files = tree.writeEach files := by
  induction files using List.reverseRecOn with
  | nil => rfl
  | append_singleton files file ih =>
      have there : ∀ file' ∈ files, (tree.writeEach files).Has file'.1 := fun file' mem =>
        has_writeEach (.inr (List.mem_map_of_mem mem))
      rw [writeEach_concat, writeEach_concat, write_writeEach_write there, ih]

end FileTree

/-! ## The way to a file

A write needs a path that ends in a name, a directory above it and no directory in its place.  All
three are questions about directories, and a write makes or removes none. -/

namespace Workspace

variable {w w' : Workspace} {path : String} {loc : Location}

theorem SameDirectories.symm (same : SameDirectories w w') : SameDirectories w' w :=
  ⟨same.cwd.symm, fun loc => (same.directory_iff loc).symm⟩

theorem no_directory_of_locateFile (located : w.locateFile path = .ok loc) :
    w.tree.node? loc ≠ some .directory := by
  unfold locateFile at located
  split_ifs at located
  split at located
  · exact nomatch located
  · rw [mapError_eq_ok_iff, bind_eq_ok_iff] at located
    obtain ⟨here, -, named⟩ := located
    split_ifs at named
    obtain ⟨target, -, free⟩ := bind_eq_ok_iff.mp named
    split at free
    · exact nomatch free
    · next no_directory =>
      obtain rfl := Except.ok.inj free
      exact no_directory

theorem locateFile_eq_ok_congr (same : SameDirectories w w') (path : String) (loc : Location) :
    w'.locateFile path = .ok loc ↔ w.locateFile path = .ok loc := by
  unfold locateFile
  split_ifs with nul empty long
  · exact Iff.rfl
  · exact Iff.rfl
  · exact Iff.rfl
  · split
    · exact Iff.rfl
    · simp only [mapError_eq_ok_iff, bind_eq_ok_iff, start, same.cwd]
      refine exists_congr fun here => and_congr (walk_eq_ok_congr same _ _ here) ?_
      split_ifs with no_name
      · exact Iff.rfl
      · simp only [bind_eq_ok_iff]
        refine exists_congr fun target =>
          and_congr (step_eq_ok_congr (same.directory_iff here) _ target) ?_
        have at_target := same.directory_iff target
        split
        · next found => rw [at_target.mp found]
        · next free =>
          split
          · next found => exact absurd (at_target.mpr found) free
          · exact Iff.rfl

end Workspace

/-! ## A list of files

The two ways to get through a list.  In the first, what was written is a list of locations with
contents, and these do not depend on the workspace but through its directories
(`Writes.exists_writeEach`); so the files can be written over the result, and the same tree comes
out. -/

/-- The files are written one after another, and those are skipped that have their new texts. -/
inductive Writes : Workspace → List Rendered → Workspace → Prop
  | nil {w : Workspace} : Writes w [] w
  | skipped {w after : Workspace} {r : Rendered} {rest : List Rendered}
      (same : r.isChanged = false) (writes : Writes w rest after) : Writes w (r :: rest) after
  | wrote {w between after : Workspace} {r : Rendered} {rest : List Rendered}
      (changed : r.isChanged = true) (written : w.writeText r.path r.content = .ok between)
      (writes : Writes between rest after) : Writes w (r :: rest) after

/-- Some of the files are written, and then there is one that cannot be. -/
structure StopsAt (w : Workspace) (files done : List Rendered) (r : Rendered)
    (between : Workspace) (cause : IoError) : Prop where
  begins : done ++ [r] <+: files
  writes : Writes w done between
  changed : r.isChanged = true
  failed : between.writeText r.path r.content = .error cause

variable {w w' between after : Workspace} {r : Rendered} {files done : List Rendered}
  {cause : IoError}

/-- The same files end up at the same places in every workspace with the same directories. -/
theorem Writes.exists_writeEach (writes : Writes w files after) :
    ∃ contents, after = { w with tree := w.tree.writeEach contents } ∧ SameDirectories w after ∧
      ∀ w', SameDirectories w w' →
        Writes w' files { w' with tree := w'.tree.writeEach contents } := by
  induction writes with
  | nil => exact ⟨[], rfl, .refl _, fun _ _ => .nil⟩
  | skipped same _ ih =>
      obtain ⟨contents, after_eq, kept, elsewhere⟩ := ih
      exact ⟨contents, after_eq, kept, fun w' same' => .skipped same (elsewhere w' same')⟩
  | @wrote w between after r rest changed written _ ih =>
      obtain ⟨contents, after_eq, kept, elsewhere⟩ := ih
      obtain ⟨loc, located, rfl⟩ := writeText_eq_ok_iff.mp written
      have no_directory := no_directory_of_locateFile located
      have kept_here := sameDirectories_write (Text.bytes r.content) no_directory
      refine ⟨(loc, Text.bytes r.content) :: contents, after_eq, kept_here.trans kept,
        fun w' same => ?_⟩
      have located' := (locateFile_eq_ok_congr same r.path loc).mpr located
      have kept_there := sameDirectories_write (Text.bytes r.content)
        (no_directory_of_locateFile located')
      exact .wrote changed (writeText_eq_ok_iff.mpr ⟨loc, located', rfl⟩)
        (elsewhere _ (kept_here.symm.trans (same.trans kept_there)))

/-- Where the files were written, they can be written once more, and nothing changes. -/
theorem Writes.again (writes : Writes w files after) : Writes after files after := by
  obtain ⟨contents, after_eq, kept, elsewhere⟩ := writes.exists_writeEach
  have again := elsewhere after kept
  have same : after.tree.writeEach contents = after.tree := by
    rw [after_eq]
    exact FileTree.writeEach_writeEach w.tree contents
  rwa [same] at again

theorem StopsAt.cons_of_skipped (same : r.isChanged = false) {stopped : Rendered}
    (stops : StopsAt w files done stopped between cause) :
    StopsAt w (r :: files) (r :: done) stopped between cause :=
  ⟨List.cons_prefix_cons.mpr ⟨rfl, stops.begins⟩, .skipped same stops.writes, stops.changed,
    stops.failed⟩

theorem StopsAt.cons_of_wrote (changed : r.isChanged = true)
    (written : w.writeText r.path r.content = .ok w') {stopped : Rendered}
    (stops : StopsAt w' files done stopped between cause) :
    StopsAt w (r :: files) (r :: done) stopped between cause :=
  ⟨List.cons_prefix_cons.mpr ⟨rfl, stops.begins⟩, .wrote changed written stops.writes,
    stops.changed, stops.failed⟩

theorem writes_or_stopsAt (w : Workspace) (files : List Rendered) :
    (∃ after, Writes w files after) ∨
      ∃ done r between cause, StopsAt w files done r between cause := by
  induction files generalizing w with
  | nil => exact .inl ⟨w, .nil⟩
  | cons r files ih =>
      cases changed : r.isChanged with
      | false =>
          rcases ih w with ⟨after, writes⟩ | ⟨done, stopped, between, cause, stops⟩
          · exact .inl ⟨after, .skipped changed writes⟩
          · exact .inr ⟨r :: done, stopped, between, cause, stops.cons_of_skipped changed⟩
      | true =>
          cases written : w.writeText r.path r.content with
          | error cause =>
              exact .inr ⟨[], r, w, cause, List.prefix_append [r] files, .nil, changed, written⟩
          | ok w' =>
              rcases ih w' with ⟨after, writes⟩ | ⟨done, stopped, between, cause, stops⟩
              · exact .inl ⟨after, .wrote changed written writes⟩
              · exact .inr ⟨r :: done, stopped, between, cause,
                  stops.cons_of_wrote changed written⟩

/-! ## What is reported

`writeAll` follows the list and carries the path of the first file that was written.  When it comes
to a file that cannot be written, that path is the one it has been given or else that of the first
file of the list that changed (`writeAll_append_of_failed`), which is why the induction is over all
values of it. -/

theorem Rendered.write_of_same (same : r.isChanged = false) : r.write w = .ok (w, false) := by
  rw [Rendered.write, same]
  rfl

theorem Rendered.write_of_writeText (changed : r.isChanged = true)
    (written : w.writeText r.path r.content = .ok w') : r.write w = .ok (w', true) := by
  rw [Rendered.write, if_pos changed, written]
  rfl

theorem Rendered.write_of_failed (changed : r.isChanged = true)
    (failed : w.writeText r.path r.content = .error cause) :
    r.write w = .error (.attempting s!"Failed to write {r.path}" cause) := by
  rw [Rendered.write, if_pos changed, failed]
  rfl

theorem writeAll_of_writes (writes : Writes w files after) (first : Option String) :
    writeAll w first files = (after, .ok (files.map Rendered.status)) := by
  induction writes generalizing first with
  | nil => rfl
  | skipped same _ ih =>
      simp only [writeAll, Rendered.write_of_same same, ih, List.map_cons, Rendered.status, same]
      rfl
  | wrote changed written _ ih =>
      simp only [writeAll, Rendered.write_of_writeText changed written, ih, List.map_cons,
        Rendered.status, changed]
      rfl

/-- The failure to write a file, after another was written or none. -/
def Failure.behind (updated : Option String) (stale : String) (failure : Failure) : Failure :=
  match updated with
  | none => failure
  | some updated => .partialWrite updated stale failure

theorem writeAll_append_of_failed (writes : Writes w done between) (changed : r.isChanged = true)
    (failed : between.writeText r.path r.content = .error cause) (rest : List Rendered)
    (first : Option String) :
    writeAll w first (done ++ r :: rest) = (between, .error (.behind
      (first.or ((done.find? (·.isChanged)).map (·.path))) r.path
      (.attempting s!"Failed to write {r.path}" cause))) := by
  induction writes generalizing first with
  | nil =>
      rw [List.nil_append, writeAll, Rendered.write_of_failed changed failed]
      cases first <;> rfl
  | skipped same _ ih =>
      rw [List.cons_append, writeAll, Rendered.write_of_same same]
      simp only [ih failed, List.find?_cons, same]
      rfl
  | wrote changed' written _ ih =>
      -- The first file written so far stays the first one.
      rw [List.cons_append, writeAll, Rendered.write_of_writeText changed' written]
      simp only [ih failed, List.find?_cons, changed', Option.or_assoc, Option.some_or,
        Option.map_some]
      rfl

namespace Plan

/-- Carrying out a plan writes its files in order and skips those that have their new texts.
Either all of this goes well; then each file is reported as what became of it, and carrying the plan
out once more reports the same and changes nothing.  Or it stops at a file that cannot be written,
with the files before it as they were written and no other; then that failure is reported, and the
first of the files that were written with it, if there is one. -/
theorem apply_in_order (plan : Plan) (w : Workspace) :
    (∃ after, Writes w plan.rendered after ∧
      plan.apply w = (after, .ok (plan.rendered.map Rendered.status)) ∧
      plan.apply after = (after, .ok (plan.rendered.map Rendered.status))) ∨
    ∃ done r between cause, StopsAt w plan.rendered done r between cause ∧
      plan.apply w = (between, .error
        (match done.find? (·.isChanged) with
        | none => .attempting s!"Failed to write {r.path}" cause
        | some first =>
            .partialWrite first.path r.path (.attempting s!"Failed to write {r.path}" cause))) := by
  rcases writes_or_stopsAt w plan.rendered with
    ⟨after, writes⟩ | ⟨done, r, between, cause, stops⟩
  · exact .inl ⟨after, writes, writeAll_of_writes writes none,
      writeAll_of_writes writes.again none⟩
  · refine .inr ⟨done, r, between, cause, stops, ?_⟩
    obtain ⟨⟨rest, split⟩, writes, changed, failed⟩ := stops
    rw [apply, ← split, List.append_assoc, List.singleton_append,
      writeAll_append_of_failed writes changed failed]
    cases done.find? (·.isChanged) <;> rfl

end Plan

end VersionStamp
