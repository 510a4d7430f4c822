/-
# VersionStamp.Proofs.Writing — what carrying out a plan does to the files

A file that is *brought* to its new text is written, unless it has that text already (`Brought`).
No directory is made or removed by it, the file reads as its new text afterwards, and no other
place changes.

For a plan that was made, the first write can fail, and then nothing has happened; the second
cannot (`Plan.apply_cases`).  The grammar was read when the plan was made, so the way to it is
there and ends at a file, and writing the header leaves both facts as they were.
-/
import VersionStamp.Proofs.Planning
import VersionStamp.Proofs.Targets

namespace VersionStamp

open Workspace

variable {w w' : Workspace} {git : Git} {layout : Layout} {r : Rendered} {path text : String}
  {front : List Path.Segment} {last : Path.Segment} {loc : Location} {failure : Failure}

/-! ## One file

What is to be known of a file that was brought to its new text, whether or not that took a write:
it reads as the new text, its place has the bytes of it, and nothing else has moved.  For a file
that was kept this rests on how the plan was made, from what the file holds (`Workspace.Holds`).  A
write is refused only for what the path leads to, so a file that can be read can be written. -/

/-- The file is brought to its new text: it is written, unless it has that text already. -/
inductive Brought (w : Workspace) (r : Rendered) : Workspace → Prop
  | written {w' : Workspace} {loc : Location} (changed : r.isChanged = true)
      (wrote : Wrote w r.path r.content w' loc) : Brought w r w'
  | kept (same : r.isChanged = false) : Brought w r w

namespace Brought

theorem sameDirectories (brought : Brought w r w') : SameDirectories w w' := by
  cases brought with
  | written _ wrote => exact wrote.sameDirectories
  | kept _ => exact .refl w

theorem readText_eq (brought : Brought w r w') (holds : w.Holds r.path r.previous) :
    w'.readText r.path = .ok r.content := by
  cases brought with
  | written _ wrote => exact wrote.readText_eq
  | kept same =>
      have previous_eq : r.previous = some r.content := by simpa [Rendered.isChanged] using same
      rw [previous_eq] at holds
      exact holds

theorem exists_locate (brought : Brought w r w') (holds : w.Holds r.path r.previous) :
    ∃ loc, w.locate r.path = .ok loc ∧ w.tree.node? loc ≠ some .directory := by
  cases brought with
  | written _ wrote => exact ⟨_, wrote.located, wrote.no_directory⟩
  | kept same =>
      have previous_eq : r.previous = some r.content := by simpa [Rendered.isChanged] using same
      rw [previous_eq] at holds
      obtain ⟨loc, bytes, located, at_loc, -⟩ := readText_eq_ok_iff.mp holds
      exact ⟨loc, located, by simp [at_loc]⟩

theorem node?_eq (brought : Brought w r w') (holds : w.Holds r.path r.previous)
    (located : w.locate r.path = .ok loc) (other : Location) :
    w'.tree.node? other =
      if other = loc then some (.file (Text.bytes r.content)) else w.tree.node? other := by
  cases brought with
  | written _ wrote =>
      obtain rfl := Except.ok.inj (wrote.located.symm.trans located)
      exact wrote.node?_eq other
  | kept same =>
      have previous_eq : r.previous = some r.content := by simpa [Rendered.isChanged] using same
      rw [previous_eq] at holds
      obtain ⟨loc', bytes, located', at_loc, spells⟩ := readText_eq_ok_iff.mp holds
      obtain rfl := Except.ok.inj (located'.symm.trans located)
      split
      · next here => rw [here, at_loc, Text.bytes_of_text? spells]
      · rfl

theorem locate_of_node?_ne (brought : Brought w r w')
    (differs : w'.tree.node? loc ≠ w.tree.node? loc) : w.locate r.path = .ok loc := by
  cases brought with
  | written _ wrote =>
      rw [wrote.node?_eq] at differs
      split at differs
      · next same => rw [same, wrote.located]
      · exact absurd rfl differs
  | kept _ => exact absurd rfl differs

theorem readText_of_ne {loc' : Location} (brought : Brought w r w')
    (located : w.locate path = .ok loc') (apart : ∀ loc, w.locate r.path = .ok loc → loc' ≠ loc)
    (read : w.readText path = .ok text) : w'.readText path = .ok text := by
  cases brought with
  | written _ wrote => exact wrote.readText_of_ne located (apart _ wrote.located) read
  | kept _ => exact read

end Brought

namespace Rendered

/-- What becomes of the file when it is written. -/
def status (r : Rendered) : Status := if r.isChanged then .updated else .unchanged

theorem brought_of_write (split : Path.segments r.path = front ++ [last]) (named : IsFileName last)
    {changed : Bool} (written : r.write w = .ok (w', changed)) :
    changed = r.isChanged ∧ Brought w r w' := by
  unfold write at written
  split at written
  · next is_changed =>
    obtain ⟨after, wrote, same⟩ := bind_eq_ok_iff.mp written
    obtain ⟨rfl, rfl⟩ := Prod.mk.inj (Except.ok.inj same)
    obtain ⟨loc, wrote⟩ := wrote_of_writeText split named (mapError_eq_ok_iff.mp wrote)
    exact ⟨is_changed.symm, .written is_changed wrote⟩
  · next is_same =>
    obtain ⟨rfl, rfl⟩ := Prod.mk.inj (Except.ok.inj written)
    rw [Bool.not_eq_true] at is_same
    exact ⟨is_same.symm, .kept is_same⟩

theorem write_eq_error (failed : r.write w = .error failure) :
    ∃ cause, failure = .attempting s!"Failed to write {r.path}" cause := by
  unfold write at failed
  split at failed
  · cases wrote : w.writeText r.path r.content with
    | ok after =>
        rw [wrote] at failed
        exact nomatch failed
    | error cause =>
        rw [wrote] at failed
        exact ⟨cause, (Except.error.inj failed).symm⟩
  · exact nomatch failed

theorem exists_write_of_locate (split : Path.segments r.path = front ++ [last])
    (named : IsFileName last) (located : w.locate r.path = .ok loc)
    (no_directory : w.tree.node? loc ≠ some .directory) :
    ∃ w', r.write w = .ok (w', r.isChanged) := by
  have writable : w.locateFile r.path = .ok loc :=
    (locateFile_eq_ok_iff split named).mpr ⟨located, no_directory⟩
  unfold write
  by_cases changed : r.isChanged = true
  · have wrote : w.writeText r.path r.content = .ok _ :=
      writeText_eq_ok_iff.mpr ⟨loc, writable, rfl⟩
    rw [if_pos changed, wrote, changed]
    exact ⟨_, rfl⟩
  · rw [if_neg changed, Bool.not_eq_true _ |>.mp changed]
    exact ⟨w, rfl⟩

theorem exists_write_eq_ok (split : Path.segments r.path = front ++ [last])
    (named : IsFileName last) (read : w.readText r.path = .ok text) :
    ∃ w', r.write w = .ok (w', r.isChanged) := by
  obtain ⟨loc, bytes, located, at_loc, -⟩ := readText_eq_ok_iff.mp read
  exact exists_write_of_locate split named located (by simp [at_loc])

end Rendered

/-! ## Both files

The header is written before the grammar, and it cannot be in the way of the grammar: the two paths
lead to different places, and bringing the header to its text makes no directory.  So after the
first write nothing can fail any more. -/

theorem writeAll_of_write (first : Option String) (rest : List Rendered)
    (written : r.write w = .ok (w', r.isChanged)) :
    ∃ first', writeAll w first (r :: rest) =
      ((writeAll w' first' rest).1, (writeAll w' first' rest).2.map (r.status :: ·)) := by
  unfold Rendered.status
  cases changed : r.isChanged with
  | true =>
      rw [changed] at written
      exact ⟨first.or (some r.path), by simp only [writeAll, written, if_true]⟩
  | false =>
      rw [changed] at written
      exact ⟨first, by simp only [writeAll, written, Bool.false_eq_true, if_false]⟩

theorem writeAll_of_unchanged (first : Option String) {files : List Rendered}
    (same : ∀ r ∈ files, r.isChanged = false) :
    writeAll w first files = (w, .ok (files.map fun _ => .unchanged)) := by
  induction files generalizing first with
  | nil => rfl
  | cons r files ih =>
      rw [List.forall_mem_cons] at same
      have kept : r.write w = .ok (w, r.isChanged) := by
        rw [Rendered.write, same.1]
        rfl
      obtain ⟨first', step⟩ := writeAll_of_write first files kept
      rw [step, ih first' same.2, Rendered.status, same.1]
      rfl

namespace Plan

variable {commit : String} {previous : Option String} {plan : Plan}

theorem apply_of_write_error (made : Made w git layout commit previous text plan)
    (failed : (Rendered.headerAt layout.versionHeader previous plan.stamp).write w =
      .error failure) : plan.apply w = (w, .error failure) := by
  rw [apply, made.rendered_eq]
  simp only [writeAll, failed]

/-- Writing the header leaves the grammar to be read as before: they are two places. -/
theorem Made.readText_grammar (made : Made w git layout commit previous text plan)
    (brought : Brought w (.headerAt layout.versionHeader previous plan.stamp) w') :
    w'.readText layout.grammarFile = .ok text := by
  obtain ⟨loc, -, located, -⟩ := readText_eq_ok_iff.mp made.read
  refine brought.readText_of_ne located (fun loc' located' => ?_) made.read
  exact Layout.ne_of_locate_targets located' located

/-- Once the header is written, the grammar can be written too, and the plan is carried out. -/
theorem apply_of_write {changed : Bool} (made : Made w git layout commit previous text plan)
    (written : (Rendered.headerAt layout.versionHeader previous plan.stamp).write w =
      .ok (w', changed)) :
    Brought w (.headerAt layout.versionHeader previous plan.stamp) w' ∧
      ∃ after, (Rendered.grammarAt layout.grammarFile text plan.stamp).write w' =
          .ok (after, (Rendered.grammarAt layout.grammarFile text plan.stamp).isChanged) ∧
        Brought w' (.grammarAt layout.grammarFile text plan.stamp) after ∧
        plan.apply w = (after, .ok (plan.rendered.map Rendered.status)) := by
  obtain ⟨front, split⟩ := layout.exists_segments_versionHeader
  obtain ⟨front', split'⟩ := layout.exists_segments_grammarFile
  have readable (brought : Brought w _ w') := made.readText_grammar brought
  rw [apply, made.rendered_eq]
  generalize header_eq : Rendered.headerAt layout.versionHeader previous plan.stamp = header
    at written readable ⊢
  generalize grammar_eq : Rendered.grammarAt layout.grammarFile text plan.stamp = grammar
  have header_path : header.path = layout.versionHeader := by rw [← header_eq]; rfl
  have grammar_path : grammar.path = layout.grammarFile := by rw [← grammar_eq]; rfl
  rw [← header_path] at split
  rw [← grammar_path] at split' readable
  obtain ⟨rfl, brought⟩ := Rendered.brought_of_write split Layout.isFileName_header written
  obtain ⟨after, written'⟩ :=
    Rendered.exists_write_eq_ok split' Layout.isFileName_grammar (readable brought)
  obtain ⟨-, brought'⟩ := Rendered.brought_of_write split' Layout.isFileName_grammar written'
  refine ⟨brought, after, written', brought', ?_⟩
  obtain ⟨first, step⟩ := writeAll_of_write none [grammar] written
  obtain ⟨_, step'⟩ := writeAll_of_write first [] written'
  rw [step, step']
  rfl

/-- A plan that was made is carried out in full, or nothing is written.  It is the header that
cannot be written then. -/
theorem apply_cases (made : Made w git layout commit previous text plan) :
    (∃ cause, plan.apply w =
      (w, .error (.attempting s!"Failed to write {layout.versionHeader}" cause))) ∨
    ∃ between after, Brought w (.headerAt layout.versionHeader previous plan.stamp) between ∧
      Brought between (.grammarAt layout.grammarFile text plan.stamp) after ∧
      plan.apply w = (after, .ok (plan.rendered.map Rendered.status)) := by
  cases written : (Rendered.headerAt layout.versionHeader previous plan.stamp).write w with
  | error failure =>
      obtain ⟨cause, rfl⟩ := Rendered.write_eq_error written
      exact .inl ⟨cause, apply_of_write_error made written⟩
  | ok wrote =>
      obtain ⟨brought, after, -, brought', applied⟩ := apply_of_write made written
      exact .inr ⟨wrote.1, after, brought, brought', applied⟩

end Plan

end VersionStamp
