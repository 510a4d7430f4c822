/-
# VersionStamp.Proofs.Diffing — what is printed of a change is a patch

Blocks of lines that stay and edits come by turns in a hunk, and none of them is empty.  So the
lines of one sort with which a hunk begins are those of its first block (`takeWhile_flatMap_of_eq`),
and read from the end those of its last block.  From this the frame of a hunk follows
(`Displays.framed`).

The header of a hunk gives the numbers of its first and its last block.  These are right on the
sides on which the block has lines.  A block without lines on one side is an edit, so the numbers
can only be wrong where an edit comes first or last in a hunk; that happens only where both texts
begin or end (`Displays.announces`).
-/
import VersionStamp.Proofs.Gathering
import VersionStamp.Proofs.Hunks

namespace VersionStamp.Diff

open Patch Hunk

variable {o n : Nat} {blocks h rest : Hunk} {p : Part} {b : Block}

/-! ## The ends of a hunk

The entries of a hunk are those of its blocks, read from the front or from the end.  Both readings
are wanted, for the lines before the first edit and for those behind the last; so what follows is
said of any listing of a block's entries (`Lists`).  Where the blocks alternate and none is empty,
the entries of one sort at an end are those of the outermost block. -/

theorem keeps_of_mem_entries {e : Entry} (mem : e ∈ b.entries) :
    decide (e.kind = .keep) = b.isSame := by
  cases b with
  | same o n ls =>
      obtain ⟨l, -, rfl⟩ := List.mem_map.mp mem
      rfl
  | edit o n deleted inserted =>
      rcases List.mem_append.mp mem with mem | mem <;>
        obtain ⟨l, -, rfl⟩ := List.mem_map.mp mem <;> rfl

theorem entries_ne_nil (some_line : b.HasLines) : b.entries ≠ [] := by
  cases b with
  | same o n ls => simpa [Block.entries, Block.HasLines] using some_line
  | edit o n deleted inserted =>
      simpa [Block.entries, Block.HasLines, imp_iff_not_or] using some_line

/-- The entries of a block in the one direction or the other. -/
def Lists (f : Block → List Entry) : Prop := ∀ b, (f b).Perm b.entries

theorem lists_entries : Lists Block.entries := fun _ => .refl _

theorem lists_reverse : Lists fun b => b.entries.reverse := fun b => b.entries.reverse_perm

section Ends

variable {f : Block → List Entry} (lists : Lists f)
include lists

theorem keeps_of_mem {e : Entry} (mem : e ∈ f b) : decide (e.kind = .keep) = b.isSame :=
  keeps_of_mem_entries ((lists b).mem_iff.mp mem)

theorem ne_nil_of_hasLines (some_line : b.HasLines) : f b ≠ [] := by
  rw [← List.length_pos_iff, (lists b).length_eq, List.length_pos_iff]
  exact entries_ne_nil some_line

theorem takeWhile_flatMap_of_ne (sort : Bool) (full : ∀ b ∈ h, b.HasLines)
    (differs : ∀ b ∈ h.head?, b.isSame ≠ sort) :
    (h.flatMap f).takeWhile (fun e => decide (e.kind = .keep) == sort) = [] := by
  cases h with
  | nil => rfl
  | cons b rest =>
      obtain ⟨e, es, listed⟩ := List.exists_cons_of_ne_nil
        (ne_nil_of_hasLines lists (full b List.mem_cons_self))
      have sort_e := keeps_of_mem lists (listed ▸ List.mem_cons_self : e ∈ f b)
      rw [List.flatMap_cons, listed, List.cons_append, List.takeWhile_cons_of_neg]
      simpa [sort_e] using differs b rfl

theorem takeWhile_flatMap_of_eq (sort : Bool) (is_sort : b.isSame = sort)
    (alternates : ((b :: rest).map Block.isSame).IsChain (· ≠ ·))
    (full : ∀ b' ∈ b :: rest, b'.HasLines) :
    ((b :: rest).flatMap f).takeWhile (fun e => decide (e.kind = .keep) == sort) = f b := by
  have differs : ∀ b' ∈ rest.head?, b'.isSame ≠ sort := by
    intro b' mem
    have next := (List.isChain_cons.mp alternates).1 b'.isSame
      (List.head?_map ▸ Option.mem_map_of_mem _ mem)
    rw [← is_sort]
    exact next.symm
  rw [List.flatMap_cons, List.takeWhile_append_of_pos,
    takeWhile_flatMap_of_ne lists sort (List.forall_mem_cons.mp full).2 differs, List.append_nil]
  intro e mem
  simp [keeps_of_mem lists mem, is_sort]

theorem outermost_flatMap (is_edit : b.isSame = false)
    (alternates : ((b :: rest).map Block.isSame).IsChain (· ≠ ·))
    (full : ∀ b' ∈ b :: rest, b'.HasLines) : outermost ((b :: rest).flatMap f) = f b := by
  have first := takeWhile_flatMap_of_eq lists false is_edit alternates full
  simpa [outermost] using first

theorem leading_flatMap_le (begins : ∀ b ∈ h.head?, b.IsShort)
    (alternates : (h.map Block.isSame).IsChain (· ≠ ·)) (full : ∀ b ∈ h, b.HasLines) :
    leading (h.flatMap f) ≤ contextLines := by
  cases h with
  | nil => exact Nat.zero_le _
  | cons b rest =>
      cases b with
      | same oldAt newAt ls =>
          have first := takeWhile_flatMap_of_eq lists true rfl alternates full
          simp only [beq_true] at first
          rw [leading, first, (lists _).length_eq, Block.entries, List.length_map]
          exact begins _ rfl rfl
      | edit oldAt newAt deleted inserted =>
          have first := takeWhile_flatMap_of_ne lists true full (by simp [Block.isSame])
          simp only [beq_true] at first
          rw [leading, first]
          exact Nat.zero_le _

end Ends

/-! ## The part that a hunk shows

Seen from the text, a hunk announces its place by the numbers of its first and its last block.  A
block has a right number on every side on which it has lines.  So the announcement can be wrong
only for an edit on one side that comes first or last in the hunk, and from `Displays` that edit
comes first or last in the whole change. -/

theorem reverse_entries (h : Hunk) :
    h.entries.reverse = h.reverse.flatMap fun b => b.entries.reverse := by
  rw [Hunk.entries, List.reverse_flatMap]
  rfl

theorem alternates_reverse (alternates : (h.map Block.isSame).IsChain (· ≠ ·)) :
    (h.reverse.map Block.isSame).IsChain (· ≠ ·) := by
  rw [List.map_reverse, List.isChain_reverse]
  exact alternates.imp fun _ _ => Ne.symm

theorem Displays.framed (displays : Displays o n blocks h p) : Framed p.entries := by
  obtain ⟨part_eq, ⟨sound, begins, ends⟩, ⟨b, mem, is_edit⟩, -, -⟩ := displays
  have entries_eq : p.entries = h.entries := by rw [part_eq, Hunk.part]
  rw [entries_eq]
  refine ⟨?_, ?_, ?_⟩
  · obtain ⟨e, es, listed⟩ := List.exists_cons_of_ne_nil (entries_ne_nil (sound.full b mem))
    have mem_e : e ∈ b.entries := listed ▸ List.mem_cons_self
    refine ⟨e, List.mem_flatMap.mpr ⟨b, mem, mem_e⟩, ?_⟩
    simpa [is_edit] using keeps_of_mem_entries mem_e
  · exact leading_flatMap_le lists_entries begins sound.alternates sound.full
  · rw [reverse_entries]
    exact leading_flatMap_le lists_reverse (by rwa [List.head?_reverse])
      (alternates_reverse sound.alternates) (by simpa only [List.mem_reverse] using sound.full)

theorem Block.StandsAt.oldAt_eq (stands : b.StandsAt o n) :
    b.oldAt = o ∨ b.isSame = false ∧ ∀ e ∈ b.entries, e.kind = .insert := by
  cases b with
  | same oldAt newAt ls => exact .inl stands.1
  | edit oldAt newAt deleted inserted =>
      by_cases deletes : deleted = []
      · exact .inr ⟨rfl, by simp [Block.entries, deletes]⟩
      · exact .inl (stands.1 deletes)

theorem Block.StandsAt.newAt_eq (stands : b.StandsAt o n) :
    b.newAt = n ∨ b.isSame = false ∧ ∀ e ∈ b.entries, e.kind = .delete := by
  cases b with
  | same oldAt newAt ls => exact .inl stands.2
  | edit oldAt newAt deleted inserted =>
      by_cases inserts : inserted = []
      · exact .inr ⟨rfl, by simp [Block.entries, inserts]⟩
      · exact .inl (stands.2 inserts)

theorem opensOnly_flatMap {f : Block → List Entry} (lists : Lists f) {kind : Kind}
    (alternates : ((b :: rest).map Block.isSame).IsChain (· ≠ ·))
    (full : ∀ b' ∈ b :: rest, b'.HasLines) (is_edit : b.isSame = false)
    (only : ∀ e ∈ b.entries, e.kind = kind) : OpensOnly kind ((b :: rest).flatMap f) := by
  rw [OpensOnly, outermost_flatMap lists is_edit alternates full]
  exact ⟨ne_nil_of_hasLines lists (full b List.mem_cons_self),
    fun e mem => only e ((lists b).mem_iff.mp mem)⟩

namespace Displays

variable {kind : Kind}

theorem atEdge_of_head? (displays : Displays 0 0 blocks h p) (first : h.head? = some b)
    (is_edit : b.isSame = false) (only : ∀ e ∈ b.entries, e.kind = kind) :
    AtEdge kind (old blocks).length (new blocks).length p := by
  obtain ⟨part_eq, ⟨sound, -, -⟩, -, opens, -⟩ := displays
  obtain ⟨old_start, new_start, -⟩ := opens b first is_edit
  refine .inl ⟨old_start, new_start, ?_⟩
  obtain ⟨rest, rfl⟩ := List.head?_eq_some_iff.mp first
  rw [part_eq]
  exact opensOnly_flatMap lists_entries sound.alternates sound.full is_edit only

theorem atEdge_of_getLast? (displays : Displays 0 0 blocks h p) (last : h.getLast? = some b)
    (is_edit : b.isSame = false) (only : ∀ e ∈ b.entries, e.kind = kind) :
    AtEdge kind (old blocks).length (new blocks).length p := by
  obtain ⟨part_eq, ⟨sound, -, -⟩, -, -, closes⟩ := displays
  obtain ⟨old_stop, new_stop, -⟩ := closes b last is_edit
  refine .inr ⟨by omega, by omega, ?_⟩
  obtain ⟨front, rfl⟩ := List.getLast?_eq_some_iff.mp last
  have alternates := alternates_reverse sound.alternates
  have full : ∀ b' ∈ (front ++ [b]).reverse, b'.HasLines := by
    simpa only [List.mem_reverse] using sound.full
  rw [List.reverse_concat] at alternates full
  rw [part_eq, Hunk.part, reverse_entries, List.reverse_concat]
  exact opensOnly_flatMap lists_reverse alternates full is_edit only

/-- What the text of a hunk says of it is right but at the edges. -/
theorem announces (displays : Displays 0 0 blocks h p) :
    Announces (old blocks).length (new blocks).length h.announced p := by
  obtain ⟨_, mem, -⟩ := displays.edits
  obtain ⟨first, last, head, getLast⟩ := exists_ends (List.ne_nil_of_mem mem)
  have at_start {kind} := @atEdge_of_head? blocks h p first kind displays head
  have at_end {kind} := @atEdge_of_getLast? blocks h p last kind displays getLast
  obtain ⟨part_eq, ⟨sound, -, -⟩, -⟩ := displays
  generalize p.old.start = o at part_eq sound
  generalize p.new.start = n at part_eq sound
  subst part_eq
  obtain ⟨first_stands, o', n', last_stands, old_stop, new_stop⟩ := sound.ends head getLast
  have announced_eq : h.announced =
      ⟨⟨first.oldAt, last.oldAt + last.oldLines.length - first.oldAt⟩,
        ⟨first.newAt, last.newAt + last.newLines.length - first.newAt⟩, h.entries⟩ := by
    simp only [Hunk.announced, head, getLast]
  rw [announced_eq]
  refine ⟨rfl, ?_, ?_⟩
  · rcases first_stands.oldAt_eq with first_at | ⟨is_edit, only⟩
    · rcases last_stands.oldAt_eq with last_at | ⟨is_edit, only⟩
      · left
        rw [first_at, last_at, old_stop, Nat.add_sub_cancel_left]
        rfl
      · exact .inr (at_end is_edit only)
    · exact .inr (at_start is_edit only)
  · rcases first_stands.newAt_eq with first_at | ⟨is_edit, only⟩
    · rcases last_stands.newAt_eq with last_at | ⟨is_edit, only⟩
      · left
        rw [first_at, last_at, new_stop, Nat.add_sub_cancel_left]
        rfl
      · exact .inr (at_end is_edit only)
    · exact .inr (at_start is_edit only)

end Displays

/-! ## Two texts

Put together for the script that is found between the lines of two texts.  Where the texts are
equal the script is one run that stays, and neither a hunk nor a label is printed. -/

theorem hunks_keep (o n : Nat) (ls : List Line) : hunks [⟨.keep, o, n, ls⟩] = [] := by
  have short : ¬ 2 * contextLines <
      ((ls.drop (ls.length - contextLines)).take contextLines).length := by
    have := List.length_take_le contextLines (ls.drop (ls.length - contextLines))
    omega
  rw [hunks, Block.ofScript, List.foldr_cons, List.foldr_nil]
  simp only [Block.push, trimFront, trimBack, Block.dropStart, Block.takeStart, cutHunks,
    if_neg short]
  rfl

theorem hunks_self (ls : List Line) : hunks (gather (script ls ls)) = [] := by
  cases ls with
  | nil => rw [script_self]; rfl
  | cons l ls =>
      have kept : script (l :: ls) (l :: ls) = [⟨.keep, 0, 0, l :: ls⟩] := script_self (l :: ls)
      have deletes_none : settle .delete [⟨.keep, 0, 0, l :: ls⟩] = [⟨.keep, 0, 0, l :: ls⟩] :=
        settle_of_ne (by simp)
      rw [kept, gather, deletes_none, settle_of_ne (by simp), hunks_keep]

theorem exists_tiles (old new : List Line) :
    ∃ parts, Tiles 0 0 parts old new ∧ (∀ p ∈ parts, Framed p.entries) ∧
      (∀ h ∈ hunks (gather (script old new)),
        h ≠ [] ∧ ∀ e ∈ h.entries, e.line ∈ old ∨ e.line ∈ new) ∧
      List.Forall₂ (Announces old.length new.length)
        ((hunks (gather (script old new))).map Hunk.announced) parts := by
  have tells := (tells_script old new).gather
  obtain ⟨parts, tiles, displays⟩ :=
    exists_tiles_hunks (Block.sound_ofScript tells.numbered tells.full)
  rw [tells.old_eq, tells.new_eq] at tiles
  have framed := ((List.forall₂_and_left _ _).mp
    (displays.flip.imp fun p h (display : Displays _ _ _ h p) => ⟨display.framed, trivial⟩)).1
  -- The lines of a hunk are those of its part, which are known.
  have both := ((List.forall₂_and_left _ _).mpr ⟨tiles.mem_of_mem_entries, displays.flip⟩).flip
  have described : List.Forall₂ (fun (h : Hunk) (p : Part) =>
      (h ≠ [] ∧ ∀ e ∈ h.entries, e.line ∈ old ∨ e.line ∈ new) ∧
        Announces old.length new.length h.announced p)
      (hunks (gather (script old new))) parts := by
    refine both.imp ?_
    rintro h p ⟨listed, display⟩
    obtain ⟨b, mem, -⟩ := display.edits
    have entries_eq : p.entries = h.entries := by rw [display.part_eq, Hunk.part]
    have announces := display.announces
    rw [Block.old_ofScript, Block.new_ofScript, tells.old_eq, tells.new_eq] at announces
    exact ⟨⟨List.ne_nil_of_mem mem, entries_eq ▸ listed⟩, announces⟩
  obtain ⟨each, announced⟩ := (List.forall₂_and_left _ _).mp described
  exact ⟨parts, tiles, framed, each, List.forall₂_map_left_iff.mpr announced⟩

theorem unified_eq (label old new : String) :
    let shown := hunks (gather (script (lines old.toList) (lines new.toList)))
    unified label old new =
      if shown = [] then ""
      else s!"--- a/{label}\n+++ b/{label}\n" ++ String.ofList (shown.flatMap Hunk.text) := by
  intro shown
  unfold unified
  split
  · next nothing => rw [if_pos nothing]
  · next some_hunk => rw [if_neg some_hunk]

/-- What is printed of a change between two texts shows it. -/
theorem shows_unified (label old new : String) : Shows label old new (unified label old new) := by
  obtain ⟨parts, tiles, framed, listed, announced⟩ :=
    exists_tiles (lines old.toList) (lines new.toList)
  have printed := unified_eq label old new
  have nothing : old = new →
      hunks (gather (script (lines old.toList) (lines new.toList))) = [] := by
    rintro rfl
    exact hunks_self _
  generalize hunks (gather (script (lines old.toList) (lines new.toList))) = hs
    at listed announced printed nothing
  rw [printed]
  cases hs with
  | nil =>
      obtain rfl := List.forall₂_nil_left_iff.mp announced
      have flat := congrArg List.flatten tiles.eq_of_nil
      rw [flatten_lines, flatten_lines, String.toList_inj] at flat
      exact ⟨iff_of_true (if_pos rfl) flat, fun differ => absurd flat differ⟩
  | cons h hs =>
      have differ : old ≠ new := fun same => List.cons_ne_nil h hs (nothing same)
      rw [if_neg (List.cons_ne_nil h hs)]
      have read := read?_flatMap_text (fun h' mem => (listed h' mem).1) fun h' mem e mem' =>
        ((listed h' mem).2 e mem').elim (isLine_of_mem_lines _) (isLine_of_mem_lines _)
      have some_text : ∀ body, s!"--- a/{label}\n+++ b/{label}\n" ++ body ≠ "" := by
        intro body empty
        simp [toString] at empty
      refine ⟨iff_of_false (some_text _) differ, fun _ => ?_⟩
      refine ⟨_, _, parts, rfl, ?_, announced, ?_, ?_, ?_⟩
      · rw [String.toList_ofList, read]
      · exact patched?_of_tiles tiles
      · exact patched?_of_tiles tiles.flip
      · exact ⟨tiles.inOrder, framed⟩

end VersionStamp.Diff
