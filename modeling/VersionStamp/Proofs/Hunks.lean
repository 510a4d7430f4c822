/-
# VersionStamp.Proofs.Hunks — what is shown of a change, and what is left out

Blocks made of an account of a change have its lines and its numbers, and stay and edit by turns
(`sound_ofScript`).  To trim them and to cut them into hunks leaves out lines that stay and nothing
else, so the hunks are the parts of a patch with those lines between them (`exists_tiles_hunks`).

Wherever something is left out, a hunk begins or ends with lines that stay.  An edit can therefore
come first or last in a hunk only if it was the first or the last of all blocks; `Displays` carries
this along, since the numbers in a hunk's header hang on it.
-/
import Mathlib.Data.List.Chain
import VersionStamp.Proofs.Printed
import VersionStamp.Proofs.Scripts

namespace VersionStamp.Diff

/-! ## Blocks

What holds of the blocks of an account of a change, whatever is left out of them later: each is
numbered for the place where it stands, stretches that stay and edits take turns, and no block is
empty (`Hunk.Sound`).  From the numbers of the first and the last block alone one can tell where
the blocks begin and end (`Sound.ends`). -/

/-- The block stays. -/
def Block.isSame : Block → Bool
  | .same _ _ _ => true
  | .edit _ _ _ _ => false

/-- The block has lines. -/
def Block.HasLines : Block → Prop
  | .same _ _ lines => lines ≠ []
  | .edit _ _ deleted inserted => deleted ≠ [] ∨ inserted ≠ []

/-- The block is numbered rightly on the sides on which it has lines, if it comes after so many
lines of the old list and so many of the new. -/
def Block.StandsAt (o n : Nat) : Block → Prop
  | .same oldAt newAt _ => oldAt = o ∧ newAt = n
  | .edit oldAt newAt deleted inserted =>
    (deleted ≠ [] → oldAt = o) ∧ (inserted ≠ [] → newAt = n)

namespace Hunk

/-- The old lines of some blocks. -/
def old (h : Hunk) : List Line := h.flatMap Block.oldLines

/-- The new lines of some blocks. -/
def new (h : Hunk) : List Line := h.flatMap Block.newLines

@[simp] theorem old_nil : old [] = [] := rfl

@[simp] theorem new_nil : new [] = [] := rfl

@[simp] theorem old_cons (b : Block) (h : Hunk) : old (b :: h) = b.oldLines ++ old h := rfl

@[simp] theorem new_cons (b : Block) (h : Hunk) : new (b :: h) = b.newLines ++ new h := rfl

@[simp] theorem old_append (h h' : Hunk) : old (h ++ h') = old h ++ old h' := List.flatMap_append

@[simp] theorem new_append (h h' : Hunk) : new (h ++ h') = new h ++ new h' := List.flatMap_append

/-- The blocks are numbered rightly, if they come after so many lines. -/
def Counted (o n : Nat) : Hunk → Prop
  | [] => True
  | b :: rest => b.StandsAt o n ∧ Counted (o + b.oldLines.length) (n + b.newLines.length) rest

theorem counted_append {h h' : Hunk} {o n : Nat} :
    Counted o n (h ++ h') ↔
      Counted o n h ∧ Counted (o + (old h).length) (n + (new h).length) h' := by
  induction h generalizing o n with
  | nil => simp [Counted]
  | cons b h ih =>
      simp only [List.cons_append, Counted, ih, old_cons, new_cons, List.length_append,
        Nat.add_assoc, and_assoc]

/-- The blocks are what one makes of a script: numbered rightly, lines that stay and edits by turns,
and none of them without lines. -/
structure Sound (o n : Nat) (h : Hunk) : Prop where
  counted : Counted o n h
  alternates : (h.map Block.isSame).IsChain (· ≠ ·)
  full : ∀ b ∈ h, b.HasLines

theorem Sound.ends {o n : Nat} {h : Hunk} {first last : Block} (sound : Sound o n h)
    (head : h.head? = some first) (getLast : h.getLast? = some last) :
    first.StandsAt o n ∧ ∃ o' n', last.StandsAt o' n' ∧
      o' + last.oldLines.length = o + (old h).length ∧
      n' + last.newLines.length = n + (new h).length := by
  have counted := sound.counted
  constructor
  · obtain ⟨rest, rfl⟩ := List.head?_eq_some_iff.mp head
    exact counted.1
  · obtain ⟨front, rfl⟩ := List.getLast?_eq_some_iff.mp getLast
    obtain ⟨-, stands, -⟩ := counted_append.mp counted
    exact ⟨_, _, stands, by simp [Nat.add_assoc], by simp [Nat.add_assoc]⟩

end Hunk

/-! ## The blocks of a script

Blocks are made by pushing the runs of a script from the back, where a run joins the first block if
that is of its sort.  Each of the three properties is kept by one push, and they hold of the whole
script by induction on its runs. -/

open Hunk

namespace Block

variable {o n : Nat} {r : Run}

theorem old_push (r : Run) (blocks : Hunk) : old (push r blocks) = r.oldLines ++ old blocks := by
  unfold push
  split <;> simp_all [Run.oldLines, oldLines]

theorem new_push (r : Run) (blocks : Hunk) : new (push r blocks) = r.newLines ++ new blocks := by
  unfold push
  split <;> simp_all [Run.newLines, newLines]

theorem counted_push {blocks : Hunk} (old_at : r.kind ≠ .insert → r.oldAt = o)
    (new_at : r.kind ≠ .delete → r.newAt = n)
    (counted : Counted (o + r.oldLines.length) (n + r.newLines.length) blocks) :
    Counted o n (push r blocks) := by
  unfold push
  split <;> simp_all [Counted, StandsAt, Run.oldLines, Run.newLines, oldLines, newLines,
    Nat.add_assoc]

theorem map_isSame_push (r : Run) (blocks : Hunk) :
    (push r blocks).map isSame =
      if (blocks.map isSame).head? = some (decide (r.kind = .keep)) then blocks.map isSame
      else decide (r.kind = .keep) :: blocks.map isSame := by
  obtain ⟨kind, oldAt, newAt, lines⟩ := r
  rcases blocks with _ | ⟨_ | _, rest⟩ <;> cases kind <;> simp [push, isSame]

theorem alternates_push {blocks : Hunk} (alternates : (blocks.map isSame).IsChain (· ≠ ·)) :
    ((push r blocks).map isSame).IsChain (· ≠ ·) := by
  rw [map_isSame_push]
  split
  · exact alternates
  · next differs =>
    refine List.isChain_cons.mpr ⟨fun sort mem same => differs ?_, alternates⟩
    rw [same]
    exact mem

theorem full_push {blocks : Hunk} (some_line : r.lines ≠ []) (full : ∀ b ∈ blocks, b.HasLines) :
    ∀ b ∈ push r blocks, b.HasLines := by
  unfold push
  split <;> simp_all [HasLines]

theorem old_ofScript (s : Script) : old (ofScript s) = s.old := by
  induction s with
  | nil => rfl
  | cons r s ih => rw [ofScript, List.foldr_cons, old_push, ← ofScript, ih, Script.old_cons]

theorem new_ofScript (s : Script) : new (ofScript s) = s.new := by
  induction s with
  | nil => rfl
  | cons r s ih => rw [ofScript, List.foldr_cons, new_push, ← ofScript, ih, Script.new_cons]

theorem sound_ofScript {s : Script} (numbered : Script.Numbered o n s) (full : Script.Full s) :
    Sound o n (ofScript s) := by
  induction s generalizing o n with
  | nil => exact ⟨trivial, .nil, nofun⟩
  | cons r s ih =>
      obtain ⟨old_at, new_at, behind⟩ := numbered
      obtain ⟨some_line, full⟩ := Script.full_cons.mp full
      have sound := ih behind full
      exact ⟨counted_push old_at new_at sound.counted, alternates_push sound.alternates,
        full_push some_line sound.full⟩

end Block

/-! ## Trimming

Cutting through a stretch that stays leaves sound blocks on both sides of the cut (`sound_take`,
`sound_drop`); to trim in front and at the back is to cut there and forget one side.  What is
forgotten is a gap of lines that stay.  There is no gap on a side where an edit comes outermost,
and trimming one side changes nothing at the other. -/

variable {o n oldAt newAt k : Nat} {ls : List Line} {front rest h : Hunk}

theorem sound_take (sound : Sound o n (front ++ .same oldAt newAt ls :: rest)) (some_left : 0 < k) :
    Sound o n (front ++ [.same oldAt newAt (ls.take k)]) := by
  obtain ⟨counted, alternates, full⟩ := sound
  obtain ⟨front_counted, stands, -⟩ := counted_append.mp counted
  obtain ⟨front_full, behind_full⟩ := List.forall_mem_append.mp full
  have some_line : ls ≠ [] := (List.forall_mem_cons.mp behind_full).1
  refine ⟨counted_append.mpr ⟨front_counted, stands, trivial⟩, ?_, ?_⟩
  · rw [List.map_append, List.map_cons, List.append_cons] at alternates
    rw [List.map_append]
    exact alternates.left_of_append
  · rw [List.forall_mem_append, List.forall_mem_singleton]
    exact ⟨front_full, by simp [Block.HasLines, some_line, Nat.ne_of_gt some_left]⟩

theorem sound_drop (sound : Sound o n (front ++ .same oldAt newAt ls :: rest))
    (some_left : k < ls.length) :
    Sound (o + ((old front).length + k)) (n + ((new front).length + k))
      (.same (oldAt + k) (newAt + k) (ls.drop k) :: rest) := by
  obtain ⟨counted, alternates, full⟩ := sound
  obtain ⟨-, ⟨rfl, rfl⟩, behind⟩ := counted_append.mp counted
  obtain ⟨-, behind_full⟩ := List.forall_mem_append.mp full
  refine ⟨⟨⟨Nat.add_assoc .., Nat.add_assoc ..⟩, ?_⟩, ?_, ?_⟩
  · have left : (old front).length + k + (ls.drop k).length = (old front).length + ls.length := by
      rw [List.length_drop]
      omega
    have left' : (new front).length + k + (ls.drop k).length = (new front).length + ls.length := by
      rw [List.length_drop]
      omega
    simpa only [Block.oldLines, Block.newLines, Nat.add_assoc, left, left'] using behind
  · rw [List.map_append] at alternates
    exact alternates.right_of_append
  · rw [List.forall_mem_cons] at behind_full ⊢
    exact ⟨by simpa [Block.HasLines] using some_left, behind_full.2⟩

/-- At most so many lines stay in the block as are shown around an edit. -/
def Block.IsShort (b : Block) : Prop := b.isSame = true → b.oldLines.length ≤ contextLines

theorem isShort_take (ls : List Line) :
    (Block.same oldAt newAt (ls.take contextLines)).IsShort :=
  fun _ => List.length_take_le contextLines ls

theorem isShort_drop (ls : List Line) :
    (Block.same oldAt newAt (ls.drop (ls.length - contextLines))).IsShort := by
  intro _
  simp only [Block.oldLines, List.length_drop]
  omega

/-- Nothing is left out in front where an edit comes first. -/
theorem exists_trimFront (sound : Sound o n h) :
    ∃ gap, old h = gap ++ old (trimFront h) ∧ new h = gap ++ new (trimFront h) ∧
      Sound (o + gap.length) (n + gap.length) (trimFront h) ∧
      ∀ b ∈ (trimFront h).head?, b.IsShort ∧ (b.isSame = false → gap = [] ∧ h.head? = some b) := by
  rcases h with _ | ⟨⟨oldAt, newAt, ls⟩ | ⟨oldAt, newAt, deleted, inserted⟩, rest⟩
  · exact ⟨[], rfl, rfl, sound, nofun⟩
  · have some_line : ls ≠ [] := (List.forall_mem_cons.mp sound.full).1
    have some_left : ls.length - contextLines < ls.length := by
      have := List.length_pos_iff.mpr some_line
      have : contextLines = 2 := rfl
      omega
    have trimmed := @sound_drop o n oldAt newAt (ls.length - contextLines) ls [] rest sound
      some_left
    have gap_length : (ls.take (ls.length - contextLines)).length = ls.length - contextLines :=
      List.length_take_of_le (Nat.sub_le _ _)
    refine ⟨ls.take (ls.length - contextLines), ?_, ?_, ?_, ?_⟩
    · simp [trimFront, Block.dropStart, Block.oldLines, ← List.append_assoc]
    · simp [trimFront, Block.dropStart, Block.newLines, ← List.append_assoc]
    · rw [gap_length]
      simpa [trimFront, Block.dropStart] using trimmed
    · rintro b ⟨⟩
      exact ⟨isShort_drop ls, nofun⟩
  · exact ⟨[], rfl, rfl, sound, by simp [trimFront, Block.IsShort, Block.isSame]⟩

theorem getLast?_trimFront {b : Block} (last : (trimFront h).getLast? = some b)
    (is_edit : b.isSame = false) : h.getLast? = some b := by
  match h with
  | [.same oldAt newAt ls] =>
      obtain rfl := Option.some.inj last
      exact nomatch is_edit
  | .same oldAt newAt ls :: b' :: rest => exact last
  | .edit oldAt newAt deleted inserted :: rest => exact last

theorem trimBack_concat (front : Hunk) (last : Block) :
    trimBack (front ++ [last]) = front ++ [last.takeStart contextLines] := by
  induction front with
  | nil => rfl
  | cons b front ih =>
      rw [List.cons_append, trimBack, ih, List.cons_append]
      exact fun empty => by simp at empty

theorem exists_trimBack (sound : Sound o n h) :
    ∃ gap, old h = old (trimBack h) ++ gap ∧ new h = new (trimBack h) ++ gap ∧
      Sound o n (trimBack h) ∧
      ∀ b ∈ (trimBack h).getLast?,
        b.IsShort ∧ (b.isSame = false → gap = [] ∧ h.getLast? = some b) := by
  rcases List.eq_nil_or_concat' h with rfl | ⟨front, last, rfl⟩
  · exact ⟨[], rfl, rfl, sound, nofun⟩
  rw [trimBack_concat, List.getLast?_concat]
  cases last with
  | same oldAt newAt ls =>
      refine ⟨ls.drop contextLines, ?_, ?_, sound_take sound (by decide), ?_⟩
      · simp [Block.takeStart, Block.oldLines]
      · simp [Block.takeStart, Block.newLines]
      · rintro b ⟨⟩
        exact ⟨isShort_take ls, nofun⟩
  | edit oldAt newAt deleted inserted =>
      refine ⟨[], by simp [Block.takeStart], by simp [Block.takeStart], sound, ?_⟩
      simp [Block.takeStart, Block.IsShort, Block.isSame]

theorem head?_trimBack : ∀ b ∈ (trimBack h).head?,
    ∃ b' ∈ h.head?, (b'.IsShort → b.IsShort) ∧ (b.isSame = false → b' = b) := by
  intro b first
  match h with
  | [.same oldAt newAt ls] =>
      obtain rfl := Option.some.inj first
      exact ⟨_, rfl, fun _ => isShort_take ls, nofun⟩
  | [.edit oldAt newAt deleted inserted] => exact ⟨b, first, id, fun _ => rfl⟩
  | b' :: b'' :: rest => exact ⟨b, first, id, fun _ => rfl⟩

/-! ## Cutting

A stretch that stays and is too long to be shown ends one hunk and begins the next, with a gap of
its middle lines between them.  `Trimmed` is what both halves of such a cut have again
(`trimmed_cut`), and so `exists_tiles_cutHunks` goes by the recursion of `cutHunks`: the hunk in
front tiles the change together with the gap (`tiles_cut`), the rest by induction. -/

open Patch

/-- Sound blocks with few lines around the outermost edits. -/
structure Hunk.Trimmed (o n : Nat) (h : Hunk) : Prop where
  sound : Sound o n h
  begins : ∀ b ∈ h.head?, b.IsShort
  ends : ∀ b ∈ h.getLast?, b.IsShort

/-- The part that blocks show which begin after so many lines. -/
def Hunk.part (o n : Nat) (h : Hunk) : Part :=
  ⟨⟨o, (old h).length⟩, ⟨n, (new h).length⟩, h.entries⟩

/-- The hunk shows this part of the blocks, which begin after so many lines.  If an edit comes first
or last in it, it is the first or last of the blocks. -/
structure Displays (o n : Nat) (blocks h : Hunk) (p : Part) : Prop where
  part_eq : p = h.part p.old.start p.new.start
  trimmed : Trimmed p.old.start p.new.start h
  edits : ∃ b ∈ h, b.isSame = false
  opens : ∀ b ∈ h.head?, b.isSame = false →
    p.old.start = o ∧ p.new.start = n ∧ blocks.head? = some b
  closes : ∀ b ∈ h.getLast?, b.isSame = false →
    p.old.stop = o + (old blocks).length ∧ p.new.stop = n + (new blocks).length ∧
      blocks.getLast? = some b

theorem oldLines_entries (h : Hunk) : oldLines h.entries = old h := by
  induction h with
  | nil => rfl
  | cons b h ih =>
      rw [Hunk.entries, List.flatMap_cons, oldLines_append, ← Hunk.entries, ih, old_cons]
      cases b <;> simp [Block.entries, Block.oldLines, oldLines, List.filter_map,
        Function.comp_def]

theorem newLines_entries (h : Hunk) : newLines h.entries = new h := by
  induction h with
  | nil => rfl
  | cons b h ih =>
      rw [Hunk.entries, List.flatMap_cons, newLines_append, ← Hunk.entries, ih, new_cons]
      cases b <;> simp [Block.entries, Block.newLines, newLines, List.filter_map,
        Function.comp_def]

theorem tiles_part {gap old' new' : List Line} {parts : List Part}
    (behind : Tiles (o + ((old h).length + gap.length)) (n + ((new h).length + gap.length)) parts
      old' new') :
    Tiles o n (h.part o n :: parts) (old h ++ (gap ++ old')) (new h ++ (gap ++ new')) := by
  have whole := @Tiles.part o n [] (gap ++ old') (gap ++ new') (h.part o n) parts
    (by simp [Hunk.part, oldLines_entries]) (by simp [Hunk.part, newLines_entries])
    (by rw [← Nat.add_assoc, ← Nat.add_assoc] at behind; exact behind.skip)
  simpa [Hunk.part, oldLines_entries, newLines_entries] using whole

theorem exists_edit (alternates : (h.map Block.isSame).IsChain (· ≠ ·)) (shown : h.isShown = true) :
    ∃ b ∈ h, b.isSame = false := by
  rcases h with _ | ⟨b, _ | ⟨b', rest⟩⟩
  · exact absurd shown (by decide)
  · cases b with
    | same oldAt newAt ls => exact absurd shown (by simp [isShown])
    | edit oldAt newAt deleted inserted => exact ⟨_, List.mem_singleton_self _, rfl⟩
  · have differ := (List.isChain_cons_cons.mp alternates).1
    by_cases same : b.isSame = true
    · exact ⟨b', by simp, by simpa [same] using differ⟩
    · exact ⟨b, by simp, by simpa using same⟩

theorem isShown_concat (some_block : h ≠ []) (b : Block) : Hunk.isShown (h ++ [b]) = true := by
  match h, some_block with
  | [b'], _ => cases b' <;> rfl
  | b' :: b'' :: rest, _ => cases b' <;> rfl

section Cut

variable (long : 2 * contextLines < ls.length)
include long

theorem ne_nil_of_long (trimmed : Trimmed o n (h ++ .same oldAt newAt ls :: rest)) : h ≠ [] := by
  rintro rfl
  have short : ls.length ≤ contextLines := trimmed.begins _ rfl rfl
  omega

theorem trimmed_cut (trimmed : Trimmed o n (h ++ .same oldAt newAt ls :: rest)) :
    Trimmed o n (h ++ [.same oldAt newAt (ls.take contextLines)]) ∧
      Trimmed (o + ((old h).length + (ls.length - contextLines)))
        (n + ((new h).length + (ls.length - contextLines)))
        (.same (oldAt + (ls.length - contextLines)) (newAt + (ls.length - contextLines))
          (ls.drop (ls.length - contextLines)) :: rest) := by
  have some_block := ne_nil_of_long long trimmed
  obtain ⟨sound, begins, ends⟩ := trimmed
  have some_left : ls.length - contextLines < ls.length := by
    have : contextLines = 2 := rfl
    omega
  refine ⟨⟨sound_take sound (by decide), ?_, ?_⟩, sound_drop sound some_left, ?_, ?_⟩
  · rwa [List.head?_append_of_ne_nil _ some_block] at begins ⊢
  · rw [List.getLast?_concat]
    rintro b ⟨⟩
    exact isShort_take ls
  · rintro b ⟨⟩
    exact isShort_drop ls
  · cases rest with
    | nil => rintro b ⟨⟩; exact isShort_drop ls
    | cons b' rest => simpa [List.getLast?_append, List.getLast?_cons_cons] using ends

theorem exists_middle :
    ∃ gap, ls = ls.take contextLines ++ (gap ++ ls.drop (ls.length - contextLines)) ∧
      (ls.take contextLines).length + gap.length = ls.length - contextLines := by
  refine ⟨(ls.take (ls.length - contextLines)).drop contextLines, ?_, ?_⟩
  · have front : ls.take contextLines =
        (ls.take (ls.length - contextLines)).take contextLines := by
      rw [List.take_take, Nat.min_eq_left (by omega)]
    rw [front, ← List.append_assoc, List.take_append_drop, List.take_append_drop]
  · rw [List.length_drop, List.length_take_of_le (Nat.sub_le _ _),
      List.length_take_of_le (by omega)]
    omega

theorem tiles_cut {parts : List Part}
    (behind : Tiles (o + ((old h).length + (ls.length - contextLines)))
      (n + ((new h).length + (ls.length - contextLines))) parts
      (ls.drop (ls.length - contextLines) ++ old rest)
      (ls.drop (ls.length - contextLines) ++ new rest)) :
    Tiles o n (Hunk.part o n (h ++ [.same oldAt newAt (ls.take contextLines)]) :: parts)
      (old (h ++ .same oldAt newAt ls :: rest)) (new (h ++ .same oldAt newAt ls :: rest)) := by
  obtain ⟨gap, ls_eq, gap_length⟩ := exists_middle long
  have whole := @tiles_part o n (h ++ [Block.same oldAt newAt (ls.take contextLines)]) gap
    (ls.drop (ls.length - contextLines) ++ old rest)
    (ls.drop (ls.length - contextLines) ++ new rest) parts
  simp only [old_append, new_append, old_cons, new_cons, old_nil, new_nil, Block.oldLines,
    Block.newLines, List.append_nil, List.length_append, Nat.add_assoc, gap_length,
    List.append_assoc] at whole ⊢
  have joined : ∀ rest : List Line, ls ++ rest =
      ls.take contextLines ++ (gap ++ (ls.drop (ls.length - contextLines) ++ rest)) := by
    intro rest
    rw [← List.append_assoc gap, ← List.append_assoc, ← ls_eq]
  rw [joined (old rest), joined (new rest)]
  exact whole behind

end Cut

/-- What is shown of the blocks behind a cut is shown of all blocks: they begin with lines that
stay, so no edit comes first in them. -/
theorem Displays.of_cut {h' : Hunk} {p : Part}
    (displays : Displays (o + ((old h).length + (ls.length - contextLines)))
      (n + ((new h).length + (ls.length - contextLines)))
      (.same (oldAt + (ls.length - contextLines)) (newAt + (ls.length - contextLines))
        (ls.drop (ls.length - contextLines)) :: rest) h' p) :
    Displays o n (h ++ .same oldAt newAt ls :: rest) h' p := by
  obtain ⟨part_eq, trimmed, edits, opens, closes⟩ := displays
  refine ⟨part_eq, trimmed, edits, fun b first is_edit => ?_, fun b last is_edit => ?_⟩
  · obtain ⟨-, -, ⟨⟩⟩ := opens b first is_edit
    exact absurd is_edit (by simp [Block.isSame])
  · obtain ⟨old_stop, new_stop, last_block⟩ := closes b last is_edit
    simp only [old_append, new_append, old_cons, new_cons, Block.oldLines, Block.newLines,
      List.length_append, List.length_drop] at old_stop new_stop ⊢
    refine ⟨by omega, by omega, ?_⟩
    cases rest with
    | nil =>
        obtain rfl := Option.some.inj last_block
        exact absurd is_edit (by simp [Block.isSame])
    | cons b' rest => simpa [List.getLast?_append, List.getLast?_cons_cons] using last_block

/-- The hunks show parts of the change, and between them stand lines that stay. -/
theorem exists_tiles_cutHunks {rest : Hunk} (trimmed : Trimmed o n (h ++ rest)) :
    ∃ parts, Tiles o n parts (old (h ++ rest)) (new (h ++ rest)) ∧
      List.Forall₂ (Displays o n (h ++ rest)) (cutHunks h rest) parts := by
  -- `h` is the hunk so far, so it is trimmed in front and the induction may start anywhere.
  fun_induction cutHunks h rest generalizing o n with
  | case1 h shown =>
      rw [List.append_nil] at trimmed ⊢
      have tiles := @tiles_part o n h [] [] [] [] .done
      rw [List.append_nil, List.append_nil, List.append_nil] at tiles
      have displays : Displays o n h h (h.part o n) :=
        ⟨rfl, trimmed, exists_edit trimmed.sound.alternates shown,
          fun b first _ => ⟨rfl, rfl, first⟩, fun b last _ => ⟨rfl, rfl, last⟩⟩
      exact ⟨[h.part o n], tiles, .cons displays .nil⟩
  | case2 h hidden =>
      rw [List.append_nil]
      refine ⟨[], ?_, .nil⟩
      match h, hidden with
      | [], _ => exact .done
      | [.same oldAt newAt ls], _ => exact .done
  | case3 h rest oldAt newAt ls long ih =>
      -- A cut.  The hunk so far ends with the first lines of the stretch, and the last ones begin
      -- the next.
      have some_block := ne_nil_of_long long trimmed
      obtain ⟨front, back⟩ := trimmed_cut long trimmed
      obtain ⟨parts, tiles, displays⟩ := ih back
      refine ⟨_, tiles_cut long tiles, .cons ⟨rfl, front, ?_, ?_, ?_⟩
        (displays.imp fun _ _ display => display.of_cut)⟩
      · exact exists_edit front.sound.alternates (isShown_concat some_block _)
      · rw [List.head?_append_of_ne_nil _ some_block, List.head?_append_of_ne_nil _ some_block]
        exact fun b first _ => ⟨rfl, rfl, first⟩
      · rw [List.getLast?_concat]
        rintro b ⟨⟩ is_edit
        exact absurd is_edit (by simp [Block.takeStart, Block.isSame])
  | case4 h rest oldAt newAt ls short ih =>
      rw [List.append_cons] at trimmed ⊢
      exact ih trimmed
  | case5 h rest oldAt newAt deleted inserted ih =>
      rw [List.append_cons] at trimmed ⊢
      exact ih trimmed

/-- The hunks of a script show parts of the change, and between them stand lines that stay. -/
theorem exists_tiles_hunks {script : Script} (sound : Sound 0 0 (Block.ofScript script)) :
    ∃ parts, Tiles 0 0 parts script.old script.new ∧
      List.Forall₂ (Displays 0 0 (Block.ofScript script)) (hunks script) parts := by
  obtain ⟨gap, old_eq, new_eq, sound, begins⟩ := exists_trimFront sound
  obtain ⟨gap', old_eq', new_eq', sound, ends⟩ := exists_trimBack sound
  have trimmed : Trimmed (0 + gap.length) (0 + gap.length)
      (trimBack (trimFront (Block.ofScript script))) := by
    refine ⟨sound, fun b first => ?_, fun b last => (ends b last).1⟩
    obtain ⟨b', first', short, -⟩ := head?_trimBack b first
    exact short (begins b' first').1
  obtain ⟨parts, tiles, displays⟩ := @exists_tiles_cutHunks _ _ [] _ trimmed
  refine ⟨parts, ?_, displays.imp ?_⟩
  · rw [← Block.old_ofScript, ← Block.new_ofScript, old_eq, new_eq, old_eq', new_eq']
    exact (tiles.append gap').skip
  · rintro h p ⟨part_eq, trimmed, edits, opens, closes⟩
    refine ⟨part_eq, trimmed, edits, fun b first is_edit => ?_, fun b last is_edit => ?_⟩
    · obtain ⟨old_start, new_start, first_block⟩ := opens b first is_edit
      obtain ⟨b', first', -, same⟩ := head?_trimBack b first_block
      obtain rfl := same is_edit
      obtain ⟨rfl, first_of_all⟩ := (begins b' first').2 is_edit
      exact ⟨old_start, new_start, first_of_all⟩
    · obtain ⟨old_stop, new_stop, last_block⟩ := closes b last is_edit
      obtain ⟨rfl, last_of_trimmed⟩ := (ends b last_block).2 is_edit
      rw [List.append_nil] at old_eq' new_eq'
      refine ⟨?_, ?_, getLast?_trimFront last_of_trimmed is_edit⟩
      · rw [old_eq, List.length_append, old_eq', ← Nat.add_assoc]
        exact old_stop
      · rw [new_eq, List.length_append, new_eq', ← Nat.add_assoc]
        exact new_stop

end VersionStamp.Diff
