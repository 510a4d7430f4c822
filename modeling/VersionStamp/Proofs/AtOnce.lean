/-
# VersionStamp.Proofs.AtOnce — all constants at once

A text is what stands between its assignments, and the assignments.  `Dissects` takes it apart in
this way: the entries are the assignments that scans for the three constants meet, no others, each
with the gap before it.  To substitute at once is to copy the gaps, the leads and what is left at
the end, and to put into every literal the value of its own constant (`filled`).

The passes for the constants do the same one after the other, in whatever order they come, where
assignments of different constants keep apart and no value is read as the beginning of one.  What is
shown for that is how passes (`fillEach_of_isLead`, `fillEach_of_not_isLead`), scans
(`metAt_of_isLead`) and counts (`length_found_of_isLead`) step over an assignment; the rest is one
induction for each along the dissection (`Cuts`).
-/
import VersionStamp.Proofs.Refilling

namespace VersionStamp

namespace Constant

/-! ## Entries of a text

An entry is an assignment together with the gap before it.  What follows the last entry is left
over, so that entries and rest make the whole text and nothing stands in two of them. -/

/-- An assignment of a constant, and what stands between the one before it and itself. -/
structure Entry where
  gap : List Char
  constant : Constant
  lead : List Char
  literal : List Char
  deriving DecidableEq

/-- The text of an entry, with something between its quotes. -/
def Entry.holding (e : Entry) (value : List Char) : List Char :=
  e.gap ++ e.lead ++ '"' :: (value ++ ['"'])

/-- The text of some entries as they are, and of what stands behind them. -/
def plainText (entries : List Entry) (rest : List Char) : List Char :=
  entries.flatMap (fun e => e.holding e.literal) ++ rest

/-- The same text with the value of its constant in every entry. -/
def filled (s : Stamp) (entries : List Entry) (rest : List Char) : List Char :=
  entries.flatMap (fun e => e.holding (e.constant.value s).toList) ++ rest

/-- How many entries there are for a constant. -/
def countOf (c : Constant) (entries : List Entry) : Nat :=
  entries.countP fun e => e.constant = c

/-- The text is that of the entries and the rest, and the entries are the assignments that scans for
the constants meet, each at its place. -/
structure Dissects (cs : List Char) (entries : List Entry) (rest : List Char) : Prop where
  text_eq : cs = plainText entries rest
  metAt_iff : ∀ (c : Constant) (before lead literal after : List Char),
    MetAt c.name.toList before lead literal after cs ↔
      ∃ front gap back, entries = front ++ ⟨gap, c, lead, literal⟩ :: back ∧
        before = plainText front gap ∧ after = plainText back rest

theorem plainText_cons (e : Entry) (entries : List Entry) (rest : List Char) :
    plainText (e :: entries) rest =
      e.gap ++ e.lead ++ '"' :: (e.literal ++ '"' :: plainText entries rest) := by
  simp [plainText, Entry.holding]

theorem filled_cons (s : Stamp) (e : Entry) (entries : List Entry) (rest : List Char) :
    filled s (e :: entries) rest =
      e.gap ++ e.lead ++ '"' :: ((e.constant.value s).toList ++ '"' :: filled s entries rest) := by
  simp [filled, Entry.holding]

theorem countOf_cons (c : Constant) (e : Entry) (entries : List Entry) :
    countOf c (e :: entries) = countOf c entries + if e.constant = c then 1 else 0 := by
  simp [countOf, List.countP_cons]

/-! ## Stepping over an assignment

In spaced pieces an assignment is a lead, its literal and the piece behind it, and the literal can
be no lead of another constant: the scans, the counts and the passes for all constants take the
same two steps.  These lemmas say so for each of them, for a piece that is a lead and for one that
is none. -/

section Steps

variable {c d : Constant} {p q r : List Char} {rest : Pieces} {s : Stamp}
  {constants : List Constant}

theorem Spaced.not_isLead (spaced : Spaced (p :: q :: r :: rest))
    (is_lead : isLead c.name.toList p = true) (different : c ≠ d) (closed : rest ≠ []) :
    ¬ isLead d.name.toList q = true := by
  obtain ⟨t, rest, rfl⟩ := List.exists_cons_of_ne_nil closed
  have unmet := spaced different (isMet_zero.trans is_lead)
  have not_lead := apart_of_ne different p is_lead
  rw [isMet_succ not_lead, isMet_zero] at unmet
  simp [unmet]

theorem Spaced.isMet_add_two (spaced : Spaced (p :: q :: r :: rest))
    (is_lead : isLead c.name.toList p = true) (d : Constant) (i : Nat) :
    isMet d.name.toList (p :: q :: r :: rest) (i + 2) = isMet d.name.toList (r :: rest) i := by
  by_cases same : c = d
  · subst same
    exact Constant.isMet_add_two is_lead i
  · have not_lead := apart_of_ne same p is_lead
    rw [isMet_succ not_lead]
    cases rest with
    | nil => rfl
    | cons t rest =>
        have not_lead' := spaced.not_isLead is_lead same (List.cons_ne_nil t rest)
        exact isMet_succ not_lead' i

theorem Spaced.isMet_one (spaced : Spaced (p :: q :: r :: rest))
    (is_lead : isLead c.name.toList p = true) (d : Constant) :
    isMet d.name.toList (p :: q :: r :: rest) 1 = false := by
  by_cases same : c = d
  · subst same
    exact Constant.isMet_one is_lead
  · exact spaced same (isMet_zero.trans is_lead)

theorem Spaced.behind_isLead (spaced : Spaced (p :: q :: r :: rest))
    (is_lead : isLead c.name.toList p = true) : Spaced (r :: rest) := by
  intro d e i different met
  rw [← spaced.isMet_add_two is_lead] at met ⊢
  exact spaced different met

theorem Spaced.behind_not_isLead (spaced : Spaced (p :: q :: r :: rest))
    (no_lead : ∀ c : Constant, ¬ isLead c.name.toList p = true) : Spaced (q :: r :: rest) := by
  intro d e i different met
  rw [← isMet_succ (no_lead d)] at met
  rw [← isMet_succ (no_lead e)]
  exact spaced different met

theorem fillEach_of_isLead (inert : s.IsInert) (spaced : Spaced (p :: q :: r :: rest))
    (is_lead : isLead c.name.toList p = true) (nodup : constants.Nodup) (mem : c ∈ constants) :
    fillEach s constants (p :: q :: r :: rest) =
      p :: (c.value s).toList :: fillEach s constants (r :: rest) := by
  have spaced' := spaced.behind_isLead is_lead
  apply List.ext_getElem?
  intro i
  match i with
  | 0 => exact head?_fillEach constants _
  | 1 => exact getElem?_fillEach_of_isMet inert spaced nodup mem (isMet_zero.trans is_lead)
  | 2 =>
      have none_met : ∀ d ∈ constants, isMet d.name.toList (p :: q :: r :: rest) 1 = false :=
        fun d _ => spaced.isMet_one is_lead d
      rw [getElem?_fillEach_of_not_isMet inert spaced none_met]
      exact (head?_fillEach constants (r :: rest)).symm
  | i + 3 =>
      -- The pieces behind the literal are met alike in both texts.
      have alike := fun d => spaced.isMet_add_two is_lead d i
      by_cases some_met : ∃ d ∈ constants, isMet d.name.toList (r :: rest) i = true
      · obtain ⟨d, d_mem, met⟩ := some_met
        have behind := getElem?_fillEach_of_isMet inert spaced' nodup d_mem met
        rw [getElem?_fillEach_of_isMet inert spaced nodup d_mem ((alike d).trans met)]
        exact behind.symm
      · have none_met : ∀ d ∈ constants, isMet d.name.toList (r :: rest) i = false := by
          simpa using some_met
        have behind := getElem?_fillEach_of_not_isMet inert spaced' none_met
        rw [getElem?_fillEach_of_not_isMet inert spaced fun d d_mem =>
          (alike d).trans (none_met d d_mem)]
        exact behind.symm

theorem fillEach_of_not_isLead (no_lead : ∀ c : Constant, ¬ isLead c.name.toList p = true) :
    fillEach s constants (p :: q :: r :: rest) = p :: fillEach s constants (q :: r :: rest) := by
  induction constants generalizing q r rest with
  | nil => rfl
  | cons c constants ih =>
      obtain ⟨filled, filled_eq, length⟩ :=
        exists_fill_cons c.name.toList (c.value s).toList q (r :: rest)
      obtain ⟨r', rest', rfl⟩ := List.exists_cons_of_length_eq_add_one length
      rw [fillEach, fillEach, fill_of_not_isLead (no_lead c), filled_eq]
      exact ih

theorem fillEach_of_few {pieces : Pieces} (few : pieces.length < 3) :
    fillEach s constants pieces = pieces := by
  induction constants with
  | nil => rfl
  | cons c constants ih =>
      have unchanged : fill c.name.toList (c.value s).toList pieces = (pieces, 0) := by
        match pieces, few with
        | [], _ => rfl
        | [_], _ => rfl
        | [_, _], _ => rfl
      rw [fillEach, unchanged, ih]

theorem join_cons_fillEach :
    Pieces.join (p :: fillEach s constants (q :: rest)) =
      p ++ '"' :: Pieces.join (fillEach s constants (q :: rest)) := by
  have length := length_fillEach (s := s) constants (q :: rest)
  obtain ⟨q', rest', filled_eq⟩ := List.exists_cons_of_length_eq_add_one length
  rw [filled_eq, Pieces.join_cons_cons]

theorem length_found_of_isLead (spaced : Spaced (p :: q :: r :: rest))
    (is_lead : isLead c.name.toList p = true) (d : Constant) :
    (found d.name.toList (p :: q :: r :: rest)).length =
      (found d.name.toList (r :: rest)).length + if c = d then 1 else 0 := by
  by_cases same : c = d
  · subst same
    rw [found, if_pos is_lead, if_pos rfl, List.length_cons]
  · have not_lead := apart_of_ne same p is_lead
    rw [found, if_neg not_lead, if_neg same]
    cases rest with
    | nil => rfl
    | cons t rest =>
        have not_lead' := spaced.not_isLead is_lead same (List.cons_ne_nil t rest)
        rw [found, if_neg not_lead', Nat.add_zero]

variable {before lead literal after front opening : List Char}

theorem metAt_of_isLead (spaced : Spaced ((front ++ opening) :: q :: r :: rest))
    (free : Pieces.QuoteFree ((front ++ opening) :: q :: r :: rest)) (ends : EndsWord front)
    (opens : Opens c.name.toList opening) (d : Constant) :
    MetAt d.name.toList before lead literal after
        (Pieces.join ((front ++ opening) :: q :: r :: rest)) ↔
      (d = c ∧ before = front ∧ lead = opening ∧ literal = q ∧
        after = Pieces.join (r :: rest)) ∨
      ∃ between, before = front ++ opening ++ '"' :: (q ++ '"' :: between) ∧
        MetAt d.name.toList between lead literal after (Pieces.join (r :: rest)) := by
  have is_lead : isLead c.name.toList (front ++ opening) = true :=
    (isLead_iff (isName_name c)).mpr ⟨front, opening, rfl, ends, opens⟩
  rw [Pieces.join_cons_cons]
  by_cases same : c = d
  · subst same
    rw [Pieces.join_cons_cons,
      metAt_lead_iff (isName_name c) free.head ends opens free.tail.head]
    simp
  · have other : ¬ d = c := fun h => same h.symm
    rw [metAt_quote_iff (isName_name d) free.head (apart_of_ne same _ is_lead)]
    simp only [other, false_and, false_or]
    cases rest with
    | nil =>
        -- Two pieces are too few for an assignment, and so is one.
        have none_met : ∀ {pieces : Pieces} {between : List Char}, pieces.QuoteFree →
            ¬ AssignsIn d.name.toList literal pieces →
            ¬ MetAt d.name.toList between lead literal after (Pieces.join pieces) :=
          fun free none_in met =>
            none_in ((assigns_join (isName_name d) literal free).mp ⟨_, _, _, met.assignsAt⟩)
        refine iff_of_false ?_ ?_
        · rintro ⟨between, -, met⟩
          exact none_met free.tail id met
        · rintro ⟨between, -, met⟩
          exact none_met free.tail.tail id met
    | cons t rest =>
        have not_lead := spaced.not_isLead is_lead same (List.cons_ne_nil t rest)
        rw [Pieces.join_cons_cons]
        simp only [metAt_quote_iff (isName_name d) free.tail.head not_lead]
        constructor
        · rintro ⟨_, rfl, between, rfl, met⟩
          exact ⟨between, rfl, met⟩
        · rintro ⟨between, rfl, met⟩
          exact ⟨_, rfl, between, rfl, met⟩

end Steps

/-! ## Taking a text apart

`Cuts` follows the pieces from the left: a piece that is no lead goes to the gap, and a lead takes
its literal with it into an entry.  Every text can be cut (`exists_cuts`), and by induction on the
cut the entries are what the scans meet (`Cuts.metAt_iff`), what the passes fill (`Cuts.filled_eq`)
and what is counted (`Cuts.length_found`).  Together these are `Dissects` and the theorem. -/

/-- Behind a gap, these pieces are cut into entries and a rest. -/
inductive Cuts : List Char → Pieces → List Entry → List Char → Prop
  | stop {gap : List Char} {pieces : Pieces} (few : pieces.length < 3) :
      Cuts gap pieces [] (gap ++ Pieces.join pieces)
  | skip {gap p q r rest' : List Char} {rest : Pieces} {entries : List Entry}
      (no_lead : ∀ c : Constant, ¬ isLead c.name.toList p = true)
      (behind : Cuts (gap ++ p ++ ['"']) (q :: r :: rest) entries rest') :
      Cuts gap (p :: q :: r :: rest) entries rest'
  | entry {gap front opening q r rest' : List Char} {rest : Pieces} {c : Constant}
      {entries : List Entry} (ends : EndsWord front) (opens : Opens c.name.toList opening)
      (behind : Cuts [] (r :: rest) entries rest') :
      Cuts gap ((front ++ opening) :: q :: r :: rest) (⟨gap ++ front, c, opening, q⟩ :: entries)
        rest'

theorem exists_cuts : ∀ (gap : List Char) (pieces : Pieces),
    ∃ entries rest, Cuts gap pieces entries rest
  | _, [] => ⟨[], _, .stop (by decide)⟩
  | _, [_] => ⟨[], _, .stop (by simp)⟩
  | _, [_, _] => ⟨[], _, .stop (by simp)⟩
  | gap, p :: q :: r :: rest => by
      by_cases some_lead : ∃ c : Constant, isLead c.name.toList p = true
      · obtain ⟨c, is_lead⟩ := some_lead
        obtain ⟨front, opening, rfl, ends, opens⟩ := (isLead_iff (isName_name c)).mp is_lead
        obtain ⟨entries, rest', behind⟩ := exists_cuts [] (r :: rest)
        exact ⟨_, rest', .entry ends opens behind⟩
      · have no_lead : ∀ c : Constant, ¬ isLead c.name.toList p = true := not_exists.mp some_lead
        obtain ⟨entries, rest', behind⟩ := exists_cuts (gap ++ p ++ ['"']) (q :: r :: rest)
        exact ⟨entries, rest', .skip no_lead behind⟩

variable {gap rest : List Char} {pieces : Pieces} {entries : List Entry} {s : Stamp}
  {constants : List Constant}

theorem Cuts.text_eq (cuts : Cuts gap pieces entries rest) :
    gap ++ Pieces.join pieces = plainText entries rest := by
  induction cuts with
  | stop few => rfl
  | skip no_lead behind ih =>
      rw [← ih, Pieces.join_cons_cons]
      simp
  | entry ends opens behind ih =>
      rw [plainText_cons, ← ih, Pieces.join_cons_cons, Pieces.join_cons_cons]
      simp

/-- What is met behind the gap are the entries, each at its place. -/
theorem Cuts.metAt_iff (cuts : Cuts gap pieces entries rest) (spaced : Spaced pieces)
    (free : pieces.QuoteFree) (c : Constant) (before lead literal after : List Char) :
    (∃ between, before = gap ++ between ∧
        MetAt c.name.toList between lead literal after (Pieces.join pieces)) ↔
      ∃ front gap' back, entries = front ++ ⟨gap', c, lead, literal⟩ :: back ∧
        before = plainText front gap' ∧ after = plainText back rest := by
  -- The gap takes up the pieces that are skipped, and is empty again behind an entry.
  induction cuts generalizing before with
  | @stop gap pieces few =>
      refine iff_of_false ?_ ?_
      · rintro ⟨between, -, met⟩
        obtain ⟨i, is_met, -⟩ := met.exists_isMet (isName_name c) free
        obtain ⟨-, -, -, closed⟩ := lead_of_isMet is_met
        omega
      · rintro ⟨front, gap', back, none_there, -⟩
        simp at none_there
  | @skip gap p q r rest' rest entries no_lead behind ih =>
      rw [← ih (spaced.behind_not_isLead no_lead) free.tail, Pieces.join_cons_cons]
      simp only [metAt_quote_iff (isName_name c) free.head (no_lead c)]
      constructor
      · rintro ⟨_, rfl, between, rfl, met⟩
        exact ⟨between, by simp, met⟩
      · rintro ⟨between, rfl, met⟩
        exact ⟨_, by simp, between, rfl, met⟩
  | @entry gap front opening q r rest' rest d entries ends opens behind ih =>
      have is_lead : isLead d.name.toList (front ++ opening) = true :=
        (isLead_iff (isName_name d)).mpr ⟨front, opening, rfl, ends, opens⟩
      have ih := fun between => ih (spaced.behind_isLead is_lead) free.tail.tail between
      simp only [List.nil_append, exists_eq_left'] at ih
      simp only [metAt_of_isLead spaced free ends opens]
      constructor
      · rintro ⟨_, rfl, ⟨rfl, rfl, rfl, rfl, rfl⟩ | ⟨between, rfl, met⟩⟩
        · exact ⟨[], gap ++ _, entries, rfl, rfl, behind.text_eq⟩
        · obtain ⟨front', gap', back, rfl, rfl, after_eq⟩ := (ih _).mp met
          refine ⟨_ :: front', gap', back, rfl, ?_, after_eq⟩
          rw [plainText_cons]
          simp
      · rintro ⟨front', gap', back, same, rfl, after_eq⟩
        cases front' with
        | nil =>
            obtain ⟨⟨rfl, rfl, rfl, rfl⟩, rfl⟩ := List.cons.inj same
            exact ⟨front, rfl, .inl ⟨rfl, rfl, rfl, rfl, after_eq.trans behind.text_eq.symm⟩⟩
        | cons e front' =>
            obtain ⟨rfl, rfl⟩ := List.cons.inj same
            have behind_met := (ih _).mpr ⟨front', gap', back, rfl, rfl, after_eq⟩
            refine ⟨_, ?_, .inr ⟨plainText front' gap', rfl, behind_met⟩⟩
            rw [plainText_cons]
            simp

/-- The passes, in whatever order, put its value into every entry. -/
theorem Cuts.filled_eq (cuts : Cuts gap pieces entries rest) (inert : s.IsInert)
    (spaced : Spaced pieces) (nodup : constants.Nodup) (every : ∀ c : Constant, c ∈ constants) :
    gap ++ Pieces.join (fillEach s constants pieces) = filled s entries rest := by
  induction cuts with
  | stop few =>
      rw [fillEach_of_few few]
      rfl
  | skip no_lead behind ih =>
      rw [← ih (spaced.behind_not_isLead no_lead), fillEach_of_not_isLead no_lead,
        join_cons_fillEach]
      simp
  | @entry gap front opening q r rest' rest c entries ends opens behind ih =>
      have is_lead : isLead c.name.toList (front ++ opening) = true :=
        (isLead_iff (isName_name c)).mpr ⟨front, opening, rfl, ends, opens⟩
      rw [filled_cons, ← ih (spaced.behind_isLead is_lead),
        fillEach_of_isLead inert spaced is_lead nodup (every c), Pieces.join_cons_cons,
        join_cons_fillEach]
      simp

theorem Cuts.length_found (cuts : Cuts gap pieces entries rest) (spaced : Spaced pieces)
    (c : Constant) : (found c.name.toList pieces).length = countOf c entries := by
  induction cuts with
  | @stop gap pieces few =>
      match pieces, few with
      | [], _ => rfl
      | [_], _ => rfl
      | [_, _], _ => rfl
  | skip no_lead behind ih =>
      rw [found, if_neg (no_lead c)]
      exact ih (spaced.behind_not_isLead no_lead)
  | @entry gap front opening q r rest' rest d entries ends opens behind ih =>
      have is_lead : isLead d.name.toList (front ++ opening) = true :=
        (isLead_iff (isName_name d)).mpr ⟨front, opening, rfl, ends, opens⟩
      rw [countOf_cons, ← ih (spaced.behind_isLead is_lead)]
      exact length_found_of_isLead spaced is_lead c

end Constant

open Constant

/-- Where assignments of different constants keep apart and the release version does not end in `=`,
the passes give every assignment of the text the value of its constant and copy all that stands
between them, and count the assignments of each constant, in whatever order they follow each
other. -/
theorem substitute_at_once {text : String} {s : Stamp} (apart : KeepApart text.toList)
    (inert : s.IsInert) :
    ∃ entries rest, Dissects text.toList entries rest ∧
      substitute text s = (String.ofList (filled s entries rest),
        Constant.all.map fun c => ⟨c, countOf c entries⟩) ∧
      ∀ order : List Constant, order.Perm Constant.all →
        substituteEach s order text.toList =
          (filled s entries rest, order.map fun c => ⟨c, countOf c entries⟩) := by
  obtain ⟨entries, rest, cuts⟩ := exists_cuts [] (Pieces.cut text.toList)
  have spaced := (keepApart_iff text.toList).mp apart
  have free := Pieces.quote_free_cut text.toList
  have dissects : Dissects text.toList entries rest := by
    constructor
    · rw [← cuts.text_eq, List.nil_append, Pieces.join_cut]
    · intro c before lead literal after
      have met_iff := cuts.metAt_iff spaced free c before lead literal after
      simpa only [Pieces.join_cut, List.nil_append, exists_eq_left'] using met_iff
  have any_order : ∀ order : List Constant, order.Perm Constant.all →
      substituteEach s order text.toList =
        (filled s entries rest, order.map fun c => ⟨c, countOf c entries⟩) := by
    intro order perm
    have nodup := perm.nodup_iff.mpr nodup_all
    have every : ∀ c : Constant, c ∈ order := fun c => perm.mem_iff.mpr c.mem_all
    refine Prod.ext ?_ ?_
    · dsimp only
      rw [← Pieces.join_cut (substituteEach s order text.toList).1, cut_substituteEach,
        ← cuts.filled_eq inert spaced nodup every, List.nil_append]
    · rw [counts_substituteEach inert apart]
      simp only [cuts.length_found spaced]
  refine ⟨entries, rest, dissects, ?_, any_order⟩
  rw [substitute_eq, any_order Constant.all (.refl _)]

/-- The stamp of release 2.0. -/
def secondRelease : Stamp := ⟨"2.0", ⟨2024, 2, 29, by decide⟩, ⟨23, 59, 58, by decide⟩, by decide⟩

/-- A longer name, a literal in which an assignment of the same constant begins, and a literal over
two lines behind blanks of all kinds. -/
def tangled : String :=
  "MyReleaseVersion = \"0\"\nReleaseVersion = \"ReleaseVersion = \"1\"\n" ++
    "ManifestDate\n=\t\"a\nb\"ManifestISODate=\"\"\n"

/-- The passes in reverse order give the text that the substitution gives. -/
theorem substitute_at_once_of_tangled :
    KeepApart tangled.toList ∧ secondRelease.IsInert ∧
      substituteEach secondRelease Constant.all.reverse tangled.toList =
        (("MyReleaseVersion = \"0\"\nReleaseVersion = \"2.0\"1\"\n" ++
          "ManifestDate\n=\t\"2024-02-29 23:59:58\"ManifestISODate=\"20240229\"\n").toList,
          [⟨manifestIsoDate, 1⟩, ⟨manifestDate, 1⟩, ⟨releaseVersion, 1⟩]) := by
  have apart : KeepApart tangled.toList := by decide +kernel
  have inert : secondRelease.IsInert :=
    ⟨⟨⟨"c0ffee", "2024-02-29 23:59:58 +0000", "2.0\n"⟩, by decide +kernel⟩, by decide⟩
  have forwards : substitute tangled secondRelease =
      ("MyReleaseVersion = \"0\"\nReleaseVersion = \"2.0\"1\"\n" ++
        "ManifestDate\n=\t\"2024-02-29 23:59:58\"ManifestISODate=\"20240229\"\n",
        [⟨releaseVersion, 1⟩, ⟨manifestDate, 1⟩, ⟨manifestIsoDate, 1⟩]) := by decide +kernel
  obtain ⟨entries, rest, -, at_once, any_order⟩ := substitute_at_once apart inert
  obtain ⟨text_eq, counts_eq⟩ := Prod.mk.inj (at_once.symm.trans forwards)
  refine ⟨apart, inert, (any_order _ (List.reverse_perm Constant.all)).trans (Prod.ext ?_ ?_)⟩
  · dsimp only
    rw [← text_eq, String.toList_ofList]
  · have reversed := congrArg List.reverse counts_eq
    simpa [Constant.all] using reversed

end VersionStamp
