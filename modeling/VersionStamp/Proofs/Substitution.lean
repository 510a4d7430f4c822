/-
# VersionStamp.Proofs.Substitution — what the substitution does to a text

The passes work on the pieces of a text; this module says what that means for the text.  Each
constant is looked for in the text that the ones before it have left (`textFor`), which need not be
the text of the file: an earlier value can bring an assignment with it, and can overwrite one.

Two things are read off a substitution.  Which constant is missing, if one is, is told by
`missing?_eq_some_iff`.  Whether a second substitution finds nothing left to do is told by
`isFilled_iff`: exactly if each constant is assigned and all that is met has its value.
-/
import VersionStamp.Proofs.Passes

namespace VersionStamp

variable {s : Stamp} {constants : List Constant} {cs : List Char} {text : String}

namespace Constant

/-- Somewhere, the text assigns the constant. -/
def IsAssigned (c : Constant) (cs : List Char) : Prop := ∃ literal, Assigns c.name.toList literal cs

theorem mem_all (c : Constant) : c ∈ all := by
  cases c <;> decide

theorem nodup_all : all.Nodup := by decide

theorem name_injective {c d : Constant} (same : c.name = d.name) : c = d := by
  revert same
  cases c <;> cases d <;> decide

/-! ## From pieces to texts

Cutting a text at its quotes loses nothing, and a value brings no quote with it.  So what `Filling`
and `Scan` say of pieces is said here of the text, for one pass and then for passes that follow
each other. -/

theorem assigns_iff (c : Constant) (literal cs : List Char) :
    Assigns c.name.toList literal cs ↔ AssignsIn c.name.toList literal (Pieces.cut cs) := by
  have joined := assigns_join (isName_name c) literal (Pieces.quote_free_cut cs)
  rwa [Pieces.join_cut] at joined

theorem scan_iff (c : Constant) (cs : List Char) (met : List Found) :
    Scan c.name.toList cs met ↔ met = found c.name.toList (Pieces.cut cs) := by
  have scanned := scan_found (isName_name c) (Pieces.quote_free_cut cs)
  rw [Pieces.join_cut] at scanned
  constructor
  · intro scan
    exact scan.unique (isName_name c) scanned
  · rintro rfl
    exact scanned

theorem found_ne_nil_iff (c : Constant) (cs : List Char) :
    found c.name.toList (Pieces.cut cs) ≠ [] ↔ c.IsAssigned cs := by
  rw [ne_eq, found_eq_nil_iff]
  simp only [not_forall, not_not]
  exact exists_congr fun literal => (assigns_iff c literal cs).symm

instance (c : Constant) (cs : List Char) : Decidable (c.IsAssigned cs) :=
  decidable_of_iff _ (found_ne_nil_iff c cs)

theorem cut_assign_of_quote_free {value : List Char} (value_free : '"' ∉ value)
    (name cs : List Char) :
    Pieces.cut (assign name value cs).1 = (fill name value (Pieces.cut cs)).1 := by
  have free : (fill name value (Pieces.cut cs)).1.QuoteFree :=
    quote_free_fill value_free (Pieces.quote_free_cut cs)
  exact Pieces.cut_join free (fill_ne_nil (Pieces.cut_ne_nil cs))

theorem cut_assign (s : Stamp) (c : Constant) (cs : List Char) :
    Pieces.cut (assign c.name.toList (c.value s).toList cs).1 =
      (fill c.name.toList (c.value s).toList (Pieces.cut cs)).1 :=
  cut_assign_of_quote_free (quote_free_value c s) c.name.toList cs

theorem count_assign (s : Stamp) (c : Constant) (cs : List Char) :
    (assign c.name.toList (c.value s).toList cs).2 =
      (found c.name.toList (Pieces.cut cs)).length := count_fill _

theorem count_assign_eq_zero_iff (s : Stamp) (c : Constant) (cs : List Char) :
    (assign c.name.toList (c.value s).toList cs).2 = 0 ↔ ¬ c.IsAssigned cs := by
  rw [count_assign, List.length_eq_zero_iff, ← found_ne_nil_iff, not_not]

end Constant

theorem substitute_eq (text : String) (s : Stamp) : substitute text s =
    (String.ofList (substituteEach s Constant.all text.toList).1,
      (substituteEach s Constant.all text.toList).2) := by
  rw [substitute]

theorem cut_substituteEach (s : Stamp) (constants : List Constant) (cs : List Char) :
    Pieces.cut (substituteEach s constants cs).1 =
      Constant.fillEach s constants (Pieces.cut cs) := by
  induction constants generalizing cs with
  | nil => rfl
  | cons c constants ih =>
      rw [Constant.fillEach, ← Constant.cut_assign, ← ih]
      rfl

/-! ## The constant that is missing

The passes go on after a constant that is not found, and the first count of zero is reported at the
end.  So each count is taken in the text for its own constant, and the constants before the missing
one were found in theirs. -/

/-- The text in which a constant is looked for: the constants before it have their values. -/
def textFor (s : Stamp) (constants : List Constant) (c : Constant) (cs : List Char) : List Char :=
  (substituteEach s (constants.takeWhile (· ≠ c)) cs).1

theorem textFor_cons_self (s : Stamp) (constants : List Constant) (c : Constant) (cs : List Char) :
    textFor s (c :: constants) c cs = cs := by
  simp [textFor, substituteEach]

theorem textFor_cons_of_ne {c d : Constant} (different : d ≠ c) :
    textFor s (d :: constants) c cs =
      textFor s constants c (Constant.assign d.name.toList (d.value s).toList cs).1 := by
  simp [textFor, substituteEach, different]

/-- The first constant of which the substitution reports that it is assigned nowhere. -/
def missing? (s : Stamp) (constants : List Constant) (cs : List Char) : Option Substitution :=
  (substituteEach s constants cs).2.find? (·.replacements = 0)

theorem missing?_all_eq (s : Stamp) (text : String) : missing? s Constant.all text.toList =
    (substitute text s).2.find? (·.replacements = 0) := by
  rw [missing?, substitute_eq]

theorem missing?_of_not_isAssigned {c : Constant} (absent : ¬ c.IsAssigned cs) :
    missing? s (c :: constants) cs = some ⟨c, 0⟩ := by
  have zero := (Constant.count_assign_eq_zero_iff s c cs).mpr absent
  simp [missing?, substituteEach, zero]

theorem missing?_of_isAssigned {c : Constant} (present : c.IsAssigned cs) :
    missing? s (c :: constants) cs =
      missing? s constants (Constant.assign c.name.toList (c.value s).toList cs).1 := by
  have some_met : (Constant.assign c.name.toList (c.value s).toList cs).2 ≠ 0 :=
    fun zero => (Constant.count_assign_eq_zero_iff s c cs).mp zero present
  simp [missing?, substituteEach, some_met]

/-- The constant that is reported is the first one that is not assigned in the text in which it is
looked for. -/
theorem missing?_eq_some_iff (nodup : constants.Nodup) {missing : Substitution} :
    missing? s constants cs = some missing ↔
      missing = ⟨missing.constant, 0⟩ ∧ missing.constant ∈ constants ∧
      ¬ missing.constant.IsAssigned (textFor s constants missing.constant cs) ∧
      ∀ d ∈ constants.takeWhile (· ≠ missing.constant),
        d.IsAssigned (textFor s constants d cs) := by
  induction constants generalizing cs with
  | nil => simp [missing?, substituteEach]
  | cons c constants ih =>
      obtain ⟨m, n⟩ := missing
      rw [List.nodup_cons] at nodup
      have shift : ∀ {d}, d ∈ constants → textFor s (c :: constants) d cs = textFor s constants d
          (Constant.assign c.name.toList (c.value s).toList cs).1 :=
        fun mem => textFor_cons_of_ne fun h => nodup.1 (h ▸ mem)
      by_cases present : c.IsAssigned cs
      · rw [missing?_of_isAssigned present, ih nodup.2]
        refine and_congr_right fun _ => ?_
        by_cases same : m = c
        · subst same
          simp [textFor_cons_self, present, nodup.1]
        · have before : (c :: constants).takeWhile (· ≠ m) = c :: constants.takeWhile (· ≠ m) := by
            simp [Ne.symm same]
          simp only [List.mem_cons, same, false_or]
          refine and_congr_right fun mem => ?_
          rw [before, List.forall_mem_cons, textFor_cons_self, shift mem, and_iff_right present]
          refine and_congr_right fun _ => forall₂_congr fun d d_mem => ?_
          rw [shift ((List.takeWhile_sublist _).subset d_mem)]
      · rw [missing?_of_not_isAssigned present]
        by_cases same : m = c
        · subst same
          simp [textFor_cons_self, present, eq_comm]
        · simp [textFor_cons_self, present, same, Ne.symm same]

theorem missing?_eq_none_iff (nodup : constants.Nodup) :
    missing? s constants cs = none ↔
      ∀ c ∈ constants, c.IsAssigned (textFor s constants c cs) := by
  induction constants generalizing cs with
  | nil => simp [missing?, substituteEach]
  | cons c constants ih =>
      rw [List.nodup_cons] at nodup
      rw [List.forall_mem_cons, textFor_cons_self]
      by_cases present : c.IsAssigned cs
      · rw [missing?_of_isAssigned present, ih nodup.2, and_iff_right present]
        refine forall₂_congr fun d mem => ?_
        have different : c ≠ d := fun h => nodup.1 (h ▸ mem)
        rw [textFor_cons_of_ne different]
      · simp [missing?_of_not_isAssigned present, present]

/-! ## A text that is filled already

To be filled is to be left alone by every pass.  Each pass is idle then; the converse is the step
that takes an argument, since one pass might write and a later one write the old text back.  Only
what the first pass writes can be a lead, the later values being dates, and that is what
`fillEach_eq_self_iff` asks for. -/

/-- Each constant is assigned in the text, and all that is met from left to right has its value. -/
def IsFilled (s : Stamp) (cs : List Char) : Prop :=
  ∀ c : Constant, ∃ met, Constant.Scan c.name.toList cs met ∧ met ≠ [] ∧
    ∀ f ∈ met, f.literal = (c.value s).toList

theorem substituteEach_eq_self (settled : ∀ c ∈ constants,
    (Constant.fill c.name.toList (c.value s).toList (Pieces.cut cs)).1 = Pieces.cut cs) :
    (substituteEach s constants cs).1 = cs := by
  have whole : Constant.fillEach s constants (Pieces.cut cs) = Pieces.cut cs := by
    induction constants with
    | nil => rfl
    | cons c constants ih =>
        rw [List.forall_mem_cons] at settled
        rw [Constant.fillEach, settled.1, ih settled.2]
  rw [← Pieces.join_cut (substituteEach s constants cs).1, cut_substituteEach, whole,
    Pieces.join_cut]

/-- A text is filled exactly if the substitution finds every constant and changes nothing. -/
theorem isFilled_iff (s : Stamp) (cs : List Char) :
    IsFilled s cs ↔ (substituteEach s Constant.all cs).1 = cs ∧
      missing? s Constant.all cs = none := by
  have same_iff : (substituteEach s Constant.all cs).1 = cs ↔ ∀ c ∈ Constant.all,
      (Constant.fill c.name.toList (c.value s).toList (Pieces.cut cs)).1 = Pieces.cut cs := by
    refine ⟨fun same => ?_, substituteEach_eq_self⟩
    have dates : ∀ c ∈ Constant.all.tail, ∀ d : Constant,
        ¬ Constant.isLead d.name.toList (c.value s).toList = true :=
      fun c mem d => Constant.not_isLead_date (by rintro rfl; revert mem; decide) s d
    rw [← Constant.fillEach_eq_self_iff Constant.nodup_all dates, ← cut_substituteEach, same]
  rw [same_iff, missing?_eq_none_iff Constant.nodup_all]
  constructor
  · intro filled
    have settled : ∀ c ∈ Constant.all,
        (Constant.fill c.name.toList (c.value s).toList (Pieces.cut cs)).1 = Pieces.cut cs := by
      intro c _
      obtain ⟨met, scan, -, has_value⟩ := filled c
      obtain rfl := (Constant.scan_iff c cs met).mp scan
      exact Constant.fill_eq_self_iff.mpr has_value
    refine ⟨settled, fun c _ => ?_⟩
    obtain ⟨met, scan, some_met, -⟩ := filled c
    obtain rfl := (Constant.scan_iff c cs met).mp scan
    rw [textFor, substituteEach_eq_self fun d _ => settled d d.mem_all]
    exact (Constant.found_ne_nil_iff c cs).mp some_met
  · rintro ⟨settled, all_found⟩ c
    have present := all_found c c.mem_all
    rw [textFor, substituteEach_eq_self fun d _ => settled d d.mem_all] at present
    exact ⟨_, (Constant.scan_iff c cs _).mpr rfl, (Constant.found_ne_nil_iff c cs).mpr present,
      Constant.fill_eq_self_iff.mp (settled c c.mem_all)⟩

/-- Where every assignment has its value already, the text is filled if each constant is
assigned. -/
theorem isFilled_iff_isAssigned (settled : ∀ (c : Constant) (literal : List Char),
    Constant.Assigns c.name.toList literal cs → literal = (c.value s).toList) :
    IsFilled s cs ↔ ∀ c : Constant, c.IsAssigned cs := by
  refine forall_congr' fun c => ?_
  rw [← Constant.found_ne_nil_iff]
  have scan := (Constant.scan_iff c cs _).mpr rfl
  constructor
  · rintro ⟨met, scan', some_met, -⟩
    rwa [(Constant.scan_iff c cs met).mp scan'] at some_met
  · intro some_met
    exact ⟨_, scan, some_met, fun f mem => settled c f.literal (scan.assigns f mem)⟩

/-! ## The literals that are left

A release version that ends in `=` reads as the beginning of an assignment.  Without that sign a
substitution brings no assignment with it, and leaves none with any value but that of its constant.
-/

theorem isAssigned_of_textFor {record : CommitRecord} (accepted : Stamp.ofCommit record = .ok s)
    (no_sign : s.release.toList.getLast? ≠ some '=') {c : Constant}
    (present : c.IsAssigned (textFor s constants c cs)) : c.IsAssigned cs := by
  obtain ⟨literal, assigns⟩ := present
  rw [Constant.assigns_iff, textFor, cut_substituteEach] at assigns
  have absent : c ∉ constants.takeWhile (· ≠ c) := by
    intro mem
    simpa using List.all_eq_true.mp List.all_takeWhile c mem
  exact ⟨literal, (Constant.assigns_iff c literal cs).mpr <| Constant.assignsIn_of_fillEach absent
    (fun d _ => Constant.not_isLead_value accepted no_sign d c) assigns⟩

/-- If the release version does not end in `=`, every assignment that a substitution leaves has the
value of its constant. -/
theorem eq_of_assigns_substitute {record : CommitRecord} (accepted : Stamp.ofCommit record = .ok s)
    (no_sign : s.release.toList.getLast? ≠ some '=') {c : Constant} {literal : List Char}
    (assigns : Constant.Assigns c.name.toList literal (substituteEach s Constant.all cs).1) :
    literal = (c.value s).toList := by
  rw [Constant.assigns_iff, cut_substituteEach] at assigns
  exact Constant.eq_of_assignsIn_fillEach Constant.nodup_all
    (fun d _ e _ => Constant.not_isLead_value accepted no_sign e d) c.mem_all assigns

end VersionStamp
