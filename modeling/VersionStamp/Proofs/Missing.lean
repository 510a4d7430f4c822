/-
# VersionStamp.Proofs.Missing — when a constant that is not assigned is reported

A grammar that lacks a constant is refused, and the failure should name a constant that it lacks.
The constants are looked for one after the other, each in the text that holds the values of those
before it already.  So what is reported is the first constant that is missing *there*.  It is
missing in the file too, unless a value that ends in `=` has brought an assignment into the text,
or an assignment stood in the literal of another and was overwritten with it.

The header is rendered first, so that it is the header that is told of if it cannot be read.
-/
import VersionStamp.Proofs.Overlap
import VersionStamp.Proofs.Running

namespace VersionStamp

/-- The first constant that is not assigned in the text in which it is looked for. -/
structure FirstMissing (s : Stamp) (c : Constant) (cs : List Char) : Prop where
  absent : ¬ c.IsAssigned (textFor s Constant.all c cs)
  earlier : ∀ d ∈ Constant.all.takeWhile (· ≠ c), d.IsAssigned (textFor s Constant.all d cs)

theorem missing?_all_eq_some_iff {s : Stamp} {c : Constant} {cs : List Char} :
    missing? s Constant.all cs = some ⟨c, 0⟩ ↔ FirstMissing s c cs := by
  rw [missing?_eq_some_iff Constant.nodup_all]
  constructor
  · rintro ⟨-, -, absent, earlier⟩
    exact ⟨absent, earlier⟩
  · rintro ⟨absent, earlier⟩
    exact ⟨rfl, c.mem_all, absent, earlier⟩

/-- The header is there to be read, or is not there at all. -/
def Layout.HeaderRenders (l : Layout) (w : Workspace) : Prop :=
  ∃ previous, w.Holds l.versionHeader previous

/-- No plan is made, and the failure names the constant. -/
def Plan.Lacks (w : Workspace) (git : Git) (layout : Layout) (commit : String) (c : Constant) :
    Prop :=
  (make w git layout commit).outcome = .error (.constantNotFound layout.grammarFile c.name)

namespace Plan

variable {w : Workspace} {git : Git} {layout : Layout} {commit text : String}
  {record : CommitRecord} {s : Stamp}

theorem lacks_iff (recorded : layout.record git commit = .ok record)
    (accepted : Stamp.ofCommit record = .ok s) (read : w.readText layout.grammarFile = .ok text)
    {c : Constant} :
    Lacks w git layout commit c ↔ layout.HeaderRenders w ∧ FirstMissing s c text.toList := by
  rw [Lacks, make_eq_constantNotFound_iff recorded accepted read, ← missing?_all_eq_some_iff]
  refine and_congr_right fun _ => ?_
  constructor
  · rintro ⟨⟨d, n⟩, found, same⟩
    obtain rfl := Constant.name_injective same
    have zero := ((missing?_eq_some_iff Constant.nodup_all).mp found).1
    rw [found, zero]
  · intro found
    exact ⟨⟨c, 0⟩, found, rfl⟩

/-- The failure names a constant that the grammar does not assign exactly if the header renders and
the first constant that is missing when it is looked for is such a one.  If the release version
does not end in `=`, a grammar that does not assign every constant is refused in any case, and for
one that it does not assign if assignments of different constants keep apart.  Where a constant is
named, the run fails and touches no file. -/
theorem lacks_unassigned_iff (recorded : layout.record git commit = .ok record)
    (accepted : Stamp.ofCommit record = .ok s) (read : w.readText layout.grammarFile = .ok text)
    (unassigned : ∃ c : Constant, ¬ c.IsAssigned text.toList) :
    ((∃ c : Constant, ¬ c.IsAssigned text.toList ∧ Lacks w git layout commit c) ↔
      layout.HeaderRenders w ∧
        ∃ c : Constant, ¬ c.IsAssigned text.toList ∧ FirstMissing s c text.toList) ∧
    (s.release.toList.getLast? ≠ some '=' → layout.HeaderRenders w →
      ∃ c, Lacks w git layout commit c ∧
        (Constant.Separate text.toList → ¬ c.IsAssigned text.toList)) ∧
    ∀ request : Request, request.commit = commit →
      Layout.discover w (Update.currentPath w) request.source = .ok layout →
      ∀ c, Lacks w git layout commit c →
        (Update.run w git request).result =
            .error (.constantNotFound layout.grammarFile c.name) ∧
          (Update.run w git request).tree = w.tree := by
  refine ⟨?_, ?_, ?_⟩
  · simp only [lacks_iff recorded accepted read]
    constructor
    · rintro ⟨c, absent, renders, first⟩
      exact ⟨renders, c, absent, first⟩
    · rintro ⟨renders, c, absent, first⟩
      exact ⟨c, absent, renders, first⟩
  · intro no_sign renders
    obtain ⟨c, absent⟩ := unassigned
    cases found : missing? s Constant.all text.toList with
    | none =>
        -- No value brings an assignment into the text, so `c` is missing at its turn too.
        have present := (missing?_eq_none_iff Constant.nodup_all).mp found c c.mem_all
        exact absurd (isAssigned_of_textFor accepted no_sign present) absent
    | some missing =>
        have lacks : Lacks w git layout commit missing.constant :=
          (make_eq_constantNotFound_iff recorded accepted read).mpr ⟨renders, missing, found, rfl⟩
        refine ⟨missing.constant, lacks, fun separate present => ?_⟩
        have first := ((lacks_iff recorded accepted read).mp lacks).2
        exact first.absent (isAssigned_substituteEach accepted no_sign separate present _)
  · rintro request rfl discovered c lacks
    unfold Lacks at lacks
    constructor
    · simp [Update.run, discovered, lacks]
    · simp [Update.run, discovered, lacks]

/-- A stamp whose release version reads as the beginning of an assignment. -/
def signStamp : Stamp :=
  ⟨"ManifestDate =", ⟨2025, 3, 5, by decide⟩, ⟨0, 29, 51, by decide⟩, by decide⟩

/-- A grammar without a manifest date. -/
def undated : String := "ReleaseVersion = \"1.0\" \"x\" ManifestISODate = \"y\""

/-- The grammar does not assign the manifest date, and a plan is made all the same. -/
theorem unassigned_goes_unnoticed :
    ¬ Constant.manifestDate.IsAssigned undated.toList ∧
      (make (Sample.checkout undated) (Sample.git "ManifestDate =") ⟨"/down", "/pikchr"⟩
        "HEAD").outcome.isOk = true ∧
      ¬ ∃ c : Constant, ¬ c.IsAssigned undated.toList ∧
        FirstMissing signStamp c undated.toList := by
  have read : (Sample.checkout undated).readText
      (Layout.grammarFile ⟨"/down", "/pikchr"⟩) = .ok undated := by decide +kernel
  have absent : ¬ Constant.manifestDate.IsAssigned undated.toList := by decide +kernel
  have recorded : Layout.record ⟨"/down", "/pikchr"⟩ (Sample.git "ManifestDate =") "HEAD" =
      .ok ⟨"c0ffee", "2025-03-05 00:29:51 +0000", "ManifestDate ="⟩ := by decide +kernel
  have accepted : Stamp.ofCommit ⟨"c0ffee", "2025-03-05 00:29:51 +0000", "ManifestDate ="⟩ =
      .ok signStamp := by decide +kernel
  have planned : (make (Sample.checkout undated) (Sample.git "ManifestDate =")
      ⟨"/down", "/pikchr"⟩ "HEAD").outcome.isOk = true := by decide +kernel
  have renders : Layout.HeaderRenders ⟨"/down", "/pikchr"⟩ (Sample.checkout undated) := by
    refine ⟨none, ?_⟩
    change _ = _
    decide +kernel
  refine ⟨absent, planned, fun first => ?_⟩
  obtain ⟨c, -, lacks⟩ :=
    (lacks_unassigned_iff recorded accepted read ⟨_, absent⟩).1.mpr ⟨renders, first⟩
  unfold Lacks at lacks
  rw [lacks] at planned
  exact nomatch planned

end Plan

end VersionStamp
