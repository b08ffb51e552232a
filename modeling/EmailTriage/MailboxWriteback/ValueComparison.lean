import EmailTriage.FeedbackLearning.CorrectionRecord
import EmailTriage.Lib.KeyOrder
import EmailTriage.MailboxWriteback.MessageWriteBackState

/-!
# Comparing values

The facets of a message and the verdicts of a correction are stored as JSON and compared as the texts that
`JSON.stringify` prints, which depend on the order of keys. `treatedAlike_iff` says for which values the
comparisons of the two contexts take them for the same.
-/

namespace EmailTriage.MailboxWriteback

open Js FeedbackLearning
open MailboxIngestion (Platform)

/-- Every comparison of the program takes `w` for the same value as `v`. -/
structure TreatedAlike (v w : Value) : Prop where
  /-- `applyFacet` takes a facet that is applied with `v` as applied with `w`. -/
  applyFacet : ∀ (a : MessageWriteBackState) (facetType : FacetType) (facet : FacetApplication)
    (platform : Platform) (now : ℤ), a.facets facetType = some facet → facet.desiredValue = v →
    facet.status = .applied → a.applyFacet facetType w platform now = a
  detectDivergence : ∀ (a : MessageWriteBackState) (facetType : FacetType) (facet : FacetApplication)
    (now : ℤ), a.facets facetType = some facet → facet.lastKnownPlatformState = v →
    a.detectDivergence facetType w now = a
  isIdempotent : ∀ facet : FacetApplication, facet.desiredValue = v →
    facet.lastKnownPlatformState = w → facet.status = .applied → facet.isIdempotent = true
  isDifferent : ∀ s : VerdictSnapshot, s.originalVerdict = v → s.correctedVerdict = w →
    s.isDifferent = false

/-- Each comparison compares the printed texts. -/
theorem treatedAlike_iff_sameJson {v w : Value} : TreatedAlike v w ↔ sameJson v w = true := by
  constructor
  · intro h
    have hdifferent := h.isDifferent ⟨.of .classification, .of "message", v, w, ⟨.null⟩⟩ rfl rfl
    unfold VerdictSnapshot.isDifferent at hdifferent
    rwa [Bool.not_eq_false'] at hdifferent
  · intro h
    refine ⟨?_, ?_, ?_, ?_⟩
    · rintro a facetType facet platform now hfacet rfl hstatus
      have happlied : MessageWriteBackState.alreadyApplied (a.facets facetType) w = true := by
        rw [hfacet]
        simp [MessageWriteBackState.alreadyApplied, h, hstatus]
      unfold MessageWriteBackState.applyFacet
      rw [if_pos happlied]
    · rintro a facetType facet now hfacet rfl
      unfold MessageWriteBackState.detectDivergence
      rw [hfacet]
      exact if_pos h
    · rintro facet rfl rfl hstatus
      simp [FacetApplication.isIdempotent, h, hstatus]
    · rintro s rfl rfl
      rw [VerdictSnapshot.isDifferent, h]
      rfl

/-- JSON values are taken for the same exactly if they are, with their keys in the same order at every
depth. -/
theorem treatedAlike_iff {v w : Value} (hv : IsJson v) (hw : IsJson w) :
    TreatedAlike v w ↔ v = w :=
  treatedAlike_iff_sameJson.trans (sameJson_iff hv hw)

/-- Two objects with the same two keys and values. -/
theorem treatedAlike_iff_reordered :
    TreatedAlike (.obj [("label", .str "Work"), ("archive", .bool true)])
        (.obj [("archive", .bool true), ("label", .str "Work")]) ↔
      Value.obj [("label", .str "Work"), ("archive", .bool true)]
        = .obj [("archive", .bool true), ("label", .str "Work")] :=
  treatedAlike_iff ⟨trivial, trivial, trivial⟩ ⟨trivial, trivial, trivial⟩

/-- The same object with its keys in two orders. -/
theorem not_treatedAlike_reordered :
    SameValue (.obj [("label", .str "Work"), ("archive", .bool true)])
        (.obj [("archive", .bool true), ("label", .str "Work")]) ∧
      ¬TreatedAlike (.obj [("label", .str "Work"), ("archive", .bool true)])
        (.obj [("archive", .bool true), ("label", .str "Work")]) := by
  refine ⟨.obj (.swap _ _ _ (by decide)), fun h => ?_⟩
  exact absurd (treatedAlike_iff_sameJson.mp h) (by decide +kernel)

end EmailTriage.MailboxWriteback
