import EmailTriage.FeedbackLearning.SenderReputationCacheRepository
import EmailTriage.Lib.Registers

/-!
# Reading and saving sender reputations

`save`, `findBySenderDomain` and `findOrCreate` of
`src/feedback-learning/infrastructure/repositories/sender-reputation-cache.repository.ts`, by any
number of clients, for any domains of any tenants. What a client saves may come from an old copy, but
no two saves mix: a client is told one that was made, and that is the last one
(`savedReputations_run`).
-/

namespace EmailTriage.FeedbackLearning

open Js Db Repository

/-- A cache that is saved for a tenant. -/
structure SavedReputation where
  tenantId : String
  aggregate : SenderReputationCache

/-- What was observed of a category. -/
def ReputationEntry.observed (e : ReputationEntry) : String × ℕ × ℚ :=
  (e.category, e.observationCount, e.confidenceWeight)

/-- A cache that is read has what was observed in one that was saved. The category `__proto__` is never
stored. -/
structure SameReputation (c : SenderReputationCache) (saved : SavedReputation) : Prop where
  tenantId : c.tenantId = saved.tenantId
  senderDomain : c.senderDomain = saved.aggregate.senderDomain
  observed : ∀ category, category ≠ "__proto__" →
    (c.categoryHistory.find category).map (·.2.observed)
      = (saved.aggregate.categoryHistory.find category).map (·.2.observed)

namespace SenderReputationCacheRepository

variable (column : CategoryColumn)

/-- The column keeps what was observed. -/
theorem observed_stored (c : CategoryConfidence) (category : String) :
    ((column.stored c).find category).map (fun item => (ReputationEntry.fromDb item.2).observed)
      = (c.find category).map fun item => (ReputationEntry.fromDb item.2).observed := by
  have hfind : (column.stored c).find category = (CategoryColumn.ordered.stored c).find category :=
    Keyed.find_perm (column.perm c) category
  have hordered := Keyed.find_of_items_map
    (show (CategoryColumn.ordered.stored c).items = c.items.map _ from rfl) (fun _ => rfl) category
  rw [hfind, hordered, Option.map_map]
  rfl

/-- What is read back has what was observed when it was written. -/
theorem sameReputation_load {record : SenderReputationCacheRow} {saved : SavedReputation} (now : ℤ)
    (hkey : Schema.key record = (saved.tenantId, saved.aggregate.senderDomain))
    (hcolumn : record.category_confidence
      = column.stored (saved.aggregate.toDb now).category_confidence) :
    SameReputation (.new record.tenant_id record.sender_domain record.category_confidence) saved := by
  obtain ⟨htenant, hdomain⟩ := Prod.mk.inj hkey
  refine ⟨htenant, hdomain, fun category hproto => ?_⟩
  show ((ofObject ReputationEntry.fromDb record.category_confidence).find category).map _ = _
  rw [find_ofObject, Option.map_map, hcolumn]
  refine (observed_stored column _ category).trans ?_
  show ((toObject ReputationEntry.toDb saved.aggregate.categoryHistory).find category).map _ = _
  rw [find_toObject, if_neg hproto, Option.map_map]
  rfl

/-- The repository as one that looks up and then writes. -/
def reputations : Repository SenderReputationCacheRow SavedReputation SenderReputationCache where
  key v := (v.tenantId, v.aggregate.senderDomain)
  patch now v := updateData column now v.aggregate
  row now t v := createData column now t.freshId v.aggregate v.tenantId
  key_row _ _ _ := rfl
  id_row _ _ _ _ hr := Table.ne_freshId hr
  load record := .new record.tenant_id record.sender_domain record.category_confidence
  fresh k := ⟨k.1, .create k.1 k.2⟩
  key_fresh _ := rfl
  created k := .create k.1 k.2
  Shows := SameReputation
  shows_patch now _ _ hkey := sameReputation_load column now hkey rfl
  shows_row now _ _ := sameReputation_load column now rfl rfl
  shows_created _ := ⟨rfl, rfl, fun _ _ => rfl⟩

/-- The save of the repository is the one of a register. -/
theorem save_eq (t : SenderReputationCacheTable) (now : ℤ) (aggregate : SenderReputationCache)
    (tenantId : String) :
    save column t now aggregate tenantId = (reputations column).save t now ⟨tenantId, aggregate⟩ := rfl

/-- So is its lookup. -/
theorem findBySenderDomain_eq (t : SenderReputationCacheTable) (tenantId senderDomain : String) :
    findBySenderDomain t tenantId senderDomain = (reputations column).read t (tenantId, senderDomain) := rfl

/-- So is the lookup that creates what is missing. -/
theorem findOrCreate_eq (t : SenderReputationCacheTable) (now : ℤ) (tenantId senderDomain : String) :
    findOrCreate column t now tenantId senderDomain
      = (reputations column).findOrCreate t now (tenantId, senderDomain) := by
  unfold findOrCreate Repository.findOrCreate
  rw [findBySenderDomain_eq column]
  rcases (reputations column).read t (tenantId, senderDomain) with _ | existing
  · rfl
  · rfl

/-- Whatever the order of the calls, and whichever of them fail: a client is told what was observed in
the cache of the domain that was saved last, and this is what the table holds; when `findOrCreate`
stores an empty cache, or the unique key refuses a save, the client had looked before anything was
saved for the domain. -/
theorem savedReputations_run {ι : Type} [DecidableEq ι]
    (turns : List (ι × Turn (String × String) SavedReputation)) :
    let R := reputations column
    let w := turns.foldl R.step start
    (∀ i tenantId senderDomain answer past,
      .answered i (tenantId, senderDomain) answer :: past <:+ w.history →
      R.Answers answer (R.lastWrite (tenantId, senderDomain) past)) ∧
    (∀ tenantId senderDomain, R.Answers (findBySenderDomain w.table tenantId senderDomain)
      (R.lastWrite (tenantId, senderDomain) w.history)) ∧
    (∀ i tenantId senderDomain past, .created i (tenantId, senderDomain) :: past <:+ w.history →
      ∃ before, .missed i (tenantId, senderDomain) :: before <:+ past ∧
        R.lastWrite (tenantId, senderDomain) before = none) ∧
    ∀ i tenantId senderDomain past, .refused i (tenantId, senderDomain) :: past <:+ w.history →
      R.lastWrite (tenantId, senderDomain) past ≠ none ∧
        ∃ before, .looked i (tenantId, senderDomain) :: before <:+ past ∧
          R.lastWrite (tenantId, senderDomain) before = none := by
  intro R w
  have hw := isRegister_run R turns
  refine ⟨fun i _ _ answer past => hw.answered i _ answer past, fun _ _ => hw.stored _,
    fun i _ _ past => hw.created i _ past, fun i _ _ past h => ?_⟩
  exact (hw.refused i _ past h).symm

end SenderReputationCacheRepository

end EmailTriage.FeedbackLearning
