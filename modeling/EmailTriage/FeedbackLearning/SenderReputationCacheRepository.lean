import EmailTriage.FeedbackLearning.ReputationPersistence
import EmailTriage.Lib.Table

/-!
# The table of sender reputations

`src/feedback-learning/infrastructure/repositories/sender-reputation-cache.repository.ts` over the table
`sender_reputation_caches` of `prisma/schema.prisma`, whose rows are unique on tenant and sender domain.
`save` looks for the row of the domain in one database call, and writes it in another.

The categories are one JSON column: dates come back as texts, and keys in an order that the database
chooses. The number of observations survives both, so the module about overlapping cycles needs no more
than the count that is stored for a domain (`storedCount`).
-/

namespace EmailTriage.FeedbackLearning

open Js Db

/-- A date as JSON has it. -/
def jsonDate : Value → Value
  | .date (some t) => .str (Date.toISOString t)
  | .date none => .null
  | v => v

/-- What the column `category_confidence` gives back for the object it was given: dates become text,
and the keys may come back in another order. -/
structure CategoryColumn where
  stored : CategoryConfidence → CategoryConfidence
  perm : ∀ c, (stored c).items.Perm
    (c.items.map fun item =>
      (item.1, { item.2 with lastUpdatedAt := ⟨jsonDate item.2.lastUpdatedAt.value⟩ }))

/-- A column that keeps the order of the keys. -/
def CategoryColumn.ordered : CategoryColumn where
  stored c :=
    { items := c.items.map fun item =>
        (item.1, { item.2 with lastUpdatedAt := ⟨jsonDate item.2.lastUpdatedAt.value⟩ })
      nodup := by
        rw [List.map_map]
        exact c.nodup }
  perm _ := List.Perm.refl _

/-- A row of `sender_reputation_caches`. -/
structure SenderReputationCacheRow where
  id : ℕ
  tenant_id : String
  sender_domain : String
  category_confidence : CategoryConfidence
  last_updated : ℤ

instance : Schema SenderReputationCacheRow ℕ (String × String) where
  id := SenderReputationCacheRow.id
  key r := (r.tenant_id, r.sender_domain)

/-- The table `sender_reputation_caches`. -/
abbrev SenderReputationCacheTable := Table SenderReputationCacheRow

namespace SenderReputationCacheRepository

variable (column : CategoryColumn)

/-- The columns `save` updates. -/
def updateData (now : ℤ) (aggregate : SenderReputationCache) : Patch SenderReputationCacheRow where
  apply r := { r with
    category_confidence := column.stored (aggregate.toDb now).category_confidence
    last_updated := (aggregate.toDb now).last_updated }
  id_apply _ := rfl
  key_apply _ := rfl

/-- The row `save` creates. -/
def createData (now : ℤ) (id : ℕ) (aggregate : SenderReputationCache) (tenantId : String) :
    SenderReputationCacheRow where
  id := id
  tenant_id := tenantId
  sender_domain := aggregate.senderDomain
  category_confidence := column.stored (aggregate.toDb now).category_confidence
  last_updated := now

/-- The first call of `save`. -/
def findExisting (t : SenderReputationCacheTable) (aggregate : SenderReputationCache) (tenantId : String) :
    Option ℕ :=
  (t.find (tenantId, aggregate.senderDomain)).map SenderReputationCacheRow.id

/-- The second call of `save`; `none` is a database error. -/
def write (t : SenderReputationCacheTable) (now : ℤ) (aggregate : SenderReputationCache) (tenantId : String)
    (existing : Option ℕ) : Option SenderReputationCacheTable :=
  t.write existing (updateData column now aggregate) (createData column now t.freshId aggregate tenantId)

def save (t : SenderReputationCacheTable) (now : ℤ) (aggregate : SenderReputationCache) (tenantId : String) :
    Option SenderReputationCacheTable :=
  write column t now aggregate tenantId (findExisting t aggregate tenantId)

def findBySenderDomain (t : SenderReputationCacheTable) (tenantId senderDomain : String) :
    Option SenderReputationCache :=
  (t.find (tenantId, senderDomain)).map fun record =>
    .new record.tenant_id record.sender_domain record.category_confidence

/-- `findOrCreate`, with the table it leaves. -/
def findOrCreate (t : SenderReputationCacheTable) (now : ℤ) (tenantId senderDomain : String) :
    Option (SenderReputationCacheTable × SenderReputationCache) :=
  match findBySenderDomain t tenantId senderDomain with
  | some existing => some (t, existing)
  | none =>
    let agg := SenderReputationCache.create tenantId senderDomain
    (save column t now agg tenantId).map fun t => (t, agg)

end SenderReputationCacheRepository

/-! ## Counts

The number of observations, followed through the aggregate, the column and the table.
-/

/-- How often a category was observed. -/
def SenderReputationCache.observationCount (c : SenderReputationCache) (category : String) : ℕ :=
  ((c.categoryHistory.find category).map fun item => item.2.observationCount).getD 0

/-- How often a category was observed, as it is stored. -/
def CategoryConfidence.observationCount (column : CategoryConfidence) (category : String) : ℕ :=
  ((column.find category).map fun item => item.2.observationCount).getD 0

namespace SenderReputationCache

/-- An observation does not change whose reputation it is. -/
theorem senderDomain_recordCategory (c : SenderReputationCache) (category : String) (confidenceWeight : ℚ)
    (now : ℤ) : (c.recordCategory category confidenceWeight now).senderDomain = c.senderDomain := by
  unfold recordCategory
  split
  · rfl
  · rfl

/-- It counts for its category and for no other one. -/
theorem observationCount_recordCategory (c : SenderReputationCache) (category : String)
    (confidenceWeight : ℚ) (now : ℤ) (k : String) :
    (c.recordCategory category confidenceWeight now).observationCount k =
      c.observationCount k + if k = category then 1 else 0 := by
  unfold observationCount
  rw [find_recordCategory]
  by_cases hk : k = category
  · rw [if_pos hk, if_pos hk, hk]
    rcases c.categoryHistory.find category with _ | ⟨_, existing⟩
    · rfl
    · rfl
  · rw [if_neg hk, if_neg hk, Nat.add_zero]

/-- What is written has the counts, but for the key that sets the prototype. -/
theorem observationCount_toDb (c : SenderReputationCache) (now : ℤ) (k : String) :
    (c.toDb now).category_confidence.observationCount k =
      if k = "__proto__" then 0 else c.observationCount k := by
  unfold CategoryConfidence.observationCount observationCount toDb
  rw [find_toObject]
  split
  · rfl
  · rw [Option.map_map]
    rfl

/-- What is read has the stored counts. -/
theorem observationCount_new (tenantId senderDomain : String) (column : CategoryConfidence) (k : String) :
    (new tenantId senderDomain column).observationCount k = column.observationCount k := by
  unfold observationCount CategoryConfidence.observationCount
  rw [new, find_ofObject, Option.map_map]
  rfl

end SenderReputationCache

/-- The column keeps the counts. -/
theorem CategoryColumn.observationCount_stored (column : CategoryColumn) (c : CategoryConfidence)
    (k : String) :
    (column.stored c).observationCount k = c.observationCount k := by
  have hfind : (column.stored c).find k = (CategoryColumn.ordered.stored c).find k :=
    Keyed.find_perm (column.perm c) k
  have hordered := Keyed.find_of_items_map
    (show (CategoryColumn.ordered.stored c).items = c.items.map _ from rfl) (fun _ => rfl) k
  unfold CategoryConfidence.observationCount
  rw [hfind, hordered, Option.map_map]
  rfl

namespace SenderReputationCacheRepository

/-- How often a category was observed for a sender domain, as it is stored. -/
def storedCount (t : SenderReputationCacheTable) (tenantId senderDomain k : String) : ℕ :=
  ((t.find (tenantId, senderDomain)).map fun r => r.category_confidence.observationCount k).getD 0

variable {column : CategoryColumn} {t t' : SenderReputationCacheTable} {now : ℤ}
  {aggregate : SenderReputationCache} {tenantId senderDomain : String} {existing : Option ℕ}

/-- A cache that is loaded has the stored counts, and is that of its domain. -/
theorem observationCount_findBySenderDomain
    (h : findBySenderDomain t tenantId senderDomain = some aggregate) :
    aggregate.senderDomain = senderDomain ∧
      ∀ k, aggregate.observationCount k = storedCount t tenantId senderDomain k := by
  unfold findBySenderDomain at h
  obtain ⟨record, hrecord, rfl⟩ := Option.map_eq_some_iff.mp h
  refine ⟨congrArg Prod.snd (Table.find_eq_some_iff.mp hrecord).2, fun k => ?_⟩
  unfold storedCount
  rw [hrecord, SenderReputationCache.observationCount_new]
  rfl

/-- A write leaves a row with the counts of the cache. -/
theorem storedCount_write (hfound : t.Found (tenantId, aggregate.senderDomain) existing)
    (h : write column t now aggregate tenantId existing = some t') :
    (∃ r, t'.find (tenantId, aggregate.senderDomain) = some r) ∧
      ∀ k, storedCount t' tenantId aggregate.senderDomain k =
        if k = "__proto__" then 0 else aggregate.observationCount k := by
  obtain ⟨⟨r, hr, hwritten⟩, -, -⟩ := Table.find_write rfl hfound h
  have hcolumn : r.category_confidence = column.stored (aggregate.toDb now).category_confidence := by
    rcases hwritten with rfl | ⟨r₀, rfl⟩
    · rfl
    · rfl
  have hrow : t'.find (tenantId, aggregate.senderDomain) = some r := hr
  refine ⟨⟨r, hrow⟩, fun k => ?_⟩
  unfold storedCount
  rw [hrow, Option.map_some, Option.getD_some, hcolumn, column.observationCount_stored,
    SenderReputationCache.observationCount_toDb]

/-- A write fails only if it creates a row that is there. -/
theorem write_eq_none_iff (hfound : t.Found (tenantId, aggregate.senderDomain) existing) :
    write column t now aggregate tenantId existing = none ↔
      existing = none ∧ t.find (tenantId, aggregate.senderDomain) ≠ none := by
  unfold write
  rcases existing with _ | i
  · rcases hrow : t.find (tenantId, aggregate.senderDomain) with _ | r
    · obtain ⟨t', ht'⟩ := Table.exists_create (r := createData column now t.freshId aggregate tenantId)
        (fun _ hr => Table.ne_freshId hr) hrow
      refine iff_of_false (fun hnone => ?_) fun h => h.2 rfl
      cases ht'.symm.trans hnone
    · exact iff_of_true (Table.write_none_of_find hrow) ⟨rfl, Option.some_ne_none r⟩
  · obtain ⟨t', ht'⟩ := Table.exists_write_of_found hfound (updateData column now aggregate)
      (createData column now t.freshId aggregate tenantId)
    refine iff_of_false (fun hnone => ?_) fun h => Option.some_ne_none i h.1
    cases ht'.symm.trans hnone

end SenderReputationCacheRepository

end EmailTriage.FeedbackLearning
