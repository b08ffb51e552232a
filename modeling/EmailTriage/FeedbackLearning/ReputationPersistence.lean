import EmailTriage.FeedbackLearning.SenderReputationCache
import Mathlib.Data.List.Perm.Basic

/-!
# Storing the reputation of a sender domain

`toDb` turns the map of categories into an object, and `fromDb` reads the properties of that object in
the order in which JavaScript lists them: keys that spell an array index first, in ascending order, and
then the other ones in the order in which the database returns them. The most likely category is the
first of maximal confidence, so it depends on that order. `persists_iff` says which caches come back as
they were, whatever the database does.

## What has to be the same

The entries come back but for one of a reserved name (`reload_perm`), so what is left is which entry of
maximal confidence is the first one. If the database returns another one of them first, then the first
one stays the first only where an object always lists it before that other one
(`alwaysBefore_of_reload`).
-/

namespace EmailTriage.FeedbackLearning

open Js

/-! ## Objects

The history is a map in memory and an object in the column. `reload` goes there and back, by any column
that keeps the properties.
-/

/-- The object `ReputationEntry.toDb` builds. -/
structure ReputationEntryData where
  category : String
  observationCount : ℕ
  confidenceWeight : ℚ
  lastUpdatedAt : Dyn Date

namespace ReputationEntry

def toDb (e : ReputationEntry) : ReputationEntryData :=
  ⟨e.category, e.observationCount, e.confidenceWeight, e.lastUpdatedAt⟩

def fromDb (data : ReputationEntryData) : ReputationEntry :=
  ⟨data.category, data.observationCount, data.confidenceWeight, data.lastUpdatedAt⟩

end ReputationEntry

/-- The object in `category_confidence`. -/
abbrev CategoryConfidence := Object ReputationEntryData

/-- The object `SenderReputationCache.toDb` builds. -/
structure SenderReputationCacheData where
  tenant_id : String
  sender_domain : String
  category_confidence : CategoryConfidence
  last_updated : ℤ

namespace SenderReputationCache

def toDb (c : SenderReputationCache) (now : ℤ) : SenderReputationCacheData where
  tenant_id := c.tenantId
  sender_domain := c.senderDomain
  category_confidence := toObject ReputationEntry.toDb c.categoryHistory
  last_updated := now

/-- The constructor, with a history. -/
def new (tenantId senderDomain : String) (history : CategoryConfidence) : SenderReputationCache :=
  ⟨tenantId, senderDomain, ofObject ReputationEntry.fromDb history⟩

def fromDb (data : SenderReputationCacheData) : SenderReputationCache :=
  new data.tenant_id data.sender_domain data.category_confidence

/-- The cache that is read back when the database returns `column` for what was written: the properties
are those of the column, in the order of an object. -/
def reload (c : SenderReputationCache) (now : ℤ) (column : CategoryConfidence) : SenderReputationCache :=
  fromDb { c.toDb now with category_confidence := column.enumerated }

/-- In whatever order the database returns the keys, the cache has the entries and the most likely
category that it had. -/
structure Persists (c : SenderReputationCache) (now : ℤ) : Prop where
  entries : ∀ column : CategoryConfidence, column.items.Perm (c.toDb now).category_confidence.items →
    ∀ category, (c.reload now column).categoryHistory.find category = c.categoryHistory.find category
  mostLikely : ∀ column : CategoryConfidence, column.items.Perm (c.toDb now).category_confidence.items →
    (c.reload now column).getMostLikelyCategory = c.getMostLikelyCategory

/-- The entries of maximal confidence, in their order. -/
def mostConfident (items : List (String × ReputationEntry)) : List (String × ReputationEntry) :=
  items.filter fun a => ∀ item ∈ items, item.2.confidenceWeight ≤ a.2.confidenceWeight

/-- An object always lists one key before the other: it spells an array index, and the other one spells
none that is smaller. -/
def AlwaysBefore (a b : String) : Prop := ∃ m, arrayIndex a = some m ∧ ∀ n, arrayIndex b = some n → m < n

/-- No category has the name that objects reserve, and an object always lists the first one of maximal
confidence before the other ones. -/
structure Unambiguous (c : SenderReputationCache) : Prop where
  named : c.categoryHistory.find "__proto__" = none
  first : ∀ a rest, mostConfident c.categoryHistory.items = a :: rest → ∀ b ∈ rest, AlwaysBefore a.1 b.1

/-! ## Written and read

The items come back with their values, but for the name of the prototype, in the order of the object.
-/

/-- What is read back are the entries that the column has, in the order of an object. -/
theorem items_reload (c : SenderReputationCache) (now : ℤ) (column : CategoryConfidence) :
    (c.reload now column).categoryHistory.items =
      (indexedFirst column.items).map fun item => (item.1, ReputationEntry.fromDb item.2) :=
  items_ofObject ..

/-- What comes back has all entries but that of a reserved name. -/
theorem reload_perm {c : SenderReputationCache} {now : ℤ} {column : CategoryConfidence}
    (h : column.items.Perm (c.toDb now).category_confidence.items) :
    (c.reload now column).categoryHistory.items.Perm
      (c.categoryHistory.items.filter (·.1 ≠ "__proto__")) := by
  rw [items_reload]
  refine (((indexedFirst_perm _).trans h).map _).trans (List.Perm.of_eq ?_)
  refine (congrArg (List.map _) (items_toObject ..)).trans ?_
  rw [List.map_map]
  exact List.map_id _

/-- Where no category has the reserved name, nothing is lost. -/
theorem filter_named {c : SenderReputationCache} (h : c.categoryHistory.find "__proto__" = none) :
    c.categoryHistory.items.filter (·.1 ≠ "__proto__") = c.categoryHistory.items := by
  refine List.filter_eq_self.mpr fun a ha => decide_eq_true fun hkey => ?_
  rw [← hkey, Keyed.find_of_mem ha] at h
  cases h

/-- The database may return the entries in any order. -/
theorem exists_column {c : SenderReputationCache} (now : ℤ) {items : List (String × ReputationEntry)}
    (h : items.Perm (c.categoryHistory.items.filter (·.1 ≠ "__proto__"))) : ∃ column : CategoryConfidence,
      column.items.Perm (c.toDb now).category_confidence.items ∧
        column.items = items.map fun item => (item.1, item.2.toDb) := by
  have hkeys : (items.map Prod.fst).Nodup := by
    refine (h.map Prod.fst).nodup_iff.mpr ?_
    exact (List.filter_sublist.map Prod.fst).nodup c.categoryHistory.nodup
  have hnodup : ((items.map fun item => (item.1, item.2.toDb)).map Prod.fst).Nodup := by
    rw [List.map_map]
    exact hkeys
  exact ⟨⟨items.map fun item => (item.1, item.2.toDb), hnodup⟩,
    (h.map _).trans (List.Perm.of_eq (items_toObject ..).symm), rfl⟩

/-! ## The entries of maximal confidence

The category that is most likely is the first of those with the highest confidence.
-/

/-- The loop keeps an entry that no later one exceeds. -/
theorem foldl_better_of_le {a : String × ReputationEntry} {items : List (String × ReputationEntry)}
    (h : ∀ item ∈ items, item.2.confidenceWeight ≤ a.2.confidenceWeight) :
    items.foldl better (some a) = some a := by
  induction items with
  | nil => rfl
  | cons item items ih =>
    obtain ⟨hitem, hitems⟩ := List.forall_mem_cons.mp h
    have hstep : better (some a) item = some a := if_neg (not_lt.mpr hitem)
    rw [List.foldl_cons, hstep, ih hitems]

/-- The loop takes what exceeds all entries before it. -/
theorem better_foldl_of_lt {a : String × ReputationEntry} {items : List (String × ReputationEntry)}
    {best : Option (String × ReputationEntry)}
    (hbest : ∀ b, best = some b → b.2.confidenceWeight < a.2.confidenceWeight)
    (h : ∀ item ∈ items, item.2.confidenceWeight < a.2.confidenceWeight) :
    better (items.foldl better best) a = some a := by
  induction items generalizing best with
  | nil =>
    rcases best with _ | b
    · rfl
    · exact if_pos (hbest b rfl)
  | cons item items ih =>
    obtain ⟨hitem, hitems⟩ := List.forall_mem_cons.mp h
    refine ih (fun b hb => ?_) hitems
    -- the loop goes on with the entry before, or with this one
    rcases best with _ | b'
    · rw [← Option.some.inj hb]
      exact hitem
    · unfold better at hb
      dsimp only at hb
      split at hb
      · rw [← Option.some.inj hb]
        exact hitem
      · exact hbest b hb

/-- The entries of maximal confidence are entries. -/
theorem mostConfident_sublist (items : List (String × ReputationEntry)) :
    (mostConfident items).Sublist items := List.filter_sublist

/-- The first entry of maximal confidence comes after entries that it exceeds, and none exceeds it. -/
theorem exists_split_of_mostConfident {items rest : List (String × ReputationEntry)}
    {a : String × ReputationEntry} (h : mostConfident items = a :: rest) :
    ∃ before after, items = before ++ a :: after ∧
      (∀ item ∈ before, item.2.confidenceWeight < a.2.confidenceWeight) ∧
      (∀ item ∈ items, item.2.confidenceWeight ≤ a.2.confidenceWeight) ∧
      ∀ b ∈ rest, b ∈ after := by
  obtain ⟨before, after, hsplit, hbefore, hmax, hrest⟩ := List.filter_eq_cons_iff.mp h
  have hmax' := of_decide_eq_true hmax
  refine ⟨before, after, hsplit, fun item hitem => ?_, hmax', fun b hb => ?_⟩
  · refine lt_of_le_of_ne (hmax' item ?_) fun heq => hbefore item hitem (decide_eq_true ?_)
    · rw [hsplit]
      exact List.mem_append_left _ hitem
    · rw [heq]
      exact hmax'
  · rw [← hrest] at hb
    exact List.mem_of_mem_filter hb

/-- Where there are entries, some have maximal confidence. -/
theorem mostConfident_eq_nil_iff {items : List (String × ReputationEntry)} :
    mostConfident items = [] ↔ items = [] := by
  constructor
  · intro h
    rcases hmax : items.argmax fun item => item.2.confidenceWeight with _ | a
    · exact List.argmax_eq_none.mp hmax
    · have ha : a ∈ mostConfident items := List.mem_filter.mpr ⟨List.argmax_mem hmax,
        decide_eq_true fun item hitem => List.le_of_mem_argmax
          (f := fun item : String × ReputationEntry => item.2.confidenceWeight) hitem hmax⟩
      rw [h] at ha
      cases ha
  · rintro rfl
    rfl

/-- The first entry of maximal confidence is taken. -/
theorem getMostLikelyCategory_eq_head (c : SenderReputationCache) :
    c.getMostLikelyCategory = (mostConfident c.categoryHistory.items).head?.map Prod.fst := by
  rcases hmost : mostConfident c.categoryHistory.items with _ | ⟨a, rest⟩
  · unfold getMostLikelyCategory
    rw [mostConfident_eq_nil_iff.mp hmost]
    rfl
  · obtain ⟨before, after, hsplit, hbefore, hmax, -⟩ := exists_split_of_mostConfident hmost
    have hafter : ∀ item ∈ after, item.2.confidenceWeight ≤ a.2.confidenceWeight := by
      intro item hitem
      refine hmax item ?_
      rw [hsplit]
      exact List.mem_append_right _ (List.mem_cons_of_mem a hitem)
    unfold getMostLikelyCategory
    rw [hsplit, List.foldl_append, List.foldl_cons,
      better_foldl_of_lt (fun b hb => by cases hb) hbefore, foldl_better_of_le hafter]
    rfl

/-- The entries of maximal confidence are the same in every order. -/
theorem mostConfident_perm {items items' : List (String × ReputationEntry)} (h : items.Perm items') :
    (mostConfident items).Perm (mostConfident items') := by
  unfold mostConfident
  have hsame : ∀ a : String × ReputationEntry,
      (∀ item ∈ items, item.2.confidenceWeight ≤ a.2.confidenceWeight) ↔
        ∀ item ∈ items', item.2.confidenceWeight ≤ a.2.confidenceWeight :=
    fun a => forall_congr' fun item => by rw [h.mem_iff]
  simp only [hsame]
  exact h.filter _

/-! ## The order that comes back

An object is certain to list one key before another only if the first is an array index, and the
smaller one where both are. So every reload keeps the most likely category exactly if it comes before
all others of the same confidence in that way.
-/

/-- Before a key that spells an index, an object lists only smaller ones. -/
theorem pairwise_reload (c : SenderReputationCache) (now : ℤ) (column : CategoryConfidence) :
    (c.reload now column).categoryHistory.items.Pairwise fun a b => ∀ n, arrayIndex b.1 = some n →
      ∃ m, arrayIndex a.1 = some m ∧ m < n := by
  rw [items_reload, List.pairwise_map]
  exact pairwise_indexedFirst column.nodup

/-- The first entry of maximal confidence stays the first one if an object always lists it first. -/
theorem mostLikely_reload {c : SenderReputationCache} (h : Unambiguous c) {now : ℤ}
    {column : CategoryConfidence}
    (hperm : (c.reload now column).categoryHistory.items.Perm c.categoryHistory.items) :
    (c.reload now column).getMostLikelyCategory = c.getMostLikelyCategory := by
  have hmost := mostConfident_perm hperm
  rw [getMostLikelyCategory_eq_head, getMostLikelyCategory_eq_head]
  rcases hc : mostConfident c.categoryHistory.items with _ | ⟨a, rest⟩
  · rw [hc, List.perm_nil] at hmost
    rw [hmost]
  · rcases hr : mostConfident (c.reload now column).categoryHistory.items with _ | ⟨b, rest'⟩
    · rw [hc, hr, List.nil_perm] at hmost
      cases hmost
    · rw [hc, hr] at hmost
      by_cases hab : b = a
      · rw [hab]
        rfl
      · -- both are of maximal confidence, and come back in an order that objects do not have
        have hb : b ∈ rest := (List.mem_cons.mp (hmost.mem_iff.mp List.mem_cons_self)).resolve_left hab
        have ha : a ∈ rest' :=
          (List.mem_cons.mp (hmost.mem_iff.mpr List.mem_cons_self)).resolve_left (Ne.symm hab)
        obtain ⟨m, hm, hbefore⟩ := h.first a rest hc b hb
        have hsublist := mostConfident_sublist (c.reload now column).categoryHistory.items
        rw [hr] at hsublist
        have hpairwise := (pairwise_reload c now column).sublist hsublist
        obtain ⟨n, hn, hlt⟩ := (List.pairwise_cons.mp hpairwise).1 a ha m hm
        exact absurd (hbefore n hn) (by omega)

/-- If the database returns some key first, and the most likely category is another one, then an object
always lists that one before. -/
theorem alwaysBefore_of_reload {c : SenderReputationCache} {now : ℤ} {column : CategoryConfidence}
    {a b : String × ReputationEntry} {others : List (String × ReputationEntryData)}
    (hcolumn : column.items = (b.1, b.2.toDb) :: others) {before after : List (String × ReputationEntry)}
    (hreload : (c.reload now column).categoryHistory.items = before ++ a :: after) (hb : b ∈ after) :
    AlwaysBefore a.1 b.1 := by
  have hpairwise := pairwise_reload c now column
  rw [hreload] at hpairwise
  obtain ⟨-, hpairwise, -⟩ := List.pairwise_append.mp hpairwise
  have hab := (List.pairwise_cons.mp hpairwise).1 b hb
  rcases hindex : arrayIndex b.1 with _ | n
  · rcases hindex' : arrayIndex a.1 with _ | m
    · -- without an index, the one that the database returns first comes first
      exfalso
      have hlisted : ((before ++ a :: after).map Prod.fst).filter (fun key => (arrayIndex key).isNone) =
          b.1 :: (others.map Prod.fst).filter fun key => (arrayIndex key).isNone := by
        rw [← hreload, items_reload, List.map_map, List.filter_map]
        refine (congrArg (List.map _) (filter_indexedFirst column.items)).trans ?_
        rw [hcolumn, List.filter_cons_of_pos (by rw [hindex]; rfl), List.map_cons, List.filter_map]
        rfl
      have hnodup := (c.reload now column).categoryHistory.nodup
      rw [hreload, List.map_append, List.map_cons] at hnodup
      obtain ⟨-, hnodup', hdisjoint⟩ := List.nodup_append.mp hnodup
      have hbkey : b.1 ∈ after.map Prod.fst := List.mem_map_of_mem hb
      rw [List.map_append, List.filter_append, List.map_cons,
        List.filter_cons_of_pos (by rw [hindex']; rfl)] at hlisted
      rcases hbefore : (before.map Prod.fst).filter fun key => (arrayIndex key).isNone with _ | ⟨key, keys⟩
      · rw [hbefore, List.nil_append] at hlisted
        rw [← (List.cons.inj hlisted).1] at hbkey
        exact (List.nodup_cons.mp hnodup').1 hbkey
      · rw [hbefore, List.cons_append] at hlisted
        have hkey : key ∈ before.map Prod.fst :=
            List.mem_of_mem_filter (by rw [hbefore]; exact List.mem_cons_self)
        rw [(List.cons.inj hlisted).1] at hkey
        exact hdisjoint b.1 hkey b.1 (List.mem_cons_of_mem _ hbkey) rfl
    · exact ⟨m, hindex', fun n hn => by rw [hindex] at hn; cases hn⟩
  · -- an array index comes after smaller ones only
    obtain ⟨m, hm, hlt⟩ := hab n hindex
    refine ⟨m, hm, fun n' hn' => ?_⟩
    obtain rfl := Option.some.inj (hindex.symm.trans hn')
    exact hlt

/-- The first entry of maximal confidence is listed before the others, since it stays the first one
even if the database returns another one first. -/
theorem alwaysBefore_of_persists {c : SenderReputationCache} {now : ℤ} (h : Persists c now)
    (hnamed : c.categoryHistory.find "__proto__" = none) {a b : String × ReputationEntry}
    {rest : List (String × ReputationEntry)} (hmost : mostConfident c.categoryHistory.items = a :: rest)
    (hb : b ∈ rest) : AlwaysBefore a.1 b.1 := by
  have hall := filter_named hnamed
  have hnodup : (a :: rest).Nodup := by
    rw [← hmost]
    exact (List.Nodup.of_map _ c.categoryHistory.nodup).filter _
  have hitems := (mostConfident_sublist c.categoryHistory.items).subset
  rw [hmost] at hitems
  have hmem := hitems (List.mem_cons_of_mem a hb)
  obtain ⟨before, after, hsplit⟩ := List.append_of_mem hmem
  have hmoved : (b :: (before ++ after)).Perm (c.categoryHistory.items.filter (·.1 ≠ "__proto__")) := by
    rw [hall, hsplit]
    exact List.perm_middle.symm
  obtain ⟨column, hcolumn, hfirst⟩ := exists_column now hmoved
  have hperm : (c.reload now column).categoryHistory.items.Perm c.categoryHistory.items :=
    (reload_perm hcolumn).trans (List.Perm.of_eq hall)
  have hmostPerm := mostConfident_perm hperm
  have hlikely := h.mostLikely column hcolumn
  rw [getMostLikelyCategory_eq_head, getMostLikelyCategory_eq_head, hmost] at hlikely
  rcases hreload : mostConfident (c.reload now column).categoryHistory.items with _ | ⟨a', rest'⟩
  · rw [hreload, hmost, List.nil_perm] at hmostPerm
    cases hmostPerm
  · rw [hreload] at hlikely
    rw [hreload, hmost] at hmostPerm
    -- the entries with the same key are the same
    have hsame : a' = a := by
      have hmem' := hitems (hmostPerm.mem_iff.mp List.mem_cons_self)
      exact List.inj_on_of_nodup_map c.categoryHistory.nodup hmem' (hitems List.mem_cons_self)
        (Option.some.inj hlikely)
    subst hsame
    obtain ⟨before', after', hsplit', -, -, hrest'⟩ := exists_split_of_mostConfident hreload
    have hne : b ≠ a' := fun heq => (List.nodup_cons.mp hnodup).1 (heq ▸ hb)
    have hb' : b ∈ rest' :=
      (List.mem_cons.mp (hmostPerm.mem_iff.mpr (List.mem_cons_of_mem a' hb))).resolve_left hne
    exact alwaysBefore_of_reload hfirst hsplit' (hrest' b hb')

/-- A cache comes back as it was, in whatever order the database returns the keys, exactly if no
category has a reserved name, and an object always lists the first one of maximal confidence before the
other ones. -/
theorem persists_iff (c : SenderReputationCache) (now : ℤ) : Persists c now ↔ Unambiguous c := by
  constructor
  · intro h
    have hnamed : c.categoryHistory.find "__proto__" = none := by
      obtain ⟨column, hcolumn, -⟩ := exists_column now (List.Perm.refl _)
      rw [← h.entries column hcolumn]
      refine List.find?_eq_none.mpr fun item hitem hkey => ?_
      have hmem := (reload_perm hcolumn).mem_iff.mp hitem
      exact of_decide_eq_true (List.mem_filter.mp hmem).2 (of_decide_eq_true hkey)
    exact ⟨hnamed, fun a rest hmost b hb => alwaysBefore_of_persists h hnamed hmost hb⟩
  · intro h
    have hall := filter_named h.named
    have hperm : ∀ column : CategoryConfidence,
        column.items.Perm (c.toDb now).category_confidence.items →
          (c.reload now column).categoryHistory.items.Perm c.categoryHistory.items :=
      fun column hcolumn => (reload_perm hcolumn).trans (List.Perm.of_eq hall)
    refine ⟨fun column hcolumn category => ?_, fun column hcolumn => ?_⟩
    · exact Keyed.find_perm (hperm column hcolumn) category
    · exact mostLikely_reload h (hperm column hcolumn)

/-- Two categories, each observed once with the default weight. -/
def tied : SenderReputationCache :=
  ((create "tenant" "example.com").recordCategory "Work" defaultConfidenceWeight 1).recordCategory
    "Personal" defaultConfidenceWeight 2

/-- The most likely category of two that are tied changes with their order. -/
theorem not_persists_tied : ¬Persists tied 3 := by
  intro h
  have hlikely := h.mostLikely (.put (.put .empty ("Personal", ⟨"Personal", 1, 0.8, ⟨.date (some 2)⟩⟩))
    ("Work", ⟨"Work", 1, 0.8, ⟨.date (some 1)⟩⟩)) (List.Perm.swap _ _ [])
  exact absurd hlikely (by decide +kernel)

end SenderReputationCache

end EmailTriage.FeedbackLearning
