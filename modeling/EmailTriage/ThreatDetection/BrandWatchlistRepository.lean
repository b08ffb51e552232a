import EmailTriage.Lib.Runs
import EmailTriage.Lib.Table

/-!
# The brand watchlist

`src/threat-detection/infrastructure/repositories/brand-watchlist.repository.ts` over the table
`brand_watchlist` of `prisma/schema.prisma`, whose rows are unique on the domain. Every method makes one
database call, and lower-cases the domain it is given; lower-casing is a parameter.

The repository is a map from domains to brands in which the spelling of a domain does not count: it
answers as `Watchlist.Step` says, whatever is called and whichever calls fail (`allows_answers_run`).
-/

namespace EmailTriage.ThreatDetection

open Db Runs

/-- A row of `brand_watchlist`. -/
structure BrandWatchlistRow where
  id : ℕ
  domain : String
  brand_name : String
  impersonation_risk_level : String
  last_updated : ℤ

instance : Schema BrandWatchlistRow ℕ String where
  id := BrandWatchlistRow.id
  key := BrandWatchlistRow.domain

/-- The table `brand_watchlist`. -/
abbrev BrandWatchlistTable := Table BrandWatchlistRow

inductive RiskLevel where
  | low
  | medium
  | high

def RiskLevel.text : RiskLevel → String
  | .low => "low"
  | .medium => "medium"
  | .high => "high"

/-- What the repository returns; the level is cast, not checked. -/
structure BrandEntry where
  domain : String
  brandName : String
  impersonationRiskLevel : String

/-! ## The repository

The methods as statements on the table. Domains are compared in lower case.
-/

namespace BrandWatchlistRepository

def toEntry (r : BrandWatchlistRow) : BrandEntry := ⟨r.domain, r.brand_name, r.impersonation_risk_level⟩

/-- The columns `addBrand` updates. -/
def updateData (now : ℤ) (brandName : String) (riskLevel : RiskLevel) : Patch BrandWatchlistRow where
  apply r := { r with
    brand_name := brandName
    impersonation_risk_level := riskLevel.text
    last_updated := now }
  id_apply _ := rfl
  key_apply _ := rfl

section

variable (toLowerCase : String → String) (t : BrandWatchlistTable)

/-- The domain is unique, so the first row is the only one. -/
def findByDomain (domain : String) : Option BrandEntry := (t.find (toLowerCase domain)).map toEntry

/-- The argument is not used. The rows come in an order of the database. -/
def findSimilarDomains (order : List BrandWatchlistRow → List BrandWatchlistRow) (_domain : String) :
    List BrandEntry := ((order t.rows).take 1000).map toEntry

def addBrand (now : ℤ) (domain brandName : String) (riskLevel : RiskLevel) : Option BrandWatchlistTable :=
  t.upsert (toLowerCase domain) (updateData now brandName riskLevel)
    ⟨t.freshId, toLowerCase domain, brandName, riskLevel.text, now⟩

/-- Deleting a row that is not there is an error. -/
def removeBrand (domain : String) : Option BrandWatchlistTable :=
  if (t.find (toLowerCase domain)).isSome then
    some (t.deleteMany fun r => r.domain = toLowerCase domain)
  else none

def getAllBrands (order : List BrandWatchlistRow → List BrandWatchlistRow) : List BrandEntry :=
  (order t.rows).map toEntry

end

end BrandWatchlistRepository

open BrandWatchlistRepository

/-! ## Calls and answers

A run of calls of any clients, with what each of them answers.
-/

inductive BrandCall where
  | findByDomain (domain : String)
  | findSimilarDomains (domain : String)
  | addBrand (domain brandName : String) (riskLevel : RiskLevel)
  | removeBrand (domain : String)
  | getAllBrands

/-- A call, when it is made and in which order it is given rows, and whether the database fails. -/
structure BrandTurn where
  call : BrandCall
  now : ℤ
  order : List BrandWatchlistRow → List BrandWatchlistRow
  perm_order : ∀ rows, (order rows).Perm rows
  fails : Bool

inductive BrandAnswer where
  | found (entry : Option BrandEntry)
  | listed (entries : List BrandEntry)
  | done
  | failed

/-- The answer to a call that writes, with the table it leaves. -/
def answerWrite (t : BrandWatchlistTable) : Option BrandWatchlistTable → BrandWatchlistTable × BrandAnswer
  | some t' => (t', .done)
  | none => (t, .failed)

section

variable (toLowerCase : String → String)

def BrandWatchlistRepository.step (t : BrandWatchlistTable) (turn : BrandTurn) :
    BrandWatchlistTable × BrandAnswer :=
  if turn.fails then (t, .failed)
  else
    match turn.call with
    | .findByDomain domain => (t, .found (findByDomain toLowerCase t domain))
    | .findSimilarDomains domain => (t, .listed (findSimilarDomains t turn.order domain))
    | .addBrand domain brandName riskLevel =>
      answerWrite t (addBrand toLowerCase t turn.now domain brandName riskLevel)
    | .removeBrand domain => answerWrite t (removeBrand toLowerCase t domain)
    | .getAllBrands => (t, .listed (getAllBrands t turn.order))

/-! ## The map

What the repository is for: a map from domains to brands and their risk.
-/

/-- The brand and the level of each domain on the list. -/
abbrev Watchlist := String → Option (String × String)

namespace Watchlist

def entry (domain : String) (brand : String × String) : BrandEntry := ⟨domain, brand.1, brand.2⟩

/-- Some entries of the list, none of them twice. -/
def Lists (m : Watchlist) (entries : List BrandEntry) : Prop :=
  (entries.map BrandEntry.domain).Nodup ∧
    ∀ e ∈ entries, m e.domain = some (e.brandName, e.impersonationRiskLevel)

/-- All of them. -/
def ListsAll (m : Watchlist) (entries : List BrandEntry) : Prop :=
  m.Lists entries ∧ ∀ domain brand, m domain = some brand → entry domain brand ∈ entries

/-- What a call answers, and the list afterwards. A domain counts in lower case; similar domains are
all there are, or a thousand of them. -/
def Step (m : Watchlist) (turn : BrandTurn) (answer : BrandAnswer) (m' : Watchlist) : Prop :=
  if turn.fails then answer = .failed ∧ m' = m
  else
    match turn.call with
    | .findByDomain domain =>
      answer = .found ((m (toLowerCase domain)).map (entry (toLowerCase domain))) ∧ m' = m
    | .findSimilarDomains _ => m' = m ∧ ∃ entries, answer = .listed entries ∧
      (m.ListsAll entries ∨ m.Lists entries ∧ entries.length = 1000)
    | .addBrand domain brandName riskLevel => answer = .done ∧
      m' = Function.update m (toLowerCase domain) (some (brandName, riskLevel.text))
    | .removeBrand domain =>
      if (m (toLowerCase domain)).isSome then
        answer = .done ∧ m' = Function.update m (toLowerCase domain) none
      else answer = .failed ∧ m' = m
    | .getAllBrands => m' = m ∧ ∃ entries, answer = .listed entries ∧ m.ListsAll entries

end Watchlist

/-! ## The repository is that map

Each call changes the map of the table, and answers what that map would, whatever fails and in whatever
order the rows come.
-/

/-- The map of a table. -/
def BrandWatchlistRepository.watchlist (t : BrandWatchlistTable) : Watchlist :=
  fun domain => (t.find domain).map fun r => (r.brand_name, r.impersonation_risk_level)

variable {t : BrandWatchlistTable}

omit toLowerCase in
/-- The watchlist has every row under its domain. -/
theorem watchlist_domain {r : BrandWatchlistRow} (hr : r ∈ t.rows) :
    watchlist t r.domain = some (r.brand_name, r.impersonation_risk_level) := by
  have hfind : t.find r.domain = some r := Table.find_key hr
  unfold watchlist
  rw [hfind, Option.map_some]

omit toLowerCase in
/-- Rows of the table, in any order, are entries of the map. -/
theorem lists_map_toEntry {rows rows' : List BrandWatchlistRow} (hrows : rows.Sublist rows')
    (hperm : rows'.Perm t.rows) : (watchlist t).Lists (rows.map toEntry) := by
  constructor
  · have hnodup : (rows'.map BrandWatchlistRow.domain).Nodup := (hperm.map _).nodup_iff.mpr t.key_nodup
    rw [List.map_map]
    exact hnodup.sublist (hrows.map _)
  · intro e he
    obtain ⟨r, hr, rfl⟩ := List.mem_map.mp he
    exact watchlist_domain (hperm.mem_iff.mp (hrows.subset hr))

omit toLowerCase in
/-- The entries of all rows, in any order, are those of the watchlist. -/
theorem listsAll_map_toEntry {rows : List BrandWatchlistRow} (hperm : rows.Perm t.rows) :
    (watchlist t).ListsAll (rows.map toEntry) := by
  refine ⟨lists_map_toEntry (List.Sublist.refl rows) hperm, fun domain brand hbrand => ?_⟩
  obtain ⟨r, hfind, rfl⟩ := Option.map_eq_some_iff.mp hbrand
  obtain ⟨hr, rfl⟩ := Table.find_eq_some_iff.mp hfind
  exact List.mem_map.mpr ⟨r, hperm.mem_iff.mpr hr, rfl⟩

/-- A brand is added, under its domain in lower case. -/
theorem exists_addBrand (t : BrandWatchlistTable) (now : ℤ) (domain brandName : String)
    (riskLevel : RiskLevel) : ∃ t', addBrand toLowerCase t now domain brandName riskLevel = some t' ∧
      watchlist t' = Function.update (watchlist t) (toLowerCase domain)
          (some (brandName, riskLevel.text)) := by
  obtain ⟨t', ht', hfind⟩ := Table.find_upsert (t := t) (k := toLowerCase domain)
    (updateData now brandName riskLevel)
    (r := ⟨t.freshId, toLowerCase domain, brandName, riskLevel.text, now⟩) rfl
    fun _ hr => Table.ne_freshId hr
  refine ⟨t', ht', funext fun k => ?_⟩
  show (t'.find k).map _ = _
  rw [hfind]
  by_cases hk : k = toLowerCase domain
  · rw [if_pos hk, hk, Function.update_self]
    rcases t.find (toLowerCase domain) with _ | r
    · rfl
    · rfl
  · rw [if_neg hk, Function.update_of_ne hk]
    rfl

/-- A brand that is there is removed. -/
theorem removeBrand_of_isSome {domain : String} (h : (watchlist t (toLowerCase domain)).isSome = true) :
    ∃ t', removeBrand toLowerCase t domain = some t' ∧
      watchlist t' = Function.update (watchlist t) (toLowerCase domain) none := by
  have hfind : (t.find (toLowerCase domain)).isSome = true := by
    unfold watchlist at h
    rwa [Option.isSome_map] at h
  refine ⟨_, if_pos hfind, funext fun k => ?_⟩
  rw [Function.update_apply]
  unfold watchlist
  rw [Table.find_deleteMany]
  rcases hk : t.find k with _ | r
  · exact (ite_self none).symm
  · obtain ⟨-, rfl⟩ := Table.find_eq_some_iff.mp hk
    show _ = if r.domain = toLowerCase domain then none else _
    by_cases hdomain : r.domain = toLowerCase domain
    · rw [Option.filter_some_neg (by simp [hdomain]), if_pos hdomain]
      rfl
    · rw [Option.filter_some_pos (by simp [hdomain]), if_neg hdomain]

/-- A call answers as the map does, and leaves its table as the map is left. -/
theorem step_spec (t : BrandWatchlistTable) (turn : BrandTurn) :
    (watchlist t).Step toLowerCase turn (step toLowerCase t turn).2
        (watchlist (step toLowerCase t turn).1) := by
  unfold Watchlist.Step BrandWatchlistRepository.step
  by_cases hfails : turn.fails = true
  · rw [if_pos hfails, if_pos hfails]
    exact ⟨rfl, rfl⟩
  rw [if_neg hfails, if_neg hfails]
  rcases turn.call with domain | domain | ⟨domain, brandName, riskLevel⟩ | domain | _ <;> dsimp only
  · refine ⟨congrArg BrandAnswer.found ?_, rfl⟩
    unfold findByDomain watchlist
    rw [Option.map_map]
    refine Option.map_congr fun r hr => ?_
    obtain ⟨-, hdomain⟩ := Table.find_eq_some_iff.mp hr
    exact congrArg (BrandEntry.mk · r.brand_name r.impersonation_risk_level) hdomain
  · refine ⟨rfl, _, rfl, ?_⟩
    -- the database returns the rows in an order of its own, and at most a thousand of them
    have hperm := turn.perm_order t.rows
    unfold findSimilarDomains
    rcases Nat.lt_or_ge (turn.order t.rows).length 1000 with hless | hmore
    · rw [List.take_of_length_le (by omega)]
      exact .inl (listsAll_map_toEntry hperm)
    · refine .inr ⟨lists_map_toEntry (List.take_sublist _ _) hperm, ?_⟩
      rw [List.length_map, List.length_take_of_le hmore]
  · obtain ⟨t', ht', hwatchlist⟩ := exists_addBrand toLowerCase t turn.now domain brandName riskLevel
    rw [ht']
    exact ⟨rfl, hwatchlist⟩
  · by_cases hthere : (watchlist t (toLowerCase domain)).isSome = true
    · obtain ⟨t', ht', hwatchlist⟩ := removeBrand_of_isSome toLowerCase hthere
      rw [if_pos hthere, ht']
      exact ⟨rfl, hwatchlist⟩
    · -- a delete of a row that is not there is refused
      have hnone : removeBrand toLowerCase t domain = none := by
        refine if_neg fun hfind => hthere ?_
        unfold watchlist
        rwa [Option.isSome_map]
      rw [if_neg hthere, hnone]
      exact ⟨rfl, rfl⟩
  · exact ⟨rfl, _, rfl, listsAll_map_toEntry (turn.perm_order t.rows)⟩

/-- Whatever is called, in any order and with any failures, the answers are those of the map. -/
theorem allows_answers_run (t : BrandWatchlistTable) (turns : List BrandTurn) :
    Allows (Watchlist.Step toLowerCase) (watchlist t) (answers (step toLowerCase) t turns) := by
  refine allows_answers (R := fun t m => m = watchlist t) ?_ rfl turns
  rintro t _ turn rfl
  exact ⟨_, step_spec toLowerCase t turn, rfl⟩

end

end EmailTriage.ThreatDetection
