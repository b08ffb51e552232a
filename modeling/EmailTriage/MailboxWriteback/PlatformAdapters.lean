import EmailTriage.MailboxWriteback.MessageWriteBackService

/-!
# The adapters of the two platforms

`src/mailbox-writeback/infrastructure/adapters/`: what `GmailWriteBackAdapter` and
`OutlookWriteBackAdapter` make of a desired value, and what they answer. The call of the platform is
simulated: it fails when the random number it draws exceeds 0.95. Nothing in the `try` block throws, so
its handler never runs.

The mappings call `toLowerCase` on whatever they find, before the `try` block. `adaptersAgree_iff` says
for which values that is a string. Lower-casing itself is a parameter: nothing depends on it.
-/

namespace EmailTriage.MailboxWriteback

open Js Db
open MailboxIngestion (Platform)

def WriteBackFailureReason.platformError (statusCode : ℕ) (message : String) : WriteBackFailureReason where
  type := .platform_error
  message := toString statusCode ++ ": " ++ message
  retryable := statusCode ≥ 500 || statusCode = 429

/-- The object an adapter returns. An `appliedValue` that is not there is `undefined`. -/
structure AdapterResult extends ApplyFacetResult where
  appliedValue : Value

/-- What an adapter answers once it has mapped the desired value: with nothing to apply it succeeds, else
the simulated call decides. -/
def simulate (mapped : Option Value) (random : ℚ) (message : String) : AdapterResult :=
  match mapped with
  | none => ⟨⟨true, none⟩, .null⟩
  | some value =>
    if random > 0.95 then ⟨⟨false, some (.platformError 500 message)⟩, .undefined⟩
    else ⟨⟨true, none⟩, value⟩

/-- `desiredValue?.key || desiredValue`. -/
def chosen (key : String) (desiredValue : Value) : Value := (desiredValue.get key).or desiredValue

section

variable (toLowerCase : String → String)

/-- `v.toLowerCase()`: only a string has the method. -/
def lowerCase : Value → Except Exception String
  | .str s => .ok (toLowerCase s)
  | _ => .error .typeError

/-! ## Gmail

A facet becomes the name of a label.
-/

namespace GmailWriteBackAdapter

/-- A label of the application. -/
def label (stem : String) (name : Value) : Except Exception (Option String) :=
  if name.truthy then (lowerCase toLowerCase name).map fun s => some (stem ++ s) else .ok none

def mapFacetToGmailLabel (facetType : FacetType) (desiredValue : Value) :
    Except Exception (Option String) :=
  match facetType with
  | .category => label toLowerCase "saas/" (chosen "category" desiredValue)
  | .threat =>
    if (desiredValue.get "quarantine_locked").truthy || (desiredValue.get "quarantined").truthy then
      .ok (some "saas/quarantine")
    else if (desiredValue.get "phishing").truthy then .ok (some "saas/phishing")
    else .ok none
  | .contact => if (desiredValue.get "personal").truthy then .ok (some "saas/personal") else .ok none
  | .priority => label toLowerCase "saas/priority-" (chosen "tier" desiredValue)

def applyFacet (facetType : FacetType) (desiredValue : Value) (random : ℚ) :
    Except Exception AdapterResult :=
  (mapFacetToGmailLabel toLowerCase facetType desiredValue).map fun labelMapping =>
    simulate (labelMapping.map .str) random "Simulated Gmail API error"

end GmailWriteBackAdapter

/-! ## Outlook

A facet becomes an update of categories and importance.
-/

namespace OutlookWriteBackAdapter

def mapTierToCategory (tier : Value) : Except Exception String :=
  (lowerCase toLowerCase tier).map fun
    | "critical" => "Priority-Critical"
    | "high" => "Priority-High"
    | "normal" => "Priority-Normal"
    | "low" => "Priority-Low"
    | _ => "Priority-Normal"

def mapTierToImportance (tier : Value) : Except Exception String :=
  (lowerCase toLowerCase tier).map fun
    | "critical" => "high"
    | "high" => "high"
    | "normal" => "normal"
    | "low" => "low"
    | _ => "normal"

/-- The properties that are set for a facet. -/
def update (facetType : FacetType) (desiredValue : Value) : Except Exception (List (String × Value)) :=
  match facetType with
  | .category =>
    let categoryName := chosen "category" desiredValue
    if categoryName.truthy then .ok [("categories", .arr [categoryName])] else .ok []
  | .threat =>
    if (desiredValue.get "quarantine_locked").truthy || (desiredValue.get "quarantined").truthy then
      .ok [("categories", .arr [.str "Quarantine"]), ("isRead", .bool false)]
    else if (desiredValue.get "phishing").truthy then
      .ok [("categories", .arr [.str "Phishing"]), ("isRead", .bool false)]
    else .ok []
  | .contact =>
    if (desiredValue.get "personal").truthy then .ok [("categories", .arr [.str "Personal"])] else .ok []
  | .priority =>
    let tier := chosen "tier" desiredValue
    if tier.truthy then do
      let category ← mapTierToCategory toLowerCase tier
      let importance ← mapTierToImportance toLowerCase tier
      return [("categories", .arr [.str category]), ("importance", .str importance)]
    else .ok []

def mapFacetToOutlookUpdate (facetType : FacetType) (desiredValue : Value) :
    Except Exception (Option Value) :=
  (update toLowerCase facetType desiredValue).map fun update =>
    if update.isEmpty then none else some (.obj update)

def applyFacet (facetType : FacetType) (desiredValue : Value) (random : ℚ) :
    Except Exception AdapterResult :=
  (mapFacetToOutlookUpdate toLowerCase facetType desiredValue).map fun result =>
    simulate result random "Simulated Graph API error"

end OutlookWriteBackAdapter

/-! ## Which values can be mapped

A name is lower-cased if it counts as true, so a value that does and is no text makes the mapping throw.
-/

/-- What the adapters should do with a desired value: return a result whatever number is drawn, and agree
on whether there is anything to apply. -/
structure AdaptersAgree (facetType : FacetType) (desiredValue : Value) : Prop where
  gmail : ∀ random, ∃ result,
    GmailWriteBackAdapter.applyFacet toLowerCase facetType desiredValue random = .ok result
  outlook : ∀ random, ∃ result,
    OutlookWriteBackAdapter.applyFacet toLowerCase facetType desiredValue random = .ok result
  nothing : GmailWriteBackAdapter.mapFacetToGmailLabel toLowerCase facetType desiredValue = .ok none ↔
    OutlookWriteBackAdapter.mapFacetToOutlookUpdate toLowerCase facetType desiredValue = .ok none

/-- A value that is lower-cased if it counts as true has the method. -/
def Nameable (v : Value) : Prop := v.truthy = true → ∃ s, v = .str s

/-- What a category or a priority chooses as its name is a string, or false. -/
def MapsToName : FacetType → Value → Prop
  | .category, desiredValue => Nameable (chosen "category" desiredValue)
  | .priority, desiredValue => Nameable (chosen "tier" desiredValue)
  | .threat, _ => True
  | .contact, _ => True

variable {toLowerCase}

/-- Only a text has a `toLowerCase`. -/
theorem lowerCase_of_not_str {v : Value} (h : ¬∃ s, v = .str s) :
    lowerCase toLowerCase v = .error .typeError := by
  cases v with
  | str s => exact absurd ⟨s, rfl⟩ h
  | _ => rfl

/-- An adapter returns exactly if its mapping does. -/
theorem exists_map_eq_ok {α β : Type} {x : Except Exception α} {f : α → β} :
    (∃ b, x.map f = .ok b) ↔ ∃ a, x = .ok a := by
  cases x with
  | error e =>
    constructor
    · rintro ⟨b, hb⟩
      cases hb
    · rintro ⟨a, ha⟩
      cases ha
  | ok a => exact iff_of_true ⟨f a, rfl⟩ ⟨a, rfl⟩

namespace GmailWriteBackAdapter

/-- Without a name there is no label. -/
theorem label_of_falsy {name : Value} (h : ¬name.truthy = true) (stem : String) :
    label toLowerCase stem name = .ok none := if_neg h

/-- The label of a name ends with it in lower case. -/
theorem label_str {s : String} (h : (Value.str s).truthy = true) (stem : String) :
    label toLowerCase stem (.str s) = .ok (some (stem ++ toLowerCase s)) := if_pos h

/-- What is neither a text nor falsy makes the mapping throw. -/
theorem label_of_not_nameable {name : Value} (h : ¬Nameable name) (stem : String) :
    label toLowerCase stem name = .error .typeError := by
  obtain ⟨htruthy, hstr⟩ := Classical.not_imp.mp h
  unfold label
  rw [if_pos htruthy, lowerCase_of_not_str hstr]
  rfl

/-- A label is made of every name that is a string or false. -/
theorem exists_label_iff {stem : String} {name : Value} :
    (∃ result, label toLowerCase stem name = .ok result) ↔ Nameable name := by
  constructor
  · rintro ⟨result, hresult⟩
    by_contra hname
    rw [label_of_not_nameable hname] at hresult
    cases hresult
  · intro h
    by_cases htruthy : name.truthy = true
    · obtain ⟨s, rfl⟩ := h htruthy
      exact ⟨_, label_str htruthy stem⟩
    · exact ⟨none, label_of_falsy htruthy stem⟩

/-- No label is made only of a name that is false. -/
theorem label_eq_none_iff {stem : String} {name : Value} :
    label toLowerCase stem name = .ok none ↔ ¬name.truthy = true := by
  constructor
  · intro hlabel htruthy
    obtain ⟨s, rfl⟩ := exists_label_iff.mp ⟨none, hlabel⟩ htruthy
    rw [label_str htruthy] at hlabel
    cases hlabel
  · exact fun h => label_of_falsy h stem

end GmailWriteBackAdapter

namespace OutlookWriteBackAdapter

/-- The update for a priority with a tier. -/
theorem update_priority {desiredValue : Value} {s : String} (hs : chosen "tier" desiredValue = .str s)
    (htruthy : (Value.str s).truthy = true) :
    ∃ update, mapFacetToOutlookUpdate toLowerCase .priority desiredValue = .ok (some update) := by
  unfold mapFacetToOutlookUpdate update
  dsimp only
  rw [hs, if_pos htruthy]
  exact ⟨_, rfl⟩

/-- Without a tier there is no update. -/
theorem update_priority_of_falsy {desiredValue : Value}
    (h : ¬(chosen "tier" desiredValue).truthy = true) :
    mapFacetToOutlookUpdate toLowerCase .priority desiredValue = .ok none := by
  unfold mapFacetToOutlookUpdate update
  dsimp only
  rw [if_neg h]
  rfl

/-- There is nothing to apply for a priority exactly if no tier is chosen. -/
theorem update_priority_eq_none_iff {desiredValue : Value} (h : MapsToName .priority desiredValue) :
    mapFacetToOutlookUpdate toLowerCase .priority desiredValue = .ok none ↔
      ¬(chosen "tier" desiredValue).truthy = true := by
  constructor
  · intro hnone htruthy
    obtain ⟨s, hs⟩ := h htruthy
    obtain ⟨update, hupdate⟩ := @update_priority toLowerCase desiredValue s hs (hs ▸ htruthy)
    rw [hupdate] at hnone
    cases hnone
  · exact update_priority_of_falsy

/-- A category is put as it is. -/
theorem update_category (desiredValue : Value) :
    mapFacetToOutlookUpdate toLowerCase .category desiredValue =
      .ok (if (chosen "category" desiredValue).truthy then
        some (.obj [("categories", .arr [chosen "category" desiredValue])]) else none) := by
  unfold mapFacetToOutlookUpdate update
  dsimp only
  split
  · rfl
  · rfl

end OutlookWriteBackAdapter

/-! ## The adapters agree

The two adapters agree on a value exactly if it maps to a name.
-/

/-- Both adapters return for a facet exactly if both mappings do. -/
theorem adaptersAgree_iff_mappings {facetType : FacetType} {desiredValue : Value} :
    AdaptersAgree toLowerCase facetType desiredValue ↔
      (∃ result, GmailWriteBackAdapter.mapFacetToGmailLabel toLowerCase facetType desiredValue =
        .ok result) ∧
      (∃ result, OutlookWriteBackAdapter.mapFacetToOutlookUpdate toLowerCase facetType desiredValue =
        .ok result) ∧
      (GmailWriteBackAdapter.mapFacetToGmailLabel toLowerCase facetType desiredValue = .ok none ↔
        OutlookWriteBackAdapter.mapFacetToOutlookUpdate toLowerCase facetType desiredValue = .ok none) := by
  constructor
  · rintro ⟨hgmail, houtlook, hnothing⟩
    exact ⟨exists_map_eq_ok.mp (hgmail 0), exists_map_eq_ok.mp (houtlook 0), hnothing⟩
  · rintro ⟨hgmail, houtlook, hnothing⟩
    exact ⟨fun _ => exists_map_eq_ok.mpr hgmail, fun _ => exists_map_eq_ok.mpr houtlook, hnothing⟩

/-- The adapters agree on a value for which both have something to apply. -/
theorem adaptersAgree_of_some {facetType : FacetType} {desiredValue : Value} {label : String}
    {property : String × Value} {properties : List (String × Value)}
    (hgmail : GmailWriteBackAdapter.mapFacetToGmailLabel toLowerCase facetType desiredValue =
      .ok (some label))
    (houtlook : OutlookWriteBackAdapter.update toLowerCase facetType desiredValue =
      .ok (property :: properties)) :
    AdaptersAgree toLowerCase facetType desiredValue := by
  rw [adaptersAgree_iff_mappings, hgmail, OutlookWriteBackAdapter.mapFacetToOutlookUpdate, houtlook]
  exact ⟨⟨some label, rfl⟩, ⟨some (.obj (property :: properties)), rfl⟩,
    iff_of_false (by rintro ⟨⟩) (by rintro ⟨⟩)⟩

/-- The adapters agree on a value for which neither has anything to apply. -/
theorem adaptersAgree_of_none {facetType : FacetType} {desiredValue : Value}
    (hgmail : GmailWriteBackAdapter.mapFacetToGmailLabel toLowerCase facetType desiredValue = .ok none)
    (houtlook : OutlookWriteBackAdapter.update toLowerCase facetType desiredValue = .ok []) :
    AdaptersAgree toLowerCase facetType desiredValue := by
  rw [adaptersAgree_iff_mappings, hgmail, OutlookWriteBackAdapter.mapFacetToOutlookUpdate, houtlook]
  exact ⟨⟨none, rfl⟩, ⟨none, rfl⟩, iff_of_true rfl rfl⟩

/-- Both mappings of a threat test for quarantine first and for phishing then. -/
theorem adaptersAgree_threat (desiredValue : Value) :
    AdaptersAgree toLowerCase .threat desiredValue := by
  by_cases hquarantined : ((desiredValue.get "quarantine_locked").truthy ||
      (desiredValue.get "quarantined").truthy) = true
  · exact adaptersAgree_of_some (if_pos hquarantined) (if_pos hquarantined)
  · by_cases hphishing : (desiredValue.get "phishing").truthy = true
    · exact adaptersAgree_of_some ((if_neg hquarantined).trans (if_pos hphishing))
        ((if_neg hquarantined).trans (if_pos hphishing))
    · exact adaptersAgree_of_none ((if_neg hquarantined).trans (if_neg hphishing))
        ((if_neg hquarantined).trans (if_neg hphishing))

/-- The adapters agree on every contact. -/
theorem adaptersAgree_contact (desiredValue : Value) :
    AdaptersAgree toLowerCase .contact desiredValue := by
  by_cases hpersonal : (desiredValue.get "personal").truthy = true
  · exact adaptersAgree_of_some (if_pos hpersonal) (if_pos hpersonal)
  · exact adaptersAgree_of_none (if_neg hpersonal) (if_neg hpersonal)

/-- The adapters agree on a category that is a text, or is missing. -/
theorem adaptersAgree_category_iff {desiredValue : Value} :
    AdaptersAgree toLowerCase .category desiredValue ↔ Nameable (chosen "category" desiredValue) := by
  rw [adaptersAgree_iff_mappings, OutlookWriteBackAdapter.update_category]
  constructor
  · rintro ⟨hgmail, -, -⟩
    exact GmailWriteBackAdapter.exists_label_iff.mp hgmail
  · intro h
    refine ⟨GmailWriteBackAdapter.exists_label_iff.mpr h, ⟨_, rfl⟩, ?_⟩
    refine GmailWriteBackAdapter.label_eq_none_iff.trans ?_
    split
    · next htruthy => exact iff_of_false (fun h => h htruthy) (by rintro ⟨⟩)
    · next htruthy => exact iff_of_true htruthy rfl

/-- They agree on a tier that is a text, or is missing. -/
theorem adaptersAgree_priority_iff {desiredValue : Value} :
    AdaptersAgree toLowerCase .priority desiredValue ↔ Nameable (chosen "tier" desiredValue) := by
  rw [adaptersAgree_iff_mappings]
  constructor
  · rintro ⟨hgmail, -, -⟩
    exact GmailWriteBackAdapter.exists_label_iff.mp hgmail
  · intro h
    refine ⟨GmailWriteBackAdapter.exists_label_iff.mpr h, ?_, ?_⟩
    · by_cases htruthy : (chosen "tier" desiredValue).truthy = true
      · obtain ⟨s, hs⟩ := h htruthy
        obtain ⟨update, hupdate⟩ := OutlookWriteBackAdapter.update_priority hs (hs ▸ htruthy)
        exact ⟨some update, hupdate⟩
      · exact ⟨none, OutlookWriteBackAdapter.update_priority_of_falsy htruthy⟩
    · exact GmailWriteBackAdapter.label_eq_none_iff.trans
        (OutlookWriteBackAdapter.update_priority_eq_none_iff h).symm

variable (toLowerCase) in
/-- Both adapters return, and agree on whether there is anything to apply, exactly if what is chosen as
the name of a category or of a priority is a string or false. -/
theorem adaptersAgree_iff (facetType : FacetType) (desiredValue : Value) :
    AdaptersAgree toLowerCase facetType desiredValue ↔ MapsToName facetType desiredValue := by
  cases facetType with
  | category => exact adaptersAgree_category_iff
  | threat => exact iff_of_true (adaptersAgree_threat desiredValue) trivial
  | contact => exact iff_of_true (adaptersAgree_contact desiredValue) trivial
  | priority => exact adaptersAgree_priority_iff

/-- The value of a category that `recordFacetFailure` has recorded. -/
theorem not_adaptersAgree_failed : ¬AdaptersAgree String.toLower .category (.obj []) := by
  intro h
  obtain ⟨result, hresult⟩ := h.gmail 0
  cases hresult

/-! ## The adapter of a call

Where an adapter throws, the service records nothing.
-/

variable (toLowerCase)

/-- What the adapter of a platform does. -/
def adapterOf (platform : Platform) (facetType : FacetType) (desiredValue : Value) (random : ℚ) :
    Except Exception AdapterResult :=
  match platform with
  | .gmail => GmailWriteBackAdapter.applyFacet toLowerCase facetType desiredValue random
  | .outlook => OutlookWriteBackAdapter.applyFacet toLowerCase facetType desiredValue random

/-- A call of the service that the adapter of its platform answers. -/
def callOn (platform : Platform) (facetType : FacetType) (desiredValue : Value) (random : ℚ) (now : ℤ) :
    Call where
  facetType := facetType
  desiredValue := desiredValue
  platform := platform
  adapter := (adapterOf toLowerCase platform facetType desiredValue random).map (·.toApplyFacetResult)
  now := now

/-- A call with a value that maps to a name records how it went, on either platform. -/
theorem stored_step_callOn (column : Jsonb) (m : MessageRef) (t : MessageWriteBackStateTable)
    (platform : Platform) {facetType : FacetType} {desiredValue : Value}
    (h : MapsToName facetType desiredValue) (random : ℚ) (now : ℤ) :
    ∃ facet, stored (MessageWriteBackService.step column m t
      (callOn toLowerCase platform facetType desiredValue random now)) m facetType = some facet := by
  obtain ⟨hgmail, houtlook, -⟩ := (adaptersAgree_iff toLowerCase facetType desiredValue).mpr h
  have hanswers : ∃ result, adapterOf toLowerCase platform facetType desiredValue random = .ok result := by
    cases platform with
    | gmail => exact hgmail random
    | outlook => exact houtlook random
  obtain ⟨result, hresult⟩ := hanswers
  have hcall : (callOn toLowerCase platform facetType desiredValue random now).adapter =
      .ok result.toApplyFacetResult := by
    unfold callOn
    rw [hresult]
    rfl
  have hstored := MessageWriteBackService.stored_step_of_ok column (m := m) t hcall facetType
  exact ⟨_, hstored.trans (if_pos rfl)⟩

/-- A call on Gmail with a value that does not map to a name throws, and records nothing. -/
theorem stored_step_callOn_gmail (column : Jsonb) (m : MessageRef) (t : MessageWriteBackStateTable)
    {facetType : FacetType} {desiredValue : Value} (h : ¬MapsToName facetType desiredValue) (random : ℚ)
    (now : ℤ) :
    stored (MessageWriteBackService.step column m t
      (callOn toLowerCase .gmail facetType desiredValue random now)) m = stored t m := by
  have hmapping : GmailWriteBackAdapter.mapFacetToGmailLabel toLowerCase facetType desiredValue =
      .error .typeError := by
    cases facetType with
    | category => exact GmailWriteBackAdapter.label_of_not_nameable h _
    | threat => exact absurd trivial h
    | contact => exact absurd trivial h
    | priority => exact GmailWriteBackAdapter.label_of_not_nameable h _
  have hcall : (callOn toLowerCase .gmail facetType desiredValue random now).adapter =
      .error .typeError := by
    unfold callOn adapterOf GmailWriteBackAdapter.applyFacet
    dsimp only
    rw [hmapping]
    rfl
  exact MessageWriteBackService.stored_step_of_error column t hcall

end

end EmailTriage.MailboxWriteback
