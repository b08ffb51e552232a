import EmailTriage.IdentityAccess.AuthorizationHistories

/-!
# Consent on record

A grant is three database calls outside a transaction: the upsert of the authorization, a lookup, and the
consent grant. When the second or the third fails, the authorization stays without its consent. The
states of a run carry, for each row, the consent grant that was appended by the call that made it active
(`Recorded`), and `keepsConsent_iff` says which runs keep consent on record.

Revocations and suspensions make no row active and keep the scopes, so they keep what is on record
(`onRecord_recordStep_of_not_grant`). For a grant, `keepsConsent_grantConsent` compares the row at its
key with the consent grant that the same call appends, or fails to append. An authorization that is
active already keeps the consent of the call that made it so, and a failed grant over it is harmless
where the upsert left the row as it was.
-/

namespace EmailTriage.IdentityAccess

open Js Db Runs MailboxAuthorizationRepository MailboxAuthorizationService
open MailboxIngestion (Platform)

/-! ## The record of a run

A ghost keeps, for every row that is active, the consent that the call which made it active has
appended. It is what the consent on record should be compared with.
-/

/-- Whether a row is active. -/
def isActive (t : MailboxAuthorizationTable) (id : ℕ) : Bool :=
  t.rows.any fun r => r.id = id && r.status = .active

/-- The store, with the consent grant that the call which made a row active appended for it. -/
structure Recorded (σ : Type) where
  world : World σ
  consentOf : ℕ → Option ConsentGrantRow

section

variable {σ : Type}

/-- The record after a call that leaves the world `w'`. -/
def Recorded.advance (s : Recorded σ) (w' : World σ) : Recorded σ where
  world := w'
  consentOf id :=
    if isActive s.world.authorizations id then s.consentOf id
    else (w'.consentGrants.drop s.world.consentGrants.length).find? fun g =>
      g.mailboxAuthorizationId = id

/-- Each active authorization has a consent grant with its scopes, written by the call that made it
active. -/
def OnRecord (s : Recorded σ) : Prop :=
  ∀ r ∈ s.world.authorizations.rows, r.status = .active →
    ∃ g ∈ s.world.consentGrants, s.consentOf r.id = some g ∧ g.mailboxAuthorizationId = r.id ∧
      ∀ scope, scope ∈ g.scopeSet ↔ scope ∈ r.scopeSet

variable (googleOAuth microsoftOAuth : OAuthProviderPort σ)

/-- A call, with the record it leaves. -/
def recordStep (s : Recorded σ) (c : Call) : Recorded σ :=
  s.advance (step googleOAuth microsoftOAuth s.world c)

/-- Whether a call is a grant that fails. -/
def isFailedGrant (w : World σ) (c : Call) : Bool :=
  match c.op with
  | .grantConsent .. => !isGranted w c
  | _ => false

/-- Consent is on record after a call, and a grant that fails leaves both tables as they were. -/
def KeepsConsent (s : Recorded σ) (c : Call) (s' : Recorded σ) : Prop :=
  OnRecord s' ∧ (isFailedGrant s.world c = true →
    (∀ r, r ∈ s'.world.authorizations.rows ↔ r ∈ s.world.authorizations.rows) ∧
      s'.world.consentGrants = s.world.consentGrants)

/-- A grant that gets as far as its upsert also writes its consent grant, or meets an authorization that
is active already and was refreshed at the same time. -/
def WritesConsent (w : World σ) (c : Call) : Prop :=
  match c.op with
  | .grantConsent tenantId userId mailboxId platform scopes _ =>
    ScopeSet.validate scopes platform = .ok () ∧ c.env.fails 0 = false →
      (c.env.fails 1 || c.env.fails 2) = false ∨
        ∃ r, w.authorizations.find (tenantId, userId, mailboxId, platform) = some r ∧
          r.status = .active ∧ r.lastTokenRefreshedAt = some c.env.now
  | _ => True

/-! ## One call

A grant over a row appends a consent and leaves the scopes of the row; a grant without a row writes both
alike.
-/

/-- The row of an active authorization is found active by its id. -/
theorem isActive_of_mem {t : MailboxAuthorizationTable} {r : MailboxAuthorizationRow} (hr : r ∈ t.rows)
    (hactive : r.status = .active) : isActive t r.id = true :=
  List.any_eq_true.mpr ⟨r, hr, by simp [hactive]⟩

/-- A row that is active keeps its consent on record. -/
theorem consentOf_advance_of_mem {s : Recorded σ} {r : MailboxAuthorizationRow}
    (hr : r ∈ s.world.authorizations.rows) (hactive : r.status = .active) (w' : World σ) :
    (s.advance w').consentOf r.id = s.consentOf r.id :=
  if_pos (isActive_of_mem hr hactive)

/-- A call that makes no row active and deletes no consent grant keeps consent on record. -/
theorem onRecord_advance {s : Recorded σ} {w' : World σ} (hs : OnRecord s)
    (hrows : ∀ r ∈ w'.authorizations.rows, r.status = .active → r ∈ s.world.authorizations.rows)
    (hgrants : ∀ g ∈ s.world.consentGrants, g ∈ w'.consentGrants) : OnRecord (s.advance w') := by
  intro r hr hactive
  have hold := hrows r hr hactive
  obtain ⟨g, hg, hconsent, hid, hscopes⟩ := hs r hold hactive
  exact ⟨g, hgrants g hg, (consentOf_advance_of_mem hold hactive w').trans hconsent, hid, hscopes⟩

/-! ### Grants -/

section

variable {s : Recorded σ} {t' : MailboxAuthorizationTable} {now : ℤ}
  {tenantId userId mailboxId : String} {platform : Platform} {scopes : List String}
  {credentialHandle : String}

/-- An upsert leaves the table as it was when it sets a row that is active and refreshed at the same
time. -/
theorem mem_iff_mem_upsert_iff {t : MailboxAuthorizationTable}
    (hfind : ∀ key, t'.find key = if key = (tenantId, userId, mailboxId, platform) then
        some (grantedRow t now tenantId userId mailboxId platform scopes credentialHandle)
      else t.find key) :
    (∀ r, r ∈ t'.rows ↔ r ∈ t.rows) ↔
      ∃ r, t.find (tenantId, userId, mailboxId, platform) = some r ∧ r.status = .active ∧
        r.lastTokenRefreshedAt = some now := by
  rw [← Table.find_eq_find_iff]
  constructor
  · intro h
    have hrow := (hfind (tenantId, userId, mailboxId, platform)).symm.trans (h _)
    rw [if_pos rfl] at hrow
    rcases hold : t.find (tenantId, userId, mailboxId, platform) with _ | r
    · rw [hold] at hrow
      cases hrow
    · rw [hold, grantedRow_of_find_eq_some hold] at hrow
      have hset := Option.some.inj hrow
      exact ⟨r, rfl, congrArg MailboxAuthorizationRow.status hset.symm,
        congrArg MailboxAuthorizationRow.lastTokenRefreshedAt hset.symm⟩
  · rintro ⟨r, hold, hactive, hrefreshed⟩ key
    have hset : r.setStatus .active now = r := by
      unfold MailboxAuthorizationRow.setStatus
      rw [← hactive, ← hrefreshed]
    rw [hfind]
    by_cases hkey : key = (tenantId, userId, mailboxId, platform)
    · rw [if_pos hkey, grantedRow_of_find_eq_some hold, hset, hkey, hold]
    · rw [if_neg hkey]

/-- A granted row has the scopes of the grant. -/
theorem mem_iff_grantedRow_scopeSet {t : MailboxAuthorizationTable} (hscopes : ScopesValid t)
    (hvalid : ScopeSet.validate scopes platform = .ok ()) (scope : String) :
    scope ∈ scopes ↔ scope ∈
      (grantedRow t now tenantId userId mailboxId platform scopes credentialHandle).scopeSet := by
  rcases hold : t.find (tenantId, userId, mailboxId, platform) with _ | r
  · unfold grantedRow
    rw [hold]
  · obtain ⟨hr, hkey⟩ := Table.find_eq_some_iff.mp hold
    have hplatform : r.platform = platform := congrArg (fun k => k.2.2.2) hkey
    have hr' := hscopes r hr
    rw [hplatform] at hr'
    rw [grantedRow_of_find_eq_some hold]
    exact ScopeSet.mem_iff_of_validate hvalid hr' scope

/-- A granted row that has the primary key of a stored row has its scopes. -/
theorem scopeSet_grantedRow_of_id_eq {t : MailboxAuthorizationTable} {r₀ : MailboxAuthorizationRow}
    (hr₀ : r₀ ∈ t.rows)
    (hid : (grantedRow t now tenantId userId mailboxId platform scopes credentialHandle).id = r₀.id) :
    r₀.scopeSet =
      (grantedRow t now tenantId userId mailboxId platform scopes credentialHandle).scopeSet := by
  rcases hold : t.find (tenantId, userId, mailboxId, platform) with _ | r
  · -- a new row has a fresh primary key
    unfold grantedRow at hid
    rw [hold] at hid
    exact absurd hid.symm (Table.ne_freshId hr₀)
  · rw [grantedRow_of_find_eq_some hold] at hid ⊢
    obtain rfl : r = r₀ := Table.eq_of_id_eq (Table.find_eq_some_iff.mp hold).1 hr₀ hid
    rfl

/-- A grant that returns puts its consent on record, or that of the earlier grant is still there. -/
theorem onRecord_advance_grant (hs : OnRecord s) (hscopes : ScopesValid s.world.authorizations)
    (hvalid : ScopeSet.validate scopes platform = .ok ())
    (hfind : ∀ key, t'.find key = if key = (tenantId, userId, mailboxId, platform) then
        some (grantedRow s.world.authorizations now tenantId userId mailboxId platform scopes
          credentialHandle)
      else s.world.authorizations.find key) :
    OnRecord (s.advance { s.world with
      authorizations := t'
      consentGrants := s.world.consentGrants ++ [{
        mailboxAuthorizationId := (grantedRow s.world.authorizations now tenantId userId mailboxId
          platform scopes credentialHandle).id
        scopeSet := scopes
        grantedAt := now }] }) := by
  intro r hr hactive
  have hrow := (hfind (Schema.key r)).symm.trans (Table.find_key hr)
  by_cases hkey : Schema.key r = (tenantId, userId, mailboxId, platform)
  · rw [if_pos hkey] at hrow
    obtain rfl := Option.some.inj hrow
    have hsame : ∀ scope, scope ∈ scopes ↔ scope ∈ (grantedRow s.world.authorizations now tenantId
        userId mailboxId platform scopes credentialHandle).scopeSet :=
      mem_iff_grantedRow_scopeSet hscopes hvalid
    rcases hbefore : isActive s.world.authorizations (grantedRow s.world.authorizations now tenantId
      userId mailboxId platform scopes credentialHandle).id with _ | _
    · -- the call makes the row active, and appends its consent grant
      refine ⟨_, List.mem_append_right _ (List.mem_singleton.mpr rfl), ?_, rfl, hsame⟩
      unfold Recorded.advance
      dsimp only
      rw [hbefore, if_neg Bool.false_ne_true, List.drop_left]
      simp
    · -- the row was active before the call, so it is that row, and its consent is still there
      obtain ⟨r₀, hr₀, hmatch⟩ := List.any_eq_true.mp hbefore
      obtain ⟨hid₀, hactive₀⟩ : r₀.id = (grantedRow s.world.authorizations now tenantId userId mailboxId
          platform scopes credentialHandle).id ∧ r₀.status = .active := by
        simpa using hmatch
      obtain ⟨g, hg, hconsent, hid, hscopes₀⟩ := hs r₀ hr₀ hactive₀
      rw [← scopeSet_grantedRow_of_id_eq hr₀ hid₀.symm, ← hid₀]
      exact ⟨g, List.mem_append_left _ hg,
        (consentOf_advance_of_mem hr₀ hactive₀ _).trans hconsent, hid, hscopes₀⟩
  · rw [if_neg hkey] at hrow
    -- the other rows and their consents are what they were
    have hold := (Table.find_eq_some_iff.mp hrow).1
    obtain ⟨g, hg, hconsent, hid, hscopes'⟩ := hs r hold hactive
    exact ⟨g, List.mem_append_left _ hg, (consentOf_advance_of_mem hold hactive _).trans hconsent, hid,
      hscopes'⟩

/-- A grant keeps consent on record exactly when it writes its consent. -/
theorem keepsConsent_grantConsent (hs : OnRecord s) (hscopes : ScopesValid s.world.authorizations)
    (env : Env) :
    KeepsConsent s ⟨.grantConsent tenantId userId mailboxId platform scopes credentialHandle, env⟩
        (s.advance (after
          (grantConsent env tenantId userId mailboxId platform scopes credentialHandle) s.world)) ↔
      WritesConsent s.world
        ⟨.grantConsent tenantId userId mailboxId platform scopes credentialHandle, env⟩ := by
  unfold KeepsConsent WritesConsent isFailedGrant isGranted
  dsimp only
  rcases grantConsent_cases env tenantId userId mailboxId platform scopes credentialHandle s.world with
    ⟨hcond, e, hrun⟩ | ⟨⟨hvalid, h0⟩, t', hfind, ⟨h12, hrun⟩ | ⟨h12, auth, hrun⟩⟩
  · rw [after_of_error hrun]
    refine iff_of_true ⟨?_, fun _ => ⟨fun _ => Iff.rfl, rfl⟩⟩ fun h => absurd h hcond
    exact onRecord_advance hs (fun _ hr _ => hr) fun _ hg => hg
  · rw [after_of_error hrun, returns_of_error hrun, h12]
    -- the upsert was made and its consent grant was not, so the tables agree only if it changed nothing
    have hunchanged := mem_iff_mem_upsert_iff hfind
    constructor
    · rintro ⟨-, hkeeps⟩ -
      exact .inr (hunchanged.mp (hkeeps rfl).1)
    · intro h
      rcases h ⟨hvalid, h0⟩ with h | h
      · cases h
      · have hrows := hunchanged.mpr h
        exact ⟨onRecord_advance hs (fun r hr _ => (hrows r).mp hr) fun _ hg => hg,
          fun _ => ⟨hrows, rfl⟩⟩
  · rw [after_of_ok hrun, returns_of_ok hrun]
    refine iff_of_true ⟨onRecord_advance_grant hs hscopes hvalid hfind, fun h => ?_⟩ fun _ => .inl h12
    cases h

end

/-! ### Runs -/

/-- A revocation keeps consent on record. -/
theorem onRecord_recordStep_of_not_grant {s : Recorded σ} (hs : OnRecord s) {c : Call}
    (h : ∀ tenantId userId mailboxId platform scopes credentialHandle,
      c.op ≠ .grantConsent tenantId userId mailboxId platform scopes credentialHandle) :
    OnRecord (recordStep googleOAuth microsoftOAuth s c) := by
  refine onRecord_advance hs (fun r hr hactive => ?_) fun g hg => ?_
  · have hrow := Table.find_key hr
    rcases find_step googleOAuth microsoftOAuth s.world c (Schema.key r) with hkeep |
      ⟨record, record', -, hrevoked, -, hstatus⟩ |
      ⟨tenantId, userId, mailboxId, platform, scopes, handle, hop, -⟩
    · rw [hkeep] at hrow
      exact (Table.find_eq_some_iff.mp hrow).1
    · obtain rfl := Option.some.inj (hrow.symm.trans hrevoked)
      rw [hactive] at hstatus
      cases hstatus
    · exact absurd hop (h tenantId userId mailboxId platform scopes handle)
  · obtain ⟨authorizations, providers, hstep⟩ := step_of_not_grant googleOAuth microsoftOAuth s.world h
    rw [hstep]
    exact hg

/-- A call keeps consent on record exactly when it writes the consent of what it grants. -/
theorem keepsConsent_recordStep {s : Recorded σ} (hs : OnRecord s)
    (hscopes : ScopesValid s.world.authorizations) (c : Call) :
    KeepsConsent s c (recordStep googleOAuth microsoftOAuth s c) ↔ WritesConsent s.world c := by
  rcases c with ⟨op, env⟩
  rcases op with ⟨tenantId, userId, mailboxId, platform, scopes, handle⟩ |
    ⟨tenantId, mailboxId, reason⟩ | ⟨tenantId⟩
  · exact keepsConsent_grantConsent hs hscopes env
  · refine iff_of_true ⟨?_, fun h => Bool.noConfusion h⟩ trivial
    exact onRecord_recordStep_of_not_grant _ _ hs fun _ _ _ _ _ _ h => Op.noConfusion h
  · refine iff_of_true ⟨?_, fun h => Bool.noConfusion h⟩ trivial
    exact onRecord_recordStep_of_not_grant _ _ hs fun _ _ _ _ _ _ h => Op.noConfusion h

/-- Consent stays on record in every state of a run, and its failed grants change nothing, exactly when
every grant of the run that gets as far as its upsert also writes its consent grant, or meets an
authorization that is active already and was refreshed at the same time. -/
theorem keepsConsent_iff (providers : σ) (calls : List Call) :
    let start : Recorded σ := ⟨⟨Table.empty, [], [], providers⟩, fun _ => none⟩
    let run := exec (recordStep googleOAuth microsoftOAuth) start calls
    Along KeepsConsent start run ↔ Along (fun s c _ => WritesConsent s.world c) start run := by
  intro start run
  refine along_iff (I := fun s => OnRecord s ∧ ScopesValid s.world.authorizations) ?_ ?_
    (along_exec (recordStep googleOAuth microsoftOAuth) start calls)
    ⟨fun r hr => absurd hr List.not_mem_nil, fun r hr => absurd hr List.not_mem_nil⟩
  · rintro s c s' ⟨hs, hscopes⟩ rfl
    exact keepsConsent_recordStep googleOAuth microsoftOAuth hs hscopes c
  · rintro s c s' ⟨hs, hscopes⟩ rfl hwrites
    exact ⟨((keepsConsent_recordStep googleOAuth microsoftOAuth hs hscopes c).mpr hwrites).1,
      scopesValid_step googleOAuth microsoftOAuth hscopes c⟩

end

/-- A grant whose consent grant fails leaves an active authorization without consent. -/
theorem not_keepsConsent_of_failed_consentGrant :
    let start : Recorded Unit := ⟨⟨Table.empty, [], [], ()⟩, fun _ => none⟩
    ¬Along KeepsConsent start (exec (recordStep ⟨fun _ => pure ()⟩ ⟨fun _ => pure ()⟩) start
      [⟨.grantConsent "tenant" "user" "mailbox" .gmail ["gmail.modify", "gmail.labels"] "handle",
        ⟨fun k => k = 2, 0, 0⟩⟩]) := by
  intro start
  rintro ⟨⟨hrecord, -⟩, -⟩
  have hactive : ((recordStep ⟨fun _ => pure ()⟩ ⟨fun _ => pure ()⟩ start
      ⟨.grantConsent "tenant" "user" "mailbox" .gmail ["gmail.modify", "gmail.labels"] "handle",
        ⟨fun k => k = 2, 0, 0⟩⟩).world.authorizations.rows.any fun r => r.status = .active) = true := by
    decide
  obtain ⟨r, hr, hstatus⟩ := List.any_eq_true.mp hactive
  obtain ⟨g, hg, -⟩ := hrecord r hr (of_decide_eq_true hstatus)
  cases hg

end EmailTriage.IdentityAccess
