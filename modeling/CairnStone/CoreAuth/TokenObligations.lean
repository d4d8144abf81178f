import CairnStone.CoreAuth.Consequences

/-! What minting, rotating, revoking and validating keep to, whatever other calls do in between.
-/

namespace CairnStone.CoreAuth

open JavaScript Data Concurrency Protocol List Meets Database Lives Protocol.Interference Later

variable {env : Env} {clients : List ClientRow} {t : Nat} {call : Call} {α : Type}
  {h h' : History authStore} {Q : Except Failure α → History authStore → Prop}
  {tokenFamilyId resource : Text} {start db : Database} {now : Int}
  {connection : ConnectionRow} {authzVersion : Nat} {account : AccountRow}

abbrev First (clients : List ClientRow) : Database := Database.initial clients

theorem Credit.exec_of_not_adds (credit : Credit tokenFamilyId (h.own t)) {cmd : Command}
    (none : addsRefreshToken tokenFamilyId ⟨t, cmd, h.state⟩ = false)
    : Credit tokenFamilyId ((h.exec t cmd).own t) := by
  unfold Credit at credit ⊢
  rw [History.own_exec_self, countP_cons_of_neg (by simp [none]), countP_cons]
  omega

/-- Statements of other calls use up no credit. -/
theorem Credit.later (credit : Credit tokenFamilyId (h.own t)) (later : Later env start t h h')
    : Credit tokenFamilyId (h'.own t) := by
  rwa [own later]

theorem Lives.credit_of_permits (lives : Lives env start h) {cmd : Command}
    (permits : permitsRefreshToken tokenFamilyId ⟨t, cmd, h.state⟩ = true)
    (adds : addsRefreshToken tokenFamilyId ⟨t, cmd, h.state⟩ = false)
    : Credit tokenFamilyId ((h.exec t cmd).own t) := by
  have balanced := lives.balanced tokenFamilyId t
  unfold Credit
  rw [History.own_exec_self, countP_cons_of_pos permits,
    countP_cons_of_neg (by simp [adds])]
  omega

def FamilyKnown (tokenFamilyId : Text) (db : Database) : Prop :=
  ∃ family ∈ db.families, family.tokenFamilyId = tokenFamilyId

theorem FamilyKnown.later (known : FamilyKnown tokenFamilyId h.state)
    (lives : Lives env start h) (onward : Onward env start h h')
    : FamilyKnown tokenFamilyId h'.state := by
  obtain ⟨family, mem, same⟩ := known
  obtain ⟨family', mem', goes⟩ :=
    family_later lives onward.lives onward.le mem
  refine ⟨family', mem', ?_⟩
  rw [goes.columns]
  exact same

theorem FamilyKnown.found (known : FamilyKnown tokenFamilyId db)
    : db.family tokenFamilyId ≠ none := by
  obtain ⟨family, mem, same⟩ := known
  exact fun lost => find_eq_none.mp lost family mem same

theorem owes_issueTokenPair {family : TokenFamilyRow} {refreshGeneration : Nat}
    {draw : PairDraw} {Q : Except Failure TokenPair → History authStore → Prop}
    (lives : Lives env start h) (known : FamilyKnown family.tokenFamilyId h.state)
    (credit : Credit family.tokenFamilyId (h.own t))
    (post : ∀ answer h', Onward env start h h' → Q answer h')
    : Obliged env start t call (issueTokenPair env family refreshGeneration draw now) Q h := by
  refine owes_insert_bind (fun _ _ => trivial) (fun h1 later1 _ onward1 => ?_)
    (fun h1 onward => post _ h1 onward)
  have known1 := known.later lives onward1
  have credit1 := credit.later later1
  refine owes_insert_bind (fun h2 later2 => ?_) (fun h2 later2 _ onward2 => ?_)
    (fun h2 onward2 => post _ h2 (onward1.trans onward2))
  · refine ⟨known1.later onward1.lives later2.onward, ?_⟩
    rw [own later2]
    exact credit1.exec_of_not_adds rfl
  · exact .done (fun h3 later3 => post _ h3 ((onward1.trans onward2).later later3))

structure MintGrounds (start : Database) (connection : ConnectionRow) (authzVersion : Nat)
    (h : History authStore)
    : Prop where
  stamped
    : Seen (M := authStore) start
        (fun db => ∃ account ∈ Database.accounts db,
          account.accountId = connection.accountId ∧ account.authzVersion = authzVersion) h
  homed
    : ∃ membership ∈ Database.memberships h.state,
        membership.key = (connection.accountId, connection.tenantId)

theorem MintGrounds.later (grounds : MintGrounds start connection authzVersion h)
    (lives : Lives env start h) (onward : Onward env start h h')
    : MintGrounds start connection authzVersion h' := by
  obtain ⟨membership, mem, key⟩ := grounds.homed
  obtain ⟨membership', mem', goes⟩ :=
    membership_later lives onward.lives onward.le mem
  refine ⟨grounds.stamped.later onward.le, membership', mem', ?_⟩
  rw [← key, goes.columns]
  rfl

theorem owes_mintTokenFamily {authenticatorId : Text} {scopes : List Text}
    {draw : FamilyDraw} {Q : Except Failure Minted → History authStore → Prop}
    (lives : Lives env start h)
    (grounds : MintGrounds start connection authzVersion h)
    (opened : Seen (M := authStore) start (fun db => connection ∈ connections db) h)
    (post : ∀ answer h', Onward env start h h' → Q answer h')
    : Obliged env start t call
        (mintTokenFamily env connection authenticatorId resource scopes authzVersion draw now)
        Q h := by
  refine owes_insert_bind (fun h1 later1 => ?_) (fun h1 later1 free onward1 => ?_)
    (fun h1 onward => post _ h1 onward)
  · have grounds1 := grounds.later lives later1.onward
    obtain ⟨log, le, mem⟩ := opened
    exact ⟨rfl, grounds1.stamped, grounds1.homed, log, le.trans later1.le, connection, mem, rfl, rfl⟩
  · refine Meets.map (owes_issueTokenPair onward1.lives ?_ ?_ (fun answer h2 onward2 =>
      post _ h2 (onward1.trans onward2)))
    · refine ⟨_, ?_, rfl⟩
      rw [exec_insert_state free]
      exact mem_append_right _ (mem_singleton.mpr rfl)
    · refine later1.lives.credit_of_permits ?_ rfl
      simp [permitsRefreshToken, free]

theorem quiet_claimRoutingAliases (connection : ConnectionRow)
    : ∀ aliases, Quiet (claimRoutingAliases connection aliases)
  | [] => trivial
  | aliasName :: rest => by
    have one : Quiet (claimRoutingAlias connection aliasName) := by
      refine quiet_select_bind (fun existing => ?_)
      cases existing with
      | some row => exact quiet_ensure _ _
      | none =>
        refine quiet_perform_bind trivial (fun put => ?_)
        cases put with
        | ok _ => trivial
        | error _ => exact quiet_refuse _
    exact one.bind (fun _ => quiet_claimRoutingAliases connection rest)

theorem owes_openConnection {authenticatorId : Text} {scopes : List Text}
    {draw : FamilyDraw} {Q : Except Failure Minted → History authStore → Prop}
    (lives : Lives env start h)
    (grounds : MintGrounds start connection authzVersion h)
    (post : ∀ answer h', Onward env start h h' → Q answer h')
    : Obliged env start t call
        (openConnection env connection authenticatorId resource scopes authzVersion draw now)
        Q h := by
  refine owes_insert_bind (fun _ _ => trivial) (fun h1 _ free onward1 => ?_)
    (fun h1 onward => post _ h1 onward)
  have opened : connection ∈ connections (h1.exec t (.insert (.connection connection))).state := by
    rw [exec_insert_state free]
    exact mem_append_right _ (mem_singleton.mpr rfl)
  refine (quiet_claimRoutingAliases connection _).owes_bind (fun _ h2 onward2 => ?_)
    (fun _ h2 onward2 => post _ h2 (onward1.trans onward2))
  have onward := onward1.trans onward2
  exact owes_mintTokenFamily onward.lives (grounds.later lives onward)
    ((Seen.now onward1.lives opened).later onward2.le)
    (fun answer h3 onward3 => post answer h3 (onward.trans onward3))

theorem mem_of_account {accountId : Text} (found : db.account accountId = some account)
    : account ∈ db.accounts ∧ account.accountId = accountId :=
  mem_of_find found

theorem mem_of_activeMembership {accountId tenantId : Text} {membership : MembershipRow}
    (found : db.activeMembership accountId tenantId = some membership)
    : membership ∈ db.memberships ∧ membership.key = (accountId, tenantId)
      ∧ membership.status = .active := by
  obtain ⟨found, active⟩ := Option.filter_eq_some_iff.mp found
  obtain ⟨mem, key⟩ := mem_of_find found
  exact ⟨mem, key, eq_of_beq active⟩

theorem owes_mintConnectionUnderAccount {args : MintArgs} {draw : ConnectionDraw}
    {Q : Except Failure ConnectionMinted → History authStore → Prop}
    (post : ∀ answer h', Onward env start h h' → Q answer h')
    : Obliged env start t call (mintConnectionUnderAccount env args draw now) Q h := by
  refine owes_fetch_bind (fun account h1 later1 found => ?_)
    (fun h1 h2 later1 _ later2 => post _ h2 (later1.onward.later later2))
  have onward1 := later1.onward
  refine owes_ensure_bind (fun _ => ?_) (fun _ h2 later2 => post _ h2 (onward1.later later2))
  refine owes_fetch_bind (fun membership h2 later2 joined => ?_)
    (fun h2 h3 later2 _ later3 => post _ h3 ((onward1.later later2).later later3))
  have onward2 := onward1.later later2
  refine owes_fetch_bind (fun authenticator h3 later3 _ => ?_)
    (fun h3 h4 later3 _ later4 => post _ h4 ((onward2.later later3).later later4))
  have onward3 := onward2.later later3
  obtain ⟨mem, accountId⟩ := mem_of_account found
  obtain ⟨mem', key, _⟩ := mem_of_activeMembership joined
  obtain ⟨membership', here, goes⟩ :=
    membership_later onward2.lives onward3.lives later3.le mem'
  refine Meets.map (owes_openConnection onward3.lives
    ⟨?_, membership', here, ?_⟩
    (fun answer h4 onward4 => post _ h4 (onward3.trans onward4)))
  · exact (Seen.now onward1.lives ⟨account, mem, accountId, rfl⟩).later
      (later2.le.trans later3.le)
  · rw [← key, goes.columns]
    rfl

theorem owes_redeemAuthorizationCode {args : RedeemArgs} {draw : ConnectionDraw}
    {mintedAt : Int} {Q : Except Failure ConnectionMinted → History authStore → Prop}
    (post : ∀ answer h', Onward env start h h' → Q answer h')
    : Obliged env start t call (redeemAuthorizationCode env args draw now mintedAt) Q h := by
  refine owes_fetch_bind (fun row h1 later1 _ => ?_)
    (fun h1 h2 later1 _ later2 => post _ h2 (later1.onward.later later2))
  have stop (error : Failure) (h2 : History authStore) (later2 : Later env start t h1 h2)
      : Q (.error error) h2 :=
    post _ h2 (later1.onward.later later2)
  refine owes_ensure_bind (fun _ => ?_) (fun _ => stop _)
  split
  · refine owes_quiet_bind trivial (fun h2 later2 onward2 => owes_refuse (fun h3 later3 => ?_))
    exact post _ h3 ((later1.onward.trans onward2).later later3)
  · refine owes_ensure_bind (fun _ => ?_) (fun _ => stop _)
    refine owes_ensure_bind (fun _ => ?_) (fun _ => stop _)
    refine owes_ensure_bind (fun _ => ?_) (fun _ => stop _)
    refine owes_ensure_bind (fun _ => ?_) (fun _ => stop _)
    refine owes_ensure_bind (fun _ => ?_) (fun _ => stop _)
    refine owes_quiet_bind trivial (fun h2 later2 onward2 => ?_)
    have onward := later1.onward.trans onward2
    generalize (exec (.useCode _) h2.state).1 = edits
    change Nat at edits
    refine owes_ensure_bind (fun _ => ?_) (fun _ h3 later3 => post _ h3 (onward.later later3))
    exact owes_mintConnectionUnderAccount
      (fun answer h3 onward3 => post answer h3 (onward.trans onward3))

structure Provisioned (start : Database) (account : AccountRow) (tenantId : Text)
    (h : History authStore)
    : Prop where
  seen : Seen (M := authStore) start (fun db => account ∈ Database.accounts db) h
  joined
    : ∃ membership ∈ Database.memberships h.state,
        membership.key = (account.accountId, tenantId)

theorem Provisioned.later {tenantId : Text}
    (provisioned : Provisioned start account tenantId h) (lives : Lives env start h)
    (onward : Onward env start h h')
    : Provisioned start account tenantId h' := by
  obtain ⟨membership, mem, key⟩ := provisioned.joined
  obtain ⟨membership', mem', goes⟩ :=
    membership_later lives onward.lives onward.le mem
  refine ⟨provisioned.seen.later onward.le, membership', mem', ?_⟩
  rw [← key, goes.columns]
  rfl

theorem Provisioned.grounds (provisioned : Provisioned start account connection.tenantId h)
    (same : connection.accountId = account.accountId)
    : MintGrounds start connection account.authzVersion h := by
  obtain ⟨log, le, mem⟩ := provisioned.seen
  refine ⟨⟨log, le, account, mem, same.symm, rfl⟩, ?_⟩
  rw [same]
  exact provisioned.joined

/-- After provisioning, the new account is a member of the new tenant. -/
theorem owes_provisionAccount {draw : AccountDraw} {displayName : Option Text}
    {homeWorkspaceId : Text → Text}
    {Q : Except Failure (Text × Text) → History authStore → Prop}
    (post
      : ∀ answer h', Onward env start h h'
        → (∀ ids, answer = .ok ids
          → ∃ membership ∈ memberships h'.state, membership.key = ids)
        → Q answer h')
    : Obliged env start t call (provisionAccount draw displayName homeWorkspaceId) Q h := by
  have thrown (h' : History authStore) (onward : Onward env start h h')
      : Q (.error (.thrown .unique)) h' :=
    post _ h' onward (fun _ same => by cases same)
  refine owes_insert_bind (fun _ _ => trivial) (fun h1 _ _ onward1 => ?_) thrown
  refine owes_insert_bind (fun _ _ => trivial) (fun h2 _ _ onward2 => ?_)
    (fun h' onward => thrown h' (onward1.trans onward))
  have onward2 := onward1.trans onward2
  refine owes_insert_bind (fun _ _ => trivial) (fun h3 _ free onward3 => ?_)
    (fun h' onward => thrown h' (onward2.trans onward))
  have onward3 := onward2.trans onward3
  refine done (fun h4 later4 => post _ h4 (onward3.later later4) ?_)
  rintro ids ⟨⟩
  let joined : MembershipRow :=
    { accountId := mintId .account draw.accountId, tenantId := mintId .tenant draw.tenantId
      status := .active, authzVersion := 1 }
  have mem : joined
      ∈ memberships (h3.exec t (.insert (.membership joined))).state := by
    rw [exec_insert_state free]
    exact mem_append_right _ (mem_singleton.mpr rfl)
  obtain ⟨membership, here, goes⟩ := membership_later onward3.lives
    (onward3.later later4).lives (le later4) mem
  refine ⟨membership, here, ?_⟩
  rw [goes.columns]
  rfl

theorem owes_bootstrapAccount {args : BootstrapArgs} {draw : AccountDraw}
    {Q : Except Failure (AccountRow × Text) → History authStore → Prop}
    (post
      : ∀ answer h', Onward env start h h'
        → (∀ account tenantId, answer = .ok (account, tenantId)
          → Provisioned start account tenantId h')
        → Q answer h')
    : Obliged env start t call (bootstrapAccount args draw) Q h := by
  have stop {error : Failure} (h' : History authStore) (onward : Onward env start h h')
      : Q (.error error) h' :=
    post _ h' onward (fun _ _ same => by cases same)
  unfold bootstrapAccount
  cases truthy args.existingAccountId with
  | some accountId =>
    refine owes_fetch_bind (fun account h1 later1 found => ?_)
      (fun h1 h2 later1 _ later2 => stop h2 (later1.onward.later later2))
    have onward1 := later1.onward
    refine owes_ensure_bind (fun _ => ?_) (fun _ h2 later2 => stop h2 (onward1.later later2))
    refine owes_fetch_bind (fun membership h2 later2 joined => ?_)
      (fun h2 h3 later2 _ later3 => stop h3 ((onward1.later later2).later later3))
    have onward2 := onward1.later later2
    refine done (fun h3 later3 => post _ h3 (onward2.later later3) ?_)
    rintro _ _ ⟨⟩
    obtain ⟨mem, same⟩ := mem_of_account found
    obtain ⟨mem', key, _⟩ := mem_of_activeMembership joined
    have provisioned : Provisioned start account ((truthy args.selectTenantId).getD account.homeTenantId) h2 :=
      ⟨(Seen.now onward1.lives mem).later later2.le, membership, mem', by rw [key, same]⟩
    exact provisioned.later onward2.lives (onward later3)
  | none =>
    refine Meets.bind (owes_provisionAccount (fun answer h1 onward1 joined => ?_))
    cases answer with
    | error error => exact stop h1 onward1
    | ok ids =>
      refine owes_fetch_bind (fun account h2 later2 found => ?_)
        (fun h2 h3 later2 _ later3 => stop h3 ((onward1.later later2).later later3))
      have onward2 := onward1.later later2
      refine done (fun h3 later3 => post _ h3 (onward2.later later3) ?_)
      rintro _ _ ⟨⟩
      obtain ⟨mem, same⟩ := mem_of_account found
      obtain ⟨membership, mem', key⟩ := joined ids rfl
      obtain ⟨membership', here, goes⟩ :=
        membership_later onward1.lives onward2.lives later2.le mem'
      have provisioned : Provisioned start account ids.2 h2 := by
        refine ⟨Seen.now onward2.lives mem, membership', here, ?_⟩
        rw [same, goes.columns]
        exact key
      exact provisioned.later onward2.lives (onward later3)

theorem quiet_provisionWallet (method : AuthenticatorMethod) (bytes : Bytes)
    : Quiet (provisionWallet method bytes) := by
  unfold provisionWallet
  split
  · exact quiet_insert_bind trivial trivial
  · trivial

theorem owes_bootstrapAccountConnection {args : BootstrapArgs} {draw : BootstrapDraw}
    {Q : Except Failure Bootstrapped → History authStore → Prop}
    (post : ∀ answer h', Onward env start h h' → Q answer h')
    : Obliged env start t call (bootstrapAccountConnection env args draw now) Q h := by
  refine owes_ensure_bind (fun _ => ?_) (fun _ h1 later1 => post _ h1 later1.onward)
  refine Meets.bind (owes_bootstrapAccount (fun answer h1 onward1 provisioned => ?_))
  cases answer with
  | error error => exact post _ h1 onward1
  | ok provision =>
    obtain ⟨account, tenantId⟩ := provision
    have provisioned := provisioned account tenantId rfl
    refine (quiet_provisionWallet _ _).owes_bind (fun walletAccountId h2 onward2 => ?_)
      (fun error h2 onward2 => post _ h2 (onward1.trans onward2))
    have provisioned2 := provisioned.later onward1.lives onward2
    have onward2 := onward1.trans onward2
    refine owes_insert_bind (fun _ _ => trivial) (fun h3 later3 free onward3 => ?_)
      (fun h3 onward3 => post _ h3 (onward2.trans onward3))
    have provisioned3 := provisioned2.later onward2.lives onward3
    have onward3 := onward2.trans onward3
    split
    · exact Meets.map (owes_openConnection onward3.lives (provisioned3.grounds rfl)
        (fun answer h4 onward4 => post _ h4 (onward3.trans onward4)))
    · exact .done (fun h4 later4 => post _ h4 (onward3.later later4))

end CairnStone.CoreAuth
