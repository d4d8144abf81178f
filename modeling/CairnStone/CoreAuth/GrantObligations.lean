import CairnStone.CoreAuth.TokenObligations

/-! What rotation, validation, revocation and version bumps have seen and done when they answer,
whatever other calls did in between.
-/

namespace CairnStone.CoreAuth

open JavaScript Data Concurrency Protocol List Database Meets Option History Lives Later

variable {env : Env} {clients : List ClientRow} {t : Nat} {call : Call} {α : Type}
  {h0 h h' : History authStore}
  {start origin : Database} {now : Int}
  {Q : Except Failure Unit → History authStore → Prop} {family : TokenFamilyRow}
  {accessToken : Text}

/-- A revocation ends a family that it knows, and answers success only for such a family. -/
theorem owes_revokeTokenFamily {tokenFamilyId : Text} (lives : Lives env start h)
    (post
      : ∀ answer h', Onward env start h h'
        → (FamilyKnown tokenFamilyId h.state ∨ answer = .ok ()
          → FamilyRevoked tokenFamilyId h'.state)
        → Q answer h')
    : Obliged env start t call (revokeTokenFamily tokenFamilyId now) Q h := by
  refine owes_fetch_bind (fun family h1 later1 found => ?_) (fun h1 h2 later1 lost later2 => ?_)
  · obtain ⟨mem, same⟩ := mem_of_find found
    refine owes_quiet_bind trivial (fun h2 later2 onward2 => ?_)
    have onward2 := later1.onward.trans onward2
    obtain ⟨family', mem', goes⟩ :=
      family_later later1.lives later2.lives later2.le mem
    have ended : FamilyRevoked tokenFamilyId (h2.exec t (.revokeFamily tokenFamilyId)).state := by
      have same' : family'.tokenFamilyId = tokenFamilyId := by
        rw [goes.columns]
        exact same
      rw [← same']
      exact familyRevoked_revokeFamily mem'
    refine owes_quiet_bind trivial (fun h3 later3 onward3 => ?_)
    refine owes_quiet_bind trivial (fun h4 later4 onward4 => ?_)
    refine Meets.done (fun h5 later5 => ?_)
    have onward := onward3.trans (onward4.later later5)
    exact post _ h5 (onward2.trans onward)
      (fun _ => ended.later onward2.lives onward.lives onward.le)
  · refine post _ h2 (later1.onward.later later2) (fun reason => ?_)
    rcases reason with known | said
    · exact absurd lost (known.later lives later1.onward).found
    · cases said

/-- Revoking listed families ends all of them.
Witness: induction on the list; what has ended stays ended.
-/
theorem owes_revokeTokenFamilies {tokenFamilyIds : List Text} (lives : Lives env start h)
    (known : ∀ id ∈ tokenFamilyIds, FamilyKnown id h.state)
    (post
      : ∀ answer h', Onward env start h h'
        → (∀ id ∈ tokenFamilyIds, FamilyRevoked id h'.state) → Q answer h')
    : Obliged env start t call (revokeTokenFamilies now tokenFamilyIds) Q h := by
  induction tokenFamilyIds generalizing h with
  | nil =>
    exact .done (fun h1 later1 =>
      post _ h1 later1.toAfter (forall_mem_nil _))
  | cons tokenFamilyId rest ih =>
    refine attempt_bind (owes_revokeTokenFamily lives (fun answer h1 onward1 ended => ?_))
    have ended := ended (.inl (known tokenFamilyId (.head _)))
    have known1 : ∀ id ∈ rest, FamilyKnown id h1.state :=
      fun id mem => (known id (.tail _ mem)).later lives onward1
    refine ih onward1.lives known1 (fun answer h2 onward2 others => ?_)
    refine post answer h2 (onward1.trans onward2) (fun id mem => ?_)
    rcases mem_cons.mp mem with rfl | other
    · exact ended.later onward1.lives onward2.lives onward2.le
    · exact others id other

theorem owes_revokeConnection {connectionId : Text}
    : Obliged env start t call (revokeConnection connectionId now)
        (fun answer h' => answer = .ok () → ConnectionEnded connectionId h'.state) h := by
  refine owes_fetch_bind (fun connection h1 later1 found => ?_)
    (fun _ _ _ _ _ said => by cases said)
  obtain ⟨mem, same⟩ := mem_of_find found
  refine owes_quiet_bind trivial (fun h2 later2 onward2 => ?_)
  obtain ⟨connection', mem', goes⟩ :=
    connection_later later1.lives later2.lives later2.le mem
  have ended
      : ConnectionEnded connectionId (h2.exec t (.revokeConnection connectionId)).state := by
    have same' : connection'.connectionId = connectionId := by
      rw [goes.columns]
      exact same
    rw [← same']
    exact connectionEnded_revokeConnection mem'
  refine owes_quiet_bind trivial (fun h3 later3 onward3 => ?_)
  refine owes_revokeTokenFamilies onward3.lives ?_ (fun answer h4 onward4 _ _ => ?_)
  · intro id listed
    obtain ⟨family, here, rfl⟩ := mem_map.mp listed
    exact ⟨family, (mem_filter.mp here).1, rfl⟩
  · have onward := onward3.trans onward4
    exact ended.later onward2.lives onward.lives onward.le

def FamiliesRevoked (authenticatorId : Text) (h : History authStore) : Prop :=
  ∃ issued ∈ h.log, issued.command = .listFamiliesOfAuthenticator authenticatorId
    ∧ ∀ family ∈ Database.families issued.before,
        family.originAuthenticatorId = authenticatorId → FamilyRevoked family.tokenFamilyId h.state

/-- A successful revocation of an authenticator has ended the families that it listed, and
those that it did not list had ended before.
-/
theorem owes_revokeAuthenticator {authenticatorId : Text} {stepUpConfirmed : Bool}
    : Obliged env (First clients) t call
        (revokeAuthenticator authenticatorId stepUpConfirmed now)
        (fun answer h' => ∀ count, answer = .ok count → FamiliesRevoked authenticatorId h') h := by
  refine owes_ensure_bind (fun _ => ?_) (fun _ _ _ _ said => by cases said)
  refine owes_fetch_bind (fun authenticator h1 later1 found => ?_)
    (fun _ _ _ _ _ _ said => by cases said)
  refine owes_quiet_bind trivial (fun h2 later2 onward2 => ?_)
  refine owes_quiet_bind trivial (fun h3 later3 onward3 => ?_)
  refine bind (owes_revokeTokenFamilies onward3.lives ?_ (fun answer h4 onward4 ended => ?_))
  · intro id listed
    obtain ⟨family, here, rfl⟩ := mem_map.mp listed
    exact ⟨family, (mem_filter.mp here).1, rfl⟩
  · cases answer with
    | error error =>
      rintro count ⟨⟩
    | ok value =>
      refine Meets.done (fun h5 later5 count _ => ?_)
      have onward := onward4.later later5
      refine ⟨_, onward.le.subset (.head _), rfl, fun family mem origin => ?_⟩
      by_cases active : family.status = .active
      · have listed : family.tokenFamilyId
            ∈ ((families h3.state).filter (fun row =>
              row.originAuthenticatorId == authenticatorId && row.status == .active)).map
                (·.tokenFamilyId) := by
          refine mem_map.mpr ⟨family, mem_filter.mpr ⟨mem, ?_⟩, rfl⟩
          simp [origin, active]
        exact (ended _ listed).later onward4.lives onward.lives (le later5)
      · have before : FamilyRevoked family.tokenFamilyId
            (h3.exec t (.listFamiliesOfAuthenticator authenticatorId)).state :=
          ⟨family, mem, rfl, (later3.lives.granted family mem).resolve_left active⟩
        exact before.later onward3.lives onward.lives onward.le

def Outdated (family : TokenFamilyRow) (db : Database) : Prop :=
  (∃ account ∈ db.accounts,
    account.accountId = family.accountId ∧ family.authzVersion < account.authzVersion)
  ∨ ∃ membership ∈ db.memberships, membership.key = (family.accountId, family.tenantId)
    ∧ (membership.status ≠ .active ∨ family.authzVersion < membership.authzVersion)

def OutdatedIn (family : TokenFamilyRow) (db : Database) : Prop :=
  (∃ row ∈ db.families, family.Becomes row) ∧ Outdated family db

/-- Since the instant with the state `origin`, each of these was seen at some instant: the active
family, its account and its active membership, both no newer, and its active connection.
-/
structure Passed (start origin : Database) (family : TokenFamilyRow) (h : History authStore)
    : Prop where
  active
    : SeenSince (M := authStore) start origin
        (fun db => family ∈ Database.families db ∧ family.status = .active) h
  account
    : SeenSince (M := authStore) start origin
        (fun db => ∃ account ∈ Database.accounts db,
          account.accountId = family.accountId
          ∧ account.authzVersion ≤ family.authzVersion) h
  membership
    : SeenSince (M := authStore) start origin
        (fun db => ∃ membership ∈ Database.memberships db,
          membership.key = (family.accountId, family.tenantId) ∧ membership.status = .active
          ∧ membership.authzVersion ≤ family.authzVersion) h
  connection
    : SeenSince (M := authStore) start origin
        (fun db => ∃ connection ∈ Database.connections db,
          connection.connectionId = family.connectionId ∧ connection.status = .active) h

theorem Passed.later (passed : Passed start origin family h) (le : h.log <:+ h'.log)
    : Passed start origin family h' :=
  ⟨passed.active.later le, passed.account.later le, passed.membership.later le,
    passed.connection.later le⟩

theorem Lives.homed_of_seen (lives : Lives env (First clients) h)
    (seen : Seen (M := authStore) (First clients) (fun db => family ∈ families db) h)
    : family.Homed h.state := by
  obtain ⟨family', mem, goes⟩ := family_of_seen lives seen
  have homed := lives.homed family' mem
  rw [goes.columns] at homed
  exact homed

def staleRefusal : Refusal :=
  { error := "stale_authz_version", status := some 403 }

theorem owes_enforceAuthzFreshness {Q : Except Failure Freshness → History authStore → Prop}
    (lives0 : Lives env (First clients) h0) (begun : Onward env (First clients) h0 h)
    (active
      : SeenSince (M := authStore) (First clients) h0.state
          (fun db => family ∈ families db ∧ family.status = .active) h)
    (passes
      : ∀ fresh h', Onward env (First clients) h h'
        → Passed (First clients) h0.state family h' → Q (.ok fresh) h')
    (stale
      : ∀ h', Onward env (First clients) h h'
        → Seen (M := authStore) (First clients) (OutdatedIn family) h'
        → Q (.error (.refused staleRefusal)) h')
    (other
      : ∀ why h', Onward env (First clients) h h' → why.error ≠ "stale_authz_version"
        → Q (.error (.refused why)) h')
    : Obliged env (First clients) t call (enforceAuthzFreshness family) Q h := by
  have since {p : Database → Prop} {h' : History authStore}
      (onward : Onward env (First clients) h h') (holds : p h'.state)
      : SeenSince (M := authStore) (First clients) h0.state p h' :=
    SeenSince.now lives0 onward.lives (begun.le.trans onward.le) holds
  have known {h' : History authStore} (onward : Onward env (First clients) h h')
      : ∃ row ∈ families h'.state, family.Becomes row := by
    obtain ⟨early, log, _, before, _, here, _⟩ := active
    exact family_of_seen onward.lives ⟨log, before.trans onward.le, here⟩
  refine owes_fetch_bind (fun account h1 later1 found => ?_)
    (fun h1 h2 later1 _ later2 => other _ h2 (later1.onward.later later2) (by decide))
  have onward1 := later1.onward
  obtain ⟨mem, accountId⟩ := mem_of_account found
  refine owes_ensure_bind (fun _ => ?_)
    (fun _ h2 later2 => other _ h2 (onward1.later later2) (by decide))
  refine owes_fetch_bind (fun membership h2 later2 joined => ?_)
    (fun h2 h3 later2 apart later3 => ?_)
  · have onward2 := onward1.later later2
    obtain ⟨mem', key, status⟩ := mem_of_activeMembership joined
    refine owes_ensure_bind (fun fresh => ?_) (fun outdated h3 later3 => ?_)
    · have bounds := Nat.max_le.mp fresh
      refine owes_fetch_bind (fun connection h3 later3 connected => ?_)
        (fun h3 h4 later3 _ later4 =>
          other _ h4 ((onward2.later later3).later later4) (by decide))
      have onward3 := onward2.later later3
      obtain ⟨connected, open'⟩ := filter_eq_some_iff.mp connected
      obtain ⟨mem'', connectionId⟩ := mem_of_find connected
      refine Meets.done (fun h4 later4 => passes _ h4 (onward3.later later4) ?_)
      have passed : Passed (First clients) h0.state family h3 :=
        { active := active.later onward3.le
          account :=
            (since onward1 ⟨account, mem, accountId, bounds.1⟩).later
              (later2.le.trans later3.le)
          membership := (since onward2 ⟨membership, mem', key, status, bounds.2⟩).later later3.le
          connection := since onward3 ⟨connection, mem'', connectionId, eq_of_beq open'⟩ }
      exact passed.later (le later4)
    · refine stale h3 (onward2.later later3) ?_
      rcases lt_max_iff.mp (not_le.mp outdated) with newer | newer
      · have outdated : OutdatedIn family h1.state :=
          ⟨known onward1, .inl ⟨account, mem, accountId, newer⟩⟩
        exact (Seen.now onward1.lives outdated).later (later2.le.trans (le later3))
      · have outdated : OutdatedIn family h2.state :=
          ⟨known onward2, .inr ⟨membership, mem', key, .inr newer⟩⟩
        exact (Seen.now onward2.lives outdated).later (le later3)
  · have onward2 := onward1.later later2
    refine stale h3 (onward2.later later3) (Seen.later (Seen.now onward2.lives ?_) (le later3))
    obtain ⟨early, log, _, before, _, here, _⟩ := active
    obtain ⟨membership, mem', key⟩ :=
      onward2.lives.homed_of_seen ⟨log, before.trans onward2.le, here⟩
    refine ⟨known onward2, .inr ?_⟩
    cases found' : Database.membership h2.state family.accountId family.tenantId with
    | none => exact absurd key (find_eq_none.mp found' membership mem')
    | some row =>
      obtain ⟨present', key'⟩ := mem_of_find found'
      refine ⟨row, present', key', .inl (fun status => ?_)⟩
      rw [activeMembership, found'] at apart
      simp [Option.filter, status] at apart

/-- What a rotation that began in `origin` has done when it answers: a token that was no longer
active has cost its family, and a success has marked the token rotated.
-/
structure Rotates (env : Env) (start origin : Database) (t : Nat) (refreshToken : Text)
    (answer : Except Failure Rotated) (h : History authStore)
    : Prop where
  reused
    : ∀ row ∈ origin.refreshTokens,
        row.tokenHash = hashSecret env refreshToken → row.status ≠ .active
        → FamilyRevoked row.tokenFamilyId h.state
  marked
    : ∀ rotated, answer = .ok rotated
        → ∃ issued ∈ h.own t, issued.command = .markRotated (hashSecret env refreshToken)
  passed
    : ∀ rotated, answer = .ok rotated
        → ∃ family, family.tokenFamilyId = rotated.tokenFamilyId ∧ Passed start origin family h

theorem Rotates.of_error {refreshToken : Text} {error : Failure}
    (reused
      : ∀ row ∈ origin.refreshTokens,
          row.tokenHash = hashSecret env refreshToken → row.status ≠ .active
          → FamilyRevoked row.tokenFamilyId h.state)
    : Rotates env start origin t refreshToken (.error error) h where
  reused := reused
  marked := fun _ said => by cases said
  passed := fun _ said => by cases said

/-- What is left of a rotation once its checks have passed. -/
theorem owes_rotation {tokenHash : Text} {row : RefreshTokenRow} {nextGen : Nat}
    {draw : PairDraw} {g : TokenPair → Rotated}
    {Q : Except Failure Rotated → History authStore → Prop} (lives : Lives env start h)
    (mem : row ∈ refreshTokens h.state) (hash : row.tokenHash = tokenHash)
    (same : row.tokenFamilyId = family.tokenFamilyId)
    (known : FamilyKnown family.tokenFamilyId h.state)
    (post
      : ∀ answer h', Onward env start h h'
        → (∃ issued ∈ h'.own t, issued.command = .markRotated tokenHash)
        → Q (Except.map g answer) h')
    : Obliged env start t call
        (do
          let _ ← perform (.markRotated tokenHash)
          let _ ← perform (.setRefreshGeneration family.tokenFamilyId nextGen)
          let tokens ← issueTokenPair env family nextGen draw now
          .done (g tokens)) Q h := by
  have presented {h' : History authStore} (later : Later env start t h h')
      : ∃ row' ∈ refreshTokens h'.state,
          row'.tokenHash = tokenHash ∧ row'.tokenFamilyId = family.tokenFamilyId := by
    obtain ⟨row', here, goes⟩ := refreshToken_later lives later.lives later.le mem
    refine ⟨row', here, ?_, ?_⟩
    · rw [goes.columns]
      exact hash
    · rw [goes.columns]
      exact same
  refine owes_perform_bind (fun h1 later1 => ?_) (fun h1 later1 onward1 => ?_)
  · obtain ⟨row', here, hash', _⟩ := presented later1
    exact ⟨row', here, hash'⟩
  obtain ⟨row', here, hash', same'⟩ := presented later1
  have credit : Credit family.tokenFamilyId ((h1.exec t (.markRotated tokenHash)).own t) := by
    refine later1.lives.credit_of_permits (any_eq_true.mpr ⟨row', here, ?_⟩) rfl
    simp [hash', same']
  refine owes_quiet_bind trivial (fun h2 later2 onward2 => ?_)
  have onward := onward1.trans onward2
  have credit2 : Credit family.tokenFamilyId
      ((h2.exec t (.setRefreshGeneration family.tokenFamilyId nextGen)).own t) :=
    (credit.later later2).exec_of_not_adds rfl
  refine Meets.map (owes_issueTokenPair onward.lives (known.later lives onward) credit2
    (fun answer h3 onward3 =>
      post _ h3 (onward.trans onward3) ⟨⟨t, .markRotated tokenHash, h1.state⟩, ?_, rfl⟩))
  have suffix := own_suffix (onward2.trans onward3).le t
  rw [own_exec_self] at suffix
  exact suffix.subset (.head _)

theorem owes_rotateRefreshToken {refreshToken : Text} {expectedResource : Option Text}
    {draw : PairDraw} (lives0 : Lives env (First clients) h0)
    : Obliged env (First clients) t call
        (rotateRefreshToken env refreshToken expectedResource draw now)
        (Rotates env (First clients) h0.state t refreshToken) h0 := by
  refine owes_fetch_bind (fun row h1 later1 found => ?_) (fun h1 h2 later1 lost later2 => ?_)
  · have onward1 := later1.onward
    obtain ⟨mem, hash⟩ := mem_of_find found
    have reused {old : RefreshTokenRow} (here : old ∈ refreshTokens h0.state)
        (same : old.tokenHash = hashSecret env refreshToken)
        : old.Becomes row := by
      obtain ⟨row', mem', goes⟩ :=
        refreshToken_later lives0 onward1.lives onward1.le here
      have hash' : row'.tokenHash = row.tokenHash := by
        rw [goes.columns, hash]
        exact same
      rwa [← onward1.lives.lawful.refreshTokens.eq_of_key mem' mem hash']
    split
    · refine attempt_bind (owes_revokeTokenFamily onward1.lives
        (fun answer h2 onward2 ended => owes_refuse (fun h3 later3 => ?_)))
      have ended := ended (.inl (onward1.lives.refreshToken_family row mem))
      refine .of_error (fun old here same status => ?_)
      have same' : row.tokenFamilyId = old.tokenFamilyId := by
        rw [(reused here same).columns]
      rw [← same']
      exact ended.later onward2.lives (lives later3) (le later3)
    · rename_i active
      have active : row.status = .active := not_not.mp active
      -- No row of the token had ended before this call, so nothing is owed for it.
      have unreused {h' : History authStore} (old : RefreshTokenRow)
          (here : old ∈ refreshTokens h0.state)
          (same : old.tokenHash = hashSecret env refreshToken) (status : old.status ≠ .active)
          : FamilyRevoked old.tokenFamilyId h'.state :=
        absurd active ((reused here same).ended status)
      refine owes_ensure_bind (fun _ => ?_) (fun _ _ _ => .of_error unreused)
      refine owes_fetch_bind (fun family h2 later2 picked => ?_)
        (fun _ _ _ _ _ => .of_error unreused)
      have onward2 := later2.onward
      have begun2 := onward1.trans onward2
      obtain ⟨picked, status⟩ := filter_eq_some_iff.mp picked
      obtain ⟨mem', id⟩ := mem_of_find picked
      refine owes_ensure_bind (fun _ => ?_) (fun _ _ _ => .of_error unreused)
      refine bind (owes_enforceAuthzFreshness lives0 begun2
        (SeenSince.now lives0 onward2.lives begun2.le ⟨mem', eq_of_beq status⟩)
        (fun fresh h3 onward3 passed => ?_) (fun _ _ _ => .of_error unreused)
        (fun _ _ _ _ => .of_error unreused))
      obtain ⟨row', here, goes⟩ := refreshToken_later onward1.lives
        onward3.lives (onward2.trans onward3).le mem
      refine owes_rotation onward3.lives here (by rw [goes.columns]; exact hash)
        (by rw [goes.columns]; exact id.symm)
        (FamilyKnown.later ⟨family, mem', rfl⟩ onward2.lives onward3)
        (fun answer h4 onward4 marked => ⟨unreused, fun _ _ => marked, ?_⟩)
      rintro rotated said
      cases answer with
      | error error => cases said
      | ok tokens =>
        cases said
        exact ⟨family, rfl, passed.later onward4.le⟩
  · refine .of_error (fun old here same _ => ?_)
    obtain ⟨row', mem', goes⟩ :=
      refreshToken_later lives0 later1.lives later1.le here
    refine absurd ?_ (find_eq_none.mp lost row' mem')
    rw [goes.columns]
    exact same

def Presented (env : Env) (start : Database) (accessToken : Text) (family : TokenFamilyRow)
    (h : History authStore)
    : Prop :=
  ∃ row : AccessTokenRow, row.tokenHash = hashSecret env (trim accessToken)
    ∧ row.tokenFamilyId = family.tokenFamilyId
    ∧ Seen (M := authStore) start (fun db => row ∈ Database.accessTokens db) h
    ∧ Seen (M := authStore) start (fun db => family ∈ Database.families db) h

theorem Presented.later (presented : Presented env start accessToken family h)
    (le : h.log <:+ h'.log)
    : Presented env start accessToken family h' := by
  obtain ⟨row, hash, same, seen, seen'⟩ := presented
  exact ⟨row, hash, same, seen.later le, seen'.later le⟩

theorem Presented.row {family' : TokenFamilyRow}
    (presented : Presented env (First clients) accessToken family h)
    (presented' : Presented env (First clients) accessToken family' h)
    (lives : Lives env (First clients) h)
    : ∃ row ∈ families h.state, family.Becomes row ∧ family'.Becomes row := by
  obtain ⟨token, hash, same, ⟨log, le, mem⟩, seen⟩ := presented
  obtain ⟨token', hash', same', ⟨log', le', mem'⟩, seen'⟩ := presented'
  obtain ⟨last, lastMember, goes⟩ :=
    accessToken_later (lives.earlier le) lives le mem
  obtain ⟨last', lastMember', continues'⟩ :=
    accessToken_later (lives.earlier le') lives le' mem'
  have one : last = last' := by
    refine lives.lawful.accessTokens.eq_of_key lastMember lastMember' ?_
    rw [goes.columns, continues'.columns]
    exact hash.trans hash'.symm
  have tokens : token.tokenFamilyId = token'.tokenFamilyId := by
    have before : last.tokenFamilyId = token.tokenFamilyId := by rw [goes.columns]
    have after : last'.tokenFamilyId = token'.tokenFamilyId := by rw [continues'.columns]
    rw [← before, ← after, one]
  obtain ⟨row, here, becomes⟩ := family_of_seen lives seen
  obtain ⟨row', present', becomes'⟩ := family_of_seen lives seen'
  have rows : row = row' := by
    refine lives.lawful.families.eq_of_key here present' ?_
    rw [becomes.columns, becomes'.columns]
    show family.tokenFamilyId = family'.tokenFamilyId
    rw [← same, ← same', tokens]
  exact ⟨row, here, becomes, rows ▸ becomes'⟩

/-- What a validation that began in `origin` has seen when it answers. -/
structure Validates (env : Env) (start origin : Database) (accessToken : Text)
    (answer : Except Failure Validated) (h : History authStore)
    : Prop where
  stale
    : ∀ refusal, answer = .error (.refused refusal) → refusal.error = "stale_authz_version"
        → ∃ family, Presented env start accessToken family h
          ∧ Seen (M := authStore) start (OutdatedIn family) h
  accepted
    : ∀ validated, answer = .ok validated
        → ∃ family, Presented env start accessToken family h
          ∧ family.tokenFamilyId = validated.context.tokenFamilyId
          ∧ Passed start origin family h

theorem Validates.of_refusal {why : Refusal}
    (other : why.error ≠ "stale_authz_version")
    : Validates env start origin accessToken (.error (.refused why)) h where
  stale := fun _ said stale => by
    cases said
    exact absurd stale other
  accepted := fun _ said => by cases said

theorem owes_validateAccessToken {args : ValidateArgs}
    (lives0 : Lives env (First clients) h0)
    : Obliged env (First clients) t call (validateAccessToken env args now)
        (Validates env (First clients) h0.state args.accessToken) h0 := by
  have stop {reason : Option String} (h' : History authStore)
      : Validates env (First clients) h0.state args.accessToken
          (.error (.refused { error := "invalid_token", status := some 401, reason })) h' := by
    have other : "invalid_token" ≠ "stale_authz_version" := by decide
    exact .of_refusal other
  refine owes_ensure_bind (fun _ => ?_) (fun _ h' _ => stop h')
  refine owes_ensure_bind (fun _ => ?_) (fun _ _ _ => .of_refusal (by decide))
  refine owes_fetch_bind (fun row h1 later1 found => ?_) (fun _ h' _ _ _ => stop h')
  have onward1 := later1.onward
  obtain ⟨mem, hash⟩ := mem_of_find found
  refine owes_ensure_bind (fun _ => ?_) (fun _ h' _ => stop h')
  refine owes_ensure_bind (fun _ => ?_) (fun _ h' _ => stop h')
  refine owes_ensure_bind (fun _ => ?_) (fun _ h' _ => stop h')
  refine owes_ensure_bind (fun _ => ?_) (fun _ h' _ => stop h')
  refine owes_fetch_bind (fun family h2 later2 picked => ?_) (fun _ h' _ _ _ => stop h')
  have onward2 := onward1.later later2
  obtain ⟨picked, status⟩ := filter_eq_some_iff.mp picked
  obtain ⟨mem', id⟩ := mem_of_find picked
  have presented : Presented env (First clients) args.accessToken family h2 :=
    ⟨row, hash, id.symm, (Seen.now onward1.lives mem).later later2.le,
      Seen.now onward2.lives mem'⟩
  refine owes_ensure_bind (fun _ => ?_) (fun _ h' _ => stop h')
  refine bind (owes_enforceAuthzFreshness lives0 onward2
    (SeenSince.now lives0 onward2.lives onward2.le ⟨mem', eq_of_beq status⟩)
    (fun fresh h3 onward3 passed => ?_) (fun h3 onward3 outdated => ?_)
    (fun _ _ _ other => .of_refusal other))
  · refine owes_select_bind (fun h4 later4 => .done (fun h5 later5 => ?_))
    have onward := (Onward.later onward3 later4).later later5
    refine ⟨fun _ said => (by cases said), fun validated said => ?_⟩
    cases said
    exact ⟨family, presented.later onward.le, rfl,
      passed.later (later4.le.trans (le later5))⟩
  · refine ⟨fun _ _ _ => ⟨family, presented.later onward3.le, outdated⟩,
      fun _ said => by cases said⟩

def Bumps (start origin : Database) (t : Nat) (accountId : Text) (answer : Except Failure Nat)
    (h : History authStore)
    : Prop :=
  ∀ next, answer = .ok next
    → ∃ version,
        SeenSince (M := authStore) start origin
          (fun db => ∃ account ∈ Database.accounts db,
            account.accountId = accountId ∧ account.authzVersion = version) h
        ∧ ∃ issued ∈ h.own t, issued.command = .setAccountVersion accountId (version + 1)
          ∧ ∃ account ∈ Database.accounts issued.before, account.accountId = accountId

theorem owes_bumpAuthzVersion {accountId : Text} {tenantId : Option Text}
    (lives0 : Lives env start h0) (account : truthy tenantId = none)
    : Obliged env start t call (bumpAuthzVersion accountId tenantId)
        (Bumps start h0.state t accountId) h0 := by
  unfold bumpAuthzVersion
  rw [account]
  refine owes_fetch_bind (fun account h1 later1 found => ?_)
    (fun _ _ _ _ _ _ said => by cases said)
  obtain ⟨mem, same⟩ := mem_of_account found
  refine owes_quiet_bind trivial (fun h2 later2 onward2 => ?_)
  refine Meets.done (fun h3 later3 _ _ => ?_)
  have seen := SeenSince.now (p := fun db : Database => ∃ row ∈ accounts db,
    row.accountId = accountId ∧ row.authzVersion = account.authzVersion)
    lives0 later1.lives later1.le ⟨account, mem, same, rfl⟩
  refine ⟨account.authzVersion, seen.later (onward2.le.trans (le later3)), ?_⟩
  obtain ⟨account', mem', goes⟩ :=
    account_later later1.lives later2.lives later2.le mem
  refine ⟨⟨t, .setAccountVersion accountId (account.authzVersion + 1), h2.state⟩, ?_, rfl,
    account', mem', ?_⟩
  · rw [Protocol.Interference.own later3, own_exec_self]
    exact .head _
  · rw [goes.columns]
    exact same

theorem quiet_bumpAuthzVersion (accountId : Text) (tenantId : Option Text)
    : Quiet (bumpAuthzVersion accountId tenantId) := by
  unfold bumpAuthzVersion
  cases truthy tenantId with
  | some tenantId =>
    exact quiet_fetch_bind (fun _ => quiet_perform_bind trivial (fun _ => trivial))
  | none => exact quiet_fetch_bind (fun _ => quiet_perform_bind trivial (fun _ => trivial))

theorem quiet_joinTenant (accountId tenantId : Text) : Quiet (joinTenant accountId tenantId) := by
  have tenant : Quiet (ensureTenant tenantId) := by
    refine quiet_select_bind (fun known => ?_)
    split
    · trivial
    · exact quiet_insert trivial
  exact quiet_fetch_bind (fun _ => tenant.bind (fun _ => quiet_perform_bind trivial (fun _ => trivial)))

theorem quiet_bindConnectionTenant (connectionId tenantId : Text)
    : Quiet (bindConnectionTenant connectionId tenantId) :=
  quiet_fetch_bind (fun _ =>
    quiet_fetch_bind (fun _ => quiet_perform_bind trivial (fun _ => trivial)))

theorem quiet_replaceAuthenticator (args : ReplaceArgs) (draw : ReplaceDraw)
    : Quiet (replaceAuthenticator args draw) := by
  have wallet (previous : AuthenticatorRow)
      : Quiet (replacementWallet previous args.method draw.walletAccountId) := by
    unfold replacementWallet
    split
    · trivial
    · exact quiet_provisionWallet _ _
  refine quiet_ensure_bind (quiet_ensure_bind (quiet_fetch_bind (fun _ => quiet_fetch_bind (fun previous => ?_))))
  refine quiet_perform_bind trivial (fun _ => (wallet previous).bind (fun _ => ?_))
  exact quiet_insert_bind trivial trivial

end CairnStone.CoreAuth
