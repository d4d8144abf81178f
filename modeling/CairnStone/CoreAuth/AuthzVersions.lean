import CairnStone.CoreAuth.Revocation

/-! Permanence of authorization versions. A bump reads a version and writes its successor blindly,
and a rejoin makes an old membership active again under its old version; where neither sets
anything back, a version never decreases and a token that was once outdated stays so.
-/

namespace CairnStone.CoreAuth

open JavaScript Data Concurrency List Database Config Option Sample Nat

/-- A version is not written over a greater one, and a membership that is made active again is
newer than every family of its account and tenant.
-/
def VersionsAdvance (_ : Nat) (cmd : Command) (h : History authStore) : Prop :=
  match cmd with
  | .setAccountVersion accountId authzVersion =>
    ∀ account ∈ Database.accounts h.state,
      account.accountId = accountId → account.authzVersion ≤ authzVersion
  | .revokeMembership accountId tenantId authzVersion =>
    ∀ membership ∈ Database.memberships h.state,
      membership.key = (accountId, tenantId) → membership.authzVersion ≤ authzVersion
  | .upsertMembership accountId tenantId =>
    ∀ membership ∈ Database.memberships h.state,
      membership.key = (accountId, tenantId) → membership.status = .revoked
      → ∀ family ∈ Database.families h.state,
          family.accountId = accountId → family.tenantId = tenantId
          → family.authzVersion < membership.authzVersion
  | _ => True

instance decidableVersionsAdvance (t : Nat) (cmd : Command) (h : History authStore)
    : Decidable (VersionsAdvance t cmd h) := by
  unfold VersionsAdvance
  split <;> infer_instance

instance decidableRespectsVersionsAdvance (h : History authStore)
    : Decidable (h.Respects VersionsAdvance) :=
  @History.decidableRespects authStore VersionsAdvance decidableVersionsAdvance h

/-- Versions only grow, a bump of an account outdates every family minted before it began, and a
token that was rejected as outdated is not accepted by any call that starts later.
-/
structure InvalidationIsPermanent (env : Env) (clients : List ClientRow)
    (before after : List (Action authStore Call))
    : Prop where
  accounts
    : ∀ row ∈ Database.accounts (authRun env clients before).state,
      ∀ row' ∈ Database.accounts (authRun env clients (before ++ after)).state,
        row'.accountId = row.accountId → row.authzVersion ≤ row'.authzVersion
  memberships
    : ∀ row ∈ Database.memberships (authRun env clients before).state,
      ∀ row' ∈ Database.memberships (authRun env clients (before ++ after)).state,
        row'.key = row.key → row.authzVersion ≤ row'.authzVersion
  bumped
    : ∀ (thread : Nat) entry accountId tenantId next,
        (authRun env clients (before ++ after)).threads[thread]? = some entry
        → entry.call = .bumpAuthzVersion accountId tenantId → truthy tenantId = none
        → entry.answer = some (.ok (.count next))
        → ∀ family ∈ Database.families entry.start, family.accountId = accountId
        → ∃ account ∈ Database.accounts (authRun env clients (before ++ after)).state,
            account.accountId = accountId ∧ family.authzVersion < account.authzVersion
  rejected
    : ∀ thread args now refusal,
        (authRun env clients before).call thread = some (.validateAccessToken args now)
        → (authRun env clients before).answer thread = some (.error (.refused refusal))
        → refusal.error = "stale_authz_version"
        → ∀ thread' args' now' validated,
            (authRun env clients before).threads.length ≤ thread'
            → (authRun env clients (before ++ after)).call thread'
              = some (.validateAccessToken args' now')
            → args'.accessToken = args.accessToken
            → (authRun env clients (before ++ after)).answer thread'
              ≠ some (.ok (.validated validated))

structure AccountRow.Advances (a b : AccountRow) : Prop where
  accountId : b.accountId = a.accountId
  authzVersion : a.authzVersion ≤ b.authzVersion

structure MembershipRow.Advances (a b : MembershipRow) : Prop where
  key : b.key = a.key
  authzVersion : a.authzVersion ≤ b.authzVersion

def MembershipRow.Bars (membership : MembershipRow) (authzVersion : Nat) : Prop :=
  membership.status ≠ .active ∨ authzVersion < membership.authzVersion

structure TokenFamilyRow.Alike (a b : TokenFamilyRow) : Prop where
  accountId : a.accountId = b.accountId
  tenantId : a.tenantId = b.tenantId
  authzVersion : a.authzVersion = b.authzVersion

variable {a b : TokenFamilyRow}

theorem TokenFamilyRow.Becomes.alike (becomes : a.Becomes b)
    : a.Alike b := by
  rw [becomes.columns]
  exact ⟨rfl, rfl, rfl⟩

theorem TokenFamilyRow.Alike.symm (alike : a.Alike b) : b.Alike a :=
  ⟨alike.accountId.symm, alike.tenantId.symm, alike.authzVersion.symm⟩

theorem TokenFamilyRow.Alike.trans {c : TokenFamilyRow} (first : a.Alike b)
    (second : b.Alike c)
    : a.Alike c :=
  ⟨first.accountId.trans second.accountId, first.tenantId.trans second.tenantId,
    first.authzVersion.trans second.authzVersion⟩

theorem Outdated.alike {db : Database} (outdated : Outdated a db) (alike : a.Alike b)
    : Outdated b db := by
  unfold Outdated at outdated ⊢
  rwa [← alike.accountId, ← alike.tenantId, ← alike.authzVersion]

section

variable {t : Nat} {cmd : Command} {h : History authStore}

theorem accounts_advance (advance : VersionsAdvance t cmd h)
    : Continues AccountRow.Advances (accounts h.state)
        (exec cmd h.state).2.accounts := by
  have reflexive (row : AccountRow) : row.Advances row := ⟨rfl, le_refl _⟩
  cases cmd with
  | insert row =>
    refine .of_extended reflexive (prefix_insert _ (fun row => ?_) row)
    cases row <;> first | exact prefix_refl _ | exact prefix_append _ _
  | setAccountVersion accountId authzVersion =>
    intro row mem
    by_cases same : row.accountId = accountId
    · refine ⟨{ row with authzVersion }, ?_, rfl, advance row mem same⟩
      exact mem_updateWhere.mpr ⟨row, mem, by simp [same]⟩
    · exact ⟨row, mem_updateWhere.mpr ⟨row, mem, by simp [same]⟩, reflexive row⟩
  | _ => exact .refl reflexive

theorem memberships_advance (advance : VersionsAdvance t cmd h)
    : Continues MembershipRow.Advances (memberships h.state)
        (exec cmd h.state).2.memberships := by
  have reflexive (row : MembershipRow) : row.Advances row := ⟨rfl, le_refl _⟩
  cases cmd with
  | insert row =>
    refine .of_extended reflexive (prefix_insert _ (fun row => ?_) row)
    cases row <;> first | exact prefix_refl _ | exact prefix_append _ _
  | upsertMembership accountId tenantId =>
    simp only [exec, upsertMembership]
    split
    · exact .of_extended reflexive (prefix_append _ _)
    · exact .updateWhere reflexive (fun _ _ => ⟨rfl, le_refl _⟩)
  | revokeMembership accountId tenantId authzVersion =>
    intro row mem
    by_cases same : row.key = (accountId, tenantId)
    · refine ⟨{ row with status := .revoked, authzVersion }, ?_, rfl, advance row mem same⟩
      exact mem_updateWhere.mpr ⟨row, mem, by simp [same]⟩
    · exact ⟨row, mem_updateWhere.mpr ⟨row, mem, by simp [same]⟩, reflexive row⟩
  | _ => exact .refl reflexive

/-- A membership that bars a family goes on barring it. Witness: a membership that is made active
again is newer than the family.
-/
theorem bars_exec (advance : VersionsAdvance t cmd h) {family : TokenFamilyRow}
    (known : ∃ row ∈ families h.state, row.Alike family)
    (bars
      : ∃ membership ∈ memberships h.state,
          membership.key = (family.accountId, family.tenantId)
          ∧ membership.Bars family.authzVersion)
    : ∃ membership ∈ (exec cmd h.state).2.memberships,
        membership.key = (family.accountId, family.tenantId)
        ∧ membership.Bars family.authzVersion := by
  obtain ⟨membership, mem, key, bars⟩ := bars
  have stays {rows : List MembershipRow} (le : memberships h.state <+: rows)
      : ∃ membership ∈ rows, membership.key = (family.accountId, family.tenantId)
        ∧ membership.Bars family.authzVersion :=
    ⟨membership, le.subset mem, key, bars⟩
  cases cmd with
  | insert row =>
    refine stays (prefix_insert _ (fun row => ?_) row)
    cases row <;> first | exact prefix_refl _ | exact prefix_append _ _
  | upsertMembership accountId tenantId =>
    simp only [exec, upsertMembership]
    split
    · exact stays (prefix_append _ _)
    · by_cases same : membership.key = (accountId, tenantId)
      · refine ⟨{ membership with status := .active }, ?_, key, .inr ?_⟩
        · exact mem_updateWhere.mpr ⟨membership, mem, by simp [same]⟩
        · obtain ⟨row, here, alike⟩ := known
          obtain ⟨rfl, rfl⟩ := Prod.mk.inj (same.symm.trans key)
          rcases bars with revoked | newer
          · have status : membership.status = .revoked := by
              cases status : membership.status with
              | active => exact absurd status revoked
              | revoked => rfl
            rw [← alike.authzVersion]
            exact advance membership mem same status row here alike.accountId
              alike.tenantId
          · exact newer
      · exact ⟨membership, mem_updateWhere.mpr ⟨membership, mem, by simp [same]⟩, key, bars⟩
  | revokeMembership accountId tenantId authzVersion =>
    by_cases same : membership.key = (accountId, tenantId)
    · refine ⟨{ membership with status := .revoked, authzVersion }, ?_, key, .inl ?_⟩
      · exact mem_updateWhere.mpr ⟨membership, mem, by simp [same]⟩
      · exact fun same => by cases same
    · exact ⟨membership, mem_updateWhere.mpr ⟨membership, mem, by simp [same]⟩, key, bars⟩
  | _ => exact stays (prefix_refl _)

end

section

variable {env : Env} {clients : List ClientRow} {h h' : History authStore}
  (lives : Lives env (First clients) h) (lives' : Lives env (First clients) h')
  (le : h.log <:+ h'.log) (respects : h'.Respects VersionsAdvance)

include lives lives' le respects

theorem account_advances {row : AccountRow} (mem : row ∈ accounts h.state)
    : ∃ row' ∈ accounts h'.state, row.Advances row' := by
  refine Kept.grow (J := fun g => ∃ row' ∈ accounts g.state, row.Advances row')
    lives lives' le respects ⟨row, mem, rfl, le_refl _⟩ ?_
  intro g t cmd _ _ _ advance known
  obtain ⟨row', here, soFar⟩ := known
  obtain ⟨row'', present', next⟩ := accounts_advance advance row' here
  exact ⟨row'', present', next.accountId.trans soFar.accountId,
    soFar.authzVersion.trans next.authzVersion⟩

theorem membership_advances {row : MembershipRow}
    (mem : row ∈ memberships h.state)
    : ∃ row' ∈ memberships h'.state, row.Advances row' := by
  refine Kept.grow (J := fun g => ∃ row' ∈ memberships g.state, row.Advances row')
    lives lives' le respects ⟨row, mem, rfl, le_refl _⟩ ?_
  intro g t cmd _ _ _ advance known
  obtain ⟨row', here, soFar⟩ := known
  obtain ⟨row'', present', next⟩ := memberships_advance advance row' here
  exact ⟨row'', present', next.key.trans soFar.key, soFar.authzVersion.trans next.authzVersion⟩

theorem newer_later {accountId : Text} {authzVersion : Nat}
    (newer
      : ∃ account ∈ accounts h.state,
          account.accountId = accountId ∧ authzVersion < account.authzVersion)
    : ∃ account ∈ accounts h'.state,
        account.accountId = accountId ∧ authzVersion < account.authzVersion := by
  obtain ⟨account, mem, id, newer⟩ := newer
  obtain ⟨account', mem', advances⟩ := account_advances lives lives' le respects mem
  exact ⟨account', mem', advances.accountId.trans id,
    lt_of_lt_of_le newer advances.authzVersion⟩

theorem bars_later {family : TokenFamilyRow}
    (known : ∃ row ∈ families h.state, row.Alike family)
    (barred
      : ∃ membership ∈ memberships h.state,
          membership.key = (family.accountId, family.tenantId)
          ∧ membership.Bars family.authzVersion)
    : ∃ membership ∈ memberships h'.state,
        membership.key = (family.accountId, family.tenantId)
        ∧ membership.Bars family.authzVersion := by
  have kept := Kept.grow
    (J := fun g => (∃ row ∈ families g.state, row.Alike family)
      ∧ ∃ membership ∈ memberships g.state,
          membership.key = (family.accountId, family.tenantId)
          ∧ membership.Bars family.authzVersion)
    lives lives' le respects ⟨known, barred⟩ ?_
  · exact kept.2
  · intro g t cmd _ _ _ advance holds
    refine ⟨?_, bars_exec advance holds.1 holds.2⟩
    obtain ⟨row, here, alike⟩ := holds.1
    obtain ⟨row', present', next⟩ := families_exec cmd g.state row here
    exact ⟨row', present', next.alike.symm.trans alike⟩

theorem Outdated.later {family : TokenFamilyRow}
    (known : ∃ row ∈ families h.state, row.Alike family)
    (outdated : Outdated family h.state)
    : Outdated family h'.state :=
  outdated.imp (newer_later lives lives' le respects) (bars_later lives lives' le respects known)

end

variable {env : Env} {clients : List ClientRow} {h h' : History authStore}

/-- A family that has passed since some instant was not outdated at that instant.
Witness: what outdated it then would still do so when the family's account, or its membership, was
looked at.
-/
theorem Passed.not_outdated {g : History authStore} {family : TokenFamilyRow}
    (passed : Passed (First clients) g.state family h) (lives : Lives env (First clients) h)
    (respects : h.Respects VersionsAdvance)
    (known : ∃ row ∈ families g.state, row.Alike family)
    : ¬ Outdated family g.state := by
  rintro (newer | barred)
  · obtain ⟨early, log, le, le', same, account, mem, id, bound⟩ := passed.account
    obtain ⟨account', mem', id', newer⟩ :=
      newer_later (h := ⟨_, early⟩) (lives.instant (le.trans le'))
        (lives.instant le') le (respects.earlier (h := ⟨_, log⟩) le') (same ▸ newer)
    obtain rfl :=
      (lives.instant le').lawful.accounts.eq_of_key mem mem' (id.trans id'.symm)
    omega
  · obtain ⟨early, log, le, le', same, membership, mem, key, status, bound⟩ := passed.membership
    obtain ⟨membership', mem', key', bars⟩ :=
      bars_later (h := ⟨_, early⟩) (lives.instant (le.trans le'))
        (lives.instant le') le (respects.earlier (h := ⟨_, log⟩) le') (same ▸ known)
        (same ▸ barred)
    obtain rfl :=
      (lives.instant le').lawful.memberships.eq_of_key mem mem' (key.trans key'.symm)
    rcases bars with ended | newer
    · exact ended status
    · omega

/-- A bump of an account outdates the families that were there when it began.
Witness: the version that it read was no smaller than theirs, and it wrote the next one.
-/
theorem newer_of_bumps {t : Nat} {origin : Database} {accountId : Text} {next : Nat}
    (lives : Lives env (First clients) h) (respects : h.Respects VersionsAdvance)
    (bumps : Bumps (First clients) origin t accountId (.ok next) h) {family : TokenFamilyRow}
    (mem : family ∈ origin.families) (same : family.accountId = accountId)
    : ∃ account ∈ accounts h.state,
        account.accountId = accountId ∧ family.authzVersion < account.authzVersion := by
  obtain ⟨version, ⟨early, log, le, le', rfl, row, here, id, rfl⟩, issued, own, cmd,
    account, there, id'⟩ := bumps next rfl
  have lives1 := lives.instant (le.trans le')
  -- The family's version was the account's version at some instant before the call.
  obtain ⟨first, le0, stamp, stamped, id0, sameVersion⟩ := lives1.stamped family mem
  obtain ⟨row', present', advances⟩ :=
    account_advances (h := ⟨_, first⟩) (lives.instant (le0.trans (le.trans le')))
      (lives.instant le') (le0.trans le) (respects.earlier (h := ⟨_, log⟩) le') stamped
  obtain rfl : row' = row := by
    refine (lives.instant le').lawful.accounts.eq_of_key present' here ?_
    rw [advances.accountId, id0, same, id]
  have read : family.authzVersion ≤ row'.authzVersion := by
    rw [← sameVersion]
    exact advances.authzVersion
  -- From the statement on, the account has at least the version that it wrote.
  obtain ⟨prior, issuedLe, _, _⟩ := Kept.at_issued lives (History.mem_own.mp own).1
  have put
      : { account with authzVersion := row'.authzVersion + 1 }
        ∈ accounts (exec issued.command issued.before).2 := by
    rw [cmd]
    exact mem_updateWhere.mpr ⟨account, there, by simp [id']⟩
  obtain ⟨last, lastMember, advances'⟩ :=
    account_advances (h := ⟨_, issued :: prior⟩) (lives.instant issuedLe) lives issuedLe respects
      put
  have bound : row'.authzVersion + 1 ≤ last.authzVersion := advances'.authzVersion
  exact ⟨last, lastMember, advances'.accountId.trans id', by omega⟩

theorem rejected_stays {before after : List (Action authStore Call)}
    (respects : (authRun env clients (before ++ after)).history.Respects VersionsAdvance)
    {thread : Nat} {args : ValidateArgs} {now : Int} {why : Refusal}
    (asked : (authRun env clients before).call thread = some (.validateAccessToken args now))
    (said : (authRun env clients before).answer thread = some (.error (.refused why)))
    (stale : why.error = "stale_authz_version") {thread' : Nat} {args' : ValidateArgs}
    {now' : Int} {validated : Validated}
    (later : (authRun env clients before).threads.length ≤ thread')
    (asked' : (authRun env clients (before ++ after)).call thread'
      = some (.validateAccessToken args' now'))
    (same : args'.accessToken = args.accessToken)
    (answered' : (authRun env clients (before ++ after)).answer thread'
      = some (.ok (.validated validated)))
    : False := by
  have lives1 := lives_authRun env clients before
  have lives2 := lives_authRun env clients (before ++ after)
  obtain ⟨entry, found, asked, said⟩ := entry_of_answer asked said
  have settles := settles_authRun found said
  rw [asked] at settles
  obtain ⟨result, converted, validates⟩ := settles
  obtain rfl : result = .error (.refused why) := by
    cases result with
    | ok value => cases converted
    | error error => rw [Except.error.inj converted]
  obtain ⟨family, presented, log, le, known, outdated⟩ := validates.stale why rfl stale
  obtain ⟨entry', found', asked', answered'⟩ := entry_of_answer asked' answered'
  have settles' := settles_authRun found' answered'
  rw [asked'] at settles'
  obtain ⟨result, converted, validates'⟩ := settles'
  obtain ⟨value, rfl⟩ : ∃ value, result = .ok value := by
    cases result with
    | ok value => exact ⟨value, rfl⟩
    | error error => cases converted
  obtain ⟨family', presented', _, passed⟩ := validates'.accepted value rfl
  obtain ⟨g, lives, start, le', le''⟩ := start_of_later found' later
  -- Both calls have seen one family.
  obtain ⟨row, _, becomes, becomes'⟩ :=
    (presented.later log_before).row (same ▸ presented') lives2
  have alike : family.Alike family' := becomes.alike.trans becomes'.alike.symm
  obtain ⟨known, mem, goes⟩ := known
  obtain ⟨known', mem', continues'⟩ :=
    Lives.family_later (lives1.instant le) lives (le.trans le') mem
  have outdated : Outdated family g.state :=
    Outdated.later (lives1.instant le) lives (le.trans le') (respects.earlier le'')
      ⟨known, mem, goes.alike.symm⟩ outdated
  rw [← start] at passed
  exact passed.not_outdated lives2 respects
    ⟨known', mem', (goes.trans continues').alike.symm.trans alike⟩ (outdated.alike alike)

/-- Where versions advance, invalidation is permanent. -/
theorem invalidationIsPermanent (env : Env) (clients : List ClientRow)
    (before after : List (Action authStore Call))
    (respects : (authRun env clients (before ++ after)).history.Respects VersionsAdvance)
    : InvalidationIsPermanent env clients before after := by
  have lives1 := lives_authRun env clients before
  have lives2 := lives_authRun env clients (before ++ after)
  constructor
  case accounts =>
    intro row member row' member' same
    obtain ⟨last, present, advances⟩ := account_advances lives1 lives2 log_before respects member
    cases lives2.lawful.accounts.eq_of_key present member' (advances.accountId.trans same.symm)
    exact advances.authzVersion
  case memberships =>
    intro row member row' member' same
    obtain ⟨last, present, advances⟩ := membership_advances lives1 lives2 log_before respects member
    cases lives2.lawful.memberships.eq_of_key present member' (advances.key.trans same.symm)
    exact advances.authzVersion
  case bumped =>
    intro thread entry accountId tenantId next found asked account answered family member same
    have settles := settles_authRun found answered
    rw [asked] at settles
    obtain ⟨result, converted, bumps⟩ := settles account
    cases result with
    | error error => cases converted
    | ok value => exact newer_of_bumps lives2 respects bumps member same
  case rejected =>
    intro thread args now refusal asked answered stale thread' args' now' validated later asked' same
      answered'
    exact rejected_stays respects asked answered stale later asked' same answered'

namespace Sample

def bumpAccount : Call :=
  .bumpAuthzVersion (mintId .account [0]) none

/-- The account is bumped, a connection is minted, its membership is revoked by a bump, and the
token is rejected.
-/
def rejection : List (Action authStore Call) :=
  .spawn (bootstrap 0) :: steps 20 0 ++ .spawn bumpAccount :: steps 2 1 ++ .spawn (mint 1)
    :: steps 20 2
    ++ .spawn (.bumpAuthzVersion (mintId .account [0]) (some (mintId .tenant [0]))) :: steps 2 3
    ++ .spawn (validate 1) :: steps 20 4

/-- The account joins its tenant again, and the token is presented again. -/
def rejoin : List (Action authStore Call) :=
  .spawn (.joinTenant (mintId .account [0]) (mintId .tenant [0])) :: steps 5 5
    ++ .spawn (validate 1) :: steps 20 6

/-- A bump has read version 1 when two others have written 2 and 3. -/
def bumps : List (Action authStore Call) :=
  .spawn (bootstrap 0) :: steps 20 0 ++ .spawn bumpAccount :: steps 1 1 ++ .spawn bumpAccount
    :: steps 2 2 ++ .spawn bumpAccount :: steps 2 3

end Sample

/-- A bump that outdates a token, which is then rejected twice. -/
theorem invalidationIsPermanent_sample
    : InvalidationIsPermanent Sample.env []
        (.spawn (Sample.bootstrap 0) :: Sample.steps 20 0 ++ .spawn Sample.bumpAccount
          :: Sample.steps 2 1 ++ .spawn (Sample.validate 0) :: Sample.steps 20 2)
        (.spawn Sample.bumpAccount :: Sample.steps 2 3 ++ .spawn (Sample.validate 0)
          :: Sample.steps 20 4) :=
  invalidationIsPermanent _ _ _ _ (by decide +kernel)

/-- A token that was rejected is accepted after its account has joined the tenant again; and a bump
that was overtaken by two others sets the version of its account back.
-/
theorem invalidationIsUndone
    : ¬ InvalidationIsPermanent Sample.env [] Sample.rejection Sample.rejoin
      ∧ ¬ InvalidationIsPermanent Sample.env [] Sample.bumps (Sample.steps 1 1) := by
  constructor
  · intro permanent
    have rejected
        : (authRun env [] rejection).answer 4
          = some (.error (.refused staleRefusal)) := by
      decide +kernel
    have accepted
        : Uses (authRun env [] (rejection ++ rejoin)) 6
            (mintId .tokenFamily [1]) :=
      uses_of_accepted ((call_run _ _ _ _).trans rfl) (by decide +kernel)
    rcases accepted with ⟨args, now, validated, asked, answered, _⟩ | ⟨_, _, _, _, _, asked, _⟩
    · obtain ⟨rfl, rfl⟩ : args = _ ∧ now = 0 :=
        Call.validateAccessToken.inj
          (some.inj (asked.symm.trans ((call_run _ _ _ _).trans rfl)))
      exact permanent.rejected 4 _ 0 _ ((call_run _ _ _ _).trans rfl) rejected rfl 6 _ 0
        validated (by decide +kernel) asked rfl answered
    · cases asked.symm.trans ((call_run _ _ _ _).trans rfl)
  · intro permanent
    have three
        : ∃ row ∈ accounts (authRun env [] bumps).state,
            row.accountId = mintId .account [0] ∧ row.authzVersion = 3 := by
      decide +kernel
    have two
        : ∃ row ∈ accounts (authRun env [] (bumps ++ steps 1 1)).state,
            row.accountId = mintId .account [0] ∧ row.authzVersion = 2 := by
      decide +kernel
    obtain ⟨row, member, id, version⟩ := three
    obtain ⟨row', member', id', version'⟩ := two
    have grown := permanent.accounts row member row' member' (id'.trans id.symm)
    omega

-- The tenant of a validated token: the versions are checked for the family's, the context names the
-- connection's

/-- A connection is only bound to the tenant that it has. -/
def TenantsStay (_ : Nat) (cmd : Command) (h : History authStore) : Prop :=
  match cmd with
  | .setConnectionTenant connectionId tenantId =>
    ∀ connection ∈ connections h.state,
      connection.connectionId = connectionId → connection.tenantId = tenantId
  | _ => True

instance decidableRespectsTenantsStay (h : History authStore) : Decidable (h.Respects TenantsStay) :=
  @History.decidableRespects authStore TenantsStay
    (fun t cmd h => by unfold TenantsStay; split <;> infer_instance) h

def IsMember (db : Database) (accountId tenantId : Text) : Prop :=
  ∃ membership ∈ db.memberships,
    membership.key = (accountId, tenantId) ∧ membership.status = .active

/-- Every accepted token names a tenant of which its account is a member, and the tenant that its
family was minted for.
-/
def TenantsAreCurrent (env : Env) (db : Database) : Prop :=
  ∀ args now validated, ((validateAccessToken env args now).run db).1 = .ok validated
    → IsMember db validated.context.accountId validated.context.tenantId
      ∧ ∃ family ∈ db.families, family.tokenFamilyId = validated.context.tokenFamilyId
          ∧ family.tenantId = validated.context.tenantId

section

variable {β γ : Type} {refusal : Refusal} {db : Database} {value : γ} {h : History authStore}

theorem run_ensure_ok {cond : Prop} [Decidable cond] {g : Unit → Auth γ}
    (ran : (((ensure cond refusal).bind g).run db).1 = .ok value)
    : ((g ()).run db).1 = .ok value := by
  by_cases holds : cond
  · rwa [ensure, if_pos holds] at ran
  · rw [ensure, if_neg holds] at ran
    cases ran

theorem run_fetch_ok {f : Database → Option β} {g : β → Auth γ}
    (ran : (((select f).bind (fun row => (require row refusal).bind g)).run db).1 = .ok value)
    : ∃ row, f db = some row ∧ ((g row).run db).1 = .ok value := by
  change (((require (f db) refusal).bind g).run db).1 = .ok value at ran
  cases found : f db with
  | none =>
    rw [found] at ran
    cases ran
  | some row =>
    rw [found] at ran
    exact ⟨row, rfl, ran⟩

theorem run_enforceAuthzFreshness {family : TokenFamilyRow} {fresh : Freshness}
    (ran : ((enforceAuthzFreshness family).run db).1 = .ok fresh)
    : fresh.account.accountId = family.accountId
      ∧ IsMember db family.accountId family.tenantId
      ∧ fresh.connection ∈ db.connections
      ∧ fresh.connection.connectionId = family.connectionId := by
  obtain ⟨account, found, ran⟩ := run_fetch_ok ran
  obtain ⟨membership, joined, ran⟩ := run_fetch_ok (run_ensure_ok ran)
  obtain ⟨connection, connected, ran⟩ := run_fetch_ok (run_ensure_ok ran)
  cases ran
  obtain ⟨mem, same⟩ := mem_of_find (filter_eq_some_iff.mp connected).1
  exact ⟨(mem_of_account found).2, ⟨membership, mem_of_activeMembership joined⟩, mem, same⟩

theorem run_validateAccessToken {env : Env} {args : ValidateArgs} {now : Int} {validated : Validated}
    (ran : ((validateAccessToken env args now).run db).1 = .ok validated)
    : ∃ family ∈ db.families, family.tokenFamilyId = validated.context.tokenFamilyId
      ∧ family.accountId = validated.context.accountId
      ∧ IsMember db family.accountId family.tenantId
      ∧ ∃ connection ∈ db.connections, connection.connectionId = family.connectionId
        ∧ connection.tenantId = validated.context.tenantId := by
  obtain ⟨row, _, ran⟩ := run_fetch_ok (run_ensure_ok (run_ensure_ok ran))
  have ran := run_ensure_ok (run_ensure_ok (run_ensure_ok (run_ensure_ok ran)))
  obtain ⟨family, found, ran⟩ := run_fetch_ok ran
  have ran := run_ensure_ok ran
  change (((enforceAuthzFreshness family).bind _).run db).1 = _ at ran
  rw [Program.run_bind] at ran
  split at ran
  · next fresh after passes =>
    obtain ⟨account, joined, connected, same⟩ :=
      run_enforceAuthzFreshness (congrArg Prod.fst passes)
    cases ran
    exact ⟨family, (mem_of_find (filter_eq_some_iff.mp found).1).1, rfl, account.symm, joined,
      fresh.connection, connected, same, rfl⟩
  · cases ran

structure ConnectionRow.Stays (a b : ConnectionRow) : Prop where
  connectionId : b.connectionId = a.connectionId
  tenantId : b.tenantId = a.tenantId

theorem connections_stay {t : Nat} {cmd : Command} (stays : TenantsStay t cmd h)
    : Continues ConnectionRow.Stays (connections h.state)
        (exec cmd h.state).2.connections := by
  have reflexive (row : ConnectionRow) : row.Stays row := ⟨rfl, rfl⟩
  cases cmd with
  | insert row =>
    refine .of_extended reflexive (prefix_insert _ (fun row => ?_) row)
    cases row <;> first | exact prefix_refl _ | exact prefix_append _ _
  | setConnectionTenant connectionId tenantId =>
    intro row mem
    by_cases same : row.connectionId = connectionId
    · refine ⟨{ row with tenantId }, ?_, rfl, (stays row mem same).symm⟩
      exact mem_updateWhere.mpr ⟨row, mem, by simp [same]⟩
    · exact ⟨row, mem_updateWhere.mpr ⟨row, mem, by simp [same]⟩, reflexive row⟩
  | revokeConnection connectionId => exact .updateWhere reflexive (fun _ _ => ⟨rfl, rfl⟩)
  | _ => exact .refl reflexive

variable {env : Env} {clients : List ClientRow}

theorem Lives.connected (lives : Lives env (First clients) h)
    : ∀ row ∈ families h.state, row.Connected (First clients) h := by
  refine lives.families_satisfy (P := fun row h => row.Connected (First clients) h)
    (fun due => due.2.2.2)
    (fun goes connected => ?_) (fun connected => Seen.later connected (suffix_cons _ _))
  rw [goes.columns]
  exact connected

end

/-- Where no connection is bound to another tenant, every accepted token is for a current tenant.
Witness: the family was minted for the tenant that its connection had then, and has now.
-/
theorem tenantsAreCurrent (env : Env) (clients : List ClientRow)
    (schedule : List (Action authStore Call))
    (respects : (authRun env clients schedule).history.Respects TenantsStay)
    : TenantsAreCurrent env (authRun env clients schedule).state := by
  intro args now validated accepted
  have lives := lives_authRun env clients schedule
  obtain ⟨family, mem, id, account, membership, connection, here, same, tenant⟩ :=
    run_validateAccessToken accepted
  obtain ⟨log, le, first, there, id', tenant'⟩ := lives.connected family mem
  obtain ⟨last, here', stays⟩
      : ∃ row ∈ connections (authRun env clients schedule).state, first.Stays row := by
    refine Kept.grow (J := fun g => ∃ row ∈ connections g.state, first.Stays row)
      (lives.instant le) lives le respects ⟨first, there, rfl, rfl⟩ ?_
    rintro g t cmd _ _ _ stays ⟨row, here, soFar⟩
    obtain ⟨row', here', next⟩ := connections_stay stays row here
    exact ⟨row', here', next.connectionId.trans soFar.connectionId,
      next.tenantId.trans soFar.tenantId⟩
  have one : last = connection :=
    lives.lawful.connections.eq_of_key here' here (stays.connectionId.trans (id'.trans same.symm))
  have agreed : family.tenantId = validated.context.tenantId := by
    rw [← tenant, ← one, stays.tenantId, tenant']
  rw [account, agreed] at membership
  exact ⟨membership, family, mem, id, agreed⟩

/-- A token of a new account is accepted. -/
theorem tenantsAreCurrent_sample
    : TenantsAreCurrent Sample.env
        (authRun Sample.env [] (.spawn (Sample.bootstrap 0) :: Sample.steps 20 0)).state
      ∧ ((authRun Sample.env [] (.spawn (Sample.bootstrap 0) :: Sample.steps 20 0
          ++ .spawn (Sample.validate 0) :: Sample.steps 20 1)).answer 1).map Except.isOk = some true :=
  ⟨tenantsAreCurrent _ _ _ (by decide +kernel), by decide +kernel⟩

structure GrantsAreRooted (clients : List ClientRow) (h : History authStore) : Prop where
  keyed : Lawful h.state
  rooted
    : ∀ row ∈ families h.state,
        row.Homed h.state ∧ row.Stamped (First clients) h ∧ row.Connected (First clients) h
  owned
    : ∀ row ∈ refreshTokens h.state,
        ∃ family ∈ families h.state, family.tokenFamilyId = row.tokenFamilyId

/-- Every refresh token is of a family, and every family of an account in a version that it had,
of a membership, and of a connection that was for the same tenant.
-/
theorem grantsAreRooted (env : Env) (clients : List ClientRow)
    (schedule : List (Action authStore Call))
    : GrantsAreRooted clients (authRun env clients schedule).history := by
  have lives := lives_authRun env clients schedule
  exact ⟨lives.lawful,
    fun row mem => ⟨lives.homed row mem, lives.stamped row mem, lives.connected row mem⟩,
    lives.refreshToken_family⟩

end CairnStone.CoreAuth
