import CairnStone.CoreAuth.CallParts
import CairnStone.CoreAuth.Runs

/-! Finality of revocation. What has been revoked stays revoked, and every later use of a token
looks at its family and its connection. A revocation of an authenticator ends the families that
it lists; a family that a call in flight inserts after the listing survives.
-/

namespace CairnStone.CoreAuth

open JavaScript Data Concurrency Database Config Sample

variable {thread : Nat} {h : History authStore}

/-- The authenticator whose families the statement lists. -/
def listed : Command → Option Text
  | .listFamiliesOfAuthenticator authenticatorId => some authenticatorId
  | _ => none

def mintedFor : Command → Option Text
  | .insert (.family row) => some row.originAuthenticatorId
  | _ => none

/-- No family is inserted for an authenticator whose families have been listed for revocation. -/
def MintsBeforeListing (_ : Nat) (cmd : Command) (h : History authStore) : Prop :=
  ∀ issued ∈ h.log, mintedFor cmd ≠ none → listed issued.command ≠ mintedFor cmd

instance decidableMintsBeforeListing (t : Nat) (cmd : Command) (h : History authStore)
    : Decidable (MintsBeforeListing t cmd h) :=
  inferInstanceAs (Decidable (∀ issued ∈ h.log, _ → _))

instance decidableRespectsMintsBeforeListing (h : History authStore)
    : Decidable (h.Respects MintsBeforeListing) :=
  @History.decidableRespects authStore MintsBeforeListing decidableMintsBeforeListing h

def Call.Covers (call : Call) (family : TokenFamilyRow) : Prop :=
  match call with
  | .revokeTokenFamily tokenFamilyId _ => family.tokenFamilyId = tokenFamilyId
  | .revokeConnection connectionId _ => family.connectionId = connectionId
  | .revokeAuthenticator authenticatorId _ _ => family.originAuthenticatorId = authenticatorId
  | _ => False

def Uses (config : Config authStore Call Failure Answer) (thread : Nat) (tokenFamilyId : Text)
    : Prop :=
  (∃ args now validated,
    config.call thread = some (.validateAccessToken args now)
    ∧ config.answer thread = some (.ok (.validated validated))
    ∧ validated.context.tokenFamilyId = tokenFamilyId)
  ∨ ∃ refreshToken expectedResource draw now rotated,
    config.call thread = some (.rotateRefreshToken refreshToken expectedResource draw now)
    ∧ config.answer thread = some (.ok (.rotated rotated))
    ∧ rotated.tokenFamilyId = tokenFamilyId

/-- Once a revocation has succeeded, no call that starts later uses a token of a family that it
covers, whenever that family was inserted.
-/
def RevocationIsFinal (env : Env) (clients : List ClientRow)
    (before after : List (Action authStore Call))
    : Prop :=
  ∀ revoker call answer,
    (authRun env clients before).call revoker = some call
    → (authRun env clients before).answer revoker = some (.ok answer)
    → ∀ thread tokenFamilyId,
        (authRun env clients before).threads.length ≤ thread
        → Uses (authRun env clients (before ++ after)) thread tokenFamilyId
        → ∀ family ∈ Database.families (authRun env clients (before ++ after)).state,
            family.tokenFamilyId = tokenFamilyId → ¬ call.Covers family

variable {env : Env} {clients : List ClientRow} {schedule before after : List (Action authStore Call)}

theorem passed_of_uses {tokenFamilyId : Text}
    (uses : Uses (authRun env clients schedule) thread tokenFamilyId)
    : ∃ entry, (authRun env clients schedule).threads[thread]? = some entry
      ∧ ∃ family : TokenFamilyRow, family.tokenFamilyId = tokenFamilyId
        ∧ Passed (First clients) entry.start family (authRun env clients schedule).history := by
  rcases uses with ⟨args, now, validated, asked, said, rfl⟩
    | ⟨refreshToken, expectedResource, draw, now, rotated, asked, said, rfl⟩
  · obtain ⟨entry, found, asked, said⟩ := entry_of_answer asked said
    have settles := settles_authRun found said
    rw [asked] at settles
    obtain ⟨result, same, validates⟩ := settles
    cases result with
    | error error => cases same
    | ok value =>
      obtain rfl : validated = value := by
        have same := Except.ok.inj same
        exact (Answer.validated.inj same)
      obtain ⟨family, _, same, passed⟩ := validates.accepted validated rfl
      exact ⟨entry, found, family, same, passed⟩
  · obtain ⟨entry, found, asked, said⟩ := entry_of_answer asked said
    have settles := settles_authRun found said
    rw [asked] at settles
    obtain ⟨result, same, rotates⟩ := settles
    cases result with
    | error error => cases same
    | ok value =>
      obtain rfl : rotated = value := Answer.rotated.inj (Except.ok.inj same)
      obtain ⟨family, same, passed⟩ := rotates.passed rotated rfl
      exact ⟨entry, found, family, same, passed⟩

/-- The part of a run up to some action. -/
theorem log_before
    : (authRun env clients before).history.log
      <:+ (authRun env clients (before ++ after)).history.log := by
  rw [authRun, authRun, run_append]
  exact log_run _ _ _

theorem start_of_later {entry : Thread authStore Call Failure Answer}
    (found : (authRun env clients (before ++ after)).threads[thread]? = some entry)
    (later : (authRun env clients before).threads.length ≤ thread)
    : ∃ h, Lives env (First clients) h ∧ h.state = entry.start
      ∧ (authRun env clients before).history.log <:+ h.log
      ∧ h.log <:+ (authRun env clients (before ++ after)).history.log := by
  rw [authRun, run_append] at found
  obtain ⟨first, second, rfl, start⟩ :=
    exists_start_run (Call.body env) (authRun env clients before) after found later
  refine ⟨(authRun env clients (before ++ first)).history, lives_authRun env clients _, ?_,
    log_before, ?_⟩
  · rw [start, authRun, run_append]
  · rw [← List.append_assoc]
    exact log_before

/-- A revoked family has not been seen active since. -/
theorem Passed.not_revoked {origin : Database} {family : TokenFamilyRow}
    (passed : Passed (First clients) origin family h) (lives : Lives env (First clients) h)
    : ¬ FamilyRevoked family.tokenFamilyId origin := by
  intro revoked
  obtain ⟨early, log, le, le', rfl, mem, active⟩ := passed.active
  have lives1 := lives.instant (le.trans le')
  have lives2 := lives.instant le'
  obtain ⟨row, here, same, status⟩ :=
    FamilyRevoked.later (h := ⟨_, early⟩) revoked lives1 lives2 le
  cases lives2.lawful.families.eq_of_key here mem same
  rw [active] at status
  cases status

/-- A connection that has ended has not been seen active since. -/
theorem Passed.not_ended {origin : Database} {family : TokenFamilyRow}
    (passed : Passed (First clients) origin family h) (lives : Lives env (First clients) h)
    : ¬ ConnectionEnded family.connectionId origin := by
  intro ended
  obtain ⟨early, log, le, le', rfl, connection, mem, id, active⟩ := passed.connection
  have lives1 := lives.instant (le.trans le')
  have lives2 := lives.instant le'
  obtain ⟨row, here, same, status⟩ :=
    ConnectionEnded.later (h := ⟨_, early⟩) ended lives1 lives2 le
  cases lives2.lawful.connections.eq_of_key here mem (same.trans id.symm)
  exact status active

/-- Where families are minted before they are listed, a family of the authenticator continues one
that was there at the listing. Witness: no later statement inserts one.
-/
theorem Lives.before_listing {authenticatorId : Text} (lives : Lives env (First clients) h)
    (respects : h.Respects MintsBeforeListing) {issued : Issued authStore}
    (noted : issued ∈ h.log)
    (lists : issued.command = .listFamiliesOfAuthenticator authenticatorId)
    : ∀ family ∈ families h.state, family.originAuthenticatorId = authenticatorId
      → ∃ old ∈ families issued.before, old.Becomes family := by
  obtain ⟨prior, le, _, _⟩ := Kept.at_issued lives noted
  have lives1 := lives.instant le
  have kept := Kept.grow
    (J := fun g => issued ∈ g.log
      ∧ ∀ family ∈ families g.state, family.originAuthenticatorId = authenticatorId
        → ∃ old ∈ families issued.before, old.Becomes family)
    lives1 lives le respects ⟨.head _, fun family mem _ => ?_⟩ ?_
  · exact kept.2
  · refine ⟨family, ?_, .refl family⟩
    have mem : family ∈ families (exec issued.command issued.before).2 := mem
    rwa [lists] at mem
  · intro g t cmd _ _ _ minted known
    refine ⟨.tail _ known.1, fun family mem origin => ?_⟩
    rcases (revises_families _ g.state).mem .refl mem with ⟨old, here, goes⟩ | ⟨rfl, _⟩
    · have origin' : old.originAuthenticatorId = authenticatorId := by
        rw [← origin, goes.columns]
      obtain ⟨first, there, becomes⟩ := known.2 old here origin'
      exact ⟨first, there, becomes.trans goes⟩
    · refine absurd ?_ (minted issued known.1 (fun none => by cases none))
      rw [lists]
      exact congrArg some origin.symm

/-- Where families are minted before they are listed, revocation is final. Witness: a later use has
seen its family and its connection active.
-/
theorem revocationIsFinal (env : Env) (clients : List ClientRow)
    (before after : List (Action authStore Call))
    (respects : (authRun env clients (before ++ after)).history.Respects MintsBeforeListing)
    : RevocationIsFinal env clients before after := by
  intro revoker call answer asked answered thread tokenFamilyId later uses family member same covers
  have lives1 := lives_authRun env clients before
  have lives2 := lives_authRun env clients (before ++ after)
  obtain ⟨entry, found, used, id, passed⟩ := passed_of_uses uses
  obtain ⟨g, lives, start, le, _⟩ := start_of_later found later
  obtain ⟨revocation, found', asked, answered⟩ := entry_of_answer asked answered
  have settles := settles_authRun found' answered
  rw [asked] at settles
  -- The family that was seen in use and the one in the table are the same.
  have seen : Seen (M := authStore) (First clients) (fun db => used ∈ families db)
      (authRun env clients (before ++ after)).history := by
    obtain ⟨_, log, _, le', _, member, _⟩ := passed.active
    exact ⟨log, le', member⟩
  obtain ⟨row, present, becomes⟩ := Lives.family_of_seen lives2 seen
  have one : row = family := by
    refine lives2.lawful.families.eq_of_key present member ?_
    rw [becomes.columns]
    exact id.trans same.symm
  subst one
  have revoked : ¬ FamilyRevoked tokenFamilyId (authRun env clients before).state := by
    intro revoked
    have revoked := revoked.later lives1 lives le
    rw [start, ← id] at revoked
    exact passed.not_revoked lives2 revoked
  cases call with
  | revokeTokenFamily revokedId now =>
    obtain rfl : row.tokenFamilyId = revokedId := covers
    exact revoked (same ▸ settles answer rfl)
  | revokeConnection connectionId now =>
    have connection : used.connectionId = connectionId := by
      have covers : row.connectionId = connectionId := covers
      rw [← covers, becomes.columns]
    have ended := (settles answer rfl).later lives1 lives le
    rw [start, ← connection] at ended
    exact passed.not_ended lives2 ended
  | revokeAuthenticator authenticatorId stepUpConfirmed now =>
    obtain ⟨issued, logged, lists, ended⟩ := settles answer rfl
    obtain ⟨old, there, continues⟩ :=
      lives2.before_listing respects (log_before.subset logged) lists row member covers
    have origin : old.originAuthenticatorId = authenticatorId := by
      have covers : row.originAuthenticatorId = authenticatorId := covers
      rw [← covers, continues.columns]
    have sameId : old.tokenFamilyId = tokenFamilyId := by
      rw [← same, continues.columns]
    exact revoked (sameId ▸ ended old there origin)
  | _ => exact covers

namespace Sample

/-- Minting another connection for the account that the bootstrap call `0` has made. -/
def mint (n : Fin 256) : Call :=
  .mintConnectionUnderAccount
    { accountId := mintId .account [0], tenantId := none, authenticatorId := mintId .authenticator [0]
      clientFamily := text "c", routingAliases := [], resource := none, scopes := [CORE_SCOPE]
      stepUpConfirmed := true }
    { accessToken := [n], refreshToken := [n], tokenFamilyId := [n], connectionId := [n]
      principalId := [n] } 0

def revoke : Call :=
  .revokeAuthenticator (mintId .authenticator [0]) true 0

def validate (n : Fin 256) : Call :=
  .validateAccessToken
    { accessToken := randomToken "csat" [n], expectedResource := none, acceptedResources := []
      url := none } 0

/-- Minting reads the authenticator, and then the authenticator is revoked. -/
def revokedWhileMinting : List (Action authStore Call) :=
  .spawn (bootstrap 0) :: steps 20 0 ++ .spawn (mint 1) :: steps 3 1 ++ .spawn revoke :: steps 20 2

/-- Minting goes on, and its token is validated. -/
def mintedAfterwards : List (Action authStore Call) :=
  steps 20 1 ++ .spawn (validate 1) :: steps 20 3

end Sample

def acceptedFamily : Except Failure Answer → Option Text
  | .ok (.validated validated) => some validated.context.tokenFamilyId
  | _ => none

theorem uses_of_accepted {config : Config authStore Call Failure Answer} {args : ValidateArgs}
    {now : Int} {tokenFamilyId : Text}
    (asked : config.call thread = some (.validateAccessToken args now))
    (accepted : (config.answer thread).bind acceptedFamily = some tokenFamilyId)
    : Uses config thread tokenFamilyId := by
  obtain ⟨answer, said, accepted⟩ := Option.bind_eq_some_iff.mp accepted
  cases answer with
  | error error => cases accepted
  | ok value =>
    cases value with
    | validated validated =>
      exact .inl ⟨args, now, validated, asked, said, Option.some.inj accepted⟩
    | _ => cases accepted

/-- A revocation of an authenticator with nothing in flight. -/
theorem revocationIsFinal_sample
    : RevocationIsFinal Sample.env []
        (.spawn (Sample.bootstrap 0) :: Sample.steps 20 0 ++ .spawn (Sample.mint 1)
          :: Sample.steps 20 1 ++ .spawn Sample.revoke :: Sample.steps 20 2)
        (.spawn (Sample.validate 1) :: Sample.steps 20 3) :=
  revocationIsFinal _ _ _ _ (by decide +kernel)

/-- A family that is minted after the authenticator has been revoked is accepted. -/
theorem mintingSurvivesRevocation
    : ¬ RevocationIsFinal Sample.env [] Sample.revokedWhileMinting Sample.mintedAfterwards := by
  intro final
  have uses
      : Uses (authRun env [] (revokedWhileMinting ++ mintedAfterwards)) 3
          (mintId .tokenFamily [1]) :=
    uses_of_accepted ((call_run _ _ _ _).trans rfl) (by decide +kernel)
  have revoked
      : (authRun env [] revokedWhileMinting).answer 2 = some (.ok (.count 1)) := by
    decide +kernel
  have minted
      : ∃ family ∈ families
          (authRun env [] (revokedWhileMinting ++ mintedAfterwards)).state,
          family.tokenFamilyId = mintId .tokenFamily [1]
          ∧ family.originAuthenticatorId = mintId .authenticator [0] := by
    decide +kernel
  obtain ⟨family, member, same, origin⟩ := minted
  exact final 2 revoke (.count 1) ((call_run _ _ _ _).trans rfl) revoked 3 _
    (by decide +kernel) uses family member same origin

end CairnStone.CoreAuth
