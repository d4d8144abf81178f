import CairnStone.CoreAuth.GrantObligations
import CairnStone.CoreAuth.SessionObligations

/-! Every call keeps to the agreement, in every interleaving. What follows for a run: each of its
statements was promised, and each answer has its postcondition.
-/

namespace CairnStone.CoreAuth

open JavaScript Data Concurrency

variable {env : Env} {clients : List ClientRow}
  {t : Nat} {h : History authStore}

/-- What a call that began in `origin` has seen and done when it answers. -/
def Settles (env : Env) (start : Database) (t : Nat) (call : Call) (origin : Database)
    (answer : Except Failure Answer) (h : History authStore)
    : Prop :=
  match call with
  | .rotateRefreshToken refreshToken _ _ _ =>
    ∃ result : Except Failure Rotated, answer = result.map .rotated
      ∧ Rotates env start origin t refreshToken result h
  | .validateAccessToken args _ =>
    ∃ result : Except Failure Validated, answer = result.map .validated
      ∧ Validates env start origin args.accessToken result h
  | .revokeTokenFamily tokenFamilyId _ =>
    ∀ value, answer = .ok value → FamilyRevoked tokenFamilyId h.state
  | .revokeConnection connectionId _ =>
    ∀ value, answer = .ok value → ConnectionEnded connectionId h.state
  | .revokeAuthenticator authenticatorId _ _ =>
    ∀ value, answer = .ok value → FamiliesRevoked authenticatorId h
  | .bumpAuthzVersion accountId tenantId =>
    truthy tenantId = none
      → ∃ result : Except Failure Nat, answer = result.map .count
        ∧ Bumps start origin t accountId result h
  | _ => True

theorem owes_answering {start : Database} {call : Call} {α : Type} {p : Auth α}
    {answer : α → Answer} {Q : Except Failure Answer → History authStore → Prop}
    (obliged : Obliged env start t call p (fun result h' => Q (result.map answer) h') h)
    : Obliged env start t call (answering p answer) Q h :=
  Protocol.Meets.map obliged

theorem Quiet.owes_answering {start : Database} {call : Call} {α : Type} {p : Auth α}
    {answer : α → Answer} (quiet : Quiet p)
    : Obliged env start t call (answering p answer) (fun _ _ => True) h :=
  CoreAuth.owes_answering (quiet.obliged (fun _ _ _ => trivial))

/-- Every call keeps its promises and answers as it should. Witness: one lemma for each call. -/
theorem owes_body (t : Nat) (call : Call) (h : History authStore)
    (lives : Lives env (First clients) h) (fresh : h.own t = [])
    : Obliged env (First clients) t call (call.body env)
        (Settles env (First clients) t call h.state) h := by
  cases call with
  | bootstrapAccountConnection args draw now =>
    exact owes_answering (owes_bootstrapAccountConnection (fun _ _ _ => trivial))
  | mintConnectionUnderAccount args draw now =>
    exact owes_answering (owes_mintConnectionUnderAccount (fun _ _ _ => trivial))
  | redeemAuthorizationCode args draw now mintedAt =>
    exact owes_answering (owes_redeemAuthorizationCode (fun _ _ _ => trivial))
  | rotateRefreshToken refreshToken expectedResource draw now =>
    exact owes_answering ((owes_rotateRefreshToken lives).consequence
      (fun answer _ _ rotates => ⟨answer, rfl, rotates⟩))
  | revokeTokenFamily tokenFamilyId now =>
    refine owes_answering (owes_revokeTokenFamily lives (fun answer h' _ ended _ said => ?_))
    cases answer with
    | ok value => exact ended (.inr rfl)
    | error error => cases said
  | revokeConnection connectionId now =>
    refine owes_answering (owes_revokeConnection.consequence (fun answer h' _ ended _ said => ?_))
    cases answer with
    | ok value => exact ended rfl
    | error error => cases said
  | revokeAuthenticator authenticatorId stepUpConfirmed now =>
    refine owes_answering (owes_revokeAuthenticator.consequence
      (fun answer h' _ revoked _ said => ?_))
    cases answer with
    | ok value => exact revoked value rfl
    | error error => cases said
  | replaceAuthenticator args draw => exact (quiet_replaceAuthenticator args draw).owes_answering
  | bumpAuthzVersion accountId tenantId =>
    by_cases account : truthy tenantId = none
    · exact owes_answering ((owes_bumpAuthzVersion lives account).consequence
        (fun answer _ _ bumps _ => ⟨answer, rfl, bumps⟩))
    · exact (quiet_bumpAuthzVersion accountId tenantId).owes_answering.consequence
        (fun _ _ _ _ isAccount => absurd isAccount account)
  | joinTenant accountId tenantId => exact (quiet_joinTenant accountId tenantId).owes_answering
  | bindConnectionTenant connectionId tenantId =>
    exact (quiet_bindConnectionTenant connectionId tenantId).owes_answering
  | validateAccessToken args now =>
    exact owes_answering ((owes_validateAccessToken lives).consequence
      (fun answer _ _ validates => ⟨answer, rfl, validates⟩))
  | createOwnerAccount displayName accountKey draw =>
    exact (quiet_createOwnerAccount displayName accountKey draw).owes_answering
  | mintLoginInvite accountId ttlSeconds draw now =>
    exact (quiet_mintLoginInvite accountId ttlSeconds draw now).owes_answering
  | beginOauthAuthorize params allowlisted url draw now =>
    exact owes_answering owes_beginOauthAuthorize
  | redeemLoginInviteForSession args bytes now clock =>
    exact owes_answering owes_redeemLoginInviteForSession
  | createAssertionOptions sessionToken bytes now =>
    exact owes_answering owes_createAssertionOptions
  | verifyAssertionForSession sessionToken credential url now =>
    exact owes_answering owes_verifyAssertionForSession
  | createRegistrationOptions sessionToken bytes now =>
    exact owes_answering owes_createRegistrationOptions
  | verifyRegistrationForSession sessionToken credential url bytes now =>
    exact owes_answering owes_verifyRegistrationForSession
  | approveAuthorizeSession sessionToken bytes now =>
    exact owes_answering (owes_approveAuthorizeSession fresh)
  | denyAuthorizeSession sessionToken now => exact owes_answering owes_denyAuthorizeSession

variable (env clients) (schedule : List (Action authStore Call))

theorem sound_authRun
    : (authProtocol env (First clients)).Sound (Settles env (First clients))
        (authRun env clients schedule) :=
  (authProtocol env (First clients)).sound (fun t call h lives fresh => owes_body t call h lives fresh)
    Kept.nil schedule

/-- Every statement of a run was promised. -/
theorem lives_authRun : Lives env (First clients) (authRun env clients schedule).history :=
  (sound_authRun env clients schedule).inv

variable {env clients schedule}

theorem settles_authRun {entry : Thread authStore Call Failure Answer}
    {answer : Except Failure Answer}
    (found : (authRun env clients schedule).threads[t]? = some entry)
    (said : entry.answer = some answer)
    : Settles env (First clients) t entry.call entry.start answer
        (authRun env clients schedule).history :=
  (sound_authRun env clients schedule).post_of_answer found said

end CairnStone.CoreAuth
