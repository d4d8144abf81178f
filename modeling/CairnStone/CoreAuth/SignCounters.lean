import CairnStone.Concurrency.Readiness
import CairnStone.CoreAuth.CallParts
import CairnStone.CoreAuth.WebAuthn

/-! Sign counters of passkeys under logins that run at the same time. A login compares the counter that it
is given with the one that it has read, and writes it without looking again; and a counter of zero is
compared with nothing.
-/

namespace CairnStone.CoreAuth

open JavaScript Data Concurrency Protocol List Option History Config Meets Program Database Sample

variable {cmd : Command} {credentialId : Text} {signCount t : Nat} {db : Database}
  {h : History authStore}

/-- A login by a passkey. -/
structure Login where
  sessionToken : Text
  credential : Credential
  url : Url
  now : Int

/-- The deployment, verifying assertions as `verifyAssertion` does. -/
def Env.verifying (env : Env) (webAuthn : WebAuthn) : Env :=
  { env with verifyAssertion := webAuthn.verifyAssertion }

def Login.body (env : Env) (webAuthn : WebAuthn) (login : Login) : Auth Authenticated :=
  verifyAssertionForSession (env.verifying webAuthn) login.sessionToken login.credential login.url
    login.now

/-- Any interleaving of logins. -/
abbrev loginRun (env : Env) (webAuthn : WebAuthn) (start : Database)
    (schedule : List (Action authStore Login))
    : Config authStore Login Failure Authenticated :=
  (Config.init start).run (Login.body env webAuthn) schedule

def storedCount (credentialId : Text) (db : Database) : Nat :=
  ((db.passkey credentialId).map (·.signCount)).getD 0

def counting : Command → Option (Text × Nat)
  | .setSignCount credentialId signCount => some (credentialId, signCount)
  | _ => none

/-- The counter that the statement stores for the passkey, if it stores one. -/
def countFor (credentialId : Text) (cmd : Command) : Option Nat :=
  ((counting cmd).filter (·.1 == credentialId)).map (·.2)

/-- The counters that were accepted for the passkey, the newest first. -/
def acceptedCounts (credentialId : Text) (log : List (Issued authStore)) : List Nat :=
  log.filterMap (fun issued => countFor credentialId issued.command)

def Login.Presents (webAuthn : WebAuthn) (login : Login) (credentialId : Text) (signCount : Nat)
    : Prop :=
  truthy login.credential.credentialId = some credentialId
  ∧ webAuthn.presentedCount login.credential.authenticatorData = some signCount

/-- Counters only go forward: the stored one never decreases; once it is positive, only greater ones are
accepted; no two accepted ones are equal and positive; and whoever is logged in has had the counter accepted
that was presented.
-/
structure CountersGoForward (env : Env) (webAuthn : WebAuthn) (start : Database)
    (schedule : List (Action authStore Login))
    : Prop where
  stored
    : ∀ credentialId earlier, earlier <+: schedule
      → storedCount credentialId (loginRun env webAuthn start earlier).state
        ≤ storedCount credentialId (loginRun env webAuthn start schedule).state
  accepted
    : ∀ issued ∈ (loginRun env webAuthn start schedule).history.log, ∀ credentialId signCount,
        countFor credentialId issued.command = some signCount
        → 0 < storedCount credentialId issued.before
        → storedCount credentialId issued.before < signCount
  distinct
    : ∀ credentialId,
        (acceptedCounts credentialId (loginRun env webAuthn start schedule).history.log).Pairwise
          (fun later earlier => 0 < earlier → earlier < later)
  loggedIn
    : ∀ thread login authenticated,
        (loginRun env webAuthn start schedule).call thread = some login
        → (loginRun env webAuthn start schedule).answer thread = some (.ok authenticated)
        → ∃ credentialId signCount, login.Presents webAuthn credentialId signCount
          ∧ ∃ issued ∈ (loginRun env webAuthn start schedule).history.own thread,
              countFor credentialId issued.command = some signCount

/-- A login that is about to store a counter: the counter is positive unless the stored one is zero, and it
is below those that other logins by the passkey are about to store.
-/
def StoresInOrder (config : Config authStore Login Failure Authenticated) (t : Nat) : Prop :=
  ∀ stores ∈ (config.pending t).bind counting,
    (0 < storedCount stores.1 config.state → 0 < stores.2)
    ∧ ∀ u ∈ List.range config.threads.length, u ≠ t →
        ∀ waiting ∈ (config.pending u).bind (countFor stores.1),
          stores.2 = 0 ∨ stores.2 < waiting

instance decidableStoresInOrder (config : Config authStore Login Failure Authenticated) (t : Nat)
    : Decidable (StoresInOrder config t) :=
  inferInstanceAs (Decidable (∀ stores ∈ (config.pending t).bind counting, _ ∧ _))

namespace Sample

/-- Cryptography that accepts everything. The challenge of client data is their base 64 text. -/
def webAuthn : WebAuthn where
  parseJson bytes := some
    { type := some (text "webauthn.get"), challenge := some (toBase64Url bytes)
      origin := some (text "https://o") }
  decodeCbor := fun _ => none
  sha256Bytes := fun _ => List.replicate 32 0
  importsEs256PublicKey := fun _ => true
  verifyEs256Signature := fun _ _ _ => true

/-- A session, and the challenge that it has been given. -/
def session (name : Text) : SessionRow where
  sessionId := name
  tokenHash := name
  clientId := text "c"
  redirectUri := text "https://c/cb"
  codeChallenge := []
  resource := []
  scopes := []
  state := none
  iss := []
  status := .pendingAuth
  accountId := none
  tenantId := none
  authenticatorId := none
  authMethod := none
  stepUpConfirmed := false
  offerPasskeyEnroll := false
  expiresAt := 100

def challenge (name : Text) : ChallengeRow where
  challengeHash := name
  purpose := .assertion
  sessionId := name
  status := .unused
  expiresAt := 100

/-- A passkey with the counter 5, and two sessions that wait for its owner. -/
def passkeyed : Database :=
  { Database.initial [] with
    accounts :=
      [{ accountId := text "a", status := .active, homeTenantId := text "t"
         displayName := none, homeWorkspaceId := none, homeCodeSessionId := none
         authzVersion := 0 }]
    passkeys :=
      [{ credentialId := text "k", accountId := text "a", authenticatorId := text "n"
         publicKey := [], signCount := 5, active := true }]
    sessions := [session (text "YQ"), session (text "Yg")]
    challenges := [challenge (text "YQ"), challenge (text "Yg")] }

def login (name : Text) (signCount : Nat) : Login where
  sessionToken := name
  credential :=
    { id := none, rawId := some (text "k"), clientDataJSON := some name
      authenticatorData := some (toBase64Url (List.replicate 32 0 ++ [5, 0, 0, 0, signCount]))
      signature := some (text "AA"), attestationObject := none }
  url := { origin := text "https://o", hostname := text "o" }
  now := 0

def loginSteps (n thread : Nat) : List (Action authStore Login) :=
  List.replicate n (.step thread)

/-- One login after the other, the second one with a greater counter. -/
def loginsInTurn : List (Action authStore Login) :=
  .spawn (login (text "YQ") 7) :: loginSteps 10 0 ++ .spawn (login (text "Yg") 9) :: loginSteps 10 1

/-- Two logins that have both been verified when the one with the greater counter stores it. -/
def loginsCrossed : List (Action authStore Login) :=
  [.spawn (login (text "YQ") 9), .spawn (login (text "Yg") 7)] ++ loginSteps 4 0 ++ loginSteps 4 1
    ++ loginSteps 6 0 ++ loginSteps 6 1

/-- A login with the counter zero. -/
def loginWithZero : List (Action authStore Login) :=
  .spawn (login (text "YQ") 0) :: loginSteps 10 0

end Sample

/-- The statements of a login. A counter that is about to be stored is for a passkey that is there, and no
replay as far as the stored counter tells.
-/
def Timely (db : Database) : Command → Prop
  | .setSignCount credentialId signCount =>
    ∃ row, db.passkey credentialId = some row ∧ ¬ WebAuthn.Replayed row.signCount signCount
  | .expireSession _ => True
  | .expireChallenge _ => True
  | .useChallenge _ => True
  | .authenticateSession _ _ => True
  | _ => False

theorem counting_eq_some
    : counting cmd = some (credentialId, signCount)
      ↔ cmd = .setSignCount credentialId signCount := by
  cases cmd <;> simp [counting]

theorem countFor_eq_some
    : countFor credentialId cmd = some signCount
      ↔ cmd = .setSignCount credentialId signCount := by
  cases cmd <;> simp [countFor, counting, Option.filter]

/-- The other statements of a login leave the passkeys alone. -/
theorem passkeys_of_timely (timely : Timely db cmd) (uncounted : counting cmd = none)
    : (exec cmd db).2.passkeys = db.passkeys := by
  cases cmd with
  | setSignCount credentialId signCount => cases uncounted
  | expireSession => rfl
  | expireChallenge => rfl
  | useChallenge => rfl
  | authenticateSession => rfl
  | _ => exact absurd timely id

theorem passkey_setSignCount (db : Database) (credentialId stored : Text) (signCount : Nat)
    : (exec (.setSignCount stored signCount) db).2.passkey credentialId
      = (db.passkey credentialId).map (fun row =>
          if row.credentialId == stored then { row with signCount } else row) := by
  have kept (row : PasskeyRow) : { row with signCount }.credentialId = row.credentialId := rfl
  exact find_updateWhere kept credentialId

theorem storedCount_exec (timely : Timely db cmd) (credentialId : Text)
    : storedCount credentialId (exec cmd db).2
      = (countFor credentialId cmd).getD (storedCount credentialId db) := by
  cases counts : counting cmd with
  | none =>
    have same : (exec cmd db).2.passkey credentialId = db.passkey credentialId := by
      unfold passkey
      rw [passkeys_of_timely timely counts]
    simp only [storedCount, same, countFor, counts, filter_none, map_none,
      getD_none]
  | some stores =>
    obtain ⟨stored, signCount⟩ := stores
    cases counting_eq_some.mp counts
    obtain ⟨row, found, _⟩ := timely
    by_cases same : stored = credentialId
    · cases same
      obtain ⟨_, named⟩ := mem_of_find found
      have counted : countFor credentialId (.setSignCount credentialId signCount) = some signCount :=
        countFor_eq_some.mpr rfl
      simp [storedCount, passkey_setSignCount, found, named, counted]
    · have other : countFor credentialId (.setSignCount stored signCount) = none := by
        simp [countFor, counting, same]
      rw [other, getD_none]
      unfold storedCount
      rw [passkey_setSignCount]
      cases sought : db.passkey credentialId with
      | none => rfl
      | some row' =>
        obtain ⟨_, named⟩ := mem_of_find sought
        have apart : row'.credentialId ≠ stored := named ▸ Ne.symm same
        simp [apart]

theorem accepted_of_timely (timely : Timely db cmd)
    (counts : countFor credentialId cmd = some signCount)
    (counting : 0 < storedCount credentialId db → 0 < signCount)
    (pos : 0 < storedCount credentialId db)
    : storedCount credentialId db < signCount := by
  cases countFor_eq_some.mp counts
  obtain ⟨row, found, fresh⟩ := timely
  have stored : storedCount credentialId db = row.signCount := by simp [storedCount, found]
  rw [stored] at pos counting ⊢
  by_contra above
  exact fresh ⟨pos, counting pos, Nat.not_lt.mp above⟩

/-- A statement leaves a counter timely that is greater than the one it stores for the same passkey. -/
theorem Timely.exec {waiting : Command} (first : Timely db cmd)
    (second : Timely db waiting)
    (order
      : ∀ credentialId signCount later, counting cmd = some (credentialId, signCount)
        → countFor credentialId waiting = some later → signCount = 0 ∨ signCount < later)
    : Timely (exec cmd db).2 waiting := by
  cases waits : counting waiting with
  | none =>
    cases waiting with
    | setSignCount credentialId later => cases waits
    | _ => exact second
  | some stores =>
    obtain ⟨credentialId, later⟩ := stores
    cases counting_eq_some.mp waits
    obtain ⟨row, found, fresh⟩ := second
    cases counts : counting cmd with
    | none =>
      refine ⟨row, ?_, fresh⟩
      unfold passkey at found ⊢
      rwa [passkeys_of_timely first counts]
    | some stores =>
      obtain ⟨stored, signCount⟩ := stores
      cases counting_eq_some.mp counts
      obtain ⟨_, named⟩ := mem_of_find found
      refine ⟨_, by rw [passkey_setSignCount, found, map_some], ?_⟩
      split
      · rename_i same
        obtain rfl : credentialId = stored := named.symm.trans (beq_iff_eq.mp same)
        have above := order credentialId signCount later rfl (countFor_eq_some.mpr rfl)
        intro replayed
        obtain ⟨pos, _, le⟩ := replayed
        dsimp only at pos le
        omega
      · exact fresh

variable {env : Env} {webAuthn : WebAuthn}

abbrev Plain (cmd : Command) : Prop :=
  ∀ db, Timely db cmd

theorem issues_loadAuthorizeSessionByToken (sessionToken : Text) (now : Int)
    : Issues (M := authStore) Plain (loadAuthorizeSessionByToken env sessionToken now) := by
  refine (issues_ensure _ _).bind (fun _ => ?_)
  intro db
  refine (issues_require _ _).bind (fun row => ?_)
  split
  · exact ⟨fun _ => trivial, fun _ => trivial⟩
  · exact (issues_ensure _ _).bind (fun _ => trivial)

theorem issues_consumeWebAuthnChallenge (challenge : Text) (purpose : ChallengePurpose)
    (sessionId : Text) (now : Int)
    : Issues (M := authStore) Plain
        (consumeWebAuthnChallenge env challenge purpose sessionId now) := by
  intro db
  refine (issues_require _ _).bind (fun row => ?_)
  refine (issues_ensure _ _).bind (fun _ => ?_)
  refine (issues_ensure _ _).bind (fun _ => ?_)
  refine (issues_ensure _ _).bind (fun _ => ?_)
  split
  · exact ⟨fun _ => trivial, fun _ => trivial⟩
  · exact ⟨fun _ => trivial, fun (edits : Nat) => issues_ensure (edits = 1) _⟩

/-- Once the counter is stored, a login issues no statement that could be late. -/
theorem issues_finishLogin (session : SessionRow) (passkey : PasskeyRow)
    : Issues (M := authStore) Plain
        (do
          let account ← require
            (← select (fun db => (db.account passkey.accountId).filter (·.status == .active)))
            { error := "account_not_active", status := some 403 }
          markSessionAuthenticated session
            { accountId := account.accountId, tenantId := account.homeTenantId
              authenticatorId := passkey.authenticatorId, authMethod := .passkeyWebauthn
              stepUpConfirmed := true, offerPasskeyEnroll := false }
          .done
            { accountId := account.accountId, tenantId := account.homeTenantId
              authenticatorId := passkey.authenticatorId, authMethod := .passkeyWebauthn
              stepUpConfirmed := true : Authenticated }) := by
  intro db
  refine (issues_require _ _).bind (fun account => ?_)
  exact ⟨fun _ => trivial, fun _ => trivial⟩

/-- A login stores only counters that are no replay as far as the counter tells that it has just read. -/
theorem heedful_login (login : Login) : (login.body env webAuthn).Heedful Timely := by
  refine (issues_loadAuthorizeSessionByToken _ _).heedful.bind (fun session => ?_)
  refine (issues_ensure _ _).heedful.bind (fun _ => ?_)
  refine (issues_require _ _).heedful.bind (fun clientDataJSON => ?_)
  refine (issues_require _ _).heedful.bind (fun expectedChallenge => ?_)
  refine (issues_consumeWebAuthnChallenge _ _ _ _).heedful.bind (fun _ => ?_)
  refine (issues_require _ _).heedful.bind (fun credentialId => ?_)
  refine heedful_select_bind (fun db => ?_)
  cases found : (db.passkey credentialId).filter (·.active) with
  | none => exact ⟨trivial, trivial⟩
  | some passkey =>
    obtain ⟨found, _⟩ := filter_eq_some_iff.mp found
    simp only [require, bind_eq, done_bind]
    split
    · exact ⟨trivial, trivial⟩
    · rename_i signCount valid
      have fresh := (WebAuthn.of_verifyAssertion valid).2
      exact ⟨fun _ => (issues_finishLogin session passkey).heedful, passkey, found, fresh⟩

def LoggedIn (webAuthn : WebAuthn) (t : Nat) (login : Login) (_ : Database)
    (answer : Except Failure Authenticated) (h : History authStore)
    : Prop :=
  ∀ authenticated, answer = .ok authenticated →
    ∃ credentialId signCount, login.Presents webAuthn credentialId signCount
      ∧ ∃ issued ∈ h.own t, countFor credentialId issued.command = some signCount

abbrev loginProtocol (start : Database) : Protocol authStore Login :=
  Protocol.pledging (M := authStore) start (fun _ _ _ _ => True)

/-- Whoever is logged in has had the presented counter stored. Witness: the statement comes before every
successful end.
-/
theorem meets_login {start : Database} {login : Login}
    : (loginProtocol start).Meets t login (login.body env webAuthn)
        (LoggedIn webAuthn t login h.state) h := by
  have denied (failure : Failure) (h' : History authStore)
      : LoggedIn webAuthn t login h.state (.error failure) h' :=
    fun _ same => by cases same
  have anything {α : Type} (p : Auth α) (h : History authStore)
      : (loginProtocol start).Meets t login p (fun _ _ => True) h :=
    of_issues (.anything p) (fun _ _ _ => trivial) (fun _ _ _ => trivial)
  refine seq (anything _ h) (fun session h1 _ _ => ?_) (fun _ _ _ _ => denied _ _)
  refine meets_ensure_bind (fun _ => ?_) (fun _ _ => denied _ _)
  refine meets_require_bind (fun clientDataJSON _ => ?_) (fun _ _ => denied _ _)
  refine meets_require_bind (fun expectedChallenge _ => ?_) (fun _ _ => denied _ _)
  refine seq (anything _ h1) (fun _ h2 _ _ => ?_) (fun _ _ _ _ => denied _ _)
  refine meets_require_bind (fun credentialId named => ?_) (fun _ _ => denied _ _)
  refine meets_fetch_bind (fun passkey h3 _ _ => ?_) (fun _ _ => denied _ _)
  dsimp only
  split
  · exact meets_refuse (fun _ _ => denied _ _)
  · rename_i signCount valid
    refine meets_perform_bind (fun _ _ => trivial) (fun h4 _ => ?_)
    have own : (h4.exec t (.setSignCount credentialId signCount)).own t
        = ⟨t, .setSignCount credentialId signCount, h4.state⟩ :: h4.own t :=
      own_exec_self _ _ _
    refine of_issues (.anything _) (fun _ _ _ => trivial) (fun answer h5 after => ?_)
    intro authenticated _
    refine ⟨credentialId, signCount, ⟨named, (WebAuthn.of_verifyAssertion valid).1⟩, _,
      (own_suffix after.le t).subset (own ▸ mem_cons_self), countFor_eq_some.mpr rfl⟩

structure Forward (credentialId : Text) (h : History authStore) : Prop where
  accepted
    : ∀ issued ∈ h.log, ∀ signCount, countFor credentialId issued.command = some signCount
        → 0 < storedCount credentialId issued.before
        → storedCount credentialId issued.before < signCount
  distinct
    : (acceptedCounts credentialId h.log).Pairwise (fun later earlier => 0 < earlier → earlier < later)
  below : ∀ signCount ∈ acceptedCounts credentialId h.log, signCount ≤ storedCount credentialId h.state

/-- A stored counter that goes forward is at least the one before. -/
theorem storedCount_le_exec (timely : Timely db cmd)
    (pos
      : ∀ signCount, countFor credentialId cmd = some signCount
        → 0 < storedCount credentialId db → 0 < signCount)
    : storedCount credentialId db ≤ storedCount credentialId (exec cmd db).2 := by
  rw [storedCount_exec timely]
  cases counts : countFor credentialId cmd with
  | none => exact le_refl _
  | some signCount =>
    rcases Nat.eq_zero_or_pos (storedCount credentialId db) with zero | counting
    · simp [zero]
    · exact Nat.le_of_lt (accepted_of_timely timely counts (pos signCount counts) counting)

theorem Forward.exec (forward : Forward credentialId h) (timely : Timely h.state cmd)
    (pos
      : ∀ signCount, countFor credentialId cmd = some signCount
        → 0 < storedCount credentialId h.state → 0 < signCount)
    : Forward credentialId (h.exec t cmd) := by
  have grows := storedCount_le_exec timely pos
  constructor
  · intro issued mem signCount counts counting
    rcases mem_cons.mp mem with rfl | old
    · exact accepted_of_timely timely counts (pos signCount counts) counting
    · exact forward.accepted issued old signCount counts counting
  · unfold acceptedCounts
    rw [exec_log, filterMap_cons]
    cases counts : countFor credentialId cmd with
    | none => exact forward.distinct
    | some signCount =>
      refine pairwise_cons.mpr ⟨fun prior mem counting => ?_, forward.distinct⟩
      have le := forward.below prior mem
      have above := accepted_of_timely timely counts (pos signCount counts) (by omega)
      omega
  · unfold acceptedCounts
    rw [exec_log, filterMap_cons]
    cases counts : countFor credentialId cmd with
    | none => exact fun signCount mem => (forward.below signCount mem).trans grows
    | some signCount =>
      intro accepted mem
      rcases mem_cons.mp mem with rfl | old
      · simp only [exec_state, authStore]
        rw [storedCount_exec timely, counts, getD_some]
      · exact (forward.below accepted old).trans grows

theorem spares_of_storesInOrder (config : Config authStore Login Failure Authenticated) (t : Nat)
    (inOrder : StoresInOrder config t)
    : config.Spares Timely t := by
  intro cmd pending timely u waiting other waits fits
  refine timely.exec fits (fun credentialId signCount later counts counted => ?_)
  have inside : u < config.threads.length := by
    obtain ⟨thread, found, _⟩ := bind_eq_some_iff.mp waits
    exact (List.getElem?_eq_some_iff.mp found).1
  have stores : (credentialId, signCount) ∈ (config.pending t).bind counting := by
    rw [pending]
    exact counts
  refine (inOrder _ stores).2 u (mem_range.mpr inside) other later ?_
  rw [waits]
  exact counted

theorem positive_of_storesInOrder {config : Config authStore Login Failure Authenticated}
    (inOrder : StoresInOrder config t) (pending : config.pending t = some cmd)
    : ∀ signCount, countFor credentialId cmd = some signCount
      → 0 < storedCount credentialId config.state → 0 < signCount := by
  intro signCount counts
  cases countFor_eq_some.mp counts
  have stores : (credentialId, signCount) ∈ (config.pending t).bind counting := by
    rw [pending]
    rfl
  exact (inOrder _ stores).1

section

variable (env) (webAuthn) (start : Database) (schedule : List (Action authStore Login))

/-- While logins store their counters in order, no counter in hand becomes late. -/
theorem heeding_loginRun {schedule : List (Action authStore Login)}
    (inOrder : (Config.init start).Admitted (Login.body env webAuthn) StoresInOrder schedule)
    : (loginRun env webAuthn start schedule).Heeding Timely := by
  refine inOrder.heeding heedful_login spares_of_storesInOrder (fun event => isEmptyElim event) ?_
  constructor
  · intro thread mem
    cases mem
  · intro thread mem
    cases mem

/-- The stored counter never decreases. Witness: induction on what is done after the first part. -/
theorem storedCount_le_loginRun {prior later : List (Action authStore Login)} (credentialId : Text)
    (inOrder
      : (Config.init start).Admitted (Login.body env webAuthn) StoresInOrder (prior ++ later))
    : storedCount credentialId (loginRun env webAuthn start prior).state
      ≤ storedCount credentialId (loginRun env webAuthn start (prior ++ later)).state := by
  obtain ⟨first, second⟩ := (admitted_append prior later).mp inOrder
  rw [loginRun, loginRun, run_append]
  refine second.history
    (J := fun h =>
      storedCount credentialId (loginRun env webAuthn start prior).state
      ≤ storedCount credentialId h.state)
    (le_refl _) (fun between t cmd admitted now pending soFar => ?_)
    (fun _ event => isEmptyElim event)
  have heeding := heeding_loginRun env webAuthn start
    ((admitted_append prior between).mpr ⟨first, admitted⟩)
  rw [loginRun, run_append] at heeding
  exact soFar.trans
    (storedCount_le_exec (heeding.fit_pending pending) (positive_of_storesInOrder now pending))

theorem forward_loginRun {schedule : List (Action authStore Login)} (credentialId : Text)
    (inOrder : (Config.init start).Admitted (Login.body env webAuthn) StoresInOrder schedule)
    : Forward credentialId (loginRun env webAuthn start schedule).history := by
  refine inOrder.history (J := Forward credentialId) ?_
    (fun before t cmd admitted now pending forward => ?_) (fun _ event => isEmptyElim event)
  · refine ⟨?_, List.Pairwise.nil, ?_⟩
    · intro issued mem
      cases mem
    · intro signCount mem
      cases mem
  · exact forward.exec ((heeding_loginRun env webAuthn start admitted).fit_pending pending)
      (positive_of_storesInOrder now pending)

/-- Counters go forward as long as every login stores its counter in order: none that is zero over a positive
one, and none after a greater one that other logins had verified at the same time. Witness: no counter in
hand becomes late, so every one is compared with what it replaces.
-/
theorem countersGoForward
    (inOrder : (Config.init start).Admitted (Login.body env webAuthn) StoresInOrder schedule)
    : CountersGoForward env webAuthn start schedule := by
  refine ⟨?_, ?_, ?_, ?_⟩
  · rintro credentialId earlier ⟨later, rfl⟩
    exact storedCount_le_loginRun env webAuthn start credentialId inOrder
  · intro issued member credentialId signCount counts counting
    exact (forward_loginRun env webAuthn start credentialId inOrder).accepted issued member signCount
      counts counting
  · intro credentialId
    exact (forward_loginRun env webAuthn start credentialId inOrder).distinct
  · intro thread login authenticated asked answered
    have sound
        : (loginProtocol start).Sound (LoggedIn webAuthn) (loginRun env webAuthn start schedule) :=
      (loginProtocol start).sound (fun _ _ _ _ _ => meets_login) Kept.nil schedule
    obtain ⟨entry, found, same, answered⟩ := entry_of_answer asked answered
    have loggedIn := sound.post_of_answer found answered
    rw [same] at loggedIn
    exact loggedIn authenticated rfl

end

/-- Two logins in turn are both accepted. -/
theorem countersGoForward_inTurn
    : CountersGoForward Sample.env Sample.webAuthn Sample.passkeyed Sample.loginsInTurn
      ∧ acceptedCounts (text "k")
          (loginRun Sample.env Sample.webAuthn Sample.passkeyed Sample.loginsInTurn).history.log
        = [9, 7] :=
  ⟨countersGoForward env webAuthn passkeyed loginsInTurn
      (by decide +kernel),
    by decide +kernel⟩

/-- Of two logins at once the one with the smaller counter is stored last; and a counter of zero is stored
over a positive one.
-/
theorem countersGoBack
    : ¬ CountersGoForward Sample.env Sample.webAuthn Sample.passkeyed Sample.loginsCrossed
      ∧ ¬ CountersGoForward Sample.env Sample.webAuthn Sample.passkeyed Sample.loginWithZero := by
  constructor
  · intro forward
    have back
        : acceptedCounts (text "k")
            (loginRun env webAuthn passkeyed loginsCrossed).history.log
          = [7, 9] := by decide +kernel
    have distinct := forward.distinct (text "k")
    rw [back] at distinct
    exact absurd ((pairwise_cons.mp distinct).1 9 (mem_singleton.mpr rfl)) (by decide)
  · intro forward
    have kept := forward.stored (text "k") [] nil_prefix
    exact absurd kept (by decide +kernel)

end CairnStone.CoreAuth
