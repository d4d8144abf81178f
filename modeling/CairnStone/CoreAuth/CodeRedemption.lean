import CairnStone.CoreAuth.CallParts
import CairnStone.Concurrency.Admission

/-! Redemption of authorization codes. Every check is made on a copy of the code's row; the `UPDATE` that
marks the code used changes a row only where the code is unused, and a used code never becomes unused. So
one call gets past it, and no call mints anything before.
-/

namespace CairnStone.CoreAuth

open JavaScript Data Concurrency Protocol List Database History Kept Bool Sample

variable {codeHash : Text} {issued : Issued authStore} {clock : Int}

def uses (codeHash : Text) (issued : Issued authStore) : Bool :=
  match issued.command with
  | .useCode used =>
    used == codeHash
    && (Database.codes issued.before).countP (fun row =>
      row.codeHash == used && row.status == .unused) == 1
  | _ => false

/-- The statement inserts a connection, a token family or a token. -/
def mints : Command → Bool
  | .insert (.connection _) | .insert (.family _) | .insert (.accessToken _)
  | .insert (.refreshToken _) => true
  | _ => false

def Redeems (config : Config authStore Call Failure Answer) (thread : Nat) (codeHash : Text)
    : Prop :=
  ∃ issued ∈ config.history.own thread, uses codeHash issued = true

def Mints (config : Config authStore Call Failure Answer) (thread : Nat) : Prop :=
  ∃ issued ∈ config.history.own thread, mints issued.command = true

/-- The caller presents what the code was issued for, in time. A call that names no resource accepts the
resource of the code.
-/
structure RedeemArgs.Rightful (env : Env) (args : RedeemArgs) (now : Int) (row : CodeRow) : Prop where
  code : hashSecret env args.code = row.codeHash
  clientId : args.clientId = row.clientId
  redirectUri : args.redirectUri = row.redirectUri
  resource
    : ∀ resource, truthy args.resource = some resource → oauthResourcesMatch row.resource resource
  verifier : pkceChallengeS256 env args.codeVerifier = row.codeChallenge
  inTime : now ≤ row.expiresAt

/-- Codes are redeemed at most once, and by whoever presents what they were issued for. -/
structure CodesAreSingleUse (env : Env) (config : Config authStore Call Failure Answer) : Prop where
  once : ∀ codeHash, config.history.log.countP (uses codeHash) ≤ 1
  single
    : ∀ codeHash thread thread',
        Redeems config thread codeHash → Redeems config thread' codeHash → thread = thread'
  rightful
    : ∀ thread args draw now mintedAt codeHash,
        config.call thread = some (.redeemAuthorizationCode args draw now mintedAt)
        → Redeems config thread codeHash
        → ∃ row ∈ config.state.codes, row.codeHash = codeHash ∧ args.Rightful env now row
  earned
    : ∀ thread args draw now mintedAt,
        config.call thread = some (.redeemAuthorizationCode args draw now mintedAt)
        → Mints config thread → Redeems config thread (hashSecret env args.code)
  rejected
    : ∀ thread args draw now mintedAt refusal,
        config.call thread = some (.redeemAuthorizationCode args draw now mintedAt)
        → config.answer thread = some (.error (.refused refusal)) → ¬ Mints config thread

/-- Whoever redeems a code presents a resource equivalent to the code's. -/
def PresentsResource (config : Config authStore Call Failure Answer) : Prop :=
  ∀ thread args draw now mintedAt codeHash,
    config.call thread = some (.redeemAuthorizationCode args draw now mintedAt)
    → Redeems config thread codeHash
    → ∃ resource, args.resource = some resource
      ∧ ∃ row ∈ config.state.codes,
          row.codeHash = codeHash ∧ oauthResourcesMatch row.resource resource

namespace Sample

def client : ClientRow where
  clientId := text "c"
  active := true
  redirectUris := some [text "https://c/cb"]

/-- The code of an account that has signed in by an invite, presented without a resource. -/
def unresourced : RedeemArgs where
  code := randomToken "csac" [0]
  codeVerifier := text "v"
  redirectUri := text "https://c/cb"
  clientId := text "c"
  resource := none
  expectedIss := none

def connectionDraw (n : Fin 256) : ConnectionDraw where
  accessToken := [n]
  refreshToken := [n]
  tokenFamilyId := [n]
  connectionId := [n]
  principalId := [n]

/-- An account and an invite, an authorization that the invite authenticates and its user approves, and
the redemption of the code.
-/
def redemption : List (Action authStore Call) :=
  let url : Url := { origin := text "https://o", hostname := text "o" }
  let params : AuthorizeParams :=
    { responseType := text "code", clientId := text "c", redirectUri := text "https://c/cb"
      codeChallenge := pkceChallengeS256 env (text "v"), codeChallengeMethod := none
      resource := none, scope := none, state := none }
  let sessionToken := randomToken "oastok" [0]
  .spawn (.createOwnerAccount (text "o") (text "k") { tenantId := [0], accountId := [0] })
    :: steps 10 0
    ++ .spawn (.mintLoginInvite (mintId .account [0]) 0 { inviteId := [0], inviteCode := [0] } 0)
    :: steps 10 1
    ++ .spawn
        (.beginOauthAuthorize params (.ok ()) url { sessionId := [0], sessionToken := [0] } 0)
    :: steps 10 2
    ++ .spawn
        (.redeemLoginInviteForSession
          { sessionToken, inviteCode := randomToken "csinv" [0], clientIp := text "i" } [0] 0 0)
    :: steps 20 3
    ++ .spawn (.approveAuthorizeSession sessionToken [0] 0) :: steps 10 4
    ++ .spawn (.redeemAuthorizationCode unresourced (connectionDraw 0) 0 0) :: steps 20 5

end Sample

def Spent (codeHash : Text) (db : Database) : Prop :=
  ∃ row ∈ db.codes, row.codeHash = codeHash ∧ row.status ≠ .unused

theorem Spent.exec {db : Database} (spent : Spent codeHash db) (cmd : Command)
    : Spent codeHash (Database.exec cmd db).2 := by
  obtain ⟨row, mem, same, ended⟩ := spent
  obtain ⟨row', mem', becomes⟩ := codes_exec cmd db row mem
  refine ⟨row', mem', ?_, becomes.ended ended⟩
  rw [becomes.columns]
  exact same

theorem uses_iff
    : uses codeHash issued = true
      ↔ issued.command = .useCode codeHash
        ∧ (codes issued.before).countP (fun row =>
            row.codeHash == codeHash && row.status == .unused) = 1 := by
  unfold uses
  split
  · rename_i used cmd
    rw [cmd, and_eq_true, beq_iff_eq, beq_iff_eq]
    constructor
    · rintro ⟨rfl, one⟩
      exact ⟨rfl, one⟩
    · rintro ⟨same, one⟩
      cases same
      exact ⟨rfl, one⟩
  · rename_i other
    exact ⟨fun never => absurd never false_ne_true,
      fun used => absurd used.1 (other codeHash)⟩

theorem spent_of_uses (used : uses codeHash issued = true)
    : Spent codeHash (Database.exec issued.command issued.before).2 := by
  obtain ⟨cmd, one⟩ := uses_iff.mp used
  have some : 0 < (codes issued.before).countP (fun row =>
      row.codeHash == codeHash && row.status == .unused) := by omega
  obtain ⟨row, mem, unused⟩ := countP_pos_iff.mp some
  rw [cmd]
  refine ⟨{ row with status := .used }, mem_updateWhere.mpr ⟨row, mem, ?_⟩, ?_, ?_⟩
  · rw [if_pos unused]
  · simp only [and_eq_true, beq_iff_eq] at unused
    exact unused.1
  · exact fun same => by cases same

/-- A spent code is not marked used again: no second row has its hash. -/
theorem not_uses_of_spent (lawful : Lawful issued.before)
    (spent : Spent codeHash issued.before)
    : uses codeHash issued = false := by
  by_contra other
  obtain ⟨_, one⟩ := uses_iff.mp (of_not_eq_false other)
  have some : 0 < (codes issued.before).countP (fun row =>
      row.codeHash == codeHash && row.status == .unused) := by omega
  obtain ⟨row, mem, unused⟩ := countP_pos_iff.mp some
  simp only [and_eq_true, beq_iff_eq] at unused
  obtain ⟨row', mem', same, ended⟩ := spent
  cases lawful.codes.eq_of_key mem mem' (unused.1.trans same.symm)
  exact ended unused.2

structure UsedOnce (h : History authStore) : Prop where
  lawful : Lawful h.state
  once : ∀ codeHash, h.log.countP (uses codeHash) ≤ 1
  spent : ∀ codeHash, 0 < h.log.countP (uses codeHash) → Spent codeHash h.state

theorem usedOnce_initial (clients : List ClientRow) : UsedOnce ⟨initial clients, []⟩ where
  lawful := lawful_initial clients
  once := fun _ => Nat.zero_le 1
  spent := fun _ used => absurd used (Nat.lt_irrefl 0)

/-- One statement marks a code used only if none has before. -/
theorem UsedOnce.exec {h : History authStore} (usedOnce : UsedOnce h) (t : Nat) (cmd : Command)
    : UsedOnce (h.exec t cmd) := by
  have counted (codeHash : Text)
      : (h.exec t cmd).log.countP (uses codeHash)
        = h.log.countP (uses codeHash) + if uses codeHash ⟨t, cmd, h.state⟩ then 1 else 0 :=
    countP_cons
  refine ⟨usedOnce.lawful.exec cmd, fun codeHash => ?_, fun codeHash used => ?_⟩
  · have before := usedOnce.once codeHash
    rw [counted]
    by_cases spent : 0 < h.log.countP (uses codeHash)
    · have unused : uses codeHash ⟨t, cmd, h.state⟩ = false :=
        not_uses_of_spent usedOnce.lawful (usedOnce.spent codeHash spent)
      rw [unused]
      simpa using before
    · split <;> omega
  · by_cases spent : 0 < h.log.countP (uses codeHash)
    · exact (usedOnce.spent codeHash spent).exec cmd
    · rw [counted] at used
      split at used
      · rename_i uses
        exact spent_of_uses uses
      · omega

def UsedBy (codeHash : Text) (t : Nat) (h : History authStore) : Prop :=
  ∃ issued ∈ h.own t, uses codeHash issued = true

def Unminted (t : Nat) (h : History authStore) : Prop :=
  ∀ issued ∈ h.own t, mints issued.command = false

/-- A redemption marks only the code that its caller presents rightfully, and mints after that. -/
def RedemptionPromise (env : Env) (t : Nat) (call : Call) (cmd : Command)
    (h : History authStore)
    : Prop :=
  match call with
  | .redeemAuthorizationCode args _ now _ =>
    (∀ codeHash, cmd = .useCode codeHash
      → ∃ row ∈ Database.codes h.state, row.codeHash = codeHash ∧ args.Rightful env now row)
    ∧ (mints cmd = true → UsedBy (hashSecret env args.code) t h)
  | _ => True

abbrev redemptionProtocol (env : Env) (start : Database) : Protocol authStore Call :=
  Protocol.pledging (M := authStore) start (RedemptionPromise env)

def Spares {α : Type} (t : Nat) (answer : Except Failure α) (h : History authStore) : Prop :=
  ∀ refusal, answer = .error (.refused refusal) → Unminted t h

def Unrefused {α : Type} (answer : Except Failure α) (_ : History authStore) : Prop :=
  ∀ refusal, answer ≠ .error (.refused refusal)

variable {env : Env} {start : Database} {t : Nat} {args : RedeemArgs} {draw : ConnectionDraw}
  {now mintedAt : Int} {h h' : History authStore} {α : Type}

theorem RedeemArgs.Rightful.becomes {row row' : CodeRow} (rightful : args.Rightful env now row)
    (becomes : row.Becomes row')
    : args.Rightful env now row' := by
  rw [becomes.columns]
  exact ⟨rightful.code, rightful.clientId, rightful.redirectUri, rightful.resource,
    rightful.verifier, rightful.inTime⟩

theorem UsedBy.moved (used : UsedBy codeHash t h) (own : h'.own t = h.own t)
    : UsedBy codeHash t h' := by
  obtain ⟨issued, mem, uses⟩ := used
  exact ⟨issued, own ▸ mem, uses⟩

theorem UsedBy.exec (used : UsedBy codeHash t h) (cmd : Command)
    : UsedBy codeHash t (h.exec t cmd) := by
  obtain ⟨issued, mem, uses⟩ := used
  have own : (h.exec t cmd).own t = ⟨t, cmd, h.state⟩ :: h.own t :=
    own_exec_self _ _ _
  exact ⟨issued, own ▸ .tail _ mem, uses⟩

theorem Unminted.exec (unminted : Unminted t h) {cmd : Command}
    (other : mints cmd = false)
    : Unminted t (h.exec t cmd) := by
  have own : (h.exec t cmd).own t = ⟨t, cmd, h.state⟩ :: h.own t :=
    own_exec_self _ _ _
  intro issued mem
  rcases mem_cons.mp (own ▸ mem) with rfl | old
  · exact other
  · exact unminted issued old

theorem Unminted.moved (unminted : Unminted t h) (own : h'.own t = h.own t) : Unminted t h' :=
  fun issued mem => unminted issued (own ▸ mem)

/-- A refusal by a call that has minted nothing. -/
theorem Unminted.spares {why : Refusal} (unminted : Unminted t h)
    : ∀ h', (redemptionProtocol env start).Interference t h h'
      → Spares (α := α) t (.error (.refused why)) h' :=
  fun _ moved _ _ => unminted.moved moved.own

/-- An insertion by a call that has marked its code used. -/
theorem meets_minting_bind {row : Row} {g : Unit → Auth α}
    (used : UsedBy (hashSecret env args.code) t h)
    (next
      : ∀ h', UsedBy (hashSecret env args.code) t h'
        → (redemptionProtocol env start).Meets t
            (.redeemAuthorizationCode args draw now mintedAt) (g ()) Unrefused h')
    : (redemptionProtocol env start).Meets t (.redeemAuthorizationCode args draw now mintedAt)
        ((insert row).bind g) Unrefused h := by
  refine meets_insert_bind (fun h' moved => ⟨?_, fun _ => used.moved moved.own⟩)
    (fun h' moved _ => next _ ((used.moved moved.own).exec _)) ?_
  · exact fun codeHash same => by cases same
  · exact fun _ _ same => by cases same

variable {answer : Except Failure α}

/-- Whether a call is refused does not depend on what it answers otherwise. -/
theorem Unrefused.map {β : Type} {f : α → β} (unrefused : Unrefused answer h)
    : Unrefused (answer.map f) h := by
  intro why same
  cases answer with
  | ok value => cases same
  | error error => exact unrefused why (congrArg Except.error (Except.error.inj same))

theorem Spares.map {β : Type} {f : α → β} (spares : Spares t answer h)
    : Spares t (answer.map f) h := by
  intro why same
  cases answer with
  | ok value => cases same
  | error error => exact spares why (congrArg Except.error (Except.error.inj same))

theorem meets_issueTokenPair {family : TokenFamilyRow} {generation : Nat} {pair : PairDraw}
    (used : UsedBy (hashSecret env args.code) t h)
    : (redemptionProtocol env start).Meets t (.redeemAuthorizationCode args draw now mintedAt)
        (issueTokenPair env family generation pair clock) Unrefused h := by
  refine meets_minting_bind used (fun h1 used => ?_)
  refine meets_minting_bind used (fun h2 used => ?_)
  exact .done (fun _ _ _ same => by cases same)

theorem meets_openConnection {connection : ConnectionRow} {authenticatorId resource : Text}
    {scopes : List Text} {authzVersion : Nat} {family : FamilyDraw}
    (aliases : connection.routingAliases = []) (used : UsedBy (hashSecret env args.code) t h)
    : (redemptionProtocol env start).Meets t (.redeemAuthorizationCode args draw now mintedAt)
        (openConnection env connection authenticatorId resource scopes authzVersion family clock)
        Unrefused h := by
  refine meets_minting_bind used (fun h1 used => ?_)
  rw [aliases]
  refine meets_minting_bind used (fun h2 used => ?_)
  exact Meets.map ((meets_issueTokenPair used).consequence
    (fun _ _ _ unrefused => unrefused.map))

/-- Minting for a marked code. What refuses it comes before the first insertion. -/
theorem meets_mintForCode {minting : MintArgs} {connection : ConnectionDraw}
    (aliases : minting.routingAliases = []) (used : UsedBy (hashSecret env args.code) t h)
    (unminted : Unminted t h)
    : (redemptionProtocol env start).Meets t (.redeemAuthorizationCode args draw now mintedAt)
        (mintConnectionUnderAccount env minting connection clock) (Spares t) h := by
  refine meets_fetch_bind (fun account h1 moved _ => ?_) unminted.spares
  replace used := used.moved moved.own
  replace unminted := unminted.moved moved.own
  refine meets_ensure_bind (fun _ => ?_) unminted.spares
  refine meets_fetch_bind (fun membership h2 moved _ => ?_) unminted.spares
  replace used := used.moved moved.own
  replace unminted := unminted.moved moved.own
  refine meets_fetch_bind (fun authenticator h3 moved _ => ?_) unminted.spares
  replace used := used.moved moved.own
  refine Meets.map ((meets_openConnection ?_ used).consequence ?_)
  · simp [aliases]
  · exact fun _ _ _ unrefused why denied => absurd denied (unrefused.map why)

/-- A code that was read goes on. -/
theorem code_later {row : CodeRow} (mem : row ∈ codes h.state)
    (inv : (redemptionProtocol env start).inv h)
    (after : (redemptionProtocol env start).After h h')
    : ∃ row' ∈ codes h'.state, row.Becomes row' := by
  refine state_grow (R := fun db : Database => ∃ row' ∈ db.codes, row.Becomes row') inv
    after.inv after.le ⟨row, mem, .refl row⟩ ?_
  rintro db cmd ⟨row', here, soFar⟩
  obtain ⟨row'', present', becomes⟩ := codes_exec cmd db row' here
  exact ⟨row'', present', soFar.trans becomes⟩

/-- A redemption keeps its promise, and has minted nothing when it is refused.
Witness: its checks are made on the row that it read, of which only the status can change.
-/
theorem meets_redeemAuthorizationCode (fresh : h.own t = [])
    : (redemptionProtocol env start).Meets t (.redeemAuthorizationCode args draw now mintedAt)
        (redeemAuthorizationCode env args draw now mintedAt) (Spares t) h := by
  have unminted : Unminted t h := fun issued mem => by rw [fresh] at mem; cases mem
  refine meets_fetch_bind (fun row h1 moved found => ?_) unminted.spares
  replace unminted := unminted.moved moved.own
  obtain ⟨mem, hash⟩ := mem_of_find found
  refine meets_ensure_bind (fun _ => ?_) unminted.spares
  split
  · refine meets_perform_bind (fun _ _ => ⟨?_, ?_⟩) (fun h2 moved2 => ?_)
    · exact fun _ same => by cases same
    · exact fun never => absurd never false_ne_true
    · exact meets_refuse ((unminted.moved moved2.own).exec rfl).spares
  · rename_i inTime
    refine meets_ensure_bind (fun clientId => ?_) unminted.spares
    refine meets_ensure_bind (fun redirectUri => ?_) unminted.spares
    refine meets_ensure_bind (fun _ => ?_) unminted.spares
    refine meets_ensure_bind (fun resource => ?_) unminted.spares
    refine meets_ensure_bind (fun verifier => ?_) unminted.spares
    have rightful : args.Rightful env now row := by
      refine ⟨hash.symm, clientId.symm, redirectUri.symm, fun value given => ?_, verifier,
        Int.not_lt.mp inTime⟩
      rw [given] at resource
      exact resource
    refine meets_perform_bind (fun h2 moved2 => ⟨?_, ?_⟩) (fun h2 moved2 => ?_)
    · intro codeHash same
      cases same
      obtain ⟨row', here, becomes⟩ := code_later mem moved.inv moved2.toAfter
      have rightful' := rightful.becomes becomes
      exact ⟨row', here, rightful'.code.symm, rightful'⟩
    · exact fun never => absurd never false_ne_true
    · have own : (h2.exec t (.useCode (hashSecret env args.code))).own t
          = ⟨t, .useCode (hashSecret env args.code), h2.state⟩ :: h2.own t :=
        own_exec_self _ _ _
      have unminted' := Unminted.exec (unminted.moved moved2.own)
        (show mints (.useCode (hashSecret env args.code)) = false from rfl)
      generalize counted
        : (Database.exec (.useCode (hashSecret env args.code)) h2.state).1 = edits
      change Nat at edits
      refine meets_ensure_bind (fun one => ?_) unminted'.spares
      refine meets_mintForCode rfl ⟨_, own ▸ mem_cons_self, ?_⟩ unminted'
      exact uses_iff.mpr ⟨rfl, counted.trans one⟩

def Redeemed (t : Nat) (call : Call) (_ : Database) (answer : Except Failure Answer)
    (h : History authStore)
    : Prop :=
  match call with
  | .redeemAuthorizationCode _ _ _ _ => Spares t answer h
  | _ => True

/-- Every call keeps to the agreement. -/
theorem meets_redemption {call : Call} (fresh : h.own t = [])
    : (redemptionProtocol env start).Meets t call (call.body env) (Redeemed t call h.state) h := by
  cases call with
  | redeemAuthorizationCode args draw now mintedAt =>
    exact Meets.map ((meets_redeemAuthorizationCode fresh).consequence
      (fun _ _ _ spares => spares.map))
  | _ => exact Meets.of_issues (.anything _) (fun _ _ _ => trivial) (fun _ _ _ => trivial)

/-- Two elements that satisfy a condition are the same if only one does. -/
theorem eq_of_countP_le_one {γ : Type} {p : γ → Bool} {l : List γ} (one : l.countP p ≤ 1) {a b : γ}
    (memberA : a ∈ l) (memberB : b ∈ l) (holdsA : p a = true) (holdsB : p b = true)
    : a = b := by
  rw [countP_eq_length_filter] at one
  have keptA : a ∈ l.filter p := mem_filter.mpr ⟨memberA, holdsA⟩
  have keptB : b ∈ l.filter p := mem_filter.mpr ⟨memberB, holdsB⟩
  cases kept : l.filter p with
  | nil =>
    rw [kept] at keptA
    cases keptA
  | cons first rest =>
    rw [kept] at one keptA keptB
    obtain rfl : rest = [] := eq_nil_of_length_eq_zero (by simpa using one)
    exact (mem_singleton.mp keptA).trans (mem_singleton.mp keptB).symm

section

variable (env) (clients : List ClientRow) (schedule : List (Action authStore Call))

theorem sound_redemption
    : (redemptionProtocol env (initial clients)).Sound Redeemed
        (authRun env clients schedule) :=
  (redemptionProtocol env (initial clients)).sound
    (fun _ _ _ _ fresh => meets_redemption fresh) nil schedule

theorem usedOnce_authRun : UsedOnce (authRun env clients schedule).history :=
  invariant (J := UsedOnce) (sound_redemption env clients schedule).inv
    (usedOnce_initial clients) (fun _ _ usedOnce => usedOnce.exec _ _)

theorem promised_redemption {thread : Nat} {issued : Issued authStore}
    (asked
      : (authRun env clients schedule).call thread
        = some (.redeemAuthorizationCode args draw now mintedAt))
    (mem : issued ∈ (authRun env clients schedule).history.own thread)
    : ∃ prior, issued :: prior <:+ (authRun env clients schedule).history.log
      ∧ (redemptionProtocol env (initial clients)).inv ⟨issued.before, prior⟩
      ∧ RedemptionPromise env thread (.redeemAuthorizationCode args draw now mintedAt)
          issued.command ⟨issued.before, prior⟩ := by
  obtain ⟨noted, rfl⟩ := mem_own.mp mem
  obtain ⟨later, prior, split⟩ := append_of_mem noted
  have le : issued :: prior <:+ (authRun env clients schedule).history.log := ⟨later, split.symm⟩
  obtain ⟨call, same, inv, due⟩ := Protocol.promised_at
    (fun _ _ _ _ fresh => meets_redemption fresh) nil schedule le
  cases (same.symm.trans asked)
  exact ⟨prior, le, inv, due⟩

/-- Authorization codes are redeemed at most once, by whoever presents what they were issued for, and a
refused redemption mints nothing. Witness: the one statement that marks a code used finds it unused.
-/
theorem codesAreSingleUse : CodesAreSingleUse env (authRun env clients schedule) := by
  have sound := sound_redemption env clients schedule
  have usedOnce := usedOnce_authRun env clients schedule
  refine ⟨usedOnce.once, ?_, ?_, ?_, ?_⟩
  · rintro codeHash thread thread' ⟨issued, own, uses⟩ ⟨issued', own', uses'⟩
    obtain ⟨logged, rfl⟩ := mem_own.mp own
    obtain ⟨logged', rfl⟩ := mem_own.mp own'
    exact congrArg Issued.thread
      (eq_of_countP_le_one (usedOnce.once codeHash) logged logged' uses uses')
  · rintro thread args draw now mintedAt codeHash asked ⟨issued, own, uses⟩
    obtain ⟨earlier, le, inv, marks, _⟩ := promised_redemption env clients schedule asked own
    obtain ⟨row, member, rfl, rightful⟩ := marks codeHash (uses_iff.mp uses).1
    obtain ⟨row', member', becomes⟩ := code_later member inv
      ⟨(suffix_cons _ _).trans le, sound.inv⟩
    refine ⟨row', member', ?_, rightful.becomes becomes⟩
    rw [becomes.columns]
  · rintro thread args draw now mintedAt asked ⟨issued, own, minting⟩
    obtain ⟨earlier, le, _, _, earned⟩ := promised_redemption env clients schedule asked own
    obtain ⟨marking, own', uses⟩ := earned minting
    exact ⟨marking, (own_suffix ((suffix_cons _ _).trans le) thread).subset own', uses⟩
  · rintro thread args draw now mintedAt refusal asked answered ⟨issued, own, minting⟩
    obtain ⟨entry, found, same, answered⟩ := entry_of_answer asked answered
    have redeemed := sound.post_of_answer found answered
    rw [same] at redeemed
    have unminted : mints issued.command = false := redeemed refusal rfl issued own
    rw [unminted] at minting
    cases minting

end

/-- A call that names no resource redeems its code. -/
theorem redemptionNeedsNoResource
    : ¬ PresentsResource (authRun Sample.env [Sample.client] Sample.redemption)
      ∧ ((authRun Sample.env [Sample.client] Sample.redemption).answer 5).any (·.toOption.isSome)
        = true := by
  refine ⟨fun presents => ?_, by decide +kernel⟩
  have used
      : ((authRun env [client] redemption).history.own 5).any
          (uses (randomToken "csac" [0])) = true := by decide +kernel
  obtain ⟨issued, own, uses⟩ := any_eq_true.mp used
  obtain ⟨resource, presented, _⟩ := presents 5 unresourced (connectionDraw 0) 0 0
    (randomToken "csac" [0]) (Config.call_run _ _ _ 5) ⟨issued, own, uses⟩
  cases presented

end CairnStone.CoreAuth
