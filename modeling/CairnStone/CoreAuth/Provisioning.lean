import CairnStone.CoreAuth.Calls
import CairnStone.CoreAuth.Effects

/-! What a refused provisioning leaves behind. Every check comes before the first insertion except the
claims of the routing aliases, which come after the connection is inserted: a call that is refused there
leaves its connection, and whatever it has inserted before, in place.
-/

namespace CairnStone.CoreAuth

open JavaScript Data Concurrency Option Database List Sample Bool

variable {refusal : Refusal} {connection : ConnectionRow} {now : Int}

/-- What an uninterrupted call answers and leaves. -/
def Yields {α : Type} (p : Auth α) (Q : Except Failure α → Database → Prop) (db : Database) : Prop :=
  Q (Program.run p db).1 (Program.run p db).2

variable {α β : Type} {Q : Except Failure α → Database → Prop} {db db' : Database}
  {g : β → Auth α}

theorem Yields.bind {p : Auth β}
    (first
      : Yields p
          (fun answer db' =>
            match answer with
            | .ok value => Yields (g value) Q db'
            | .error error => Q (.error error) db') db)
    : Yields (p.bind g) Q db := by
  unfold Yields at first ⊢
  rw [Program.run_bind]
  cases ran : Program.run p db with
  | mk answer after =>
    rw [ran] at first
    cases answer with
    | ok value => exact first
    | error error => exact first

theorem Yields.consequence {p : Auth α} {R : Except Failure α → Database → Prop}
    (yields : Yields p R db) (weaken : ∀ answer db', R answer db' → Q answer db')
    : Yields p Q db :=
  weaken _ _ yields

theorem yields_select_bind {f : Database → β} (rest : Yields (g (f db)) Q db)
    : Yields ((select f).bind g) Q db :=
  rest

theorem yields_require_bind {found : Option β}
    (here : ∀ value, found = some value → Yields (g value) Q db)
    (lost : found = none → Q (.error (.refused refusal)) db)
    : Yields ((require found refusal).bind g) Q db := by
  cases found with
  | some value => exact here value rfl
  | none => exact lost rfl

theorem yields_fetch_bind {f : Database → Option β}
    (here : ∀ value, f db = some value → Yields (g value) Q db)
    (lost : f db = none → Q (.error (.refused refusal)) db)
    : Yields ((select f).bind (fun row => (require row refusal).bind g)) Q db := by
  refine yields_select_bind ?_
  exact yields_require_bind here lost

theorem yields_ensure_bind {cond : Prop} [Decidable cond] {g : Unit → Auth α}
    (holds : cond → Yields (g ()) Q db)
    (fails : ¬ cond → Q (.error (.refused refusal)) db)
    : Yields ((ensure cond refusal).bind g) Q db := by
  unfold ensure
  split
  · rename_i cond
    exact holds cond
  · rename_i cond
    exact fails cond

theorem yields_perform_bind {cmd : Command} {g : cmd.Reply → Auth α}
    (rest : Yields (g (exec cmd db).1) Q (exec cmd db).2)
    : Yields ((perform cmd).bind g) Q db :=
  rest

theorem yields_insert_bind {row : Row} {g : Unit → Auth α}
    (added : db.taken row = false → Yields (g ()) Q (db.add row))
    (thrown : db.taken row = true → Q (.error (.thrown .unique)) db)
    : Yields ((insert row).bind g) Q db := by
  refine yields_perform_bind ?_
  rcases db.exec_insert row with ⟨taken, denied⟩ | ⟨free, put⟩
  · rw [denied]
    exact thrown taken
  · rw [put]
    exact added free

structure SameGrants (db db' : Database) : Prop where
  accounts : db'.accounts = db.accounts
  tenants : db'.tenants = db.tenants
  memberships : db'.memberships = db.memberships
  authenticators : db'.authenticators = db.authenticators
  connections : db'.connections = db.connections
  aliases : db'.aliases = db.aliases
  families : db'.families = db.families

theorem SameGrants.refl (db : Database) : SameGrants db db :=
  ⟨rfl, rfl, rfl, rfl, rfl, rfl, rfl⟩

/-- If the call is refused, it has changed nothing. -/
def AllOrNothing {α : Type} (p : Auth α) (db : Database) : Prop :=
  ∀ refusal, (Program.run p db).1 = .error (.refused refusal) → SameGrants db (Program.run p db).2

def contested (principalId : Text) (aliases : List Text) (db : Database) : Bool :=
  aliases.any (fun aliasName =>
    (db.routingAlias aliasName).any (fun row => !(row.active && row.principalId == principalId)))

/-- No connection has the ids that are drawn. -/
def ConnectionDraw.free (draw : ConnectionDraw) (db : Database) : Bool :=
  (db.connection (mintId .connection draw.connectionId)).isNone
  && !db.connections.any (·.principalId == mintId .principal draw.principalId)

/-- The account may mint a connection for the tenant and by the authenticator. -/
def MintArgs.admitted (args : MintArgs) (db : Database) : Bool :=
  match db.account args.accountId with
  | none => false
  | some account =>
    decide (¬ account.Barred)
    && (db.activeMembership args.accountId
        ((truthy args.tenantId).getD account.homeTenantId)).isSome
    && ((db.authenticatorOf args.authenticatorId args.accountId).filter
        (·.status == .active)).isSome

/-- The call inserts its connection, and then claims an alias that it cannot have. -/
def MintArgs.Overreaches (args : MintArgs) (draw : ConnectionDraw) (db : Database) : Prop :=
  args.admitted db = true ∧ draw.free db = true
  ∧ contested (mintId .principal draw.principalId) (args.routingAliases.take 16) db = true

/-- The account to provision under is there and active, or its ids are free. -/
def BootstrapArgs.admitted (args : BootstrapArgs) (draw : AccountDraw) (db : Database) : Bool :=
  match truthy args.existingAccountId with
  | some accountId =>
    match db.account accountId with
    | none => false
    | some account =>
      decide (¬ account.Barred)
      && (db.activeMembership accountId
          ((truthy args.selectTenantId).getD account.homeTenantId)).isSome
  | none =>
    !db.tenants.contains (mintId .tenant draw.tenantId)
    && (db.account (mintId .account draw.accountId)).isNone
    && (db.membership (mintId .account draw.accountId) (mintId .tenant draw.tenantId)).isNone

def BootstrapDraw.freeAuthenticator (draw : BootstrapDraw) (method : AuthenticatorMethod)
    (db : Database)
    : Bool :=
  (method ≠ .walletProof
    || !db.walletAccounts.contains (mintId .walletAccount draw.walletAccountId))
  && (db.authenticator (mintId .authenticator draw.authenticatorId)).isNone

/-- The call inserts its connection, and then claims an alias that it cannot have. -/
def BootstrapArgs.Overreaches (args : BootstrapArgs) (draw : BootstrapDraw) (db : Database) : Prop :=
  args.assuranceClass = AUTHENTICATOR_METHOD_ASSURANCE args.method
  ∧ args.admitted draw.account db = true
  ∧ draw.freeAuthenticator args.method db = true
  ∧ args.mintConnection = true
  ∧ draw.toConnectionDraw.free db = true
  ∧ contested (mintId .principal draw.principalId) (args.routingAliases.take 16) db = true

def Leaves {α : Type} (overreaches : Prop) (db : Database) (answer : Except Failure α)
    (db' : Database)
    : Prop :=
  (overreaches ∧ (∃ refusal, answer = .error (.refused refusal))
    ∧ db'.connections ≠ db.connections)
  ∨ ¬ overreaches ∧ ∀ refusal, answer = .error (.refused refusal) → SameGrants db db'

theorem allOrNothing_of_leaves {p : Auth α} {overreaches : Prop}
    (leaves : Yields p (Leaves overreaches db) db)
    : AllOrNothing p db ↔ ¬ overreaches := by
  rcases leaves with ⟨does, ⟨refusal, denied⟩, changed⟩ | ⟨not, same⟩
  · exact ⟨fun whole => absurd (whole refusal denied).connections changed,
      fun not => absurd does not⟩
  · exact ⟨fun _ => not, fun _ => same⟩

theorem contested_cons (principalId aliasName : Text) (rest : List Text) (db : Database)
    : contested principalId (aliasName :: rest) db
      = (contested principalId [aliasName] db || contested principalId rest db) := by
  simp [contested]

theorem contested_add {principalId : Text} {row : AliasRow} (active : row.active = true)
    (own : row.principalId = principalId) (aliases : List Text)
    : contested principalId aliases (db.add (.routingAlias row)) = contested principalId aliases db := by
  unfold contested
  congr 1
  funext aliasName
  have found
      : (db.add (.routingAlias row)).routingAlias aliasName
        = (db.routingAlias aliasName).or ([row].find? (·.aliasName == aliasName)) :=
    find?_append
  rw [found]
  cases db.routingAlias aliasName with
  | some known => rfl
  | none =>
    rw [none_or, any_none, find?_cons]
    split
    · simp [active, own]
    · rfl

theorem yields_claimRoutingAlias {aliasName : Text}
    : Yields (claimRoutingAlias connection aliasName)
        (fun answer db' =>
          contested connection.principalId [aliasName] db = true
            ∧ (∃ refusal, answer = .error (.refused refusal)) ∧ db' = db
          ∨ contested connection.principalId [aliasName] db = false ∧ answer = .ok ()
            ∧ db'.connections = db.connections
            ∧ ∀ aliases, contested connection.principalId aliases db'
                = contested connection.principalId aliases db) db := by
  have one
      : contested connection.principalId [aliasName] db
        = (db.routingAlias aliasName).any (fun row =>
            !(row.active && row.principalId == connection.principalId)) := by
    simp [contested]
  rw [one]
  refine yields_select_bind ?_
  cases found : db.routingAlias aliasName with
  | some row =>
    rw [any_some]
    by_cases held : row.active = true ∧ row.principalId = connection.principalId
    · simp only [ensure, if_pos held]
      refine .inr ⟨?_, rfl, rfl, fun _ => rfl⟩
      simp [held.1, held.2]
    · simp only [ensure, if_neg held]
      refine .inl ⟨?_, ⟨_, rfl⟩, rfl⟩
      cases active : row.active with
      | false => rfl
      | true => simpa using fun same => held ⟨active, same⟩
  | none =>
    refine yields_perform_bind ?_
    rw [any_none]
    rcases db.exec_insert (.routingAlias
        { aliasName, principalId := connection.principalId, accountId := connection.accountId
          tenantId := connection.tenantId, active := true }) with ⟨taken, _⟩ | ⟨_, put⟩
    · have known : (db.routingAlias aliasName).isSome = true := taken
      rw [found] at known
      cases known
    · rw [put]
      exact .inr ⟨rfl, rfl, rfl, contested_add rfl rfl⟩

/-- The claims of a connection are refused exactly if one of its aliases is contested.
Witness: induction on the aliases; a claim does not change what the other aliases are.
-/
theorem yields_claimRoutingAliases {aliases : List Text}
    : Yields (claimRoutingAliases connection aliases)
        (fun answer db' =>
          db'.connections = db.connections
          ∧ (contested connection.principalId aliases db = true
              ∧ (∃ refusal, answer = .error (.refused refusal))
            ∨ contested connection.principalId aliases db = false ∧ answer = .ok ())) db := by
  induction aliases generalizing db with
  | nil => exact ⟨rfl, .inr ⟨rfl, rfl⟩⟩
  | cons aliasName rest ih =>
    rw [contested_cons]
    refine Yields.bind (yields_claimRoutingAlias.consequence (fun answer db1 claimed => ?_))
    rcases claimed with ⟨first, ⟨refusal, rfl⟩, rfl⟩ | ⟨first, rfl, same, later⟩
    · rw [first]
      exact ⟨rfl, .inl ⟨rfl, refusal, rfl⟩⟩
    · rw [first, Bool.false_or, ← later, ← same]
      exact ih

/-- The call is not refused. -/
def Accepted {α : Type} (answer : Except Failure α) (_ : Database) : Prop :=
  ∀ refusal, answer ≠ .error (.refused refusal)

/-- A token family is inserted or an exception ends the call. -/
theorem yields_mintTokenFamily {env : Env} {authenticatorId resource : Text} {scopes : List Text}
    {authzVersion : Nat} {draw : FamilyDraw}
    : Yields (mintTokenFamily env connection authenticatorId resource scopes authzVersion draw now)
        Accepted db := by
  have thrown {α : Type} {db : Database} : Accepted (α := α) (.error (.thrown .unique)) db :=
    fun _ same => by cases same
  refine yields_insert_bind (fun _ => ?_) (fun _ => thrown)
  refine Yields.bind ?_
  refine yields_insert_bind (fun _ => ?_) (fun _ => thrown)
  refine yields_insert_bind (fun _ => ?_) (fun _ => thrown)
  exact fun _ same => by cases same

variable {draw : ConnectionDraw}

theorem yields_openConnection {env : Env} {authenticatorId resource : Text} {scopes : List Text}
    {authzVersion : Nat}
    (connectionId : connection.connectionId = mintId .connection draw.connectionId)
    (principalId : connection.principalId = mintId .principal draw.principalId)
    : Yields
        (openConnection env connection authenticatorId resource scopes authzVersion
          draw.toFamilyDraw now)
        (fun answer db' =>
          (draw.free db = true ∧ contested connection.principalId connection.routingAliases db = true)
            ∧ (∃ refusal, answer = .error (.refused refusal))
            ∧ db'.connections ≠ db.connections
          ∨ ¬ (draw.free db = true
              ∧ contested connection.principalId connection.routingAliases db = true)
            ∧ Accepted answer db') db := by
  have free : draw.free db = !db.taken (.connection connection) := by
    unfold ConnectionDraw.free
    rw [← connectionId, ← principalId]
    change _ = !((db.connection connection.connectionId).isSome || _)
    cases db.connection connection.connectionId with
    | none => simp
    | some row => simp
  rw [free]
  refine yields_insert_bind (fun untaken => ?_) (fun taken => ?_)
  · rw [untaken]
    refine Yields.bind (yields_claimRoutingAliases.consequence (fun answer db1 claimed => ?_))
    obtain ⟨same, ⟨first, refusal, rfl⟩ | ⟨first, rfl⟩⟩ := claimed
    · refine .inl ⟨⟨rfl, first⟩, ⟨refusal, rfl⟩, ?_⟩
      rw [same]
      exact fun grown => absurd (congrArg length grown) (by simp [add])
    · refine yields_mintTokenFamily.consequence (fun answer db2 accepted => .inr ⟨?_, accepted⟩)
      intro overreaches
      have uncontested
          : contested connection.principalId connection.routingAliases db = false := first
      rw [uncontested] at overreaches
      exact absurd overreaches.2 false_ne_true
  · rw [taken]
    exact .inr ⟨fun never => absurd never.1 false_ne_true,
      fun _ same => by cases same⟩

theorem yields_mintConnectionUnderAccount {env : Env} {args : MintArgs}
    : Yields (mintConnectionUnderAccount env args draw now) (Leaves (args.Overreaches draw db) db)
        db := by
  have denied {error : Failure} (unadmitted : args.admitted db = false)
      : Leaves (α := ConnectionMinted) (args.Overreaches draw db) db (.error error) db := by
    refine .inr ⟨fun overreaches => ?_, fun _ _ => .refl db⟩
    rw [overreaches.1] at unadmitted
    cases unadmitted
  refine yields_fetch_bind (fun account found => ?_) (fun lost => denied ?_)
  · have admitted
        : args.admitted db
          = (decide (¬ account.Barred)
            && (db.activeMembership args.accountId
                ((truthy args.tenantId).getD account.homeTenantId)).isSome
            && ((db.authenticatorOf args.authenticatorId args.accountId).filter
                (·.status == .active)).isSome) := by
      simp [MintArgs.admitted, found]
    rw [admitted] at denied
    refine yields_ensure_bind (fun active => ?_) (fun barred => denied ?_)
    · refine yields_fetch_bind (fun membership mem => ?_) (fun lost => denied ?_)
      · refine yields_fetch_bind (fun authenticator here => ?_) (fun lost => denied ?_)
        · refine Yields.bind ((yields_openConnection rfl rfl).consequence (fun answer db1 opened => ?_))
          have overreaches
              : args.Overreaches draw db
                ↔ draw.free db = true
                  ∧ contested (mintId .principal draw.principalId) (args.routingAliases.take 16) db
                    = true := by
            unfold MintArgs.Overreaches
            rw [admitted, mem, here]
            simp [active]
          rw [overreaches]
          rcases opened with ⟨does, ⟨refusal, rfl⟩, changed⟩ | ⟨not, accepted⟩
          · exact .inl ⟨does, ⟨refusal, rfl⟩, changed⟩
          · cases answer with
            | ok minted => exact .inr ⟨not, fun _ same => by cases same⟩
            | error error =>
              refine .inr ⟨not, fun refusal same => ?_⟩
              exact absurd (congrArg Except.error (Except.error.inj same)) (accepted refusal)
        · simp [lost]
      · simp [lost]
    · simp [Decidable.not_not.mp barred]
  · simp [MintArgs.admitted, lost]

structure SameConnections (db db' : Database) : Prop where
  walletAccounts : db'.walletAccounts = db.walletAccounts
  authenticators : db'.authenticators = db.authenticators
  connections : db'.connections = db.connections
  aliases : db'.aliases = db.aliases

/-- A new account is provisioned exactly if its ids are free. -/
theorem yields_provisionAccount {draw : AccountDraw} {displayName : Option Text}
    {homeWorkspaceId : Text → Text}
    : Yields (provisionAccount draw displayName homeWorkspaceId)
        (fun answer db' =>
          ((!db.tenants.contains (mintId .tenant draw.tenantId)
              && (db.account (mintId .account draw.accountId)).isNone
              && (db.membership (mintId .account draw.accountId)
                  (mintId .tenant draw.tenantId)).isNone) = true
            ∧ answer = .ok (mintId .account draw.accountId, mintId .tenant draw.tenantId)
            ∧ SameConnections db db' ∧ (db'.account (mintId .account draw.accountId)).isSome = true)
          ∨ (!db.tenants.contains (mintId .tenant draw.tenantId)
              && (db.account (mintId .account draw.accountId)).isNone
              && (db.membership (mintId .account draw.accountId)
                  (mintId .tenant draw.tenantId)).isNone) = false
            ∧ answer = .error (.thrown .unique)) db := by
  refine yields_insert_bind (fun tenant => ?_) (fun tenant => ?_)
  · have tenant : db.tenants.contains (mintId .tenant draw.tenantId) = false := tenant
    rw [tenant]
    refine yields_insert_bind (fun account => ?_) (fun account => ?_)
    · have account : (db.account (mintId .account draw.accountId)).isSome = false := account
      rw [isSome_eq_false_iff] at account
      rw [account]
      refine yields_insert_bind (fun membership => ?_) (fun membership => ?_)
      · have membership
            : (db.membership (mintId .account draw.accountId)
                (mintId .tenant draw.tenantId)).isSome = false := membership
        rw [isSome_eq_false_iff] at membership
        rw [membership]
        refine .inl ⟨rfl, rfl, ⟨rfl, rfl, rfl, rfl⟩, ?_⟩
        refine find?_isSome.mpr ⟨_, mem_append_right _ (.head _), ?_⟩
        exact beq_self_eq_true _
      · have membership
            : (db.membership (mintId .account draw.accountId)
                (mintId .tenant draw.tenantId)).isSome = true := membership
        exact .inr ⟨by simp [isNone_eq_false_iff.mpr membership], rfl⟩
    · have account : (db.account (mintId .account draw.accountId)).isSome = true := account
      exact .inr ⟨by simp [isNone_eq_false_iff.mpr account], rfl⟩
  · have tenant : db.tenants.contains (mintId .tenant draw.tenantId) = true := tenant
    exact .inr ⟨by rw [tenant]; rfl, rfl⟩

theorem yields_bootstrapAccount {args : BootstrapArgs} {draw : AccountDraw}
    : Yields (bootstrapAccount args draw)
        (fun answer db' =>
          (args.admitted draw db = true ∧ (∃ found, answer = .ok found) ∧ SameConnections db db')
          ∨ args.admitted draw db = false ∧ (∃ error, answer = .error error)
            ∧ ∀ refusal, answer = .error (.refused refusal) → SameGrants db db') db := by
  unfold bootstrapAccount BootstrapArgs.admitted
  cases truthy args.existingAccountId with
  | some accountId =>
    simp only []
    refine yields_fetch_bind (fun account found => ?_) (fun lost => ?_)
    · rw [found]
      simp only []
      refine yields_ensure_bind (fun active => ?_) (fun barred => ?_)
      · refine yields_fetch_bind (fun membership mem => ?_) (fun lost => ?_)
        · rw [mem]
          exact .inl ⟨by simp [active], ⟨_, rfl⟩, ⟨rfl, rfl, rfl, rfl⟩⟩
        · rw [lost]
          exact .inr ⟨by simp, ⟨_, rfl⟩, fun _ _ => .refl db⟩
      · exact .inr ⟨by simp [Decidable.not_not.mp barred], ⟨_, rfl⟩, fun _ _ => .refl db⟩
    · rw [lost]
      exact .inr ⟨rfl, ⟨_, rfl⟩, fun _ _ => .refl db⟩
  | none =>
    simp only []
    refine Yields.bind (yields_provisionAccount.consequence (fun answer db1 provisioned => ?_))
    rcases provisioned with ⟨free, rfl, same, here⟩ | ⟨taken, rfl⟩
    · refine yields_fetch_bind (fun account _ => ?_) (fun lost => ?_)
      · exact .inl ⟨free, ⟨_, rfl⟩, same⟩
      · rw [lost] at here
        cases here
    · exact .inr ⟨taken, ⟨_, rfl⟩, fun _ denied => by cases denied⟩

theorem yields_provisionWallet {method : AuthenticatorMethod} {bytes : Bytes}
    : Yields (provisionWallet method bytes)
        (fun answer db' =>
          ((method ≠ .walletProof || !db.walletAccounts.contains (mintId .walletAccount bytes)) = true
            ∧ (∃ walletAccountId, answer = .ok walletAccountId)
            ∧ db'.authenticators = db.authenticators ∧ db'.connections = db.connections
            ∧ db'.aliases = db.aliases)
          ∨ (method ≠ .walletProof
              || !db.walletAccounts.contains (mintId .walletAccount bytes)) = false
            ∧ answer = .error (.thrown .unique)) db := by
  unfold provisionWallet
  split
  · rename_i wallet
    refine yields_insert_bind (fun free => ?_) (fun taken => ?_)
    · have free : db.walletAccounts.contains (mintId .walletAccount bytes) = false := free
      exact .inl ⟨by rw [free]; exact or_true _, ⟨_, rfl⟩, rfl, rfl, rfl⟩
    · have taken : db.walletAccounts.contains (mintId .walletAccount bytes) = true := taken
      exact .inr ⟨by rw [taken]; simp [wallet], rfl⟩
  · rename_i other
    exact .inl ⟨by simp [other], ⟨_, rfl⟩, rfl, rfl, rfl⟩

theorem free_of_same (same : db'.connections = db.connections)
    : draw.free db' = draw.free db := by
  unfold ConnectionDraw.free connection
  rw [same]

theorem contested_of_same {principalId : Text} {aliases : List Text} (same : db'.aliases = db.aliases)
    : contested principalId aliases db' = contested principalId aliases db := by
  unfold contested routingAlias
  rw [same]

/-- A provisioning call overreaches or leaves nothing behind. -/
theorem yields_bootstrapAccountConnection {env : Env} {args : BootstrapArgs} {draw : BootstrapDraw}
    : Yields (bootstrapAccountConnection env args draw now) (Leaves (args.Overreaches draw db) db)
        db := by
  unfold BootstrapArgs.Overreaches
  refine yields_ensure_bind (fun pair => ?_) (fun mismatch => ?_)
  · refine Yields.bind (yields_bootstrapAccount.consequence (fun answer db1 provisioned => ?_))
    rcases provisioned with ⟨admitted, ⟨found, rfl⟩, same⟩ | ⟨unadmitted, ⟨error, rfl⟩, denied⟩
    · refine Yields.bind (yields_provisionWallet.consequence (fun answer db2 wallet => ?_))
      rw [same.walletAccounts, same.authenticators, same.connections, same.aliases] at wallet
      rcases wallet with ⟨free, ⟨walletAccountId, rfl⟩, authenticators, connections, aliases⟩ | ⟨taken, rfl⟩
      · refine yields_insert_bind (fun untaken => ?_) (fun known => ?_)
        · have untaken
              : (db.authenticator (mintId .authenticator draw.authenticatorId)).isSome = false := by
            unfold authenticator
            rw [← authenticators]
            exact untaken
          have freed : draw.freeAuthenticator args.method db = true := by
            unfold BootstrapDraw.freeAuthenticator
            rw [free, isSome_eq_false_iff.mp untaken]
            rfl
          split
          · rename_i minting
            refine Yields.bind ((yields_openConnection rfl rfl).consequence
              (fun answer db3 opened => ?_))
            have fresh (row : AuthenticatorRow)
                : draw.toConnectionDraw.free (db2.add (.authenticator row))
                  = draw.toConnectionDraw.free db :=
              free_of_same connections
            have held (row : AuthenticatorRow) (principalId : Text) (claims : List Text)
                : contested principalId claims (db2.add (.authenticator row))
                  = contested principalId claims db :=
              contested_of_same aliases
            rw [fresh, held] at opened
            have overreaches
                : (args.assuranceClass = AUTHENTICATOR_METHOD_ASSURANCE args.method
                    ∧ args.admitted draw.account db = true
                    ∧ draw.freeAuthenticator args.method db = true ∧ args.mintConnection = true
                    ∧ draw.toConnectionDraw.free db = true
                    ∧ contested (mintId .principal draw.principalId) (args.routingAliases.take 16) db
                      = true)
                  ↔ draw.toConnectionDraw.free db = true
                    ∧ contested (mintId .principal draw.principalId) (args.routingAliases.take 16) db
                      = true := by
              simp [pair, admitted, freed, minting]
            rw [overreaches]
            rcases opened with ⟨does, ⟨refusal, rfl⟩, changed⟩ | ⟨not, accepted⟩
            · exact .inl ⟨does, ⟨refusal, rfl⟩, connections ▸ changed⟩
            · cases answer with
              | ok minted => exact .inr ⟨not, fun _ same => by cases same⟩
              | error error =>
                refine .inr ⟨not, fun refusal same => ?_⟩
                exact absurd (congrArg Except.error (Except.error.inj same)) (accepted refusal)
          · rename_i accountOnly
            exact .inr ⟨fun overreaches => accountOnly overreaches.2.2.2.1,
              fun _ same => by cases same⟩
        · have known
              : (db.authenticator (mintId .authenticator draw.authenticatorId)).isSome = true := by
            unfold authenticator
            rw [← authenticators]
            exact known
          refine .inr ⟨fun overreaches => ?_, fun _ same => by cases same⟩
          have freed := overreaches.2.2.1
          unfold BootstrapDraw.freeAuthenticator at freed
          simp [isNone_eq_false_iff.mpr known] at freed
      · refine .inr ⟨fun overreaches => ?_, fun _ same => by cases same⟩
        have freed := overreaches.2.2.1
        unfold BootstrapDraw.freeAuthenticator at freed
        rw [taken] at freed
        cases freed
    · refine .inr ⟨fun overreaches => ?_, fun refusal same => ?_⟩
      · rw [overreaches.2.1] at unadmitted
        cases unadmitted
      · exact denied refusal (congrArg Except.error (Except.error.inj same))
  · exact .inr ⟨fun overreaches => mismatch overreaches.1, fun _ _ => .refl db⟩

/-- Provisioning and minting are all-or-nothing exactly where the call does not overreach. -/
theorem provisioningIsAllOrNothing_iff (env : Env) (db : Database) (now : Int)
    : (∀ (args : BootstrapArgs) (draw : BootstrapDraw),
        AllOrNothing (bootstrapAccountConnection env args draw now) db
          ↔ ¬ args.Overreaches draw db)
      ∧ ∀ (args : MintArgs) (draw : ConnectionDraw),
          AllOrNothing (mintConnectionUnderAccount env args draw now) db
            ↔ ¬ args.Overreaches draw db :=
  ⟨fun _ _ => allOrNothing_of_leaves yields_bootstrapAccountConnection,
    fun _ _ => allOrNothing_of_leaves yields_mintConnectionUnderAccount⟩

namespace Sample

def claimant (aliases : List Text) : BootstrapArgs where
  clientFamily := text "c"
  method := .passkeyWebauthn
  assuranceClass := .webauthn
  displayName := none
  routingAliases := aliases
  resource := none
  scopes := [text "mcp:core"]
  existingAccountId := none
  selectTenantId := none
  mintConnection := true

def provisioning (n : Fin 256) : BootstrapDraw where
  accessToken := [n]
  refreshToken := [n]
  tokenFamilyId := [n]
  connectionId := [n]
  principalId := [n]
  account := { tenantId := [n], accountId := [n] }
  walletAccountId := [n]
  authenticatorId := [n]

/-- An account that holds the alias `a`. -/
def claimed : Database :=
  (Program.run
    (bootstrapAccountConnection env (claimant [text "a"]) (provisioning 0) 0)
    (Database.initial [])).2

/-- A provisioning whose second alias is held by another principal. -/
def conflict : Except Failure Bootstrapped × Database :=
  Program.run
    (bootstrapAccountConnection env (claimant [text "b", text "a"]) (provisioning 1) 0) claimed

end Sample

/-- A provisioning that is refused at its second alias leaves its account, its authenticator, its active
connection and its first alias behind.
-/
theorem refusedProvisioningLeavesItsConnection
    : ¬ AllOrNothing
        (bootstrapAccountConnection Sample.env (Sample.claimant [text "b", text "a"])
          (Sample.provisioning 1) 0) Sample.claimed
      ∧ Sample.conflict.1
        = .error (.refused { error := "alias_claim_conflict", status := some 403 })
      ∧ (Sample.conflict.2.account (mintId .account [1])).isSome = true
      ∧ (Sample.conflict.2.authenticator (mintId .authenticator [1])).any (·.status == .active) = true
      ∧ (Sample.conflict.2.connection (mintId .connection [1])).any (·.status == .active) = true
      ∧ (Sample.conflict.2.routingAlias (text "b")).any (·.active) = true := by
  have refused
      : conflict.1
        = .error (.refused { error := "alias_claim_conflict", status := some 403 }) := by
    decide +kernel
  refine ⟨fun whole => ?_, refused, by decide +kernel, by decide +kernel, by decide +kernel,
    by decide +kernel⟩
  have same : conflict.2.connections = claimed.connections :=
    (whole _ refused).connections
  exact absurd (congrArg length same) (by decide +kernel)

end CairnStone.CoreAuth
