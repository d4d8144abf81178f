import CairnStone.Conversation.IdentityScope
import CairnStone.CoreAuth.Revocation

/-! Who owns an actor id. A connection row is inserted with its list of aliases before any of them is
claimed, and readers go by the row: an alias that another account has claimed is owned by both.
-/

namespace CairnStone.CoreAuth

open JavaScript Data Concurrency List Database Sample
open Conversation (IdentityScope OwnedIdentity compileOwnedIdentityScope IsSelection
  actorNames selectTurnSyncActor parseAliases)

variable {localeLe : Text → Text → Bool} {db : Database} {x : Text}

def ConnectionRow.forTurnSync (row : ConnectionRow) : Conversation.ConnectionRow where
  connectionId := row.connectionId
  principalId := row.principalId
  owner := { accountId := row.accountId, tenantId := row.tenantId }
  isActive := row.status == .active
  routingAliases := row.routingAliases

def OwnsByScope (localeLe : Text → Text → Bool) (db : Database) (accountId x : Text) : Prop :=
  ∃ auth rows scope,
    auth.owner.accountId = accountId ∧ IsSelection db.connections auth rows
    ∧ compileOwnedIdentityScope localeLe auth rows = .ok scope
    ∧ ∃ identity ∈ scope.identities, identity.actorId = x

def OwnsByAppend (db : Database) (accountId x : Text) : Prop :=
  ∃ row ∈ db.connections,
    row.accountId = accountId
    ∧ ∃ auth requested, selectTurnSyncActor auth (some row.forTurnSync) requested = .ok x

/-- Nobody shares an actor id. -/
def OneOwner (localeLe : Text → Text → Bool) (db : Database) : Prop :=
  ∀ x accountId accountId',
    (OwnsByScope localeLe db accountId x ∨ OwnsByAppend db accountId x)
    → (OwnsByScope localeLe db accountId' x ∨ OwnsByAppend db accountId' x)
    → accountId = accountId'

/-- A connection row is inserted with no actor id that an active connection of another account goes by.
-/
def NamesUnclaimed (_ : Nat) (cmd : Command) (h : History authStore) : Prop :=
  match cmd with
  | .insert (.connection row) =>
    Database.taken h.state (.connection row) = false
    → ∀ held ∈ Database.connections h.state,
        held.status = .active → held.accountId ≠ row.accountId
        → ∀ x ∈ actorNames held, x ∉ actorNames row
  | _ => True

instance decidableNamesUnclaimed (t : Nat) (cmd : Command) (h : History authStore)
    : Decidable (NamesUnclaimed t cmd h) := by
  unfold NamesUnclaimed
  split <;> infer_instance

instance decidableRespectsNamesUnclaimed (h : History authStore)
    : Decidable (h.Respects NamesUnclaimed) :=
  @History.decidableRespects authStore NamesUnclaimed decidableNamesUnclaimed h

theorem ConnectionRow.Becomes.names {old row : ConnectionRow} (becomes : old.Becomes row)
    (active : row.status = .active)
    : old.status = .active ∧ old.accountId = row.accountId ∧ actorNames old = actorNames row := by
  refine ⟨Decidable.byContradiction (fun ended => becomes.ended ended active), ?_, ?_⟩
  · rw [becomes.columns]
  · rw [becomes.columns]
    rfl

def Disjoint (db : Database) : Prop :=
  ∀ row ∈ db.connections, ∀ row' ∈ db.connections,
    row.status = .active → row'.status = .active → row.accountId ≠ row'.accountId
    → ∀ x ∈ actorNames row, x ∉ actorNames row'

/-- A statement that inserts no claimed name keeps the names apart. -/
theorem Disjoint.exec {h : History authStore} {t : Nat} {cmd : Command}
    (disjoint : Disjoint h.state) (unclaimed : NamesUnclaimed t cmd h)
    : Disjoint (h.exec t cmd).state := by
  intro row mem row' mem' active active' apart x named named'
  rcases (revises_connections _ _).mem .refl mem with ⟨old, here, becomes⟩ | ⟨rfl, free⟩
  · obtain ⟨activeOld, account, names⟩ := becomes.names active
    rcases (revises_connections _ _).mem .refl mem' with ⟨old', present', becomes'⟩ | ⟨rfl, free⟩
    · obtain ⟨activeOld', account', names'⟩ := becomes'.names active'
      rw [← account, ← account'] at apart
      rw [← names] at named
      rw [← names'] at named'
      exact disjoint old here old' present' activeOld activeOld' apart x named named'
    · rw [← account] at apart
      rw [← names] at named
      exact unclaimed free old here activeOld apart x named named'
  · rcases (revises_connections _ _).mem .refl mem' with ⟨old', present', becomes'⟩ | ⟨same, _⟩
    · obtain ⟨activeOld', account', names'⟩ := becomes'.names active'
      rw [← account'] at apart
      rw [← names'] at named'
      exact unclaimed free old' present' activeOld' (Ne.symm apart) x named' named
    · cases Row.connection.inj (Command.insert.inj same)
      exact apart rfl

def GoesBy (db : Database) (accountId x : Text) : Prop :=
  ∃ row ∈ db.connections, row.status = .active ∧ row.accountId = accountId ∧ x ∈ actorNames row

theorem goesBy_of_scope {accountId : Text} (owns : OwnsByScope localeLe db accountId x)
    : GoesBy db accountId x := by
  obtain ⟨auth, rows, scope, rfl, selection, compiled, owned⟩ := owns
  obtain ⟨row, listed, active, named⟩ :=
    Conversation.exists_of_mem_identities compiled owned
  obtain ⟨here, hit⟩ := mem_filter.mp (selection.mem_iff.mp listed)
  unfold Conversation.isActiveRowOf at hit
  simp only [Bool.and_eq_true, beq_iff_eq] at hit
  exact ⟨row, here, active, hit.1.2, named⟩

theorem mem_actorNames_of_selected {auth : Conversation.AuthContext} {requested : Value}
    {row : ConnectionRow}
    (picked : selectTurnSyncActor auth (some row.forTurnSync) requested = .ok x)
    : row.status = .active ∧ x ∈ actorNames row := by
  unfold selectTurnSyncActor at picked
  simp only [] at picked
  split at picked
  · cases picked
  split at picked
  · cases picked
  rename_i matches'
  simp only [Bool.or_eq_true, not_or, bne_iff_ne, ne_eq, not_not, Bool.not_eq_true',
    Bool.not_eq_false] at matches'
  obtain ⟨⟨⟨⟨isActive, _⟩, _⟩, _⟩, principal⟩ := matches'
  have active : row.status = .active := beq_iff_eq.mp isActive
  have own : row.principalId = trim auth.principalId := principal
  have ownNames : trim auth.principalId = trim row.principalId := by
    rw [own, trim_trim]
  have byAlias {name : Text} (listed : name ∈ parseAliases row.forTurnSync.routingAliases)
      : name ∈ actorNames row := by
    obtain ⟨mapped, valid⟩ := Conversation.mem_parseAliases.mp listed
    exact mem_filter.mpr ⟨.tail _ mapped, valid⟩
  refine ⟨active, ?_⟩
  split at picked
  · split at picked
    · rename_i allowed
      cases picked
      have mem := contains_iff_mem.mp (Bool.and_eq_true_iff.mp allowed).2
      obtain ⟨listed, valid⟩ := mem_filter.mp (mem_eraseDups.mp mem)
      rcases mem_cons.mp listed with same | aliased
      · rw [ownNames] at same
        exact mem_filter.mpr ⟨same ▸ (.head _), valid⟩
      · exact byAlias aliased
    · cases picked
  · cases aliases : parseAliases row.forTurnSync.routingAliases with
    | nil =>
      simp only [aliases] at picked
      split at picked
      · rename_i valid
        cases picked
        rw [ownNames] at valid ⊢
        exact mem_filter.mpr ⟨.head _, valid.2⟩
      · cases picked
    | cons first rest =>
      cases rest with
      | nil =>
        simp only [aliases] at picked
        obtain rfl := Except.ok.inj picked
        exact byAlias (aliases ▸ mem_singleton_self first)
      | cons second others =>
        simp only [aliases] at picked
        split at picked
        · rename_i never
          cases never.1
        · cases picked

theorem goesBy_of_append {accountId : Text} (owns : OwnsByAppend db accountId x)
    : GoesBy db accountId x := by
  obtain ⟨row, here, account, auth, requested, picked⟩ := owns
  obtain ⟨active, named⟩ := mem_actorNames_of_selected picked
  exact ⟨row, here, active, account, named⟩

/-- Names that are apart have one owner each. -/
theorem Disjoint.oneOwner (disjoint : Disjoint db)
    : OneOwner localeLe db := by
  intro x accountId accountId' owns owns'
  obtain ⟨row, here, active, rfl, named⟩ : GoesBy db accountId x :=
    owns.elim goesBy_of_scope goesBy_of_append
  obtain ⟨row', present', active', rfl, named'⟩ : GoesBy db accountId' x :=
    owns'.elim goesBy_of_scope goesBy_of_append
  exact Decidable.byContradiction (fun apart =>
    disjoint row here row' present' active active' apart x named named')

/-- In every interleaving in which no connection is inserted with an actor id that an active connection of
another account goes by, every actor id has one owner.
-/
theorem oneOwner_of_namesUnclaimed (localeLe : Text → Text → Bool) (env : Env)
    (clients : List ClientRow) (schedule : List (Action authStore Call))
    (unclaimed : (authRun env clients schedule).history.Respects NamesUnclaimed)
    : OneOwner localeLe (authRun env clients schedule).state := by
  have lives := lives_authRun env clients schedule
  have disjoint : Disjoint (authRun env clients schedule).history.state := by
    refine lives.run (J := fun h => Disjoint h.state) unclaimed ?_ ?_
    · intro row never
      cases never
    · intro g t command _ _ _ allowed kept
      exact kept.exec allowed
  exact disjoint.oneOwner

namespace Sample

def shared : Text := text "claude:desktop"

def mintWith (account n : Fin 256) (aliases : List Text) : Call :=
  .mintConnectionUnderAccount
    { accountId := mintId .account [account], tenantId := none
      authenticatorId := mintId .authenticator [account], clientFamily := text "c"
      routingAliases := aliases, resource := none, scopes := [CORE_SCOPE], stepUpConfirmed := true }
    { accessToken := [n], refreshToken := [n], tokenFamilyId := [n], connectionId := [n]
      principalId := [n] } 0

/-- One account claims an alias. -/
def claiming : List (Action authStore Call) :=
  .spawn (bootstrap 0) :: steps 20 0 ++ .spawn (mintWith 0 1 [shared]) :: steps 20 1
    ++ .spawn (bootstrap 2) :: steps 20 2

/-- Another account asks for a connection with the same alias, and is refused. -/
def conflicting : List (Action authStore Call) :=
  claiming ++ .spawn (mintWith 2 3 [shared]) :: steps 20 3

def connectionRow (account n : Fin 256) (aliases : List Text) : ConnectionRow where
  connectionId := mintId .connection [n]
  principalId := mintId .principal [n]
  accountId := mintId .account [account]
  tenantId := mintId .tenant [account]
  status := .active
  clientFamily := text "c"
  routingAliases := aliases

def contextOf (row : ConnectionRow) : Conversation.AuthContext where
  principalId := row.principalId
  connectionId := row.connectionId
  owner := { accountId := row.accountId, tenantId := row.tenantId }

def byText (a b : Text) : Bool := decide (a ≤ b)

def identitiesOf (row : ConnectionRow) (db : Database) : List Text :=
  let auth := contextOf row
  match compileOwnedIdentityScope byText auth
    (db.connections.filter
      (Conversation.isActiveRowOf auth.owner.accountId auth.owner.tenantId)) with
  | .ok scope => scope.identities.map (·.actorId)
  | .error _ => []

theorem owns_of_identities {row : ConnectionRow} {db : Database} {x : Text}
    (listed : (identitiesOf row db).contains x = true)
    : OwnsByScope byText db row.accountId x := by
  unfold identitiesOf at listed
  simp only [] at listed
  cases compiled : compileOwnedIdentityScope byText (contextOf row)
    (db.connections.filter
      (Conversation.isActiveRowOf (contextOf row).owner.accountId
        (contextOf row).owner.tenantId)) with
  | error why =>
    rw [compiled] at listed
    cases listed
  | ok scope =>
    rw [compiled] at listed
    obtain ⟨identity, mem, same⟩ := mem_map.mp (contains_iff_mem.mp listed)
    exact ⟨contextOf row, _, scope, rfl, .refl _, compiled, identity, mem, same⟩

end Sample

/-- An account that claims an alias owns it alone. -/
theorem oneOwner_sample
    : OneOwner Sample.byText (authRun Sample.env [] Sample.claiming).state :=
  oneOwner_of_namesUnclaimed _ _ _ _ (by decide +kernel)

/-- The call that asks for an alias of another account is refused, and both accounts own the alias. -/
theorem refusedAliasIsShared
    : (authRun Sample.env [] Sample.conflicting).answer 3
        = some (.error (.refused { error := "alias_claim_conflict", status := some 403 }))
      ∧ ¬ OneOwner Sample.byText (authRun Sample.env [] Sample.conflicting).state := by
  have refused
      : (authRun env [] conflicting).answer 3
        = some (.error (.refused { error := "alias_claim_conflict", status := some 403 })) := by
    decide +kernel
  have first
      : (identitiesOf (connectionRow 0 1 [shared])
          (authRun env [] conflicting).state).contains shared = true := by
    decide +kernel
  have second
      : (identitiesOf (connectionRow 2 2 [])
          (authRun env [] conflicting).state).contains shared = true := by
    decide +kernel
  refine ⟨refused, fun one => ?_⟩
  have same :=
    one shared _ _ (.inl (owns_of_identities first))
      (.inl (owns_of_identities second))
  exact absurd same (by decide)

end CairnStone.CoreAuth
