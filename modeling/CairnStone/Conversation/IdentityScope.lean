import CairnStone.Conversation.Store
import CairnStone.CoreAuth.Tables

/-! The identities that an account owns: the actor ids of its active connections, with the connections
that they come from.
-/

namespace CairnStone.Conversation

open JavaScript Data List
open TaskRuns (Refusal refuse isActorId)

def MAX_IDENTITIES : Nat := 64

structure OwnedIdentity where
  actorId : Text
  (clientFamilies connectionIds identityKinds : List Text)
  deriving DecidableEq

structure ScopeConnection where
  connectionId : Text
  principalId : Option Text
  clientFamily : Text
  routingAliases : List Text

structure ScopeWarning where
  (connectionId warning : Text)

structure IdentityScope where
  (accountId tenantId currentPrincipalId currentConnectionId : Text)
  connections : List ScopeConnection
  identities : List OwnedIdentity
  warnings : List ScopeWarning
  truncatedIdentities : Bool

/-- `set.add(value)` -/
def addTo (set : List Text) (value : Text) : List Text :=
  if set.contains value then set else set ++ [value]

/-- `String(row.client_family || "unknown")` -/
def clientFamilyOf (row : CoreAuth.ConnectionRow) : Text :=
  if row.clientFamily = [] then text "unknown" else row.clientFamily

def OwnedIdentity.from (identity : OwnedIdentity) (row : CoreAuth.ConnectionRow) (kind : Text)
    : OwnedIdentity :=
  { identity with
    clientFamilies := addTo identity.clientFamilies (clientFamilyOf row)
    connectionIds := addTo identity.connectionIds row.connectionId
    identityKinds := addTo identity.identityKinds kind }

def addIdentity (row : CoreAuth.ConnectionRow) (identities : List OwnedIdentity)
    (naming : Text × Text)
    : List OwnedIdentity :=
  let (actor, kind) := naming
  if identities.any (·.actorId == actor) then
    identities.map (fun identity =>
      if identity.actorId == actor then identity.from row kind else identity)
  else
    identities
    ++ [OwnedIdentity.from
        { actorId := actor, clientFamilies := [], connectionIds := [], identityKinds := [] } row kind]

def namings (row : CoreAuth.ConnectionRow) : List (Text × Text) :=
  (if isActorId (trim row.principalId) then [(trim row.principalId, text "connection_principal")]
    else [])
  ++ (parseAliases row.routingAliases).map (fun name => (name, text "routing_alias"))

def identityMap (rows : List CoreAuth.ConnectionRow) : List OwnedIdentity :=
  rows.foldl (fun identities row => (namings row).foldl (addIdentity row) identities) []

def isActiveRowOf (accountId tenantId : Text) (row : CoreAuth.ConnectionRow) : Bool :=
  row.status == .active && row.accountId == accountId && row.tenantId == tenantId

/-- `compileOwnedIdentityScope(authContext, rows)`, where `localeLe a b` is `a.localeCompare(b) <= 0` -/
def compileOwnedIdentityScope (localeLe : Text → Text → Bool) (auth : AuthContext)
    (rows : List CoreAuth.ConnectionRow)
    : Except Refusal IdentityScope :=
  let accountId := trim auth.owner.accountId
  let tenantId := trim auth.owner.tenantId
  let currentPrincipal := trim auth.principalId
  let currentConnection := trim auth.connectionId
  let active := rows.filter (isActiveRowOf accountId tenantId)
  let found := identityMap active
  if accountId = [] ∨ tenantId = [] ∨ currentPrincipal = [] ∨ currentConnection = [] then
    .error contextRequired
  else if !active.any (fun row =>
      row.principalId == currentPrincipal && row.connectionId == currentConnection) then
    .error (refuse "authenticated_connection_not_active")
  else
    .ok
      { accountId
        tenantId
        currentPrincipalId := currentPrincipal
        currentConnectionId := currentConnection
        connections :=
          active.map (fun row =>
            { connectionId := row.connectionId
              principalId :=
                if trim row.principalId = [] then none else some (trim row.principalId)
              clientFamily := clientFamilyOf row
              routingAliases := parseAliases row.routingAliases })
        identities :=
          (found.take MAX_IDENTITIES).insertionSort (fun a b => localeLe a.actorId b.actorId)
        warnings :=
          (active.filter (fun row => !isActorId (trim row.principalId))).map (fun row =>
            { connectionId := row.connectionId, warning := text "invalid_principal_actor_id" })
        truncatedIdentities := decide (MAX_IDENTITIES < found.length) }

/-- The rows that `resolveOwnedIdentityScope` selects, in some order. -/
def IsSelection (connections : List CoreAuth.ConnectionRow) (auth : AuthContext)
    (rows : List CoreAuth.ConnectionRow)
    : Prop :=
  rows.Perm (connections.filter (isActiveRowOf auth.owner.accountId auth.owner.tenantId))

def actorNames (row : CoreAuth.ConnectionRow) : List Text :=
  (trim row.principalId :: row.routingAliases.map trim).filter isActorId

variable {rows : List CoreAuth.ConnectionRow} {row : CoreAuth.ConnectionRow}
  {identities : List OwnedIdentity} {x : Text}

theorem mem_parseAliases {aliases : List Text}
    : x ∈ parseAliases aliases ↔ x ∈ aliases.map trim ∧ isActorId x = true := by
  unfold parseAliases
  rw [mem_eraseDups, mem_filter]

theorem mem_namings : (∃ kind, (x, kind) ∈ namings row) ↔ x ∈ actorNames row := by
  unfold namings actorNames
  rw [mem_filter, mem_cons]
  constructor
  · rintro ⟨kind, mem⟩
    rcases mem_append.mp mem with principal | seen
    · split at principal
      · rename_i valid
        obtain ⟨rfl, _⟩ := Prod.mk.inj (mem_singleton.mp principal)
        exact ⟨.inl rfl, valid⟩
      · cases principal
    · obtain ⟨name, found, same⟩ := mem_map.mp seen
      obtain ⟨rfl, _⟩ := Prod.mk.inj same
      obtain ⟨mapped, valid⟩ := mem_parseAliases.mp found
      exact ⟨.inr mapped, valid⟩
  · rintro ⟨rfl | mapped, valid⟩
    · exact ⟨_, mem_append_left _ (by rw [if_pos valid]; exact mem_singleton_self _)⟩
    · exact ⟨_, mem_append_right _
        (mem_map.mpr ⟨x, mem_parseAliases.mpr ⟨mapped, valid⟩, rfl⟩)⟩

theorem mem_addIdentity {naming : Text × Text}
    : x ∈ (addIdentity row identities naming).map (·.actorId)
      ↔ x ∈ identities.map (·.actorId) ∨ x = naming.1 := by
  unfold addIdentity
  simp only []
  split
  · rename_i known
    have kept
        : (identities.map (fun identity =>
            if identity.actorId == naming.1 then identity.from row naming.2 else identity)).map
              (·.actorId)
          = identities.map (·.actorId) := by
      rw [map_map]
      refine map_congr_left (fun identity _ => ?_)
      simp only [Function.comp_apply]
      split <;> rfl
    rw [kept]
    refine ⟨.inl, ?_⟩
    rintro (old | rfl)
    · exact old
    · obtain ⟨identity, mem, same⟩ := any_eq_true.mp known
      exact mem_map.mpr ⟨identity, mem, beq_iff_eq.mp same⟩
  · rw [map_append, mem_append]
    exact or_congr Iff.rfl mem_singleton

/-- What naming after naming adds. Witness: induction on the namings. -/
theorem mem_foldl_addIdentity {named : List (Text × Text)}
    : x ∈ (named.foldl (addIdentity row) identities).map (·.actorId)
      ↔ x ∈ identities.map (·.actorId) ∨ ∃ kind, (x, kind) ∈ named := by
  induction named generalizing identities with
  | nil => exact ⟨.inl, fun either => either.resolve_right (fun ⟨_, never⟩ => by
    cases never)⟩
  | cons first rest ih =>
    rw [foldl_cons, ih, mem_addIdentity, or_assoc]
    refine or_congr Iff.rfl ⟨?_, ?_⟩
    · rintro (rfl | ⟨kind, later⟩)
      · exact ⟨first.2, .head _⟩
      · exact ⟨kind, .tail _ later⟩
    · rintro ⟨kind, mem⟩
      rcases mem_cons.mp mem with same | later
      · exact .inl (congrArg Prod.fst same)
      · exact .inr ⟨kind, later⟩

/-- The identities are the actor ids of the connections. Witness: induction on the connections. -/
theorem mem_identityMap
    : x ∈ (identityMap rows).map (·.actorId) ↔ ∃ row ∈ rows, x ∈ actorNames row := by
  have general (identities : List OwnedIdentity)
      : x ∈ (rows.foldl (fun identities row => (namings row).foldl (addIdentity row) identities)
            identities).map (·.actorId)
        ↔ x ∈ identities.map (·.actorId) ∨ ∃ row ∈ rows, x ∈ actorNames row := by
    induction rows generalizing identities with
    | nil => exact ⟨.inl, fun either => either.resolve_right (fun ⟨_, never, _⟩ => by
      cases never)⟩
    | cons first rest ih =>
      rw [foldl_cons, ih, mem_foldl_addIdentity, mem_namings, or_assoc]
      refine or_congr Iff.rfl ⟨?_, ?_⟩
      · rintro (named | ⟨row, later, named⟩)
        · exact ⟨first, .head _, named⟩
        · exact ⟨row, .tail _ later, named⟩
      · rintro ⟨row, mem, named⟩
        rcases mem_cons.mp mem with rfl | later
        · exact .inl named
        · exact .inr ⟨row, later, named⟩
  refine (general []).trans ⟨fun either => either.resolve_left (fun never => by
    cases never), .inr⟩

theorem exists_of_mem_identities {localeLe : Text → Text → Bool} {auth : AuthContext}
    {scope : IdentityScope} (compiled : compileOwnedIdentityScope localeLe auth rows = .ok scope)
    (owned : ∃ identity ∈ scope.identities, identity.actorId = x)
    : ∃ row ∈ rows, row.status = .active ∧ x ∈ actorNames row := by
  unfold compileOwnedIdentityScope at compiled
  simp only [] at compiled
  split at compiled
  · cases compiled
  split at compiled
  · cases compiled
  cases compiled
  obtain ⟨identity, mem, rfl⟩ := owned
  have taken := mem_of_mem_take ((mem_insertionSort _).mp mem)
  obtain ⟨row, active, named⟩ := mem_identityMap.mp (mem_map.mpr ⟨identity, taken, rfl⟩)
  obtain ⟨here, hit⟩ := mem_filter.mp active
  unfold isActiveRowOf at hit
  simp only [Bool.and_eq_true, beq_iff_eq] at hit
  exact ⟨row, here, hit.1.1, named⟩

end CairnStone.Conversation
