import CairnStone.Concurrency.Replay
import CairnStone.CoreAuth.Statements

/-! What statements can do to a row. A row is never lost: its key and most of its columns stay,
and a status that has ended does not begin again. Unique columns stay unique.
-/

namespace CairnStone.CoreAuth

open JavaScript Data Concurrency List Bool Database SessionRow

namespace AccountRow

/-- `b` is `a` after statements that may have changed its version. -/
structure Becomes (a b : AccountRow) : Prop where
  columns : b = { a with authzVersion := b.authzVersion }

theorem Becomes.refl (a : AccountRow) : a.Becomes a :=
  ⟨rfl⟩

theorem Becomes.trans {a b c : AccountRow} (first : a.Becomes b) (second : b.Becomes c)
    : a.Becomes c := by
  obtain ⟨first⟩ := first
  exact ⟨by rw [second.columns, first]⟩

end AccountRow

namespace MembershipRow

structure Becomes (a b : MembershipRow) : Prop where
  columns : b = { a with status := b.status, authzVersion := b.authzVersion }

theorem Becomes.refl (a : MembershipRow) : a.Becomes a :=
  ⟨rfl⟩

theorem Becomes.trans {a b c : MembershipRow} (first : a.Becomes b) (second : b.Becomes c)
    : a.Becomes c := by
  obtain ⟨first⟩ := first
  exact ⟨by rw [second.columns, first]⟩

end MembershipRow

namespace ConnectionRow

structure Becomes (a b : ConnectionRow) : Prop where
  columns : b = { a with tenantId := b.tenantId, status := b.status }
  ended : a.status ≠ .active → b.status ≠ .active

theorem Becomes.refl (a : ConnectionRow) : a.Becomes a :=
  ⟨rfl, id⟩

theorem Becomes.trans {a b c : ConnectionRow} (first : a.Becomes b) (second : b.Becomes c)
    : a.Becomes c := by
  obtain ⟨first, ended⟩ := first
  exact ⟨by rw [second.columns, first], second.ended ∘ ended⟩

end ConnectionRow

namespace TokenFamilyRow

structure Becomes (a b : TokenFamilyRow) : Prop where
  columns : b = { a with status := b.status, refreshGeneration := b.refreshGeneration }
  ended : b.status = a.status ∨ b.status = .revoked

theorem Becomes.refl (a : TokenFamilyRow) : a.Becomes a :=
  ⟨rfl, .inl rfl⟩

theorem Becomes.revoked {a b : TokenFamilyRow} (becomes : a.Becomes b)
    (revoked : a.status = .revoked)
    : b.status = .revoked :=
  becomes.ended.elim (fun same => same.trans revoked) id

theorem Becomes.trans {a b c : TokenFamilyRow} (first : a.Becomes b) (second : b.Becomes c)
    : a.Becomes c := by
  refine ⟨by rw [second.columns, first.columns], ?_⟩
  rcases first.ended with same | revoked
  · rw [← same]
    exact second.ended
  · exact .inr (second.revoked revoked)

end TokenFamilyRow

namespace AccessTokenRow

structure Becomes (a b : AccessTokenRow) : Prop where
  columns : b = { a with revokedAt := b.revokedAt }

theorem Becomes.refl (a : AccessTokenRow) : a.Becomes a :=
  ⟨rfl⟩

theorem Becomes.trans {a b c : AccessTokenRow} (first : a.Becomes b) (second : b.Becomes c)
    : a.Becomes c := by
  obtain ⟨first⟩ := first
  exact ⟨by rw [second.columns, first]⟩

end AccessTokenRow

namespace RefreshTokenRow

structure Becomes (a b : RefreshTokenRow) : Prop where
  columns : b = { a with status := b.status }
  ended : a.status ≠ .active → b.status ≠ .active

theorem Becomes.refl (a : RefreshTokenRow) : a.Becomes a :=
  ⟨rfl, id⟩

theorem Becomes.trans {a b c : RefreshTokenRow} (first : a.Becomes b) (second : b.Becomes c)
    : a.Becomes c := by
  obtain ⟨first, ended⟩ := first
  exact ⟨by rw [second.columns, first], second.ended ∘ ended⟩

end RefreshTokenRow

namespace CodeRow

structure Becomes (a b : CodeRow) : Prop where
  columns : b = { a with status := b.status }
  ended : a.status ≠ .unused → b.status ≠ .unused

theorem Becomes.refl (a : CodeRow) : a.Becomes a :=
  ⟨rfl, id⟩

theorem Becomes.trans {a b c : CodeRow} (first : a.Becomes b) (second : b.Becomes c)
    : a.Becomes c := by
  obtain ⟨first, ended⟩ := first
  exact ⟨by rw [second.columns, first], second.ended ∘ ended⟩

end CodeRow

namespace PasskeyRow

structure Becomes (a b : PasskeyRow) : Prop where
  columns : b = { a with signCount := b.signCount }

theorem Becomes.refl (a : PasskeyRow) : a.Becomes a :=
  ⟨rfl⟩

theorem Becomes.trans {a b c : PasskeyRow} (first : a.Becomes b) (second : b.Becomes c)
    : a.Becomes c := by
  obtain ⟨first⟩ := first
  exact ⟨by rw [second.columns, first]⟩

end PasskeyRow

namespace ChallengeRow

structure Becomes (a b : ChallengeRow) : Prop where
  columns : b = { a with status := b.status }
  ended : a.status ≠ .unused → b.status ≠ .unused

theorem Becomes.refl (a : ChallengeRow) : a.Becomes a :=
  ⟨rfl, id⟩

theorem Becomes.trans {a b c : ChallengeRow} (first : a.Becomes b) (second : b.Becomes c)
    : a.Becomes c := by
  obtain ⟨first, ended⟩ := first
  exact ⟨by rw [second.columns, first], second.ended ∘ ended⟩

end ChallengeRow

namespace InviteRow

structure Becomes (a b : InviteRow) : Prop where
  columns : b = { a with status := b.status, redeemedBySession := b.redeemedBySession }
  ended : a.status ≠ .unused → b = a

theorem Becomes.refl (a : InviteRow) : a.Becomes a :=
  ⟨rfl, fun _ => rfl⟩

theorem Becomes.trans {a b c : InviteRow} (first : a.Becomes b) (second : b.Becomes c)
    : a.Becomes c := by
  refine ⟨?_, fun ended => ?_⟩
  · rw [second.columns, first.columns]
  · have same := first.ended ended
    subst same
    exact second.ended ended

end InviteRow

namespace SessionRow

/-- A session goes from pending to authenticated to approved, and may end before; the user is
set when it leaves the pending state.
-/
structure Becomes (a b : SessionRow) : Prop where
  columns
    : b =
        { a with
          status := b.status
          accountId := b.accountId
          tenantId := b.tenantId
          authenticatorId := b.authenticatorId
          authMethod := b.authMethod
          stepUpConfirmed := b.stepUpConfirmed
          offerPasskeyEnroll := b.offerPasskeyEnroll }
  user : a.status ≠ .pendingAuth → b.accountId = a.accountId ∧ b.tenantId = a.tenantId
  progress
    : b.status = a.status ∨ a.status = .pendingAuth
      ∨ a.status = .authenticated ∧ b.status ≠ .pendingAuth

theorem Becomes.refl (a : SessionRow) : a.Becomes a :=
  ⟨rfl, fun _ => ⟨rfl, rfl⟩, .inl rfl⟩

theorem Becomes.trans {a b c : SessionRow} (first : a.Becomes b) (second : b.Becomes c)
    : a.Becomes c := by
  have left (notPending : a.status ≠ .pendingAuth) : b.status ≠ .pendingAuth := by
    rcases first.progress with same | pending | ⟨_, other⟩
    · rwa [same]
    · exact absurd pending notPending
    · exact other
  refine ⟨?_, fun notPending => ?_, ?_⟩
  · rw [second.columns, first.columns]
  · obtain ⟨account, tenant⟩ := second.user (left notPending)
    obtain ⟨account', tenant'⟩ := first.user notPending
    exact ⟨account.trans account', tenant.trans tenant'⟩
  · by_cases notPending : a.status = .pendingAuth
    · exact .inr (.inl notPending)
    · rcases second.progress with same | pending | ⟨_, other⟩
      · rw [same]
        exact first.progress
      · exact absurd pending (left notPending)
      · rcases first.progress with same | pending | ⟨authenticated, _⟩
        · rename_i authenticated
          exact .inr (.inr ⟨same ▸ authenticated, other⟩)
        · exact absurd pending notPending
        · exact .inr (.inr ⟨authenticated, other⟩)

end SessionRow

structure SessionRow.Steps (cmd : Command) (a b : SessionRow) : Prop where
  becomes : a.Becomes b
  status
    : b.status = a.status ∨ a.status = .pendingAuth ∧ b.status = .authenticated
      ∨ a.status = .authenticated ∧ b.status = .approved
      ∨ b.status = .denied ∨ b.status = .expired
  account
    : b.accountId = a.accountId
      ∨ ∃ authentication, cmd = .authenticateSession a.sessionId authentication
        ∧ b.accountId = some authentication.accountId

theorem SessionRow.Steps.refl {cmd : Command} (a : SessionRow) : a.Steps cmd a :=
  ⟨.refl a, .inl rfl, .inl rfl⟩

namespace Database

variable (cmd : Command) (db : Database)

theorem exec_insert (row : Row)
    : db.taken row = true ∧ exec (.insert row) db = (.error .unique, db)
      ∨ db.taken row = false ∧ exec (.insert row) db = (.ok (), db.add row) := by
  cases taken : db.taken row with
  | true => exact .inl ⟨rfl, by simp [exec, taken]⟩
  | false => exact .inr ⟨rfl, by simp [exec, taken]⟩

theorem exec_insert_of_free {row : Row} (free : db.taken row = false)
    : exec (.insert row) db = (.ok (), db.add row) := by
  rcases db.exec_insert row with ⟨taken, _⟩ | ⟨_, added⟩
  · rw [free] at taken
    cases taken
  · exact added

/-- An `INSERT` only extends a table. -/
theorem prefix_insert {α : Type} {column : Database → List α}
    (adds : ∀ row, column db <+: column (db.add row)) (row : Row)
    : column db <+: column (exec (.insert row) db).2 := by
  rcases db.exec_insert row with ⟨_, denied⟩ | ⟨_, added⟩
  · have same : column (exec (.insert row) db).2 = column db := by rw [denied]
    exact ⟨[], by rw [append_nil, same]⟩
  · rw [added]
    exact adds row

theorem accounts_exec : Continues AccountRow.Becomes db.accounts (exec cmd db).2.accounts := by
  cases cmd with
  | insert row =>
    refine .of_extended .refl (db.prefix_insert (fun row => ?_) row)
    cases row <;> first | exact prefix_refl _ | exact prefix_append _ _
  | setAccountVersion accountId authzVersion => exact .updateWhere .refl (fun _ _ => ⟨rfl⟩)
  | _ => exact .refl .refl

theorem memberships_exec
    : Continues MembershipRow.Becomes db.memberships (exec cmd db).2.memberships := by
  cases cmd with
  | insert row =>
    refine .of_extended .refl (db.prefix_insert (fun row => ?_) row)
    cases row <;> first | exact prefix_refl _ | exact prefix_append _ _
  | upsertMembership accountId tenantId =>
    simp only [exec, upsertMembership]
    split
    · exact .of_extended .refl (prefix_append _ _)
    · exact .updateWhere .refl (fun _ _ => ⟨rfl⟩)
  | revokeMembership accountId tenantId authzVersion =>
    exact .updateWhere .refl (fun _ _ => ⟨rfl⟩)
  | _ => exact .refl .refl

theorem accessTokens_exec
    : Continues AccessTokenRow.Becomes db.accessTokens (exec cmd db).2.accessTokens := by
  cases cmd with
  | insert row =>
    refine .of_extended .refl (db.prefix_insert (fun row => ?_) row)
    cases row <;> first | exact prefix_refl _ | exact prefix_append _ _
  | revokeAccessTokens tokenFamilyId now => exact .updateWhere .refl (fun _ _ => ⟨rfl⟩)
  | _ => exact .refl .refl

theorem codes_exec : Continues CodeRow.Becomes db.codes (exec cmd db).2.codes := by
  cases cmd with
  | insert row =>
    refine .of_extended .refl (db.prefix_insert (fun row => ?_) row)
    cases row <;> first | exact prefix_refl _ | exact prefix_append _ _
  | expireCode codeHash =>
    exact .updateWhere .refl (fun _ _ => ⟨rfl, fun _ same => by cases same⟩)
  | useCode codeHash =>
    exact .updateWhere .refl (fun _ _ => ⟨rfl, fun _ same => by cases same⟩)
  | _ => exact .refl .refl

theorem passkeys_exec
    : Continues PasskeyRow.Becomes db.passkeys (exec cmd db).2.passkeys := by
  cases cmd with
  | insert row =>
    refine .of_extended .refl (db.prefix_insert (fun row => ?_) row)
    cases row <;> first | exact prefix_refl _ | exact prefix_append _ _
  | setSignCount credentialId signCount => exact .updateWhere .refl (fun _ _ => ⟨rfl⟩)
  | _ => exact .refl .refl

theorem invites_exec : Continues InviteRow.Becomes db.invites (exec cmd db).2.invites := by
  have ends {inviteHash : Text} {row : InviteRow}
      (hit : (row.inviteHash == inviteHash && row.status == .unused) = true)
      : row.status = .unused := by
    simp only [and_eq_true, beq_iff_eq] at hit
    exact hit.2
  cases cmd with
  | insert row =>
    refine .of_extended .refl (db.prefix_insert (fun row => ?_) row)
    cases row <;> first | exact prefix_refl _ | exact prefix_append _ _
  | expireInvite inviteHash =>
    exact .updateWhere .refl (fun _ hit => ⟨rfl, fun ended => absurd (ends hit) ended⟩)
  | redeemInvite inviteHash sessionId =>
    exact .updateWhere .refl (fun _ hit => ⟨rfl, fun ended => absurd (ends hit) ended⟩)
  | _ => exact .refl .refl

/-- What a statement does to a table: it changes rows in place, or inserts one that is free. -/
def Revises {α : Type} (related : α → α → Prop) (column : Database → List α) (kind : α → Row)
    : Prop :=
  Rewrites related (column db) (column (exec cmd db).2)
  ∨ ∃ row, cmd = .insert (kind row) ∧ db.taken (kind row) = false
      ∧ column (exec cmd db).2 = column db ++ [row]

section

variable {α : Type} {related : α → α → Prop} {column : Database → List α} {kind : α → Row}
  {cmd db}

theorem Revises.continues (revises : Revises cmd db related column kind)
    (reflexive : ∀ row, related row row)
    : Continues related (column db) (column (exec cmd db).2) := by
  rcases revises with ⟨continues, _⟩ | ⟨row, _, _, appended⟩
  · exact continues
  · rw [appended]
    exact .of_extended reflexive (prefix_append _ _)

/-- A row that a statement leaves goes on from one, or is the inserted one. -/
theorem Revises.mem (revises : Revises cmd db related column kind)
    (reflexive : ∀ row, related row row) {row : α} (mem : row ∈ column (exec cmd db).2)
    : (∃ old ∈ column db, related old row)
      ∨ cmd = .insert (kind row) ∧ db.taken (kind row) = false := by
  rcases revises with ⟨_, continued⟩ | ⟨new, inserts, free, appended⟩
  · exact .inl (continued row mem)
  · rw [appended] at mem
    rcases mem_append.mp mem with old | fresh
    · exact .inl ⟨row, old, reflexive row⟩
    · cases mem_singleton.mp fresh
      exact .inr ⟨inserts, free⟩

theorem revises_insert (reflexive : ∀ row, related row row) (row : Row)
    (adds
      : column (db.add row) = column db
        ∨ ∃ new, row = kind new ∧ column (db.add row) = column db ++ [new])
    : Revises (.insert row) db related column kind := by
  unfold Revises
  rcases db.exec_insert row with ⟨_, denied⟩ | ⟨free, added⟩
  · rw [denied]
    exact .inl (.refl reflexive)
  · rw [added]
    rcases adds with same | ⟨new, rfl, appended⟩
    · exact .inl (show Rewrites _ _ (column (db.add row)) from same ▸ .refl reflexive)
    · exact .inr ⟨new, rfl, free, appended⟩

end

theorem revises_connections
    : Revises cmd db ConnectionRow.Becomes connections .connection := by
  cases cmd with
  | insert row =>
    refine revises_insert .refl row ?_
    cases row <;> first | exact .inl rfl | exact .inr ⟨_, rfl, rfl⟩
  | setConnectionTenant connectionId tenantId => exact .inl (.updateWhere .refl (fun _ _ => ⟨rfl, id⟩))
  | revokeConnection connectionId =>
    exact .inl (.updateWhere .refl (fun _ _ => ⟨rfl, fun _ same => by cases same⟩))
  | _ => exact .inl (.refl .refl)

theorem connections_exec : Continues ConnectionRow.Becomes db.connections (exec cmd db).2.connections :=
  (db.revises_connections cmd).continues .refl

theorem revises_families : Revises cmd db TokenFamilyRow.Becomes families .family := by
  cases cmd with
  | insert row =>
    refine revises_insert .refl row ?_
    cases row <;> first | exact .inl rfl | exact .inr ⟨_, rfl, rfl⟩
  | setRefreshGeneration tokenFamilyId refreshGeneration =>
    exact .inl (.updateWhere .refl (fun _ _ => ⟨rfl, .inl rfl⟩))
  | revokeFamily tokenFamilyId =>
    exact .inl (.updateWhere .refl (fun _ _ => ⟨rfl, .inr rfl⟩))
  | _ => exact .inl (.refl .refl)

theorem families_exec : Continues TokenFamilyRow.Becomes db.families (exec cmd db).2.families :=
  (db.revises_families cmd).continues .refl

theorem revises_refreshTokens
    : Revises cmd db RefreshTokenRow.Becomes refreshTokens .refreshToken := by
  cases cmd with
  | insert row =>
    refine revises_insert .refl row ?_
    cases row <;> first | exact .inl rfl | exact .inr ⟨_, rfl, rfl⟩
  | markRotated tokenHash =>
    exact .inl (.updateWhere .refl (fun _ _ => ⟨rfl, fun _ same => by cases same⟩))
  | revokeRefreshTokens tokenFamilyId =>
    exact .inl (.updateWhere .refl (fun _ _ => ⟨rfl, fun _ same => by cases same⟩))
  | _ => exact .inl (.refl .refl)

theorem refreshTokens_exec : Continues RefreshTokenRow.Becomes db.refreshTokens (exec cmd db).2.refreshTokens :=
  (db.revises_refreshTokens cmd).continues .refl

theorem revises_challenges : Revises cmd db ChallengeRow.Becomes challenges .challenge := by
  cases cmd with
  | insert row =>
    refine revises_insert .refl row ?_
    cases row <;> first | exact .inl rfl | exact .inr ⟨_, rfl, rfl⟩
  | expireChallenge challengeHash =>
    exact .inl (.updateWhere .refl (fun _ _ => ⟨rfl, fun _ same => by cases same⟩))
  | useChallenge challengeHash =>
    exact .inl (.updateWhere .refl (fun _ _ => ⟨rfl, fun _ same => by cases same⟩))
  | _ => exact .inl (.refl .refl)

theorem challenges_exec : Continues ChallengeRow.Becomes db.challenges (exec cmd db).2.challenges :=
  (db.revises_challenges cmd).continues .refl

theorem isOpen_iff {sessionId : Text} {row : SessionRow}
    : isOpen sessionId row = true
      ↔ row.sessionId = sessionId
        ∧ (row.status = .pendingAuth ∨ row.status = .authenticated) := by
  simp [isOpen]

theorem becomes_of_isOpen {sessionId : Text} {row : SessionRow} {status : SessionStatus}
    (hit : isOpen sessionId row = true) (closed : status ≠ .pendingAuth)
    : row.Becomes { row with status } := by
  refine ⟨rfl, fun _ => ⟨rfl, rfl⟩, ?_⟩
  rcases (isOpen_iff.mp hit).2 with pending | authenticated
  · exact .inr (.inl pending)
  · exact .inr (.inr ⟨authenticated, closed⟩)

theorem revises_sessions : Revises cmd db (Steps cmd) sessions .session := by
  cases cmd with
  | insert row =>
    refine revises_insert .refl row ?_
    cases row <;> first | exact .inl rfl | exact .inr ⟨_, rfl, rfl⟩
  | expireSession sessionId =>
    refine .inl (.updateWhere .refl (fun old hit => ?_))
    exact ⟨becomes_of_isOpen hit (fun same => by cases same), by simp, .inl rfl⟩
  | denySession sessionId =>
    refine .inl (.updateWhere .refl (fun old hit => ?_))
    exact ⟨becomes_of_isOpen hit (fun same => by cases same), by simp, .inl rfl⟩
  | authenticateSession sessionId authentication =>
    refine .inl (.updateWhere .refl (fun old hit => ?_))
    simp only [and_eq_true, beq_iff_eq] at hit
    obtain ⟨rfl, pending⟩ := hit
    exact ⟨⟨rfl, fun notPending => absurd pending notPending, .inr (.inl pending)⟩,
      .inr (.inl ⟨pending, rfl⟩), .inr ⟨authentication, rfl, rfl⟩⟩
  | preferPasskey sessionId authenticatorId =>
    refine .inl (.updateWhere .refl (fun old _ => ?_))
    exact ⟨⟨rfl, fun _ => ⟨rfl, rfl⟩, .inl rfl⟩, .inl rfl, .inl rfl⟩
  | approveSession sessionId =>
    refine .inl (.updateWhere .refl (fun old hit => ?_))
    simp only [and_eq_true, beq_iff_eq] at hit
    refine ⟨⟨rfl, fun _ => ⟨rfl, rfl⟩, .inr (.inr ⟨hit.2, fun same => by cases same⟩)⟩,
      .inr (.inr (.inl ⟨hit.2, rfl⟩)), .inl rfl⟩
  | _ => exact .inl (.refl .refl)

theorem sessions_exec
    : Continues Becomes db.sessions (exec cmd db).2.sessions := by
  intro row mem
  obtain ⟨row', here, steps⟩ := (db.revises_sessions cmd).continues .refl row mem
  exact ⟨row', here, steps.becomes⟩

end Database

/-- The unique columns are unique. -/
structure Lawful (db : Database) : Prop where
  accounts : Keyed (·.accountId) db.accounts
  memberships : Keyed MembershipRow.key db.memberships
  authenticators : Keyed (·.authenticatorId) db.authenticators
  connections : Keyed (·.connectionId) db.connections
  families : Keyed (·.tokenFamilyId) db.families
  accessTokens : Keyed (·.tokenHash) db.accessTokens
  refreshTokens : Keyed (·.tokenHash) db.refreshTokens
  codes : Keyed (·.codeHash) db.codes
  passkeys : Keyed (·.credentialId) db.passkeys
  challenges : Keyed (·.challengeHash) db.challenges
  invites : Keyed (·.inviteHash) db.invites
  sessions : Keyed (·.sessionId) db.sessions
  sessionTokens : Keyed (·.tokenHash) db.sessions

theorem lawful_initial (clients : List ClientRow) : Lawful (initial clients) :=
  ⟨.nil, .nil, .nil, .nil, .nil, .nil, .nil, .nil, .nil, .nil, .nil, .nil, .nil⟩

theorem keyed_add {α κ : Type} [BEq κ] [LawfulBEq κ] {key : α → κ} {rows : List α} {row : α}
    (keyed : Keyed key rows) (free : (rows.find? (fun old => key old == key row)).isSome = false)
    : Keyed key (rows ++ [row]) := by
  rw [Option.isSome_eq_false_iff, Option.isNone_iff_eq_none] at free
  exact keyed.append_singleton (find_eq_none.mp free)

theorem Lawful.add {db : Database} (lawful : Lawful db) {row : Row} (free : db.taken row = false)
    : Lawful (db.add row) := by
  cases row with
  | account row => exact { lawful with accounts := keyed_add lawful.accounts free }
  | membership row => exact { lawful with memberships := keyed_add lawful.memberships free }
  | authenticator row =>
    exact { lawful with authenticators := keyed_add lawful.authenticators free }
  | connection row =>
    simp only [taken, or_eq_false_iff] at free
    exact { lawful with connections := keyed_add lawful.connections free.1 }
  | family row => exact { lawful with families := keyed_add lawful.families free }
  | accessToken row => exact { lawful with accessTokens := keyed_add lawful.accessTokens free }
  | refreshToken row =>
    exact { lawful with refreshTokens := keyed_add lawful.refreshTokens free }
  | code row => exact { lawful with codes := keyed_add lawful.codes free }
  | passkey row => exact { lawful with passkeys := keyed_add lawful.passkeys free }
  | challenge row => exact { lawful with challenges := keyed_add lawful.challenges free }
  | invite row =>
    simp only [taken, or_eq_false_iff] at free
    exact { lawful with invites := keyed_add lawful.invites free.1 }
  | session row =>
    simp only [taken, or_eq_false_iff] at free
    refine { lawful with
      sessions := lawful.sessions.append_singleton (fun old mem same => ?_)
      sessionTokens := keyed_add lawful.sessionTokens free.1 }
    have taken : db.sessions.any (·.sessionId == row.sessionId) = true :=
      any_eq_true.mpr ⟨old, mem, beq_iff_eq.mpr same⟩
    rw [taken] at free
    exact absurd free.2 (by decide)
  | _ => exact { lawful with }

/-- Every statement keeps unique columns unique. -/
theorem Lawful.exec {db : Database} (lawful : Lawful db) (cmd : Command)
    : Lawful (Database.exec cmd db).2 := by
  cases cmd with
  | insert row =>
    rcases db.exec_insert row with ⟨_, denied⟩ | ⟨free, added⟩
    · rw [denied]
      exact lawful
    · rw [added]
      exact lawful.add free
  | upsertMembership accountId tenantId =>
    refine { lawful with memberships := ?_ }
    simp only [Database.exec, upsertMembership]
    split
    · rename_i lost
      exact lawful.memberships.append_singleton (find_eq_none.mp lost)
    · exact lawful.memberships.updateWhere (fun _ _ => rfl)
  | revokeMembership accountId tenantId authzVersion =>
    exact { lawful with memberships := lawful.memberships.updateWhere (fun _ _ => rfl) }
  | setAccountVersion accountId authzVersion =>
    exact { lawful with accounts := lawful.accounts.updateWhere (fun _ _ => rfl) }
  | revokeAuthenticator | replaceAuthenticator =>
    exact { lawful with authenticators := lawful.authenticators.updateWhere (fun _ _ => rfl) }
  | setConnectionTenant | revokeConnection =>
    exact { lawful with connections := lawful.connections.updateWhere (fun _ _ => rfl) }
  | setRefreshGeneration | revokeFamily =>
    exact { lawful with families := lawful.families.updateWhere (fun _ _ => rfl) }
  | revokeAccessTokens tokenFamilyId now =>
    exact { lawful with accessTokens := lawful.accessTokens.updateWhere (fun _ _ => rfl) }
  | markRotated | revokeRefreshTokens =>
    exact { lawful with refreshTokens := lawful.refreshTokens.updateWhere (fun _ _ => rfl) }
  | expireCode | useCode =>
    exact { lawful with codes := lawful.codes.updateWhere (fun _ _ => rfl) }
  | setSignCount credentialId signCount =>
    exact { lawful with passkeys := lawful.passkeys.updateWhere (fun _ _ => rfl) }
  | expireChallenge | useChallenge =>
    exact { lawful with challenges := lawful.challenges.updateWhere (fun _ _ => rfl) }
  | expireInvite | redeemInvite =>
    exact { lawful with invites := lawful.invites.updateWhere (fun _ _ => rfl) }
  | expireSession | authenticateSession | preferPasskey | approveSession | denySession =>
    exact { lawful with
      sessions := lawful.sessions.updateWhere (fun _ _ => rfl)
      sessionTokens := lawful.sessionTokens.updateWhere (fun _ _ => rfl) }
  | _ => exact { lawful with }

end CairnStone.CoreAuth
