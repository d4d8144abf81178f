import CairnStone.CoreAuth.Promises

/-! What the promises of all calls amount to in a run: what every token family and every refresh
token rests on, and how far a row that was seen at some instant is known later.
-/

namespace CairnStone.CoreAuth

open JavaScript Data Concurrency List Database Lives

variable {env : Env} {start : Database} {t : Nat} {h h' : History authStore}
  {clients : List ClientRow} {db : Database}

/-- What is promised of every inserted family, and outlasts every statement, is true of every
family. Witness: a family of the table was inserted, or continues one that was there.
-/
theorem Lives.families_satisfy {P : TokenFamilyRow → History authStore → Prop}
    (lives : Lives env (initial clients) h)
    (put
      : ∀ {g t row}, RowPromise (initial clients) t g (.family row) → P row g)
    (becomes : ∀ {row row' : TokenFamilyRow} {g}, row.Becomes row' → P row g → P row' g)
    (later : ∀ {g t c row}, P row g → P row (g.exec t c))
    : ∀ row ∈ families h.state, P row h := by
  refine lives.invariant (J := fun h => ∀ row ∈ families h.state, P row h)
    (fun row mem => absurd mem not_mem_nil) ?_
  intro g t cmd _ due known row mem
  rcases (revises_families _ g.state).mem .refl mem with ⟨old, here, goes⟩ | ⟨rfl, _⟩
  · exact later (becomes goes (known old here))
  · exact later (put (t := t) due)

variable {family : TokenFamilyRow}

theorem TokenFamilyRow.Homed.exec (homed : family.Homed db) (cmd : Command)
    : family.Homed (Database.exec cmd db).2 := by
  obtain ⟨membership, mem, key⟩ := homed
  obtain ⟨membership', mem', goes⟩ := memberships_exec cmd db membership mem
  refine ⟨membership', mem', ?_⟩
  rw [← key, goes.columns]
  rfl

/-- The account and the tenant of every family are, or once were, joined. -/
theorem Lives.homed (lives : Lives env (initial clients) h)
    : ∀ row ∈ families h.state, row.Homed h.state := by
  refine lives.families_satisfy (P := fun row h => row.Homed h.state) (fun due => due.2.2.1)
    (fun goes homed => ?_) (fun homed => homed.exec _)
  rw [goes.columns]
  exact homed

/-- Every family has a version that its account had. -/
theorem Lives.stamped (lives : Lives env (initial clients) h)
    : ∀ row ∈ families h.state, row.Stamped (initial clients) h := by
  refine lives.families_satisfy (P := fun row h => row.Stamped (initial clients) h)
    (fun due => due.2.1)
    (fun goes stamped => ?_) (fun stamped => Seen.later stamped (suffix_cons _ _))
  rw [goes.columns]
  exact stamped

theorem Lives.granted (lives : Lives env (initial clients) h)
    : ∀ row ∈ families h.state, row.status = .active ∨ row.status = .revoked := by
  refine lives.families_satisfy (P := fun row _ => row.status = .active ∨ row.status = .revoked)
    (fun due => .inl due.1) (fun goes known => ?_) (fun known => known)
  rcases goes.ended with same | revoked
  · rwa [same]
  · exact .inr revoked

theorem Lives.refreshToken_family (lives : Lives env (initial clients) h)
    : ∀ row ∈ refreshTokens h.state,
        ∃ family ∈ families h.state, family.tokenFamilyId = row.tokenFamilyId := by
  refine Kept.invariant
    (J := fun h => ∀ row ∈ refreshTokens h.state,
      ∃ family ∈ families h.state, family.tokenFamilyId = row.tokenFamilyId)
    lives (fun row mem => absurd mem not_mem_nil) ?_
  intro g t cmd _ due known row mem
  have goesOn {id : Text}
      (exists' : ∃ family ∈ families g.state, family.tokenFamilyId = id)
      : ∃ family ∈ families (exec cmd g.state).2,
          family.tokenFamilyId = id := by
    obtain ⟨family, here, same⟩ := exists'
    obtain ⟨family', present', goes⟩ := families_exec cmd g.state family here
    refine ⟨family', present', ?_⟩
    rw [goes.columns]
    exact same
  rcases (revises_refreshTokens _ g.state).mem .refl mem with ⟨old, here, goes⟩ | ⟨rfl, _⟩
  · have same : row.tokenFamilyId = old.tokenFamilyId := by rw [goes.columns]
    rw [same]
    exact goesOn (known old here)
  · exact goesOn due.1

theorem addsRefreshToken_iff {tokenFamilyId : Text} {issued : Issued authStore}
    : addsRefreshToken tokenFamilyId issued = true
      ↔ ∃ row, issued.command = .insert (.refreshToken row) ∧ row.tokenFamilyId = tokenFamilyId
        ∧ taken issued.before (.refreshToken row) = false := by
  unfold addsRefreshToken
  split
  · rename_i row cmd
    simp [cmd]
  · rename_i other
    constructor
    · exact fun adds => Bool.noConfusion adds
    · rintro ⟨row, cmd, _⟩
      exact absurd cmd (other row)

/-- A call adds to a family at most the refresh tokens that it may add. Witness: every insertion
was promised on credit.
-/
theorem Lives.balanced (lives : Lives env start h) (tokenFamilyId : Text) (t : Nat)
    : (h.own t).countP (addsRefreshToken tokenFamilyId)
      ≤ (h.own t).countP (permitsRefreshToken tokenFamilyId) := by
  refine Kept.invariant
    (J := fun h => ∀ t, (h.own t).countP (addsRefreshToken tokenFamilyId)
      ≤ (h.own t).countP (permitsRefreshToken tokenFamilyId))
    lives (fun _ => Nat.le_refl _) ?_ t
  intro g t cmd _ due known u
  by_cases same : t = u
  · subst same
    rw [History.own_exec_self, countP_cons, countP_cons]
    have soFar := known t
    cases adds : addsRefreshToken tokenFamilyId ⟨t, cmd, g.state⟩ with
    | false =>
      simp only [Bool.false_eq_true, if_false]
      omega
    | true =>
      obtain ⟨row, rfl, rfl, _⟩ := addsRefreshToken_iff.mp adds
      have credit : Credit row.tokenFamilyId (g.own t) := due.2
      unfold Credit at credit
      simp only [if_true]
      omega
  · rw [History.own_exec_of_ne _ same]
    exact known u

theorem Lives.family_of_seen (lives : Lives env start h)
    (seen : Seen (M := authStore) start (fun db => family ∈ families db) h)
    : ∃ family' ∈ families h.state, family.Becomes family' := by
  obtain ⟨log, le, mem⟩ := seen
  exact family_later (lives.earlier le) lives le mem

def FamilyRevoked (tokenFamilyId : Text) (db : Database) : Prop :=
  ∃ family ∈ db.families, family.tokenFamilyId = tokenFamilyId ∧ family.status = .revoked

theorem FamilyRevoked.later {tokenFamilyId : Text} (ended : FamilyRevoked tokenFamilyId h.state)
    (lives : Lives env start h) (lives' : Lives env start h') (le : h.log <:+ h'.log)
    : FamilyRevoked tokenFamilyId h'.state := by
  obtain ⟨family, mem, same, status⟩ := ended
  obtain ⟨family', mem', goes⟩ := family_later lives lives' le mem
  refine ⟨family', mem', ?_, goes.revoked status⟩
  rw [goes.columns]
  exact same

theorem familyRevoked_revokeFamily (mem : family ∈ db.families)
    : FamilyRevoked family.tokenFamilyId
        (exec (.revokeFamily family.tokenFamilyId) db).2 := by
  refine ⟨{ family with status := .revoked }, ?_, rfl, rfl⟩
  refine mem_updateWhere.mpr ⟨family, mem, ?_⟩
  simp

def ConnectionEnded (connectionId : Text) (db : Database) : Prop :=
  ∃ connection ∈ db.connections,
    connection.connectionId = connectionId ∧ connection.status ≠ .active

theorem ConnectionEnded.later {connectionId : Text} (ended : ConnectionEnded connectionId h.state)
    (lives : Lives env start h) (lives' : Lives env start h') (le : h.log <:+ h'.log)
    : ConnectionEnded connectionId h'.state := by
  obtain ⟨connection, mem, same, status⟩ := ended
  obtain ⟨connection', mem', goes⟩ := connection_later lives lives' le mem
  refine ⟨connection', mem', ?_, goes.ended status⟩
  rw [goes.columns]
  exact same

theorem connectionEnded_revokeConnection {connection : ConnectionRow}
    (mem : connection ∈ db.connections)
    : ConnectionEnded connection.connectionId
        (exec (.revokeConnection connection.connectionId) db).2 := by
  refine ⟨{ connection with status := .revoked }, ?_, rfl, fun same => by cases same⟩
  refine mem_updateWhere.mpr ⟨connection, mem, ?_⟩
  simp

end CairnStone.CoreAuth

/-! Statements that need no promise, the programs that issue nothing else, and the obligations of
programs that begin with such a part.
-/

namespace CairnStone.CoreAuth

open JavaScript Data Concurrency Database List

variable {refusal : Refusal}

/-- Nothing is promised of such a row. -/
def Row.Quiet : Row → Prop
  | .family _ | .refreshToken _ | .challenge _ | .session _ | .code _ => False
  | _ => True

/-- Nothing is promised of such a statement. -/
def Command.Quiet : Command → Prop
  | .insert row => row.Quiet
  | .markRotated _ | .authenticateSession _ _ | .approveSession _ => False
  | _ => True

/-- The program issues only statements of which nothing is promised. -/
abbrev Quiet {α : Type} (p : Auth α) : Prop :=
  Program.Issues (M := authStore) Command.Quiet p

variable {env : Env} {start : Database} {t : Nat} {call : Call} {α β : Type}
  {h h' h'' : History authStore} {Q : Except Failure α → History authStore → Prop}

variable {cmd : Command}

theorem Command.Quiet.promise (quiet : cmd.Quiet)
    : Promise env start t cmd h := by
  cases cmd with
  | insert row => cases row <;> first | exact trivial | exact quiet.elim
  | _ => first | exact trivial | exact quiet.elim

theorem quiet_select (f : Database → α) : Quiet (select f) :=
  fun _ => trivial

theorem quiet_perform (quiet : cmd.Quiet) : Quiet (perform cmd) :=
  ⟨quiet, fun _ => trivial⟩

theorem quiet_refuse (refusal : Refusal) : Quiet (refuse refusal : Auth α) :=
  trivial

theorem quiet_require (found : Option α) (refusal : Refusal) : Quiet (require found refusal) := by
  cases found with
  | some value => trivial
  | none => trivial

theorem quiet_ensure (cond : Prop) [Decidable cond] (refusal : Refusal)
    : Quiet (ensure cond refusal) := by
  unfold ensure
  split
  · trivial
  · trivial

theorem quiet_insert {row : Row} (quiet : row.Quiet) : Quiet (insert row) := by
  have statement : Command.Quiet (.insert row) := quiet
  refine (quiet_perform statement).bind (fun put => ?_)
  cases put with
  | ok _ => trivial
  | error _ => trivial

variable {g : β → Auth α}

theorem quiet_select_bind {f : Database → β} (rest : ∀ value, Quiet (g value))
    : Quiet ((select f).bind g) :=
  (quiet_select f).bind rest

theorem quiet_require_bind {found : Option β} (rest : ∀ value, Quiet (g value))
    : Quiet ((require found refusal).bind g) :=
  (quiet_require found refusal).bind rest

theorem quiet_fetch_bind {f : Database → Option β} (rest : ∀ value, Quiet (g value))
    : Quiet ((select f).bind (fun row => (require row refusal).bind g)) :=
  quiet_select_bind (fun _ => quiet_require_bind rest)

theorem quiet_ensure_bind {cond : Prop} [Decidable cond] {g : Unit → Auth α}
    (rest : Quiet (g ()))
    : Quiet ((ensure cond refusal).bind g) :=
  (quiet_ensure cond refusal).bind (fun _ => rest)

theorem quiet_perform_bind {g : cmd.Reply → Auth α} (quiet : cmd.Quiet)
    (rest : ∀ reply, Quiet (g reply))
    : Quiet ((perform cmd).bind g) :=
  (quiet_perform quiet).bind rest

theorem quiet_insert_bind {row : Row} {g : Unit → Auth α} (quiet : row.Quiet)
    (rest : Quiet (g ()))
    : Quiet ((insert row).bind g) :=
  (quiet_insert quiet).bind (fun _ => rest)

theorem Quiet.obliged {p : Auth α} (quiet : Quiet p)
    (post : ∀ answer h', Onward env start h h' → Q answer h')
    : Obliged env start t call p Q h :=
  Protocol.Meets.of_issues quiet (fun _ _ quiet => quiet.promise) post

/-- A quiet part, followed by the rest of the call. -/
theorem Quiet.owes_bind {p : Auth β} (quiet : Quiet p)
    (next : ∀ value h', Onward env start h h' → Obliged env start t call (g value) Q h')
    (stop : ∀ error h', Onward env start h h' → Q (.error error) h')
    : Obliged env start t call (p.bind g) Q h := by
  refine Protocol.Meets.bind (quiet.obliged (fun answer h' onward => ?_))
  cases answer with
  | ok value => exact next value h' onward
  | error error => exact stop error h' onward

/-- One quiet statement, followed by the rest of the call. -/
theorem owes_quiet_bind {g : cmd.Reply → Auth α} (quiet : cmd.Quiet)
    (next
      : ∀ h', Later env start t h h' → Onward env start h (h'.exec t cmd)
        → Obliged env start t call (g (exec cmd h'.state).1) Q (h'.exec t cmd))
    : Obliged env start t call ((perform cmd).bind g) Q h :=
  owes_perform_bind (fun _ _ => quiet.promise) next

end CairnStone.CoreAuth
