import CairnStone.PrivateRealm.D1Obligations

/-! Every method of the D1 store other than `send` keeps the contract. A method succeeds only
for a caller that was not revoked before the call, and a method on an inbox only for an inbox
that the caller may reach.
-/

namespace CairnStone.PrivateRealm.D1Store

open JavaScript Data Concurrency Protocol List Meets Bool

variable {db db' before : Database} {ctx : AuthContext} {inboxIdIn opts : Value}
  {inboxId target homeId : Text} {α : Type} {start : History machine}
  {options : CreateInboxOptions} {returned : List (MessageReading Time)}

def Succeeds {α : Type} (R : α → History machine → Prop)
    : Except Failure α → History machine → Prop
  | .ok answer, h => R answer h
  | .error _, _ => True

def UnrevokedCaller (scopeIn : Value) (db : Database) : Prop :=
  ∃ scope, assertHomeScope scopeIn = .ok scope ∧ Unrevoked db scope.connectionId

def ReachesInbox (scopeIn inboxIdIn : Value) (db : Database) : Prop :=
  ∃ scope homeId inboxId, assertHomeScope scopeIn = .ok scope
    ∧ inboxId? inboxIdIn = some inboxId ∧ Registered db scope homeId
    ∧ Reachable db homeId inboxId scope.connectionId

variable {store : StoreConfig} {t : Nat} {call : Call} {scopeIn selector : Value}
  {h : History machine}

section

variable {α : Type} {R : α → History machine → Prop}

-- A refusal asks nothing of the postcondition.

theorem owes_admit_bind {action : String} {g : AuthContext → Async α}
    (next
      : ∀ ctx h', After store h h' → Admitted scopeIn h.state.db ctx h'.state.db
        → Obliged store t call (g ctx) (Succeeds R) h')
    : Obliged store t call ((authorize scopeIn selector action).bind g) (Succeeds R) h :=
  owes_authorize_bind next (fun _ _ _ _ => trivial)

theorem owes_capable_bind {cond : Prop} [Decidable cond] {homeId : Text}
    {scope : HomeScope} {action reason : String} {g : Unit → Async α}
    (next : cond → Obliged store t call (g ()) (Succeeds R) h)
    : Obliged store t call
        ((require cond (denyCapability homeId scope action reason)).bind g) (Succeeds R) h :=
  owes_require_bind next (fun _ => owes_denyCapability_bind (fun _ _ => trivial))

end

theorem UnrevokedCaller.of_grows (caller : UnrevokedCaller scopeIn db') (grows : Grows db db')
    : UnrevokedCaller scopeIn db := by
  obtain ⟨scope, valid, unrevoked⟩ := caller
  exact ⟨scope, valid, unrevoked.of_grows grows⟩

theorem Admitted.caller (fits : Admitted scopeIn before ctx db)
    : UnrevokedCaller scopeIn before :=
  ⟨ctx.scope, fits.scope, fits.unrevoked⟩

theorem Admitted.speaks (fits : Admitted scopeIn before ctx db)
    (asked : call.scope = scopeIn)
    : call.Speaks ctx.scope := by
  rw [Call.Speaks, asked]
  exact fits.scope

theorem Admitted.reaches (fits : Admitted scopeIn before ctx db)
    (valid : inboxId? inboxIdIn = some inboxId)
    (reachable : Reachable db ctx.homeId inboxId ctx.conn.connectionId)
    : ReachesInbox scopeIn inboxIdIn db :=
  ⟨ctx.scope, ctx.homeId, inboxId, fits.scope, valid, fits.registered,
    fits.connection ▸ reachable⟩

theorem ReachesInbox.grows (reaches : ReachesInbox scopeIn inboxIdIn db) (grows : Grows db db')
    : ReachesInbox scopeIn inboxIdIn db' := by
  obtain ⟨scope, homeId, inboxId, valid, id, known, reachable⟩ := reaches
  exact ⟨scope, homeId, inboxId, valid, id, known.grows grows, reachable.grows grows⟩

abbrev AnswersCaller (scopeIn : Value) (before : Database)
    : Except Failure (Answer Time) → History machine → Prop :=
  Succeeds (fun _ _ => UnrevokedCaller scopeIn before)

abbrev AnswersReader (scopeIn inboxIdIn : Value) (before : Database)
    : Except Failure (Answer Time) → History machine → Prop :=
  Succeeds
    (fun answer h' =>
      answer ≠ .permitted false
      → UnrevokedCaller scopeIn before ∧ ReachesInbox scopeIn inboxIdIn h'.state.db)

theorem unrevoked_of_unknown {connectionId : Text}
    (unknown : knownConnection connectionId db = false)
    : Unrevoked db connectionId := by
  intro c mem same
  simp only [knownConnection, any_eq_false, beq_iff_eq] at unknown
  exact absurd same (unknown c mem)

/-- A pass of `ensureDefaultHome` answers only callers that were unrevoked before it.
Witness: induction on the passes; a connection that a pass registers was unknown.
-/
theorem owes_ensurePass {scope : HomeScope} (asked : call.scope = scopeIn)
    (valid : assertHomeScope scopeIn = .ok scope) (passes : Nat) (lastError : Option Failure)
    : Obliged store t call (ensurePass scopeIn scope passes lastError)
        (AnswersCaller scopeIn h.state.db) h := by
  induction passes generalizing lastError h with
  | zero => exact .fail (fun _ _ => trivial)
  | succ passes ih =>
    have retry {h' : History machine} (after : After store h h')
        (lastError : Option Failure)
        : Obliged store t call (ensurePass scopeIn scope passes lastError)
            (AnswersCaller scopeIn h.state.db) h' := by
      refine (ih lastError).consequence (fun answer _ _ holds => ?_)
      cases answer with
      | ok answer => exact UnrevokedCaller.of_grows holds after.le.db
      | error error => trivial
    have speaks : call.Speaks scope := by rw [Call.Speaks, asked]; exact valid
    unfold ensurePass
    refine owes_select_bind (fun h1 after1 => ?_)
    split
    · refine owes_admit_bind (fun ctx h2 after2 fits => ?_)
      have caller := fits.caller.of_grows after1.le.db
      exact owes_audit_bind (fun _ _ => .done (fun _ _ => caller))
    · rename_i unknown
      have caller : UnrevokedCaller scopeIn h.state.db :=
        ⟨scope, valid, (unrevoked_of_unknown (by simpa using unknown)).of_grows after1.le.db⟩
      refine owes_select_bind (fun h2 after2 => ?_)
      split
      · refine owes_now_bind (fun stamp h3 after3 _ _ => ?_)
        refine owes_free_bind (fun _ => trivial) (fun homeId h4 after4 => ?_)
        refine owes_command_bind (fun _ _ => speaks) (fun reply h5 after5 => ?_)
        have after := after1.trans (after2.trans (after3.trans (after4.trans after5)))
        split
        · exact retry after _
        · exact owes_audit_bind (fun _ _ => .done (fun _ _ => caller))
      · rename_i home _
        refine owes_now_bind (fun stamp h3 after3 _ _ => ?_)
        refine owes_require_bind (fun _ => ?_)
          (fun _ => owes_denyAuth_bind (fun _ _ => trivial))
        refine owes_require_bind (fun _ => ?_)
          (fun _ => owes_denyAuth_bind (fun _ _ => trivial))
        refine owes_select_bind (fun h4 after4 => ?_)
        refine owes_require_bind (fun _ => ?_)
          (fun _ => owes_denyAuth_bind (fun _ _ => trivial))
        refine owes_command_bind (fun _ _ => speaks) (fun reply h5 after5 => ?_)
        have after := after1.trans (after2.trans (after3.trans (after4.trans after5)))
        split
        · exact retry after _
        · exact retry after _
        · exact owes_audit_bind (fun _ _ => .done (fun _ _ => caller))

theorem owes_ensureDefaultHome (asked : call.scope = scopeIn)
    : Obliged store t call (ensureDefaultHome scopeIn) (AnswersCaller scopeIn h.state.db) h :=
  ofExcept_bind
    (fun _ valid => owes_ensurePass asked valid MAX_PASSES none)
    (fun _ _ _ _ => trivial)

theorem owes_resolveHome
    : Obliged store t call (resolveHome scopeIn selector) (AnswersCaller scopeIn h.state.db) h :=
  owes_authorize_bind
    (fun _ _ _ fits =>
      owes_audit_bind (fun _ _ => .done (fun _ _ => fits.caller)))
    (fun _ _ _ _ => trivial)

variable {R : α → History machine → Prop}

theorem owes_failedGuard_bind {action : String} {admin : Bool} {g : AuthContext → Async α}
    (ok
      : ∀ ctx h', After store h h' → Admitted scopeIn h.state.db ctx h'.state.db
        → Obliged store t call (g ctx) (Succeeds R) h')
    : Obliged store t call ((failedGuard scopeIn selector action admin).bind g)
        (Succeeds R) h := by
  unfold failedGuard
  refine bind ?_
  refine owes_authorize_bind (fun ctx h1 after1 fits => ?_) (fun _ _ _ _ => trivial)
  refine owes_require_bind (fun _ => ?_)
    (fun _ => owes_denyCapability_bind (fun _ _ => trivial))
  refine Meets.done (fun h2 moved => ?_)
  have after2 : After store h1 h2 := moved.toAfter
  exact ok ctx h2 (after1.trans after2) (fits.later after2.le.db)

theorem owes_explainSetRole {role : HomeRole}
    : Obliged store t call (explainSetRole scopeIn selector target role)
        (AnswersCaller scopeIn h.state.db) h := by
  refine owes_failedGuard_bind (fun ctx h1 after1 fits => ?_)
  refine owes_select_bind (fun h2 after2 => ?_)
  split
  · exact owes_denyCapability (fun _ _ => trivial)
  · exact owes_capable_bind (fun _ => .fail (fun _ _ => trivial))

theorem owes_orThrow_bind {β : Type} {reply : Except SqlError β} {g : β → Async α}
    (next : ∀ value, Obliged store t call (g value) (Succeeds R) h)
    : Obliged store t call ((orThrow reply).bind g) (Succeeds R) h := by
  cases reply with
  | ok value => exact next value
  | error error => exact .fail (fun _ _ => trivial)

/-- Who was unrevoked when an explanation started was unrevoked before. -/
theorem answersCaller_since {h' : History machine} {p : Async (Answer Time)}
    (meets : Obliged store t call p (AnswersCaller scopeIn h'.state.db) h')
    (after : After store start h')
    : Obliged store t call p (AnswersCaller scopeIn start.state.db) h' := by
  refine consequence meets (fun answer _ _ holds => ?_)
  cases answer with
  | ok answer => exact UnrevokedCaller.of_grows holds after.le.db
  | error error => trivial

theorem owes_setConnectionRole {targetIn roleIn : Value} (asked : call.scope = scopeIn)
    : Obliged store t call (setConnectionRole scopeIn targetIn roleIn selector)
        (AnswersCaller scopeIn h.state.db) h := by
  refine owes_admit_bind (fun ctx h1 after1 fits => ?_)
  refine owes_capable_bind (fun _ => ?_)
  split
  · exact .fail (fun _ _ => trivial)
  split
  · exact owes_denyCapability (fun _ _ => trivial)
  refine owes_select_bind (fun h2 after2 => ?_)
  refine owes_capable_bind (fun _ => ?_)
  refine owes_command_bind (fun _ _ => ⟨fits.speaks asked, rfl⟩) (fun reply h3 after3 => ?_)
  refine owes_orThrow_bind (fun edits => ?_)
  split
  · exact answersCaller_since owes_explainSetRole (after1.trans (after2.trans after3))
  · exact owes_audit_bind (fun _ _ => .done (fun _ _ => fits.caller))

theorem owes_explainRevoke {self : Bool}
    : Obliged store t call (explainRevoke scopeIn selector target self)
        (AnswersCaller scopeIn h.state.db) h := by
  refine owes_failedGuard_bind (fun ctx h1 after1 fits => ?_)
  refine owes_select_bind (fun h2 after2 => ?_)
  split
  · exact owes_denyCapability (fun _ _ => trivial)
  split
  · exact owes_audit_bind (fun _ _ => .done (fun _ _ => fits.caller))
  · exact owes_capable_bind (fun _ => .fail (fun _ _ => trivial))

/-- A revocation is aimed at the caller itself or guarded by the admin role. -/
theorem owes_revokeConnection {targetIn : Value} (asked : call.scope = scopeIn)
    : Obliged store t call (revokeConnection scopeIn targetIn selector)
        (AnswersCaller scopeIn h.state.db) h := by
  refine owes_admit_bind (fun ctx h1 after1 fits => ?_)
  refine ofExcept_bind (fun target _ => ?_) (fun _ _ _ _ => trivial)
  refine owes_capable_bind (fun _ => ?_)
  refine owes_select_bind (fun h2 after2 => ?_)
  split
  · exact owes_denyCapability (fun _ _ => trivial)
  split
  · exact owes_audit_bind (fun _ _ => .done (fun _ _ => fits.caller))
  refine owes_now_bind (fun stamp h3 after3 _ _ => ?_)
  have promise
      : ∀ h', Promise store t call
          (.revokeConnection stamp target (connGuard ctx (!target == ctx.conn.connectionId)))
          h' := by
    refine fun _ => ⟨fits.speaks asked, ?_⟩
    by_cases self : target = ctx.conn.connectionId
    · exact .inr (self.trans fits.connection)
    · exact .inl (by simp [connGuard, self])
  refine owes_command_bind (fun h' _ => promise h') (fun reply h4 after4 => ?_)
  refine owes_orThrow_bind (fun edits => ?_)
  split
  · exact answersCaller_since owes_explainRevoke
      (after1.trans (after2.trans (after3.trans after4)))
  · exact owes_audit_bind (fun _ _ => .done (fun _ _ => fits.caller))

theorem owes_classifyInbox_bind {owner : Option Text} {g : Option (Answer Time) → Async α}
    (next
      : ∀ early h', After store h h' → Obliged store t call (g early) (Succeeds R) h')
    : Obliged store t call ((classifyInbox ctx options inboxId owner).bind g)
        (Succeeds R) h := by
  unfold classifyInbox
  refine bind (owes_select_bind (fun h1 after1 => ?_))
  split
  · exact .done (fun h2 moved => next _ h2 (after1.trans moved.toAfter))
  · refine owes_require_bind (fun _ => ?_)
      (fun _ => owes_denyCapability_bind (fun _ _ => trivial))
    exact owes_audit_bind
      (fun h2 after2 =>
        Meets.done (fun h3 moved => next _ h3 (after1.trans (after2.trans moved.toAfter))))

theorem owes_explainCreateInbox {owner : Option Text} {needsAdmin : Bool}
    {otherwise : Failure}
    : Obliged store t call
        (explainCreateInbox scopeIn selector ctx options inboxId owner needsAdmin otherwise)
        (AnswersCaller scopeIn h.state.db) h := by
  refine owes_failedGuard_bind (fun fresh h1 after1 fits => ?_)
  refine owes_classifyInbox_bind (fun raced h2 after2 => ?_)
  split
  · exact .done (fun _ _ => fits.caller)
  · exact .fail (fun _ _ => trivial)

/-- A new inbox lies in the caller's Home and is owned by nobody else; a shared one is
guarded by the admin role.
-/
theorem owes_createNamedInbox (asked : call.scope = scopeIn)
    (fits : Admitted scopeIn start.state.db ctx h.state.db) (after : After store start h)
    : Obliged store t call (createNamedInbox scopeIn selector ctx options inboxId)
        (AnswersCaller scopeIn start.state.db) h := by
  refine owes_classifyInbox_bind (fun early h1 after1 => ?_)
  split
  · exact .done (fun _ _ => fits.caller)
  refine owes_now_bind (fun stamp h2 after2 _ _ => ?_)
  refine owes_command_bind (fun _ _ => ⟨fits.speaks asked, ⟨rfl, ?_⟩, ?_⟩)
    (fun reply h3 after3 => ?_)
  · intro owner owned
    simp only [Option.mem_def] at owned
    split at owned
    · cases owned
      exact fits.connection
    · cases owned
  · intro shared
    simpa [connGuard] using shared
  · have after := after.trans (after1.trans (after2.trans after3))
    split
    · exact answersCaller_since owes_explainCreateInbox after
    split
    · exact answersCaller_since owes_explainCreateInbox after
    · exact owes_audit_bind (fun _ _ => .done (fun _ _ => fits.caller))

theorem owes_createInbox (asked : call.scope = scopeIn)
    : Obliged store t call (createInbox scopeIn opts selector) (AnswersCaller scopeIn h.state.db) h := by
  refine owes_admit_bind (fun ctx h1 after1 fits => ?_)
  refine ofExcept_bind (fun options _ => ?_) (fun _ _ _ _ => trivial)
  refine owes_capable_bind (fun _ => ?_)
  unfold newInboxId
  cases options.inboxId with
  | some inboxId => exact owes_createNamedInbox asked fits after1
  | none =>
    exact owes_free_bind (fun _ => trivial)
      (fun inboxId h2 after2 =>
        owes_createNamedInbox asked (fits.later after2.le.db) (after1.trans after2))

theorem owes_listInboxes
    : Obliged store t call (listInboxes scopeIn selector) (AnswersCaller scopeIn h.state.db) h :=
  owes_authorize_bind
    (fun _ _ _ fits =>
      owes_select_bind
        (fun _ _ =>
          owes_audit_bind (fun _ _ => .done (fun _ _ => fits.caller))))
    (fun _ _ _ _ => trivial)

theorem owes_grantInbox (asked : call.scope = scopeIn)
    : Obliged store t call (grantInbox scopeIn opts selector) (AnswersCaller scopeIn h.state.db) h := by
  refine owes_admit_bind (fun ctx h1 after1 fits => ?_)
  refine owes_capable_bind (fun _ => ?_)
  split
  · exact owes_denyCapability (fun _ _ => trivial)
  refine owes_select_bind (fun h2 after2 => ?_)
  split
  · exact owes_denyCapability (fun _ _ => trivial)
  refine owes_capable_bind (fun _ => ?_)
  split
  · exact owes_denyCapability (fun _ _ => trivial)
  refine owes_select_bind (fun h3 after3 => ?_)
  refine owes_capable_bind (fun _ => ?_)
  refine ofExcept_bind (fun caps _ => ?_) (fun _ _ _ _ => trivial)
  refine owes_now_bind (fun stamp h4 after4 _ _ => ?_)
  refine owes_command_bind (fun _ _ => ⟨fits.speaks asked, rfl, rfl⟩)
    (fun reply h5 after5 => ?_)
  refine owes_orThrow_bind (fun edits => ?_)
  split
  · exact owes_failedGuard_bind (fun _ _ _ _ => owes_denyCapability (fun _ _ => trivial))
  · exact owes_audit_bind (fun _ _ => .done (fun _ _ => fits.caller))

theorem owes_explainRevokeGrant
    : Obliged store t call (explainRevokeGrant scopeIn selector inboxId target)
        (AnswersCaller scopeIn h.state.db) h := by
  refine owes_failedGuard_bind (fun ctx h1 after1 fits => ?_)
  refine owes_select_bind (fun h2 after2 => ?_)
  refine owes_require_bind (fun _ => ?_) (fun _ => .fail (fun _ _ => trivial))
  exact owes_audit_bind (fun _ _ => .done (fun _ _ => fits.caller))

theorem owes_revokeGrant (asked : call.scope = scopeIn)
    : Obliged store t call (revokeGrant scopeIn opts selector) (AnswersCaller scopeIn h.state.db) h := by
  refine owes_admit_bind (fun ctx h1 after1 fits => ?_)
  refine owes_capable_bind (fun _ => ?_)
  split
  · exact owes_denyCapability (fun _ _ => trivial)
  refine owes_select_bind (fun h2 after2 => ?_)
  split
  · exact owes_denyCapability (fun _ _ => trivial)
  refine owes_capable_bind (fun _ => ?_)
  split
  · exact owes_audit_bind (fun _ _ => .done (fun _ _ => fits.caller))
  refine owes_now_bind (fun stamp h3 after3 _ _ => ?_)
  refine owes_command_bind (fun _ _ => ⟨fits.speaks asked, rfl⟩) (fun reply h4 after4 => ?_)
  refine owes_orThrow_bind (fun edits => ?_)
  split
  · exact answersCaller_since owes_explainRevokeGrant
      (after1.trans (after2.trans (after3.trans after4)))
  · exact owes_audit_bind (fun _ _ => .done (fun _ _ => fits.caller))

theorem probedGrant_reachable {connectionId : Text} {g : GrantRow}
    (found : probedGrant homeId inboxId connectionId db = some g)
    : Reachable db homeId inboxId connectionId := by
  have holds := find?_some found
  simp only [and_eq_true, or_eq_true, beq_iff_eq, bne_iff_ne,
    any_eq_true] at holds
  obtain ⟨⟨⟨⟨home, id⟩, _⟩, _⟩, i, mem, ⟨⟨iHome, iId⟩, _⟩, reach⟩ := holds
  exact ⟨i, mem, Prod.ext (iHome.trans home) (iId.trans id), reach⟩

/-- The probe says yes only on an inbox that the caller may reach. -/
theorem owes_can {capabilityIn : Value}
    : Obliged store t call (can scopeIn inboxIdIn capabilityIn selector)
        (AnswersReader scopeIn inboxIdIn h.state.db) h := by
  have handled {error : Failure} {h' : History machine}
      : Obliged store t call
          (if error = .realm "scope_not_authorized" ∨ error = .realm "capability_denied" then
            pure (.permitted false)
          else
            .fail error)
          (AnswersReader scopeIn inboxIdIn h.state.db) h' := by
    split
    · exact .done (fun _ _ refused => absurd rfl refused)
    · exact .fail (fun _ _ => trivial)
  refine handle ?_
  refine owes_authorize_bind (fun ctx h1 after1 fits => ?_) (fun _ _ _ _ => handled)
  split
  · exact .done (fun _ _ refused => absurd rfl refused)
  split
  · exact .done (fun _ _ refused => absurd rfl refused)
  rename_i inboxId valid
  refine owes_select_bind (fun h2 after2 => ?_)
  split
  · exact .done (fun _ _ refused => absurd rfl refused)
  · rename_i grant found
    refine Meets.done (fun h3 moved _ => ?_)
    have reaches :=
      (fits.later after2.le.db).reaches valid (probedGrant_reachable found)
    exact ⟨fits.caller, reaches.grows moved.le.db⟩

theorem mem_inboxRows {limit : Nat} {row : DeliveryRow × MessageRow}
    (mem : row ∈ inboxRows homeId inboxId limit db)
    : row.1 ∈ db.deliveries ∧ row.1.key = (homeId, row.2.messageId, inboxId) := by
  have joined := (perm_insertionSort _ _).mem_iff.mp (mem_of_mem_take mem)
  simp only [mem_flatMap, mem_map, mem_filter, and_eq_true,
    beq_iff_eq] at joined
  obtain ⟨d, ⟨here, home, inbox⟩, m, ⟨_, _, ofMessage⟩, rfl⟩ := joined
  refine ⟨here, ?_⟩
  simp only [DeliveryRow.key, home, inbox, ofMessage]

theorem owes_listInbox
    : Obliged store t call (listInbox scopeIn opts selector)
        (AnswersReader scopeIn (opts.get (text "inboxId")) h.state.db) h := by
  refine ofExcept_bind (fun limit _ => ?_) (fun _ _ _ _ => trivial)
  refine owes_admit_bind (fun ctx h1 after1 fits => ?_)
  refine owes_requireCapability_bind (fun inboxId h2 after2 valid reachable => ?_)
    (fun _ _ => trivial)
  have reaches := (fits.later after2.le.db).reaches valid reachable
  refine owes_select_bind (fun h3 after3 => ?_)
  refine owes_admit_bind (fun finalCtx h4 after4 _ => ?_)
  refine owes_requireCapability_bind (fun _ h5 after5 _ _ => ?_) (fun _ _ => trivial)
  refine owes_audit_bind (fun h6 after6 => .done (fun h7 moved _ => ?_))
  have after := after3.trans (after4.trans (after5.trans (after6.trans moved.toAfter)))
  exact ⟨fits.caller, reaches.grows after.le.db⟩

theorem owes_resolveBody_bind {message : MessageRow}
    {g : BodyStatus × Option Text → Async α}
    (next : ∀ found h', After store h h' → Obliged store t call (g found) (Succeeds R) h')
    : Obliged store t call ((resolveBody store homeId message).bind g) (Succeeds R) h := by
  have answer {found : BodyStatus × Option Text} {h1 : History machine}
      (after1 : After store h h1)
      : Obliged store t call ((Program.done found : Async (BodyStatus × Option Text)).bind g)
          (Succeeds R) h1 :=
    next found h1 after1
  refine of_later (fun h0 moved => ?_)
  unfold resolveBody
  split
  · exact answer moved.toAfter
  · refine bind
      (ofExcept_bind (fun key _ => ?_) (fun _ _ _ _ => trivial))
    split
    · exact .done (fun _ moved1 => answer (moved.trans moved1).toAfter)
    · refine select_bind (fun h1 moved1 => ?_)
      have after1 := moved.trans moved1
      split
      · exact .done (fun _ moved2 => answer (after1.trans moved2).toAfter)
      split
      · exact .done (fun _ moved2 => answer (after1.trans moved2).toAfter)
      · exact .done (fun _ moved2 => answer (after1.trans moved2).toAfter)

/-- Resolving bodies keeps the messages and their order.
Witness: induction on the rows; a body is read, never written.
-/
theorem owes_resolveRows (rows : List (DeliveryRow × MessageRow))
    : Obliged store t call (resolveRows store homeId rows)
        (Succeeds
          (fun returned _ => returned.map (·.messageId) = rows.map (·.2.messageId))) h := by
  induction rows generalizing h with
  | nil => exact .done (fun _ _ => rfl)
  | cons row rest ih =>
    refine owes_resolveBody_bind (fun found h1 after1 => ?_)
    refine seq ih (fun later h2 after2 kept => ?_) (fun _ _ _ _ => trivial)
    refine Meets.done (fun _ _ => ?_)
    have kept : later.map (·.messageId) = rest.map (·.2.messageId) := kept
    simp [Succeeds, kept]

def Presented (db : Database) (homeId inboxId : Text) (time : Time) (messageIds : List Text)
    : Prop :=
  ∀ messageId ∈ messageIds, ∃ d ∈ db.deliveries,
    d.key = (homeId, messageId, inboxId) ∧ d.deliveredAt ≤ time

/-- A message that was presented keeps the delivery it was presented with.
Witness: the delivery's key names one row.
-/
theorem Presented.later {time : Time} {messageIds : List Text}
    (presented : Presented db homeId inboxId time messageIds) (grows : Grows db db')
    (keys : Keys db')
    : ∀ d ∈ db'.deliveries, d.inboxKey = (homeId, inboxId) → d.messageId ∈ messageIds
        → d.deliveredAt ≤ time := by
  intro d mem inbox seen
  obtain ⟨d0, old, key, past⟩ := presented d.messageId seen
  obtain ⟨d1, new, evolves⟩ := grows.deliveries d0 old
  simp only [DeliveryRow.inboxKey, Prod.mk.injEq] at inbox
  have same : d.key = d1.key := by
    rw [evolves.key, key]
    simp only [DeliveryRow.key, inbox.1, inbox.2]
  cases keys.deliveries.eq_of_key mem new same
  exact evolves.deliveredAt.le.trans past

theorem presented_inboxRows {w : World} {limit : Nat} {messageIds : List Text} (past : Past w)
    (seen
      : ∀ messageId ∈ messageIds,
          messageId ∈ (inboxRows homeId inboxId limit w.db).map (·.2.messageId))
    : Presented w.db homeId inboxId w.clock messageIds := by
  intro messageId mem
  obtain ⟨row, joined, rfl⟩ := mem_map.mp (seen messageId mem)
  obtain ⟨here, key⟩ := mem_inboxRows joined
  exact ⟨row.1, here, key, past row.1 here⟩

/-- A read stamp is no older than the deliveries it stamps.
Witness: the rows were read before the clock, and their deliveries cannot be replaced.
-/
theorem owes_markRead_bind {prior : History machine}
    {g : List (MessageReading Time) → Async (Answer Time)}
    {R : Answer Time → History machine → Prop} (asked : call.scope = scopeIn)
    (fits : Admitted scopeIn start.state.db ctx h.state.db) (after : After store prior h)
    (presented
      : Presented prior.state.db ctx.homeId inboxId prior.state.clock (unreadWithBody returned))
    (next : ∀ marked h', After store h h' → Obliged store t call (g marked) (Succeeds R) h')
    : Obliged store t call
        ((markRead scopeIn inboxIdIn selector ctx inboxId returned).bind g)
        (Succeeds R) h := by
  refine bind ?_
  unfold markRead
  dsimp only
  split
  · exact .done (fun h1 moved => next returned h1 moved.toAfter)
  refine owes_now_bind (fun stamp h1 after1 fresh past => ?_)
  refine owes_command_bind (fun h2 after2 => ?_) (fun reply h2 after2 => ?_)
  · have grown := after.trans (after1.trans after2)
    refine ⟨⟨fits.speaks asked, rfl, rfl, rfl, past.trans after2.le.clock⟩, ?_⟩
    intro d mem inbox seen
    have delivered :=
      presented.later grown.le.db after2.inv.keys d mem inbox seen
    exact delivered.trans (after.le.clock.trans fresh)
  · have after2 := after1.trans after2
    cases reply with
    | error error => exact .fail (fun _ _ => trivial)
    | ok edits =>
      change (contract store).Meets t call (if edits < _ then _ else _) _ h2
      split
      · refine owes_authorize_bind (fun fresh h3 after3 _ => ?_) (fun _ _ _ _ => trivial)
        refine owes_requireCapability_bind (fun _ h4 after4 _ _ => ?_) (fun _ _ => trivial)
        refine owes_select_bind (fun h5 after5 => .done (fun h6 moved => ?_))
        exact next _ h6
          (after2.trans (after3.trans (after4.trans (after5.trans moved.toAfter))))
      · exact .done (fun h3 moved => next _ h3 (after2.trans moved.toAfter))

theorem unreadWithBody_subset {messageId : Text} (mem : messageId ∈ unreadWithBody returned)
    : messageId ∈ returned.map (·.messageId) := by
  obtain ⟨row, kept, rfl⟩ := mem_map.mp mem
  exact mem_map_of_mem (mem_filter.mp kept).1

theorem owes_readInbox (asked : call.scope = scopeIn)
    : Obliged store t call (readInbox store scopeIn opts selector)
        (AnswersReader scopeIn (opts.get (text "inboxId")) h.state.db) h := by
  refine ofExcept_bind (fun limit _ => ?_) (fun _ _ _ _ => trivial)
  refine owes_admit_bind (fun ctx h1 after1 fits => ?_)
  refine owes_requireCapability_bind (fun inboxId h2 after2 valid reachable => ?_)
    (fun _ _ => trivial)
  have fits := fits.later after2.le.db
  have reaches := fits.reaches valid reachable
  refine owes_select_bind (fun h3 after3 => ?_)
  refine seq (owes_resolveRows _) (fun got h4 after4 kept => ?_) (fun _ _ _ _ => trivial)
  have kept : got.map (·.messageId) = _ := kept
  have presented
      : Presented h3.state.db ctx.homeId inboxId h3.state.clock (unreadWithBody got) :=
    presented_inboxRows after3.inv.past (fun messageId mem => kept ▸ unreadWithBody_subset mem)
  refine owes_markRead_bind asked (fits.later (after3.trans after4).le.db) after4
    presented (fun marked h5 after5 => ?_)
  refine owes_admit_bind (fun finalCtx h6 after6 _ => ?_)
  refine owes_requireCapability_bind (fun _ h7 after7 _ _ => ?_) (fun _ _ => trivial)
  refine owes_audit_bind (fun h8 after8 => .done (fun h9 moved _ => ?_))
  have after := after3.trans (after4.trans (after5.trans (after6.trans (after7.trans
    (after8.trans moved.toAfter)))))
  exact ⟨fits.caller, reaches.grows after.le.db⟩

theorem owes_explainAck {messageId : Text} (caller : UnrevokedCaller scopeIn start.state.db)
    (reaches : ReachesInbox scopeIn inboxIdIn h.state.db)
    : Obliged store t call (explainAck scopeIn inboxIdIn selector inboxId messageId)
        (AnswersReader scopeIn inboxIdIn start.state.db) h := by
  refine owes_admit_bind (fun fresh h1 after1 _ => ?_)
  refine owes_requireCapability_bind (fun _ h2 after2 _ _ => ?_) (fun _ _ => trivial)
  refine owes_select_bind (fun h3 after3 => ?_)
  split
  · exact owes_denyCapability (fun _ _ => trivial)
  split
  · refine owes_audit_bind (fun h4 after4 => .done (fun h5 moved _ => ?_))
    have after := after1.trans (after2.trans (after3.trans (after4.trans moved.toAfter)))
    exact ⟨caller, reaches.grows after.le.db⟩
  · exact .fail (fun _ _ => trivial)

/-- An ack carries the clock reading that its thread took just before it. -/
theorem owes_ack (asked : call.scope = scopeIn)
    : Obliged store t call (ack scopeIn opts selector)
        (AnswersReader scopeIn (opts.get (text "inboxId")) h.state.db) h := by
  refine owes_admit_bind (fun ctx h1 after1 fits => ?_)
  refine owes_requireCapability_bind (fun inboxId h2 after2 valid reachable => ?_)
    (fun _ _ => trivial)
  have fits := fits.later after2.le.db
  have reaches := fits.reaches valid reachable
  split
  · exact owes_denyCapability (fun _ _ => trivial)
  rename_i messageId _
  refine perform_bind (fun h3 moved3 => ⟨trivial, ?_⟩)
  refine perform_bind (fun h4 moved4 => ?_)
  have promise
      : Promise store t call
          (.stampAck h3.state.clock messageId (connGuard ctx false)
            (grantGuard ctx inboxId .ack)) h4 := by
    refine ⟨⟨fits.speaks asked, rfl, rfl, rfl, moved4.le.clock⟩, h3.own t, h3.state, ?_, rfl⟩
    rw [moved4.own]
    exact History.own_exec_self _ _ _
  refine ⟨promise, ?_⟩
  have after3 : After store h2 (h3.exec t Command.now) :=
    Protocol.After.exec call moved3.toAfter trivial
  have after4 := after_exec (after3.trans moved4.toAfter) promise
  refine owes_orThrow_bind (fun edits => ?_)
  split
  · exact owes_explainAck fits.caller (reaches.grows after4.le.db)
  · refine owes_audit_bind (fun h5 after5 => .done (fun h6 moved _ => ?_))
    have after := after4.trans (after5.trans moved.toAfter)
    exact ⟨fits.caller, reaches.grows after.le.db⟩

end CairnStone.PrivateRealm.D1Store
