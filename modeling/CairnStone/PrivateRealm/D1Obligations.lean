import CairnStone.PrivateRealm.Contract

/-! Every method of the D1 store keeps the contract: what it learns from authorizing, what
that lets it promise about its write, and what its answer is worth.
-/

namespace CairnStone.PrivateRealm.D1Store

open JavaScript Data Concurrency Protocol List Meets

variable {c : Command} {scope : HomeScope} {action reason : String} {homeId : Text}
  {db : Database}

/-- `Obliged store t call p Q h`: serving `call` as thread `t`, `p` keeps the contract from
`h` on, and its answer satisfies `Q`.
-/
abbrev Obliged {α : Type} (store : StoreConfig) (t : Nat) (call : Call) (p : Async α)
    (Q : Except Failure α → History machine → Prop) (h : History machine)
    : Prop :=
  (contract store).Meets t call p Q h

/-- `h'` may follow `h` in a run of store calls. -/
abbrev After (store : StoreConfig) (h h' : History machine) : Prop :=
  (contract store).After h h'

variable {store : StoreConfig} {t : Nat} {call : Call} {α β : Type}
  {Q : Except Failure α → History machine → Prop} {h : History machine}

/-- A promised command leads to a history that may follow. -/
theorem after_exec {h' : History machine} (after : After store h h')
    (promise : Promise store t call c h')
    : After store h (h'.exec t c) :=
  Protocol.After.exec call after promise

theorem owes_require_bind {cond : Prop} [Decidable cond] {otherwise : Async Unit}
    {g : Unit → Async α} (holds : cond → Obliged store t call (g ()) Q h)
    (fails : ¬ cond → Obliged store t call (otherwise.bind g) Q h)
    : Obliged store t call ((require cond otherwise).bind g) Q h := by
  unfold require
  split
  · rename_i met
    exact holds met
  · rename_i unmet
    exact fails unmet

variable {g : β → Async α}

theorem owes_select_bind {f : Database → β}
    (next
      : ∀ h', After store h h' → Obliged store t call (g (f h'.state.db)) Q h')
    : Obliged store t call ((select f).bind g) Q h :=
  select_bind (fun h' moved => next h' moved.toAfter)

theorem owes_free_bind {g : c.Reply → Async α} (free : ∀ h', Promise store t call c h')
    (next : ∀ reply h', After store h h' → Obliged store t call (g reply) Q h')
    : Obliged store t call ((command c).bind g) Q h :=
  perform_bind
    (fun h' moved =>
      ⟨free h', next _ _ (after_exec moved.toAfter (free h'))⟩)

/-- A command whose promise holds whenever it is issued, followed by the rest of the call.
-/
theorem owes_command_bind {g : c.Reply → Async α}
    (promise : ∀ h', After store h h' → Promise store t call c h')
    (next : ∀ reply h', After store h h' → Obliged store t call (g reply) Q h')
    : Obliged store t call ((command c).bind g) Q h :=
  perform_bind
    (fun h' moved =>
      have due : Promise store t call c h' := promise h' moved.toAfter
      ⟨due, next _ _ (after_exec moved.toAfter due)⟩)

theorem owes_now_bind {g : Time → Async α}
    (next
      : ∀ stamp h', After store h h' → h.state.clock ≤ stamp → stamp ≤ h'.state.clock
        → Obliged store t call (g stamp) Q h')
    : Obliged store t call (now.bind g) Q h :=
  perform_bind
    (fun h' moved =>
      have due : Promise store t call .now h' := trivial
      ⟨due, next _ _ (after_exec moved.toAfter due) moved.le.clock (Nat.le_refl _)⟩)

theorem owes_audit_bind {homeId : Option Text} {res : String} {reason : Option String}
    {g : Unit → Async α} (next : ∀ h', After store h h' → Obliged store t call (g ()) Q h')
    : Obliged store t call ((audit homeId scope action res reason).bind g) Q h :=
  owes_now_bind
    (fun _ _ after1 _ _ =>
      owes_free_bind (fun _ => trivial) (fun _ h2 after2 => next h2 (after1.trans after2)))

theorem owes_denyAuth {homeId : Option Text}
    (error : ∀ h', After store h h' → Q (.error (.realm "scope_not_authorized")) h')
    : Obliged store t call (denyAuth homeId scope action reason) Q h :=
  owes_audit_bind (fun _ after h2 moved => error h2 (after.trans moved.toAfter))

theorem owes_denyAuth_bind {homeId : Option Text}
    (error : ∀ h', After store h h' → Q (.error (.realm "scope_not_authorized")) h')
    : Obliged store t call ((denyAuth homeId scope action reason).bind g) Q h :=
  owes_denyAuth error

theorem owes_denyCapability
    (error : ∀ h', After store h h' → Q (.error (.realm "capability_denied")) h')
    : Obliged store t call (denyCapability homeId scope action reason) Q h :=
  owes_audit_bind (fun _ after h2 moved => error h2 (after.trans moved.toAfter))

theorem owes_denyCapability_bind
    (error : ∀ h', After store h h' → Q (.error (.realm "capability_denied")) h')
    : Obliged store t call ((denyCapability homeId scope action reason).bind g) Q h :=
  owes_denyCapability error

/-- What a context that was admitted after `before` is worth in `db`. -/
structure Admitted (scopeIn : Value) (before : Database) (ctx : AuthContext) (db : Database)
    : Prop where
  scope : assertHomeScope scopeIn = .ok ctx.scope
  registered : Registered db ctx.scope ctx.homeId
  connection : ctx.conn.connectionId = ctx.scope.connectionId
  unrevoked : Unrevoked before ctx.scope.connectionId

theorem Admitted.later {scopeIn : Value} {before db' : Database} {ctx : AuthContext}
    (fits : Admitted scopeIn before ctx db) (grows : Grows db db')
    : Admitted scopeIn before ctx db' :=
  { fits with registered := fits.registered.grows grows }

def AuthorizeError (scopeIn selectorIn : Value) (error : Failure) : Prop :=
  assertHomeScope scopeIn = .error error ∨ assertSelector selectorIn = .error error
  ∨ error = .realm "scope_not_authorized"

theorem authRow_eq_some {connectionId : Text} {c : ConnectionRow} {h : HomeRow}
    (found : authRow connectionId db = some (c, h))
    : c ∈ db.connections ∧ c.connectionId = connectionId ∧ h ∈ db.homes
      ∧ h.homeId = c.homeId := by
  obtain ⟨row, mem, joined⟩ := exists_of_findSome?_eq_some found
  obtain ⟨home, located, same⟩ := Option.map_eq_some_iff.mp joined
  obtain ⟨rfl, rfl⟩ := Prod.mk.inj same
  have ofHome := find?_some located
  simp only [mem_filter, beq_iff_eq] at mem ofHome
  exact ⟨mem.1, mem.2, mem_of_find?_eq_some located, ofHome⟩

/-- Authorization admits only registered callers that have not been revoked before it.
Witness: the connection it read was active, and it is the only one with that id.
-/
theorem owes_authorize_bind {scopeIn selectorIn : Value} {g : AuthContext → Async α}
    (ok
      : ∀ ctx h', After store h h' → Admitted scopeIn h.state.db ctx h'.state.db
        → Obliged store t call (g ctx) Q h')
    (error
      : ∀ e h', After store h h' → AuthorizeError scopeIn selectorIn e → Q (.error e) h')
    : Obliged store t call ((authorize scopeIn selectorIn action).bind g) Q h := by
  have denied {h' : History machine} (after : After store h h')
      : ∀ h'', After store h' h'' → Q (.error (.realm "scope_not_authorized")) h'' :=
    fun h'' later => error _ h'' (after.trans later) (.inr (.inr rfl))
  unfold authorize
  refine bind ?_
  refine ofExcept_bind (fun scope scopeOk => ?_)
    (fun e failed h' moved => error e h' moved.toAfter (.inl failed))
  refine ofExcept_bind (fun selector selectorOk => ?_)
    (fun e failed h' moved => error e h' moved.toAfter (.inr (.inl failed)))
  refine owes_select_bind (fun h1 after1 => ?_)
  split
  · exact owes_denyAuth (denied after1)
  · rename_i conn home found
    obtain ⟨connected, id, homed, ofHome⟩ := authRow_eq_some found
    refine owes_require_bind (fun owner => ?_) (fun _ => owes_denyAuth_bind (denied after1))
    refine owes_require_bind (fun principal => ?_) (fun _ => owes_denyAuth_bind (denied after1))
    refine owes_require_bind (fun _ => ?_) (fun _ => owes_denyAuth_bind (denied after1))
    refine owes_require_bind (fun active => ?_) (fun _ => owes_denyAuth_bind (denied after1))
    refine owes_require_bind (fun _ => ?_) (fun _ => owes_denyAuth_bind (denied after1))
    have unrevoked : Unrevoked h1.state.db scope.connectionId := by
      intro c mem same
      obtain rfl :=
        after1.inv.keys.connections.eq_of_key mem connected (same.trans id.symm)
      simp [active]
    refine Meets.done (fun h2 moved => ?_)
    have after2 : After store h1 h2 := moved.toAfter
    refine ok _ h2 (after1.trans after2) ⟨scopeOk, Registered.grows ⟨?_, ?_⟩ after2.le.db, id,
      unrevoked.of_grows after1.le.db⟩
    · exact ⟨conn, connected, by rw [ConnectionRow.identity, id, principal]⟩
    · exact ⟨home, homed, by rw [HomeRow.identity, ofHome, owner.1, owner.2]⟩

theorem activeInboxRow_mem {inboxId : Text} {i : InboxRow}
    (found : activeInboxRow homeId inboxId db = some i)
    : i ∈ db.inboxes ∧ i.key = (homeId, inboxId) := by
  have holds := find?_some found
  simp only [Bool.and_eq_true, beq_iff_eq] at holds
  exact ⟨mem_of_find?_eq_some found, Prod.ext holds.1.1 holds.1.2⟩

theorem owes_requireCapability_bind {ctx : AuthContext} {inboxIdIn : Value}
    {capability : Capability} {g : Text → Async α}
    (ok
      : ∀ inboxId h', After store h h' → inboxId? inboxIdIn = some inboxId
        → Reachable h'.state.db ctx.homeId inboxId ctx.conn.connectionId
        → Obliged store t call (g inboxId) Q h')
    (error : ∀ h', After store h h' → Q (.error (.realm "capability_denied")) h')
    : Obliged store t call
        ((requireCapability ctx inboxIdIn capability action).bind g) Q h := by
  have denied {h' : History machine} (after : After store h h')
      : ∀ h'', After store h' h'' → Q (.error (.realm "capability_denied")) h'' :=
    fun h'' later => error h'' (after.trans later)
  unfold requireCapability
  refine bind ?_
  split
  · exact owes_denyCapability error
  · rename_i inboxId valid
    refine owes_select_bind (fun h1 after1 => ?_)
    split
    · exact owes_denyCapability (denied after1)
    · rename_i inbox found
      obtain ⟨mem, key⟩ := activeInboxRow_mem found
      refine owes_require_bind (fun reach => ?_)
        (fun _ => owes_denyCapability_bind (denied after1))
      refine owes_select_bind (fun h2 after2 => ?_)
      have after := after1.trans after2
      split
      · exact owes_denyCapability (denied after)
      · refine owes_require_bind (fun _ => ?_)
          (fun _ => owes_denyCapability_bind (denied after))
        have reachable : Reachable h1.state.db ctx.homeId inboxId ctx.conn.connectionId :=
          ⟨inbox, mem, key, reach⟩
        refine Meets.done (fun h3 moved => ?_)
        have after3 : After store h2 h3 := moved.toAfter
        exact ok inboxId h3 (after.trans after3) valid
          (reachable.grows (after2.trans after3).le.db)

end CairnStone.PrivateRealm.D1Store
