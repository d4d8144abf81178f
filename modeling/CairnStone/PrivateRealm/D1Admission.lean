import CairnStone.PrivateRealm.D1Send

/-! Admission under any protocol that leaves the clock, the audit trail and the bucket free: who is
authorized is registered, and a call that only admits issues incidental commands.
-/

namespace CairnStone.PrivateRealm.D1Store

open JavaScript Data Concurrency Protocol Meets

variable {homeId : Option Text} {scope : HomeScope} {action outcome : String}
  {reason : Option String}

structure Permissive (P : Protocol machine Call) : Prop where
  grows : ∀ {h h'}, P.le h h' → Grows h.state.db h'.state.db
  free : ∀ {t call command h}, Incidental command → P.pre t call command h

def OnlyIncidental (t : Nat) (h h' : History machine) : Prop :=
  ∀ issued ∈ h'.own t, issued ∈ h.own t ∨ Incidental issued.command

variable {P : Protocol machine Call} {t : Nat} {call : Call} {α β : Type} {h h' h'' : History machine}

theorem advances_refl (h : History machine)
    : Grows h.state.db h.state.db ∧ h.log <:+ h.log :=
  ⟨.refl _, List.suffix_rfl⟩

theorem advances_trans (first : Grows h.state.db h'.state.db ∧ h.log <:+ h'.log)
    (second : Grows h'.state.db h''.state.db ∧ h'.log <:+ h''.log)
    : Grows h.state.db h''.state.db ∧ h.log <:+ h''.log :=
  ⟨first.1.trans second.1, first.2.trans second.2⟩

theorem OnlyIncidental.trans (first : OnlyIncidental t h h') (second : OnlyIncidental t h' h'')
    : OnlyIncidental t h h'' := by
  intro issued mem
  rcases second issued mem with known | idle
  · exact first issued known
  · exact .inr idle

theorem onlyIncidental_of_own (same : h'.own t = h.own t) : OnlyIncidental t h h' :=
  fun _ mem => .inl (same ▸ mem)

variable {g : β → Async α}

/-- A part of a call with incidental commands only, followed by the rest. -/
theorem incidental_seq {p : Async β} {R : Except Failure β → History machine → Prop}
    {Q : Except Failure α → History machine → Prop} (issues : p.Issues Incidental)
    (hp : P.Meets t call p R h)
    (next
      : ∀ value h', P.After h h' → OnlyIncidental t h h' → R (.ok value) h'
        → P.Meets t call (g value) Q h')
    (stop
      : ∀ error h', P.After h h' → OnlyIncidental t h h' → R (.error error) h'
        → Q (.error error) h')
    : P.Meets t call (p.bind g) Q h :=
  seq (hp.issuing issues)
    (fun value h' after holds => next value h' after holds.2 holds.1)
    (fun error h' after holds => stop error h' after holds.2 holds.1)

/-- The same for a call whose failure owes nothing. -/
theorem incidental_bind {p : Async β} {R : β → History machine → Prop}
    {Q : α → History machine → Prop} (issues : p.Issues Incidental)
    (hp : P.Meets t call p (Succeeds R) h)
    (next
      : ∀ value h', P.After h h' → OnlyIncidental t h h' → R value h'
        → P.Meets t call (g value) (Succeeds Q) h')
    : P.Meets t call (p.bind g) (Succeeds Q) h :=
  incidental_seq issues hp next (fun _ _ _ _ _ => trivial)

/-- A part of a call of whose result nothing needs to be known. -/
theorem meets_incidental (loose : Permissive P) {p : Async α} (issues : p.Issues Incidental)
    : P.Meets t call p (fun _ _ => True) h :=
  of_issues issues (fun _ _ idle => loose.free idle) (fun _ _ _ => trivial)

theorem meets_anything (loose : Permissive P) {p : Async α} (issues : p.Issues Incidental)
    : P.Meets t call p (Succeeds (fun _ _ => True)) h :=
  (meets_incidental loose issues).consequence (fun answer _ _ _ => by cases answer <;> trivial)

variable {Q : Except Failure α → History machine → Prop}

theorem meets_command_bind (loose : Permissive P) {c : Command} {g : c.Reply → Async α}
    (idle : Incidental c)
    (next : ∀ reply h', P.After h h' → OnlyIncidental t h h' → P.Meets t call (g reply) Q h')
    : P.Meets t call ((command c).bind g) Q h := by
  refine perform_bind (fun h1 moved => ⟨loose.free idle, ?_⟩)
  refine next _ _ (Protocol.After.exec call moved.toAfter (loose.free idle)) ?_
  intro issued mem
  rcases List.mem_cons.mp ((History.own_exec_self h1 t c).symm ▸ mem) with rfl | old
  · exact .inr idle
  · exact .inl (moved.own ▸ old)

/-- An audited event, followed by the rest of the call. -/
theorem meets_audit_bind (loose : Permissive P) {g : Unit → Async α}
    (next : ∀ h', P.After h h' → OnlyIncidental t h h' → P.Meets t call (g ()) Q h')
    : P.Meets t call ((audit homeId scope action outcome reason).bind g) Q h := by
  refine meets_command_bind loose trivial (fun stamp h1 after1 only1 => ?_)
  refine meets_command_bind loose trivial (fun _ h2 after2 only2 => ?_)
  exact next h2 (after1.trans after2) (only1.trans only2)

theorem meets_denial (loose : Permissive P) {e : Failure}
    (error : ∀ h', P.After h h' → OnlyIncidental t h h' → Q (.error e) h')
    : P.Meets t call ((audit homeId scope action outcome reason).bind (fun _ => .fail e)) Q h := by
  refine meets_audit_bind loose (fun h1 after1 only1 => .fail (fun h2 moved => ?_))
  exact error h2 (after1.trans moved.toAfter) (only1.trans (onlyIncidental_of_own moved.own))

/-- A requirement, followed by the rest of the call; where it is not met, the call is denied. -/
theorem meets_require_bind (loose : Permissive P) {cond : Prop} [Decidable cond]
    {e : Failure} {g : Unit → Async α} (holds : cond → P.Meets t call (g ()) Q h)
    (error : ∀ h', P.After h h' → OnlyIncidental t h h' → Q (.error e) h')
    : P.Meets t call
        ((require cond
            ((audit homeId scope action outcome reason).bind (fun _ => .fail e))).bind g) Q h := by
  unfold require
  split
  · rename_i met
    exact holds met
  · refine bind (meets_denial loose (fun h1 after only => ?_))
    exact error h1 after only

def Authorizes (scopeIn selectorIn : Value) : Except Failure AuthContext → History machine → Prop
  | .ok ctx, h =>
    assertHomeScope scopeIn = .ok ctx.scope ∧ Registered h.state.db ctx.scope ctx.homeId
  | .error e, _ => AuthorizeError scopeIn selectorIn e

/-- Who is authorized speaks for a connection of the Home. -/
theorem meets_authorize (loose : Permissive P) {scopeIn selectorIn : Value}
    : P.Meets t call (authorize scopeIn selectorIn action) (Authorizes scopeIn selectorIn) h := by
  refine ofExcept_bind (fun scope valid => ?_) (fun _ failed _ _ => .inl failed)
  refine ofExcept_bind (fun selector _ => ?_) (fun _ failed _ _ => .inr (.inl failed))
  have denied {h1 : History machine}
      : ∀ h2, P.After h1 h2 → OnlyIncidental t h1 h2
        → Authorizes scopeIn selectorIn (.error (.realm "scope_not_authorized")) h2 :=
    fun _ _ _ => .inr (.inr rfl)
  refine select_bind (fun h1 _ => ?_)
  split
  · exact meets_denial loose denied
  · rename_i conn home found
    obtain ⟨connected, id, homed, ofHome⟩ := authRow_eq_some found
    refine meets_require_bind loose (fun owner => ?_) denied
    refine meets_require_bind loose (fun principal => ?_) denied
    refine meets_require_bind loose (fun _ => ?_) denied
    refine meets_require_bind loose (fun _ => ?_) denied
    refine meets_require_bind loose (fun _ => ?_) denied
    have registered : Registered h1.state.db scope conn.homeId := by
      refine ⟨⟨conn, connected, ?_⟩, ⟨home, homed, ?_⟩⟩
      · rw [ConnectionRow.identity, id, principal]
      · rw [HomeRow.identity, ofHome, owner.1, owner.2]
    exact .done (fun _ moved => ⟨valid, registered.grows (loose.grows moved.le)⟩)

theorem meets_requireCapability (loose : Permissive P) {ctx : AuthContext}
    {inboxIdIn : Value} {capability : Capability}
    : P.Meets t call (requireCapability ctx inboxIdIn capability action)
        (Succeeds (fun inboxId _ => inboxId? inboxIdIn = some inboxId)) h := by
  have denied {e : Failure} {h1 : History machine}
      : ∀ h2, P.After h1 h2 → OnlyIncidental t h1 h2
        → Succeeds (fun inboxId _ => inboxId? inboxIdIn = some inboxId) (.error e) h2 :=
    fun _ _ _ => trivial
  unfold requireCapability
  split
  · exact meets_denial loose denied
  · rename_i inboxId valid
    refine select_bind (fun h1 _ => ?_)
    split
    · exact meets_denial loose denied
    · refine meets_require_bind loose (fun _ => ?_) denied
      refine select_bind (fun h2 _ => ?_)
      split
      · exact meets_denial loose denied
      · refine meets_require_bind loose (fun _ => ?_) denied
        exact .done (fun _ _ => valid)

end CairnStone.PrivateRealm.D1Store
