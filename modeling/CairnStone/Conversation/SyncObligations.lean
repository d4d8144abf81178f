import CairnStone.Conversation.Obligations

/-! What a call has done when it answers, with what an end-of-turn append has read on its way: the
session whose scope it has looked up, and each policy row at an instant of its own.
-/

namespace CairnStone.Conversation

open JavaScript Data Concurrency Protocol List Database History Meets Bool Spent
open TaskRuns (Refusal refuse ok_of_refuseThrown)

variable {connections : List ConnectionRow} {h h' : History store} {t : Nat} {call : Call}
  {id : Text} {origin : Database} {request : SyncRequest}
  {localeLe : Text → Text → Bool} {db : Database} {args : AppendArguments}
  {context : Option AuthContext} {expected : Identity}

/-- The tables as a log has left them. -/
abbrev stateAt (connections : List ConnectionRow) (log : Trace) : Database :=
  stateAfter (M := store) (Database.initial connections) log

inductive ReadAlong (connections : List ConnectionRow) (owner : Owner)
    : Trace → List ScopeRef → List PolicyRow → Trace → Prop where
  | nil {low high : Trace} (le : low <:+ high) : ReadAlong connections owner low [] [] high
  | cons {low here high : Trace} {candidate : ScopeRef} {rest : List ScopeRef}
      {rows : List PolicyRow} (le : low <:+ here)
      (later : ReadAlong connections owner here rest rows high)
      : ReadAlong connections owner low (candidate :: rest)
          ((findPolicy (stateAt connections here).policies owner candidate).toList ++ rows) high

theorem ReadAlong.mono {owner : Owner} {low low' high high' : Trace} {candidates : List ScopeRef}
    {rows : List PolicyRow} (along : ReadAlong connections owner low candidates rows high)
    (before : low' <:+ low) (after : high <:+ high')
    : ReadAlong connections owner low' candidates rows high' := by
  induction along generalizing low' with
  | nil le => exact .nil ((before.trans le).trans after)
  | cons le _ ih => exact .cons (before.trans le) (ih (suffix_refl _) after)

/-- Reading the policies changes nothing. Witness: induction on the candidates. -/
theorem owes_readPolicies (owner : Owner) (candidates : List ScopeRef)
    : Obliged connections t call (readPolicies owner candidates)
        (fun answer h' =>
          (agreement connections).Interference t h h'
          ∧ ∀ rows, answer = .ok rows
            → ReadAlong connections owner h.log candidates rows h'.log) h := by
  induction candidates generalizing h with
  | nil =>
    refine Meets.done (fun h' moved => ⟨moved, ?_⟩)
    intro rows same
    cases same
    exact .nil moved.le
  | cons cand rest ih =>
    refine select_bind (fun h1 moved => ?_)
    refine bind (ih.consequence (fun answer h2 _ holds => ?_))
    obtain ⟨moved2, along⟩ := holds
    cases answer with
    | error error =>
      refine ⟨moved.trans moved2, ?_⟩
      intro all never
      cases never
    | ok rows =>
      refine Meets.done (fun h3 moved3 => ⟨(moved.trans moved2).trans moved3, ?_⟩)
      intro all same
      cases same
      have state : h1.state = stateAt connections h1.log := moved.inv.state
      rw [state]
      exact .cons moved.le ((along rows rfl).mono (suffix_refl _) moved3.le)

structure LookedUp (connections : List ConnectionRow) (context : Option AuthContext)
    (scope : SyncScope) (low : Trace) (effective : Option PolicyRow) (high : Trace) (auth : AuthContext)
    (rows : List PolicyRow)
    : Prop where
  context : context = some auth
  along : ReadAlong connections auth.owner low (policyScopeCandidates scope) rows high
  effective : effective = effectivePolicyFromRows rows scope

/-- Nothing but interference has happened since `h`, and what has been found satisfies the property. -/
def Found {α : Type} (connections : List ConnectionRow) (t : Nat) (h : History store)
    (p : α → History store → Prop) (answer : Except Text (Except Refusal α)) (h' : History store)
    : Prop :=
  (agreement connections).Interference t h h' ∧ ∀ value, answer = .ok (.ok value) → p value h'

theorem found_refused {α : Type} {p : α → History store → Prop} {h1 : History store}
    {why : Refusal} (moved : (agreement connections).Interference t h h1)
    : Obliged connections t call (.done (.error why)) (Found connections t h p) h1 := by
  refine Meets.done (fun h' moved' => ⟨moved.trans moved', ?_⟩)
  intro value never
  cases never

theorem owes_activeContext (context : Option AuthContext)
    : Obliged connections t call (activeContext context)
        (Found connections t h (fun auth _ => context = some auth)) h := by
  refine of_later (fun h0 moved0 => ?_)
  unfold activeContext
  split
  · exact found_refused moved0
  · rename_i auth
    split
    · exact found_refused moved0
    · refine select_bind (fun h1 moved => ?_)
      have moved1 := moved0.trans moved
      split
      · split
        · refine Meets.done (fun h' moved' => ⟨moved1.trans moved', ?_⟩)
          intro other same
          cases same
          rfl
        · exact found_refused moved1
      · exact found_refused moved1

theorem owes_getEffective (context : Option AuthContext) (scope : SyncScope)
    : Obliged connections t call (getEffectiveTurnSyncPolicy context scope)
        (Found connections t h (fun effective h' =>
          ∃ auth rows, LookedUp connections context scope h.log effective h'.log auth rows)) h := by
  refine bind ((owes_activeContext context).consequence (fun answer h1 _ holds => ?_))
  obtain ⟨moved, named⟩ := holds
  cases answer with
  | error error =>
    refine ⟨moved, ?_⟩
    intro effective never
    cases never
  | ok active =>
    cases active with
    | error why => exact found_refused moved
    | ok auth =>
      refine bind
        ((owes_readPolicies auth.owner (policyScopeCandidates scope)).consequence
          (fun answer h2 _ holds => ?_))
      obtain ⟨moved2, along⟩ := holds
      cases answer with
      | error error =>
        refine ⟨moved.trans moved2, ?_⟩
        intro effective never
        cases never
      | ok rows =>
        refine Meets.done (fun h3 moved3 => ⟨(moved.trans moved2).trans moved3, ?_⟩)
        intro effective same
        cases same
        exact ⟨auth, rows, named auth rfl, (along rows rfl).mono moved.le moved3.le, rfl⟩

structure LetIn (connections : List ConnectionRow) (origin : Database) (request : SyncRequest)
    (id : Text) (high : Trace) (early seen : Trace) (session : SessionRow) (auth : AuthContext)
    (rows : List PolicyRow)
    : Prop where
  began : stateAt connections early = origin
  since : early <:+ seen
  found : sessionOf id (stateAt connections seen) = some session
  context : request.context = some auth
  along
    : ReadAlong connections auth.owner seen
        (policyScopeCandidates (turnSyncScopeFromSession session)) rows high
  allows
    : letsIn (effectivePolicyFromRows rows (turnSyncScopeFromSession session)) request.syncConfirmed
        = true

def Synced (connections : List ConnectionRow) (origin : Database) (t : Nat) (request : SyncRequest)
    (turn : TurnRow) (h : History store)
    : Prop :=
  ∃ high early seen session auth rows,
    LetIn connections origin request turn.conversationId high early seen session auth rows
    ∧ Wrote high t turn h

def committedBy (call : Call) (answer : Except Text Answer) : Option Text :=
  match call, answer with
  | .update args, .ok (.session _) => (conversationId args.conversationId).toOption
  | _, .ok (.appended turn _) => some turn.conversationId
  | _, .ok (.synced turn _ _) => some turn.conversationId
  | _, _ => none

/-- The call has answered `{ ok: false, … }`. -/
def isRefused (answer : Except Text Answer) : Bool :=
  match answer with
  | .ok answer => !answer.isOk
  | .error _ => false

structure Concluded (connections : List ConnectionRow) (t : Nat) (call : Call) (origin : Database)
    (answer : Except Text Answer) (h : History store)
    : Prop where
  spent : Spent (h.own t) (committedBy call answer) (isRefused answer = true)
  appended
    : ∀ turn session, answer = .ok (.appended turn session) → Wrote [] t turn h
  synced
    : ∀ turn session attempt, answer = .ok (.synced turn session attempt)
      → ∃ request, call = .sync request ∧ Synced connections origin t request turn h

theorem Concluded.later {answer : Except Text Answer}
    (concluded : Concluded connections t call origin answer h)
    (moved : (agreement connections).Interference t h h')
    : Concluded connections t call origin answer h' where
  spent := moved.own.symm ▸ concluded.spent
  appended turn session same := (concluded.appended turn session same).later moved.le
  synced turn session attempt same := by
    obtain ⟨request, asked, high, early, seen, found, auth, rows, letIn, wrote⟩ :=
      concluded.synced turn session attempt same
    exact ⟨request, asked, high, early, seen, found, auth, rows, letIn, wrote.later moved.le⟩

variable {answer : Answer}

/-- An answer other than that of an append needs nothing but the trace. -/
theorem owes_done
    (spent : Spent (h.own t) (committedBy call (.ok answer)) (isRefused (.ok answer) = true))
    (unappended : ∀ turn session, answer ≠ .appended turn session)
    (unsynced : ∀ turn session attempt, answer ≠ .synced turn session attempt)
    : Obliged connections t call (.done answer) (Concluded connections t call origin) h := by
  refine Meets.done (fun h' moved => Concluded.later ⟨spent, ?_, ?_⟩ moved)
  · exact fun turn session same => absurd (Except.ok.inj same) (unappended turn session)
  · exact fun turn session attempt same =>
      absurd (Except.ok.inj same) (unsynced turn session attempt)

theorem owes_refused {why : Refusal} (spent : Spent (h.own t) none True)
    : Obliged connections t call (.done (.refused why)) (Concluded connections t call origin)
        h := by
  have none : committedBy call (.ok (.refused why)) = Option.none := by
    cases call <;> rfl
  refine owes_done ?_ (fun _ _ => Answer.noConfusion) (fun _ _ _ => Answer.noConfusion)
  rw [none]
  exact spent.mono (fun _ => trivial)

/-- A call that has failed with an exception has done nothing. -/
theorem concluded_error {error : Text} (spent : Spent (h.own t) none True)
    : Concluded connections t call origin (.error error) h := by
  have none : committedBy call (.error error) = Option.none := by
    cases call <;> rfl
  refine ⟨none.symm ▸ spent.mono (fun _ => trivial), ?_, ?_⟩
  · intro turn found never
    cases never
  · intro turn found attempt never
    cases never

theorem readCreate_row {args : CreateArguments} {row : SessionRow}
    (read : readCreate localeLe args = .ok row)
    : row.messageLog = [] ∧ row.sessionRevision = 1 := by
  unfold readCreate at read
  iterate 15 obtain ⟨_, -, read⟩ := bind_eq_ok.mp read
  cases read
  exact ⟨rfl, rfl⟩

theorem idle_of_known {row : SessionRow} (known : (insertSession db.sessions row).1 = false)
    : Idle (⟨t, .insertSession row, db⟩ : Issued store) := by
  refine ⟨?_, rfl⟩
  change (insertSession db.sessions row).2 = db.sessions
  unfold insertSession at known ⊢
  split
  · rename_i free
    rw [free] at known
    cases known
  · rfl

theorem owes_create {args : CreateArguments} (fresh : h.own t = [])
    : Obliged connections t (.create args) (createConversationSession localeLe args)
        (Concluded connections t (.create args) origin) h := by
  have spent : Spent (h.own t) none True := fresh.symm ▸ nil True
  unfold createConversationSession
  split
  · exact owes_refused spent
  · rename_i row read
    refine perform_bind (fun h1 moved => ⟨readCreate_row read, ?_⟩)
    have own : (h1.exec t (.insertSession row)).own t = [⟨t, .insertSession row, h1.state⟩] := by
      rw [own_exec_self, moved.own, fresh]
    split
    · refine select_bind (fun h2 moved2 => ?_)
      refine owes_done ?_ (fun _ _ => Answer.noConfusion) (fun _ _ _ => Answer.noConfusion)
      rw [moved2.own, own]
      exact (nil _).cons rfl rfl (fun _ => rfl) (fun never => absurd never false_ne_true)
    · rename_i known
      refine owes_refused ?_
      rw [own]
      exact (nil True).cons_idle rfl rfl (fun _ => rfl)
        (idle_of_known (eq_false_of_ne_true known))

theorem idle_of_unmatched {base : Nat} {change : SessionChange}
    (unmatched : db.sessions.any (matchesRevision id base) = false)
    : Idle (⟨t, .swapSession id base change, db⟩ : Issued store) := by
  refine ⟨?_, rfl⟩
  refine updateWhere_eq_self (fun row mem => ?_)
  exact eq_false_of_ne_true (fun hit =>
    absurd (any_eq_true.mpr ⟨row, mem, hit⟩) (ne_true_of_eq_false unmatched))

theorem owes_update {args : UpdateArguments} (fresh : h.own t = [])
    : Obliged connections t (.update args) (updateConversationSession localeLe args)
        (Concluded connections t (.update args) origin) h := by
  have spent : Spent (h.own t) none True := fresh.symm ▸ nil True
  unfold updateConversationSession
  split
  · exact owes_refused spent
  · rename_i target read
    have named : conversationId args.conversationId = .ok target.sessionId := by
      unfold readUpdate at read
      obtain ⟨_, first, read⟩ := bind_eq_ok.mp read
      obtain ⟨_, -, read⟩ := bind_eq_ok.mp read
      obtain ⟨_, -, read⟩ := bind_eq_ok.mp read
      cases read
      exact ok_of_refuseThrown first
    refine select_bind (fun h1 moved1 => ?_)
    have spent1 : Spent (h1.own t) none True := moved1.own.symm ▸ spent
    split
    · exact owes_refused spent1
    · rename_i session found
      split
      · exact owes_refused spent1
      · rename_i update fine
        refine perform_bind (fun h2 moved2 => ⟨trivial, ?_⟩)
        let swap : Issued store :=
          ⟨t, .swapSession target.sessionId session.sessionRevision (.fields update), h2.state⟩
        refine select_bind (fun h3 moved3 => ?_)
        have own : h3.own t = [swap] := by
          rw [moved3.own, own_exec_self, moved2.own, moved1.own, fresh]
        have settled : turnWork.unsettled [swap] = [] := by
          rw [Settlement.unsettled_cons, Settlement.after_of_neither rfl rfl]
          rfl
        have count (id : Text)
            : [swap].countP (commits id)
              = if (target.sessionId == id
                  && (sessions h2.state).any
                      (matchesRevision target.sessionId session.sessionRevision)) = true
                then 1 else 0 := by
          rw [countP_singleton]
          rfl
        split
        · rename_i hit
          refine owes_done ?_ (fun _ _ => Answer.noConfusion) (fun _ _ _ => Answer.noConfusion)
          rw [own]
          refine ⟨settled, fun id => ?_, fun never => absurd never false_ne_true⟩
          have holds : (sessions h2.state).any
              (matchesRevision target.sessionId session.sessionRevision) = true := hit
          have committed : committedBy (.update args)
              (.ok (.session (findSession (sessions h3.state) target.sessionId)))
              = some target.sessionId := by
            simp [committedBy, named, Except.toOption]
          rw [count, holds, committed]
          simp
        · rename_i missed
          have fails : (sessions h2.state).any
              (matchesRevision target.sessionId session.sessionRevision) = false :=
            eq_false_of_ne_true missed
          refine owes_refused ?_
          rw [own]
          refine ⟨settled, fun id => ?_, fun _ issued mem => .inl ?_⟩
          · rw [count, fails]
            simp
          · cases mem_singleton.mp mem
            exact idle_of_unmatched fails

theorem owes_appendCall {baseRevision : Value} (fresh : h.own t = [])
    : Obliged connections t (.append args baseRevision)
        ((appendConversationTurn args (revisionOf baseRevision)).bind
          (fun result => .done (appendAnswer result)))
        (Concluded connections t (.append args baseRevision) origin) h := by
  have spent : Spent (h.own t) none True := fresh.symm ▸ nil True
  have appends : Obliged connections t (.append args baseRevision)
      (appendConversationTurn args (revisionOf baseRevision))
      (AppendOutcome (Asked args) h.log t) h :=
    owes_append spent rfl
  refine bind (appends.consequence (fun answer h' after res => ?_))
  cases answer with
  | error error => exact res.elim
  | ok result =>
    cases result with
    | error why => exact owes_refused res
    | ok appended =>
      obtain ⟨spent, wrote, _⟩ := res
      refine Meets.done (fun h2 moved => Concluded.later ⟨?_, ?_, ?_⟩ moved)
      · exact spent.mono (fun never => absurd never false_ne_true)
      · intro turn session same
        cases same
        obtain ⟨put, issued, prior, found, within, _, rest⟩ := wrote
        exact ⟨put, issued, prior, found, within, nil_suffix, rest⟩
      · intro turn session attempt never
        cases never

/-- A statement about policies leaves everything else as it is. -/
theorem Spent.cons_policy {trace : Trace} {committed : Option Text} {failed : Prop}
    {cmd : Command} (spent : Spent trace committed failed)
    (policies : (∃ row, cmd = .insertPolicy row)
      ∨ ∃ id revision update, cmd = .swapPolicy id revision update)
    : Spent (⟨t, cmd, db⟩ :: trace) committed failed := by
  rcases policies with ⟨row, rfl⟩ | ⟨id, revision, update, rfl⟩
  · exact spent.cons_idle rfl rfl (fun _ => rfl) ⟨rfl, rfl⟩
  · exact spent.cons_idle rfl rfl (fun _ => rfl) ⟨rfl, rfl⟩

theorem owes_policyAnswer {row : Option PolicyRow} {made : Bool}
    {args : PolicyArguments} (spent : Spent (h.own t) none True)
    : Obliged connections t (.setPolicy args context) (.done (.policy row made))
        (Concluded connections t (.setPolicy args context) origin) h :=
  owes_done (spent.mono (fun _ => trivial)) (fun _ _ => Answer.noConfusion)
    (fun _ _ _ => Answer.noConfusion)

theorem owes_setPolicy {args : PolicyArguments} (fresh : h.own t = [])
    : Obliged connections t (.setPolicy args context)
        (turnSyncPolicySetFromBody args context)
        (Concluded connections t (.setPolicy args context) origin) h := by
  have spent : Spent (h.own t) none True := fresh.symm ▸ nil True
  unfold turnSyncPolicySetFromBody
  split
  · exact owes_refused spent
  · split
    · exact owes_refused spent
    · rename_i write read
      refine bind ((owes_activeContext context).consequence (fun answer h1 _ holds => ?_))
      have spent1 : Spent (h1.own t) none True := holds.1.own.symm ▸ spent
      cases answer with
      | error error => exact concluded_error spent1
      | ok active =>
        cases active with
        | error why => exact owes_refused spent1
        | ok auth =>
          refine select_bind (fun h2 moved2 => ?_)
          have spent2 : Spent (h2.own t) none True := moved2.own.symm ▸ spent1
          split
          · rename_i existing found
            unfold updatePolicy
            split
            · exact owes_refused spent2
            · split
              · exact owes_refused spent2
              · refine perform_bind (fun h3 moved3 => ⟨trivial, ?_⟩)
                refine select_bind (fun h4 moved4 => ?_)
                have spent4 : Spent (h4.own t) none True := by
                  rw [moved4.own, own_exec_self, moved3.own]
                  exact spent2.cons_policy (.inr ⟨_, _, _, rfl⟩)
                split
                · exact owes_policyAnswer spent4
                · exact owes_refused spent4
          · split
            · exact owes_refused spent2
            · refine perform_bind (fun h3 moved3 => ⟨trivial, ?_⟩)
              have spent3 {row : PolicyRow}
                  : Spent ((h3.exec t (.insertPolicy row)).own t) none True := by
                rw [own_exec_self, moved3.own]
                exact spent2.cons_policy (.inl ⟨_, rfl⟩)
              split
              · refine select_bind (fun h4 moved4 => ?_)
                exact owes_policyAnswer (moved4.own.symm ▸ spent3)
              · exact .fail (fun h4 moved4 => concluded_error (moved4.own.symm ▸ spent3))

theorem reads_getConversationSession (id : Text) : (getConversationSession id).Reads := by
  unfold getConversationSession
  split
  · exact fun _ => trivial
  · trivial

inductive Answer.Reported : Answer → Prop where
  | refused (refusal : Refusal) : Reported (.refused refusal)
  | replayed (turn : TurnRow) (session : Option SessionRow) : Reported (.replayed turn session)

theorem owes_replayOrConflict (expected : Identity)
    : Obliged connections t call (replayOrConflict expected)
        (fun answer h' =>
          (agreement connections).Interference t h h'
          ∧ ∀ found, answer = .ok (some found) → found.Reported) h := by
  refine reading_bind (reads_getConversationSession expected.conversationId)
    (fun session h1 moved => ?_) (fun error h1 moved => ⟨moved, ?_⟩)
  · refine select_bind (fun h2 moved2 => ?_)
    have moved' := moved.trans moved2
    split
    · refine Meets.done (fun h3 moved3 => ⟨moved'.trans moved3, ?_⟩)
      intro found never
      cases never
    · refine Meets.done (fun h3 moved3 => ⟨moved'.trans moved3, ?_⟩)
      intro found same
      cases same
      exact .refused _
    · refine Meets.done (fun h3 moved3 => ⟨moved'.trans moved3, ?_⟩)
      intro found same
      cases same
      exact .replayed _ _
  · intro found never
    cases never

theorem owes_reported (reported : answer.Reported) (spent : Spent (h.own t) none True)
    : Obliged connections t call (.done answer) (Concluded connections t call origin) h := by
  cases reported with
  | refused why => exact owes_refused spent
  | replayed turn session =>
    refine owes_done ?_ (fun _ _ => Answer.noConfusion) (fun _ _ _ => Answer.noConfusion)
    have none : committedBy call (.ok (.replayed turn session)) = Option.none := by
      cases call <;> rfl
    rw [none]
    exact spent.mono (fun _ => trivial)

theorem Gatekeeping.found_reported {gatekeeping : Gatekeeping} (reported : answer.Reported)
    : (gatekeeping.found answer).Reported := by
  cases reported with
  | refused why => exact .refused _
  | replayed turn session => exact .replayed turn session

/-- The name of a conversation is what is left of it when it is trimmed. -/
theorem orEmpty_of_markedId {mark kind : String} {value : Value} {field : String} {name : Text}
    (read : markedId mark kind value field = .ok name)
    : orEmpty value = name ∧ markedId mark kind (.string name) field = .ok name := by
  unfold markedId TaskRuns.nonEmptyString at read
  cases value with
  | string s =>
    simp only [Value.string?_string] at read
    by_cases blank : trim s = []
    · simp [blank] at read
    · simp only [blank, if_false] at read
      split at read
      · rename_i marked
        cases read
        have truthy : (Value.string s).truthy = true := by
          cases s with
          | nil => exact absurd rfl blank
          | cons u rest => rfl
        refine ⟨?_, ?_⟩
        · unfold orEmpty Value.or
          rw [if_pos truthy]
          rfl
        · simp [markedId, TaskRuns.nonEmptyString, trim_trim, blank, marked]
      · cases read
  | _ => cases read

theorem owes_syncAttempt {gatekeeping : Gatekeeping} {attempt : Nat}
    {session seenSession : SessionRow} {lost : Refusal → Operation Answer}
    {high early seen : Trace} {auth : AuthContext} {rows : List PolicyRow}
    (spent : Spent (h.own t) none True)
    (asked : Call.turnId (.sync request) = (turnId args.turnId).toOption)
    (named : expected.conversationId = orEmpty args.conversationId)
    (letIn
      : LetIn connections origin request expected.conversationId high early seen seenSession auth
          rows) (le : high <:+ h.log)
    (again
      : ∀ why h', (agreement connections).After h h' → Spent (h'.own t) none True
        → Obliged connections t (.sync request) (lost why)
            (Concluded connections t (.sync request) origin) h')
    : Obliged connections t (.sync request)
        (syncAttempt args expected gatekeeping attempt session lost)
        (Concluded connections t (.sync request) origin) h := by
  refine bind ((owes_append spent asked).consequence (fun answer h1 after res => ?_))
  cases answer with
  | error error => exact res.elim
  | ok result =>
    cases result with
    | ok appended =>
      obtain ⟨spent1, wrote, turnAsked⟩ := res
      refine Meets.done (fun h2 moved => Concluded.later ⟨?_, ?_, ?_⟩ moved)
      · exact spent1.mono (fun never => absurd never false_ne_true)
      · intro turn found never
        cases never
      · intro turn found attempt' same
        cases same
        have here : expected.conversationId = appended.turn.conversationId :=
          named.trans (orEmpty_of_markedId turnAsked.conversationId).1
        obtain ⟨put, issued, prior, written, within, later, rest⟩ := wrote
        exact ⟨request, rfl, high, early, seen, seenSession, auth, rows, here ▸ letIn, put,
          issued, prior, written, within, le.trans later, rest⟩
    | error why =>
      have spent1 : Spent (h1.own t) none True := res
      simp only
      split
      · refine bind
          ((owes_replayOrConflict expected).consequence (fun answer h2 after2 holds => ?_))
        obtain ⟨moved, reported⟩ := holds
        have spent2 : Spent (h2.own t) none True := moved.own.symm ▸ spent1
        cases answer with
        | error error => exact concluded_error spent2
        | ok existing =>
          cases existing with
          | some found =>
            exact owes_reported (Gatekeeping.found_reported (reported found rfl)) spent2
          | none =>
            simp only
            split
            · exact again why h2 (after.trans after2) spent2
            · exact owes_refused spent2
      · exact owes_refused spent1

theorem orEmpty_string (s : Text) : orEmpty (.string s) = trim s := by
  cases s with
  | nil => rfl
  | cons u rest => rfl

theorem orEmpty_orEmpty (value : Value) : orEmpty (.string (orEmpty value)) = orEmpty value := by
  rw [orEmpty_string]
  exact trim_trim _

theorem owes_syncNew (fresh : h.own t = [])
    (began : ∃ early, stateAt connections early = origin ∧ early <:+ h.log)
    (named : expected.conversationId = orEmpty request.append.conversationId)
    : Obliged connections t (.sync request) (syncNew request expected)
        (Concluded connections t (.sync request) origin) h := by
  have spent : Spent (h.own t) none True := fresh.symm ▸ nil True
  unfold syncNew getConversationSession
  split
  · rename_i id read
    have same : id = expected.conversationId := by
      have trimmed := (orEmpty_of_markedId read).1
      rw [← trimmed, named, orEmpty_orEmpty]
    subst same
    refine select_bind (fun h1 moved1 => ?_)
    have spent1 : Spent (h1.own t) none True := moved1.own.symm ▸ spent
    split
    · exact owes_refused spent1
    · rename_i session found
      refine bind
        ((owes_getEffective request.context (turnSyncScopeFromSession session)).consequence
          (fun answer h2 _ holds => ?_))
      obtain ⟨moved2, looked⟩ := holds
      have spent2 : Spent (h2.own t) none True := moved2.own.symm ▸ spent1
      cases answer with
      | error error => exact concluded_error spent2
      | ok got =>
        cases got with
        | error why => exact owes_refused spent2
        | ok effective =>
          simp only
          split
          · rename_i allows
            obtain ⟨early, started, since⟩ := began
            obtain ⟨auth, rows, looked⟩ := looked effective rfl
            have state : h1.state = stateAt connections h1.log := moved1.inv.state
            have letIn : LetIn connections origin request expected.conversationId h2.log early
                h1.log session auth rows :=
              ⟨started, since.trans moved1.le, state ▸ found, looked.context, looked.along,
                looked.effective ▸ allows⟩
            refine owes_syncAttempt spent2 rfl named letIn (suffix_refl _) ?_
            intro why h3 after3 spent3
            refine reading_bind
              (reads_getConversationSession expected.conversationId)
              (fun again h4 moved4 => ?_)
              (fun error h4 moved4 => concluded_error (moved4.own.symm ▸ spent3))
            have spent4 : Spent (h4.own t) none True := moved4.own.symm ▸ spent3
            split
            · exact owes_refused spent4
            · refine owes_syncAttempt spent4 rfl named letIn (after3.le.trans moved4.le) ?_
              intro refusal' h5 _ spent5
              exact owes_refused spent5
          · exact owes_refused spent2
  · exact owes_refused spent

theorem requireIdentity_conversationId {actor : Text} {role : Role}
    (read : requireIdentity args actor role = .ok expected)
    : expected.conversationId = orEmpty args.conversationId := by
  unfold requireIdentity at read
  simp only at read
  split at read
  · cases read
  · cases read
    rfl

theorem reads_resolveTurnSyncActor (context : Option AuthContext) (requested : Value)
    : (resolveTurnSyncActor context requested).Reads := by
  unfold resolveTurnSyncActor
  split
  · trivial
  · exact fun _ => trivial

theorem owes_sync (fresh : h.own t = [])
    (began : ∃ early, stateAt connections early = origin ∧ early <:+ h.log)
    : Obliged connections t (.sync request) (turnSyncAppendFromBody request)
        (Concluded connections t (.sync request) origin) h := by
  have spent : Spent (h.own t) none True := fresh.symm ▸ nil True
  unfold turnSyncAppendFromBody
  split
  · exact owes_refused spent
  · rename_i role _
    refine reading_bind (reads_resolveTurnSyncActor _ _)
      (fun picked h1 moved1 => ?_)
      (fun error h1 moved1 => concluded_error (moved1.own.symm ▸ spent))
    have unstarted1 : h1.own t = [] := moved1.own.trans fresh
    have spent1 : Spent (h1.own t) none True := moved1.own.symm ▸ spent
    split
    · exact owes_refused spent1
    · split
      · exact owes_refused spent1
      · rename_i expected read
        refine bind
          ((owes_replayOrConflict expected).consequence (fun answer h2 _ holds => ?_))
        obtain ⟨moved2, reported⟩ := holds
        have spent2 : Spent (h2.own t) none True := moved2.own.symm ▸ spent1
        cases answer with
        | error error => exact concluded_error spent2
        | ok existing =>
          cases existing with
          | some found => exact owes_reported (reported found rfl) spent2
          | none =>
            obtain ⟨early, started, since⟩ := began
            refine owes_syncNew (moved2.own.trans unstarted1)
              ⟨early, started, (since.trans moved1.le).trans moved2.le⟩
              (requireIdentity_conversationId read)

/-- Every call keeps its promises and comes to its outcome. Witness: case analysis on the call. -/
theorem owes_body (localeLe : Text → Text → Bool) (call : Call) (lives : Lives connections h)
    (fresh : h.own t = [])
    : Obliged connections t call (body localeLe call) (Concluded connections t call h.state) h := by
  cases call with
  | create args => exact owes_create fresh
  | update args => exact owes_update fresh
  | append args baseRevision => exact owes_appendCall fresh
  | sync request => exact owes_sync fresh ⟨h.log, lives.state.symm, suffix_refl _⟩
  | setPolicy args context => exact owes_setPolicy fresh

end CairnStone.Conversation
