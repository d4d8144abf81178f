import CairnStone.PrivateRealm.D1Methods

/-! `send` keeps the contract: one batch per call, carried out under the caller's own
authority, and every other ending leaves messages and deliveries alone.
-/

namespace CairnStone.PrivateRealm.D1Store

open JavaScript Data Concurrency Protocol List World Meets Program.Issues

variable {request : SendRequest} {db : Database} {α : Type} {ctx : AuthContext}
  {homeId messageId : Text} {start : History machine} {opts : Value}

structure Replays (store : StoreConfig) (scopeIn : Value) (request : SendRequest)
    (m : MessageRow) (db : Database)
    : Prop where
  caller
    : ∃ scope, assertHomeScope scopeIn = .ok scope ∧ Registered db scope m.homeId
      ∧ m.senderConnectionId = scope.connectionId
  stored : m ∈ db.messages
  messageId : m.messageId = request.messageId
  threadId : m.threadId = request.thread
  senderInboxId : request.fromInboxId = .string m.senderInboxId
  bodySha256 : m.bodySha256 = store.sha256Hex request.body
  deliveredTo
    : ∀ inboxId,
        (∃ d ∈ db.deliveries, d.messageKey = m.key ∧ d.inboxId = inboxId)
          ↔ inboxId ∈ request.recipients

theorem Replays.grows {store : StoreConfig} {scopeIn : Value} {m : MessageRow} {db' : Database}
    (replays : Replays store scopeIn request m db) (grows : Grows db db')
    : Replays store scopeIn request m db' where
  caller := by
    obtain ⟨scope, valid, registered, sender⟩ := replays.caller
    exact ⟨scope, valid, registered.grows grows, sender⟩
  stored := grows.messages m replays.stored
  messageId := replays.messageId
  threadId := replays.threadId
  senderInboxId := replays.senderInboxId
  bodySha256 := replays.bodySha256
  deliveredTo := fun inboxId =>
    (grows.deliveredInto_iff replays.stored inboxId).trans (replays.deliveredTo inboxId)

/-- How a `send` can be refused once its args are well formed. -/
inductive Refusal (scopeIn selectorIn : Value) : Failure → Prop
  | scope {error} (invalid : assertHomeScope scopeIn = .error error)
    : Refusal scopeIn selectorIn error
  | selector {error} (invalid : assertSelector selectorIn = .error error)
    : Refusal scopeIn selectorIn error
  | scopeNotAuthorized : Refusal scopeIn selectorIn (.realm "scope_not_authorized")
  | capabilityDenied : Refusal scopeIn selectorIn (.realm "capability_denied")
  | concurrentStateChange : Refusal scopeIn selectorIn (.realm "concurrent_state_change")
  | privateR2Required : Refusal scopeIn selectorIn (.realm "private_r2_required")
  | invalidHomeId : Refusal scopeIn selectorIn (.realm "invalid_home_id")
  | invalidBodyHash : Refusal scopeIn selectorIn (.realm "invalid_body_hash")
  | bucket : Refusal scopeIn selectorIn .bucket

theorem AuthorizeError.refusal {scopeIn selectorIn : Value} {error : Failure}
    (failed : AuthorizeError scopeIn selectorIn error)
    : Refusal scopeIn selectorIn error := by
  rcases failed with invalid | invalid | rfl
  · exact .scope invalid
  · exact .selector invalid
  · exact .scopeNotAuthorized

variable {store : StoreConfig} {t : Nat} {call : Call} {scopeIn selector : Value}
  {h : History machine}

variable {Q : Except Failure α → History machine → Prop}

theorem owes_requireTargets_bind {targets : List Text} {g : Unit → Async α}
    (ok : ∀ h', After store h h' → Obliged store t call (g ()) Q h')
    (error : ∀ h', After store h h' → Q (.error (.realm "capability_denied")) h')
    : Obliged store t call ((requireTargets ctx targets).bind g) Q h := by
  refine bind ?_
  induction targets generalizing h with
  | nil => exact .done (fun h1 moved => ok h1 moved.toAfter)
  | cons target rest ih =>
    refine owes_requireCapability_bind (fun _ h1 after1 _ _ => ?_) error
    exact ih (fun h2 after2 => ok h2 (after1.trans after2))
      (fun h2 after2 => error h2 (after1.trans after2))

/-- The sender's authority is found only for a named sender inbox and filled recipients.
Witness: an empty recipient slot asks for a capability on no inbox, which is denied.
-/
theorem owes_checkAuthority_bind {g : Text → Async α}
    (ok
      : ∀ fromInboxId h', After store h h' → request.fromInboxId = .string fromInboxId
        → request.sparse = false → Obliged store t call (g fromInboxId) Q h')
    (error : ∀ h', After store h h' → Q (.error (.realm "capability_denied")) h')
    : Obliged store t call ((checkAuthority ctx request).bind g) Q h := by
  refine bind ?_
  refine owes_requireCapability_bind (fun fromInboxId h1 after1 valid _ => ?_) error
  refine owes_requireTargets_bind (fun h2 after2 => ?_)
    (fun h2 after2 => error h2 (after1.trans after2))
  have after := after1.trans after2
  split
  · exact owes_requireCapability_bind (fun _ _ _ invalid _ => by cases invalid)
      (fun h3 after3 => error h3 (after.trans after3))
  · rename_i full
    refine Meets.done (fun h3 moved => ?_)
    exact ok fromInboxId h3 (after.trans moved.toAfter) (inboxId?_eq_some.mp valid).1
      (by simpa using full)

theorem messageRow_mem {m : MessageRow} (found : messageRow homeId messageId db = some m)
    : m ∈ db.messages ∧ m.homeId = homeId ∧ m.messageId = messageId := by
  have holds := find?_some found
  simp only [Bool.and_eq_true, beq_iff_eq] at holds
  exact ⟨mem_of_find?_eq_some found, holds⟩

theorem mem_deliveredTo {inboxId : Text}
    : inboxId ∈ deliveredTo homeId messageId db
      ↔ ∃ d ∈ db.deliveries, d.messageKey = (homeId, messageId) ∧ d.inboxId = inboxId := by
  rw [deliveredTo, (perm_insertionSort _ _).mem_iff]
  simp [DeliveryRow.messageKey, and_assoc]

/-- A classification that answers has found the message the request asks for.
Witness: the row and its deliveries were compared with the whole request, and neither can
change afterwards.
-/
theorem owes_classifySend_bind {fromInboxId : Text} {g : Option (Answer Time) → Async α}
    (fits : Admitted scopeIn start.state.db ctx h.state.db)
    (sender : request.fromInboxId = .string fromInboxId)
    (absent : ∀ h', After store h h' → Obliged store t call (g none) Q h')
    (found
      : ∀ m n h', After store h h' → Replays store scopeIn request m h'.state.db
        → Obliged store t call (g (some (.sent request.messageId false n))) Q h')
    (error : ∀ h', After store h h' → Q (.error (.realm "capability_denied")) h')
    : Obliged store t call
        ((classifySend ctx request fromInboxId (store.sha256Hex request.body)).bind g) Q
        h := by
  refine bind ?_
  refine owes_select_bind (fun h1 after1 => ?_)
  split
  · exact .done (fun h2 moved => absent h2 (after1.trans moved.toAfter))
  · rename_i m located
    obtain ⟨stored, home, messageId⟩ := messageRow_mem located
    refine owes_select_bind (fun h2 after2 => ?_)
    have after := after1.trans after2
    refine owes_require_bind (fun same => ?_)
      (fun _ => owes_denyCapability_bind (fun h3 after3 => error h3 (after.trans after3)))
    obtain ⟨digest, connection, thread, inbox, deliveries⟩ := same
    have replays : Replays store scopeIn request m h2.state.db := {
      caller :=
        ⟨ctx.scope, fits.scope, home ▸ fits.registered.grows after.le.db,
          connection.trans fits.connection⟩
      stored := after2.le.db.messages m stored
      messageId
      threadId := thread
      senderInboxId := by rw [sender, inbox]
      bodySha256 := digest
      deliveredTo := fun inboxId => by
        rw [← deliveries, mem_deliveredTo, MessageRow.key, home, messageId]
    }
    refine owes_audit_bind (fun h3 after3 => .done (fun h4 moved => ?_))
    have later := after3.trans moved.toAfter
    exact found m _ h4 (after.trans later) (replays.grows later.le.db)

theorem parseMessageId_valid {value : Value} (ok : parseMessageId value = .ok messageId)
    : ID_PATTERNS.message.test messageId = true := by
  unfold parseMessageId at ok
  split at ok
  · split at ok
    · rename_i valid
      cases ok
      exact valid
    · cases ok
  · cases ok

theorem parseSend_messageId (ok : parseSend opts = .ok request)
    : ID_PATTERNS.message.test request.messageId = true := by
  unfold parseSend at ok
  obtain ⟨messageId, parsed, ok⟩ := bind_eq_ok.mp ok
  obtain ⟨thread, _, ok⟩ := bind_eq_ok.mp ok
  obtain ⟨body, _, ok⟩ := bind_eq_ok.mp ok
  split at ok
  · split at ok
    · cases ok
    · split at ok
      · cases ok
      · cases ok
        exact parseMessageId_valid parsed
  · cases ok

theorem privateBodyKey_refusal {bodySha256 : Text} {error : Failure}
    (valid : ID_PATTERNS.message.test messageId = true)
    (failed : privateBodyKey homeId messageId bodySha256 = .error error)
    : Refusal scopeIn selector error := by
  unfold privateBodyKey at failed
  split at failed
  · cases failed
    exact .invalidHomeId
  · simp only [valid, Bool.not_true, Bool.false_eq_true, if_false] at failed
    split at failed
    · cases failed
      exact .invalidBodyHash
    · cases failed

theorem owes_storeBody_bind {bodySha256 : Text} {g : Option Text × Option Text → Async α}
    (valid : ID_PATTERNS.message.test request.messageId = true)
    (ok : ∀ kept h', After store h h' → Obliged store t call (g kept) Q h')
    (error
      : ∀ e h', After store h h' → Refusal scopeIn selector e → Q (.error e) h')
    : Obliged store t call ((storeBody store ctx request bodySha256).bind g) Q h := by
  refine bind ?_
  unfold storeBody
  split
  · refine bind (ofExcept_bind (fun key _ => ?_)
      (fun e failed h1 moved => ?_))
    · refine owes_free_bind (fun _ => trivial) (fun (stored : Bool) h1 after1 => ?_)
      refine owes_require_bind (fun _ => ?_) (fun _ => ?_)
      · exact .done
          (fun h2 moved => .done
            (fun h3 moved3 =>
              ok _ h3 (after1.trans (moved.toAfter.trans moved3.toAfter))))
      · exact .fail (fun h2 moved => error _ h2 (after1.trans moved.toAfter) .bucket)
    · exact error e h1 moved.toAfter (privateBodyKey_refusal valid failed)
  · exact .done (fun h1 moved => ok _ h1 moved.toAfter)

/-- What a preparation is worth: a replay that was found, or a message that carries out the
request under the caller's authority.
-/
def Prepared (store : StoreConfig) (call : Call) (scopeIn selector : Value)
    (request : SendRequest) (start : History machine)
    : Except Failure (Answer Time ⊕ AuthContext × MessageRow) → History machine → Prop
  | .ok (.inl early), h =>
    UnrevokedCaller scopeIn start.state.db
    ∧ ∃ m n, early = .sent request.messageId false n
      ∧ Replays store scopeIn request m h.state.db
  | .ok (.inr (ctx, message)), h =>
    Admitted scopeIn start.state.db ctx h.state.db
    ∧ CarriesOut store call message request.recipients ctx.scope request h.state.db
    ∧ message.createdAt ≤ h.state.clock
  | .error e, _ => Refusal scopeIn selector e

/-- Preparation ends in a replay, in a message to insert, or in a refusal. -/
theorem owes_prepareSend (asked : call = .send scopeIn opts selector)
    (parsed : parseSend opts = .ok request)
    : Obliged store t call (prepareSend store scopeIn selector request)
        (Prepared store call scopeIn selector request h) h := by
  have scopeAsked : call.scope = scopeIn := by rw [asked]; rfl
  have refused : Prepared store call scopeIn selector request h
      (.error (.realm "capability_denied")) h :=
    Refusal.capabilityDenied
  refine owes_authorize_bind (fun ctx h1 after1 fits => ?_) (fun e _ _ failed => failed.refusal)
  refine owes_checkAuthority_bind (fun fromInboxId h2 after2 sender full => ?_)
    (fun _ _ => refused)
  refine select_bind (fun h3 moved => ?_)
  have after3 := after2.trans moved.toAfter
  refine owes_require_bind (fun _ => ?_)
    (fun _ => .fail (fun _ _ => Refusal.privateR2Required))
  have admitted3 := fits.later after3.le.db
  refine owes_classifySend_bind admitted3 sender (fun h4 after4 => ?_)
    (fun m n h4 after4 replays => ?_) (fun _ _ => refused)
  · refine owes_storeBody_bind (parseSend_messageId parsed) (fun kept h5 after5 => ?_)
      (fun e _ _ refusal => refusal)
    refine owes_now_bind (fun stamp h6 after6 _ past => ?_)
    refine Meets.done (fun h7 moved => ?_)
    have after := after4.trans (after5.trans (after6.trans moved.toAfter))
    have admitted7 := admitted3.later after.le.db
    refine ⟨admitted7, ?_, past.trans moved.le.clock⟩
    exact {
      asked := ⟨scopeIn, opts, selector, asked, parsed⟩
      speaks := fits.speaks scopeAsked
      registered := admitted7.registered
      full
      messageId := rfl
      threadId := rfl
      senderInboxId := sender
      senderConnectionId := fits.connection
      bodySha256 := rfl
      targets := rfl
    }
  · refine Meets.done (fun h5 moved => ⟨fits.caller, m, n, rfl, ?_⟩)
    exact replays.grows moved.le.db

/-- Commands that a `send` issues besides its batch. -/
def Incidental : Command → Prop
  | .now => True
  | .audit _ => True
  | .putBody _ _ => True
  | _ => False

theorem issues_fail (error : Failure)
    : (Program.fail error : Async α).Issues Incidental :=
  trivial

theorem issues_require {cond : Prop} [Decidable cond] {otherwise : Async Unit}
    (other : otherwise.Issues Incidental)
    : (require cond otherwise).Issues Incidental := by
  unfold require
  split
  · trivial
  · exact other

theorem issues_audit (homeId : Option Text) (scope : HomeScope) (action res : String)
    (reason : Option String)
    : (audit homeId scope action res reason).Issues Incidental :=
  ⟨trivial, fun _ => ⟨trivial, fun _ => trivial⟩⟩

theorem issues_denyAuth (homeId : Option Text) (scope : HomeScope) (action reason : String)
    : (denyAuth homeId scope action reason : Async α).Issues Incidental :=
  (issues_audit ..).bind (fun _ => trivial)

theorem issues_denyCapability (homeId : Text) (scope : HomeScope) (action reason : String)
    : (denyCapability homeId scope action reason : Async α).Issues Incidental :=
  (issues_audit ..).bind (fun _ => trivial)

theorem issues_authorize (scopeIn selectorIn : Value) (action : String)
    : (authorize scopeIn selectorIn action).Issues Incidental := by
  refine (ofExcept _).bind (fun scope => ?_)
  refine (ofExcept _).bind (fun selector => ?_)
  refine Program.Issues.bind (fun _ => trivial) (fun found => ?_)
  split
  · exact issues_denyAuth ..
  · refine (issues_require (issues_denyAuth ..)).bind (fun _ => ?_)
    refine (issues_require (issues_denyAuth ..)).bind (fun _ => ?_)
    refine (issues_require (issues_denyAuth ..)).bind (fun _ => ?_)
    refine (issues_require (issues_denyAuth ..)).bind (fun _ => ?_)
    exact (issues_require (issues_denyAuth ..)).bind (fun _ => trivial)

theorem issues_requireCapability (ctx : AuthContext) (inboxIdIn : Value)
    (capability : Capability) (action : String)
    : (requireCapability ctx inboxIdIn capability action).Issues Incidental := by
  unfold requireCapability
  split
  · exact issues_denyCapability ..
  refine Program.Issues.bind (fun _ => trivial) (fun inbox => ?_)
  split
  · exact issues_denyCapability ..
  refine (issues_require (issues_denyCapability ..)).bind (fun _ => ?_)
  refine Program.Issues.bind (fun _ => trivial) (fun grant => ?_)
  split
  · exact issues_denyCapability ..
  · exact (issues_require (issues_denyCapability ..)).bind (fun _ => trivial)

theorem issues_requireTargets (ctx : AuthContext) (targets : List Text)
    : (requireTargets ctx targets).Issues Incidental := by
  induction targets with
  | nil => trivial
  | cons target rest ih => exact (issues_requireCapability ..).bind (fun _ => ih)

theorem issues_checkAuthority (ctx : AuthContext) (request : SendRequest)
    : (checkAuthority ctx request).Issues Incidental := by
  refine (issues_requireCapability ..).bind (fun fromInboxId => ?_)
  refine (issues_requireTargets ..).bind (fun _ => ?_)
  split
  · exact (issues_requireCapability ..).bind (fun _ => trivial)
  · trivial

theorem issues_classifySend (ctx : AuthContext) (request : SendRequest)
    (fromInboxId bodySha256 : Text)
    : (classifySend ctx request fromInboxId bodySha256).Issues Incidental := by
  refine Program.Issues.bind (fun _ => trivial) (fun existing => ?_)
  split
  · trivial
  refine Program.Issues.bind (fun _ => trivial) (fun have_ => ?_)
  refine (issues_require (issues_denyCapability ..)).bind (fun _ => ?_)
  exact (issues_audit ..).bind (fun _ => trivial)

theorem issues_storeBody (config : StoreConfig) (ctx : AuthContext) (request : SendRequest)
    (bodySha256 : Text)
    : (storeBody config ctx request bodySha256).Issues Incidental := by
  unfold storeBody
  split
  · refine Program.Issues.bind ?_ (fun _ => trivial)
    refine (ofExcept _).bind (fun key => ?_)
    refine Program.Issues.bind ⟨trivial, fun _ => trivial⟩ (fun (stored : Bool) => ?_)
    exact (issues_require (issues_fail _)).bind (fun _ => trivial)
  · trivial

theorem issues_prepareSend (config : StoreConfig) (request : SendRequest)
    : (prepareSend config scopeIn selector request).Issues Incidental := by
  refine (issues_authorize ..).bind (fun ctx => ?_)
  refine (issues_checkAuthority ..).bind (fun fromInboxId => ?_)
  refine Program.Issues.bind (fun _ => trivial) (fun (bucket : Bool) => ?_)
  refine (issues_require (issues_fail _)).bind (fun _ => ?_)
  refine Program.Issues.bind (issues_classifySend _ _ _ _) (fun early => ?_)
  split
  · trivial
  refine (issues_storeBody ..).bind (fun kept => ?_)
  exact .bind ⟨trivial, fun _ => trivial⟩ (fun _ => trivial)

theorem issues_explainSend (ctx : AuthContext) (request : SendRequest)
    (fromInboxId bodySha256 : Text)
    : (explainSend scopeIn selector ctx request fromInboxId bodySha256).Issues
        Incidental := by
  refine (issues_authorize ..).bind (fun fresh => ?_)
  refine (issues_checkAuthority ..).bind (fun _ => ?_)
  refine Program.Issues.bind (issues_classifySend _ _ _ _) (fun raced => ?_)
  split <;> trivial

def Silent (issued : Issued machine) : Prop :=
  (World.exec issued.command issued.before).2.db.messages = issued.before.db.messages
  ∧ (World.exec issued.command issued.before).2.db.deliveries = issued.before.db.deliveries

theorem silent_of_incidental {issued : Issued machine} (idle : Incidental issued.command)
    : Silent issued := by
  obtain ⟨thread, command, before⟩ := issued
  cases command with
  | now => exact ⟨rfl, rfl⟩
  | audit row => exact ⟨rfl, rfl⟩
  | putBody key body =>
    simp only [Silent, exec, putBody]
    split
    · split <;> exact ⟨rfl, rfl⟩
    · exact ⟨rfl, rfl⟩
  | _ => cases idle

/-- No command of the thread has touched messages or deliveries. -/
def Quiet (t : Nat) (h : History machine) : Prop :=
  ∀ issued ∈ h.own t, Silent issued

/-- What an answer of `send` is worth. -/
def SendAnswer (store : StoreConfig) (t : Nat) (call : Call) (scopeIn opts selector : Value)
    (before : Database)
    : Except Failure (Answer Time) → History machine → Prop
  | .ok answer, h =>
    UnrevokedCaller scopeIn before
    ∧ ∃ request n, parseSend opts = .ok request
      ∧ ((answer = .sent request.messageId true n
          ∧ ∃ issued ∈ h.log, issued.thread = t
            ∧ ∃ m scope, Inserts issued m request.recipients
              ∧ CarriesOut store call m request.recipients scope request h.state.db)
        ∨ (answer = .sent request.messageId false n
          ∧ (∃ m, Replays store scopeIn request m h.state.db) ∧ Quiet t h))
  | .error e, h => (parseSend opts = .error e ∨ Refusal scopeIn selector e) ∧ Quiet t h

/-- An explanation of a failed batch ends in a replay or in a refusal. -/
theorem owes_explainSend {fromInboxId : Text}
    (fits : Admitted scopeIn start.state.db ctx h.state.db)
    (sender : request.fromInboxId = .string fromInboxId)
    : Obliged store t call
        (explainSend scopeIn selector ctx request fromInboxId (store.sha256Hex request.body))
        (fun answer h' =>
          match answer with
          | .ok answer => ∃ m n, answer = .sent request.messageId false n
              ∧ Replays store scopeIn request m h'.state.db
          | .error e => Refusal scopeIn selector e) h := by
  refine owes_authorize_bind (fun fresh h1 after1 _ => ?_) (fun e _ _ failed => failed.refusal)
  refine owes_checkAuthority_bind (fun _ h2 after2 _ _ => ?_)
    (fun _ _ => Refusal.capabilityDenied)
  have after := after1.trans after2
  refine owes_classifySend_bind (fits.later after.le.db) sender (fun _ _ => ?_)
    (fun m n h3 after3 replays => ?_) (fun _ _ => Refusal.capabilityDenied)
  · exact .fail (fun _ _ => Refusal.concurrentStateChange)
  · exact .done (fun h4 moved => ⟨m, n, rfl, replays.grows moved.le.db⟩)

def BatchOutcome (issued : Issued machine) (message : MessageRow) (targets : List Text)
    : Except SqlError Unit → Prop
  | .ok () => Inserts issued message targets
  | .error _ => Silent issued

/-- A batch that was executed either inserted its message or left the tables alone. -/
theorem batchOutcome (w : World) (t : Nat) (message : MessageRow) (targets : List Text)
    : BatchOutcome ⟨t, .deliver message targets, w⟩ message targets
        (exec (.deliver message targets) w).1 := by
  simp only [exec]
  cases res : w.db.deliver message targets with
  | error e => exact ⟨by simp [exec, res, Except.map, commit],
      by simp [exec, res, Except.map, commit]⟩
  | ok db =>
    obtain ⟨fresh, rfl, _⟩ := Database.deliver_eq_ok res
    refine ⟨rfl, fun known => ?_, ?_⟩
    · obtain ⟨old, stored, same⟩ := mem_map.mp known
      exact fresh old stored same
    · simp [exec, commit, res, Except.map]

/-- A batch that is refused is explained, and then the call has been silent; one that
succeeds is the only one of its call.
Witness: the batch is the first command in the own log that is not incidental.
-/
theorem owes_commitSend {message : MessageRow} (parsed : parseSend opts = .ok request)
    (fits : Admitted scopeIn start.state.db ctx h.state.db)
    (carriesOut
      : CarriesOut store call message request.recipients ctx.scope request h.state.db)
    (past : message.createdAt ≤ h.state.clock)
    (idle : ∀ issued ∈ h.own t, Incidental issued.command)
    : Obliged store t call (commitSend scopeIn selector ctx request message)
        (SendAnswer store t call scopeIn opts selector start.state.db) h := by
  refine perform_bind (fun h1 moved => ?_)
  have carriesOut := carriesOut.grows moved.le.db
  have promise : Promise store t call (.deliver message request.recipients) h1 :=
    ⟨past.trans moved.le.clock, ctx.scope, request, carriesOut⟩
  refine ⟨promise, ?_⟩
  have after1 := after_exec moved.toAfter promise
  have fits := fits.later after1.le.db
  have carriesOut := carriesOut.grows (after_exec (Protocol.After.refl moved.inv) promise).le.db
  have batch
      : (h1.exec t (Command.deliver message request.recipients)).own t
        = ⟨t, .deliver message request.recipients, h1.state⟩ :: h.own t := by
    rw [← moved.own]
    exact History.own_exec_self _ _ _
  have noted
      : (⟨t, .deliver message request.recipients, h1.state⟩ : Issued machine)
        ∈ (h1.exec t (Command.deliver message request.recipients)).log :=
    mem_cons_self
  have res := batchOutcome h1.state t message request.recipients
  revert res
  change BatchOutcome _ _ _
    (machine.exec (Command.deliver message request.recipients) h1.state).1 → _
  generalize (machine.exec (Command.deliver message request.recipients) h1.state).1 = reply
  intro res
  cases reply with
  | ok put =>
    refine owes_audit_bind (fun h2 after2 => .done (fun h3 moved3 => ?_))
    have later := after2.trans moved3.toAfter
    exact ⟨fits.caller, request, _, parsed,
      .inl ⟨rfl, _, later.le.log.subset noted, rfl, message, ctx.scope, res,
        carriesOut.grows later.le.db⟩⟩
  | error refused =>
    rw [carriesOut.bodySha256]
    refine consequence
      ((owes_explainSend fits carriesOut.senderInboxId).issuing
        (issues_explainSend ctx request message.senderInboxId (store.sha256Hex request.body)))
      (fun answer h2 after2 holds => ?_)
    have quiet : Quiet t h2 := by
      intro issued mem
      rcases holds.2 issued mem with before | kind
      · rw [batch] at before
        rcases mem_cons.mp before with rfl | prior
        · exact res
        · exact silent_of_incidental (idle issued prior)
      · exact silent_of_incidental kind
    cases answer with
    | ok answer =>
      obtain ⟨m, n, rfl, replays⟩ := holds.1
      exact ⟨fits.caller, request, n, parsed, .inr ⟨rfl, ⟨m, replays⟩, quiet⟩⟩
    | error e => exact ⟨.inr holds.1, quiet⟩

/-- `send` issues at most one batch, and every ending but `created` is silent.
Witness: preparation and explanation issue only incidental commands.
-/
theorem owes_send (asked : call = .send scopeIn opts selector) (unlogged : h.own t = [])
    : Obliged store t call (send store scopeIn opts selector)
        (SendAnswer store t call scopeIn opts selector h.state.db) h := by
  refine ofExcept_bind (fun request parsed => ?_) (fun e failed h1 moved => ?_)
  · refine bind
      (consequence
        ((owes_prepareSend asked parsed).issuing (issues_prepareSend store request))
        (fun answer h1 after1 holds => ?_))
    obtain ⟨plan, own⟩ := holds
    have idle : ∀ issued ∈ h1.own t, Incidental issued.command := by
      intro issued mem
      rcases own issued mem with old | kind
      · simp [unlogged] at old
      · exact kind
    have quiet : Quiet t h1 := fun issued mem =>
      silent_of_incidental (idle issued mem)
    rcases answer with e | early | ⟨ctx, message⟩
    · exact ⟨.inr plan, quiet⟩
    · refine Meets.done (fun h2 moved => ?_)
      obtain ⟨caller, m, n, rfl, replays⟩ := plan
      have quiet : Quiet t h2 := fun issued mem => quiet issued (moved.own ▸ mem)
      exact ⟨caller, request, n, parsed,
        .inr ⟨rfl, ⟨m, replays.grows moved.le.db⟩, quiet⟩⟩
    · obtain ⟨fits, carriesOut, past⟩ := plan
      exact owes_commitSend parsed fits carriesOut past idle
  · have own : h1.own t = [] := moved.own.trans unlogged
    exact ⟨.inl failed, fun issued mem => by simp [own] at mem⟩

end CairnStone.PrivateRealm.D1Store
