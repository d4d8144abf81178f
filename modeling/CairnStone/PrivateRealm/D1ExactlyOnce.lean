import CairnStone.PrivateRealm.D1Authority

/-! `send` is exactly-once: however calls interleave, a message id is created by one call, the
message is delivered to exactly that call's recipients, and every other call finds the same
message or is refused without a trace.
-/

namespace CairnStone.PrivateRealm.D1Store

open JavaScript Data Concurrency Except

variable {t : Nat}

abbrev Run := Concurrency.Config machine Call Failure (Answer Time)

/-- The thread serves a well-formed `send` of the request for a connection of the Home. -/
structure ServesSend (run : Run) (t : Nat) (homeId : Text) (scope : HomeScope)
    (request : SendRequest)
    : Prop where
  call
    : ∃ scopeIn opts selector, run.call t = some (.send scopeIn opts selector)
      ∧ assertHomeScope scopeIn = .ok scope ∧ parseSend opts = .ok request
  registered : Registered run.state.db scope homeId

structure Fulfils (store : StoreConfig) (db : Database) (m : MessageRow) (scope : HomeScope)
    (request : SendRequest)
    : Prop where
  messageId : m.messageId = request.messageId
  threadId : m.threadId = request.thread
  senderInboxId : request.fromInboxId = .string m.senderInboxId
  senderConnectionId : m.senderConnectionId = scope.connectionId
  bodySha256 : m.bodySha256 = store.sha256Hex request.body
  deliveredTo
    : ∀ inboxId,
        (∃ d ∈ db.deliveries, d.homeId = m.homeId ∧ d.messageId = m.messageId
            ∧ d.inboxId = inboxId)
          ↔ inboxId ∈ request.recipients

def LeavesMessagesAlone (run : Run) (t : Nat) : Prop :=
  ∀ issued ∈ run.history.log, issued.thread = t
    → (World.exec issued.command issued.before).2.db.messages = issued.before.db.messages
      ∧ (World.exec issued.command issued.before).2.db.deliveries = issued.before.db.deliveries

structure SendsExactlyOnce (store : StoreConfig) (run : Run) : Prop where
  created
    : ∀ t t' homeId scope scope' request request' n n',
        ServesSend run t homeId scope request → ServesSend run t' homeId scope' request'
        → request.messageId = request'.messageId
        → run.answer t = some (.ok (.sent request.messageId true n))
        → run.answer t' = some (.ok (.sent request'.messageId true n'))
        → t = t'
  origin
    : ∀ m ∈ run.state.db.messages, ∃ t scope request,
        ServesSend run t m.homeId scope request
        ∧ Fulfils store run.state.db m scope request
        ∧ ∀ answer, run.answer t = some answer → ∃ n, answer = .ok (.sent m.messageId true n)
  permanent
    : ∀ rest, ∀ m ∈ run.state.db.messages,
        m ∈ (run.run (body store) rest).state.db.messages
        ∧ (∀ m' ∈ (run.run (body store) rest).state.db.messages, m'.key = m.key → m' = m)
        ∧ ∀ inboxId,
            (∃ d ∈ (run.run (body store) rest).state.db.deliveries,
                d.messageKey = m.key ∧ d.inboxId = inboxId)
              ↔ ∃ d ∈ run.state.db.deliveries, d.messageKey = m.key ∧ d.inboxId = inboxId
  replayed
    : ∀ t homeId scope request messageId n, ServesSend run t homeId scope request
        → run.answer t = some (.ok (.sent messageId false n))
        → (∃ m ∈ run.state.db.messages,
            m.homeId = homeId ∧ Fulfils store run.state.db m scope request)
          ∧ LeavesMessagesAlone run t
  refused
    : ∀ t scopeIn opts selector error, run.call t = some (.send scopeIn opts selector)
        → run.answer t = some (.error error)
        → (parseSend opts = .error error ∨ Refusal scopeIn selector error)
          ∧ LeavesMessagesAlone run t

variable {run : Run}

theorem thread_of_call {call : Call} (asked : run.call t = some call)
    : ∃ entry, run.threads[t]? = some entry ∧ entry.call = call :=
  Option.map_eq_some_iff.mp asked

/-- The answer of a thread that serves a `send` is worth what the contract says.
Witness: soundness of the run.
-/
theorem sendAnswer_of_answer {store : StoreConfig}
    (sound : (contract store).Sound (AnswerWorth store) run) {scopeIn opts selector : Value}
    {answer : Except Failure (Answer Time)}
    (asked : run.call t = some (.send scopeIn opts selector))
    (said : run.answer t = some answer)
    : ∃ before, SendAnswer store t (.send scopeIn opts selector) scopeIn opts selector before
        answer run.history := by
  obtain ⟨entry, found, call⟩ := thread_of_call asked
  have ended : entry.answer = some answer := by
    simpa [Concurrency.Config.answer, found] using said
  have worth := sound.post_of_answer found ended
  rw [call] at worth
  exact ⟨_, worth⟩

theorem leavesMessagesAlone_of_quiet (quiet : Quiet t run.history)
    : LeavesMessagesAlone run t :=
  fun issued noted thread => quiet issued (History.mem_own.mpr ⟨noted, thread⟩)

theorem not_silent_of_inserts {issued : Issued machine} {m : MessageRow}
    {targets : List Text} (adds : Inserts issued m targets)
    : ¬ Silent issued := by
  intro silent
  have stored := adds.inserted
  rw [silent.1] at stored
  exact adds.fresh (List.mem_map_of_mem stored)

theorem registered_unique {db : Database} (keys : Keys db) {scope : HomeScope}
    {homeId homeId' : Text} (first : Registered db scope homeId)
    (second : Registered db scope homeId')
    : homeId = homeId' := by
  obtain ⟨c, mem, identity⟩ := first.connection
  obtain ⟨c', mem', identity'⟩ := second.connection
  simp only [ConnectionRow.identity, Prod.mk.injEq] at identity identity'
  cases keys.connections.eq_of_key mem mem' (identity.1.trans identity'.1.symm)
  exact identity.2.1.symm.trans identity'.2.1

theorem deliveredTo_iff {db : Database} {m : MessageRow} {inboxId : Text}
    : (∃ d ∈ db.deliveries, d.messageKey = m.key ∧ d.inboxId = inboxId)
      ↔ ∃ d ∈ db.deliveries, d.homeId = m.homeId ∧ d.messageId = m.messageId
          ∧ d.inboxId = inboxId := by
  simp only [DeliveryRow.messageKey, MessageRow.key, Prod.mk.injEq, and_assoc]

theorem grows_run {store : StoreConfig} (run : Run) (rest : List (Action machine Call))
    : Grows run.state.db (run.run (body store) rest).state.db :=
  Concurrency.Config.run_state_induction (body store) run
    (fun later : World => Grows run.state.db later.db)
    (fun later command grown => grown.trans (.effect (later.exec_effect command)))
    (fun later event grown => grown.trans (.disturb later event)) (.refl _) rest

variable (store : StoreConfig) (clock : Time) (mints : Nat → Text) (r2 : Option Bucket)

/-- However calls interleave, sending is exactly-once.
Witness: the log accounts for every message by one batch, that batch carries out the request
of its thread, and a thread whose answer is not `created` has issued no such batch.
-/
theorem sendIsExactlyOnce (schedule : List (Action machine Call))
    : SendsExactlyOnce store (reached store clock mints r2 schedule) := by
  have sound := sound_reached store clock mints r2 schedule
  have promised := promised_reached store clock mints r2 schedule
  have keysLater (rest : List (Action machine Call))
      : Keys ((reached store clock mints r2 schedule).run (body store) rest).state.db := by
    have keys := keys_reached store clock mints r2 (schedule ++ rest)
    rwa [reached, Concurrency.Config.run_append] at keys
  generalize reached store clock mints r2 schedule = run at sound promised keysLater
  have lawful : Lawful run.history := sound.inv
  constructor
  case created =>
    intro t t' homeId scope scope' request request' n n' serves serves' sameId answer answer'
    have created {t : Nat} {scope : HomeScope} {request : SendRequest} {n : Option Nat}
        (serves : ServesSend run t homeId scope request)
        (answered : run.answer t = some (.ok (.sent request.messageId true n)))
        : ∃ issued ∈ run.history.log, issued.thread = t ∧ ∃ m targets,
            Inserts issued m targets ∧ m.key = (homeId, request.messageId) := by
      obtain ⟨scopeIn, opts, selector, asked, valid, parsed⟩ := serves.call
      obtain ⟨before, _, parsedRequest, k, parsed', worth⟩ :=
        sendAnswer_of_answer sound asked answered
      obtain rfl : request = parsedRequest := ok.inj (parsed.symm.trans parsed')
      rcases worth with ⟨_, issued, logged, thread, m, sender, inserts, carriesOut⟩ | ⟨same, _⟩
      · obtain rfl : scope = sender := ok.inj (valid.symm.trans carriesOut.speaks)
        have home := registered_unique lawful.keys carriesOut.registered serves.registered
        exact ⟨issued, logged, thread, m, _, inserts, Prod.ext home carriesOut.messageId⟩
      · cases same
    obtain ⟨i, logged, rfl, m, targets, inserts, key⟩ := created serves answer
    obtain ⟨i', logged', rfl, m', targets', inserts', key'⟩ := created serves' answer'
    exact lawful.recorded.once i logged i' logged' inserts inserts'
      (key.trans (by rw [key', sameId]))
  case origin =>
    intro m stored
    obtain ⟨issued, logged, targets, inserts, into⟩ := lawful.recorded.origin m stored
    obtain ⟨call, h, asked, found, _, promise⟩ := promised issued logged
    rw [inserts.command] at promise
    obtain ⟨_, scope, request, carriesOut⟩ := promise
    obtain ⟨scopeIn, opts, selector, rfl, parsed⟩ := carriesOut.asked
    have grown : Grows h.state.db run.state.db := found ▸ lawful.grown issued logged
    refine ⟨issued.thread, scope, request, ⟨⟨scopeIn, opts, selector, asked,
      carriesOut.speaks, parsed⟩, carriesOut.registered.grows grown⟩, ?_, ?_⟩
    · exact {
        messageId := carriesOut.messageId
        threadId := carriesOut.threadId
        senderInboxId := carriesOut.senderInboxId
        senderConnectionId := carriesOut.senderConnectionId
        bodySha256 := carriesOut.bodySha256
        deliveredTo := fun inboxId =>
          deliveredTo_iff.symm.trans (carriesOut.targets ▸ into inboxId)
      }
    · intro answer answered
      obtain ⟨before, worth⟩ := sendAnswer_of_answer sound asked answered
      have loud (quiet : Quiet issued.thread run.history) : False :=
        not_silent_of_inserts inserts (leavesMessagesAlone_of_quiet quiet issued logged rfl)
      cases answer with
      | error e => exact absurd worth.2 loud
      | ok answer =>
        obtain ⟨_, request', n, parsed', worth⟩ := worth
        obtain rfl : request = request' := ok.inj (parsed.symm.trans parsed')
        rcases worth with ⟨rfl, _⟩ | ⟨_, _, quiet⟩
        · exact ⟨n, by rw [carriesOut.messageId]⟩
        · exact absurd quiet loud
  case permanent =>
    intro rest m stored
    have grows : Grows run.state.db (run.run (body store) rest).state.db := grows_run run rest
    have kept := grows.messages m stored
    refine ⟨kept, fun m' stored' same => ?_, fun inboxId => grows.deliveredInto_iff stored inboxId⟩
    exact (keysLater rest).messages.eq_of_key stored' kept same
  case replayed =>
    intro t homeId scope request messageId n serves answered
    obtain ⟨scopeIn, opts, selector, asked, valid, parsed⟩ := serves.call
    obtain ⟨before, _, parsedRequest, k, parsed', worth⟩ :=
      sendAnswer_of_answer sound asked answered
    obtain rfl : request = parsedRequest := ok.inj (parsed.symm.trans parsed')
    rcases worth with ⟨same, _⟩ | ⟨_, ⟨m, replays⟩, quiet⟩
    · cases same
    · obtain ⟨sender, valid', registered, connection⟩ := replays.caller
      obtain rfl : scope = sender := ok.inj (valid.symm.trans valid')
      have home := registered_unique lawful.keys registered serves.registered
      refine ⟨⟨m, replays.stored, home, ?_⟩, leavesMessagesAlone_of_quiet quiet⟩
      exact {
        messageId := replays.messageId
        threadId := replays.threadId
        senderInboxId := replays.senderInboxId
        senderConnectionId := connection
        bodySha256 := replays.bodySha256
        deliveredTo := fun inboxId => deliveredTo_iff.symm.trans (replays.deliveredTo inboxId)
      }
  case refused =>
    intro t scopeIn opts selector error asked answered
    obtain ⟨before, refusal, quiet⟩ := sendAnswer_of_answer sound asked answered
    exact ⟨refusal, leavesMessagesAlone_of_quiet quiet⟩

/-- A call on the id of a stored message can also be refused because its body needs a bucket
that the store does not have, before the message is looked up.
-/
theorem sendOnStoredIdCanLackBucket
    : let run :=
        Sample.reached (callsInTurn (Sample.homeCalls ++ [Sample.send "a", Sample.send "ab"]))
      (∃ m ∈ run.state.db.messages, m.messageId = text "msg-0001")
      ∧ run.answer 2 = some (.ok (.sent (text "msg-0001") true (some 1)))
      ∧ run.answer 3 = some (.error (.realm "private_r2_required")) := by
  decide +kernel

/-- No row goes away, no stamp is taken back, no revoked connection returns, and no stored message
is delivered anew, whatever is called after. Witness: no effect of a command does any of it.
-/
theorem nothingIsUndone (before after : List (Action machine Call))
    : Grows (reached store clock mints r2 before).state.db
        (reached store clock mints r2 (before ++ after)).state.db := by
  rw [reached, reached, Concurrency.Config.run_append]
  exact grows_run _ _

end CairnStone.PrivateRealm.D1Store
