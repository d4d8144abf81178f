import CairnStone.JavaScript.StableJson
import CairnStone.PrivateRealm.D1ExactlyOnce

/-! What a replayed `send` says of its body. The classification compares digests, and a digest is taken of
the UTF-8 encoding of a body, in which every lone surrogate becomes the same character.
-/

namespace CairnStone.PrivateRealm.D1Store

open JavaScript Data Concurrency List Except

/-- The digest is one of the bytes that encode a text, and no two of them have the same. -/
def DigestsBytes (sha256Hex : Text → Text) : Prop :=
  ∀ a b, sha256Hex a = sha256Hex b ↔ toWellFormed a = toWellFormed b

/-- A request on the same message from the same inbox of the same connection to the same recipients. -/
structure SameButBody (homeId : Text) (scope : HomeScope) (request : SendRequest) (ctx : AuthContext)
    (fromInboxId : Text) (second : SendRequest)
    : Prop where
  home : ctx.homeId = homeId
  connection : ctx.conn.connectionId = scope.connectionId
  messageId : second.messageId = request.messageId
  thread : second.thread = request.thread
  recipients : second.recipients = request.recipients
  sender : request.fromInboxId = .string fromInboxId

/-- The answer of a classification that finds the message as requested. -/
def replayed (request : SendRequest) : Option (Answer Time) :=
  some (.sent request.messageId false (some request.recipients.length))

variable {store : StoreConfig} {w : World} {ctx : AuthContext} {request second : SendRequest}
  {fromInboxId digest : Text} {m : MessageRow}

theorem run_select_bind {α β : Type} (f : Database → α) (g : α → Async β) (w : World)
    : ((select f).bind g).run w = (g (f w.db)).run w := rfl

/-- A classification of a stored message answers a replay or a conflict. -/
theorem run_classifySend
    (found : messageRow ctx.homeId request.messageId w.db = some m)
    : ((classifySend ctx request fromInboxId digest).run w).1
      = if m.bodySha256 = digest ∧ m.senderConnectionId = ctx.conn.connectionId
            ∧ m.threadId = request.thread ∧ m.senderInboxId = fromInboxId
            ∧ deliveredTo ctx.homeId request.messageId w.db = request.recipients then
          .ok (replayed request)
        else .error (.realm "capability_denied") := by
  unfold classifySend
  rw [Program.bind_eq, run_select_bind, found]
  simp only []
  rw [Program.bind_eq, run_select_bind]
  unfold require
  split
  · rfl
  · rfl

theorem recipients_of_parseSend {opts : Value} (parsed : parseSend opts = .ok request)
    : request.recipients.Nodup ∧ request.recipients.Pairwise (· ≤ ·) := by
  unfold parseSend at parsed
  obtain ⟨messageId, _, parsed⟩ := bind_eq_ok.mp parsed
  obtain ⟨thread, _, parsed⟩ := bind_eq_ok.mp parsed
  obtain ⟨body, _, parsed⟩ := bind_eq_ok.mp parsed
  split at parsed
  · split at parsed
    · cases parsed
    · split at parsed
      · cases parsed
      · rename_i recipients _
        cases parsed
        exact ⟨nodup_recipientSet recipients, pairwise_insertionSort _ _⟩
  · cases parsed

theorem deliveredTo_of_fulfils {scope : HomeScope} {db : Database} {opts : Value} (keys : Keys db)
    (parsed : parseSend opts = .ok request) (fulfils : Fulfils store db m scope request)
    : deliveredTo m.homeId m.messageId db = request.recipients := by
  obtain ⟨nodup, sorted⟩ := recipients_of_parseSend parsed
  have distinct : (deliveredTo m.homeId m.messageId db).Nodup := by
    refine (perm_insertionSort _ _).nodup_iff.mpr ?_
    refine List.Nodup.map_on (fun d kept d' kept' same => ?_)
      (List.Nodup.filter _ (List.Nodup.of_map _ keys.deliveries))
    obtain ⟨mem, here⟩ := mem_filter.mp kept
    obtain ⟨mem', here'⟩ := mem_filter.mp kept'
    simp only [Bool.and_eq_true, beq_iff_eq] at here here'
    refine keys.deliveries.eq_of_key mem mem' ?_
    simp only [DeliveryRow.key, here.1, here.2, here'.1, here'.2, same]
  have perm : (deliveredTo m.homeId m.messageId db).Perm request.recipients := by
    refine (perm_ext_iff_of_nodup distinct nodup).mpr (fun inboxId => ?_)
    rw [mem_deliveredTo]
    exact deliveredTo_iff.trans (fulfils.deliveredTo inboxId)
  exact perm.eq_of_pairwise' (pairwise_insertionSort _ _) sorted

theorem messageRow_of_mem {db : Database} (keys : Keys db) (stored : m ∈ db.messages)
    : messageRow m.homeId m.messageId db = some m := by
  cases found : messageRow m.homeId m.messageId db with
  | none =>
    have absent := find?_eq_none.mp found m stored
    simp at absent
  | some m' =>
    obtain ⟨stored', home, messageId⟩ := messageRow_mem found
    rw [keys.messages.eq_of_key stored' stored (Prod.ext home messageId)]

section

variable (store : StoreConfig) (clock : Time) (mints : Nat → Text) (r2 : Option Bucket)

/-- What a call created is stored as it asked for. Witness: the message has one origin, which is the call. -/
theorem stored_of_created (schedule : List (Action machine Call)) {t : Nat} {homeId : Text}
    {scope : HomeScope} {request : SendRequest} {n : Option Nat}
    (serves : ServesSend (reached store clock mints r2 schedule) t homeId scope request)
    (made
      : (reached store clock mints r2 schedule).answer t
        = some (.ok (.sent request.messageId true n)))
    : ∃ m ∈ (reached store clock mints r2 schedule).state.db.messages, m.homeId = homeId
      ∧ Fulfils store (reached store clock mints r2 schedule).state.db m scope request := by
  have sound := sound_reached store clock mints r2 schedule
  have due := promised_reached store clock mints r2 schedule
  generalize reached store clock mints r2 schedule = run at serves made due sound
  have lawful : Lawful run.history := sound.inv
  obtain ⟨scopeIn, opts, selector, asked, valid, parsed⟩ := serves.call
  obtain ⟨before, _, parsedRequest, k, parsed', worth⟩ := sendAnswer_of_answer sound asked made
  obtain rfl : request = parsedRequest := ok.inj (parsed.symm.trans parsed')
  rcases worth with ⟨_, issued, noted, rfl, m, sender, adds, carriesOut⟩ | ⟨same, _⟩
  · have stored := lawful.recorded.stored issued noted adds
    obtain rfl : scope = sender := ok.inj (valid.symm.trans carriesOut.speaks)
    have home := registered_unique lawful.keys carriesOut.registered serves.registered
    obtain ⟨issued', logged', targets, inserts', into⟩ := lawful.recorded.origin m stored
    have thread := lawful.recorded.once issued noted issued' logged' adds inserts' rfl
    obtain ⟨call, h, asked', _, _, promise⟩ := due issued' logged'
    rw [inserts'.command] at promise
    obtain ⟨_, _, request', carriesOut'⟩ := promise
    obtain ⟨scopeIn', opts', selector', rfl, parsed''⟩ := carriesOut'.asked
    rw [← thread, asked] at asked'
    obtain ⟨_, rfl, _⟩ := Call.send.inj (Option.some.inj asked')
    obtain rfl : request = request' := ok.inj (parsed.symm.trans parsed'')
    refine ⟨m, stored, home, ?_⟩
    exact {
      messageId := carriesOut.messageId
      threadId := carriesOut.threadId
      senderInboxId := carriesOut.senderInboxId
      senderConnectionId := carriesOut.senderConnectionId
      bodySha256 := carriesOut.bodySha256
      deliveredTo := fun inboxId =>
        deliveredTo_iff.symm.trans (carriesOut'.targets ▸ into inboxId)
    }
  · cases same

/-- In every reachable state, a second request that differs from a created one in its body only is classified
as a replay only if it carries that body, and as a conflict otherwise, if and only if the two bodies do not
differ in nothing but lone surrogates. Witness: the classification compares the digests of the encodings.
-/
theorem replay_carries_body_iff (digests : DigestsBytes store.sha256Hex)
    (schedule : List (Action machine Call)) {t : Nat} {homeId : Text} {scope : HomeScope}
    {request second : SendRequest} {n : Option Nat} {ctx : AuthContext} {fromInboxId : Text}
    (serves : ServesSend (reached store clock mints r2 schedule) t homeId scope request)
    (created
      : (reached store clock mints r2 schedule).answer t
        = some (.ok (.sent request.messageId true n)))
    (same : SameButBody homeId scope request ctx fromInboxId second)
    : let classified :=
        ((classifySend ctx second fromInboxId (store.sha256Hex second.body)).run
          (reached store clock mints r2 schedule).state).1
      (classified = .ok (replayed second) → second.body = request.body)
        ∧ (second.body ≠ request.body → classified = .error (.realm "capability_denied"))
      ↔ (toWellFormed second.body = toWellFormed request.body → second.body = request.body) := by
  intro classified
  obtain ⟨m, stored, home, fulfils⟩ := stored_of_created store clock mints r2 schedule serves created
  have keys := keys_reached store clock mints r2 schedule
  obtain ⟨scopeIn, opts, selector, _, _, parsed⟩ := serves.call
  have found : messageRow ctx.homeId second.messageId
      (reached store clock mints r2 schedule).state.db = some m := by
    rw [same.home, same.messageId, ← home, ← fulfils.messageId]
    exact messageRow_of_mem keys stored
  have deliveries := deliveredTo_of_fulfils keys parsed fulfils
  have inbox : m.senderInboxId = fromInboxId :=
    Value.string.inj (fulfils.senderInboxId.symm.trans same.sender)
  have settled : classified = if toWellFormed second.body = toWellFormed request.body then
      .ok (replayed second) else .error (.realm "capability_denied") := by
    refine (run_classifySend found).trans (if_congr ?_ rfl rfl)
    rw [same.home, same.messageId, same.thread, same.recipients, same.connection, ← home,
      ← fulfils.messageId, fulfils.bodySha256, deliveries]
    refine ⟨fun agrees => ((digests _ _).mp agrees.1).symm, fun agrees => ?_⟩
    exact
      ⟨(digests _ _).mpr agrees.symm, fulfils.senderConnectionId, fulfils.threadId, inbox, rfl⟩
  rw [settled]
  by_cases agrees : toWellFormed second.body = toWellFormed request.body
  · rw [if_pos agrees]
    constructor
    · exact fun carries _ => carries.1 rfl
    · intro carries
      exact ⟨fun _ => carries agrees, fun different => absurd (carries agrees) different⟩
  · rw [if_neg agrees]
    constructor
    · exact fun _ never => absurd never agrees
    · intro _
      exact ⟨fun never => (by cases never), fun _ => rfl⟩

end

namespace Replay

/-- A digest for bodies that are one replacement character, or `a`. -/
def digests : List (Text × Text) :=
  [([0xFFFD], text "83d544ccc223c057d2bf80d3f2a32982c32c3c0db8e2674820da5064783fb097"),
    (text "a", text "ca978112ca1bbdcafac231b39a23dc4da786eff8147c4e72b9807785afee48bb")]

def config : StoreConfig where
  sha256Hex := tabled digests
  inlineBodyMax := 4096

theorem digestsBytes : DigestsBytes config.sha256Hex := by
  intro a b
  refine ⟨fun same => ?_, fun same => ?_⟩
  · exact collisionFree_tabled (by decide +kernel) (by decide +kernel) a b same
  · simp only [config, tabled, same]

def options (body : Text) : Value :=
  Sample.object
    [("fromInboxId", Sample.string "ibx_shared"),
      ("toInboxIds", .array [some (Sample.string "ibx_shared")]),
      ("messageId", Sample.string "msg-0001"), ("body", .string body)]

def send (body : Text) : Call :=
  .send (Sample.scope "1111" "admin") (options body) .undefined

def schedule (bodies : List Text) : List (Action machine Call) :=
  callsInTurn (Sample.homeCalls ++ bodies.map send)

abbrev run (bodies : List Text) : Run :=
  reached config 0 (fun _ => Sample.homeId) none (schedule bodies)

def sendRequest (body : Text) : SendRequest where
  messageId := text "msg-0001"
  thread := text "msg-0001"
  body := body
  recipients := [text "ibx_shared"]
  sparse := false
  fromInboxId := .string (text "ibx_shared")

/-- The connection of the sample scope in the Home of a run. -/
def connection (bodies : List Text) : Bool :=
  match assertHomeScope (Sample.scope "1111" "admin") with
  | .error _ => false
  | .ok scope =>
    decide
        (∃ c ∈ (run bodies).state.db.connections,
          c.identity = (scope.connectionId, Sample.homeId, scope.principalId))
      && decide
        (∃ h ∈ (run bodies).state.db.homes,
          h.identity = (Sample.homeId, scope.accountId, scope.tenantId))

theorem exists_of_connection {bodies : List Text} (holds : connection bodies = true)
    : ∃ scope, assertHomeScope (Sample.scope "1111" "admin") = .ok scope
      ∧ Registered (run bodies).state.db scope Sample.homeId := by
  unfold connection at holds
  split at holds
  · cases holds
  · rename_i scope valid
    obtain ⟨connected, homed⟩ := Bool.and_eq_true_iff.mp holds
    exact ⟨scope, valid, of_decide_eq_true connected, of_decide_eq_true homed⟩

end Replay

theorem conflict_of_other_body
    : ∃ ctx,
        ((classifySend ctx (Replay.sendRequest (text "b")) (text "ibx_shared")
            (Replay.config.sha256Hex (Replay.sendRequest (text "b")).body)).run
          (reached Replay.config 0 (fun _ => Sample.homeId) none (Replay.schedule [text "a"])).state).1
        = .error (.realm "capability_denied") := by
  have connected : Replay.connection [text "a"] = true := by
    decide +kernel
  obtain ⟨scope, valid, registered⟩ := Replay.exists_of_connection connected
  obtain ⟨conn, _, identity⟩ := registered.connection
  have serves
      : ServesSend (Replay.run [text "a"]) 2 Sample.homeId scope (Replay.sendRequest (text "a")) := by
    refine ⟨⟨Sample.scope "1111" "admin", Replay.options (text "a"), .undefined, ?_, valid, rfl⟩,
      registered⟩
    exact (Concurrency.Config.call_run _ _ _ _).trans rfl
  have created : (Replay.run [text "a"]).answer 2 = some (.ok (.sent (text "msg-0001") true (some 1))) := by
    decide +kernel
  have same : SameButBody Sample.homeId scope (Replay.sendRequest (text "a"))
      { scope, homeId := Sample.homeId, conn } (text "ibx_shared")
      (Replay.sendRequest (text "b")) := {
    home := rfl
    connection := congrArg Prod.fst identity
    messageId := rfl
    thread := rfl
    recipients := rfl
    sender := rfl
  }
  have different : toWellFormed (text "b") ≠ toWellFormed (text "a") := by
    decide +kernel
  have classified := replay_carries_body_iff Replay.config 0 (fun _ => Sample.homeId) none
    Replay.digestsBytes (Replay.schedule [text "a"]) serves created same
  have otherwise : (Replay.sendRequest (text "b")).body ≠ (Replay.sendRequest (text "a")).body :=
    fun agrees => different (congrArg toWellFormed agrees)
  have conflict := (classified.mpr (fun agrees => absurd agrees different)).2 otherwise
  exact ⟨{ scope, homeId := Sample.homeId, conn }, conflict⟩

/-- A second body with another lone surrogate in its place is answered as a replay. -/
theorem replay_of_other_body
    : (Replay.run [[0xD800], [0xD801]]).answer 2 = some (.ok (.sent (text "msg-0001") true (some 1)))
      ∧ (Replay.run [[0xD800], [0xD801]]).answer 3
        = some (.ok (.sent (text "msg-0001") false (some 1))) := by
  decide +kernel

end CairnStone.PrivateRealm.D1Store
