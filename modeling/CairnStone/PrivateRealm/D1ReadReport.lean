import CairnStone.Concurrency.Replay
import CairnStone.PrivateRealm.D1Admission
import CairnStone.PrivateRealm.D1ExactlyOnce

/-! What `readInbox` reports of the stamps it sets. The update that stamps the returned messages holds the
authority of the reader in its guard; a call that lost it there and regains it afterwards returns bodies
that nobody has stamped.
-/

namespace CairnStone.PrivateRealm.D1Store

open JavaScript Data Concurrency Protocol List Option Database History Meets Program World Protocol.After List.Nodup Prod DeliveryRow

variable {d : DeliveryRow} {scopeIn : Value} {config : StoreConfig}

/-- A stamping update finds the authority of its reader in force, or nothing left to stamp. -/
def StampsInForce (command : Command) (db : Database) : Prop :=
  match command with
  | .stampRead _ messageIds actor grant =>
    (db.ConnGuarded actor ∧ db.GrantGuarded grant)
      ∨ ∀ d ∈ db.deliveries, d.inboxKey = (grant.homeId, grant.inboxId)
          → d.messageId ∈ messageIds → d.readAt ≠ none
  | _ => True

instance decidableStampsInForce (command : Command) (db : Database)
    : Decidable (StampsInForce command db) := by
  unfold StampsInForce
  split <;> infer_instance

instance decidableIssuedInForce (issued : Issued machine)
    : Decidable (StampsInForce issued.command issued.before.db) :=
  decidableStampsInForce issued.command issued.before.db

def Stored (homeId inboxId messageId : Text) (readAt : Option Time) (db : Database) : Prop :=
  ∃ d ∈ db.deliveries, d.key = (homeId, messageId, inboxId) ∧ d.readAt = readAt

/-- A returned body is stamped, with the stamp that is stored. -/
def ReportsStamp (homeId inboxId : Text) (row : MessageReading Time) (db : Database) : Prop :=
  row.readAt ≠ none ∧ Stored homeId inboxId row.messageId row.readAt db

/-- The command leaves the delivery of a message into an inbox as it is. -/
def LeavesUnread (homeId inboxId messageId : Text) (issued : Issued machine) : Prop :=
  ∀ d ∈ issued.before.db.deliveries, d.key = (homeId, messageId, inboxId)
    → d ∈ (World.exec issued.command issued.before).2.db.deliveries

/-- What an answer of `readInbox` is worth, given the commands of its call. -/
structure Reports (homeId inboxId : Text) (rows : List (MessageReading Time))
    (own : List (Issued machine)) (db : Database)
    : Prop where
  stamped
    : (∀ issued ∈ own, StampsInForce issued.command issued.before.db)
      → ∀ row ∈ rows, row.bodyStatus = .ok → ReportsStamp homeId inboxId row db
  withheld
    : ∀ row ∈ rows, row.bodyStatus ≠ .ok
      → ∀ issued ∈ own, LeavesUnread homeId inboxId row.messageId issued

-- Stamps

variable {homeId inboxId messageId : Text} {db db' : Database}

/-- A stamp that is set is final. -/
theorem Stored.grows {stamp : Time} (stored : Stored homeId inboxId messageId (some stamp) db)
    (grows : Grows db db')
    : Stored homeId inboxId messageId (some stamp) db' := by
  obtain ⟨d, mem, key, read⟩ := stored
  obtain ⟨d', mem', evolves⟩ := grows.deliveries d mem
  refine ⟨d', mem', evolves.key.trans key, ?_⟩
  rcases evolves.readAt with unset | kept
  · rw [read] at unset
    cases unset
  · exact kept.trans read

theorem ReportsStamp.grows {row : MessageReading Time} (reports : ReportsStamp homeId inboxId row db)
    (grows : Grows db db')
    : ReportsStamp homeId inboxId row db' := by
  obtain ⟨set, stored⟩ := reports
  refine ⟨set, ?_⟩
  obtain ⟨stamp, read⟩ := ne_none_iff_exists'.mp set
  rw [read] at stored ⊢
  exact stored.grows grows

theorem Stored.readAt_eq {readAt : Option Time} (keys : Keys db)
    (stored : Stored homeId inboxId messageId readAt db) (mem : d ∈ db.deliveries)
    (key : d.key = (homeId, messageId, inboxId))
    : d.readAt = readAt := by
  obtain ⟨d', mem', key', read⟩ := stored
  cases keys.deliveries.eq_of_key mem mem' (key.trans key'.symm)
  exact read

theorem messageId_of_key (key : d.key = (homeId, messageId, inboxId))
    : d.homeId = homeId ∧ d.messageId = messageId ∧ d.inboxId = inboxId := by
  simp only [DeliveryRow.key, Prod.mk.injEq] at key
  exact key

/-- What the rewriting of a stamping update asks of a delivery. -/
theorem readMatches_iff {messageIds : List Text} {actor : ConnGuard} {grant : GrantGuard}
    : db.readMatches messageIds actor grant d = true
      ↔ d.key = (grant.homeId, d.messageId, grant.inboxId) ∧ d.messageId ∈ messageIds
        ∧ d.readAt = none ∧ db.ConnGuarded actor ∧ db.GrantGuarded grant := by
  simp only [readMatches, Bool.and_eq_true, beq_iff_eq, decide_eq_true_eq,
    contains_iff_mem, DeliveryRow.key, Prod.mk.injEq, true_and]
  constructor
  · rintro ⟨⟨⟨⟨⟨home, inbox⟩, seen⟩, unread⟩, conn⟩, granted⟩
    exact ⟨⟨home, inbox⟩, seen, unread, conn, granted⟩
  · rintro ⟨⟨home, inbox⟩, seen, unread, conn, granted⟩
    exact ⟨⟨⟨⟨⟨home, inbox⟩, seen⟩, unread⟩, conn⟩, granted⟩

/-- An update that changes as many deliveries as it names messages changes one for each of them.
Witness: the changed deliveries are of different messages, and there are enough of them.
-/
theorem matched_of_countP {messageIds : List Text} {actor : ConnGuard} {grant : GrantGuard}
    (keys : Keys db)
    (all : messageIds.length ≤ db.deliveries.countP (db.readMatches messageIds actor grant))
    : ∀ messageId ∈ messageIds, ∃ d ∈ db.deliveries,
        d.messageId = messageId ∧ db.readMatches messageIds actor grant d = true := by
  have subset
      : (db.deliveries.filter (db.readMatches messageIds actor grant)).map messageId
        ⊆ messageIds := by
    intro messageId mem
    obtain ⟨d, kept, rfl⟩ := List.mem_map.mp mem
    exact (readMatches_iff.mp (mem_filter.mp kept).2).2.1
  have distinct
      : ((db.deliveries.filter (db.readMatches messageIds actor grant)).map
          messageId).Nodup := by
    refine map_on (fun d kept d' kept' same => ?_)
      (List.Nodup.filter _ (of_map _ keys.deliveries))
    obtain ⟨mem, hit⟩ := mem_filter.mp kept
    obtain ⟨mem', hit'⟩ := mem_filter.mp kept'
    refine keys.deliveries.eq_of_key mem mem' ?_
    rw [(readMatches_iff.mp hit).1, (readMatches_iff.mp hit').1, same]
  have perm := (subperm_of_subset distinct subset).perm_of_length_le
    (by rwa [length_map, ← countP_eq_length_filter])
  intro messageId mem
  obtain ⟨d, kept, same⟩ := List.mem_map.mp (perm.mem_iff.mpr mem)
  obtain ⟨present, hit⟩ := mem_filter.mp kept
  exact ⟨d, present, same, hit⟩

theorem stampRead_eq_ok {stamp : Time} {messageIds : List Text} {actor : ConnGuard}
    {grant : GrantGuard} {w : World} {changes : Nat}
    (replied : (exec (.stampRead stamp messageIds actor grant) w).1 = .ok changes)
    : changes = w.db.deliveries.countP (w.db.readMatches messageIds actor grant)
      ∧ (exec (.stampRead stamp messageIds actor grant) w).2.db.deliveries
        = updateWhere (w.db.readMatches messageIds actor grant)
            ({ · with readAt := some stamp }) w.db.deliveries := by
  change (w.commit (w.db.stampRead stamp messageIds actor grant)).1 = .ok changes at replied
  change changes = _ ∧ (w.commit (w.db.stampRead stamp messageIds actor grant)).2.db.deliveries = _
  cases res : w.db.stampRead stamp messageIds actor grant with
  | error error =>
    rw [res] at replied
    cases replied
  | ok result =>
    rw [res] at replied
    cases replied
    obtain ⟨_, count, redone⟩ := updateDeliveries_eq_ok res
    exact ⟨count, congrArg deliveries redone⟩

section

variable {stamp : Time} {messageIds : List Text} {actor : ConnGuard} {grant : GrantGuard} {w : World}
  {t changes : Nat}

theorem stored_of_all (keys : Keys w.db)
    (replied : (exec (.stampRead stamp messageIds actor grant) w).1 = .ok changes)
    (all : messageIds.length ≤ changes) (seen : messageId ∈ messageIds)
    : Stored grant.homeId grant.inboxId messageId (some stamp)
        (exec (.stampRead stamp messageIds actor grant) w).2.db := by
  obtain ⟨count, redone⟩ := stampRead_eq_ok replied
  rw [count] at all
  obtain ⟨d, mem, rfl, hit⟩ := matched_of_countP keys all messageId seen
  refine ⟨{ d with readAt := some stamp }, ?_, (readMatches_iff.mp hit).1, rfl⟩
  rw [redone]
  exact mem_updateWhere.mpr ⟨d, mem, by rw [if_pos hit]⟩

theorem set_of_inForce
    (replied : (exec (.stampRead stamp messageIds actor grant) w).1 = .ok changes)
    (inForce : StampsInForce (.stampRead stamp messageIds actor grant) w.db)
    : ∀ d ∈ (exec (.stampRead stamp messageIds actor grant) w).2.db.deliveries,
        d.key = (grant.homeId, d.messageId, grant.inboxId) → d.messageId ∈ messageIds
          → d.readAt ≠ none := by
  obtain ⟨_, redone⟩ := stampRead_eq_ok replied
  intro d' mem key seen
  rw [redone] at mem
  obtain ⟨d, old, rfl⟩ := mem_updateWhere.mp mem
  by_cases hit : w.db.readMatches messageIds actor grant d = true
  · rw [if_pos hit]
    exact some_ne_none stamp
  · rw [if_neg hit] at key seen ⊢
    obtain ⟨home, _, inbox⟩ := messageId_of_key key
    rcases inForce with ⟨conn, granted⟩ | settled
    · intro unread
      exact hit (readMatches_iff.mpr ⟨key, seen, unread, conn, granted⟩)
    · exact settled d old (Prod.ext home inbox) seen

/-- A stamping update leaves the deliveries that it does not name as they are. -/
theorem leavesUnread_of_unlisted (unlisted : messageId ∉ messageIds)
    : LeavesUnread homeId inboxId messageId ⟨t, .stampRead stamp messageIds actor grant, w⟩ := by
  intro d mem key
  obtain ⟨_, rfl, _⟩ := messageId_of_key key
  change d ∈ (w.commit (w.db.stampRead stamp messageIds actor grant)).2.db.deliveries
  cases res : w.db.stampRead stamp messageIds actor grant with
  | error error => exact mem
  | ok result =>
    obtain ⟨_, _, redone⟩ := updateDeliveries_eq_ok res
    change d ∈ result.2.deliveries
    rw [redone]
    refine mem_updateWhere.mpr ⟨d, mem, ?_⟩
    rw [if_neg (fun hit => unlisted (readMatches_iff.mp hit).2.1)]

end

theorem leavesUnread_of_incidental {issued : Issued machine} (idle : Incidental issued.command)
    : LeavesUnread homeId inboxId messageId issued := by
  intro d mem _
  rw [(silent_of_incidental idle).2]
  exact mem

-- One call

def keeping : Protocol machine Call where
  inv h := Keys h.state.db
  le h h' := Grows h.state.db h'.state.db ∧ h.log <:+ h'.log
  pre _ _ _ _ := True
  refl := advances_refl
  trans := @advances_trans
  exec_inv {h _ _ c} keys _ := keys.effect (World.exec_effect h.state c)
  exec_le {h _ _ c} _ _ := ⟨.effect (World.exec_effect h.state c), List.suffix_cons _ _⟩
  disturb_inv {h} e keys := Keys.disturb (w := h.state) keys e
  disturb_le {h} e _ := ⟨.disturb h.state e, List.suffix_rfl⟩

theorem permissive_keeping : Permissive keeping where
  grows := And.left
  free := fun _ => trivial

variable {t : Nat} {call : Call} {α β : Type} {h h' : History machine}

def CallerOf (scopeIn : Value) (homeId : Text) (db : Database) : Prop :=
  ∃ scope, assertHomeScope scopeIn = .ok scope ∧ Registered db scope homeId

theorem CallerOf.grows (caller : CallerOf scopeIn homeId db) (grows : Grows db db')
    : CallerOf scopeIn homeId db' := by
  obtain ⟨scope, valid, registered⟩ := caller
  exact ⟨scope, valid, registered.grows grows⟩

theorem reads_resolveBody (homeId : Text) (message : MessageRow)
    : (resolveBody config homeId message).Reads := by
  unfold resolveBody
  split
  · trivial
  · refine Reads.bind (Issues.ofExcept _) (fun key => ?_)
    split
    · trivial
    · refine reads_select_bind (fun body => ?_)
      split
      · trivial
      · split <;> trivial

theorem reads_resolveRows (homeId : Text) (rows : List (DeliveryRow × MessageRow))
    : (resolveRows config homeId rows).Reads := by
  induction rows with
  | nil => trivial
  | cons row rest ih =>
    exact (reads_resolveBody homeId row.2).bind (fun found => ih.bind (fun later => trivial))

/-- Resolving bodies keeps the messages, their order and their stamps.
Witness: induction on the rows; a body is read, never written.
-/
theorem meets_resolveRows (rows : List (DeliveryRow × MessageRow))
    : keeping.Meets t call (resolveRows config homeId rows)
        (Succeeds
          (fun returned _ =>
            returned.map (fun row => (row.messageId, row.readAt))
              = rows.map (fun row => (row.2.messageId, row.1.readAt)))) h := by
  induction rows generalizing h with
  | nil => exact .done (fun _ _ => rfl)
  | cons row rest ih =>
    refine reading_bind (reads_resolveBody ..) (fun found h1 _ => ?_)
      (fun _ _ _ => trivial)
    refine seq ih (fun later h2 _ kept => ?_) (fun _ _ _ _ => trivial)
    refine Meets.done (fun _ _ => ?_)
    have kept : later.map _ = rest.map _ := kept
    simp [Succeeds, kept]

-- Rows

structure Listed (homeId inboxId : Text) (rows : List (MessageReading Time)) (db : Database)
    : Prop where
  distinct : (rows.map (·.messageId)).Nodup
  present : ∀ row ∈ rows, ∃ readAt, Stored homeId inboxId row.messageId readAt db
  stored : ∀ row ∈ rows, row.readAt ≠ none → ReportsStamp homeId inboxId row db

variable {rows : List (MessageReading Time)} {row : MessageReading Time}

theorem Listed.grows (seen : Listed homeId inboxId rows db) (grows : Grows db db')
    : Listed homeId inboxId rows db' where
  distinct := seen.distinct
  present := by
    intro row mem
    obtain ⟨_, d, old, key, _⟩ := seen.present row mem
    obtain ⟨d', new, evolves⟩ := grows.deliveries d old
    exact ⟨d'.readAt, d', new, evolves.key.trans key, rfl⟩
  stored := fun row mem set => (seen.stored row mem set).grows grows

/-- The rows of an inbox are of different messages. Witness: both sides of a joined row are keyed. -/
theorem nodup_inboxRows (keys : Keys db) (limit : Nat)
    : ((inboxRows homeId inboxId limit db).map (·.2.messageId)).Nodup := by
  have joined
      : ((db.deliveries.filter (fun d => d.homeId == homeId && d.inboxId == inboxId)).flatMap
          (fun d => (db.messages.filter
            (fun m => m.homeId == d.homeId && m.messageId == d.messageId)).map
              (fun m => (d, m)))).Nodup := by
    refine nodup_flatMap.mpr ⟨fun d _ => ?_, ?_⟩
    · exact (List.Nodup.filter _ (of_map _ keys.messages)).map
        (fun _ _ same => (mk.inj same).2)
    · refine (List.Nodup.filter _ (of_map _ keys.deliveries)).imp (fun apart => ?_)
      intro row left right
      obtain ⟨_, _, rfl⟩ := List.mem_map.mp left
      obtain ⟨_, _, same⟩ := List.mem_map.mp right
      exact apart (mk.inj same).1.symm
  refine map_on (fun row mem row' mem' same => ?_)
    (sublist (take_sublist _ _)
      ((perm_insertionSort _ _).nodup_iff.mpr joined))
  obtain ⟨present, key⟩ := mem_inboxRows mem
  obtain ⟨present', key'⟩ := mem_inboxRows mem'
  have message (row : DeliveryRow × MessageRow)
      (mem : row ∈ inboxRows homeId inboxId limit db)
      : row.2 ∈ db.messages ∧ row.2.key = (homeId, row.2.messageId) := by
    have among := (perm_insertionSort _ _).mem_iff.mp (mem_of_mem_take mem)
    simp only [mem_flatMap, List.mem_map, mem_filter, Bool.and_eq_true,
      beq_iff_eq] at among
    obtain ⟨d, ⟨_, home, _⟩, m, ⟨stored, ofHome, _⟩, rfl⟩ := among
    exact ⟨stored, Prod.ext (ofHome.trans home) rfl⟩
  refine Prod.ext ?_ ?_
  · exact keys.deliveries.eq_of_key present present' (by rw [key, key', same])
  · obtain ⟨stored, ofKey⟩ := message row mem
    obtain ⟨stored', ofKey'⟩ := message row' mem'
    exact keys.messages.eq_of_key stored stored' (by rw [ofKey, ofKey', same])

/-- Rows that were read together are listed. Witness: a delivery joins with one message only. -/
theorem listed_of_inboxRows {limit : Nat} (keys : Keys db)
    (got
      : rows.map (fun row => (row.messageId, row.readAt))
        = (inboxRows homeId inboxId limit db).map (fun row => (row.2.messageId, row.1.readAt)))
    : Listed homeId inboxId rows db := by
  have found
      : ∀ row ∈ rows, ∃ d ∈ db.deliveries, d.key = (homeId, row.messageId, inboxId)
          ∧ d.readAt = row.readAt := by
    intro row mem
    have seen := List.mem_map_of_mem (f := fun row => (row.messageId, row.readAt)) mem
    rw [got] at seen
    obtain ⟨joined, among, same⟩ := List.mem_map.mp seen
    obtain ⟨present, key⟩ := mem_inboxRows among
    obtain ⟨sameId, sameRead⟩ := mk.inj same
    exact ⟨joined.1, present, sameId ▸ key, sameRead⟩
  refine ⟨?_, fun row mem => ?_, fun row mem set => ⟨set, found row mem⟩⟩
  · have ids := congrArg (List.map fst) got
    rw [List.map_map, List.map_map] at ids
    change rows.map (·.messageId) = _ at ids
    rw [ids]
    exact nodup_inboxRows keys limit
  · obtain ⟨d, present, key, _⟩ := found row mem
    exact ⟨d.readAt, d, present, key, rfl⟩

theorem mem_unreadWithBody (distinct : (rows.map (·.messageId)).Nodup) (mem : row ∈ rows)
    : row.messageId ∈ unreadWithBody rows ↔ row.readAt = none ∧ row.bodyStatus = .ok := by
  unfold unreadWithBody
  constructor
  · intro seen
    obtain ⟨row', kept, same⟩ := List.mem_map.mp seen
    obtain ⟨among, holds⟩ := mem_filter.mp kept
    cases inj_on_of_nodup_map distinct among mem same
    simpa using holds
  · rintro ⟨unread, ok⟩
    refine List.mem_map_of_mem (mem_filter.mpr ⟨mem, ?_⟩)
    simp [unread, ok]

theorem withStanding_unlisted {messageIds : List Text} (unlisted : row.messageId ∉ messageIds)
    : withStanding (standingStamps homeId inboxId messageIds db) row = row := by
  have absent
      : (standingStamps homeId inboxId messageIds db).find? (·.1 == row.messageId) = none := by
    refine find?_eq_none.mpr (fun entry mem => ?_)
    obtain ⟨d, kept, rfl⟩ := List.mem_map.mp mem
    have seen := (mem_filter.mp kept).2
    simp only [Bool.and_eq_true, beq_iff_eq, contains_iff_mem] at seen ⊢
    intro same
    exact unlisted (same ▸ seen.2)
  unfold withStanding
  rw [absent]
  rfl

theorem withStanding_kept (standing : List (Text × Option Time)) (row : MessageReading Time)
    : (withStanding standing row).messageId = row.messageId
      ∧ (withStanding standing row).bodyStatus = row.bodyStatus := by
  unfold withStanding
  split <;> exact ⟨rfl, rfl⟩

theorem withStanding_listed {messageIds : List Text} {stamp : Time} (keys : Keys db)
    (seen : row.messageId ∈ messageIds)
    (stored : Stored homeId inboxId row.messageId (some stamp) db)
    : withStanding (standingStamps homeId inboxId messageIds db) row
      = { row with readAt := some stamp } := by
  obtain ⟨d, mem, key, read⟩ := stored
  obtain ⟨home, ofMessage, inbox⟩ := messageId_of_key key
  have among : (d.messageId, d.readAt) ∈ standingStamps homeId inboxId messageIds db := by
    refine List.mem_map.mpr ⟨d, mem_filter.mpr ⟨mem, ?_⟩, rfl⟩
    simp only [Bool.and_eq_true, beq_iff_eq, contains_iff_mem]
    exact ⟨⟨home, inbox⟩, ofMessage ▸ seen⟩
  have found
      : ((standingStamps homeId inboxId messageIds db).find? (·.1 == row.messageId)).bind (·.2)
        = some stamp := by
    cases first : (standingStamps homeId inboxId messageIds db).find? (·.1 == row.messageId) with
    | none => simpa [ofMessage] using find?_eq_none.mp first _ among
    | some entry =>
      have same := find?_some first
      obtain ⟨d', kept, rfl⟩ := List.mem_map.mp (mem_of_find?_eq_some first)
      obtain ⟨mem', here⟩ := mem_filter.mp kept
      simp only [Bool.and_eq_true, beq_iff_eq] at here same
      have key' : d'.key = (homeId, row.messageId, inboxId) := by
        rw [DeliveryRow.key, here.1.1, here.1.2, same]
      cases keys.deliveries.eq_of_key mem' mem (key'.trans key.symm)
      exact read
  unfold withStanding
  rw [found]

-- Reports

theorem own_subset (after : keeping.After h h') {issued : Issued machine}
    (mem : issued ∈ h.own t)
    : issued ∈ h'.own t := by
  obtain ⟨noted, thread⟩ := mem_own.mp mem
  exact mem_own.mpr ⟨after.le.2.subset noted, thread⟩

/-- What is reported stays true while the call goes on without a further stamp. -/
theorem Reports.later (reports : Reports homeId inboxId rows (h.own t) h.state.db)
    (after : keeping.After h h') (only : OnlyIncidental t h h')
    : Reports homeId inboxId rows (h'.own t) h'.state.db where
  stamped := by
    intro inForce row mem ok
    have before : ∀ issued ∈ h.own t, StampsInForce issued.command issued.before.db :=
      fun issued known => inForce issued (own_subset after known)
    exact (reports.stamped before row mem ok).grows after.le.1
  withheld := by
    intro row mem held issued known
    rcases only issued known with old | idle
    · exact reports.withheld row mem held issued old
    · exact leavesUnread_of_incidental idle

def StampedOnce (t : Nat) (messageIds : List Text) (h : History machine) : Prop :=
  ∀ issued ∈ h.own t, Incidental issued.command
    ∨ ∃ stamp actor grant, issued.command = .stampRead stamp messageIds actor grant

theorem StampedOnce.later {messageIds : List Text} (once : StampedOnce t messageIds h)
    (only : OnlyIncidental t h h')
    : StampedOnce t messageIds h' := by
  intro issued mem
  rcases only issued mem with known | idle
  · exact once issued known
  · exact .inl idle

theorem withheld_of_once (seen : Listed homeId inboxId rows db)
    (once : StampedOnce t (unreadWithBody rows) h) (mem : row ∈ rows)
    (held : row.bodyStatus ≠ .ok)
    : ∀ issued ∈ h.own t, LeavesUnread homeId inboxId row.messageId issued := by
  intro issued known
  rcases once issued known with idle | ⟨stamp, actor, grant, stamps⟩
  · exact leavesUnread_of_incidental idle
  · obtain ⟨thread, command, before⟩ := issued
    obtain rfl : command = _ := stamps
    refine leavesUnread_of_unlisted (fun among => held ?_)
    exact ((mem_unreadWithBody seen.distinct mem).mp among).2

theorem reports_standing (keys : Keys h.state.db)
    (seen : Listed homeId inboxId rows h.state.db)
    (once : StampedOnce t (unreadWithBody rows) h)
    (settled
      : (∀ issued ∈ h.own t, StampsInForce issued.command issued.before.db)
        → ∀ d ∈ h.state.db.deliveries, d.key = (homeId, d.messageId, inboxId)
          → d.messageId ∈ unreadWithBody rows → d.readAt ≠ none)
    : Reports homeId inboxId
        (rows.map (withStanding (standingStamps homeId inboxId (unreadWithBody rows) h.state.db)))
        (h.own t) h.state.db where
  stamped := by
    intro inForce row' mem ok
    obtain ⟨row, among, rfl⟩ := List.mem_map.mp mem
    by_cases asked : row.messageId ∈ unreadWithBody rows
    · obtain ⟨_, d, stored, key, _⟩ := seen.present row among
      obtain ⟨_, ofMessage, _⟩ := messageId_of_key key
      have set := settled inForce d stored (ofMessage.symm ▸ key) (ofMessage.symm ▸ asked)
      obtain ⟨stamp, read⟩ := ne_none_iff_exists'.mp set
      have stands : Stored homeId inboxId row.messageId (some stamp) h.state.db :=
        ⟨d, stored, key, read⟩
      rw [withStanding_listed keys asked stands]
      exact ⟨some_ne_none stamp, stands⟩
    · rw [withStanding_unlisted asked] at ok ⊢
      refine seen.stored row among (fun unread => asked ?_)
      exact (mem_unreadWithBody seen.distinct among).mpr ⟨unread, ok⟩
  withheld := by
    intro row' mem held
    obtain ⟨row, among, rfl⟩ := List.mem_map.mp mem
    rw [(withStanding_kept _ row).1]
    rw [(withStanding_kept _ row).2] at held
    exact withheld_of_once seen once among held

theorem reports_stamped {stamp : Time} (seen : Listed homeId inboxId rows h.state.db)
    (once : StampedOnce t (unreadWithBody rows) h)
    (stored
      : ∀ messageId ∈ unreadWithBody rows, Stored homeId inboxId messageId (some stamp) h.state.db)
    : Reports homeId inboxId
        (rows.map
          (fun row =>
            if (unreadWithBody rows).contains row.messageId then { row with readAt := some stamp }
            else row))
        (h.own t) h.state.db where
  stamped := by
    intro _ row' mem ok
    obtain ⟨row, among, rfl⟩ := List.mem_map.mp mem
    by_cases asked : row.messageId ∈ unreadWithBody rows
    · rw [if_pos (contains_iff_mem.mpr asked)]
      exact ⟨some_ne_none stamp, stored _ asked⟩
    · rw [if_neg (fun among => asked (contains_iff_mem.mp among))] at ok ⊢
      refine seen.stored row among (fun unread => asked ?_)
      exact (mem_unreadWithBody seen.distinct among).mpr ⟨unread, ok⟩
  withheld := by
    intro row' mem held
    obtain ⟨row, among, rfl⟩ := List.mem_map.mp mem
    have held' : row.bodyStatus ≠ .ok := by
      split at held <;> exact held
    have withheld := withheld_of_once seen once among held'
    split <;> exact withheld

theorem reports_read (seen : Listed homeId inboxId rows h.state.db)
    (none : unreadWithBody rows = []) (only : ∀ issued ∈ h.own t, Incidental issued.command)
    : Reports homeId inboxId rows (h.own t) h.state.db where
  stamped := by
    intro _ row mem ok
    refine seen.stored row mem (fun unread => ?_)
    have asked := (mem_unreadWithBody seen.distinct mem).mpr ⟨unread, ok⟩
    rw [none] at asked
    exact not_mem_nil asked
  withheld := fun _ _ _ issued known => leavesUnread_of_incidental (only issued known)

/-- Stamping reports the stamps that are stored.
Witness: the update either reached all messages, or what it left is read again.
-/
theorem meets_markRead {inboxIdIn selector : Value} {ctx : AuthContext}
    (seen : Listed ctx.homeId inboxId rows h.state.db)
    (only : ∀ issued ∈ h.own t, Incidental issued.command)
    : keeping.Meets t call (markRead scopeIn inboxIdIn selector ctx inboxId rows)
        (Succeeds (fun marked h' => Reports ctx.homeId inboxId marked (h'.own t) h'.state.db)) h := by
  unfold markRead
  simp only []
  split
  · rename_i none
    refine Meets.done (fun h1 moved => ?_)
    exact reports_read (seen.grows moved.le.1) none (moved.own ▸ only)
  refine perform_bind (fun h1 moved1 => ⟨trivial, ?_⟩)
  refine perform_bind (fun h2 moved2 => ⟨trivial, ?_⟩)
  generalize (machine.exec Command.now h1.state).1 = stamp
  have listed2 : Listed ctx.homeId inboxId rows h2.state.db := by
    have grown : Grows h1.state.db (h1.exec t Command.now).state.db := Grows.refl _
    exact seen.grows (moved1.le.1.trans (grown.trans moved2.le.1))
  have own2 : h2.own t = ⟨t, Command.now, h1.state⟩ :: h.own t := by
    rw [moved2.own, ← moved1.own]
    exact own_exec_self _ _ _
  have only2 : ∀ issued ∈ h2.own t, Incidental issued.command := by
    rw [own2]
    exact forall_mem_cons.mpr ⟨trivial, only⟩
  let update : Command :=
    .stampRead stamp (unreadWithBody rows) (connGuard ctx false) (grantGuard ctx inboxId .read)
  change keeping.Meets t call ((orThrow (exec update h2.state).1).bind _) _ (h2.exec t update)
  have own3 : (h2.exec t update).own t = ⟨t, update, h2.state⟩ :: h2.own t :=
    own_exec_self _ _ _
  have after3 : keeping.After h2 (h2.exec t update) :=
    exec call (refl moved2.inv) trivial
  have once : StampedOnce t (unreadWithBody rows) (h2.exec t update) := by
    unfold StampedOnce
    rw [own3]
    exact forall_mem_cons.mpr
      ⟨.inr ⟨_, _, _, rfl⟩, fun issued known => .inl (only2 issued known)⟩
  have listed3 := listed2.grows after3.le.1
  have asked : (⟨t, update, h2.state⟩ : Issued machine) ∈ (h2.exec t update).own t :=
    own3 ▸ (.head _)
  cases replied : (exec update h2.state).1 with
  | error error => exact .fail (fun _ _ => trivial)
  | ok changes =>
    change keeping.Meets t call (if changes < (unreadWithBody rows).length then _ else _) _ _
    split
    · refine incidental_bind (issues_authorize ..)
        (meets_anything permissive_keeping (issues_authorize ..))
        (fun fresh h4 after4 only4 _ => ?_)
      refine incidental_bind (issues_requireCapability ..)
        (meets_anything permissive_keeping (issues_requireCapability ..)) (fun _ h5 after5 only5 _ => ?_)
      refine select_bind (fun h6 moved6 => ?_)
      have after : keeping.After (h2.exec t update) h6 :=
        after4.trans (after5.trans moved6.toAfter)
      have once6 :=
        once.later (only4.trans (only5.trans (onlyIncidental_of_own moved6.own)))
      have reports := reports_standing after.inv (listed3.grows after.le.1) once6
        (fun inForce d mem key seen => ?_)
      · refine Meets.done (fun h7 moved7 => ?_)
        exact reports.later moved7.toAfter (onlyIncidental_of_own moved7.own)
      · obtain ⟨row, among, same⟩ := List.mem_map.mp (unreadWithBody_subset seen)
        obtain ⟨_, d3, mem3, key3, _⟩ := listed3.present row among
        obtain ⟨_, ofMessage, _⟩ := messageId_of_key key3
        have set := set_of_inForce replied (inForce _ (own_subset after asked)) d3 mem3
          (ofMessage.symm ▸ key3) (ofMessage.trans same ▸ seen)
        obtain ⟨stands, read⟩ := ne_none_iff_exists'.mp set
        have stored : Stored ctx.homeId inboxId d.messageId (some stands) h6.state.db :=
          Stored.grows ⟨d3, mem3, same ▸ key3, read⟩ after.le.1
        rw [stored.readAt_eq after.inv mem key]
        exact some_ne_none stands
    · rename_i all
      refine Meets.done (fun h4 moved4 => ?_)
      have stored (messageId : Text) (seen : messageId ∈ unreadWithBody rows)
          : Stored ctx.homeId inboxId messageId (some stamp) (h2.exec t update).state.db :=
        stored_of_all moved2.inv replied (Nat.le_of_not_lt all) seen
      exact (reports_stamped listed3 once stored).later moved4.toAfter
        (onlyIncidental_of_own moved4.own)

/-- The thread serves a `readInbox` of the inbox, for a connection of the Home. -/
structure ServesRead (run : Run) (t : Nat) (homeId inboxId : Text) : Prop where
  call
    : ∃ scopeIn opts selector, run.call t = some (.readInbox scopeIn opts selector)
      ∧ inboxId? (opts.get (text "inboxId")) = some inboxId
      ∧ CallerOf scopeIn homeId run.state.db

def ReadWorth (call : Call) (answer : Answer Time) (own : List (Issued machine)) (db : Database)
    : Prop :=
  match call, answer with
  | .readInbox scopeIn opts _, .readings rows =>
    ∃ homeId inboxId, CallerOf scopeIn homeId db
      ∧ inboxId? (opts.get (text "inboxId")) = some inboxId
      ∧ Reports homeId inboxId rows own db
  | _, _ => True

theorem meets_readInbox {opts selector : Value} (unlogged : h.own t = [])
    : keeping.Meets t call (readInbox config scopeIn opts selector)
        (Succeeds
          (fun answer h' =>
            ReadWorth (.readInbox scopeIn opts selector) answer (h'.own t) h'.state.db)) h := by
  refine ofExcept_bind (fun limit _ => ?_) (fun _ _ _ _ => trivial)
  refine incidental_seq (issues_authorize ..) (meets_authorize permissive_keeping)
    (fun ctx h1 after1 only1 fits => ?_) (fun _ _ _ _ _ => trivial)
  have caller : CallerOf scopeIn ctx.homeId h1.state.db := ⟨ctx.scope, fits⟩
  refine incidental_bind (issues_requireCapability ..) (meets_requireCapability permissive_keeping)
    (fun inboxId h2 after2 only2 valid => ?_)
  refine select_bind (fun h3 moved3 => ?_)
  refine incidental_bind ((reads_resolveRows ..).imp (fun _ never => never.elim))
    (meets_resolveRows _) (fun rows h4 after4 only4 got => ?_)
  have only : OnlyIncidental t h h4 :=
    only1.trans (only2.trans ((onlyIncidental_of_own moved3.own).trans only4))
  have seen : Listed ctx.homeId inboxId rows h4.state.db :=
    (listed_of_inboxRows moved3.inv got).grows after4.le.1
  refine seq (meets_markRead seen (fun issued known => ?_))
    (fun marked h5 after5 reports => ?_) (fun _ _ _ _ => trivial)
  · rcases only issued known with old | idle
    · rw [unlogged] at old
      exact absurd old not_mem_nil
    · exact idle
  refine incidental_bind (issues_authorize ..)
          (meets_anything permissive_keeping (issues_authorize ..))
    (fun finalCtx h6 after6 only6 _ => ?_)
  refine incidental_bind (issues_requireCapability ..)
    (meets_anything permissive_keeping (issues_requireCapability ..)) (fun _ h7 after7 only7 _ => ?_)
  refine incidental_bind (issues_audit ..)
    (meets_anything permissive_keeping (issues_audit ..))
    (fun _ h8 after8 only8 _ => ?_)
  refine Meets.done (fun h9 moved9 => ?_)
  have reports : Reports ctx.homeId inboxId marked (h5.own t) h5.state.db := reports
  have after : keeping.After h5 h9 := after6.trans (after7.trans (after8.trans moved9.toAfter))
  have only : OnlyIncidental t h5 h9 :=
    only6.trans (only7.trans (only8.trans (onlyIncidental_of_own moved9.own)))
  have grown : Grows h1.state.db h9.state.db :=
    after2.le.1.trans (moved3.le.1.trans (after4.le.1.trans (after5.le.1.trans after.le.1)))
  exact ⟨ctx.homeId, inboxId, caller.grows grown, valid, reports.later after only⟩

def Worth (t : Nat) (call : Call) (_ : World) (answer : Except Failure (Answer Time))
    (h : History machine)
    : Prop :=
  Succeeds (fun value h' => ReadWorth call value (h'.own t) h'.state.db) answer h

theorem meets_body (store : StoreConfig) (t : Nat) (call : Call) (h : History machine)
    (unlogged : h.own t = [])
    : keeping.Meets t call (body store call) (Worth t call h.state) h := by
  have other {p : Async (Answer Time)}
      (nothing : ∀ answer own db, ReadWorth call answer own db)
      : keeping.Meets t call p (Worth t call h.state) h := by
    refine of_issues (.anything p) (fun _ _ _ => trivial) (fun answer h' _ => ?_)
    cases answer with
    | ok value => exact nothing value _ _
    | error error => exact trivial
  cases call with
  | readInbox scope opts selector => exact meets_readInbox unlogged
  | _ => exact other (fun _ _ _ => trivial)

variable (store : StoreConfig) (clock : Time) (mints : Nat → Text) (r2 : Option Bucket)

theorem callerOf_unique {homeId' : Text} (keys : Keys db) (caller : CallerOf scopeIn homeId db)
    (caller' : CallerOf scopeIn homeId' db)
    : homeId = homeId' := by
  obtain ⟨scope, valid, registered⟩ := caller
  obtain ⟨scope', valid', registered'⟩ := caller'
  cases (valid.symm.trans valid')
  exact registered_unique keys registered registered'

theorem readWorth_of_answer {run : Run} (sound : keeping.Sound Worth run) {call : Call}
    {value : Answer Time} (asked : run.call t = some call)
    (said : run.answer t = some (.ok value))
    : ReadWorth call value (run.history.own t) run.state.db := by
  obtain ⟨entry, found, rfl⟩ := map_eq_some_iff.mp asked
  obtain ⟨entry', found', ended⟩ := bind_eq_some_iff.mp said
  cases (found.symm.trans found')
  exact sound.post_of_answer found ended

/-- In every interleaving, a `readInbox` whose stamping update finds the authority of its reader in force,
or nothing left to stamp, returns every body with the stamp that is stored for it, and stamps no message
whose body it withholds.
-/
theorem readInbox_reports (schedule : List (Action machine Call)) {t : Nat} {homeId inboxId : Text}
    {rows : List (MessageReading Time)}
    (serves : ServesRead (reached store clock mints r2 schedule) t homeId inboxId)
    (answered : (reached store clock mints r2 schedule).answer t = some (.ok (.readings rows)))
    (inForce
      : ∀ issued ∈ (reached store clock mints r2 schedule).history.own t,
          StampsInForce issued.command issued.before.db)
    : (∀ row ∈ rows, row.bodyStatus = .ok
        → ReportsStamp homeId inboxId row (reached store clock mints r2 schedule).state.db)
      ∧ ∀ row ∈ rows, row.bodyStatus ≠ .ok
        → ∀ issued ∈ (reached store clock mints r2 schedule).history.own t,
            LeavesUnread homeId inboxId row.messageId issued := by
  have keys := keys_reached store clock mints r2 schedule
  have sound : keeping.Sound Worth (reached store clock mints r2 schedule) :=
    Protocol.sound (fun t call h _ unlogged => meets_body store t call h unlogged)
      (show keeping.inv ⟨fresh clock mints r2, []⟩ from Keys.empty) schedule
  obtain ⟨scopeIn, opts, selector, asked, valid, caller⟩ := serves.call
  obtain ⟨homeId', inboxId', caller', valid', reports⟩ := readWorth_of_answer sound asked answered
  cases callerOf_unique keys caller' caller
  cases (valid'.symm.trans valid)
  exact ⟨reports.stamped inForce, reports.withheld⟩

-- A reader that loses its grant and regains it

namespace Regrant

def inboxOptions : Value :=
  Sample.object [("inboxId", Sample.string "ibx_shared")]

def grantOptions : Value :=
  Sample.object
    [("inboxId", Sample.string "ibx_shared"), ("targetConnectionId", Sample.string "conn_1111"),
      ("caps", Sample.object [("read", .bool true)])]

def read : Call :=
  .readInbox (Sample.scope "1111" "admin") inboxOptions .undefined

def revoke : Call :=
  .revokeGrant (Sample.scope "1111" "admin") grantOptions .undefined

def grant : Call :=
  .grantInbox (Sample.scope "1111" "admin") grantOptions .undefined

/-- The only message of the inbox, as it is returned. -/
def reading (readAt : Option Time) : MessageReading Time where
  messageId := text "msg-0001"
  threadId := text "msg-0001"
  senderInboxId := text "ibx_shared"
  body := some (text "a")
  bodyStatus := .ok
  bodySha256 := Sample.sha256Hex (text "a")
  createdAt := 0
  deliveredAt := 0
  readAt := readAt

def inTurn : List (Action machine Call) :=
  callsInTurn (Sample.homeCalls ++ [Sample.send "a", read])

/-- The grant is revoked before the stamping update and restored after it. -/
def interrupted : List (Action machine Call) :=
  callsInTurn (Sample.homeCalls ++ [Sample.send "a"])
    ++ .spawn read :: List.replicate 5 (.step 3)
    ++ .spawn revoke :: List.replicate 60 (.step 4)
    ++ [.step 3]
    ++ .spawn grant :: List.replicate 60 (.step 5)
    ++ List.replicate 60 (.step 3)

def homed (run : Run) : Bool :=
  match assertHomeScope (Sample.scope "1111" "admin") with
  | .error _ => false
  | .ok scope =>
    run.state.db.connections.any
        (·.identity == (scope.connectionId, Sample.homeId, scope.principalId))
      && run.state.db.homes.any (·.identity == (Sample.homeId, scope.accountId, scope.tenantId))

theorem callerOf_of_homed {run : Run} (holds : homed run = true)
    : CallerOf (Sample.scope "1111" "admin") Sample.homeId run.state.db := by
  unfold homed at holds
  split at holds
  · cases holds
  · rename_i scope valid
    obtain ⟨connected, atHome⟩ := Bool.and_eq_true_iff.mp holds
    obtain ⟨c, mem, identity⟩ := List.any_eq_true.mp connected
    obtain ⟨home, stored, homeIdentity⟩ := List.any_eq_true.mp atHome
    exact ⟨scope, valid, ⟨c, mem, beq_iff_eq.mp identity⟩,
      ⟨home, stored, beq_iff_eq.mp homeIdentity⟩⟩

end Regrant

/-- A message that is sent and then read is returned with its stamp. -/
theorem readInbox_reports_sample
    : let run := reached ⟨Sample.sha256Hex, 1⟩ 0 (fun _ => Sample.homeId) none Regrant.inTurn
      run.answer 3 = some (.ok (.readings [Regrant.reading (some 0)]))
        ∧ ReportsStamp Sample.homeId (text "ibx_shared") (Regrant.reading (some 0)) run.state.db := by
  have answered
      : (reached ⟨Sample.sha256Hex, 1⟩ 0 (fun _ => Sample.homeId) none Regrant.inTurn).answer 3
        = some (.ok (.readings [Regrant.reading (some 0)])) := by
    decide +kernel
  have caller
      : CallerOf (Sample.scope "1111" "admin") Sample.homeId
          (reached ⟨Sample.sha256Hex, 1⟩ 0 (fun _ => Sample.homeId) none
            Regrant.inTurn).state.db :=
    Regrant.callerOf_of_homed (by decide +kernel)
  have serves
      : ServesRead (reached ⟨Sample.sha256Hex, 1⟩ 0 (fun _ => Sample.homeId) none Regrant.inTurn) 3
          Sample.homeId (text "ibx_shared") :=
    ⟨Sample.scope "1111" "admin", Regrant.inboxOptions, .undefined,
      (Concurrency.Config.call_run _ _ _ _).trans rfl, by decide +kernel, caller⟩
  have reports := readInbox_reports ⟨Sample.sha256Hex, 1⟩ 0 (fun _ => Sample.homeId) none
    Regrant.inTurn serves answered (by decide +kernel)
  exact ⟨answered, reports.1 _ (.head _) rfl⟩

/-- A reader whose grant is revoked before its update and restored after it gets a body that nobody has
stamped.
-/
theorem regranted_reader_is_unstamped
    : (Sample.reached Regrant.interrupted).answer 3
          = some (.ok (.readings [Regrant.reading none]))
        ∧ (Regrant.reading none).bodyStatus = .ok ∧ (Regrant.reading none).readAt = none := by
  decide +kernel

end CairnStone.PrivateRealm.D1Store
