import CairnStone.PrivateRealm.D1ExactlyOnce

/-! The stamps of a delivery: when they are ordered, and that they are final. -/

namespace CairnStone.PrivateRealm.D1Store

open JavaScript Data Concurrency List

/-- `delivered_at <= read_at <= acked_at`, and no ack without a read. -/
structure Ordered (d : DeliveryRow) : Prop where
  ackedRead : d.ackedAt ≠ none → d.readAt ≠ none
  deliveredRead : ∀ read ∈ d.readAt, d.deliveredAt ≤ read
  readAcked : ∀ read ∈ d.readAt, ∀ acked ∈ d.ackedAt, read ≤ acked

def ClockReadAfter (t : Nat) (h : History machine) (d : DeliveryRow) : Prop :=
  match h.own t with
  | ⟨_, .now, before⟩ :: _ => ∃ d' ∈ before.db.deliveries, d'.key = d.key
  | _ => False

/-- An ack that stamps an unread delivery has read its clock when the delivery was there. -/
def AckReadsClockLate (t : Nat) (command : Command) (h : History machine) : Prop :=
  match command with
  | .stampAck _ messageId actor grant =>
    ∀ d ∈ h.state.db.deliveries,
      h.state.db.ackMatches messageId actor grant d = true → d.readAt = none
      → ClockReadAfter t h d
  | _ => True

instance (t : Nat) (h : History machine) (d : DeliveryRow)
    : Decidable (ClockReadAfter t h d) := by
  unfold ClockReadAfter
  split <;> infer_instance

instance decidableAckReadsClockLate (t : Nat) (command : Command) (h : History machine)
    : Decidable (AckReadsClockLate t command h) := by
  unfold AckReadsClockLate
  split <;> infer_instance

instance (h : History machine) : Decidable (h.Respects AckReadsClockLate) :=
  @History.decidableRespects machine AckReadsClockLate decidableAckReadsClockLate h

/-- The stamps of every delivery are ordered, and whatever happens next keeps the ones that
are set.
-/
def StampsStayOrdered (store : StoreConfig) (run : Run) : Prop :=
  (∀ d ∈ run.state.db.deliveries, Ordered d)
  ∧ ∀ rest, ∀ d ∈ run.state.db.deliveries,
      ∀ d' ∈ (run.run (body store) rest).state.db.deliveries, d'.key = d.key
      → (d.readAt ≠ none → d'.readAt = d.readAt) ∧ (d.ackedAt ≠ none → d'.ackedAt = d.ackedAt)

/-- A command keeps the stamps ordered, if an ack reads its clock late.
Witness: a read stamps what it has read before the clock; an ack takes the maximum with the
read stamp, and its own reading is late enough when there is none.
-/
theorem ordered_exec {store : StoreConfig} {h : History machine} {t : Nat} {call : Call}
    {command : Command} (lawful : Lawful h) (promise : Promise store t call command h)
    (late : AckReadsClockLate t command h) (past : ∀ issued ∈ h.log, Past issued.before)
    (ordered : ∀ d ∈ h.state.db.deliveries, Ordered d) {db' : Database}
    (effect : Effect h.state.db command db')
    : ∀ d ∈ db'.deliveries, Ordered d := by
  cases effect with
  | @delivered message targets =>
    intro d mem
    rcases mem_append.mp mem with old | new
    · exact ordered d old
    · obtain ⟨inboxId, _, rfl⟩ := mem_map.mp new
      exact ⟨fun acked => absurd rfl acked, fun _ read => (by cases read),
        fun _ read => (by cases read)⟩
  | @readStamped stamp messageIds actor grant =>
    intro d' mem
    obtain ⟨d, old, rfl⟩ := mem_updateWhere.mp mem
    split
    · rename_i hit
      simp only [Database.readMatches, Bool.and_eq_true, beq_iff_eq,
        contains_iff_mem] at hit
      obtain ⟨⟨⟨⟨⟨home, inbox⟩, listed⟩, unread⟩, _⟩, _⟩ := hit
      have delivered := promise.2 d old (Prod.ext home inbox) listed
      have unacked : d.ackedAt = none := by
        by_contra acked
        exact (ordered d old).ackedRead acked unread
      refine ⟨fun acked => absurd unacked acked, fun read same => ?_,
        fun _ _ acked same => ?_⟩
      · cases same
        exact delivered
      · rw [unacked] at same
        cases same
    · exact ordered d old
  | @ackStamped stamp messageId actor grant =>
    intro d' mem
    obtain ⟨d, old, rfl⟩ := mem_updateWhere.mp mem
    split
    · rename_i hit
      have delivered : d.deliveredAt ≤ d.readAt.getD stamp := by
        cases read : d.readAt with
        | some read' => exact (ordered d old).deliveredRead read' read
        | none =>
          obtain ⟨_, prior, before, own, clock⟩ := promise
          have seen := late d old hit read
          simp only [ClockReadAfter, own] at seen
          obtain ⟨d0, known, same⟩ := seen
          have noted : (⟨t, .now, before⟩ : Issued machine) ∈ h.log :=
            (History.mem_own.mp (own ▸ mem_cons_self)).1
          obtain ⟨d1, now, evolves⟩ :=
            (lawful.grown _ noted).deliveries d0 known
          obtain rfl :=
            lawful.keys.deliveries.eq_of_key now old (evolves.key.trans same)
          have pastDelivery := past _ noted d0 known
          rw [evolves.deliveredAt, Option.getD_none, ← clock]
          exact pastDelivery
      refine ⟨fun _ none => (by cases none), fun read same => ?_,
        fun read same acked same' => ?_⟩
      · cases same
        exact delivered
      · cases same
        cases same'
        exact Nat.le_max_left _ _
    · exact ordered d old
  | _ => exact ordered

variable (store : StoreConfig) (clock : Time) (mints : Nat → Text) (r2 : Option Bucket)

/-- In every run in which acks read their clocks late, the stamps stay ordered.
Witness: one command keeps the order; final stamps are growth of the database.
-/
theorem stampsStayOrdered (schedule : List (Action machine Call))
    (late : (reached store clock mints r2 schedule).history.Respects AckReadsClockLate)
    : StampsStayOrdered store (reached store clock mints r2 schedule) := by
  refine ⟨?_, fun rest d member d' member' same => ?_⟩
  · have kept :=
      (contract store).run_respecting
        (J := fun h =>
          (∀ d ∈ h.state.db.deliveries, Ordered d) ∧ ∀ issued ∈ h.log, Past issued.before)
        (fun t call h _ unlogged => owes_body store t call h unlogged)
        (lawful_fresh clock mints r2)
        ⟨by simp [World.fresh, Database.empty], fun _ logged => absurd logged not_mem_nil⟩
        ?_ ?_ schedule late
    · exact kept.1
    · intro h t call command lawful promise late holds
      refine ⟨ordered_exec lawful promise late holds.2 holds.1
        (World.exec_effect h.state command), fun issued logged => ?_⟩
      rcases mem_cons.mp logged with rfl | old
      · exact lawful.past
      · exact holds.2 issued old
    · intro h event lawful holds
      have deliveries : (h.disturb event).state.db.deliveries = h.state.db.deliveries := by
        cases event <;> rfl
      exact ⟨by rw [deliveries]; exact holds.1, holds.2⟩
  · have keys : Keys ((reached store clock mints r2 schedule).run (body store) rest).state.db := by
      have keys := keys_reached store clock mints r2 (schedule ++ rest)
      rwa [reached, Concurrency.Config.run_append] at keys
    have grows
        : Grows (reached store clock mints r2 schedule).state.db
            ((reached store clock mints r2 schedule).run (body store) rest).state.db :=
      grows_run _ rest
    obtain ⟨d'', later, evolves⟩ := grows.deliveries d member
    cases keys.deliveries.eq_of_key member' later (same.trans evolves.key.symm)
    exact ⟨evolves.readAt.resolve_left, evolves.ackedAt.resolve_left⟩

/-- A send and then an ack: the ack reads its clock late, so the stamps stay ordered. -/
theorem stampsStayOrdered_sample
    : let schedule := callsInTurn (Sample.homeCalls ++ [Sample.send "a", Sample.ack])
      StampsStayOrdered ⟨Sample.sha256Hex, 1⟩
          (reached ⟨Sample.sha256Hex, 1⟩ 0 (fun _ => Sample.homeId) none schedule)
      ∧ (reached ⟨Sample.sha256Hex, 1⟩ 0 (fun _ => Sample.homeId) none schedule).answer 3
        = some (.ok (.acked (text "msg-0001") true)) :=
  ⟨stampsStayOrdered _ _ _ _ _ (by decide +kernel), by decide +kernel⟩

/-- An ack that reads its clock, waits for the message to be delivered, and then stamps it:
the delivery is later than its read stamp.
-/
theorem ackCanPrecedeDelivery
    : ∃ d ∈ (Sample.reached
          (callsInTurn Sample.homeCalls
            ++ [.spawn Sample.ack, .step 2, .step 2, .step 2, .step 2, .disturb (.tick 10)]
            ++ .spawn (Sample.send "a") :: List.replicate 60 (.step 3)
            ++ [.step 2])).state.db.deliveries,
        d.deliveredAt = 10 ∧ d.readAt = some 0 ∧ d.ackedAt = some 0 ∧ ¬ Ordered d := by
  refine ⟨⟨Sample.homeId, text "msg-0001", text "ibx_shared", 10, some 0, some 0⟩,
    by decide +kernel, rfl, rfl, rfl, fun ordered => ?_⟩
  exact absurd (ordered.deliveredRead 0 rfl) (by decide)

end CairnStone.PrivateRealm.D1Store
