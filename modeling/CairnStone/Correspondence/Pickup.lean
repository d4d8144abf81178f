import CairnStone.Correspondence.Mailbox
import CairnStone.Data.Newest
import Mathlib.Data.Prod.Lex

/-! Which task request a worker picks up: its inbox is scanned from the newest delivery on, and the oldest request of
what is kept of the scan is chosen.
-/

namespace CairnStone.Data

open List Option

variable {α : Type} {front back : List α} {a : α} {n : Nat}

theorem take_append_cons (reached : front.length < n)
    : (front ++ a :: back).take n = front ++ a :: back.take (n - front.length - 1) := by
  obtain ⟨extra, size⟩ : ∃ extra, n - front.length = extra + 1 := ⟨n - front.length - 1, by omega⟩
  rw [take_append, take_of_length_le (by omega), size, take_succ_cons,
    Nat.add_sub_cancel]

/-- An element is among the first ones if few enough stand before it. -/
theorem mem_take_append_cons (unseen : a ∉ front)
    : a ∈ (front ++ a :: back).take n ↔ front.length < n := by
  constructor
  · intro mem
    by_contra short
    have cut : (front ++ a :: back).take n = front.take n :=
      take_append_of_le_length (by omega)
    rw [cut] at mem
    exact unseen (mem_of_mem_take mem)
  · intro reached
    rw [take_append_cons reached]
    exact mem_append_right _ (.head _)

/-- The last element is the first one of a stable sort if none belongs before it. Witness: induction on the others,
where whatever takes the first place once keeps the last element from it.
-/
theorem head_insertionSort_append_singleton {r : α → α → Prop} [DecidableRel r] (unseen : a ∉ front)
    : ((front ++ [a]).insertionSort r).head? = some a ↔ ∀ b ∈ front, ¬r b a := by
  induction front with
  | nil => simp
  | cons b rest ih =>
    have other : b ≠ a := fun same => unseen (same ▸ (.head _))
    have ih := ih (fun later => unseen (.tail _ later))
    rw [cons_append, insertionSort_cons, forall_mem_cons, ← ih]
    cases sorted : (rest ++ [a]).insertionSort r with
    | nil =>
      have size := congrArg List.length sorted
      rw [length_insertionSort, length_append] at size
      cases size
    | cons first later =>
      rw [List.orderedInsert]
      split
      case isTrue before =>
        refine iff_of_false (fun same => other (some.inj same)) ?_
        rintro ⟨behind, same⟩
        exact behind (some.inj same ▸ before)
      case isFalse behind =>
        constructor
        · intro same
          exact ⟨some.inj same ▸ behind, same⟩
        · exact And.right

end CairnStone.Data

namespace CairnStone.Correspondence

open JavaScript Data List Option
open TaskRuns (nonEmptyString)

/-- A mailbox: its deliveries have an id each. -/
structure Mailbox where
  deliveries : List DeliveryRow
  stones : List MessageStone
  keyed : Keyed DeliveryRow.id deliveries

/-- `ALLOWED_STATUSES` -/
def statusOf (status : Text) : Option DeliveryStatus :=
  if status = text "queued" then some .queued
  else if status = text "delivered" then some .delivered
  else if status = text "read" then some .read
  else if status = text "acked" then some .acked
  else if status = text "archived" then some .archived
  else none

/-- What the platform does: `Number(value)`, `localeCompare(b) <= 0`, `Number.isFinite(Date.parse(text))`, and the check
of a mailbox capability.
-/
structure Platform where
  toNumber : Value → Number
  localeLe : Text → Text → Bool
  parsesAsDate : Text → Bool
  verifyMailboxCapability : (capability : Value) → (worker : Text) → Except Text Unit

/-- The fields of a body without `message_id`. -/
structure PickupBody where
  (workerActorId route mailboxCapability threadId since limit status : Value)

structure InboxQuery where
  recipientId : Text
  status : DeliveryStatus
  (threadId since : Option Text)
  limit : Nat
  deriving DecidableEq

def clampInt (value : Number) (min max fallback : Nat) : Nat :=
  match value.toInt? with
  | some n => Nat.max min (Nat.min max n.toNat)
  | none => fallback

def parseSince (platform : Platform) (since : Text) : Except Text Text :=
  if platform.parsesAsDate since then .ok since else .error (text "invalid_since")

/-- The args that `getInbox` is given, as it reads them. -/
def readInbox (platform : Platform) (body : PickupBody) (worker : Text) : Except Text InboxQuery := do
  let recipientId ← actorId (.string worker) "recipient_id"
  let status ←
    match statusOf ((nonEmptyString body.status).getD (text "delivered")) with
    | some status => .ok status
    | none => .error (text "invalid_status")
  let threadId ←
    match nonEmptyString body.threadId with
    | none => .ok none
    | some threadId =>
      match opaqueId (.string threadId) "thread_id" with
      | .ok threadId => .ok (some threadId)
      | .error _ => .error (text "invalid_thread_id")
  let since ←
    match nonEmptyString body.since with
    | none => .ok none
    | some since => (parseSince platform since).map some
  .ok { recipientId, status, threadId, since, limit := clampInt (platform.toNumber body.limit) 1 50 20 }

/-- What `runTaskRequestFromBody` checks before it selects a message, with the inbox that it asks for. -/
def readPickup (platform : Platform) (body : PickupBody) : Except Text InboxQuery := do
  let worker ←
    match TaskRuns.actorId body.workerActorId "worker_actor_id" with
    | .ok worker => .ok worker
    | .error _ => .error (text "invalid_worker_actor_id")
  if !body.route.isObject || (nonEmptyString (body.route.get (text "provider"))).isNone
      || (nonEmptyString (body.route.get (text "model"))).isNone then
    .error (text "invalid_route")
  else
    platform.verifyMailboxCapability body.mailboxCapability worker
    let query ← readInbox platform body worker
    if query.recipientId ≠ worker then .error (text "foreign_inbox_denied") else .ok query

/-- The `WHERE` clause of a query. -/
def InboxQuery.admits (query : InboxQuery) (row : DeliveryRow) : Bool :=
  row.recipientId == query.recipientId && row.status == query.status
  && query.threadId.all (· == row.threadId) && query.since.all (binaryLe · row.createdAt)

/-- The deliveries that match a query, with their stones and the newest first. -/
def Mailbox.newestFirst (mailbox : Mailbox) (query : InboxQuery) : List Card :=
  (((mailbox.deliveries.filter query.admits).filterMap (joinStone mailbox.stones)).insertionSort
    (fun a b => latestFirst a b)).map (fun found => inboxCard found.1 found.2)

def scanLimit : Nat := 200

def isNote (card : Card) : Bool :=
  card.labels.contains NOTE_LABEL

/-- `getInbox(body)`, without labels and without a cursor: its messages -/
def getInbox (mailbox : Mailbox) (query : InboxQuery) : List Card :=
  (((mailbox.newestFirst query).take scanLimit).filter (fun card => !isNote card)).take query.limit

def isTaskRequest (card : Card) : Bool :=
  card.intent == text "task_request"

def selectTaskRequestCandidates (localeLe : Text → Text → Bool) (messages : List Card) (worker : Text)
    : List Card :=
  (messages.filter (fun card =>
      (card.recipientId == [] || card.recipientId == worker) && isTaskRequest card)).insertionSort
    (fun a b => localeLe a.createdAt b.createdAt)

inductive Pickup where
  | failed (error : Text)
  | idle
  | selected (card : Card)

/-- `runTaskRequestFromBody(body, env, deps)`, up to the message that it selects. -/
def runTaskRequest (platform : Platform) (mailbox : Mailbox) (body : PickupBody) : Pickup :=
  match readPickup platform body with
  | .error error => .failed error
  | .ok query =>
    match (selectTaskRequestCandidates platform.localeLe (getInbox mailbox query)
      query.recipientId).head? with
    | none => .idle
    | some card => .selected card

def noLater (a b : Card) : Bool :=
  if b.createdAt = a.createdAt then binaryLe a.deliveryId b.deliveryId
  else binaryLe a.createdAt b.createdAt

structure IsOldest (pending : List Card) (card : Card) : Prop where
  member : card ∈ pending
  request : isTaskRequest card = true
  oldest : ∀ other ∈ pending, isTaskRequest other = true → noLater card other = true

/-- A worker is idle only if there is no request, and what it picks up is the oldest one. -/
def FirstInFirstOut (pending : List Card) : Pickup → Prop
  | .failed _ => False
  | .idle => ∀ card ∈ pending, isTaskRequest card = false
  | .selected card => IsOldest pending card

def later (pending : List Card) (card : Card) : List Card :=
  pending.filter (fun other => !noLater other card)

/-- The oldest request is no note, there are few enough later messages, and none of them that is a request compares as no
later than it.
-/
def OldestIsSeen (localeLe : Text → Text → Bool) (pending : List Card) (limit : Nat) : Prop :=
  ∀ card, IsOldest pending card →
    isNote card = false ∧ (later pending card).length < scanLimit
    ∧ ((later pending card).filter (fun other => !isNote other)).length < limit
    ∧ ∀ other ∈ later pending card, isTaskRequest other = true → isNote other = false
      → localeLe other.createdAt card.createdAt = false

def moment (card : Card) : Lex (List Nat × List Nat) :=
  toLex (codePoints card.createdAt, codePoints card.deliveryId)

theorem codePoints_injective : Function.Injective codePoints :=
  Function.LeftInverse.injective flatMap_codePoints

theorem noLater_iff {a b : Card} : noLater a b = true ↔ moment a ≤ moment b := by
  unfold noLater moment
  rw [Prod.Lex.toLex_le_toLex]
  split
  case isTrue same => simp [same, binaryLe]
  case isFalse other =>
    have apart : codePoints a.createdAt ≠ codePoints b.createdAt :=
      fun same => other (codePoints_injective same).symm
    simp only [binaryLe, decide_eq_true_eq, apart, false_and, or_false]
    exact ⟨fun le => lt_of_le_of_ne le apart, le_of_lt⟩

theorem id_eq_of_noLater {a b : Card} (first : noLater a b = true) (second : noLater b a = true)
    : a.deliveryId = b.deliveryId := by
  have same := le_antisymm (noLater_iff.mp first) (noLater_iff.mp second)
  exact codePoints_injective (Prod.mk.inj (toLex.injective same)).2

section Selection

variable {mailbox : Mailbox} {query : InboxQuery}

theorem newestFirst_sorted
    : (mailbox.newestFirst query).Pairwise (fun a b => noLater b a = true) := by
  let order (a b : DeliveryRow × MessageStone) : Prop := latestFirst a b = true
  have moments (a b : DeliveryRow × MessageStone)
      : order a b ↔ moment (inboxCard b.1 b.2) ≤ moment (inboxCard a.1 a.2) :=
    noLater_iff (a := inboxCard b.1 b.2) (b := inboxCard a.1 a.2)
  have total : Std.Total order := by
    refine ⟨fun a b => ?_⟩
    rw [moments, moments]
    exact le_total _ _
  have transitive : IsTrans _ order := by
    refine ⟨fun a b c first second => ?_⟩
    rw [moments] at first second ⊢
    exact le_trans second first
  exact pairwise_map.mpr (pairwise_insertionSort order _)

theorem newestFirst_keyed : Keyed Card.deliveryId (mailbox.newestFirst query) := by
  have own (row : DeliveryRow) (id : Text)
      (joined : (joinStone mailbox.stones row).map (·.1.id) = some id)
      : id = row.id := by
    obtain ⟨found, hit, rfl⟩ := map_eq_some_iff.mp joined
    obtain ⟨stone, -, rfl⟩ := map_eq_some_iff.mp hit
    rfl
  have within := filterMap_sublist_map own (mailbox.deliveries.filter query.admits)
  have keyed := within.nodup (mailbox.keyed.sublist filter_sublist)
  rw [← map_filterMap] at keyed
  have sorted := (perm_insertionSort (fun a b => latestFirst a b = true)
    ((mailbox.deliveries.filter query.admits).filterMap (joinStone mailbox.stones))).map (·.1.id)
  unfold Keyed Mailbox.newestFirst
  rw [List.map_map]
  exact sorted.nodup_iff.mpr keyed

theorem newestFirst_recipient {card : Card} (mem : card ∈ mailbox.newestFirst query)
    : card.recipientId = query.recipientId := by
  obtain ⟨found, sorted, rfl⟩ := List.mem_map.mp mem
  obtain ⟨row, selected, joined⟩ := mem_filterMap.mp ((mem_insertionSort _).mp sorted)
  obtain ⟨stone, -, rfl⟩ := map_eq_some_iff.mp joined
  have fits := (mem_filter.mp selected).2
  simp only [InboxQuery.admits, Bool.and_eq_true, beq_iff_eq] at fits
  exact fits.1.1.1

theorem selectTaskRequestCandidates_getInbox (localeLe : Text → Text → Bool)
    : selectTaskRequestCandidates localeLe (getInbox mailbox query) query.recipientId
      = ((getInbox mailbox query).filter isTaskRequest).insertionSort
          (fun a b => localeLe a.createdAt b.createdAt) := by
  unfold selectTaskRequestCandidates
  congr 1
  refine filter_congr (fun card mem => ?_)
  have listed := mem_of_mem_take (mem_filter.mp (mem_of_mem_take mem)).1
  rw [newestFirst_recipient listed, beq_self_eq_true, Bool.or_true, Bool.true_and]

variable {card : Card}

theorem IsOldest.unique {other : Card} (oldest : IsOldest (mailbox.newestFirst query) card)
    (oldest' : IsOldest (mailbox.newestFirst query) other)
    : card = other := by
  have first := oldest.oldest other oldest'.member oldest'.request
  have second := oldest'.oldest card oldest.member oldest.request
  exact newestFirst_keyed.eq_of_key oldest.member oldest'.member (id_eq_of_noLater first second)

theorem exists_isOldest (pending : ∃ card ∈ mailbox.newestFirst query, isTaskRequest card = true)
    : ∃ card, IsOldest (mailbox.newestFirst query) card := by
  obtain ⟨some, listed, request⟩ := pending
  have nonempty : (mailbox.newestFirst query).filter isTaskRequest ≠ [] :=
    ne_nil_of_mem (mem_filter.mpr ⟨listed, request⟩)
  have last := mem_filter.mp (getLast_mem nonempty)
  refine ⟨_, last.1, last.2, fun other mem request => ?_⟩
  have sorted := newestFirst_sorted.sublist (filter_sublist (p := isTaskRequest)
    (l := mailbox.newestFirst query))
  have among := mem_filter.mpr ⟨mem, request⟩
  rw [← dropLast_append_getLast nonempty] at sorted among
  rcases mem_append.mp among with before | same
  · exact (pairwise_append.mp sorted).2.2 other before _ (.head _)
  · rw [mem_singleton.mp same]
    exact noLater_iff.mpr le_rfl

/-- What is selected is the oldest request exactly if it is seen. Witness: the messages are split at it; behind it there is no
request, and before it stand the later messages.
-/
theorem selects_iff (localeLe : Text → Text → Bool)
    (oldest : IsOldest (mailbox.newestFirst query) card)
    : (selectTaskRequestCandidates localeLe (getInbox mailbox query) query.recipientId).head?
        = some card
      ↔ isNote card = false ∧ (later (mailbox.newestFirst query) card).length < scanLimit
        ∧ ((later (mailbox.newestFirst query) card).filter (fun other => !isNote other)).length
          < query.limit
        ∧ ∀ other ∈ later (mailbox.newestFirst query) card,
            isTaskRequest other = true → isNote other = false
            → localeLe other.createdAt card.createdAt = false := by
  rw [selectTaskRequestCandidates_getInbox]
  obtain ⟨front, back, split⟩ := append_of_mem oldest.member
  have sorted : (front ++ card :: back).Pairwise (fun a b => noLater b a = true) :=
    split ▸ newestFirst_sorted
  have keyed : Keyed Card.deliveryId (front ++ card :: back) := split ▸ newestFirst_keyed
  obtain ⟨-, fromCard, across⟩ := pairwise_append.mp sorted
  have behind := (pairwise_cons.mp fromCard).1
  have unseen : card ∉ front := by
    intro early
    exact (nodup_append.mp keyed.of_map).2.2 card early card (.head _) rfl
  have before (other : Card) (early : other ∈ front) : noLater other card = false := by
    by_contra late
    have same := id_eq_of_noLater (eq_true_of_ne_false late) (across other early card (.head _))
    have equal := keyed.eq_of_key (mem_append_left _ early)
      (mem_append_right _ (.head _)) same
    exact unseen (equal ▸ early)
  have laterOnes : later (mailbox.newestFirst query) card = front := by
    unfold later
    rw [split, filter_append, filter_cons, noLater_iff.mpr le_rfl,
      filter_eq_self.mpr (fun other early => by rw [before other early]; rfl),
      filter_eq_nil_iff.mpr (fun other late => by rw [behind other late]; simp)]
    exact append_nil front
  have quiet (other : Card) (late : other ∈ back) : isTaskRequest other = false := by
    by_contra request
    have listed : other ∈ mailbox.newestFirst query :=
      split ▸ mem_append_right _ (.tail _ late)
    have same := id_eq_of_noLater (oldest.oldest other listed (eq_true_of_ne_false request))
      (behind other late)
    have equal := newestFirst_keyed.eq_of_key oldest.member listed same
    have twice := (nodup_cons.mp (nodup_append.mp keyed.of_map).2.1).1
    exact twice (equal ▸ late)
  rw [laterOnes]
  have kept : card ∉ front.filter (fun other => !isNote other) :=
    fun early => unseen (mem_filter.mp early).1
  have window (scanned : front.length < scanLimit) (plain : isNote card = false)
      : getInbox mailbox query
        = (front.filter (fun other => !isNote other)
            ++ card :: (back.take (scanLimit - front.length - 1)).filter (fun other => !isNote other)).take
          query.limit := by
    rw [getInbox, split, take_append_cons scanned, filter_append,
      filter_cons_of_pos (by rw [plain]; rfl)]
  have reached
      : card ∈ getInbox mailbox query
        ↔ isNote card = false ∧ front.length < scanLimit
          ∧ (front.filter (fun other => !isNote other)).length < query.limit := by
    constructor
    · intro shown
      obtain ⟨scanned, plain⟩ := mem_filter.mp (mem_of_mem_take shown)
      rw [split, mem_take_append_cons unseen] at scanned
      have plain : isNote card = false := by simpa using plain
      rw [window scanned plain, mem_take_append_cons kept] at shown
      exact ⟨plain, scanned, shown⟩
    · rintro ⟨plain, scanned, few⟩
      rw [window scanned plain]
      exact (mem_take_append_cons kept).mpr few
  by_cases shown : card ∈ getInbox mailbox query
  · obtain ⟨plain, scanned, few⟩ := reached.mp shown
    have none : ((back.take (scanLimit - front.length - 1)).filter (fun other => !isNote other)
        |>.take (query.limit - (front.filter (fun other => !isNote other)).length - 1)
        |>.filter isTaskRequest) = [] := by
      refine filter_eq_nil_iff.mpr (fun other mem => ?_)
      have late := mem_of_mem_take (mem_filter.mp (mem_of_mem_take mem)).1
      rw [quiet other late]
      exact Bool.false_ne_true
    rw [window scanned plain, take_append_cons few, filter_append,
      filter_cons_of_pos oldest.request, none,
      head_insertionSort_append_singleton (fun early => kept (mem_filter.mp early).1)]
    constructor
    · intro behind
      refine ⟨plain, scanned, few, fun other early request plain => ?_⟩
      have among : other ∈ front.filter (fun other => !isNote other) :=
        mem_filter.mpr ⟨early, by rw [plain]; rfl⟩
      exact eq_false_of_ne_true (behind other (mem_filter.mpr ⟨among, request⟩))
    · rintro ⟨-, -, -, behind⟩ other mem
      obtain ⟨among, request⟩ := mem_filter.mp mem
      obtain ⟨early, plain⟩ := mem_filter.mp among
      rw [behind other early request (by simpa using plain)]
      exact Bool.false_ne_true
  · refine iff_of_false (fun selected => shown ?_) (fun seen => shown (reached.mpr ?_))
    · exact (mem_filter.mp ((mem_insertionSort _).mp (mem_of_mem_head? selected))).1
    · exact ⟨seen.1, seen.2.1, seen.2.2.1⟩

end Selection

/-- For every body that is not refused, the worker picks up the oldest request, and is idle without one, exactly if the oldest
request is seen.
-/
theorem runTaskRequest_firstInFirstOut_iff (platform : Platform) (mailbox : Mailbox)
    (body : PickupBody)
    : (∀ query, readPickup platform body = .ok query
        → FirstInFirstOut (mailbox.newestFirst query) (runTaskRequest platform mailbox body))
      ↔ ∀ query, readPickup platform body = .ok query
        → OldestIsSeen platform.localeLe (mailbox.newestFirst query) query.limit := by
  refine forall_congr' (fun query => forall_congr' (fun read => ?_))
  unfold runTaskRequest
  rw [read]
  dsimp only
  by_cases pending : ∃ card ∈ mailbox.newestFirst query, isTaskRequest card = true
  · obtain ⟨card, oldest⟩ := exists_isOldest pending
    have seen
        : OldestIsSeen platform.localeLe (mailbox.newestFirst query) query.limit
          ↔ (selectTaskRequestCandidates platform.localeLe (getInbox mailbox query)
              query.recipientId).head? = some card := by
      rw [selects_iff platform.localeLe oldest]
      constructor
      · intro seen
        exact seen card oldest
      · intro here other oldest'
        exact oldest.unique oldest' ▸ here
    rw [seen]
    cases (selectTaskRequestCandidates platform.localeLe (getInbox mailbox query)
      query.recipientId).head? with
    | none =>
      refine iff_of_false (fun idle => ?_) (some_ne_none card).symm
      exact absurd oldest.request (ne_true_of_eq_false (idle card oldest.member))
    | some other =>
      constructor
      · intro oldest'
        exact congrArg some (oldest'.unique oldest)
      · intro same
        exact some.inj same ▸ oldest
  · have quiet (card : Card) (listed : card ∈ mailbox.newestFirst query)
        : isTaskRequest card = false :=
      eq_false_of_ne_true (fun request => pending ⟨card, listed, request⟩)
    refine iff_of_true ?_ (fun card oldest => absurd ⟨card, oldest.member, oldest.request⟩ pending)
    cases chosen : (selectTaskRequestCandidates platform.localeLe (getInbox mailbox query)
      query.recipientId).head? with
    | none => exact quiet
    | some card =>
      rw [selectTaskRequestCandidates_getInbox] at chosen
      have listed := mem_filter.mp ((mem_insertionSort _).mp (mem_of_mem_head? chosen))
      have scanned := (mem_filter.mp (mem_of_mem_take listed.1)).1
      exact absurd listed.2 (ne_true_of_eq_false (quiet card (mem_of_mem_take scanned)))

namespace Sample

def pickupPlatform : Platform where
  toNumber
    | .number n => n
    | _ => .nan
  localeLe a b := a ≤ b
  parsesAsDate _ := true
  verifyMailboxCapability _ _ := .ok ()

def deliveryOf (id stone createdAt : String) : DeliveryRow where
  id := text id
  stoneHash := text stone
  messageId := text id
  messageFingerprint := []
  recipientId := text "agent:worker"
  senderId := text "user:ann"
  threadId := text "thread"
  status := .delivered
  createdAt := text createdAt
  deliveredAt := none
  readAt := none

def stoneOf (hash intent : String) : MessageStone where
  hash := text hash
  subject := none
  intent := text intent
  priority := []
  labels := []
  scope := .null
  senderPlane := []
  recipientPlanes := []
  lod5 := []

def twoDeliveries : List DeliveryRow :=
  [deliveryOf "a" "request" "2026-01-01T00:00:00.000Z", deliveryOf "b" "chat" "2026-01-02T00:00:00.000Z"]

theorem twoDeliveries_keyed : Keyed DeliveryRow.id twoDeliveries := by
  unfold Keyed
  decide +kernel

/-- A task request, and a later message that is none. -/
def busyMailbox : Mailbox where
  deliveries := twoDeliveries
  stones := [stoneOf "request" "task_request", stoneOf "chat" "message"]
  keyed := twoDeliveries_keyed

theorem one_small : 1 < 2 ^ 53 := by
  decide

/-- The body of a worker that looks at one message. -/
def pickupBody : PickupBody where
  workerActorId := .string (text "agent:worker")
  route := .literal [(text "provider", .string (text "p")), (text "model", .string (text "m"))]
  mailboxCapability := .undefined
  threadId := .undefined
  since := .undefined
  limit := .number (.ofNat 1 one_small)
  status := .undefined

def pickupQuery : InboxQuery where
  recipientId := text "agent:worker"
  status := .delivered
  threadId := none
  since := none
  limit := 1

end Sample

open Sample

/-- A worker that looks at one message is idle, though there is a request: a later message is no request. -/
theorem idle_with_request_pending
    : readPickup Sample.pickupPlatform Sample.pickupBody = .ok Sample.pickupQuery
      ∧ ¬FirstInFirstOut (Sample.busyMailbox.newestFirst Sample.pickupQuery)
          (runTaskRequest Sample.pickupPlatform Sample.busyMailbox Sample.pickupBody) := by
  have read : readPickup pickupPlatform pickupBody = .ok pickupQuery := by
    decide +kernel
  have none
      : (selectTaskRequestCandidates pickupPlatform.localeLe
          (getInbox busyMailbox pickupQuery) pickupQuery.recipientId).isEmpty
        = true := by
    decide +kernel
  have waits
      : (busyMailbox.newestFirst pickupQuery).any isTaskRequest = true := by
    decide +kernel
  refine ⟨read, fun fifo => ?_⟩
  unfold runTaskRequest at fifo
  rw [read] at fifo
  dsimp only at fifo
  rw [List.isEmpty_iff.mp none] at fifo
  obtain ⟨card, listed, request⟩ := List.any_eq_true.mp waits
  exact absurd request (ne_true_of_eq_false (fifo card listed))

end CairnStone.Correspondence
