import CairnStone.Data.SqlText
import CairnStone.TaskRuns.Refs

/-! Mailboxes: deliveries with the message stones that they carry, as inbox cards, and the threads that
a recipient's cards make up.
-/

namespace CairnStone.Correspondence

open JavaScript Data List
open TaskRuns (lowerAscii)

inductive DeliveryStatus where
  | queued
  | delivered
  | read
  | acked
  | archived
  deriving DecidableEq

structure DeliveryRow where
  (id stoneHash messageId messageFingerprint recipientId senderId threadId : Text)
  status : DeliveryStatus
  createdAt : Text
  (deliveredAt readAt : Option Text)
  deriving DecidableEq

structure MessageStone where
  hash : Text
  subject : Option Text
  (intent priority : Text)
  labels : List Text
  scope : Value
  senderPlane : Text
  recipientPlanes : List (Text × Text)
  lod5 : Text

def NOTE_LABEL : Text := text "actor-local-note"

/-- A word unit, or one of `.`, `:`, `@` and `/` -/
def isMailboxUnit (u : CodeUnit) : Bool :=
  isWord u || u == 0x2E || u == 0x3A || u == 0x40 || u == 0x2F

/-- The pattern of actor ids: a realm of word units that starts with a letter, a colon, and a name that
starts with a letter or a digit.
-/
def isMailboxId (s : Text) : Bool :=
  let (realm, rest) := s.span (· != 0x3A)
  match realm, rest with
  | first :: realm, _ :: start :: name =>
    (isUpper first || isLower first) && realm.all isWord
    && (isUpper start || isLower start || isDigit start) && name.all isMailboxUnit
  | _, _ => false

/-- `opaqueId(value, name)`, with the message that it throws -/
def opaqueId (value : Value) (name : String) : Except Text Text :=
  match value.string? with
  | none => .error (text "Missing required string: " ++ text name)
  | some s =>
    let id := trim s
    if id = [] then .error (text "Missing required string: " ++ text name)
    else if 240 < id.length || id.any (fun u => u.val < 0x20 || u == 0x7F) then
      .error (text "Invalid identifier: " ++ text name)
    else .ok id

def actorId (value : Value) (name : String) : Except Text Text :=
  match opaqueId value name with
  | .error message => .error message
  | .ok id =>
    if isMailboxId id then .ok id else .error (text "Invalid actor id: " ++ text name)

def classifyMailboxPlane (actor : Text) : Text :=
  let value := lowerAscii (trim actor)
  if (text ":chat").isSuffixOf value then text "chat"
  else if (text ":cairnstone-v6").isSuffixOf value then text "work"
  else text "custom"

structure Card where
  (deliveryId messageId stoneHash senderId recipientId threadId : Text)
  status : DeliveryStatus
  subject : Option Text
  (intent priority : Text)
  labels : List Text
  scope : Value
  (senderPlane recipientPlane lod5 createdAt : Text)
  (deliveredAt readAt : Option Text)

/-- `text || fallback` -/
def orText (s fallback : Text) : Text :=
  if s = [] then fallback else s

def inboxCard (row : DeliveryRow) (stone : MessageStone) : Card where
  deliveryId := row.id
  messageId := row.messageId
  stoneHash := row.stoneHash
  senderId := row.senderId
  recipientId := row.recipientId
  threadId := row.threadId
  status := row.status
  subject := stone.subject
  intent := orText stone.intent (text "message")
  priority := orText stone.priority (text "normal")
  labels := stone.labels
  scope := stone.scope
  senderPlane := orText stone.senderPlane (classifyMailboxPlane row.senderId)
  recipientPlane :=
    orText (((stone.recipientPlanes.find? (·.1 == row.recipientId)).map (·.2)).getD [])
      (classifyMailboxPlane row.recipientId)
  lod5 := stone.lod5
  createdAt := row.createdAt
  deliveredAt := row.deliveredAt
  readAt := row.readAt

def joinStone (stones : List MessageStone) (row : DeliveryRow) : Option (DeliveryRow × MessageStone) :=
  (stones.find? (·.hash == row.stoneHash)).map (fun stone => (row, stone))

/-- `ORDER BY created_at DESC, id DESC` -/
def latestFirst (a b : DeliveryRow × MessageStone) : Bool :=
  if a.1.createdAt = b.1.createdAt then binaryLe b.1.id a.1.id
  else binaryLe b.1.createdAt a.1.createdAt

/-- `store.listInbox(recipientId, { limit: 200 })` -/
def listInbox (deliveries : List DeliveryRow) (stones : List MessageStone) (recipientId : Text)
    : List (DeliveryRow × MessageStone) :=
  (((deliveries.filter (·.recipientId == recipientId)).filterMap (joinStone stones)).insertionSort
    (fun a b => latestFirst a b)).take 200

structure LatestMessage where
  (messageId stoneHash senderId : Text)
  subject : Option Text
  (intent priority lod5 : Text)

structure ThreadSummary where
  (threadId recipientId : Text)
  (participants planes labels : List Text)
  (messageCount unreadCount openTaskCount : Nat)
  latestAt : Option Text
  latestMessage : Option LatestMessage
  scopeHints : List Value

/-- `[...new Set(texts)].sort()` -/
def sortedSet (texts : List Text) : List Text :=
  texts.eraseDups.insertionSort (fun a b => a ≤ b)

def scopeHints (cards : List Card) : List Value :=
  let scopes := (cards.map (·.scope)).filter Value.truthy
  scopes.foldl
    (fun hints scope =>
      if hints.any (fun hint => stableJson hint == stableJson scope) then hints
      else hints ++ [scope])
    []

/-- `buildThreadSummary(recipientId, threadId, cards)`, where `localeLe a b` is
`a.localeCompare(b) <= 0`
-/
def buildThreadSummary (localeLe : Text → Text → Bool) (recipientId threadId : Text)
    (cards : List Card)
    : ThreadSummary :=
  let ordered := cards.insertionSort (fun a b => localeLe a.createdAt b.createdAt)
  let latest := ordered.getLast?
  let requests := ordered.countP (·.intent == text "task_request")
  let results := ordered.countP (·.intent == text "task_result")
  { threadId
    recipientId
    participants :=
      sortedSet ((ordered.flatMap (fun card => [card.senderId, card.recipientId])).filter (· != []))
    planes :=
      sortedSet
        ((ordered.flatMap (fun card => [card.senderPlane, card.recipientPlane])).filter (· != []))
    labels := sortedSet (ordered.flatMap (·.labels))
    messageCount := ordered.length
    unreadCount := ordered.countP (fun card => card.status == .queued || card.status == .delivered)
    openTaskCount := requests - results
    latestAt := latest.map (·.createdAt)
    latestMessage :=
      latest.map (fun card =>
        { messageId := card.messageId
          stoneHash := card.stoneHash
          senderId := card.senderId
          subject := card.subject
          intent := card.intent
          priority := card.priority
          lod5 := card.lod5 })
    scopeHints := scopeHints ordered }

def inboxCards (deliveries : List DeliveryRow) (stones : List MessageStone) (recipientId : Text)
    : List Card :=
  ((listInbox deliveries stones recipientId).map (fun found => inboxCard found.1 found.2)).filter
    (fun card => !card.labels.contains NOTE_LABEL)

/-- `listThreads({ recipient_id, limit })`, with the message that it throws -/
def listThreads (localeLe : Text → Text → Bool) (deliveries : List DeliveryRow)
    (stones : List MessageStone) (recipientId : Value) (limit : Nat)
    : Except Text (List ThreadSummary) :=
  match actorId recipientId "recipient_id" with
  | .error message => .error message
  | .ok recipientId =>
    let cards := inboxCards deliveries stones recipientId
    let threads :=
      (cards.map (·.threadId)).eraseDups.map (fun threadId =>
        buildThreadSummary localeLe recipientId threadId
          (cards.filter (·.threadId == threadId)))
    .ok
      ((threads.insertionSort
          (fun a b => localeLe (b.latestAt.getD []) (a.latestAt.getD []))).take
        (max 1 (min 100 limit)))

variable {deliveries : List DeliveryRow} {stones : List MessageStone}

def SummaryOf (localeLe : Text → Text → Bool) (deliveries : List DeliveryRow) (recipientId : Text)
    (summary : ThreadSummary)
    : Prop :=
  ∃ cards : List Card, (∀ card ∈ cards, ∃ row ∈ deliveries, ∃ stone,
      row.recipientId = recipientId ∧ card = inboxCard row stone)
    ∧ summary = buildThreadSummary localeLe recipientId summary.threadId cards

theorem exists_of_mem_inboxCards {recipientId : Text} {card : Card}
    (mem : card ∈ inboxCards deliveries stones recipientId)
    : ∃ row ∈ deliveries, ∃ stone, row.recipientId = recipientId ∧ card = inboxCard row stone := by
  obtain ⟨⟨row, stone⟩, found, rfl⟩ := mem_map.mp (mem_filter.mp mem).1
  have joined := (mem_insertionSort _).mp (mem_of_mem_take found)
  obtain ⟨row', picked, hit⟩ := mem_filterMap.mp joined
  obtain ⟨stone', _, same⟩ := Option.map_eq_some_iff.mp hit
  obtain ⟨rfl, rfl⟩ := Prod.mk.inj same
  obtain ⟨here, addressed⟩ := mem_filter.mp picked
  exact ⟨row', here, stone', beq_iff_eq.mp addressed, rfl⟩

theorem summaryOf_of_listThreads {localeLe : Text → Text → Bool} {recipientId : Value} {limit : Nat}
    {threads : List ThreadSummary}
    (seen : listThreads localeLe deliveries stones recipientId limit = .ok threads)
    {summary : ThreadSummary} (mem : summary ∈ threads)
    : ∃ actor, actorId recipientId "recipient_id" = .ok actor
      ∧ SummaryOf localeLe deliveries actor summary := by
  unfold listThreads at seen
  split at seen
  · cases seen
  · rename_i actor valid
    refine ⟨actor, valid, ?_⟩
    simp only [] at seen
    cases seen
    have grouped := (mem_insertionSort _).mp (mem_of_mem_take mem)
    obtain ⟨threadId, _, rfl⟩ := mem_map.mp grouped
    refine ⟨_, fun card among => ?_, rfl⟩
    exact exists_of_mem_inboxCards (mem_filter.mp among).1

end CairnStone.Correspondence
