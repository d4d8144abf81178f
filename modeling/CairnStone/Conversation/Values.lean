import CairnStone.TaskRuns.Programs

/-! What callers hand to a conversation session, as it is stored: ids, lists of references, attached
objects, scopes and receipts, with the values under secret keys redacted.
-/

namespace CairnStone.Conversation

open JavaScript
open TaskRuns (Refusal refuse textList countValue nonEmptyString isMarkedName lowerAscii
  listOf actorId refuseThrown isGiven)

inductive Status where
  | active
  | paused
  | closed
  | superseded
  deriving DecidableEq

def Status.text : Status → Text
  | .active => JavaScript.text "active"
  | .paused => JavaScript.text "paused"
  | .closed => JavaScript.text "closed"
  | .superseded => JavaScript.text "superseded"

def CONVERSATION_SESSION_STATUSES : List Status :=
  [.active, .paused, .closed, .superseded]

inductive IntentMode where
  | read
  | compare
  | proposeAction
  deriving DecidableEq

def IntentMode.text : IntentMode → Text
  | .read => JavaScript.text "read"
  | .compare => JavaScript.text "compare"
  | .proposeAction => JavaScript.text "propose-action"

def CONVERSATION_INTENT_MODES : List IntentMode :=
  [.read, .compare, .proposeAction]

inductive Role where
  | user
  | assistant
  | system
  | tool
  | operational
  deriving DecidableEq

def Role.text : Role → Text
  | .user => JavaScript.text "user"
  | .assistant => JavaScript.text "assistant"
  | .system => JavaScript.text "system"
  | .tool => JavaScript.text "tool"
  | .operational => JavaScript.text "operational"

def CONVERSATION_TURN_ROLES : List Role :=
  [.user, .assistant, .system, .tool, .operational]

def named {α : Type} (names : List α) (spelling : α → Text) (value : Value) : Option α :=
  names.find? (fun name => value.strictEquals (.string (spelling name)))

/-- `STATUS_SET`, with the refusal of anything else -/
def readStatus (value : Value) : Except Refusal Status :=
  match named CONVERSATION_SESSION_STATUSES Status.text value with
  | some status => .ok status
  | none =>
    .error
      { error := text "invalid_conversation_session_status"
        details := [(text "allowed", textList (CONVERSATION_SESSION_STATUSES.map Status.text))] }

/-- `INTENT_SET`, with the refusal of anything else -/
def readIntentMode (value : Value) : Except Refusal IntentMode :=
  match named CONVERSATION_INTENT_MODES IntentMode.text value with
  | some mode => .ok mode
  | none =>
    .error
      { error := text "invalid_intent_mode"
        details := [(text "allowed", textList (CONVERSATION_INTENT_MODES.map IntentMode.text))] }

/-- `ROLE_SET`, with the refusal of anything else -/
def readRole (value : Value) : Except Refusal Role :=
  match named CONVERSATION_TURN_ROLES Role.text value with
  | some role => .ok role
  | none =>
    .error
      { error := text "invalid_turn_role"
        details := [(text "allowed", textList (CONVERSATION_TURN_ROLES.map Role.text))] }

def markedId (mark kind : String) (value : Value) (field : String) : Except Text Text :=
  match nonEmptyString value with
  | none => .error (text "Missing required string: " ++ text field)
  | some s =>
    if isMarkedName mark s then .ok s
    else .error (text "Invalid " ++ text kind ++ text " id for " ++ text field)

def conversationId (value : Value) : Except Text Text :=
  markedId "cvs:" "conversation" value "conversation_id"

def turnId (value : Value) : Except Text Text :=
  markedId "turn:" "turn" value "turn_id"

def messageId (value : Value) : Except Text Text :=
  markedId "cmsg:" "message" value "message_id"

/-- `Number.isInteger(value) && value >= 1`, as that integer -/
def revisionOf (value : Value) : Option Nat :=
  match value with
  | .number n =>
    match n.toInt? with
    | some revision => if 1 ≤ revision then some revision.toNat else none
    | none => none
  | _ => none

/-- The names that `SECRET_KEY_RE` matches without regard to case. -/
def secretKeys : List Text :=
  ["workspace_capability", "mailbox_capability", "capability", "apikey", "api_key", "api-key",
    "secret", "bearer", "token", "password", "credential", "privatekey", "private_key",
    "private-key", "authorization"].map text

def isSecretKey (key : Text) : Bool :=
  secretKeys.contains (lowerAscii key)

def REDACTED_SECRET : Value :=
  .string (text "[REDACTED]")

/-- An assignment to this member of an object literal sets no member. -/
def protoKey : Text :=
  text "__proto__"

/-- `scrubSecretsDeep(value, depth)` with `12 - depth` levels left -/
def scrubWithin : Nat → Value → Value
  | 0, value =>
    match value with
    | .array slots => .array (slots.map (Option.map (fun _ => REDACTED_SECRET)))
    | .object _ properties =>
      .literal ((properties.filter (·.1 != protoKey)).map (fun entry => (entry.1, REDACTED_SECRET)))
    | primitive => primitive
  | left + 1, value =>
    match value with
    | .array slots => .array (slots.map (Option.map (scrubWithin left)))
    | .object _ properties =>
      .literal ((properties.filter (·.1 != protoKey)).map (fun entry =>
        if isSecretKey entry.1 then (entry.1, REDACTED_SECRET)
        else (entry.1, scrubWithin left entry.2)))
    | primitive => primitive

def scrubSecretsDeep (value : Value) : Value :=
  scrubWithin 12 value

def MAX_MESSAGE_LOG : Nat := 500
def MAX_ATTACHMENT_SET : Nat := 100
def MAX_SELECTED_ACTORS : Nat := 64
def MAX_RESPONSE_IDS : Nat := 100
def MAX_TOOL_RECEIPTS : Nat := 200
def MAX_ACCESS_GRANT_IDS : Nat := 100
def MAX_TASK_RUN_IDS : Nat := 100
def MAX_OBJECT_REFS : Nat := 100
def MAX_CONTENT_PREVIEW : Nat := 512
def MAX_REF_LEN : Nat := 256

/-- A list that is longer than allowed. -/
def tooLarge (error : Text) (max : Nat) : Refusal where
  error := error
  details := [(text "max", countValue max)]

def normalizeOpaqueIdList (input : Value) (field : String) (max : Nat)
    : Except Refusal (List Text) :=
  let list := listOf input
  let normalize (item : Value) : Except Refusal Text :=
    match nonEmptyString item with
    | some entry => .ok (entry.take MAX_REF_LEN)
    | none => .error { error := text "invalid_" ++ text field ++ text "_entry", details := [] }
  if max < list.length then .error (tooLarge (text field ++ text "_too_large") max)
  else (list.mapM normalize).map List.eraseDups

/-- The actor that an entry of `selected_actors` names. -/
def selectedActor (item : Value) : Except Refusal Text :=
  let actor := if (nonEmptyString item).isSome then item else item.get (text "actor_id")
  if (nonEmptyString actor).isSome then
    refuseThrown "invalid_selected_actor" (actorId actor "selected_actors")
  else
    .error (refuse "invalid_selected_actor")

/-- `normalizeSelectedActors(input, createdBy)`, where `localeLe a b` is `a.localeCompare(b) <= 0` -/
def normalizeSelectedActors (localeLe : Text → Text → Bool) (input : Value) (createdBy : Text)
    : Except Refusal (List Text) :=
  let list := listOf input
  if MAX_SELECTED_ACTORS < list.length then
    .error (tooLarge (text "selected_actors_too_large") MAX_SELECTED_ACTORS)
  else
    (list.mapM selectedActor).map (fun actors =>
      let members := if actors.contains createdBy then actors else actors ++ [createdBy]
      (members.insertionSort (fun a b => localeLe a b)).eraseDups)

def shortText (max : Nat) (value : Value) : Option Text :=
  (nonEmptyString value).map (List.take max)

def isFalse : Value → Bool
  | .bool b => !b
  | _ => false

def isNullish : Value → Bool
  | .undefined => true
  | .null => true
  | _ => false

/-- One entry of `attachment_set`. -/
def normalizeAttachment (item : Value) : Except Refusal Value :=
  match nonEmptyString item with
  | some ref =>
    .ok (.literal
      [(text "object_ref", .string (ref.take MAX_REF_LEN)), (text "attachment_ref", .null),
        (text "kind", .null), (text "unresolved", .bool true),
        (text "accepted_state_authority", .bool false)])
  | none =>
    let objectRef :=
      (shortText MAX_REF_LEN (item.get (text "object_ref"))).or
        (shortText MAX_REF_LEN (item.get (text "ref")))
    let attachmentRef := shortText MAX_REF_LEN (item.get (text "attachment_ref"))
    let orientation := item.get (text "orientation")
    let grantsNoCapability := item.get (text "grants_no_capability")
    if !item.isObject then .error (refuse "invalid_attachment_set_entry")
    else if objectRef.isNone && attachmentRef.isNone then
      .error
        { error := text "invalid_attachment_set_entry"
          details := [(text "detail", .string (text "object_ref_or_attachment_ref_required"))] }
    else
      .ok (.literal
        ([(text "attachment_id", .ofOption (shortText 128 (item.get (text "attachment_id")))),
            (text "object_ref", .ofOption objectRef),
            (text "attachment_ref", .ofOption attachmentRef),
            (text "kind", .ofOption (shortText 64 (item.get (text "kind")))),
            (text "unresolved", .bool (!isFalse (item.get (text "unresolved")))),
            (text "accepted_state_authority", .bool false)]
          ++ ((shortText MAX_REF_LEN (item.get (text "canonical_ref"))).map (fun ref =>
                (text "canonical_ref", Value.string ref))).toList
          ++ (if isNullish orientation then []
              else [(text "orientation", scrubSecretsDeep orientation)])
          ++ (match grantsNoCapability with
              | .undefined => []
              | given => [(text "grants_no_capability", .bool (!isFalse given))])))

def normalizeAttachmentSet (input : Value) : Except Refusal (List Value) :=
  let list := listOf input
  if MAX_ATTACHMENT_SET < list.length then
    .error (tooLarge (text "attachment_set_too_large") MAX_ATTACHMENT_SET)
  else list.mapM normalizeAttachment

/-- A redacted object with further members, or `null` where nothing is given. -/
def closedObject (error : String) (members : List (Text × Value)) (input : Value)
    : Except Refusal Value :=
  if !isGiven input then .ok .null
  else if input.isObject then
    .ok (.literal (members.foldl (fun own entry => Value.setProperty own entry.1 entry.2)
      (scrubSecretsDeep input).spread))
  else .error (refuse error)

def normalizeActiveScope (input : Value) : Except Refusal Value :=
  match input with
  | .string s =>
    if trim s = [] then .ok .null
    else
      .ok (.literal
        [(text "schema", .string (text "cairnstone-scope-v1")),
          (text "mode", .string (text "single_chain")),
          (text "chains", textList [trim s]),
          (text "accepted_state_authority", .bool false)])
  | _ => closedObject "invalid_active_scope" [(text "accepted_state_authority", .bool false)] input

def normalizeRoutingEnvelope (input : Value) : Except Refusal Value :=
  closedObject "invalid_routing_envelope"
    [(text "accepted_state_authority", .bool false), (text "creates_no_authority", .bool true)] input

/-- One entry of `tool_receipts`. -/
def normalizeToolReceipt (item : Value) : Except Refusal Value :=
  match nonEmptyString item with
  | some ref =>
    .ok (.literal
      [(text "ref", .string (ref.take MAX_REF_LEN)), (text "kind", .string (text "tool_receipt"))])
  | none =>
    let ref :=
      (shortText MAX_REF_LEN (item.get (text "ref"))).or
        (shortText MAX_REF_LEN (item.get (text "receipt_id")))
    match ref with
    | none => .error (refuse "invalid_tool_receipt")
    | some ref =>
      .ok (scrubSecretsDeep (.literal
        [(text "ref", .string ref),
          (text "kind",
            .string ((shortText 64 (item.get (text "kind"))).getD (text "tool_receipt"))),
          (text "status", .ofOption (shortText 64 (item.get (text "status")))),
          (text "tool_id", .ofOption (shortText 128 (item.get (text "tool_id"))))]))

def normalizeToolReceipts (input : Value) : Except Refusal (List Value) :=
  let list := listOf input
  if MAX_TOOL_RECEIPTS < list.length then
    .error (tooLarge (text "tool_receipts_too_large") MAX_TOOL_RECEIPTS)
  else list.mapM normalizeToolReceipt

/-- An id that refers to something else, `none` where nothing is given. -/
def optionalId (mark error : String) (value : Value) : Except Refusal (Option Text) :=
  if !isGiven value then .ok none
  else
    match nonEmptyString value with
    | some s => if isMarkedName mark s then .ok (some s) else .error (refuse error)
    | none => .error (refuse error)

end CairnStone.Conversation
