import CairnStone.Sandbox.Store

/-! Execution receipts: what a receipt records, and its creation, cut at every statement. -/

namespace CairnStone.Sandbox

open JavaScript Data Concurrency
open TaskRuns (Refusal refuse isGiven nonEmptyString countValue refuseThrown)
open Conversation (revisionOf shortText named)
open CodeSession (SessionRow Digest valueList sessionNotFound allowedTexts revisionConflict
  racedRevision normalizeReferences normalizeReceiptRefs isSecretText isSecretKey scrubSecretsDeep)

def MAX_RECEIPT_REFS : Nat := 100
def MAX_COMMAND_SUMMARY : Nat := 2000
def MAX_LOG_REF : Nat := 512

def secretsNotAbsent (path : Text) (detail : String) : Refusal where
  error := text "secrets_not_absent"
  details := [(text "path", .string path), (text "detail", .string (text detail))]

mutual

def assertSecretsAbsent (path : Text) : Value → Except Refusal Unit
  | .string s =>
    if s = text "[REDACTED]" then .error (secretsNotAbsent path "redacted_placeholder_present")
    else if isSecretText s then .error (secretsNotAbsent path "secret_like_string")
    else .ok ()
  | .array slots => assertSlots path 0 slots
  | .object _ properties => assertMembers path properties
  | _ => .ok ()

def assertSlots (path : Text) (index : Nat) : List (Option Value) → Except Refusal Unit
  | [] => .ok ()
  | none :: rest => assertSlots path (index + 1) rest
  | some value :: rest => do
    let _ ← assertSecretsAbsent (path ++ text "[" ++ (countValue index).toText ++ text "]") value
    assertSlots path (index + 1) rest

/-- The entries of an object. -/
def assertMembers (path : Text) : List (Text × Value) → Except Refusal Unit
  | [] => .ok ()
  | (key, value) :: rest =>
    if isSecretKey key then .error (secretsNotAbsent (path ++ text "." ++ key) "secret_key")
    else do
      let _ ← assertSecretsAbsent (path ++ text "." ++ key) value
      assertMembers path rest

end

/-- The args of `createExecutionReceipt`, with the time that is recorded. `exitCode` and
`durationMs` are the numbers of what is given, where something is.
-/
structure ReceiptArguments where
  (receiptId codeSessionId actorId commandClass commandSummary status : Value)
  (exitCode durationMs : Option Number)
  (tipVectorDigest artifactRefs logRef environmentManifestId sandboxAttachmentId : Value)
  (baseRevision detail : Value)
  now : Text

structure ReceiptTarget where
  (sessionId actor : Text)
  commandClass : CommandClass
  commandSummary : Text
  status : ReceiptStatus

def normalizeCommandClass (input : Value) : Except Refusal CommandClass :=
  match nonEmptyString input with
  | none => .error (refuse "invalid_command_class")
  | some s =>
    match named COMMAND_CLASSES CommandClass.text (.string s) with
    | none =>
      .error
        { error := text "invalid_command_class"
          details := allowedTexts (COMMAND_CLASSES.map CommandClass.text) }
    | some commandClass => .ok commandClass

def readReceipt (args : ReceiptArguments) : Except Refusal ReceiptTarget := do
  let sessionId ← refuseThrown "invalid_execution_receipt_create"
    (CodeSession.codeSessionId args.codeSessionId)
  let actor ← refuseThrown "invalid_execution_receipt_create"
    (TaskRuns.actorId args.actorId "actor_id")
  let commandClass ← normalizeCommandClass args.commandClass
  match nonEmptyString args.commandSummary with
  | none => .error (refuse "execution_receipt_command_summary_required")
  | some summary =>
    match named EXECUTION_RECEIPT_STATUSES ReceiptStatus.text args.status with
    | none =>
      .error
        { error := text "invalid_execution_receipt_status"
          details := allowedTexts (EXECUTION_RECEIPT_STATUSES.map ReceiptStatus.text) }
    | some status =>
      .ok
        { sessionId, actor, commandClass, commandSummary := summary.take MAX_COMMAND_SUMMARY, status }

def readManifestId (args : ReceiptArguments) (session : SessionRow)
    : Except Refusal (Option Text) :=
  match nonEmptyString args.environmentManifestId with
  | some _ =>
    (refuseThrown "invalid_environment_manifest_id"
      (environmentManifestId args.environmentManifestId)).map some
  | none => .ok (session.environmentManifestId.filter (fun id => trim id != []))

def readAttachmentId (args : ReceiptArguments) : Except Refusal (Option Text) :=
  match nonEmptyString args.sandboxAttachmentId with
  | some _ =>
    (refuseThrown "invalid_sandbox_attachment_id"
      (sandboxAttachmentId args.sandboxAttachmentId)).map some
  | none => .ok none

def readInteger (error : String) (allowed : Int → Bool) (value : Option Number)
    : Except Refusal (Option Number) :=
  match value with
  | none => .ok none
  | some n => if n.toInt?.any allowed then .ok (some n) else .error (refuse error)

def normalizeArtifactRefs (input : Value) : Except Refusal (List Value) :=
  normalizeReferences "execution_receipt_artifact_ref" "artifact" (fun _ => []) input

structure Environment where
  (manifestId attachmentId : Option Text)
  executionClass : ExecutionClass

def receiptBody (row : ReceiptRow) (detail : Value) (executionClass : ExecutionClass) : Value :=
  .literal
    [(text "schema", .string (text "cairnstone-execution-receipt-v1")),
      (text "code_session_id", .string row.codeSessionId),
      (text "workspace_id", .string row.workspaceId),
      (text "environment_manifest_id", .ofOption row.environmentManifestId),
      (text "sandbox_attachment_id", .ofOption row.sandboxAttachmentId),
      (text "actor_id", .string row.actorId),
      (text "command_class", .string row.commandClass.text),
      (text "command_summary", .string row.commandSummary),
      (text "status", .string row.status.text),
      (text "exit_code", (row.exitCode.map Value.number).getD .null),
      (text "duration_ms", (row.durationMs.map Value.number).getD .null),
      (text "tip_vector_digest", .ofOption row.tipVectorDigest),
      (text "artifact_refs", valueList row.artifactRefs),
      (text "log_ref", .ofOption row.logRef),
      (text "detail", scrubSecretsDeep (if detail.isObject then detail else .literal [])),
      (text "sandbox_execution_class", .string executionClass.text),
      (text "secrets_absent", .bool true),
      (text "production_mutation", .bool false),
      (text "accepted_state_authority", .bool false),
      (text "production_mutation_authority", .bool false),
      (text "sandbox_local_execution_only", .bool true)]

section

variable (sha256Text : Text → Digest)

def receiptIdOf (given : Value) (payloadDigest : Text) : Except Refusal Text :=
  match nonEmptyString given with
  | some _ => refuseThrown "invalid_execution_receipt_id" (executionReceiptId given)
  | none => .ok (text "execrcpt:" ++ payloadDigest.take 40)

def identifyReceipt (given : Value) (row : ReceiptRow) (payload : Value) : Except Refusal ReceiptRow := do
  let _ ← assertSecretsAbsent (text "$") payload
  let payloadDigest := (sha256Text (stableJson payload)).text
  let receiptId ← receiptIdOf given payloadDigest
  .ok { row with receiptId, payload, payloadDigest }

def buildReceipt (args : ReceiptArguments) (target : ReceiptTarget) (session : SessionRow)
    (environment : Environment)
    : Except Refusal ReceiptRow :=
  if !commandClassAllowedForExecutionClass environment.executionClass target.commandClass then
    .error
      { error := text "command_class_not_allowed_for_sandbox_execution_class"
        details :=
          [(text "sandbox_execution_class", .string environment.executionClass.text),
            (text "command_class", .string target.commandClass.text)]
          ++ allowedTexts
            ((ALLOWED_COMMANDS_BY_EXECUTION_CLASS environment.executionClass).map CommandClass.text) }
  else do
    let artifactRefs ← normalizeArtifactRefs args.artifactRefs
    let exitCode ← readInteger "invalid_execution_receipt_exit_code" (fun _ => true) args.exitCode
    let durationMs ← readInteger "invalid_execution_receipt_duration_ms" (0 ≤ ·) args.durationMs
    let row : ReceiptRow :=
      { receiptId := []
        codeSessionId := target.sessionId
        workspaceId := session.workspaceId
        environmentManifestId := environment.manifestId
        sandboxAttachmentId := environment.attachmentId
        actorId := target.actor
        commandClass := target.commandClass
        commandSummary := target.commandSummary
        status := target.status
        exitCode
        durationMs
        tipVectorDigest := shortText 128 args.tipVectorDigest
        artifactRefs
        logRef := shortText MAX_LOG_REF args.logRef
        payload := .null
        payloadDigest := []
        createdAt := args.now }
    identifyReceipt sha256Text args.receiptId row
      (scrubSecretsDeep (receiptBody row args.detail environment.executionClass))

def nextRef (row : ReceiptRow) : Value :=
  .literal
    [(text "ref", .string row.receiptId), (text "kind", .string row.commandClass.text),
      (text "status", .string row.status.text)]

def refsWith (row : ReceiptRow) (session : SessionRow) : Except Refusal (List Value) :=
  normalizeReceiptRefs
    (valueList ((nextRef row :: session.latestExecutionReceiptRefs).take MAX_RECEIPT_REFS))

/-- What `createExecutionReceipt` answers. -/
inductive ReceiptAnswer where
  | refused (refusal : Refusal)
  | recorded (record : Option ReceiptRow) (sessionRevision : Nat) (refs : List Value)

/-- `note: "receipt_persisted_session_refs_not_updated"` -/
def persistedNote : Text × Value :=
  (text "note", .string (text "receipt_persisted_session_refs_not_updated"))

def receiptConflict (row : ReceiptRow) (expected : Value) (base : Nat) : Refusal where
  error := text "code_session_conflict"
  details :=
    (revisionConflict row.codeSessionId expected base []).details
      ++ [(text "receipt_id", .string row.receiptId), persistedNote]

/-- The class of the manifest, or `none` where there is no manifest. -/
def executionClassOf (session : SessionRow) (manifestId : Option Text)
    : Operation (Except Refusal ExecutionClass) :=
  match manifestId with
  | none => return .ok .none
  | some id => do
    let manifest ← select (manifestOf id)
    match manifest with
    | none =>
      return .error
        { error := text "environment_manifest_not_found"
          details := [(text "environment_manifest_id", .string id)] }
    | some manifest =>
      if manifest.workspaceId ≠ session.workspaceId then
        return .error (refuse "environment_manifest_workspace_mismatch")
      else return .ok manifest.sandboxExecutionClass

def attachmentRefusal (error : String) (id : Text) : Refusal where
  error := text error
  details := [(text "attachment_id", .string id)]

def environmentOf (sessionId : Text) (manifestId attachmentId : Option Text)
    (executionClass : ExecutionClass)
    : Operation (Except Refusal Environment) :=
  match attachmentId with
  | none => return .ok { manifestId, attachmentId := none, executionClass }
  | some id => do
    let attachment ← select (fun db => findAttachment db.attachments id)
    match attachment with
    | none => return .error (attachmentRefusal "sandbox_attachment_not_found" id)
    | some attachment =>
      if attachment.codeSessionId ≠ sessionId then
        return .error (attachmentRefusal "sandbox_attachment_session_mismatch" id)
      else
        return .ok
          { manifestId := manifestId.or (some attachment.environmentManifestId)
            attachmentId := some id
            executionClass }

def finishReceipt (row : ReceiptRow) (session : SessionRow) (refs : List Value)
    : Operation ReceiptAnswer := do
  let record ← select (fun db => findReceipt db.receipts row.receiptId)
  let fresh ← getCodeSession row.codeSessionId
  return .recorded record ((fresh.map (·.sessionRevision)).getD session.sessionRevision)
    ((fresh.map (·.latestExecutionReceiptRefs)).getD refs)

def updateRefs (baseRevision : Value) (row : ReceiptRow) (session : SessionRow) (refs : List Value)
    : Operation ReceiptAnswer :=
  if !isGiven baseRevision then do
    let _ ← perform (.recordRefs row.codeSessionId refs row.createdAt)
    finishReceipt row session refs
  else
    match revisionOf baseRevision with
    | none => return .refused (refuse "code_session_base_revision_required")
    | some base =>
      if session.sessionRevision ≠ base then
        return .refused (receiptConflict row (countValue session.sessionRevision) base)
      else do
        let swapped ← perform (.swapRefs row.codeSessionId base refs row.createdAt)
        if swapped then finishReceipt row session refs
        else do
          let raced ← getCodeSession row.codeSessionId
          return .refused (receiptConflict row (racedRevision raced) base)

def recordReceipt (baseRevision : Value) (row : ReceiptRow) (session : SessionRow)
    : Operation ReceiptAnswer := do
  let inserted ← perform (.insertReceipt row)
  if inserted then
    match refsWith row session with
    | .error refusal => return .refused refusal
    | .ok refs => updateRefs baseRevision row session refs
  else
    return .refused
      { error := text "execution_receipt_already_exists"
        details := [(text "receipt_id", .string row.receiptId)] }

/-- The part of a creation after its ids have been read. -/
def receiptFrom (args : ReceiptArguments) (target : ReceiptTarget) (session : SessionRow)
    (manifestId attachmentId : Option Text)
    : Operation ReceiptAnswer := do
  let found ← executionClassOf session manifestId
  match found with
  | .error refusal => return .refused refusal
  | .ok executionClass => do
    let environment ← environmentOf target.sessionId manifestId attachmentId executionClass
    match environment with
    | .error refusal => return .refused refusal
    | .ok environment =>
      match buildReceipt sha256Text args target session environment with
      | .error refusal => return .refused refusal
      | .ok row => recordReceipt args.baseRevision row session

def createExecutionReceipt (args : ReceiptArguments) : Operation ReceiptAnswer :=
  match readReceipt args with
  | .error refusal => return .refused refusal
  | .ok target => do
    let current ← getCodeSession target.sessionId
    match current with
    | none => return .refused (sessionNotFound target.sessionId)
    | some session =>
      match readManifestId args session with
      | .error refusal => return .refused refusal
      | .ok manifestId =>
        match readAttachmentId args with
        | .error refusal => return .refused refusal
        | .ok attachmentId => receiptFrom sha256Text args target session manifestId attachmentId

end

end CairnStone.Sandbox
