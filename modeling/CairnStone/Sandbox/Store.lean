import CairnStone.CodeSession.SessionPromises

/-! The shared state of sandboxes: environment manifests, sandbox attachments and execution receipts
beside the code sessions, and the statements on it.
-/

namespace CairnStone.Sandbox

open JavaScript Data Concurrency
open CodeSession (SessionRow)
open Conversation (markedId)

inductive ExecutionClass where
  | none
  | localBuildTest
  | localInstallBuildTest
  deriving DecidableEq

def ExecutionClass.text : ExecutionClass → Text
  | .none => JavaScript.text "none"
  | .localBuildTest => JavaScript.text "local_build_test"
  | .localInstallBuildTest => JavaScript.text "local_install_build_test"

inductive CommandClass where
  | install
  | build
  | test
  | lint
  | otherLocal
  deriving DecidableEq

def CommandClass.text : CommandClass → Text
  | .install => JavaScript.text "install"
  | .build => JavaScript.text "build"
  | .test => JavaScript.text "test"
  | .lint => JavaScript.text "lint"
  | .otherLocal => JavaScript.text "other_local"

def COMMAND_CLASSES : List CommandClass :=
  [.install, .build, .test, .lint, .otherLocal]

def ALLOWED_COMMANDS_BY_EXECUTION_CLASS : ExecutionClass → List CommandClass
  | .none => []
  | .localBuildTest => [.build, .test, .lint, .otherLocal]
  | .localInstallBuildTest => [.install, .build, .test, .lint, .otherLocal]

def commandClassAllowedForExecutionClass (sandboxExecutionClass : ExecutionClass)
    (commandClass : CommandClass)
    : Bool :=
  (ALLOWED_COMMANDS_BY_EXECUTION_CLASS sandboxExecutionClass).contains commandClass

inductive ReceiptStatus where
  | pass
  | fail
  | error
  | timeout
  | cancelled
  deriving DecidableEq

def ReceiptStatus.text : ReceiptStatus → Text
  | .pass => JavaScript.text "pass"
  | .fail => JavaScript.text "fail"
  | .error => JavaScript.text "error"
  | .timeout => JavaScript.text "timeout"
  | .cancelled => JavaScript.text "cancelled"

def EXECUTION_RECEIPT_STATUSES : List ReceiptStatus :=
  [.pass, .fail, .error, .timeout, .cancelled]

structure ManifestRow where
  (environmentManifestId workspaceId : Text)
  sandboxExecutionClass : ExecutionClass

structure AttachmentRow where
  (attachmentId codeSessionId environmentManifestId : Text)

/-- A row of `code_session_execution_receipts`. A JSON column holds what is read back from it. -/
structure ReceiptRow where
  (receiptId codeSessionId workspaceId : Text)
  (environmentManifestId sandboxAttachmentId : Option Text)
  actorId : Text
  commandClass : CommandClass
  commandSummary : Text
  status : ReceiptStatus
  (exitCode durationMs : Option Number)
  tipVectorDigest : Option Text
  artifactRefs : List Value
  logRef : Option Text
  payload : Value
  (payloadDigest createdAt : Text)

def environmentManifestId (value : Value) : Except Text Text :=
  markedId "envmanifest:" "environment manifest" value "environment_manifest_id"

def sandboxAttachmentId (value : Value) : Except Text Text :=
  markedId "sandbox:" "sandbox attachment" value "attachment_id"

def executionReceiptId (value : Value) : Except Text Text :=
  markedId "execrcpt:" "execution receipt" value "receipt_id"

/-- The tables, beside those of the code sessions. -/
structure Database where
  code : CodeSession.Database
  manifests : List ManifestRow
  attachments : List AttachmentRow
  receipts : List ReceiptRow

inductive Command where
  | session (cmd : CodeSession.Command)
  | insertReceipt (row : ReceiptRow)
  | recordRefs (id : Text) (refs : List Value) (now : Text)
  | swapRefs (id : Text) (base : Nat) (refs : List Value) (now : Text)

/-- `INSERT INTO code_session_execution_receipts`: whether the id was free. -/
def insertReceipt (receipts : List ReceiptRow) (row : ReceiptRow) : Bool × List ReceiptRow :=
  match receipts.find? (·.receiptId == row.receiptId) with
  | none => (true, receipts ++ [row])
  | some _ => (false, receipts)

/-- `WHERE code_session_id = ?` -/
def isSession (id : Text) (row : SessionRow) : Bool :=
  row.codeSessionId == id

/-- `UPDATE code_sessions SET … WHERE …`: whether a row matched. -/
def Database.updateSessions (db : Database) (p : SessionRow → Bool) (f : SessionRow → SessionRow)
    : Bool × Database :=
  (db.code.sessions.any p,
    { db with code := { db.code with sessions := updateWhere p f db.code.sessions } })

/-- `SET latest_execution_receipt_refs_json = ?, updated_at = ?` -/
def withRefs (refs : List Value) (now : Text) (row : SessionRow) : SessionRow :=
  { row with latestExecutionReceiptRefs := refs, updatedAt := now }

def exec : Command → Database → Bool × Database
  | .session cmd, db =>
    ((CodeSession.exec cmd db.code).1,
      { db with code := (CodeSession.exec cmd db.code).2 })
  | .insertReceipt row, db =>
    ((insertReceipt db.receipts row).1,
      { db with receipts := (insertReceipt db.receipts row).2 })
  | .recordRefs id refs now, db => db.updateSessions (isSession id) (withRefs refs now)
  | .swapRefs id base refs now, db =>
    db.updateSessions (CodeSession.matchesRevision id base)
      (fun row => { withRefs refs now row with sessionRevision := base + 1 })

/-- Every statement answers whether it has changed a row. -/
@[reducible] def store : Machine where
  State := Database
  Command := Command
  Reply := fun _ => Bool
  exec := exec
  Event := Empty
  disturb := fun event => nomatch event

def sessionPart : Embedding CodeSession.store store where
  view db := db.code
  command := .session
  reply := fun _ answer => answer
  replies := fun _ _ => rfl
  views := fun _ _ => rfl

/-- A call of one of the operations. An exception carries its message. -/
abbrev Operation (α : Type) := Program store Text α

def select {α : Type} (f : Database → α) : Operation α :=
  Program.select (M := store) f

def perform (cmd : Command) : Operation Bool :=
  Program.perform (M := store) cmd

/-- The session, as it is now. -/
def sessionOf (id : Text) (db : Database) : Option SessionRow :=
  CodeSession.sessionOf id db.code

def getCodeSession (id : Text) : Operation (Option SessionRow) :=
  select (sessionOf id)

def findManifest (manifests : List ManifestRow) (id : Text) : Option ManifestRow :=
  manifests.find? (·.environmentManifestId == id)

def findAttachment (attachments : List AttachmentRow) (id : Text) : Option AttachmentRow :=
  attachments.find? (·.attachmentId == id)

def findReceipt (receipts : List ReceiptRow) (id : Text) : Option ReceiptRow :=
  receipts.find? (·.receiptId == id)

/-- What `getEnvironmentManifest(db, id)` finds: no row for what is no id of a manifest. -/
def manifestOf (id : Text) (db : Database) : Option ManifestRow :=
  (environmentManifestId (.string id)).toOption.bind (findManifest db.manifests)

end CairnStone.Sandbox
