import CairnStone.Concurrency.Program
import CairnStone.Data.Table
import CairnStone.JavaScript.Objects

/-! The lifecycle table of tool authorizations: its rows, the two kinds of statement that move a
row from one status to another, and what an entry point reads of a row.
-/

namespace CairnStone.ToolAuthorization

open JavaScript Data Concurrency

inductive Status where
  | pending
  | deciding
  | authorized
  | denied
  | expired
  | authorizationFailed
  | consuming
  | executed
  | guardFailed
  | executionFailed
  deriving DecidableEq

def Status.text : Status → Text
  | .pending => JavaScript.text "pending"
  | .deciding => JavaScript.text "deciding"
  | .authorized => JavaScript.text "authorized"
  | .denied => JavaScript.text "denied"
  | .expired => JavaScript.text "expired"
  | .authorizationFailed => JavaScript.text "authorization_failed"
  | .consuming => JavaScript.text "consuming"
  | .executed => JavaScript.text "executed"
  | .guardFailed => JavaScript.text "guard_failed"
  | .executionFailed => JavaScript.text "execution_failed"

inductive Decision where
  | approved
  | denied
  deriving DecidableEq

def Decision.text : Decision → Text
  | .approved => JavaScript.text "approved"
  | .denied => JavaScript.text "denied"

/-- A row of `tool_authorizations`. Instants are milliseconds; the guard columns, which nothing
reads back, are left out.
-/
structure Row where
  (authorizationRequestId requestStoneHash requestJson argumentDigest : Text)
  requiredAuthorization : Text
  status : Status
  decision : Option Decision
  (authorizationSubject authorizationMethod grantStoneHash denialStoneHash : Option Text)
  (issuedAt expiresAt : Option Int)
  consumptionId : Option Text
  consumedAt : Option Int
  (executionReceiptStoneHash executionResultJson errorType : Option Text)

/-- One column of a `SET` clause. -/
inductive Assignment where
  | status (status : Status)
  | decision (decision : Decision)
  | authorizationSubject (subject : Text)
  | authorizationMethod (method : Text)
  | grantStoneHash (hash : Option Text)
  | denialStoneHash (hash : Option Text)
  | issuedAt (instant : Int)
  | expiresAt (instant : Option Int)
  | consumptionId (id : Text)
  | consumedAt (instant : Int)
  | executionReceiptStoneHash (hash : Option Text)
  | executionResultJson (result : Text)
  | errorType (error : Option Text)

namespace Row

def set (row : Row) : Assignment → Row
  | .status status => { row with status }
  | .decision decision => { row with decision := some decision }
  | .authorizationSubject subject => { row with authorizationSubject := some subject }
  | .authorizationMethod method => { row with authorizationMethod := some method }
  | .grantStoneHash grantStoneHash => { row with grantStoneHash }
  | .denialStoneHash denialStoneHash => { row with denialStoneHash }
  | .issuedAt instant => { row with issuedAt := some instant }
  | .expiresAt expiresAt => { row with expiresAt }
  | .consumptionId id => { row with consumptionId := some id }
  | .consumedAt instant => { row with consumedAt := some instant }
  | .executionReceiptStoneHash executionReceiptStoneHash => { row with executionReceiptStoneHash }
  | .executionResultJson result => { row with executionResultJson := some result }
  | .errorType errorType => { row with errorType }

def setAll (row : Row) (fields : List Assignment) : Row :=
  fields.foldl set row

@[simp] theorem setAll_nil (row : Row) : row.setAll [] = row := rfl

@[simp] theorem setAll_cons (row : Row) (field : Assignment) (fields : List Assignment)
    : row.setAll (field :: fields) = (row.set field).setAll fields := rfl

theorem set_request (row : Row) (field : Assignment)
    : (row.set field).authorizationRequestId = row.authorizationRequestId
      ∧ (row.set field).requestJson = row.requestJson
      ∧ (row.set field).argumentDigest = row.argumentDigest := by
  cases field <;> exact ⟨rfl, rfl, rfl⟩

/-- No update touches what was requested. Witness: induction on the assignments. -/
theorem setAll_request (row : Row) (fields : List Assignment)
    : (row.setAll fields).authorizationRequestId = row.authorizationRequestId
      ∧ (row.setAll fields).requestJson = row.requestJson
      ∧ (row.setAll fields).argumentDigest = row.argumentDigest := by
  induction fields generalizing row with
  | nil => exact ⟨rfl, rfl, rfl⟩
  | cons field fields ih =>
    obtain ⟨id, request, digest⟩ := ih (row.set field)
    obtain ⟨id', request', digest'⟩ := row.set_request field
    exact ⟨id.trans id', request.trans request', digest.trans digest'⟩

@[simp] theorem setAll_id (row : Row) (fields : List Assignment)
    : (row.setAll fields).authorizationRequestId = row.authorizationRequestId :=
  (row.setAll_request fields).1

end Row

structure PendingRecord where
  (authorizationRequestId requestStoneHash requestJson argumentDigest : Text)
  requiredAuthorization : Text

def PendingRecord.row (record : PendingRecord) : Row where
  authorizationRequestId := record.authorizationRequestId
  requestStoneHash := record.requestStoneHash
  requestJson := record.requestJson
  argumentDigest := record.argumentDigest
  requiredAuthorization := record.requiredAuthorization
  status := .pending
  decision := none
  authorizationSubject := none
  authorizationMethod := none
  grantStoneHash := none
  denialStoneHash := none
  issuedAt := none
  expiresAt := none
  consumptionId := none
  consumedAt := none
  executionReceiptStoneHash := none
  executionResultJson := none
  errorType := none

/-- `SELECT * FROM tool_authorizations WHERE authorization_request_id = ?` -/
def find (rows : List Row) (id : Text) : Option Row :=
  rows.find? (·.authorizationRequestId == id)

/-- `INSERT OR IGNORE`: the rows afterwards and the number of changes. -/
def insertPending (rows : List Row) (record : PendingRecord) : Nat × List Row :=
  match find rows record.authorizationRequestId with
  | none => (1, rows ++ [record.row])
  | some _ => (0, rows)

def inStatus (id : Text) (status : Status) (row : Row) : Bool :=
  row.authorizationRequestId == id && row.status == status

/-- `UPDATE … SET status = ?, … WHERE authorization_request_id = ? AND status = ?` -/
def transition (rows : List Row) (id : Text) (fromStatus toStatus : Status)
    (fields : List Assignment)
    : Nat × List Row :=
  (rows.countP (inStatus id fromStatus),
    updateWhere (inStatus id fromStatus) (·.setAll (.status toStatus :: fields)) rows)

/-- `UPDATE … SET … WHERE authorization_request_id = ?` -/
def update (rows : List Row) (id : Text) (fields : List Assignment) : List Row :=
  updateWhere (·.authorizationRequestId == id) (·.setAll fields) rows

/-- What an entry point sees of a row: its columns and the request that it was created for. -/
structure Authorization where
  row : Row
  request : Value

namespace Authorization

variable (authorization : Authorization)

/-- `request?.guard || null` -/
def guard : Value :=
  (authorization.request.get (text "guard")).or .null

/-- `request?.tool_id || request?.target?.tool_id || null` -/
def toolId : Value :=
  ((authorization.request.get (text "tool_id")).or
    ((authorization.request.get (text "target")).get (text "tool_id"))).or .null

/-- `request?.key || null` -/
def field (key : String) : Value :=
  (authorization.request.get (text key)).or .null

def target : Value :=
  authorization.request.get (text "target")

/-- `request.target.arguments` -/
def arguments : Value :=
  authorization.target.get (text "arguments")

end Authorization

/-- `parseRequestJson(row)` and the columns; a request that is no object counts as `null`. -/
def rowToAuthorization (parse : Text → Option Value) (row : Row) : Authorization where
  row := row
  request :=
    match parse row.requestJson with
    | some parsed => if parsed.isObject then parsed else .null
    | none => .null

end CairnStone.ToolAuthorization
