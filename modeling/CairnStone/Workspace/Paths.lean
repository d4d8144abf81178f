import CairnStone.JavaScript.StableJson
import CairnStone.JavaScript.TextMethods
import CairnStone.JavaScript.Value

/-! The args of workspace calls: actor and workspace identifiers, canonical paths, bounded
text content and content pointers.
-/

namespace CairnStone.Workspace

open JavaScript

/-- A result `{ ok: false, error, … }` that refuses an argument. -/
inductive Refused where
  | request (error : String) (detail : String)
  | path (error : String) (detail : Text)
  | content (error : String) (detail : Text)
  | tooLarge (error : String) (maxBytes bytes : Nat)
  | invalid (error : String)
  | samePath (path : Text)
  deriving DecidableEq

def lowerUnit (u : CodeUnit) : CodeUnit :=
  if isUpper u then u + 0x20 else u

/-- The spelling that a pattern with the `i` flag compares. -/
def lower (s : Text) : Text :=
  s.map lowerUnit

/-- `isNonEmptyString(value)`, as the string. -/
def nonEmptyString? : Value → Option Text
  | .string s => if trim s = [] then none else some s
  | _ => none

/-- `[a-z0-9]` with the `i` flag. -/
def isIdStart (u : CodeUnit) : Bool :=
  isLower (lowerUnit u) || isDigit u

/-- `[a-z0-9._-]` with the `i` flag. -/
def isIdUnit (u : CodeUnit) : Bool :=
  isIdStart u || u == 0x2E || u == 0x5F || u == 0x2D

/-- `[a-z0-9][a-z0-9._-]{0,most}` with the `i` flag. -/
def isIdPart (most : Nat) : Text → Bool
  | [] => false
  | first :: rest => isIdStart first && rest.length ≤ most && rest.all isIdUnit

/-- `ACTOR_ID_RE`: a part, a colon and a part. No part holds a colon. -/
def isActorId (s : Text) : Bool :=
  match s.span (· ≠ 0x3A) with
  | (front, _ :: back) => isIdPart 63 front && isIdPart 127 back
  | (_, []) => false

/-- `WORKSPACE_ID_RE` -/
def isWorkspaceId (s : Text) : Bool :=
  lower (s.take 3) = text "ws:" && isIdPart 127 (s.drop 3)

def requireId (matches? : Text → Bool) (missing invalid : String) (value : Value)
    : Except String Text :=
  match nonEmptyString? value with
  | none => .error missing
  | some s => if matches? (trim s) then .ok (trim s) else .error invalid

def actorId (value : Value) : Except String Text :=
  requireId isActorId "Missing required string: actor_id" "Invalid actor id for actor_id" value

def workspaceId (value : Value) : Except String Text :=
  requireId isWorkspaceId "Missing required string: workspace_id"
    "Invalid workspace id for workspace_id" value

/-- The common opening of every draft operation: `try { … } catch { … }` around both ids. -/
def workspaceAndActor (error : String) (workspace actor : Value)
    : Except Refused (Text × Text) :=
  match workspaceId workspace, actorId actor with
  | .error detail, _ => .error (.request error detail)
  | .ok _, .error detail => .error (.request error detail)
  | .ok wsId, .ok actor => .ok (wsId, actor)

/-- A run of at least one code unit that `.` matches. -/
def isDots (s : Text) : Bool :=
  s ≠ [] && s.all (fun u => u ≠ 0x0A && u ≠ 0x0D && u ≠ 0x2028 && u ≠ 0x2029)

/-- `/^.+<ending>$/i` -/
def hasStemAndEnding (ending : String) (s : Text) : Bool :=
  let stem := s.length - (text ending).length
  lower (s.drop stem) = text ending && isDots (s.take stem)

def SECRET_BASENAMES : List Text :=
  [".env", ".aws", ".ssh", "id_rsa", "id_dsa", "id_ecdsa", "id_ed25519", "credentials",
    "credentials.json", "authorized_keys", "known_hosts", "secret.json", "secrets.json",
    "secret.yaml", "secrets.yaml", "secret.yml", "secrets.yml", "secret.toml", "secrets.toml",
    "secret.env", "secrets.env"].map text

/-- `SECRET_BASENAME_RES.some(re => re.test(part))` -/
def isSecretBasename (part : Text) : Bool :=
  lower part ∈ SECRET_BASENAMES
  || (lower (part.take 5) = text ".env." && isDots (part.drop 5))
  || [".pem", ".key", ".p12", ".pfx"].any (hasStemAndEnding · part)

def refusePart (part : Text) : Option Refused :=
  if part = [] ∨ part = text "." ∨ part = text ".." then
    some (.path "workspace_path_invalid" (text "dot_or_dotdot_component"))
  else if (text ".symlink").isSuffixOf part then
    some (.path "workspace_path_invalid" (text "symlink_pattern"))
  else if isSecretBasename part then
    some (.path "workspace_path_denied_secret" part)
  else
    none

/-- `/^[a-zA-Z]:/` -/
def startsWithDrive : Text → Bool
  | letter :: colon :: _ => (isUpper letter || isLower letter) && colon == 0x3A
  | _ => false

def canonicalizeWorkspacePath : Value → Except Refused Text
  | .string input =>
    let invalid (detail : String) : Except Refused Text :=
      .error (.path "workspace_path_invalid" (text detail))
    let parts := splitAtUnit 0x2F input
    if input = [] then invalid "path_empty"
    else if 1024 < input.length then invalid "path_too_long"
    else if 0x00 ∈ input then invalid "nul_byte"
    else if 0x5C ∈ input then invalid "backslash_not_allowed"
    else if input.head? = some 0x2F ∨ startsWithDrive input then invalid "absolute_path"
    else if text "->" ∈ parts then invalid "symlink_or_special"
    else if [] ∈ parts then invalid "non_canonical_slashes"
    else
      match parts.findSome? refusePart with
      | some refused => .error refused
      | none => .ok input
  | _ => .error (.path "workspace_path_invalid" (text "path_must_be_string"))

def WORKSPACE_MAX_CONTENT_BYTES : Nat := 262144

def utf8RoundTrip (s : Text) : Text :=
  match toWellFormed s with
  | 0xFEFF :: rest => rest
  | decoded => decoded

def assertBoundedUtf8Text : Value → Except Refused (Text × Nat)
  | .string content =>
    let bytes := utf8ByteLength content
    if utf8RoundTrip content ≠ content then
      .error (.content "workspace_content_invalid" (text "utf8_roundtrip_mismatch"))
    else if WORKSPACE_MAX_CONTENT_BYTES < bytes then
      .error (.tooLarge "workspace_content_too_large" WORKSPACE_MAX_CONTENT_BYTES bytes)
    else
      .ok (content, bytes)
  | _ => .error (.content "workspace_content_invalid" (text "utf8_text_required"))

def normalizeBaseRevision (base : Value) : Except Refused (Option Text) :=
  match base with
  | .undefined => .ok none
  | .null => .ok none
  | .string [] => .ok none
  | given =>
    match nonEmptyString? given with
    | none => .error (.invalid "invalid_base_revision")
    | some s => .ok (some (trim s))

/-- The base revision of `writeDraft`, where an empty string is refused. -/
def writeBaseRevision (base : Value) : Except Refused (Option Text) :=
  match base with
  | .undefined => .ok none
  | .null => .ok none
  | given =>
    match nonEmptyString? given with
    | none => .error (.invalid "invalid_base_revision")
    | some s => .ok (some (trim s))

def WORKSPACE_CONTENT_REF_MAX_BYTES : Nat := 2048

/-- `[a-z][a-z0-9+.-]{0,31}` with the `i` flag. -/
def isScheme : Text → Bool
  | [] => false
  | first :: rest =>
    isLower (lowerUnit first) && rest.length ≤ 31
    && rest.all (fun u => isIdStart u || u == 0x2B || u == 0x2E || u == 0x2D)

/-- `WORKSPACE_CONTENT_REF_ID_RE`: a scheme, a colon, and up to 2000 units without space. -/
def isContentRef (s : Text) : Bool :=
  match s.span (· ≠ 0x3A) with
  | (scheme, _ :: pointer) =>
    isScheme scheme && 1 ≤ pointer.length && pointer.length ≤ 2000
    && pointer.all (fun u => !isWhiteSpace u && u ≠ 0x00)
  | (_, []) => false

def validateContentRef (value : Value) : Except Refused Text :=
  match nonEmptyString? value with
  | none => .error (.content "invalid_workspace_content_ref" (text "required"))
  | some s =>
    let pointer := trim s
    let bytes := utf8ByteLength pointer
    if WORKSPACE_CONTENT_REF_MAX_BYTES < bytes then
      .error (.tooLarge "workspace_content_ref_too_large" WORKSPACE_CONTENT_REF_MAX_BYTES bytes)
    else if isContentRef pointer then .ok pointer
    else .error (.content "invalid_workspace_content_ref" (text "id_pattern"))

/-- `[0-9a-f]{length}` with the `i` flag. -/
def isHex (length : Nat) (s : Text) : Bool :=
  s.length = length && s.all (fun u => isDigit u || (0x61 ≤ lowerUnit u && lowerUnit u ≤ 0x66))

def validateContentSha (value : Value) : Except Refused Text :=
  match nonEmptyString? value with
  | none => .error (.invalid "invalid_content_sha256")
  | some s =>
    if isHex 64 (trim s) then .ok (lower (trim s)) else .error (.invalid "invalid_content_sha256")

def validateGitBlobSha (value : Value) : Except Refused (Option Text) :=
  match value with
  | .undefined => .ok none
  | .null => .ok none
  | .string [] => .ok none
  | given =>
    match nonEmptyString? given with
    | none => .error (.invalid "invalid_git_blob_sha")
    | some s =>
      if isHex 40 (trim s) then .ok (some (lower (trim s)))
      else .error (.invalid "invalid_git_blob_sha")

/-- The check of `Number(content_bytes)`. -/
def validateContentBytes (bytes : Number) : Except Refused Nat :=
  match bytes.toInt? with
  | some (.ofNat bytes) => .ok bytes
  | _ => .error (.invalid "invalid_content_bytes")

end CairnStone.Workspace
