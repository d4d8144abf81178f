import CairnStone.JavaScript.Objects
import CairnStone.JavaScript.TextMethods

/-! Identities and references as task runs accept them: actor and run ids, typed object references,
and the lists of references and capabilities of a proposal.
-/

namespace CairnStone.TaskRuns

open JavaScript

/-- `[a-z]` without regard to case -/
def isLetter (u : CodeUnit) : Bool :=
  (0x61 ≤ u && u ≤ 0x7A) || (0x41 ≤ u && u ≤ 0x5A)

/-- `[a-z0-9._-]` without regard to case -/
def isNameUnit (u : CodeUnit) : Bool :=
  isLetter u || isDigit u || u == 0x2E || u == 0x5F || u == 0x2D

/-- `[a-z0-9][a-z0-9._-]{0,more}` -/
def isName (more : Nat) : Text → Bool
  | [] => false
  | first :: rest =>
    (isLetter first || isDigit first) && rest.all isNameUnit && rest.length ≤ more

/-- ASCII letters in lower case. No other code unit has a lower case of one ASCII unit but the Kelvin
sign, whose `k` none of the prefixes below contains.
-/
def lowerAscii (s : Text) : Text :=
  s.map (fun u => if 0x41 ≤ u && u ≤ 0x5A then u + 0x20 else u)

/-- `s.toLowerCase().startsWith(mark)` -/
def startsWithIgnoringCase (mark : String) (s : Text) : Bool :=
  (text mark).isPrefixOf (lowerAscii s)

/-- `mark` and a name, without regard to case -/
def isMarkedName (mark : String) (s : Text) : Bool :=
  startsWithIgnoringCase mark s && isName 127 (s.drop (text mark).length)

/-- `ACTOR_ID_RE` -/
def isActorId (s : Text) : Bool :=
  let (realm, rest) := s.span (· != 0x3A)
  match rest with
  | [] => false
  | _ :: name => isName 63 realm && isName 127 name

/-- `TASK_RUN_ID_RE` -/
def isTaskRunId (s : Text) : Bool :=
  isMarkedName "tr:" s

/-- `isNonEmptyString(value)`, as the trimmed text -/
def nonEmptyString (value : Value) : Option Text :=
  match value.string? with
  | some s => if trim s = [] then none else some (trim s)
  | none => none

/-- `actorId(value, field)`, with the message that it throws -/
def actorId (value : Value) (field : String) : Except Text Text :=
  match nonEmptyString value with
  | none => .error (text "Missing required string: " ++ text field)
  | some s =>
    if isActorId s then .ok s else .error (text "Invalid actor id for " ++ text field)

def taskRunId (value : Value) (field : String) : Except Text Text :=
  match nonEmptyString value with
  | none => .error (text "Missing required string: " ++ text field)
  | some s =>
    if isTaskRunId s then .ok s else .error (text "Invalid task_run id for " ++ text field)

def MAX_REF_LEN : Nat := 256

def isHexDigit (u : CodeUnit) : Bool :=
  isDigit u || (0x61 ≤ u && u ≤ 0x66) || (0x41 ≤ u && u ≤ 0x46)

/-- `^[0-9a-f]{length}$` without regard to case -/
def isHex (length : Nat) (s : Text) : Bool :=
  s.all isHexDigit && s.length == length

/-- `/^[A-Za-z0-9_.-]+$/` -/
def isRepoPart (s : Text) : Bool :=
  s.all isNameUnit && s != []

def behind (mark : String) (s : Text) : Text :=
  trim (s.drop (text mark).length)

/-- The text up to the last `@` and the text behind it. -/
def splitAtLastAt (s : Text) : Option (Text × Text) :=
  match s.reverse.span (· != 0x40) with
  | (_, []) => none
  | (behindAt, _ :: before) => some (before.reverse, behindAt.reverse)

/-- The canonical form of `repo:owner/repo@sha`. -/
def canonicalRepo (s : Text) : Except Text Text :=
  match splitAtLastAt (behind "repo:" s) with
  | none => .error (text "invalid_repo_ref")
  | some (ownerRepo, sha) =>
    let sha := lowerAscii (trim sha)
    let (owner, rest) := ownerRepo.span (· != 0x2F)
    if isRepoPart owner && isRepoPart (rest.drop 1) && isHex 40 sha then
      .ok (text "repo:" ++ owner ++ text "/" ++ rest.drop 1 ++ text "@" ++ sha)
    else
      .error (text "invalid_repo_ref")

/-- `mark` and a hash in lower case. -/
def canonicalHash (mark : String) (error : String) (hash : Text) : Except Text Text :=
  if isHex 64 hash then .ok (text mark ++ lowerAscii hash) else .error (text error)

def canonicalUnder (long short : String) (error : String) (s : Text) : Except Text Text :=
  let rest := behind long s
  let id := if startsWithIgnoringCase short rest || rest = [] then rest else text short ++ rest
  if isMarkedName short id then .ok (text long ++ id) else .error (text error)

def canonicalName (mark : String) (error : String) (s : Text) : Except Text Text :=
  if isMarkedName mark s then .ok s else .error (text error)

def parseObjectRef (raw : Text) : Except Text Text :=
  let s := (trim raw).take MAX_REF_LEN
  let marked (mark : String) : Bool := startsWithIgnoringCase mark s
  if trim raw = [] then .error (text "object_ref_required")
  else if marked "stone:" then canonicalHash "stone:" "invalid_stone_ref" (behind "stone:" s)
  else if isHex 64 s then .ok (text "stone:" ++ lowerAscii s)
  else if marked "ac1:" then canonicalHash "ac1:" "invalid_ac1_ref" (behind "ac1:" s)
  else if marked "msg:" then
    if s.length < 5 then .error (text "invalid_msg_ref") else .ok s
  else if marked "repo:" then canonicalRepo s
  else if marked "session:" then canonicalUnder "session:" "cs:" "invalid_session_ref" s
  else if marked "cs:" then
    (canonicalName "cs:" "invalid_session_ref" s).map (text "session:" ++ ·)
  else if marked "conversation:" then
    canonicalUnder "conversation:" "cvs:" "invalid_conversation_ref" s
  else if marked "cvs:" then
    (canonicalName "cvs:" "invalid_conversation_ref" s).map (text "conversation:" ++ ·)
  else if marked "turn:" then canonicalName "turn:" "invalid_turn_ref" s
  else if marked "cmsg:" then canonicalName "cmsg:" "invalid_cmsg_ref" s
  else if marked "response:" || marked "grounded-response:" || marked "gr:" then
    let id :=
      if marked "grounded-response:" then behind "grounded-response:" s
      else if marked "response:" then behind "response:" s
      else behind "gr:" s
    if id = [] then .error (text "invalid_response_ref") else .ok (text "response:" ++ id)
  else if marked "grant:" || marked "tr:" then .ok s
  else .error (text "unsupported_object_ref_kind")

def MAX_REFS : Nat := 100

def MAX_CAPS : Nat := 64

/-- `Array.isArray(value) ? value : []` -/
def listOf : Value → List Value
  | .array slots => slots.map (·.getD .undefined)
  | _ => []

def refText (item : Value) : Option Text :=
  match item with
  | .string s => nonEmptyString (.string s)
  | .object _ _ =>
    nonEmptyString
      (((item.get (text "object_ref")).or (item.get (text "ref"))).or
        (item.get (text "attachment_ref")))
  | _ => none

/-- One entry of `normalizeRefList`. -/
def normalizeRef (field : String) (item : Value) : Except Text Text :=
  match refText item with
  | none => .error (text "invalid_" ++ text field ++ text "_entry")
  | some raw =>
    match parseObjectRef (raw.take MAX_REF_LEN) with
    | .ok ref => .ok ref
    | .error _ => .error (text "invalid_" ++ text field ++ text "_entry")

def normalizeRefList (input : Value) (field : String) : Except Text (List Text) :=
  let list := listOf input
  if MAX_REFS < list.length then .error (text field ++ text "_too_large")
  else (list.mapM (normalizeRef field)).map List.eraseDups

def normalizeCapabilityList (input : Value) : Except Text (List Text) :=
  let list := listOf input
  if MAX_CAPS < list.length then .error (text "required_capabilities_too_large")
  else
    let normalize (item : Value) : Except Text Text :=
      match nonEmptyString item with
      | some capability => .ok (capability.take 128)
      | none => .error (text "invalid_required_capabilities_entry")
    (list.mapM normalize).map List.eraseDups

def refsSubset (childRefs parentRefs : List Text) : Bool :=
  childRefs.all (parentRefs.contains ·)

end CairnStone.TaskRuns
