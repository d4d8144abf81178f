import CairnStone.Data.FirstOccurrences
import CairnStone.JavaScript.Conversions
import CairnStone.TaskRuns.Refs
import CairnStone.Workspace.Paths

/-! The compact result of a delegation, as far as it is about the answer: the answer itself, the evidence it
was given, and the stones that it cites.
-/

namespace CairnStone.Delegation

open JavaScript Data TaskRuns Workspace

def SUBAGENT_RESULT_MAX_ANSWER_BYTES : Nat := 4096
def MAX_CITATIONS : Nat := 20
def MAX_NOTE_CHARS : Nat := 240

def SUBAGENT_RESULT_AUTHORITIES : List Text :=
  ["CHAIN_HEAD", "PATH_HEAD", "HISTORICAL"].map text

structure Citation where
  (stoneHash authority : Text)
  (path note : Option Text)
  deriving DecidableEq

/-- `[0-9a-f]` with the `i` flag -/
def isHexDigit (u : CodeUnit) : Bool :=
  isDigit u || (0x61 ≤ u && u ≤ 0x66) || (0x41 ≤ u && u ≤ 0x46)

/-- `isNonEmptyString(value)`, as the string, which is not trimmed. -/
def visibleString (value : Value) : Option Text :=
  value.string?.filter (fun s => trim s != [])

/-- `STONE_HASH_RE.test(value)` of a string, in lower case. -/
def stoneHashOf (value : Value) : Option Text :=
  ((visibleString value).filter (fun s => s.length == 64 && s.all isHexDigit)).map lower

def compactNote (value : Value) : Option Text :=
  ((visibleString value).map (fun s => (trim s).take MAX_NOTE_CHARS)).filter (· != [])

section Evidence

variable (toUpperCase : Text → Text)

def normalizeAuthority (value : Value) : Text :=
  match value.string? with
  | some s =>
    if toUpperCase (trim s) ∈ SUBAGENT_RESULT_AUTHORITIES then toUpperCase (trim s)
    else text "HISTORICAL"
  | none => text "HISTORICAL"

def citationFromMemoryItem (item : Value) : Option Citation :=
  (stoneHashOf (item.get (text "stone_hash"))).map (fun stoneHash =>
    let refId := item.get (text "ref_id")
    let note := if refId.truthy then .string (text "ref=" ++ refId.toText)
      else item.get (text "freshness")
    { stoneHash
      authority :=
        normalizeAuthority toUpperCase
          ((item.get (text "authority_class")).or (item.get (text "authority")))
      path := (visibleString (item.get (text "path"))).map trim
      note := compactNote note })

def citationFromPathHead (item : Value) : Option Citation :=
  (stoneHashOf (item.get (text "stone_hash"))).map (fun stoneHash =>
    { stoneHash
      authority := text "PATH_HEAD"
      path := (visibleString (item.get (text "path"))).map trim
      note := none })

def citationFromSkill (item : Value) : Option Citation :=
  (stoneHashOf (item.get (text "stone_hash"))).map (fun stoneHash =>
    let version := item.get (text "skill_version")
    let note := if version.truthy then .string (text "skill_version=" ++ version.toText)
      else .undefined
    { stoneHash
      authority := text "PATH_HEAD"
      path := (visibleString (item.get (text "skill_id"))).map (text "skills/" ++ ·)
      note := compactNote note })

def citationFromChainHead (chainHead : Value) : Option Citation :=
  let hash :=
    if (visibleString chainHead).isSome then chainHead
    else if chainHead.isObject then chainHead.get (text "stone_hash")
    else .null
  (stoneHashOf hash).map (fun stoneHash =>
    { stoneHash
      authority := text "CHAIN_HEAD"
      path :=
        if chainHead.isObject then (visibleString (chainHead.get (text "path"))).map trim else none
      note := none })

def offered (evidence : Value) : List Citation :=
  (listOf (evidence.get (text "memory_refs"))).filterMap (citationFromMemoryItem toUpperCase)
  ++ (listOf (evidence.get (text "path_heads"))).filterMap citationFromPathHead
  ++ (citationFromChainHead (evidence.get (text "chain_head"))).toList
  ++ (listOf (evidence.get (text "selected_skills"))).filterMap citationFromSkill

def buildCitationsFromDelegationEvidence (evidence : Value) : List Citation :=
  collect Citation.stoneHash MAX_CITATIONS [] (offered toUpperCase evidence)

end Evidence

/-- `(?:\s+ref:([^\]\s]+))?\]`, as how many code units it takes. -/
def markerEnd (s : Text) : Option Nat :=
  if s.head? = some 0x5D then some 1
  else
    let blank := s.takeWhile isWhiteSpace
    let later := s.drop blank.length
    let ref := (later.drop 4).takeWhile (fun u => u != 0x5D && !isWhiteSpace u)
    if blank ≠ [] ∧ lower (later.take 4) = text "ref:" ∧ ref ≠ []
        ∧ (later.drop (4 + ref.length)).head? = some 0x5D then
      some (blank.length + 4 + ref.length + 1)
    else none

/-- `/\[stone:([0-9a-f]{12,64})(?:\s+ref:([^\]\s]+))?\]/i` at the start of a text, as the digits and how many code
units it takes. No fewer digits than there are can be followed by what the pattern goes on with.
-/
def markerAt (s : Text) : Option (Text × Nat) :=
  if lower (s.take 7) = text "[stone:" then
    let digits := (s.drop 7).takeWhile isHexDigit
    if 12 ≤ digits.length ∧ digits.length ≤ 64 then
      (markerEnd (s.drop (7 + digits.length))).map (fun ending =>
        (lower digits, 7 + digits.length + ending))
    else none
  else none

/-- `matchAll`, as the digits of each match in lower case. The search goes on behind a match. -/
def markersFrom : (skipped : Nat) → Text → List Text
  | _, [] => []
  | skipped + 1, _ :: rest => markersFrom skipped rest
  | 0, u :: rest =>
    match markerAt (u :: rest) with
    | some found => found.1 :: markersFrom (found.2 - 1) rest
    | none => markersFrom 0 rest

def markers (answer : Text) : List Text :=
  markersFrom 0 answer

def citationFromAnswerMention (hashPrefix : Text) (evidenceRefs : List Citation) : Option Citation :=
  match evidenceRefs.filter (fun item => hashPrefix.isPrefixOf item.stoneHash) with
  | [item] => some { item with note := some (text "explicitly_cited_in_answer") }
  | _ => none

def buildValidatedCitationsFromAnswer (evidenceRefs : List Citation) (answer : Text) : List Citation :=
  collect Citation.stoneHash MAX_CITATIONS []
    ((markers answer).filterMap (citationFromAnswerMention · evidenceRefs))

inductive SubagentError where
  | invalidDelegationResult
  | delegationFailed (error : Value)
  | answerExceedsCap (answerBytes : Nat)

structure SubagentResult where
  error : Option SubagentError
  answer : Text
  answerBytes : Nat
  (citations evidenceRefs : List Citation)

def SubagentResult.failed (error : SubagentError) : SubagentResult where
  error := some error
  answer := []
  answerBytes := 0
  citations := []
  evidenceRefs := []

def buildSubagentResultFromDelegation (toUpperCase : Text → Text) (delegation : Value)
    : SubagentResult :=
  if !delegation.truthy || !(delegation.isObject || delegation matches .array _) then
    .failed .invalidDelegationResult
  else if !(delegation.get (text "ok")).isTrue then
    .failed (.delegationFailed
      ((delegation.get (text "error")).or (.string (text "delegation_failed"))))
  else
    let answer := (((delegation.get (text "output")).get (text "text")).string?).getD []
    let evidenceRefs :=
      buildCitationsFromDelegationEvidence toUpperCase (delegation.get (text "evidence"))
    let citations := buildValidatedCitationsFromAnswer evidenceRefs answer
    let answerBytes := utf8ByteLength answer
    if SUBAGENT_RESULT_MAX_ANSWER_BYTES < answerBytes then
      { error := some (.answerExceedsCap answerBytes), answer := [], answerBytes, citations, evidenceRefs }
    else
      { error := none, answer, answerBytes, citations, evidenceRefs }

end CairnStone.Delegation
