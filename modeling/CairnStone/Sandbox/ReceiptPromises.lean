import CairnStone.Sandbox.Receipts

/-! What each call knows when it issues a statement on receipts: the receipt that it has inserted and
not yet listed, and that the class of its manifest allows its command.
-/

namespace CairnStone.Sandbox

open JavaScript Data Concurrency List CodeSession TaskRuns Value Conversation
open TaskRuns (Refusal nonEmptyString isGiven)
open Conversation (revisionOf)
open CodeSession (SessionRow SessionCall SessionAnswer Digest valueList readReference
  normalizeReferences normalizeReceiptRefs)

/-- The calls on the receipts and on the sessions that list them. -/
inductive ReceiptCall where
  | receipt (args : ReceiptArguments)
  | session (call : SessionCall)

/-- What a call answers. -/
inductive Answer where
  | receipt (answer : ReceiptAnswer)
  | session (answer : SessionAnswer)

/-- The call, with the digests, the order of names and the clock's texts that it computes. -/
def ReceiptCall.body (sha256Text : Text → Digest) (localeLe : Text → Text → Bool)
    (toISOString : Nat → Text)
    : ReceiptCall → Operation Answer
  | .receipt args => do
    let answer ← createExecutionReceipt sha256Text args
    return .receipt answer
  | .session call => do
    let answer ← (call.body sha256Text localeLe toISOString).embed sessionPart id
    return .session answer

/-- The id in an entry of a list. -/
def refText (item : Value) : Text :=
  (item.get (text "ref")).string?.getD []

def refTexts (refs : List Value) : List Text :=
  refs.map refText

structure TidyText (s : Text) : Prop where
  trimmed : trim s = s
  nonempty : s ≠ []
  short : s.length ≤ 256

/-- An entry with an id that is normalized already. -/
structure TidyRef (item : Value) : Prop where
  isObject : item.isObject = true
  named : item.get (text "ref") = .string (refText item)
  tidy : TidyText (refText item)

theorem TidyText.given {s : Text} (tidy : TidyText s) : nonEmptyString (.string s) = some s := by
  unfold nonEmptyString
  simp only [string?_string, tidy.trimmed, if_neg tidy.nonempty]

/-- An object whose first member is the id. -/
theorem tidyRef_literal {s : Text} (tidy : TidyText s) (more : List (Text × Value))
    : TidyRef (.literal ((text "ref", .string s) :: more))
      ∧ refText (.literal ((text "ref", .string s) :: more)) = s := by
  have got : (literal ((text "ref", .string s) :: more)).get (text "ref") = .string s := by
    simp [literal, Value.get]
  have here : refText (.literal ((text "ref", .string s) :: more)) = s := by
    unfold refText
    rw [got]
    rfl
  exact ⟨⟨rfl, got.trans (by rw [here]), here.symm ▸ tidy⟩, here⟩

/-- Normalizing a tidy entry keeps its id. -/
theorem readReference_tidy (error kind : String) (more : Value → List (Text × Value)) {item : Value}
    (tidy : TidyRef item)
    : ∃ value, readReference error kind more item = .ok value ∧ TidyRef value
        ∧ refText value = refText item := by
  have name : nonEmptyString (item.get (text "ref")) = some (refText item) := by
    rw [tidy.named]
    exact tidy.tidy.given
  have whole : (refText item).take 256 = refText item := take_of_length_le tidy.tidy.short
  have object := tidy.isObject
  cases item with
  | object proto properties =>
    obtain ⟨tidied, same⟩ := tidyRef_literal tidy.tidy
      ((text "kind",
          .string ((shortText 64 ((Value.object proto properties).get (text "kind"))).getD
            (text kind)))
        :: more (.object proto properties))
    refine ⟨_, ?_, tidied, same⟩
    simp only [readReference, object, if_true, name, whole]
    rfl
  | _ => cases object

/-- Normalizing a list of tidy entries keeps their ids. Witness: induction on the list. -/
theorem mapM_readReference (error kind : String) (more : Value → List (Text × Value))
    {items : List Value} (tidy : ∀ item ∈ items, TidyRef item)
    : ∃ values, items.mapM (readReference error kind more) = .ok values
        ∧ (∀ value ∈ values, TidyRef value) ∧ refTexts values = refTexts items := by
  induction items with
  | nil => exact ⟨[], rfl, forall_mem_nil _, rfl⟩
  | cons item rest ih =>
    obtain ⟨value, read, tidied, same⟩ :=
      readReference_tidy error kind more (tidy item (.head _))
    obtain ⟨values, reads, all, texts⟩ :=
      ih (fun entry mem => tidy entry (.tail _ mem))
    refine ⟨value :: values, ?_, ?_, ?_⟩
    · rw [mapM_cons, read, reads]
      rfl
    · intro entry mem
      rcases mem_cons.mp mem with rfl | later
      · exact tidied
      · exact all entry later
    · unfold refTexts at texts ⊢
      rw [map_cons, map_cons, same, texts]

theorem listOf_valueList (values : List Value) : listOf (valueList values) = values := by
  change (values.map some).map (·.getD .undefined) = values
  rw [map_map]
  exact map_id values

/-- A list of at most a hundred tidy entries is normalized without a change of ids. -/
theorem normalizeReceiptRefs_tidy {refs : List Value} (tidy : ∀ item ∈ refs, TidyRef item)
    (short : refs.length ≤ MAX_RECEIPT_REFS)
    : ∃ values, normalizeReceiptRefs (valueList refs) = .ok values
        ∧ (∀ value ∈ values, TidyRef value) ∧ refTexts values = refTexts refs := by
  obtain ⟨values, reads, all, same⟩ :=
    mapM_readReference "invalid_code_session_execution_receipt_ref" "receipt"
      (fun item =>
        [(text "status", .ofOption (shortText 64 (item.get (text "status"))))]) tidy
  refine ⟨values, ?_, all, same⟩
  have bound : ¬ MAX_ARTIFACT_REFS < (listOf (valueList refs)).length := by
    rw [listOf_valueList]
    exact Nat.not_lt.mpr short
  have given : isGiven (valueList refs) = true := rfl
  unfold normalizeReceiptRefs normalizeReferences
  rw [given, Bool.not_true, if_neg Bool.false_ne_true]
  change (if MAX_ARTIFACT_REFS < (listOf (valueList refs)).length then _ else _) = _
  rw [if_neg bound, listOf_valueList]
  exact reads

/-- The list that a statement writes, and the session that it writes it for. -/
def Command.refs : Command → Option (Text × List Value)
  | .recordRefs id refs _ => some (id, refs)
  | .swapRefs id _ refs _ => some (id, refs)
  | _ => none

def matched (db : Database) : Command → Bool
  | .recordRefs id _ _ => db.code.sessions.any (isSession id)
  | .swapRefs id base _ _ => db.code.sessions.any (CodeSession.matchesRevision id base)
  | _ => false

def insertedReceipt (issued : Issued store) : Option ReceiptRow :=
  match issued.command with
  | .insertReceipt row =>
    if (insertReceipt (Database.receipts issued.before) row).1 then some row else none
  | _ => none

def lists (issued : Issued store) : Bool :=
  matched issued.before issued.command

def listedIn (id : Text) (issued : Issued store) : Option Text :=
  if lists issued then
    (Command.refs issued.command).bind (fun written =>
      if written.1 = id then written.2.head?.map refText else none)
  else none

def receiptWork : Settlement store ReceiptRow where
  begun := insertedReceipt
  settles := lists

theorem insertedReceipt_of_lists (issued : Issued store) (seen : lists issued = true)
    : insertedReceipt issued = none := by
  obtain ⟨thread, cmd, before⟩ := issued
  cases cmd with
  | insertReceipt row => cases seen
  | _ => rfl

section

variable (start : Database)

def UsesClass (row : ReceiptRow) : Prop :=
  ∃ id manifest, row.environmentManifestId = some id ∧ manifestOf id start = some manifest
    ∧ commandClassAllowedForExecutionClass manifest.sandboxExecutionClass row.commandClass = true

structure Writes (t : Nat) (id : Text) (refs : List Value) (h : History store) : Prop where
  begun
    : ∃ row, receiptWork.unsettled (h.own t) = [(t, row)] ∧ row.codeSessionId = id
        ∧ refs.head?.map refText = some row.receiptId
  tidy : ∀ item ∈ refs, TidyRef item

def ReceiptPromise (t : Nat) (_ : ReceiptCall) (cmd : Command) (h : History store) : Prop :=
  match cmd with
  | .session _ => True
  | .insertReceipt row => receiptWork.unsettled (h.own t) = [] ∧ UsesClass start row
  | .recordRefs id refs _ => Writes t id refs h
  | .swapRefs id _ refs _ => Writes t id refs h

instance receiptEventIsEmpty : IsEmpty store.Event :=
  inferInstanceAs (IsEmpty Empty)

@[reducible] def receiptAgreement : Protocol store ReceiptCall :=
  @Protocol.pledging store ReceiptCall start (ReceiptPromise start) receiptEventIsEmpty

/-- A run of the calls. -/
abbrev ReceiptLives (h : History store) : Prop :=
  (receiptAgreement start).inv h

end

end CairnStone.Sandbox
