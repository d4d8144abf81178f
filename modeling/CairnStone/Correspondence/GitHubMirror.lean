import CairnStone.Correspondence.Mailbox
import CairnStone.JavaScript.Conversions

/-! Handoffs that are mirrored into a GitHub repository, one file for each recipient of a message. The
path of a file is made of the recipient and the message id with other units collapsed and the rest cut.
-/

namespace CairnStone.Correspondence

open JavaScript Data List List.Subset

/-- `[A-Za-z0-9._-]` -/
def isPathUnit (u : CodeUnit) : Bool :=
  isWord u || u == 0x2E

/-- `replace(/[^A-Za-z0-9._-]+/g, "_")`, inside of a run that is replaced already or not -/
def replaceRuns : Bool → Text → Text
  | _, [] => []
  | inRun, u :: s =>
    if isPathUnit u then u :: replaceRuns false s
    else if inRun then replaceRuns true s
    else 0x5F :: replaceRuns true s

def safePathSegment (s : Text) : Text :=
  let segment := (replaceRuns false s).take 160
  if segment = [] then text "message" else segment

/-- A handoff whose fields `dispatchHandoff` has validated, with its content's members in `handoff` -/
structure Handoff where
  sender : Text
  recipients : List Text
  (messageId threadId subject priority : Text)
  handoff : Value
  recipients_valid : ∀ r ∈ recipients, actorId (.string r) "to" = .ok r
  messageId_valid : opaqueId (.string messageId) "message_id" = .ok messageId

structure SentMessage where
  (sender messageId fingerprint stoneHash : Text)

def findByMessage (sent : List SentMessage) (senderId messageId : Text) : Option SentMessage :=
  sent.find? fun message => message.sender == senderId && message.messageId == messageId

abbrev MirrorFile := Text × Text

structure GitHub where
  files : List MirrorFile
  asked : Nat

inductive MirrorResult where
  | created
  | replayed
  | conflict
  | lookupFailed
  | writeFailed
  deriving DecidableEq

section

variable (fingerprint : Handoff → Text)

/-- `sendMessage` of a handoff, with the hash that `createStone` would give: the hash of the message's
stone, or an `idempotency_conflict`.
-/
def sendMessage (sent : List SentMessage) (h : Handoff) (created : Text)
    : Option (Text × List SentMessage) :=
  match findByMessage sent h.sender h.messageId with
  | some existing => if existing.fingerprint = fingerprint h then some (existing.stoneHash, sent) else none
  | none => some (created, sent ++ [⟨h.sender, h.messageId, fingerprint h, created⟩])

/-- The handoffs that are accepted one after the other, each with its message's stone. -/
def accepted : List SentMessage → List (Handoff × Text) → List (Handoff × Text)
  | _, [] => []
  | sent, (h, created) :: later =>
    match sendMessage fingerprint sent h created with
    | none => accepted sent later
    | some (stoneHash, sent) => (h, stoneHash) :: accepted sent later

end

section

variable (pathPrefix : Text) (indented : Value → Text)

def mirrorPath (recipient messageId : Text) : Text :=
  pathPrefix ++ 0x2F :: (safePathSegment recipient ++ 0x2F :: (safePathSegment messageId ++ text ".json"))

/-- The text of a mirror file; `indented` is `JSON.stringify(value, null, 2)`. -/
def mirrorPayload (h : Handoff) (stoneHash recipient : Text) : Text :=
  indented
    (.literal
      [ (text "schema", .string (text "cairnstone-github-inbox-mirror-v1")),
        (text "authority", .string (text "ac1_message_stone")),
        (text "ac1", .literal
          [ (text "message_id", .string h.messageId), (text "thread_id", .string h.threadId),
            (text "stone_hash", .string stoneHash),
            (text "immutable_message_stone", .bool true) ]),
        (text "envelope", .literal
          [ (text "subject", .string h.subject), (text "priority", .string h.priority),
            (text "recipient", .string recipient) ]),
        (text "handoff", h.handoff),
        (text "policy", .literal
          [ (text "transport_mirror_only", .bool true), (text "execution_authority", .bool false),
            (text "mutation_authority", .bool false),
            (text "accepted_state_authority", .bool false) ]) ])
    ++ text "\n"

/-- The files that `createGitHubInboxMirror` puts, for each recipient in turn -/
def createGitHubInboxMirror (sent : Handoff × Text) : List MirrorFile :=
  sent.1.recipients.map fun recipient =>
    (mirrorPath pathPrefix recipient sent.1.messageId, mirrorPayload indented sent.1 sent.2 recipient)

/-- One file; whether GitHub answers a request well is for `answers` to say. -/
def putGitHubMirrorFile (answers : Nat → Bool) (file : MirrorFile) (g : GitHub)
    : MirrorResult × GitHub :=
  if answers g.asked = false then (.lookupFailed, { g with asked := g.asked + 1 })
  else
    match g.files.lookup file.1 with
    | some existing =>
      (if existing = file.2 then .replayed else .conflict, { g with asked := g.asked + 1 })
    | none =>
      if answers (g.asked + 1) then (.created, ⟨file :: g.files, g.asked + 2⟩)
      else (.writeFailed, { g with asked := g.asked + 2 })

def mirrorRun (answers : Nat → Bool) : List MirrorFile → GitHub → List MirrorResult × GitHub
  | [], g => ([], g)
  | file :: later, g =>
    let (result, g) := putGitHubMirrorFile answers file g
    let (results, g) := mirrorRun answers later g
    (result :: results, g)

/-- What is promised of the handoffs that were accepted and mirrored, the repository's inbox being empty
before the first of them.
-/
structure OneToOne (sent : List (Handoff × Text)) : Prop where
  injective : ∀ d ∈ sent, ∀ d' ∈ sent, ∀ r ∈ d.1.recipients, ∀ r' ∈ d'.1.recipients,
    mirrorPath pathPrefix r d.1.messageId = mirrorPath pathPrefix r' d'.1.messageId
    → r = r' ∧ d.1.messageId = d'.1.messageId ∧ d.1.sender = d'.1.sender
  noConflict : ∀ answers,
    .conflict
      ∉ (mirrorRun answers (sent.flatMap (createGitHubInboxMirror pathPrefix indented)) ⟨[], 0⟩).1
  replayed : ∀ answers, ∀ d ∈ sent, ∀ file ∈ createGitHubInboxMirror pathPrefix indented d,
    let g := (mirrorRun answers (sent.flatMap (createGitHubInboxMirror pathPrefix indented)) ⟨[], 0⟩).2
    file.1 ∈ g.files.map (·.1) → answers g.asked = true
    → (putGitHubMirrorFile answers file g).1 = .replayed

end

/-- The unit that stands for `u`, and for the run that it starts, in a segment -/
def markOf (u : CodeUnit) : CodeUnit :=
  if isPathUnit u then u else 0x5F

def afterMark (u : CodeUnit) (s : Text) : Text :=
  if isPathUnit u then s else s.dropWhile fun v => !isPathUnit v

/-- The texts agree in their first `n` marks, or to their ends. -/
def alikeUpTo : Nat → Text → Text → Bool
  | 0, _, _ => true
  | _ + 1, [], [] => true
  | n + 1, u :: s, v :: t => markOf u = markOf v && alikeUpTo n (afterMark u s) (afterMark v t)
  | _ + 1, _, _ => false

def Alike (s t : Text) : Prop :=
  alikeUpTo 160 s t = true

def Apart (sent : List (Handoff × Text)) : Prop :=
  ∀ d ∈ sent, ∀ d' ∈ sent, ∀ r ∈ d.1.recipients, ∀ r' ∈ d'.1.recipients,
    Alike r r' → Alike d.1.messageId d'.1.messageId
    → r = r' ∧ d.1.messageId = d'.1.messageId ∧ d.1.sender = d'.1.sender

theorem replaceRuns_true (s : Text)
    : replaceRuns true s = replaceRuns false (s.dropWhile fun v => !isPathUnit v) := by
  induction s with
  | nil => rfl
  | cons u s ih =>
    cases kept : isPathUnit u
    · simpa [replaceRuns, kept] using ih
    · simp [replaceRuns, kept]

theorem replaceRuns_cons (u : CodeUnit) (s : Text)
    : replaceRuns false (u :: s) = markOf u :: replaceRuns false (afterMark u s) := by
  cases kept : isPathUnit u
  · simp [replaceRuns, markOf, afterMark, kept, replaceRuns_true]
  · simp [replaceRuns, markOf, afterMark, kept]

theorem take_replaceRuns_iff (n : Nat) (s t : Text)
    : (replaceRuns false s).take n = (replaceRuns false t).take n ↔ alikeUpTo n s t = true := by
  induction n generalizing s t with
  | zero => simp [alikeUpTo]
  | succ n ih =>
    cases s with
    | nil =>
      cases t with
      | nil => simp [alikeUpTo]
      | cons v t => simp [alikeUpTo, replaceRuns_cons v t, replaceRuns.eq_1]
    | cons u s =>
      cases t with
      | nil => simp [alikeUpTo, replaceRuns_cons u s, replaceRuns.eq_1]
      | cons v t => simp [alikeUpTo, replaceRuns_cons, ih]

theorem safePathSegment_eq_iff {s t : Text} (some : s ≠ []) (some' : t ≠ [])
    : safePathSegment s = safePathSegment t ↔ Alike s t := by
  have shown {s : Text} (some : s ≠ []) : safePathSegment s = (replaceRuns false s).take 160 := by
    cases s with
    | nil => exact absurd rfl some
    | cons u s => simp [safePathSegment, replaceRuns_cons]
  rw [shown some, shown some']
  exact take_replaceRuns_iff 160 s t

theorem mem_replaceRuns {u : CodeUnit} {s : Text} {inRun : Bool} (mem : u ∈ replaceRuns inRun s)
    : isPathUnit u = true := by
  induction s generalizing inRun with
  | nil => cases mem
  | cons v s ih =>
    rw [replaceRuns] at mem
    split at mem
    · next kept =>
        rcases mem_cons.mp mem with rfl | mem
        · exact kept
        · exact ih mem
    · split at mem
      · exact ih mem
      · rcases mem_cons.mp mem with rfl | mem
        · decide
        · exact ih mem

theorem slash_not_mem_safePathSegment (s : Text) : 0x2F ∉ safePathSegment s := by
  intro mem
  unfold safePathSegment at mem
  dsimp only at mem
  split at mem
  · revert mem
    decide
  · have kept := mem_replaceRuns (mem_of_mem_take mem)
    revert kept
    decide

theorem mirrorPath_eq_iff {pathPrefix r r' m m' : Text}
    : mirrorPath pathPrefix r m = mirrorPath pathPrefix r' m'
      ↔ safePathSegment r = safePathSegment r' ∧ safePathSegment m = safePathSegment m' := by
  constructor
  · intro same
    have same := (cons.inj (append_cancel_left same)).2
    obtain ⟨recipients, ids⟩ :=
      append_mark_inj (slash_not_mem_safePathSegment r) (slash_not_mem_safePathSegment r') same
    exact ⟨recipients, append_cancel_right ids⟩
  · rintro ⟨recipients, ids⟩
    simp only [mirrorPath, recipients, ids]

theorem ne_nil_of_opaqueId {s id : Text} {name : String} (valid : opaqueId (.string s) name = .ok id)
    : id ≠ [] := by
  simp only [opaqueId, Value.string?] at valid
  split at valid
  · cases valid
  · next some =>
      split at valid
      · cases valid
      · rw [← Except.ok.inj valid]
        exact some

theorem ne_nil_of_actorId {s id : Text} {name : String} (valid : actorId (.string s) name = .ok id)
    : id ≠ [] := by
  unfold actorId at valid
  split at valid
  · cases valid
  · next found =>
      split at valid
      · rw [← Except.ok.inj valid]
        exact ne_nil_of_opaqueId found
      · cases valid

/-- Two accepted handoffs' files have one path exactly when recipients and message ids look alike. -/
theorem Handoff.mirrorPath_eq_iff {h h' : Handoff} {r r' pathPrefix : Text} (to_ : r ∈ h.recipients)
    (to' : r' ∈ h'.recipients)
    : mirrorPath pathPrefix r h.messageId = mirrorPath pathPrefix r' h'.messageId
      ↔ Alike r r' ∧ Alike h.messageId h'.messageId := by
  rw [Correspondence.mirrorPath_eq_iff,
    safePathSegment_eq_iff (ne_nil_of_actorId (h.recipients_valid r to_))
      (ne_nil_of_actorId (h'.recipients_valid r' to')),
    safePathSegment_eq_iff (ne_nil_of_opaqueId h.messageId_valid)
      (ne_nil_of_opaqueId h'.messageId_valid)]

section

variable {fingerprint : Handoff → Text} {sent : List SentMessage} {requests : List (Handoff × Text)}

/-- A message that is accepted is there afterwards, with what was there before. -/
theorem sendMessage_some {h : Handoff} {created stoneHash : Text} {later : List SentMessage}
    (done : sendMessage fingerprint sent h created = some (stoneHash, later))
    : (∃ known, findByMessage later h.sender h.messageId = some known
        ∧ known.fingerprint = fingerprint h ∧ known.stoneHash = stoneHash)
      ∧ ∀ sender id known, findByMessage sent sender id = some known
        → findByMessage later sender id = some known := by
  unfold sendMessage at done
  split at done
  · next known found =>
      split at done
      · next same =>
          cases done
          exact ⟨⟨known, found, same, rfl⟩, fun _ _ _ there => there⟩
      · cases done
  · next lost =>
      cases done
      unfold findByMessage at lost ⊢
      constructor
      · refine ⟨⟨h.sender, h.messageId, fingerprint h, created⟩, ?_, rfl, rfl⟩
        rw [find?_append, lost]
        simp
      · intro sender id known there
        rw [find?_append, there]
        rfl

theorem accepted_found {known : SentMessage} {d : Handoff × Text}
    (mem : d ∈ accepted fingerprint sent requests)
    (found : findByMessage sent d.1.sender d.1.messageId = some known)
    : known.fingerprint = fingerprint d.1 ∧ known.stoneHash = d.2 := by
  induction requests generalizing sent with
  | nil => cases mem
  | cons request requests ih =>
    rw [accepted] at mem
    split at mem
    · exact ih mem found
    · next stoneHash later done =>
        obtain ⟨⟨known', found', same, stone⟩, kept⟩ := sendMessage_some done
        rcases mem_cons.mp mem with rfl | mem
        · cases (kept _ _ _ found).symm.trans found'
          exact ⟨same, stone⟩
        · exact ih mem (kept _ _ _ found)

theorem accepted_same {d d' : Handoff × Text} (mem : d ∈ accepted fingerprint sent requests)
    (mem' : d' ∈ accepted fingerprint sent requests) (sender : d.1.sender = d'.1.sender)
    (id : d.1.messageId = d'.1.messageId)
    : fingerprint d.1 = fingerprint d'.1 ∧ d.2 = d'.2 := by
  induction requests generalizing sent with
  | nil => cases mem
  | cons request requests ih =>
    rw [accepted] at mem mem'
    split at mem
    · next denied =>
        simp only [denied] at mem'
        exact ih mem mem'
    · next stoneHash later done =>
        simp only [done] at mem'
        obtain ⟨⟨known, found, same, stone⟩, -⟩ := sendMessage_some done
        rcases mem_cons.mp mem with rfl | mem
        · rcases mem_cons.mp mem' with rfl | mem'
          · exact ⟨rfl, rfl⟩
          · have there := accepted_found mem' (by rw [← sender, ← id]; exact found)
            exact ⟨same.symm.trans there.1, stone.symm.trans there.2⟩
        · rcases mem_cons.mp mem' with rfl | mem'
          · have there := accepted_found mem (by rw [sender, id]; exact found)
            exact ⟨there.1.symm.trans same, there.2.symm.trans stone⟩
          · exact ih mem mem'

end

section

variable {answers : Nat → Bool} {file : MirrorFile} {files : List MirrorFile} {g : GitHub}

def OneText (files : List MirrorFile) : Prop :=
  ∀ a ∈ files, ∀ b ∈ files, a.1 = b.1 → a.2 = b.2

theorem mem_of_lookup {path found : Text} (there : files.lookup path = some found)
    : (path, found) ∈ files := by
  induction files with
  | nil => cases there
  | cons first files ih =>
    rw [lookup_cons] at there
    split at there
    · next same =>
        cases there
        rw [eq_of_beq same]
        exact .head _
    · exact .tail _ (ih there)

variable {all : List MirrorFile} (one : OneText all) (inside : g.files ⊆ all)
include one inside

/-- Putting a file of the right text conflicts with nothing and adds at most that file. -/
theorem putGitHubMirrorFile_spec (mine : file ∈ all)
    : (putGitHubMirrorFile answers file g).1 ≠ .conflict
      ∧ (putGitHubMirrorFile answers file g).2.files ⊆ all := by
  unfold putGitHubMirrorFile
  split
  · exact ⟨by simp, inside⟩
  · split
    · next found there =>
        have same : found = file.2 := one _ (inside (mem_of_lookup there)) _ mine rfl
        exact ⟨by simp [same], inside⟩
    · split
      · exact ⟨by simp, cons_subset.mpr ⟨mine, inside⟩⟩
      · exact ⟨by simp, inside⟩

theorem mirrorRun_spec (mine : files ⊆ all)
    : .conflict ∉ (mirrorRun answers files g).1 ∧ (mirrorRun answers files g).2.files ⊆ all := by
  induction files generalizing g with
  | nil => exact ⟨not_mem_nil, inside⟩
  | cons file files ih =>
    obtain ⟨head, tail⟩ := cons_subset.mp mine
    have ⟨clean, inside⟩ : (putGitHubMirrorFile answers file g).1 ≠ .conflict ∧ _ ⊆ all :=
      putGitHubMirrorFile_spec one inside head
    obtain ⟨cleanLater, inside⟩ := ih inside tail
    refine ⟨?_, inside⟩
    intro conflict
    rcases mem_cons.mp conflict with first | later
    · exact clean first.symm
    · exact cleanLater later

theorem putGitHubMirrorFile_replayed (mine : file ∈ all) (there : file.1 ∈ g.files.map (·.1))
    (said : answers g.asked = true)
    : (putGitHubMirrorFile answers file g).1 = .replayed := by
  unfold putGitHubMirrorFile
  rw [if_neg (by simp [said])]
  split
  · next found known =>
      have same : found = file.2 := one _ (inside (mem_of_lookup known)) _ mine rfl
      exact if_pos same
  · next lost =>
      obtain ⟨other, mem, same⟩ := mem_map.mp there
      have absent := lookup_eq_none_iff.mp lost other mem
      simp [same] at absent

end

section

variable (pathPrefix : Text) (indented : Value → Text) (fingerprint : Handoff → Text)
  (requests : List (Handoff × Text))

/-- The mirror is one-to-one on the handoffs that AC1 accepts exactly when their recipients and message
ids are told apart by their first 160 marks.
-/
theorem oneToOne_iff
    (collisionFree : ∀ d ∈ accepted fingerprint [] requests, ∀ d' ∈ accepted fingerprint [] requests,
      fingerprint d.1 = fingerprint d'.1 → d.1 = d'.1)
    : OneToOne pathPrefix indented (accepted fingerprint [] requests)
      ↔ Apart (accepted fingerprint [] requests) := by
  constructor
  · intro promised d member d' member' r to_ r' to' recipients ids
    exact promised.injective d member d' member' r to_ r' to'
      ((Handoff.mirrorPath_eq_iff to_ to').mpr ⟨recipients, ids⟩)
  · intro apart
    have injective : ∀ d ∈ accepted fingerprint [] requests, ∀ d' ∈ accepted fingerprint [] requests,
        ∀ r ∈ d.1.recipients, ∀ r' ∈ d'.1.recipients,
        mirrorPath pathPrefix r d.1.messageId = mirrorPath pathPrefix r' d'.1.messageId
        → r = r' ∧ d.1.messageId = d'.1.messageId ∧ d.1.sender = d'.1.sender := by
      intro d member d' member' r to_ r' to' same
      obtain ⟨recipients, ids⟩ := (Handoff.mirrorPath_eq_iff to_ to').mp same
      exact apart d member d' member' r to_ r' to' recipients ids
    -- equal paths are the same message's, which has one stone and so one text for the recipient
    have one : OneText ((accepted fingerprint [] requests).flatMap
        (createGitHubInboxMirror pathPrefix indented)) := by
      intro a left b right same
      obtain ⟨d, member, left⟩ := mem_flatMap.mp left
      obtain ⟨d', member', right⟩ := mem_flatMap.mp right
      obtain ⟨r, to_, rfl⟩ := mem_map.mp left
      obtain ⟨r', to', rfl⟩ := mem_map.mp right
      obtain ⟨recipient, id, sender⟩ := injective d member d' member' r to_ r' to' same
      obtain ⟨print, stone⟩ := accepted_same member member' sender id
      have handoff := collisionFree d member d' member' print
      simp only [recipient, handoff, stone]
    refine ⟨injective, ?_, ?_⟩
    · intro answers
      exact (mirrorRun_spec one (nil_subset _) (refl _)).1
    · intro answers d member file mine g there answered
      have inside : (mirrorRun answers _ ⟨[], 0⟩).2.files ⊆ _ :=
        (mirrorRun_spec one (nil_subset _) (refl _)).2
      exact putGitHubMirrorFile_replayed one inside (mem_flatMap.mpr ⟨d, member, mine⟩) there
        answered

end

theorem valid_recipients
    : ∀ r ∈ [text "user:a/b", text "user:a:b"], actorId (.string r) "to" = .ok r := by
  decide +kernel

theorem valid_recipient : ∀ r ∈ [text "user:a/b"], actorId (.string r) "to" = .ok r := by
  decide +kernel

theorem valid_messageId : opaqueId (.string (text "msg:1")) "message_id" = .ok (text "msg:1") := by
  decide +kernel

def twoUsers : Handoff where
  sender := text "agent:planner"
  recipients := [text "user:a/b", text "user:a:b"]
  messageId := text "msg:1"
  threadId := text "msg:1"
  subject := text "CairnStone V7 handoff"
  priority := text "normal"
  handoff := .literal [(text "task", .string (text "review"))]
  recipients_valid := valid_recipients
  messageId_valid := valid_messageId

/-- The second user's file conflicts with the first user's, of one message that is delivered once. -/
theorem twoUsers_conflict
    : ¬ OneToOne (text "inbox") stringify
        (accepted Handoff.messageId [] [(twoUsers, text "stone-1")]) := by
  intro promised
  refine promised.noConflict (fun _ => true) ?_
  decide +kernel

def oneUser : Handoff :=
  { twoUsers with recipients := [text "user:a/b"], recipients_valid := valid_recipient }

def sentAgain : List (Handoff × Text) :=
  [(oneUser, text "stone-1"), (oneUser, text "stone-2")]

theorem oneToOne_sentAgain
    : OneToOne (text "inbox") stringify (accepted Handoff.messageId [] sentAgain) := by
  have apart : Apart (accepted Handoff.messageId [] sentAgain) := by
    unfold Apart Alike
    decide +kernel
  refine (oneToOne_iff _ _ _ _ ?_).mpr apart
  have same : ∀ d ∈ accepted Handoff.messageId [] sentAgain, d.1 = oneUser := by
    intro d member
    have again : accepted Handoff.messageId [] sentAgain
        = [(oneUser, text "stone-1"), (oneUser, text "stone-1")] := rfl
    simp only [again, mem_cons, not_mem_nil, or_false, or_self] at member
    rw [member]
  intro d member d' member' _
  rw [same d member, same d' member']

end CairnStone.Correspondence
