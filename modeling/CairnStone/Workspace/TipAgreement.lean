import CairnStone.Workspace.Hydrate
import CairnStone.Workspace.Linearizability

/-! Tips and the revisions that they name. A tip repeats columns of its revision; they agree as
long as no write leaves the columns of another encoding in place, and no revision is ignored in
favour of one with other columns.
-/

namespace CairnStone.Workspace

open JavaScript Data Concurrency List World History Prod Sample Protocol.Meets

variable {cmd : Command}

/-- Any interleaving of operations that write tips, from empty draft tables. -/
abbrev treeRun (sha256Text : Text → Text) (workspaces : List (Text × Int))
    (schedule : List (Action draftPlane TreeCall))
    : Config draftPlane TreeCall Failure (Recorded ⊕ HydrateReport) :=
  (Config.init (World.initial workspaces)).run (TreeCall.body sha256Text) schedule

/-- Every tip has a revision with its columns, and inline text has no pointer. -/
def TipsAgree (world : World) : Prop :=
  ∀ tip ∈ world.tips,
    (∃ rev ∈ world.revisions, Describes rev tip) ∧ PlainText tip.contentEncoding tip.contentRef

/-- A statement that keeps columns: a revision is ignored only in favour of one with its
encoding, pointer and Git blob, and a write replaces only inline text.
-/
def KeepsColumns (_ : Nat) (cmd : Command) (h : History draftPlane) : Prop :=
  match cmd with
  | .insertRevision rev =>
    ∀ row ∈ World.revisions h.state, row.revisionId = rev.revisionId
      → row.contentEncoding = rev.contentEncoding ∧ row.contentRef = rev.contentRef
        ∧ row.gitBlobSha = rev.gitBlobSha
  | .overwriteTip key base _ _ _ =>
    ∀ tip ∈ World.tips h.state, World.matchesTip key base tip = true
      → tip.contentEncoding = .utf8Text ∧ tip.contentRef = none ∧ tip.gitBlobSha = none
  | _ => True

/-- What a run of such statements maintains. -/
structure Agreement (sha256Text : Text → Text) (h : History draftPlane) : Prop where
  identified : ∀ row ∈ World.revisions h.state, Identified sha256Text row
  plain : ∀ row ∈ World.revisions h.state, PlainText row.contentEncoding row.contentRef
  recorded
    : ∀ issued ∈ h.log, ∀ rev, issued.command = .insertRevision rev
      → (after issued).Knows rev.revisionId
      → ∃ row ∈ World.revisions h.state, ∀ tip, Describes rev tip → Describes row tip
  tips : ∀ tip, EverTip h tip → ∃ row ∈ World.revisions h.state, Describes row tip

instance (t : Nat) (cmd : Command) (h : History draftPlane)
    : Decidable (KeepsColumns t cmd h) := by
  unfold KeepsColumns
  split <;> infer_instance

variable {sha256Text : Text → Text} {t : Nat} {h : History draftPlane}

theorem everTip_exec {tip : TipRow} (ever : EverTip (h.exec t cmd) tip)
    : EverTip h tip ∨ tip ∈ (World.exec cmd h.state).2.tips := by
  rcases ever with now | ⟨issued, mem, before⟩
  · exact .inr now
  · rcases mem_cons.mp mem with rfl | prior
    · exact .inl (.inl before)
    · exact .inl (.inr ⟨issued, prior, before⟩)

theorem Agreement.tipStatement (agreement : Agreement sha256Text h)
    (isInsert : ∀ rev, cmd ≠ .insertRevision rev)
    (revisions : (World.exec cmd h.state).2.revisions = revisions h.state)
    (tips
      : ∀ tip ∈ (World.exec cmd h.state).2.tips,
          tip ∈ World.tips h.state ∨ ∃ row ∈ World.revisions h.state, Describes row tip)
    : Agreement sha256Text (h.exec t cmd) := by
  constructor
  case identified =>
    rw [exec_state, revisions]
    exact agreement.identified
  case plain =>
    rw [exec_state, revisions]
    exact agreement.plain
  case recorded =>
    rw [exec_state, revisions]
    intro issued mem rev insert
    rcases mem_cons.mp mem with rfl | prior
    · exact absurd insert (isInsert rev)
    · exact agreement.recorded issued prior rev insert
  case tips =>
    rw [exec_state, revisions]
    intro tip ever
    rcases everTip_exec ever with old | new
    · exact agreement.tips tip old
    · rcases tips tip new with old | described
      · exact agreement.tips tip (.inl old)
      · exact described

/-- Recording a revision keeps the agreement, whether the row is added, ignored or refused. -/
theorem Agreement.insertRevision (agreement : Agreement sha256Text h) {rev : RevisionRow}
    (strong : CollisionFree sha256Text)
    (promise : Promise sha256Text t h (.insertRevision rev))
    (keeps : KeepsColumns t (.insertRevision rev) h)
    : Agreement sha256Text (h.exec t (.insertRevision rev)) := by
  obtain ⟨identified, inherits⟩ := promise
  have plain : PlainText rev.contentEncoding rev.contentRef := by
    rcases inherits with plain | ⟨source, ever, encoding, ref⟩
    · exact plain
    · obtain ⟨row, mem, tells⟩ := agreement.tips source ever
      rw [encoding, ref, ← tells.contentEncoding, ← tells.contentRef]
      exact agreement.plain row mem
  have stays (same : (World.insertRevision h.state rev).2 = h.state)
      (recorded
        : Knows h.state rev.revisionId
          → ∃ row ∈ revisions h.state, ∀ tip, Describes rev tip → Describes row tip)
      : Agreement sha256Text (h.exec t (.insertRevision rev)) := by
    have state : (h.exec t (.insertRevision rev)).state = h.state := same
    refine ⟨by rw [state]; exact agreement.identified, by rw [state]; exact agreement.plain,
      ?_, ?_⟩
    · rw [state]
      intro issued mem rev' insert known
      rcases mem_cons.mp mem with rfl | prior
      · cases insert
        exact recorded (by rw [← same]; exact known)
      · exact agreement.recorded issued prior rev' insert known
    · rw [state]
      intro tip ever
      rcases everTip_exec ever with old | new
      · exact agreement.tips tip old
      · have new : tip ∈ (World.insertRevision h.state rev).2.tips := new
        exact agreement.tips tip (.inl (same ▸ new))
  rcases insertRevision_cases h.state rev with ⟨known, ignored⟩ | ⟨unknown, denied | added⟩
  · refine stays (by rw [ignored]) (fun _ => ?_)
    obtain ⟨row, mem, sameId⟩ := known
    obtain ⟨encoding, ref, sha⟩ := keeps row mem sameId
    have ids : computeRevisionId sha256Text row.workspaceId row.tipPath row.parentRevisionId
        row.contentHash row.actorId
          = computeRevisionId sha256Text rev.workspaceId rev.tipPath rev.parentRevisionId
              rev.contentHash rev.actorId := by
      rw [← agreement.identified row mem, ← identified, sameId]
    obtain ⟨workspace, path, _, hash, _⟩ := computeRevisionId_inj strong ids
    refine ⟨row, mem, fun tip tells => ?_⟩
    exact {
      revisionId := sameId.trans tells.revisionId
      workspaceId := workspace.trans tells.workspaceId
      path := path.trans tells.path
      contentHash := hash.trans tells.contentHash
      contentEncoding := encoding.trans tells.contentEncoding
      contentRef := ref.trans tells.contentRef
      gitBlobSha := sha.trans tells.gitBlobSha
    }
  · exact stays (by rw [denied]) (fun known => absurd known unknown)
  · have state : (h.exec t (.insertRevision rev)).state
        = { (h.state : World) with revisions := revisions h.state ++ [rev] } :=
      congrArg snd added
    have old {row : RevisionRow} (mem : row ∈ revisions h.state)
        : row ∈ revisions (h.exec t (.insertRevision rev)).state := by
      rw [state]
      exact mem_append_left _ mem
    have new : rev ∈ revisions (h.exec t (.insertRevision rev)).state := by
      rw [state]
      exact mem_append_right _ (.head _)
    have either {row : RevisionRow}
        (mem : row ∈ revisions (h.exec t (.insertRevision rev)).state)
        : row ∈ revisions h.state ∨ row = rev := by
      rw [state] at mem
      exact (mem_append.mp mem).imp_right mem_singleton.mp
    constructor
    case identified =>
      intro row mem
      rcases either mem with here | rfl
      · exact agreement.identified row here
      · exact identified
    case plain =>
      intro row mem
      rcases either mem with here | rfl
      · exact agreement.plain row here
      · exact plain
    case recorded =>
      intro issued mem rev' insert known
      rcases mem_cons.mp mem with rfl | prior
      · cases insert
        exact ⟨rev, new, fun tip tells => tells⟩
      · obtain ⟨row, here, stands⟩ := agreement.recorded issued prior rev' insert known
        exact ⟨row, old here, stands⟩
    case tips =>
      intro tip ever
      have before : EverTip h tip := by
        rcases everTip_exec ever with before | after
        · exact before
        · have after : tip ∈ (World.insertRevision h.state rev).2.tips := after
          rw [added] at after
          exact .inl after
      obtain ⟨row, here, tells⟩ := agreement.tips tip before
      exact ⟨row, old here, tells⟩

theorem Agreement.described (agreement : Agreement sha256Text h) {rev : RevisionRow}
    {tip : TipRow} (records : Records (h.own t) rev) (tells : Describes rev tip)
    : ∃ row ∈ revisions h.state, Describes row tip := by
  obtain ⟨issued, mem, insert, known⟩ := records
  obtain ⟨row, here, stands⟩ :=
    agreement.recorded issued (mem_own.mp mem).1 rev insert known
  exact ⟨row, here, stands tip tells⟩

/-- Every statement that keeps columns keeps the agreement.
Witness: case analysis on the statement; a new tip has the columns of a recorded revision.
-/
theorem Agreement.exec (agreement : Agreement sha256Text h)
    (strong : CollisionFree sha256Text) (promise : Promise sha256Text t h cmd)
    (keeps : KeepsColumns t cmd h)
    : Agreement sha256Text (h.exec t cmd) := by
  cases cmd with
  | insertRevision rev => exact agreement.insertRevision strong promise keeps
  | putBlob key content =>
    have same : (World.exec (.putBlob key content) h.state).2.revisions = revisions h.state
        ∧ (World.exec (.putBlob key content) h.state).2.tips = World.tips h.state := by
      simp only [World.exec]
      split <;> exact ⟨rfl, rfl⟩
    exact agreement.tipStatement (fun _ same => by cases same) same.1 (fun tip mem =>
      .inl (same.2 ▸ mem))
  | touchWorkspace => exact agreement.tipStatement (fun _ same => by cases same) rfl (fun _ => .inl)
  | insertTreeOp => exact agreement.tipStatement (fun _ same => by cases same) rfl (fun _ => .inl)
  | insertTip row =>
    obtain ⟨rev, records, tells, _⟩ := promise
    have put := insertTip_spec h.state row
    rcases put with ⟨error, fails, _⟩ | ⟨adds, _⟩
    · have same : (World.exec (.insertTip row) h.state).2 = h.state := congrArg snd fails
      exact agreement.tipStatement (fun _ same => by cases same) (by rw [same])
        (fun tip mem => .inl (same ▸ mem))
    · have world : (World.exec (.insertTip row) h.state).2
          = { (h.state : World) with tips := World.tips h.state ++ [row] } :=
        congrArg snd adds
      refine agreement.tipStatement (fun _ same => by cases same) (by rw [world]) (fun tip mem => ?_)
      rw [world] at mem
      rcases mem_append.mp mem with old | new
      · exact .inl old
      · cases mem_singleton.mp new
        exact .inr (agreement.described records tells)
  | deleteTipCas key base =>
    exact agreement.tipStatement (fun _ same => by cases same) rfl
      (fun tip mem => .inl (mem_of_mem_filter mem))
  | updateTipCas base row =>
    obtain ⟨_, _, rev, records, _, tells⟩ := promise
    refine agreement.tipStatement (fun _ same => by cases same) rfl (fun tip mem => ?_)
    obtain ⟨old, here, rfl⟩ := mem_updateWhere.mp mem
    split
    · rename_i hit
      obtain ⟨workspace, path⟩ := mk.inj (matchesTip_iff.mp hit).1
      refine .inr (agreement.described records ?_)
      exact { tells with
        workspaceId := tells.workspaceId.trans workspace.symm
        path := tells.path.trans path.symm }
    · exact .inl here
  | overwriteTip key base revisionId contentHash updatedAt =>
    obtain ⟨_, _, rev, records, rewrites, id, hash, encoding, ref, sha⟩ := promise
    refine agreement.tipStatement (fun _ same => by cases same) rfl (fun tip mem => ?_)
    obtain ⟨old, here, rfl⟩ := mem_updateWhere.mp mem
    split
    · rename_i hit
      obtain ⟨oldEncoding, oldRef, oldSha⟩ := keeps old here hit
      have key := rewrites.key.trans (matchesTip_iff.mp hit).1.symm
      obtain ⟨workspace, path⟩ := mk.inj key
      refine .inr (agreement.described records ?_)
      exact {
        revisionId := id
        workspaceId := workspace
        path := (RevisionRow.tipPath_of_write rewrites.op).trans path
        contentHash := hash
        contentEncoding := encoding.trans oldEncoding.symm
        contentRef := ref.trans oldRef.symm
        gitBlobSha := sha.trans oldSha.symm
      }
    · exact .inl here

theorem owes_treeBody {call : TreeCall} {start : History draftPlane}
    (lawful : Lawful start.state) (fresh : start.own t = [])
    : Obliged TreeCall sha256Text t call (call.body sha256Text) (fun _ _ => True) start := by
  have moved : Moved t [] start := ⟨lawful, fresh ▸ .nil⟩
  cases call with
  | draft call =>
    have body {Q} (obliged : Obliged TreeCall sha256Text t (.draft call) (call.body sha256Text) Q
        start)
        : Obliged TreeCall sha256Text t (.draft call) (TreeCall.body sha256Text (.draft call))
            (fun _ _ => True) start :=
      seq obliged (fun _ _ _ _ => owes_done (fun _ _ => trivial))
        (fun _ _ _ _ => trivial)
    cases call with
    | writeDraft args now => exact body (owes_writeDraft moved (.inl rfl))
    | deleteDraft args now => exact body (owes_deleteDraft moved)
    | renameDraft args now => exact body (owes_renameDraft moved)
    | writeDraftFromContentRef args now =>
      exact body (owes_writeDraftFromContentRef moved (.inl rfl))
  | hydrate github args clock =>
    exact seq (owes_hydrateWorkspaceFromGit ⟨[], moved⟩)
      (fun _ _ _ _ => owes_done (fun _ _ => trivial)) (fun _ _ _ _ => trivial)

/-- If every statement keeps columns, every tip agrees with its revision.
Witness: induction on the run with one statement's preservation.
-/
theorem tipsAgree_of_keepsColumns {sha256Text : Text → Text}
    (collisionFree : CollisionFree sha256Text) (workspaces : List (Text × Int))
    (schedule : List (Action draftPlane TreeCall))
    (keeps : (treeRun sha256Text workspaces schedule).history.Respects KeepsColumns)
    : TipsAgree (treeRun sha256Text workspaces schedule).state := by
  have initial : Agreement sha256Text ⟨initial workspaces, []⟩ := by
    refine ⟨fun row member => absurd member not_mem_nil,
      fun row member => absurd member not_mem_nil,
      fun issued member => absurd member not_mem_nil, fun tip ever => ?_⟩
    rcases ever with now | ⟨issued, member, _⟩
    · cases now
    · cases member
  have agreement : Agreement sha256Text (treeRun sha256Text workspaces schedule).history :=
    Protocol.run_promised (P := draftProtocol TreeCall sha256Text)
      (fun _ _ _ lawful unstarted => owes_treeBody lawful unstarted)
      (lawful_initial workspaces) initial
      (fun _ promise keeps agreement => Agreement.exec agreement collisionFree promise keeps)
      (fun _ _ agreement =>
        ⟨agreement.identified, agreement.plain, agreement.recorded, agreement.tips⟩)
      schedule keeps
  intro tip member
  obtain ⟨row, present, describes⟩ := agreement.tips tip (.inl member)
  refine ⟨⟨row, present, describes⟩, ?_⟩
  rw [← describes.contentEncoding, ← describes.contentRef]
  exact agreement.plain row present

namespace Sample

theorem one_small : 1 < 2 ^ 53 := by
  norm_num

def one : Number :=
  .ofNat 1 one_small

def gitBlobSha : Text :=
  hex 40 0xe69de29bb2d1d6434b8b29ae775ad8c2e48c5391

def hashOfBlob : Text :=
  hex 64 0xb69e236e92cc21bb65038e7e41d848ccbe6563f70516a724e7ea2cf306bd01e9

/-- The revision that creates `p` by reference to the blob. -/
def referencedP : Text :=
  hex 64 0xfdba0217f0c288e72d6d2b1919a600cffb39a70b5440f2dca72181c627b30f7c

/-- Digests of the texts that the runs below hash. -/
def blobSha256 : Text → Text :=
  tabled
    [(text "a", hashOfA), (text "git-blob:" ++ gitBlobSha, hashOfBlob),
      (envelope "p" none hashOfA, createdP),
      (envelope "p" none hashOfBlob, referencedP),
      (envelope "p" (some referencedP) hashOfA,
        hex 64 0xe3b60f9cb7ad1df3a8b7497710e154389f5e5c3825f2c7ab831810523ce25ee6),
      (envelope "q" none hashOfBlob,
        hex 64 0xc746a27aa8ce6961a7ef4fb1f17868839dddda15334dc5b116bcee155c821801)]

theorem collisionFree_blobSha256 : CollisionFree blobSha256 :=
  collisionFree_tabled (by decide +kernel) (by decide +kernel)

/-- `user:a` creates `p` by reference to the blob. -/
def createByReference : Call :=
  .writeDraftFromContentRef
    { workspaceId := .string (text "ws:w"), path := .string (text "p")
      contentRef := .string (text "git:o/r@c:p"), contentBytes := one
      contentSha256 := .string hashOfBlob, gitBlobSha := .string gitBlobSha
      baseRevision := .null, actorId := .string (text "user:a") } 0

/-- `user:a` writes `a` over the reference. -/
def overwriteReference : Call :=
  .writeDraft
    { workspaceId := .string (text "ws:w"), path := .string (text "p")
      content := .string (text "a"), baseRevision := .string referencedP
      actorId := .string (text "user:a") } 0

/-- `user:a` hydrates the workspace from a repository with one file `q`. -/
def hydrateQ : TreeCall :=
  .hydrate
    { fetchGitHubRepoTree :=
        some (fun _ _ _ _ =>
          .ok
            [{ kind := text "blob", path := text "q", size := one
               sha := some gitBlobSha }])
      fetchGitHubFile := none }
    { workspaceId := .string (text "ws:w"), actorId := .string (text "user:a")
      owner := text "o", repo := text "r", commitSha := gitBlobSha, rootPath := .null
      maxFiles := one, inlineMaxBytes := .zero
      pathPrefix := .null } (fun _ => 0)

end Sample

theorem tipsAgree_createAndHydrate
    : TipsAgree
        (treeRun Sample.blobSha256 [(text "ws:w", 0)]
          (.spawn (.draft (Sample.create "p" "a")) :: Sample.steps 5 0
            ++ .spawn Sample.hydrateQ :: Sample.steps 7 1)).state :=
  tipsAgree_of_keepsColumns collisionFree_blobSha256 _ _ (by decide +kernel)

/-- Text written over a reference leaves a tip with the reference's encoding, pointer and Git
blob, which its revision does not have.
-/
theorem textOverReferenceDisagrees
    : ¬ TipsAgree
        (treeRun Sample.blobSha256 [(text "ws:w", 0)]
          (.spawn (.draft Sample.createByReference) :: Sample.steps 5 0
            ++ .spawn (.draft Sample.overwriteReference) :: Sample.steps 5 1)).state := by
  intro agree
  have facts
      : let run :=
          treeRun blobSha256 [(text "ws:w", 0)]
            (.spawn (.draft createByReference) :: steps 5 0
              ++ .spawn (.draft overwriteReference) :: steps 5 1)
        ∃ tip ∈ tips run.state, ∀ rev ∈ revisions run.state,
          rev.revisionId = tip.revisionId → rev.contentEncoding ≠ tip.contentEncoding := by
    decide +kernel
  obtain ⟨tip, member, differs⟩ := facts
  obtain ⟨⟨rev, present, describes⟩, _⟩ := agree tip member
  exact differs rev present describes.revisionId describes.contentEncoding

end CairnStone.Workspace
