import CairnStone.Workspace.TipMoves

/-! What every draft operation promises, in any interleaving. Before it changes a tip it records
the revision that the tip will name, and its own statements move tips in a fixed pattern.
-/

namespace CairnStone.Workspace

open JavaScript Data Concurrency Protocol List World History Meets Prod

variable {h' : History draftPlane} {key : Text × Text} {cmd : Command}

/-- Executed statements, the newest first. -/
abbrev Trace := List (Issued draftPlane)

inductive TipMoves : Trace → List Move → Prop where
  | nil : TipMoves [] []
  | still {issued : Issued draftPlane} {trace : Trace} {moves : List Move} (still : Still issued)
      (rest : TipMoves trace moves)
      : TipMoves (issued :: trace) moves
  | move {issued : Issued draftPlane} {trace : Trace} {moves : List Move} {move : Move}
      (changes : Moves issued.before (after issued) move) (rest : TipMoves trace moves)
      : TipMoves (issued :: trace) (move :: moves)

variable {trace : Trace}

/-- Every statement of the trace makes one of the moves, or none.
Witness: induction on the trace.
-/
theorem TipMoves.each {moves : List Move} (tipMoves : TipMoves trace moves)
    : ∀ issued ∈ trace,
        Still issued ∨ ∃ move ∈ moves, Moves issued.before (after issued) move := by
  induction tipMoves with
  | nil => exact fun issued mem => absurd mem not_mem_nil
  | still still rest ih =>
    intro issued mem
    rcases mem_cons.mp mem with rfl | prior
    · exact .inl still
    · exact ih issued prior
  | move edits rest ih =>
    intro issued mem
    rcases mem_cons.mp mem with rfl | prior
    · exact .inr ⟨_, .head _, edits⟩
    · exact (ih issued prior).imp_right
        (fun ⟨prior, made, moves⟩ => ⟨prior, .tail _ made, moves⟩)

/-- Every move is made by a statement of the trace. Witness: induction on the trace. -/
theorem TipMoves.made {moves : List Move} (tipMoves : TipMoves trace moves)
    : ∀ move ∈ moves, ∃ issued ∈ trace, Moves issued.before (after issued) move := by
  induction tipMoves with
  | nil => exact fun move mem => absurd mem not_mem_nil
  | still still rest ih =>
    intro move mem
    obtain ⟨issued, made, moves⟩ := ih move mem
    exact ⟨issued, .tail _ made, moves⟩
  | move edits rest ih =>
    intro move mem
    rcases mem_cons.mp mem with rfl | prior
    · exact ⟨_, .head _, edits⟩
    · obtain ⟨issued, made, moves⟩ := ih move prior
      exact ⟨issued, .tail _ made, moves⟩

def RevisionRow.tipPath (rev : RevisionRow) : Text :=
  match rev.op with
  | .rename => rev.renameToPath.getD rev.path
  | _ => rev.path

variable {rev : RevisionRow}

theorem RevisionRow.tipPath_of_write (write : rev.op = .write)
    : rev.tipPath = rev.path := by
  rw [tipPath, write]

structure Describes (rev : RevisionRow) (tip : TipRow) : Prop where
  revisionId : rev.revisionId = tip.revisionId
  workspaceId : rev.workspaceId = tip.workspaceId
  path : rev.tipPath = tip.path
  contentHash : rev.contentHash = tip.contentHash
  contentEncoding : rev.contentEncoding = tip.contentEncoding
  contentRef : rev.contentRef = tip.contentRef
  gitBlobSha : rev.gitBlobSha = tip.gitBlobSha

def Identified (sha256Text : Text → Text) (rev : RevisionRow) : Prop :=
  rev.revisionId
    = computeRevisionId sha256Text rev.workspaceId rev.tipPath rev.parentRevisionId
        rev.contentHash rev.actorId

theorem computeRevisionId_inj {sha256Text : Text → Text} (strong : CollisionFree sha256Text)
    {wsId wsId' path path' contentHash contentHash' actor actor' : Text}
    {parent parent' : Option Text}
    (same
      : computeRevisionId sha256Text wsId path parent contentHash actor
        = computeRevisionId sha256Text wsId' path' parent' contentHash' actor')
    : wsId = wsId' ∧ path = path' ∧ parent.filter (· ≠ []) = parent'.filter (· ≠ [])
      ∧ contentHash = contentHash' ∧ actor = actor' := by
  have keys
      : (revisionEnvelope wsId path parent contentHash actor).map (·.1)
        = (revisionEnvelope wsId' path' parent' contentHash' actor').map (·.1) := rfl
  have envelopes := strong.stableRecord_inj keys same
  simp only [revisionEnvelope, List.cons.injEq, Prod.mk.injEq, Option.some.injEq, true_and,
    and_true] at envelopes
  obtain ⟨actors, hashes, parents, paths, workspaces⟩ := envelopes
  exact ⟨workspaces, paths, parents, hashes, actors⟩

def Records (trace : Trace) (rev : RevisionRow) : Prop :=
  ∃ issued ∈ trace, issued.command = .insertRevision rev ∧ (after issued).Knows rev.revisionId

/-- The row of a write that replaces the revision `base` at a key. -/
structure Rewrites (rev : RevisionRow) (key : Text × Text) (base : Text) : Prop where
  op : rev.op = .write
  key : (rev.workspaceId, rev.path) = key
  parent : rev.parentRevisionId = some base
  named : base ≠ []

def PlainText (contentEncoding : ContentEncoding) (contentRef : Option Text) : Prop :=
  contentEncoding = .utf8Text → contentRef = none

def EverTip (h : History draftPlane) (tip : TipRow) : Prop :=
  tip ∈ World.tips h.state ∨ ∃ issued ∈ h.log, tip ∈ issued.before.tips

/-- What only grows along a run: the references that resolve, and the tips that there ever were.
-/
structure Onward (h h' : History draftPlane) : Prop where
  grows : World.Grows h.state h'.state
  tips : ∀ tip, EverTip h tip → EverTip h' tip

theorem Onward.refl (h : History draftPlane) : Onward h h :=
  ⟨.refl _, fun _ ever => ever⟩

theorem Onward.trans {a b c : History draftPlane} (first : Onward a b) (second : Onward b c)
    : Onward a c :=
  ⟨first.grows.trans second.grows, fun tip ever => second.tips tip (first.tips tip ever)⟩

theorem onward_exec (h : History draftPlane) (t : Nat) (cmd : Command)
    : Onward h (h.exec t cmd) := by
  refine ⟨grows_exec _ _, fun tip ever => .inr ?_⟩
  rcases ever with now | ⟨issued, mem, before⟩
  · exact ⟨_, .head _, now⟩
  · exact ⟨issued, .tail _ mem, before⟩

/-- What a thread promises of a statement, given its own trace: a tip names a revision that the
thread has recorded, and a tip with a parent takes the place of that parent.
-/
def Promise (sha256Text : Text → Text) (t : Nat) (h : History draftPlane) : Command → Prop
  | .insertRevision rev =>
    Identified sha256Text rev
    ∧ (PlainText rev.contentEncoding rev.contentRef
      ∨ ∃ source, EverTip h source ∧ rev.contentEncoding = source.contentEncoding
        ∧ rev.contentRef = source.contentRef)
  | .insertTip row =>
    ∃ rev, Records (h.own t) rev ∧ Describes rev row
      ∧ (rev.op = .write ∧ rev.parentRevisionId = none
        ∨ rev.op = .rename ∧ ∃ base, rev.parentRevisionId = some base ∧ base ≠ []
          ∧ TipMoves (h.own t) [⟨(row.workspaceId, rev.path), some base, none⟩])
  | .overwriteTip key base revisionId contentHash _ =>
    World.Knows h.state revisionId ∧ TipMoves (h.own t) []
    ∧ ∃ rev, Records (h.own t) rev ∧ Rewrites rev key base ∧ rev.revisionId = revisionId
      ∧ rev.contentHash = contentHash ∧ rev.contentEncoding = .utf8Text
      ∧ rev.contentRef = none ∧ rev.gitBlobSha = none
  | .updateTipCas base row =>
    World.Knows h.state row.revisionId ∧ TipMoves (h.own t) []
    ∧ ∃ rev, Records (h.own t) rev ∧ Rewrites rev row.key base ∧ Describes rev row
  | _ => True

def draftProtocol (Call : Type) (sha256Text : Text → Text) : Protocol draftPlane Call where
  inv h := World.Lawful h.state
  le := Onward
  pre t _ cmd h := Promise sha256Text t h cmd
  refl := Onward.refl
  trans := Onward.trans
  exec_inv := by
    intro h t call cmd lawful promise
    refine World.Lawful.exec lawful ?_
    cases cmd with
    | overwriteTip => exact promise.1
    | updateTipCas => exact promise.1
    | _ => trivial
  exec_le := fun _ _ => onward_exec _ _ _
  disturb_inv := fun _ lawful => ⟨lawful.tips, lawful.workspaces, lawful.revisions⟩
  disturb_le := fun _ _ => ⟨⟨fun _ has => has, fun _ known => known⟩, fun _ ever => ever⟩

theorem Records.cons (records : Records trace rev) (issued : Issued draftPlane)
    : Records (issued :: trace) rev := by
  obtain ⟨known, mem, isInsert⟩ := records
  exact ⟨known, .tail _ mem, isInsert⟩

variable {Call : Type} {sha256Text : Text → Text} {t : Nat} {call : Call} {α β : Type}
  {Q : Except Failure α → History draftPlane → Prop} {h : History draftPlane}

/-- From `h` on, the operation keeps its promises, and its answers satisfy `Q`. -/
abbrev Obliged (Call : Type) (sha256Text : Text → Text) (t : Nat) (call : Call) (p : Draft α)
    (Q : Except Failure α → History draftPlane → Prop) (h : History draftPlane)
    : Prop :=
  (draftProtocol Call sha256Text).Meets t call p Q h

/-- Other threads have moved, and references have survived. -/
structure Later (t : Nat) (h h' : History draftPlane) : Prop extends Onward h h' where
  lawful : World.Lawful h'.state
  own : h'.own t = h.own t

theorem Later.of_interference (moved : (draftProtocol Call sha256Text).Interference t h h')
    : Later t h h' :=
  ⟨moved.le, moved.inv, moved.own⟩

/-- A checked argument, or the refusal. -/
theorem owes_refuse_bind {result : Except Refused β} {g : β → Draft α}
    (ok : ∀ value, result = .ok value → Obliged Call sha256Text t call (g value) Q h)
    (error : ∀ reason h', Later t h h' → Q (.error (.refused reason)) h')
    : Obliged Call sha256Text t call ((refuse result).bind g) Q h := by
  cases result with
  | ok value => exact ok value rfl
  | error reason => exact fun h' moved => error reason h' (.of_interference moved)

/-- An answer that stays true while only others move. -/
theorem owes_fail {failure : Failure}
    (error : ∀ h', Later t h h' → Q (.error failure) h')
    : Obliged Call sha256Text t call (.fail failure : Draft α) Q h :=
  fun h' moved => error h' (.of_interference moved)

theorem owes_done {value : α} (ok : ∀ h', Later t h h' → Q (.ok value) h')
    : Obliged Call sha256Text t call (.done value : Draft α) Q h :=
  fun h' moved => ok h' (.of_interference moved)

theorem owes_getWorkspaceTip_bind {g : Option TipRow → Draft α}
    (next
      : ∀ h', Later t h h' → Obliged Call sha256Text t call (g (tipAt h'.state key)) Q h')
    : Obliged Call sha256Text t call ((getWorkspaceTip key).bind g) Q h :=
  select_bind (fun h' moved => next h' (.of_interference moved))

theorem Later.trans {h'' : History draftPlane} (first : Later t h h') (second : Later t h' h'')
    : Later t h h'' :=
  ⟨first.toOnward.trans second.toOnward, second.lawful, second.own.trans first.own⟩

/-- Answering with the tip as it is now. -/
theorem owes_conflictResult
    (error : ∀ current h', Later t h h' → Q (.error (.conflict current)) h')
    : Obliged Call sha256Text t call (conflictResult key : Draft α) Q h := by
  refine owes_getWorkspaceTip_bind (fun h' later => ?_)
  exact owes_fail (fun h'' later' => error _ h'' (later.trans later'))

variable {g : Unit → Draft α}

theorem owes_checkBase_bind {tip : Option TipRow} {base : Option Text}
    (ok : tip.map (·.revisionId) = base → Obliged Call sha256Text t call (g ()) Q h)
    (error : ∀ current h', Later t h h' → Q (.error (.conflict current)) h')
    : Obliged Call sha256Text t call ((checkBase tip base).bind g) Q h := by
  unfold checkBase
  split
  · exact ok rfl
  · exact owes_fail (error _)
  · exact owes_fail (error _)
  · split
    · rename_i same
      exact ok (by rw [Option.map_some, same])
    · exact owes_fail (error _)

/-- One statement, after which the rest goes on from the longer trace. -/
theorem owes_perform_bind {g : cmd.Reply → Draft α}
    (next
      : ∀ h', Later t h h'
        → Promise sha256Text t h' cmd
          ∧ Obliged Call sha256Text t call (g (World.exec cmd h'.state).1) Q (h'.exec t cmd))
    : Obliged Call sha256Text t call ((perform cmd).bind g) Q h :=
  perform_bind (fun h' moved => next h' (.of_interference moved))

structure Moved (t : Nat) (moves : List Move) (h : History draftPlane) : Prop where
  lawful : World.Lawful h.state
  moves : TipMoves (h.own t) moves

variable {moves : List Move}

theorem Moved.later (moved : Moved t moves h) (later : Later t h h')
    : Moved t moves h' :=
  ⟨later.lawful, later.own ▸ moved.moves⟩

theorem Moved.still (moved : Moved t moves h) (lawful : Lawful (h.exec t cmd).state)
    (still : (World.exec cmd h.state).2.tips = tips h.state)
    : Moved t moves (h.exec t cmd) := by
  refine ⟨lawful, ?_⟩
  rw [own_exec_self]
  exact .still still moved.moves

theorem Moved.move (moved : Moved t moves h) {move : Move}
    (lawful : Lawful (h.exec t cmd).state)
    (edits : Moves h.state (World.exec cmd h.state).2 move)
    : Moved t (move :: moves) (h.exec t cmd) := by
  refine ⟨lawful, ?_⟩
  rw [own_exec_self]
  exact .move edits moved.moves

variable (sha256Text) in
theorem lawful_exec (lawful : Lawful h.state) (promise : Promise sha256Text t h cmd)
    : Lawful (h.exec t cmd).state := by
  have due : (draftProtocol Unit sha256Text).pre t () cmd h := promise
  exact (draftProtocol Unit sha256Text).exec_inv lawful due

structure Recording (t : Nat) (moves : List Move) (rev : RevisionRow) (h : History draftPlane)
    : Prop extends Moved t moves h where
  records : Records (h.own t) rev
  known : World.Knows h.state rev.revisionId

theorem Recording.later (saves : Recording t moves rev h) (later : Later t h h')
    : Recording t moves rev h' where
  toMoved := saves.toMoved.later later
  records := later.own ▸ saves.records
  known := later.grows.revisions _ saves.known

theorem owes_putWorkspaceBlob_bind {key content : Text} (moved : Moved t moves h)
    (ok : ∀ h', Onward h h' → Moved t moves h' → Obliged Call sha256Text t call (g ()) Q h')
    (error : ∀ h', Moved t moves h' → Q (.error .bucketRejected) h')
    : Obliged Call sha256Text t call ((putWorkspaceBlob key content).bind g) Q h := by
  refine bind (owes_perform_bind (fun h' later => ⟨trivial, ?_⟩))
  have still : (World.exec (.putBlob key content) h'.state).2.tips = tips h'.state := by
    simp only [World.exec]
    split <;> rfl
  have promise : Promise sha256Text t h' (.putBlob key content) := trivial
  have moved' := (moved.later later).still (lawful_exec sha256Text later.lawful promise) still
  have onward := later.toOnward.trans (onward_exec h' t (.putBlob key content))
  cases (World.exec (.putBlob key content) h'.state).1 with
  | true =>
    exact owes_done (fun h2 later2 => ok h2 (onward.trans later2.toOnward) (moved'.later later2))
  | false => exact owes_fail (fun h2 later2 => error h2 (moved'.later later2))

theorem owes_insertRevisionRow_bind (moved : Moved t moves h)
    (promises : ∀ h', Later t h h' → Promise sha256Text t h' (.insertRevision rev))
    (ok : ∀ h', Onward h h' → Recording t moves rev h'
      → Obliged Call sha256Text t call (g ()) Q h')
    (error : ∀ failure h', Moved t moves h' → Q (.error (.sqlError failure)) h')
    : Obliged Call sha256Text t call ((insertRevisionRow rev).bind g) Q h := by
  refine bind (owes_perform_bind (fun h' later => ⟨promises h' later, ?_⟩))
  have still
      : (World.exec (.insertRevision rev) h'.state).2.tips = tips h'.state := by
    simp only [World.exec, insertRevision]
    split
    · rfl
    · split <;> rfl
  have moved' := (moved.later later).still
    (lawful_exec sha256Text later.lawful (promises h' later)) still
  have onward := later.toOnward.trans (onward_exec h' t (.insertRevision rev))
  rcases insertRevision_spec h'.state rev with ⟨fails, _⟩ | ⟨adds, knows⟩
  · have fails : (World.exec (.insertRevision rev) h'.state).1 = .error .foreignKey := fails
    rw [fails]
    exact owes_fail (fun h2 later2 => error _ h2 (moved'.later later2))
  · have adds : (World.exec (.insertRevision rev) h'.state).1 = .ok () := adds
    rw [adds]
    have records : Records ((h'.exec t (.insertRevision rev)).own t) rev := by
      rw [own_exec_self]
      exact ⟨_, .head _, rfl, knows⟩
    have saves : Recording t moves rev (h'.exec t (.insertRevision rev)) :=
      { toMoved := moved', records, known := knows }
    exact owes_done (fun h2 later2 =>
      ok h2 (onward.trans later2.toOnward) (saves.later later2))

theorem owes_touchWorkspace_bind {workspaceId : Text} {now : Int} (moved : Moved t moves h)
    (next : ∀ h', Moved t moves h' → Obliged Call sha256Text t call (g ()) Q h')
    : Obliged Call sha256Text t call ((touchWorkspace workspaceId now).bind g) Q h := by
  refine owes_perform_bind (fun h' later => ⟨trivial, next _ ?_⟩)
  exact (moved.later later).still (lawful_exec sha256Text later.lawful trivial) rfl

theorem owes_insertTreeOp_bind {row : TreeOpRow} (moved : Moved t moves h)
    (next : ∀ h', Moved t moves h' → Obliged Call sha256Text t call (g ()) Q h')
    : Obliged Call sha256Text t call ((insertTreeOp row).bind g) Q h := by
  refine owes_perform_bind (fun h' later => ⟨trivial, next _ ?_⟩)
  exact (moved.later later).still (lawful_exec sha256Text later.lawful trivial) rfl

theorem owes_createTip_bind {row : TipRow} (saves : Recording t moves rev h)
    (tells : Describes rev row) (creates : rev.op = .write ∧ rev.parentRevisionId = none)
    (ok : ∀ h', Moved t (⟨row.key, none, some row.revisionId⟩ :: moves) h'
      → Obliged Call sha256Text t call (g ()) Q h')
    (error : ∀ current h', Moved t moves h' → Q (.error (.conflict current)) h')
    : Obliged Call sha256Text t call ((createTip row).bind g) Q h := by
  refine bind (owes_perform_bind (fun h' later => ?_))
  have here := saves.later later
  have promise : Promise sha256Text t h' (.insertTip row) :=
    ⟨rev, here.records, tells, .inl creates⟩
  refine ⟨promise, ?_⟩
  have lawful := lawful_exec sha256Text later.lawful promise
  rcases insertTip_spec h'.state row with ⟨failure, fails, _⟩ | ⟨adds, _, _, _, edits⟩
  · have answer : (World.exec (.insertTip row) h'.state).1 = .error failure :=
      congrArg fst fails
    have same : (World.exec (.insertTip row) h'.state).2 = h'.state := congrArg snd fails
    have still := here.toMoved.still lawful (congrArg tips same)
    rw [answer]
    exact owes_conflictResult (fun current h2 later2 => error _ h2 (still.later later2))
  · have answer : (World.exec (.insertTip row) h'.state).1 = .ok () :=
      congrArg fst adds
    have world : (World.exec (.insertTip row) h'.state).2 = _ := congrArg snd adds
    have moved := here.toMoved.move lawful (by rw [world]; exact edits)
    rw [answer]
    exact owes_done (fun h2 later2 => ok h2 (moved.later later2))

def Collided (t : Nat) (h : History draftPlane) : Prop :=
  ∃ issued ∈ h.own t, ∃ row, issued.command = .insertTip row
    ∧ issued.before.tipAt row.key ≠ none

theorem Collided.later (collided : Collided t h) (later : Later t h h')
    : Collided t h' := by
  rw [Collided, later.own]
  exact collided

theorem owes_insertDestination_bind {row : TipRow} {base : Text}
    (saves : Recording t [⟨(row.workspaceId, rev.path), some base, none⟩] rev h)
    (tells : Describes rev row) (renames : rev.op = .rename)
    (parent : rev.parentRevisionId = some base) (named : base ≠ [])
    (workspace : HasWorkspace h.state row.workspaceId)
    (ok
      : ∀ h', Moved t [⟨row.key, none, some row.revisionId⟩,
            ⟨(row.workspaceId, rev.path), some base, none⟩] h'
        → Obliged Call sha256Text t call (g ()) Q h')
    (error : ∀ current h', Collided t h' → Q (.error (.destinationExists row.path current)) h')
    : Obliged Call sha256Text t call ((insertDestination row).bind g) Q h := by
  refine bind (owes_perform_bind (fun h' later => ?_))
  have here := saves.later later
  have promise : Promise sha256Text t h' (.insertTip row) :=
    ⟨rev, here.records, tells, .inr ⟨renames, base, parent, named, here.moves⟩⟩
  refine ⟨promise, ?_⟩
  have lawful := lawful_exec sha256Text later.lawful promise
  rcases insertTip_spec h'.state row with
    ⟨failure, fails, because⟩ | ⟨adds, _, _, _, edits⟩
  · have answer : (World.exec (.insertTip row) h'.state).1 = .error failure :=
      congrArg fst fails
    have taken : tipAt h'.state row.key ≠ none := by
      rcases because with taken | unknown | unknown
      · exact taken
      · exact absurd (later.grows.workspaces _ workspace) unknown
      · exact absurd (tells.revisionId ▸ here.known) unknown
    have collided : Collided t (h'.exec t (.insertTip row)) := by
      rw [Collided, own_exec_self]
      exact ⟨_, .head _, row, rfl, taken⟩
    rw [answer]
    refine owes_getWorkspaceTip_bind (fun h2 later2 => ?_)
    exact owes_fail (fun h3 later3 => error _ h3 ((collided.later later2).later later3))
  · have answer : (World.exec (.insertTip row) h'.state).1 = .ok () :=
      congrArg fst adds
    have world : (World.exec (.insertTip row) h'.state).2 = _ := congrArg snd adds
    have moved := here.toMoved.move lawful (by rw [world]; exact edits)
    rw [answer]
    exact owes_done (fun h2 later2 => ok h2 (moved.later later2))

theorem owes_requireChange_bind {move : Move} {edits : Nat} (moved : Moved t moves h)
    (lawful : Lawful (h.exec t cmd).state)
    (swaps
      : edits = 0 ∧ (World.exec cmd h.state).2.tips = tips h.state
        ∨ edits ≠ 0 ∧ Moves h.state (World.exec cmd h.state).2 move)
    (ok
      : Moved t (move :: moves) (h.exec t cmd)
        → Obliged Call sha256Text t call (g ()) Q (h.exec t cmd))
    (error : ∀ current h', Moved t moves h' → Q (.error (.conflict current)) h')
    : Obliged Call sha256Text t call ((requireChange key edits).bind g) Q (h.exec t cmd) := by
  rcases swaps with ⟨zero, still⟩ | ⟨some, changed⟩
  · rw [requireChange, if_pos zero]
    have still := moved.still lawful still
    exact bind
      (owes_conflictResult (fun current h2 later2 => error _ h2 (still.later later2)))
  · rw [requireChange, if_neg some]
    exact ok (moved.move lawful changed)

end CairnStone.Workspace
