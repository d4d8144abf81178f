import CairnStone.Workspace.DraftMethods

/-! Concurrent draft operations as compare-and-swaps. Every operation takes effect at its own tip
statements, each of which finds the tip that the caller named; only a rename that loses its
destination to another writer leaves a trace without succeeding.
-/

namespace CairnStone.Workspace

open JavaScript Data Concurrency World Config

/-- Any interleaving of draft operations, from empty draft tables. -/
abbrev draftRun (sha256Text : Text → Text) (workspaces : List (Text × Int))
    (schedule : List (Action draftPlane Call))
    : Config draftPlane Call Failure Recorded :=
  (Config.init (World.initial workspaces)).run (Call.body sha256Text) schedule

def Call.Moved : Call → Recorded → List Move → Prop
  | .writeDraft args _ => WriteMoves args
  | .deleteDraft args _ => DeleteMoves args
  | .renameDraft args _ => RenameMoves args
  | .writeDraftFromContentRef args _ => ContentRefMoves args

/-- One statement after the other takes a key from the tip that the last one left, up to the
current tip.
-/
def Chained (key : Text × Text) : Trace → Option Text → Prop
  | [], current => current = none
  | issued :: earlier, current =>
    (after issued).revisionAt key = current
    ∧ Chained key earlier (issued.before.revisionAt key)

/-- Draft operations are compare-and-swaps: they act on a path one after the other, a successful
call moved its paths from the tips that it named, and a failed call moved no tip.
-/
structure Linearizable (config : Config draftPlane Call Failure Recorded) : Prop where
  chained : ∀ key, Chained key config.history.log (config.state.revisionAt key)
  moved
    : ∀ t call recorded, config.call t = some call → config.answer t = some (.ok recorded)
      → ∃ moves, call.Moved recorded moves ∧ TipMoves (config.history.own t) moves
  untouched
    : ∀ t failure, config.answer t = some (.error failure) → TipMoves (config.history.own t) []

def Call.isRename : Call → Bool
  | .renameDraft _ _ => true
  | _ => false

def FindsFree (issued : Issued draftPlane) : Prop :=
  match issued.command with
  | .insertTip row => issued.before.tipAt row.key = none
  | _ => True

instance (issued : Issued draftPlane) : Decidable (FindsFree issued) := by
  unfold FindsFree
  split <;> infer_instance

/-- No rename found a tip at its destination when it inserted the moved one. -/
def DestinationsStayFree (config : Config draftPlane Call Failure Recorded) : Prop :=
  ∀ issued ∈ config.history.log,
    (config.call issued.thread).any Call.isRename = true → FindsFree issued

instance (config : Config draftPlane Call Failure Recorded)
    : Decidable (DestinationsStayFree config) :=
  inferInstanceAs (Decidable (∀ issued ∈ config.history.log, _ → _))

variable {sha256Text : Text → Text}

def Call.Post (t : Nat) : Call → Except Failure Recorded → History draftPlane → Prop
  | .writeDraft args _ => Swaps t [] (WriteMoves args)
  | .deleteDraft args _ => Swaps t [] (DeleteMoves args)
  | .renameDraft args _ => RenameSwaps t args
  | .writeDraftFromContentRef args _ => Swaps t [] (ContentRefMoves args)

theorem owes_body {t : Nat} {call : Call} {start : History draftPlane}
    (lawful : Lawful start.state) (fresh : start.own t = [])
    : Obliged Call sha256Text t call (call.body sha256Text) (call.Post t) start := by
  have moved : Moved t [] start := ⟨lawful, fresh ▸ .nil⟩
  cases call with
  | writeDraft args now => exact owes_writeDraft moved (.inl rfl)
  | deleteDraft args now => exact owes_deleteDraft moved
  | renameDraft args now => exact owes_renameDraft moved
  | writeDraftFromContentRef args now => exact owes_writeDraftFromContentRef moved (.inl rfl)

theorem sound_draftRun (sha256Text : Text → Text) (workspaces : List (Text × Int))
    (acts : List (Action draftPlane Call))
    : (draftProtocol Call sha256Text).Sound (fun t call _ => call.Post t)
        (draftRun sha256Text workspaces acts) :=
  Protocol.sound (fun _ _ _ lawful fresh => owes_body lawful fresh)
    (lawful_initial workspaces) acts

theorem post_of_answer {config : Config draftPlane Call Failure Recorded}
    (sound : (draftProtocol Call sha256Text).Sound (fun t call _ => call.Post t) config)
    {t : Nat} {answer : Except Failure Recorded} (said : config.answer t = some answer)
    : ∃ call, config.call t = some call ∧ call.Post t answer config.history := by
  cases found : config.threads[t]? with
  | none => simp [Config.answer, found] at said
  | some entry =>
    have ended : entry.answer = some answer := by
      simpa [Config.answer, found] using said
    exact ⟨entry.call, by simp [Config.call, found], sound.post_of_answer found ended⟩

/-- The tips of a key form a chain over every run.
Witness: induction on the schedule; only an executed statement changes a tip.
-/
theorem chained_draftRun (sha256Text : Text → Text) (workspaces : List (Text × Int))
    (acts : List (Action draftPlane Call)) (key : Text × Text)
    : let config := draftRun sha256Text workspaces acts
      Chained key config.history.log (config.state.revisionAt key) := by
  refine run_induction
    (fun config => Chained key config.history.log (revisionAt config.state key))
    (fun config action chained => ?_) ?_ acts
  · cases action with
    | spawn call => exact chained
    | disturb event => exact chained
    | step t =>
      simp only [act, state, advance_history]
      cases config.pending t with
      | none => exact chained
      | some cmd => exact ⟨rfl, chained⟩
  · exact (rfl : revisionAt (initial workspaces) key = none)

/-- If no rename loses its destination, draft operations are linearizable.
Witness: every answer says what its call has moved, and a call moves nothing besides.
-/
theorem linearizable_of_destinationsStayFree (sha256Text : Text → Text)
    (workspaces : List (Text × Int)) (schedule : List (Action draftPlane Call))
    (free : DestinationsStayFree (draftRun sha256Text workspaces schedule))
    : Linearizable (draftRun sha256Text workspaces schedule) := by
  have sound := sound_draftRun sha256Text workspaces schedule
  have chained := chained_draftRun sha256Text workspaces schedule
  generalize draftRun sha256Text workspaces schedule = run at free sound chained
  refine ⟨chained, fun t call recorded asked answered => ?_, fun t failure answered => ?_⟩
  · obtain ⟨served, servedAsked, post⟩ := post_of_answer sound answered
    obtain rfl : call = served := Option.some.inj (asked.symm.trans servedAsked)
    cases call with
    | renameDraft args now =>
      obtain ⟨own, moves, moved⟩ := post
      exact ⟨own, moves, moved.moves⟩
    | _ =>
      obtain ⟨own, moves, moved⟩ := post
      rw [List.append_nil] at moved
      exact ⟨own, moves, moved.moves⟩
  · obtain ⟨call, asked, post⟩ := post_of_answer sound answered
    cases call with
    | renameDraft args now =>
      rcases post with moved | ⟨issued, member, row, insert, taken⟩
      · exact moved.moves
      · obtain ⟨logged, rfl⟩ := History.mem_own.mp member
        have finds := free issued logged (by rw [asked]; rfl)
        rw [FindsFree, insert] at finds
        exact absurd finds taken
    | _ => exact Moved.moves post

namespace Sample

def key (path : String) : Text × Text := (text "ws:w", text path)

def hex (digits n : Nat) : Text :=
  (List.range digits).map (fun k => hexDigit (n / 16 ^ (digits - 1 - k) % 16))

/-- What a revision id of `user:a` is the digest of. -/
def envelope (path : String) (parent : Option Text) (contentHash : Text) : Text :=
  stableRecord (revisionEnvelope (text "ws:w") (text path) parent contentHash (text "user:a"))

def hashOfA : Text :=
  hex 64 0xca978112ca1bbdcafac231b39a23dc4da786eff8147c4e72b9807785afee48bb

def hashOfB : Text :=
  hex 64 0x3e23e8160039594a33894f6564e1b1348bbd7a0088d42c4acb73eeaed59c009d

/-- The revision that creates `p` with content `a`. -/
def createdP : Text :=
  hex 64 0x486256fb678a592785cca683fc648abf809b6dfab492e75086805fea394d3ce5

/-- Digests of the texts that the sample runs hash. -/
def sha256 : Text → Text :=
  tabled
    [(text "a", hashOfA), (text "b", hashOfB),
      (envelope "p" none hashOfA, createdP),
      (envelope "q" (some createdP) hashOfA,
        hex 64 0x45bf0fd6621404da630d612edfff42d6405739a911002484dcbcfb7a0a5bb169),
      (envelope "q" none hashOfB,
        hex 64 0xad52ca74e8d6c3eeb56546edc871e375cfba642e23a23b58f0a3fe8a2d7b7815)]

/-- `user:a` writes a path that has no tip. -/
def create (path content : String) : Call :=
  .writeDraft
    { workspaceId := .string (text "ws:w"), path := .string (text path)
      content := .string (text content), baseRevision := .null
      actorId := .string (text "user:a") } 0

/-- `user:a` renames the created `p` to `q`. -/
def renamePToQ : Call :=
  .renameDraft
    { workspaceId := .string (text "ws:w"), fromPath := .string (text "p")
      toPath := .string (text "q"), baseRevision := .string createdP
      actorId := .string (text "user:a") } 0

def steps {Call : Type} (n t : Nat) : List (Action draftPlane Call) :=
  List.replicate n (.step t)

def run (schedule : List (Action draftPlane Call)) : Config draftPlane Call Failure Recorded :=
  draftRun sha256 [(text "ws:w", 0)] schedule

end Sample

open Sample

theorem linearizable_renameToFreeDestination
    : Linearizable
        (Sample.run
          (.spawn (Sample.create "p" "a") :: Sample.steps 5 0
            ++ .spawn Sample.renamePToQ :: Sample.steps 7 1)) :=
  linearizable_of_destinationsStayFree _ _ _ (by decide +kernel)

/-- Another writer creates the destination after the source is gone: the rename answers that its
destination exists, and its source is lost.
-/
theorem renameLosesSource
    : let run :=
        run
          (.spawn (create "p" "a") :: steps 5 0
            ++ .spawn renamePToQ :: steps 4 1
            ++ .spawn (create "q" "b") :: steps 5 2 ++ steps 2 1)
      (∃ current, run.answer 1 = some (.error (.destinationExists (text "q") current)))
      ∧ tipAt run.state (key "p") = none ∧ ¬ Linearizable run := by
  intro run
  have facts
      : run.answer 1
          = some (.error (.destinationExists (text "q") (tipAt run.state (key "q"))))
        ∧ tipAt run.state (key "p") = none
        ∧ ∃ issued ∈ run.history.own 1, (after issued).tips ≠ issued.before.tips := by
    decide +kernel
  obtain ⟨ended, lost, issued, member, changed⟩ := facts
  refine ⟨⟨_, ended⟩, lost, fun linearizable => ?_⟩
  rcases (linearizable.untouched 1 _ ended).each issued member with still | ⟨_, nothing, _⟩
  · exact changed still
  · cases nothing

end CairnStone.Workspace
