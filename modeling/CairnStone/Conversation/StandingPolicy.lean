import CairnStone.Concurrency.Instants
import CairnStone.Concurrency.Snapshots
import CairnStone.Conversation.RetrySafety

/-! The standing policy of an end-of-turn append at its commit. The scope of the session is looked up
once and its policies are read one by one, both before the loop that reads the session again; the
commit is under the policy of its own scope while neither has moved in the meantime.
-/

namespace CairnStone.Conversation

open JavaScript Data Concurrency List Option Database Config

variable {connections : List ConnectionRow} {h h' : History store} {t : Nat} {call : Call}
  {id : Text} {cmd : Command} {request : SyncRequest}
  {owner : Owner} {high early recent seen : Trace} {rows : List PolicyRow}
  {session found : SessionRow} {origin : Database}

def storedPolicy (owner : Owner) (candidate : ScopeRef) (db : Database) : Option PolicyRow :=
  findPolicy db.policies owner candidate

def storedFor (owner : Owner) (scope : SyncScope) (db : Database) : List PolicyRow :=
  (policyScopeCandidates scope).flatMap (fun candidate => (storedPolicy owner candidate db).toList)

/-- The policy that is in effect for a scope. -/
def effectiveAt (owner : Owner) (scope : SyncScope) (db : Database) : Option PolicyRow :=
  effectivePolicyFromRows (storedFor owner scope db) scope

/-- At an instant since the state `origin`, up to a log, the policies together let the request in for
the scope of the session.
-/
def LetInDuring (connections : List ConnectionRow) (origin : Database) (request : SyncRequest)
    (session : SessionRow) (log : Trace)
    : Prop :=
  ∃ early instant auth, stateAt connections early = origin ∧ early <:+ instant ∧ instant <:+ log
    ∧ request.context = some auth
    ∧ letsIn (effectiveAt auth.owner (turnSyncScopeFromSession session) (stateAt connections instant))
        request.syncConfirmed = true

/-- Every new turn was committed on a session for whose scope the policies let it in at some instant
during the call.
-/
def PolicyHeld (connections : List ConnectionRow) (config : Config store Call Text Answer) : Prop :=
  ∀ t thread request turn session attempt,
    config.threads[t]? = some thread → thread.call = .sync request
      → thread.answer = some (.ok (.synced turn session attempt))
      → ∃ issued earlier found, issued :: earlier <:+ config.history.log ∧ issued.thread = t
        ∧ CommitsTurn found turn issued
        ∧ LetInDuring connections thread.start request found config.history.log

theorem matchesPolicy_iff {revision : Nat} {row : PolicyRow}
    : matchesPolicy id revision row = true ↔ row.policyId = id ∧ row.revision = revision := by
  simp [matchesPolicy]

/-- An insertion adds a policy whose id is free, or nothing. -/
theorem insertPolicy_cases (policies : List PolicyRow) (row : PolicyRow)
    : (insertPolicy policies row).2 = policies
      ∨ (insertPolicy policies row).2 = policies ++ [row]
        ∧ ∀ old ∈ policies, old.policyId ≠ row.policyId := by
  unfold insertPolicy
  split
  · exact .inl rfl
  · rename_i free
    rw [Bool.or_eq_true, not_or] at free
    refine .inr ⟨rfl, ?_⟩
    exact find_eq_none.mp (not_isSome_iff_eq_none.mp free.1)

/-- Ids of policies stay unique. -/
theorem keyed_policies (lives : Lives connections h)
    : Keyed PolicyRow.policyId (policies h.state) := by
  refine lives.invariant (J := fun g => Keyed PolicyRow.policyId (policies g.state))
    .nil ?_
  rintro g t cmd _ _ keyed
  cases cmd with
  | insertPolicy row =>
    change Keyed PolicyRow.policyId (insertPolicy (policies g.state) row).2
    rcases insertPolicy_cases (policies g.state) row with same | ⟨added, free⟩
    · rw [same]
      exact keyed
    · rw [added]
      exact keyed.append_singleton free
  | swapPolicy id revision update => exact keyed.updateWhere (fun _ _ => rfl)
  | _ => exact keyed

theorem storedPolicy_swap {cand : ScopeRef} {db : Database} {revision : Nat}
    {update : PolicyUpdate}
    (other : ∀ row ∈ db.policies, row.policyId = id → row.scope ≠ cand)
    : storedPolicy owner cand (exec (.swapPolicy id revision update) db).2
      = storedPolicy owner cand db := by
  change (updateWhere (matchesPolicy id revision) _ db.policies).find?
      (fun row => (row.owner, row.scope) == (owner, cand)) = _
  have apart : ∀ row ∈ db.policies, matchesPolicy id revision row = true
      → (row.owner, row.scope) ≠ (owner, cand) := by
    intro row mem hit same
    exact other row mem (matchesPolicy_iff.mp hit).1 (congrArg Prod.snd same)
  refine find_updateWhere_of_ne ?_ apart
  exact fun row => rfl

/-- A statement changes the policy of one scope at most.
Witness: an insertion adds one row, and ids are unique where one is swapped.
-/
theorem changesOne_policy (lives : Lives connections h) (t : Nat) (cmd : Command) (owner : Owner)
    : ChangesOne (M := store) (storedPolicy owner) ⟨t, cmd, h.state⟩ := by
  cases cmd with
  | insertPolicy row =>
    refine ⟨row.scope, fun cand different => ?_⟩
    change findPolicy (insertPolicy (policies h.state) row).2 owner cand = _
    rcases insertPolicy_cases (policies h.state) row with same | ⟨added, -⟩
    · rw [same]
      rfl
    · have apart : (row.owner == owner && row.scope == cand) = false := by
        rw [Bool.and_eq_false_iff]
        exact .inr (beq_eq_false_iff_ne.mpr (Ne.symm different))
      rw [added]
      unfold findPolicy
      rw [find?_append, find?_singleton, apart]
      exact or_none
  | swapPolicy id revision update =>
    cases found : findPolicyById (policies h.state) id with
    | none =>
      refine ⟨⟨.account, []⟩, fun cand _ => storedPolicy_swap (fun row mem named => ?_)⟩
      exact absurd named (find_eq_none.mp found row mem)
    | some row =>
      refine ⟨row.scope, fun cand different => ?_⟩
      obtain ⟨here, named⟩ := mem_of_find found
      refine storedPolicy_swap (fun other mem same => ?_)
      rw [(keyed_policies lives).eq_of_key mem here (same.trans named.symm)]
      exact Ne.symm different
  | _ => exact ⟨⟨.account, []⟩, fun _ _ => rfl⟩

theorem nodup_scopeCandidate (kind : ScopeKind) (key : Option Text) :
    (scopeCandidate kind key).Nodup ∧ ∀ cand ∈ scopeCandidate kind key, cand.kind = kind := by
  unfold scopeCandidate
  split
  · exact ⟨.nil, forall_mem_nil _⟩
  · refine ⟨nodup_singleton _, fun cand mem => ?_⟩
    rw [mem_singleton.mp mem]

/-- No scope is looked up twice: each candidate is of a kind of its own. -/
theorem nodup_policyScopeCandidates (scope : SyncScope) : (policyScopeCandidates scope).Nodup := by
  obtain ⟨workspace, ofWorkspace⟩ := nodup_scopeCandidate .workspace scope.workspaceId
  obtain ⟨chain, ofChain⟩ := nodup_scopeCandidate .chain scope.chain
  unfold policyScopeCandidates
  refine (workspace.append chain ?_).append (nodup_singleton _) ?_
  · intro cand mem mem'
    cases (ofWorkspace cand mem).symm.trans (ofChain cand mem')
  · intro cand mem mem'
    rw [mem_singleton.mp mem'] at mem
    rcases mem_append.mp mem with inWorkspace | inChain
    · cases ofWorkspace _ inWorkspace
    · cases ofChain _ inChain

/-- Policies that are read one by one are cells that are. -/
theorem ReadAlong.along {low : Trace} {candidates : List ScopeRef}
    (along : ReadAlong connections owner low candidates rows high)
    : ∃ values, Along (M := store) (initial connections) (storedPolicy owner) low candidates
          values high
        ∧ rows = values.flatMap Option.toList := by
  induction along with
  | nil le => exact ⟨[], .nil le, rfl⟩
  | cons le _ ih =>
    obtain ⟨values, along, rfl⟩ := ih
    exact ⟨_, .cons le along, rfl⟩

/-- Every statement is counted. -/
theorem steps_eq (lives : Lives connections h) : steps h.state = h.log.length := by
  refine lives.invariant (J := fun g => steps g.state = g.log.length) rfl ?_
  rintro g t cmd _ _ counted
  have next : (exec cmd g.state).2.steps = steps g.state + 1 := by
    cases cmd <;> rfl
  change (exec cmd g.state).2.steps = g.log.length + 1
  rw [next, counted]

def executedSince (origin : Database) (h : History store) : Trace :=
  h.log.take (Database.steps h.state - origin.steps)

theorem executedSince_eq (lives : Lives connections h) (split : recent ++ early = h.log)
    : executedSince (stateAt connections early) h = recent := by
  have counted : (stateAt connections early).steps = early.length :=
    steps_eq (lives.earlier ⟨recent, split⟩)
  unfold executedSince
  rw [steps_eq lives, counted, ← split, length_append, Nat.add_sub_cancel]
  exact take_left

def undisturbed (request : SyncRequest) (id : Text) (recent : Trace) (now : Database) : Bool :=
  (sessionOf id now).all (fun session =>
    recent.all (fun issued =>
      (sessionOf id issued.before).all (fun old =>
        turnSyncScopeFromSession old == turnSyncScopeFromSession session))
    && request.context.all (fun auth =>
      decide (recent.countP (changesAny (M := store) (storedPolicy auth.owner)
        (policyScopeCandidates (turnSyncScopeFromSession session))) ≤ 1)))

/-- The next step of the thread is no commit of an end-of-turn append whose scope or whose policies
have moved since the call began.
-/
def settledScope (config : Config store Call Text Answer) (t : Nat) : Bool :=
  match config.threads[t]? with
  | some thread =>
    match thread.call, thread.pending with
    | .sync request, some (.swapSession id base (.log update)) =>
      !finds config.state (.swapSession id base (.log update))
        || undisturbed request id (executedSince thread.start config.history) config.state
    | _, _ => true
  | none => true

/-- Every commit of the schedule is of a settled scope. -/
abbrev SettledScope (localeLe : Text → Text → Bool) (connections : List ConnectionRow)
    (schedule : List (Action store Call))
    : Prop :=
  (Config.init (M := store) (Database.initial connections)).Admitted (body localeLe)
    (fun config t => settledScope config t = true) schedule

/-- A session that was found during the call has the scope that is committed to.
Witness: the next statement after the lookup found the same tables, unless the commit is next.
-/
theorem scope_of_undisturbed (lives : Lives connections h) (split : recent ++ early = h.log)
    (since : early <:+ seen) (le : seen <:+ h.log)
    (looked : sessionOf id (stateAt connections seen) = some session)
    (now : sessionOf id h.state = some found)
    (same
      : ∀ issued ∈ recent, ∀ old, sessionOf id issued.before = some old
        → turnSyncScopeFromSession old = turnSyncScopeFromSession found)
    : turnSyncScopeFromSession session = turnSyncScopeFromSession found := by
  obtain ⟨first, rfl⟩ := since
  obtain ⟨later, split'⟩ := le
  cases later using List.reverseRecOn with
  | nil =>
    have state : h.state = stateAt connections h.log := lives.state
    rw [state, ← split', nil_append, looked] at now
    rw [some.inj now]
  | append_singleton later issued =>
    have mem : issued ∈ recent := by
      have parts : (later ++ [issued]) ++ first = recent := by
        have whole : ((later ++ [issued]) ++ first) ++ early = recent ++ early := by
          rw [append_assoc, split', split]
        exact append_cancel_right whole
      rw [← parts]
      exact mem_append_left _ (mem_append_right _ (.head _))
    have noted : issued :: (first ++ early) <:+ h.log :=
      ⟨later, by rw [← split', append_assoc, singleton_append]⟩
    have before : issued.before = stateAt connections (first ++ early) :=
      (lives.earlier noted).before.1.state
    exact same issued mem session (before ▸ looked)

/-- Policies that have been read during the call were there together.
Witness: the lookups form a snapshot.
-/
theorem storedFor_of_readAlong {scope : SyncScope} (lives : Lives connections h)
    (split : recent ++ early = h.log) (since : early <:+ seen) (le : high <:+ h.log)
    (along : ReadAlong connections owner seen (policyScopeCandidates scope) rows high)
    (few
      : recent.countP (changesAny (M := store) (storedPolicy owner) (policyScopeCandidates scope))
        ≤ 1)
    : ∃ when, early <:+ when ∧ when <:+ h.log
        ∧ rows = storedFor owner scope (stateAt connections when) := by
  obtain ⟨values, cells, rfl⟩ := along.along
  have each (issued : Issued store) (mem : issued ∈ high)
      : ChangesOne (M := store) (storedPolicy owner) issued := by
    obtain ⟨prior, -, kept, -⟩ := Kept.at_issued (h := ⟨stateAt connections high, high⟩)
      (lives.earlier le) mem
    exact changesOne_policy (h := ⟨issued.before, prior⟩) kept issued.thread issued.command owner
  have fewer (middle : Trace) (parts : middle ++ seen = high)
      : middle.countP (changesAny (M := store) (storedPolicy owner) (policyScopeCandidates scope))
        ≤ 1 := by
    obtain ⟨last, whole⟩ := le
    obtain ⟨first, rfl⟩ := since
    have whole' : (last ++ middle ++ first) ++ early = recent ++ early := by
      rw [split, ← whole, ← parts]
      simp only [append_assoc]
    rw [← append_cancel_right whole', countP_append, countP_append] at few
    omega
  obtain ⟨when, from_, upTo, rfl⟩ := cells.snapshot (lives.earlier le).chained
    (nodup_policyScopeCandidates scope) each fewer
  refine ⟨when, since.trans from_, upTo.trans le, ?_⟩
  rw [flatMap_map]
  rfl

theorem LetIn.during {auth : AuthContext} (lives : Lives connections h)
    (letIn : LetIn connections origin request id high early seen session auth rows)
    (le : high <:+ h.log) (split : recent ++ early = h.log)
    (now : sessionOf id h.state = some found)
    (settled : undisturbed request id recent h.state = true)
    : LetInDuring connections origin request found h.log := by
  unfold undisturbed at settled
  rw [now] at settled
  simp only [all_some, Bool.and_eq_true, List.all_eq_true] at settled
  obtain ⟨scopes, policies⟩ := settled
  have readUpTo : seen <:+ h.log := by
    obtain ⟨_, cells, _⟩ := letIn.along.along
    exact cells.le.trans le
  have scope : turnSyncScopeFromSession session = turnSyncScopeFromSession found := by
    refine scope_of_undisturbed lives split letIn.since readUpTo letIn.found now ?_
    intro issued mem old there
    have same := scopes issued mem
    rw [there] at same
    simpa using same
  rw [letIn.context, all_some, decide_eq_true_eq, ← scope] at policies
  obtain ⟨when, after, upTo, rfl⟩ :=
    storedFor_of_readAlong lives split letIn.since le letIn.along policies
  refine ⟨early, when, auth, letIn.began, after, upTo, letIn.context, ?_⟩
  rw [← scope]
  exact letIn.allows

theorem LetInDuring.later {log log' : Trace}
    (letIn : LetInDuring connections origin request session log) (le : log <:+ log')
    : LetInDuring connections origin request session log' := by
  obtain ⟨early, when, auth, began, after, upTo, rest⟩ := letIn
  exact ⟨early, when, auth, began, after, upTo.trans le, rest⟩

theorem during_of_settledScope {config : Config store Call Text Answer} {turn : TurnRow}
    {auth : AuthContext} {issued : Issued store} {thread : Thread store Call Text Answer}
    (lives : Lives connections config.history)
    (letIn : LetIn connections origin request turn.conversationId high early seen session auth rows)
    (le : high <:+ config.history.log) (commits : CommitsTurn found turn issued)
    (before : issued.before = config.state) (at_t : config.threads[t]? = some thread)
    (asked : thread.call = .sync request) (began : thread.start = origin)
    (pending : thread.pending = some issued.command) (settled : settledScope config t = true)
    : LetInDuring connections origin request found config.history.log := by
  have now : sessionOf turn.conversationId config.state = some found := by
    rw [← before, commits.fits.conversation]
    exact commits.found
  have hit : finds config.state issued.command = true := by
    rw [commits.command]
    rw [commits.fits.conversation] at now
    refine List.any_eq_true.mpr ⟨found, mem_of_find?_eq_some now, ?_⟩
    exact matchesRevision_iff.mpr ⟨rfl, rfl⟩
  have early_le : early <:+ config.history.log := by
    obtain ⟨_, cells, _⟩ := letIn.along.along
    exact (letIn.since.trans cells.le).trans le
  obtain ⟨recent, split⟩ := early_le
  unfold settledScope at settled
  rw [at_t] at settled
  simp only [asked, pending, commits.command] at settled
  rw [commits.command] at hit
  rw [hit, began, ← letIn.began, executedSince_eq lives split, Bool.not_true, Bool.false_or]
    at settled
  rw [← commits.fits.conversation] at settled
  exact letIn.during lives le split now settled

namespace Sample

def setPolicy (workspace mode : String) : Call :=
  .setPolicy
    { humanCommit := .bool true
      scopeKind := .string (text "workspace"), scopeKey := .string (text workspace)
      mode := .string (text mode), payloadMode := .string (text "full_turns")
      baseRevision := none
      ambient := ⟨text "now", text "uuid", fun name => name⟩ }
    (endOfTurn "" "").context

def move (id workspace : String) : Call :=
  .update
    { conversationId := .string (text id)
      actorId := actor, baseRevision := TaskRuns.countValue 1, status := .undefined
      attachmentSet := .undefined, activeScope := .undefined, selectedActors := .undefined
      selectedRepo := .undefined, selectedChain := .undefined, codeSessionId := .undefined
      lastResponseIds := .undefined, routingEnvelope := .undefined, toolReceipts := .undefined
      intentMode := .undefined, accessGrantIds := .undefined, taskRunIds := .undefined
      workspaceId := .string (text workspace)
      now := text "now" }

/-- A policy that is set for another workspace during an end-of-turn append. -/
def policyCrossing : List (Action store Call) :=
  .spawn (create "cvs:one") :: steps 2 0
    ++ .spawn (.sync (endOfTurn "cvs:one" "a")) :: steps 5 1
    ++ .spawn (setPolicy "ws:two" "off") :: steps 4 2 ++ steps 5 1

/-- A conversation is moved into a workspace that takes no turns, during an end-of-turn append. -/
def moved : List (Action store Call) :=
  .spawn (create "cvs:one") :: steps 2 0 ++ .spawn (setPolicy "ws:two" "off") :: steps 4 1
    ++ .spawn (.sync (endOfTurn "cvs:one" "a")) :: steps 6 2
    ++ .spawn (move "cvs:one" "ws:two") :: steps 3 3 ++ steps 8 2

end Sample

/-- In a run in which every commit is of a settled scope, the standing policy holds at every commit.
Witness: the commit was admitted in the configuration in which it was pending.
-/
theorem policyHeld_of_settledScope (localeLe : Text → Text → Bool) (connections : List ConnectionRow)
    (schedule : List (Action store Call)) (admitted : SettledScope localeLe connections schedule)
    : PolicyHeld connections (after localeLe connections schedule) := by
  intro t thread request turn session attempt at_t asked answered
  have sound := sound_after localeLe connections schedule
  obtain ⟨request', asked', synced⟩ :=
    (sound.post_of_answer at_t answered).synced turn session attempt rfl
  obtain rfl : request = request' := Call.sync.inj (asked.symm.trans asked')
  obtain ⟨high, early, seen, first, auth, rows, letIn, -, issued, earlier, found, logged, le, own,
    commits⟩ := synced
  obtain ⟨before, taken, pending, history⟩ := exists_step_of_logged logged
  obtain ⟨entry, at_t', pending'⟩ := bind_eq_some_iff.mp pending
  rw [own] at at_t' taken
  obtain ⟨later, split⟩ := taken
  have whole : (after localeLe connections before).run (body localeLe) (.step t :: later)
      = after localeLe connections schedule := by
    rw [← Config.run_append, ← split, append_assoc, singleton_append]
  have began : thread.start = entry.start := start_later at_t' _ (whole ▸ at_t)
  have called : entry.call = .sync request := by
    have issuedFor : (after localeLe connections before).call t = some entry.call := by
      rw [Config.call, at_t', map_some]
    have kept
        : ((after localeLe connections before).run (body localeLe) (.step t :: later)).call t
          = some entry.call :=
      call_later issuedFor _
    rw [whole, Config.call, at_t, map_some, asked] at kept
    exact (some.inj kept).symm
  have settled : settledScope (after localeLe connections before) t = true :=
    admitted.at_step ⟨later, split⟩
  have during := during_of_settledScope (sound_after localeLe connections before).inv letIn
    (history ▸ le) commits (by rw [Config.state, history]) at_t' called began.symm pending' settled
  refine ⟨issued, earlier, found, logged, own, commits, during.later ?_⟩
  rw [history]
  exact (suffix_cons _ _).trans logged

/-- A policy that is set for another workspace during an end-of-turn append. -/
theorem policyHeld_policyCrossing
    : PolicyHeld [Sample.connection]
        (after Sample.collate [Sample.connection] Sample.policyCrossing) :=
  policyHeld_of_settledScope _ _ _ (by decide +kernel)

/-- No policy lets a confirmed turn of the account into a session whose log has been written, at any
instant at which as many statements have been executed.
-/
def forbids (connections : List ConnectionRow) (steps : Nat) (log : Trace) : Bool :=
  log.tails.all (fun instant =>
    decide ((stateAt connections instant).steps < steps)
      || log.all (fun issued =>
        !Command.writesLog issued.command
          || (Database.sessions issued.before).all (fun found =>
            !letsIn
              (effectiveAt Sample.owner (turnSyncScopeFromSession found)
                (stateAt connections instant))
              (.bool true))))

/-- A turn that has been confirmed for no workspace is committed to one whose policy has forbidden it
all the time: the second attempt does not look at the policies again.
-/
theorem turnsCanEnterForbiddenWorkspaces
    : ¬ ∀ (localeLe : Text → Text → Bool) (connections : List ConnectionRow)
        (schedule : List (Action store Call)),
        PolicyHeld connections (after localeLe connections schedule) := by
  intro all
  have held := all Sample.collate [Sample.connection] Sample.moved
  have asked
      : (after Sample.collate [Sample.connection] Sample.moved).call 2
        = some (.sync (Sample.endOfTurn "cvs:one" "a")) := by
    rw [call_run]
    rfl
  obtain ⟨thread, at_t, called⟩ := map_eq_some_iff.mp asked
  have began
      : ((after Sample.collate [Sample.connection] Sample.moved).threads[2]?).map
          (fun thread => steps thread.start) = some 2 := by
    decide +kernel
  have reports
      : ((after Sample.collate [Sample.connection] Sample.moved).threads[2]?).any
          (reportsNew (text "turn:a") (text "cmsg:a")) = true := by
    decide +kernel
  have forbidden
      : forbids [Sample.connection] 2
          (after Sample.collate [Sample.connection] Sample.moved).history.log = true := by
    decide +kernel
  have lives := (sound_after Sample.collate [Sample.connection] Sample.moved).inv
  rw [at_t] at began reports
  have steps : steps thread.start = 2 := some.inj began
  have new : reportsNew (text "turn:a") (text "cmsg:a") thread = true := reports
  unfold reportsNew at new
  split at new
  · rename_i turn session attempt answered
    obtain ⟨issued, earlier, found, logged, -, commits, early, instant, auth, start, since, upTo,
      context, lets⟩ := held 2 thread _ turn session attempt at_t called answered
    cases context
    have later : 2 ≤ (stateAt [Sample.connection] instant).steps := by
      have same : (stateAt [Sample.connection] early).steps = 2 := start ▸ steps
      calc 2 = (stateAt [Sample.connection] early).steps := same.symm
        _ = early.length := steps_eq (lives.earlier (since.trans upTo))
        _ ≤ instant.length := since.length_le
        _ = (stateAt [Sample.connection] instant).steps := (steps_eq (lives.earlier upTo)).symm
    have all' := List.all_eq_true.mp forbidden instant ((mem_tails _ _).mpr upTo)
    rw [decide_eq_false (Nat.not_lt.mpr later), Bool.false_or] at all'
    have never := List.all_eq_true.mp all' issued (logged.subset (.head _))
    have writes : Command.writesLog issued.command = true := by
      rw [commits.command]
      rfl
    rw [writes, Bool.not_true, Bool.false_or] at never
    have refused := List.all_eq_true.mp never found (mem_of_find?_eq_some commits.found)
    rw [Bool.not_eq_true'] at refused
    exact Bool.false_ne_true (refused.symm.trans lets)
  · cases new

end CairnStone.Conversation
