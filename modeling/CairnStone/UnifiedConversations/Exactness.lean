import CairnStone.UnifiedConversations.Merging

/-! When the unified view is exact: it shows the newest records of the selected identities with all the
identities that they are visible through, and nothing of other actors.
-/

namespace CairnStone.UnifiedConversations

open JavaScript Data List Bool Except TaskRuns
open Conversation (AuthContext IdentityScope OwnedIdentity SessionRow addIdentity actorNames
  actorMayAccessSession compileOwnedIdentityScope identityMap isActiveRowOf MAX_IDENTITIES
  mem_addIdentity mem_identityMap namings)
open Correspondence (ThreadSummary SummaryOf)
open TaskRuns (Refusal refuseThrown isActorId TaskRun rowToTaskRun)

-- What an exact view is

/-- The identities of an account, by actor id. -/
def ownedIdentities (host : Host) (db : Database) (auth : AuthContext) : List OwnedIdentity :=
  (identityMap
    (db.connections.filter (isActiveRowOf auth.owner.accountId auth.owner.tenantId))).insertionSort
    (fun a b => host.collation.le a.actorId b.actorId)

def selectedIdentities (host : Host) (db : Database) (auth : AuthContext) (request : Request)
    : List OwnedIdentity :=
  (ownedIdentities host db auth).filter request.selects

def visibleSessions (db : Database) (selected : List OwnedIdentity) (status : Option Text)
    : List SessionRow :=
  db.sessions.filter (fun session =>
    hasRequestedStatus status session
    && selected.any (fun identity => actorMayAccessSession session identity.actorId))

def visibleRuns (db : Database) (selected : List OwnedIdentity) (status : Option Text)
    : List TaskRun :=
  (db.taskRuns.filter (fun row =>
    hasStatus status row && selected.any (fun identity => isRunOf row identity.actorId))).map
      rowToTaskRun

structure ExactEntries {α : Type} (key : α → Text) (newer : α → α → Prop) (limit : Nat)
    (mayAccess : α → Text → Bool) (selected : List OwnedIdentity) (all : List α)
    (entries : List (Entry α))
    : Prop where
  newest : Newest key newer limit all (entries.map (·.record))
  visibleVia : ∀ entry ∈ entries,
    (entry.visibleVia.map (·.actorId)).Perm
      ((selected.filter (fun identity => mayAccess entry.record identity.actorId)).map (·.actorId))

def ThreadOf (host : Host) (db : Database) (selected : List OwnedIdentity) : ThreadEntry → Prop :=
  ThreadFor (fun actor => ∃ identity ∈ selected, identity.actorId = actor)
    (SummaryOf host.collation.le db.deliveries)

/-- The view is exact. -/
structure Exact (host : Host) (db : Database) (auth : AuthContext) (request : Request) (view : View)
    : Prop where
  conversations :
    ExactEntries (·.conversationId) (atLeastAsNew host.collation sessionTime) request.limit
      actorMayAccessSession (selectedIdentities host db auth request)
      (visibleSessions db (selectedIdentities host db auth request) request.conversationStatus)
      view.conversations
  taskRuns :
    ExactEntries (fun run : TaskRun => run.taskRunId) (atLeastAsNew host.collation runTime)
      request.limit (fun run => isRunOf run.toRow) (selectedIdentities host db auth request)
      (visibleRuns db (selectedIdentities host db auth request) request.taskStatus) view.taskRuns
  threads : ∀ entry ∈ view.mailboxThreads,
    ThreadOf host db (selectedIdentities host db auth request) entry
  events : ∀ event ∈ view.events, ∃ entry ∈ view.taskRuns, event = eventFromTaskRun entry

def runsReadFor (db : Database) (request : Request) (identity : OwnedIdentity) : List TaskRun :=
  latestRuns db.taskRuns identity.actorId request.taskStatus request.limit

def runsRead (db : Database) (request : Request) (selected : List OwnedIdentity) : List TaskRun :=
  merged (fun run : TaskRun => run.taskRunId) selected (runsReadFor db request)

/-- No identity has a conversation session, and a run is among the last created ones of all its
identities, or enough of the runs read come before it.
-/
structure Covered (host : Host) (db : Database) (auth : AuthContext) (request : Request) : Prop where
  conversations :
    visibleSessions db (selectedIdentities host db auth request) request.conversationStatus = []
  taskRuns :
    ∀ run ∈ visibleRuns db (selectedIdentities host db auth request) request.taskStatus,
      (∀ identity ∈ selectedIdentities host db auth request,
        isRunOf run.toRow identity.actorId = true → run ∈ runsReadFor db request identity)
      ∨ request.limit
        ≤ rank (atLeastAsNew host.collation runTime) (fun run : TaskRun => run.taskRunId)
            (runsRead db request (selectedIdentities host db auth request)) run

-- The identities of an account

section Identities

variable {host : Host} {db : Database} {auth : AuthContext} {request : Request}

theorem nodup_addIdentity {row : CoreAuth.ConnectionRow} {identities : List OwnedIdentity}
    (nodup : (identities.map (·.actorId)).Nodup) (naming : Text × Text)
    : ((addIdentity row identities naming).map (·.actorId)).Nodup := by
  unfold addIdentity
  simp only []
  split
  · have kept
        : (identities.map (fun identity =>
            if identity.actorId == naming.1 then identity.from row naming.2 else identity)).map
              (·.actorId)
          = identities.map (·.actorId) := by
      rw [map_map]
      refine map_congr_left (fun identity _ => ?_)
      simp only [Function.comp_apply]
      split <;> rfl
    rw [kept]
    exact nodup
  · rename_i unknown
    rw [map_append, nodup_append]
    refine ⟨nodup, nodup_singleton _, fun actor old name new same => unknown ?_⟩
    cases mem_singleton.mp new
    obtain ⟨identity, here, rfl⟩ := mem_map.mp old
    exact any_eq_true.mpr ⟨identity, here, beq_iff_eq.mpr same⟩

/-- Identities have different actor ids. Witness: induction on the rows, and for each on its names. -/
theorem nodup_identityMap (rows : List CoreAuth.ConnectionRow)
    : ((identityMap rows).map (·.actorId)).Nodup := by
  have one (row : CoreAuth.ConnectionRow) (named : List (Text × Text))
      (identities : List OwnedIdentity) (nodup : (identities.map (·.actorId)).Nodup)
      : ((named.foldl (addIdentity row) identities).map (·.actorId)).Nodup := by
    induction named generalizing identities with
    | nil => exact nodup
    | cons naming rest ih => exact ih _ (nodup_addIdentity nodup naming)
  have general (identities : List OwnedIdentity) (nodup : (identities.map (·.actorId)).Nodup)
      : ((rows.foldl (fun identities row => (namings row).foldl (addIdentity row) identities)
          identities).map (·.actorId)).Nodup := by
    induction rows generalizing identities with
    | nil => exact nodup
    | cons row rest ih => exact ih _ (one row (namings row) identities nodup)
  exact general [] nodup_nil

theorem nodup_selected
    : ((selectedIdentities host db auth request).map (·.actorId)).Nodup := by
  refine (filter_sublist.map _).nodup ?_
  exact ((perm_insertionSort _ _).map _).nodup_iff.mpr (nodup_identityMap _)

theorem actorId_selected {identity : OwnedIdentity}
    (mem : identity ∈ selectedIdentities host db auth request)
    : trim identity.actorId = identity.actorId ∧ isActorId identity.actorId = true := by
  have owned := (mem_insertionSort _).mp (mem_filter.mp mem).1
  obtain ⟨row, _, named⟩ := mem_identityMap.mp (mem_map_of_mem owned)
  unfold actorNames at named
  obtain ⟨listed, valid⟩ := mem_filter.mp named
  refine ⟨?_, valid⟩
  rcases mem_cons.mp listed with same | alias'
  · rw [same, trim_trim]
  · obtain ⟨name, _, same⟩ := mem_map.mp alias'
    rw [← same, trim_trim]

/-- A scope holds all identities of the account if they are not too many. -/
theorem identities_of_resolve {scope : IdentityScope}
    (got : resolveOwnedIdentityScope host (some auth) db = .ok scope)
    (few : (ownedIdentities host db auth).length ≤ MAX_IDENTITIES)
    : scope.identities = ownedIdentities host db auth := by
  unfold resolveOwnedIdentityScope compileOwnedIdentityScope at got
  simp only [] at got
  split at got
  · cases got
  split at got
  · cases got
  rename_i here
  cases got
  -- The account of the context is written as its rows have it, so both selections agree.
  have some' : ∃ row, isActiveRowOf (trim auth.owner.accountId) (trim auth.owner.tenantId) row = true
      ∧ isActiveRowOf auth.owner.accountId auth.owner.tenantId row = true := by
    simp only [not_eq_true', not_eq_false] at here
    obtain ⟨row, mem, _⟩ := any_eq_true.mp here
    obtain ⟨picked, trimmed⟩ := mem_filter.mp mem
    exact ⟨row, trimmed, (mem_filter.mp picked).2⟩
  obtain ⟨row, trimmed, plain⟩ := some'
  unfold isActiveRowOf at trimmed plain
  simp only [and_eq_true, beq_iff_eq] at trimmed plain
  have account : trim auth.owner.accountId = auth.owner.accountId :=
    trimmed.1.2.symm.trans plain.1.2
  have tenant : trim auth.owner.tenantId = auth.owner.tenantId := trimmed.2.symm.trans plain.2
  have length : (identityMap
      (db.connections.filter
        (isActiveRowOf auth.owner.accountId auth.owner.tenantId))).length ≤ MAX_IDENTITIES := by
    unfold ownedIdentities at few
    rwa [length_insertionSort] at few
  simp only [account, tenant, filter_filter, Bool.and_self]
  rw [take_of_length_le length]
  rfl

end Identities

-- What is read

section Reading

variable {host : Host} {db : Database} {auth : AuthContext} {request : Request}
  {identities : List OwnedIdentity} {found : Aggregates}

theorem clampLimit_bounds (value : Value)
    : 1 ≤ clampLimit host value ∧ clampLimit host value ≤ MAX_LIST := by
  unfold clampLimit MAX_LIST MAX_LIMIT DEFAULT_LIMIT
  split
  · omega
  · omega

theorem limit_of_readRequest {body : Value} (asked : readRequest host body = .ok request)
    : 1 ≤ request.limit ∧ request.limit ≤ MAX_LIST := by
  unfold readRequest at asked
  iterate 4 obtain ⟨_, _, asked⟩ := bind_eq_ok.mp asked
  cases asked
  exact clampLimit_bounds _

/-- The sessions of an answer stand under another name than the one that is read. -/
theorem rowsOf_sessions (sessions : List SessionRow) (actor : Value) (status : Option Text)
    (limit : Nat)
    : rowsOf (listConversationSessions sessions actor status limit) "sessions" = [] := by
  unfold listConversationSessions
  split
  · rfl
  · rfl

theorem rowsOf_taskRuns {identity : OwnedIdentity} (plain : trim identity.actorId = identity.actorId)
    (bounds : 1 ≤ request.limit ∧ request.limit ≤ MAX_LIST)
    (read : ∃ listed, listTaskRuns db.taskRuns (.string identity.actorId) request.taskStatus
      request.limit = .ok listed)
    : rowsOf
        (listTaskRuns db.taskRuns (.string identity.actorId) request.taskStatus request.limit)
        "task_runs"
      = runsReadFor db request identity := by
  obtain ⟨listed, read⟩ := read
  have limited : max 1 (min MAX_LIST request.limit) = request.limit := by omega
  rw [read]
  unfold listTaskRuns at read
  split at read
  · cases read
  · rename_i actor valid
    have named := ok_of_refuseThrown valid
    have same : actor = identity.actorId := by
      unfold actorId nonEmptyString at named
      simp only [Value.string?_string, plain] at named
      split at named
      · cases named
      · rename_i given
        split at named
        · split at given
          · cases given
          · cases given
            exact (ok.inj named).symm
        · cases named
    simp only [] at read
    split at read
    · cases read
    · cases read
      rw [same, limited]
      rfl

/-- Nothing is read with an error. Witness: induction on the identities; errors are never dropped. -/
theorem read_of_noErrors
    (clean : (identities.foldl (readIdentity host db request) found).readErrors = [])
    : found.readErrors = [] ∧ ∀ identity ∈ identities,
        ∃ listed, listTaskRuns db.taskRuns (.string identity.actorId) request.taskStatus
          request.limit = .ok listed := by
  induction identities generalizing found with
  | nil => exact ⟨clean, fun _ never => by cases never⟩
  | cons identity rest ih =>
    obtain ⟨first, later⟩ := ih clean
    unfold readIdentity at first
    simp only [append_eq_nil_iff] at first
    obtain ⟨⟨⟨before, _⟩, runs⟩, _⟩ := first
    refine ⟨before, fun other mem => ?_⟩
    rcases mem_cons.mp mem with rfl | among
    · cases read : listTaskRuns db.taskRuns (.string other.actorId) request.taskStatus
        request.limit with
      | ok listed => exact ⟨listed, rfl⟩
      | error why =>
        rw [read] at runs
        cases runs
    · exact later other among

/-- The runs that are read are those of each identity. Witness: induction on the identities. -/
theorem taskRuns_foldl
    (read : ∀ identity ∈ identities,
      rowsOf
        (listTaskRuns db.taskRuns (.string identity.actorId) request.taskStatus request.limit)
        "task_runs"
      = runsReadFor db request identity) (found : Aggregates)
    : (identities.foldl (readIdentity host db request) found).taskRuns
      = mergeAll host.collation (·.taskRunId) (runsReadFor db request) identities
          found.taskRuns := by
  unfold mergeAll
  induction identities generalizing found with
  | nil => rfl
  | cons identity rest ih =>
    rw [foldl_cons, foldl_cons, ih (fun i later => read i (mem_cons_of_mem _ later))]
    have first := read identity (.head _)
    unfold readIdentity
    simp only [first]

/-- No session is ever read. Witness: induction on the identities. -/
theorem sessions_foldl (identities : List OwnedIdentity) (none : found.sessions = [])
    : (identities.foldl (readIdentity host db request) found).sessions = [] := by
  induction identities generalizing found with
  | nil => exact none
  | cons identity rest ih =>
    apply ih
    unfold readIdentity
    simp only [rowsOf_sessions]
    exact none

theorem summaryOf_of_mem {identity : OwnedIdentity}
    (plain : trim identity.actorId = identity.actorId) {thread : ThreadSummary}
    (mem : thread ∈ rowsOf
      (listThreads host.collation db (.string identity.actorId) request.limit) "threads")
    : SummaryOf host.collation.le db.deliveries identity.actorId thread := by
  unfold listThreads at mem
  cases listed : Correspondence.listThreads host.collation.le db.deliveries db.stones
      (.string identity.actorId) request.limit with
  | error message =>
    rw [listed] at mem
    cases mem
  | ok threads =>
    rw [listed] at mem
    obtain ⟨actor, named, held⟩ := Correspondence.summaryOf_of_listThreads listed mem
    have same : actor = identity.actorId := by
      unfold Correspondence.actorId Correspondence.opaqueId at named
      simp only [Value.string?_string, plain] at named
      split at named
      · cases named
      · rename_i id valid
        split at named
        · split at valid
          · cases valid
          split at valid
          · cases valid
          · cases valid
            exact (ok.inj named).symm
        · cases named
    rw [← same]
    exact held

/-- All threads come from mailboxes of the identities. Witness: induction on the identities. -/
theorem threads_foldl {picked : List OwnedIdentity}
    (within : ∀ identity ∈ identities, identity ∈ picked
      ∧ trim identity.actorId = identity.actorId)
    (every : ∀ entry ∈ found.threads, ThreadOf host db picked entry)
    : ∀ entry ∈ (identities.foldl (readIdentity host db request) found).threads,
        ThreadOf host db picked entry := by
  induction identities generalizing found with
  | nil => exact every
  | cons identity rest ih =>
    apply ih (fun i later => within i (.tail _ later))
    obtain ⟨owned, plain⟩ := within identity (.head _)
    exact threadFor_foldl ⟨identity, owned, rfl⟩
      (fun thread mem => summaryOf_of_mem plain mem) every

end Reading

-- The view

section Views

variable {host : Host} {db : Database} {auth : AuthContext} {request : Request}

instance totalAtLeastAsNew {α : Type} (collation : Collation) (time : α → Text)
    : Std.Total (atLeastAsNew collation time) where
  total a b := collation.total (time b) (time a)

instance transAtLeastAsNew {α : Type} (collation : Collation) (time : α → Text)
    : IsTrans α (atLeastAsNew collation time) where
  trans _ _ _ first second := collation.trans _ _ _ second first

theorem reached_visibleRuns (db : Database) (request : Request) (picked : List OwnedIdentity)
    : Reached (fun run : TaskRun => run.taskRunId) picked
        (fun identity run => isRunOf run.toRow identity.actorId = true) (runsReadFor db request)
        (visibleRuns db picked request.taskStatus) := by
  refine ⟨?_, fun run mem => ?_, fun identity among run mem => ?_⟩
  · have matching := db.keyedRuns.sublist (filter_sublist
      (p := fun row => hasStatus request.taskStatus row
        && picked.any (fun identity => isRunOf row identity.actorId)))
    unfold visibleRuns
    unfold Keyed at matching ⊢
    rw [map_map]
    exact matching
  · obtain ⟨row, hit, rfl⟩ := mem_map.mp mem
    have conditions := (mem_filter.mp hit).2
    rw [and_eq_true] at conditions
    obtain ⟨identity, among, through⟩ := any_eq_true.mp conditions.2
    exact ⟨identity, among, through⟩
  · obtain ⟨row, here, through, status, rfl⟩ := exists_of_mem_latestRuns mem
    refine ⟨mem_map_of_mem (mem_filter.mpr ⟨here, ?_⟩), through⟩
    rw [and_eq_true]
    exact ⟨status, any_eq_true.mpr ⟨identity, among, through⟩⟩

theorem map_newestOf {α : Type} (collation : Collation) (time : α → Text) (limit : Nat)
    (values : List (Entry α))
    : (newestOf collation (fun entry : Entry α => entry.record) time limit values).map (·.record)
      = ((values.map (·.record)).insertionSort (atLeastAsNew collation time)).take limit := by
  unfold newestOf
  rw [map_take]
  congr 1
  exact map_insertionSort _ _ _ _ (fun _ _ _ _ => Iff.rfl)

/-- The entries of runs are exact if the newest are shown, each listed by all who may inspect it.
Witness: an entry is visible through the identities that list its run.
-/
theorem exactEntries_iff {entries : List (Entry TaskRun)}
    (read : entries
      = newestOf host.collation (fun entry : Entry TaskRun => entry.record) runTime request.limit
          (mergeAll host.collation (·.taskRunId) (runsReadFor db request)
            (selectedIdentities host db auth request) []))
    : ExactEntries (fun run : TaskRun => run.taskRunId) (atLeastAsNew host.collation runTime)
        request.limit (fun run => isRunOf run.toRow) (selectedIdentities host db auth request)
        (visibleRuns db (selectedIdentities host db auth request) request.taskStatus) entries
      ↔ ∀ run ∈ visibleRuns db (selectedIdentities host db auth request) request.taskStatus,
        (∀ identity ∈ selectedIdentities host db auth request,
          isRunOf run.toRow identity.actorId = true → run ∈ runsReadFor db request identity)
        ∨ request.limit
          ≤ rank (atLeastAsNew host.collation runTime) (fun run : TaskRun => run.taskRunId)
              (runsRead db request (selectedIdentities host db auth request)) run := by
  have sources := reached_visibleRuns db request (selectedIdentities host db auth request)
  have named : ∀ identity ∈ selectedIdentities host db auth request,
      ∀ run ∈ runsReadFor db request identity, run.taskRunId ≠ [] := by
    intro identity _ run mem
    obtain ⟨row, here, _, _, rfl⟩ := exists_of_mem_latestRuns mem
    exact db.namedRuns row here
  have keyed : ∀ identity ∈ selectedIdentities host db auth request,
      Keyed (fun run : TaskRun => run.taskRunId) (runsReadFor db request identity) :=
    fun _ _ => keyed_latestRuns db.keyedRuns
  have records : entries.map (·.record)
      = shown (fun run : TaskRun => run.taskRunId) (atLeastAsNew host.collation runTime)
          (selectedIdentities host db auth request) (runsReadFor db request) request.limit := by
    rw [read, map_newestOf, records_mergeAll named]
    rfl
  -- Whom an entry is visible through: the identities that list its run.
  have through : ∀ entry ∈ entries, entry.record ∈ visibleRuns db
      (selectedIdentities host db auth request) request.taskStatus
      ∧ (entry.visibleVia.map (·.actorId)).Perm
        (((selectedIdentities host db auth request).filter (fun identity =>
          (runsReadFor db request identity).any (fun run =>
            run.taskRunId == entry.record.taskRunId))).map (·.actorId)) := by
    intro entry mem
    have seen : entry.record ∈ shown (fun run : TaskRun => run.taskRunId)
        (atLeastAsNew host.collation runTime) (selectedIdentities host db auth request)
        (runsReadFor db request) request.limit := records ▸ mem_map_of_mem mem
    refine ⟨sources.mem_all (Reached.mem_merged_of_mem_shown seen), ?_⟩
    have among := mem
    rw [read] at among
    have merging := (mem_insertionSort _).mp (mem_of_mem_take among)
    have traced := (traced_mergeAll nodup_selected keyed named).2 entry merging
    rwa [listedBy_stepsOf keyed] at traced
  have lists {entry : Entry TaskRun} (mem : entry ∈ entries) {identity : OwnedIdentity}
      (picked : identity ∈ selectedIdentities host db auth request)
      : (runsReadFor db request identity).any (fun run => run.taskRunId == entry.record.taskRunId)
          = true
        ↔ entry.record ∈ runsReadFor db request identity := by
    rw [any_eq_true]
    constructor
    · rintro ⟨run, found, same⟩
      have equal := sources.keyed.eq_of_key (sources.listed identity picked run found).1
        (through entry mem).1 (beq_iff_eq.mp same)
      exact equal ▸ found
    · exact fun found => ⟨entry.record, found, beq_self_eq_true _⟩
  rw [show runsRead db request (selectedIdentities host db auth request)
    = merged (fun run : TaskRun => run.taskRunId) (selectedIdentities host db auth request)
        (runsReadFor db request) from rfl, ← sources.newest_iff, ← records]
  constructor
  · rintro ⟨newest, visible⟩
    refine ⟨newest, fun run seen identity picked inspects => ?_⟩
    obtain ⟨entry, mem, rfl⟩ := mem_map.mp seen
    have expected : identity.actorId ∈ (((selectedIdentities host db auth request).filter
        (fun identity => isRunOf entry.record.toRow identity.actorId)).map (·.actorId)) :=
      mem_map_of_mem (mem_filter.mpr ⟨picked, inspects⟩)
    have actual := (through entry mem).2.mem_iff.mp ((visible entry mem).mem_iff.mpr expected)
    obtain ⟨other, listing, same⟩ := mem_map.mp actual
    obtain ⟨among, listed⟩ := mem_filter.mp listing
    have found := (lists mem among).mp listed
    unfold runsReadFor at found ⊢
    rwa [same] at found
  · rintro ⟨newest, complete⟩
    refine ⟨newest, fun entry mem => ?_⟩
    refine (through entry mem).2.trans (List.Perm.of_eq ?_)
    congr 1
    refine filter_congr (fun identity picked => ?_)
    rw [Bool.eq_iff_iff, lists mem picked]
    constructor
    · exact fun found => (sources.listed identity picked entry.record found).2
    · exact complete entry.record (mem_map_of_mem mem) identity picked

theorem exactEntries_nil_iff {newer : SessionRow → SessionRow → Prop} {limit : Nat}
    (pos : 1 ≤ limit) {picked : List OwnedIdentity} {all : List SessionRow}
    : ExactEntries (·.conversationId) newer limit actorMayAccessSession picked all []
      ↔ all = [] := by
  constructor
  · intro exactly
    have length := exactly.newest.length
    simp only [map_nil, length_nil] at length
    exact eq_nil_of_length_eq_zero (by omega)
  · rintro rfl
    refine ⟨⟨Keyed.nil, ?_, List.Pairwise.nil, ?_, ?_⟩, ?_⟩ <;> simp

variable {scope : IdentityScope}

theorem conversations_viewOf : (viewOf host db scope request).conversations = [] := by
  unfold viewOf newestOf
  simp only [sessions_foldl]
  exact take_nil

theorem taskRuns_viewOf
    (identities : scope.identities.filter request.selects = selectedIdentities host db auth request)
    (bounds : 1 ≤ request.limit ∧ request.limit ≤ MAX_LIST)
    (whole : (viewOf host db scope request).isPartial = false)
    : (viewOf host db scope request).taskRuns
      = newestOf host.collation (fun entry : Entry TaskRun => entry.record) runTime request.limit
          (mergeAll host.collation (·.taskRunId) (runsReadFor db request)
            (selectedIdentities host db auth request) []) := by
  unfold viewOf at whole ⊢
  simp only [identities, not_eq_false', List.isEmpty_iff] at whole ⊢
  have read := (read_of_noErrors whole).2
  rw [taskRuns_foldl (fun identity mem =>
    rowsOf_taskRuns (actorId_selected mem).1 bounds (read identity mem))]

theorem threads_viewOf
    (identities : scope.identities.filter request.selects = selectedIdentities host db auth request)
    : ∀ entry ∈ (viewOf host db scope request).mailboxThreads,
        ThreadOf host db (selectedIdentities host db auth request) entry := by
  intro entry mem
  have read := (mem_insertionSort _).mp (mem_of_mem_take mem)
  rw [identities] at read
  exact threads_foldl (fun identity among => ⟨among, (actorId_selected among).1⟩)
    (fun _ never => by cases never) entry read

theorem events_viewOf
    : ∀ event ∈ (viewOf host db scope request).events,
        ∃ entry ∈ (viewOf host db scope request).taskRuns, event = eventFromTaskRun entry := by
  intro event mem
  have projected := (mem_insertionSort _).mp (mem_of_mem_take mem)
  obtain ⟨entry, shown, rfl⟩ := mem_map.mp projected
  exact ⟨entry, shown, rfl⟩

variable {view : View} {body : Value}

/-- A whole view of an account with not too many identities is exact if and only if no selected identity
has a conversation session with the requested status, and each run that a selected identity may inspect
is among the last created runs of all selected identities that may inspect it, or is preceded by as
many of the runs read as the limit allows. Witness: sessions are read under a name that their answer
does not have, and runs are read up to the limit for each identity.
-/
theorem exact_iff (few : (ownedIdentities host db auth).length ≤ MAX_IDENTITIES)
    (asked : readRequest host body = .ok request)
    (answered : unifiedConversations host (some auth) body db = .ok view)
    (whole : view.isPartial = false)
    : Exact host db auth request view ↔ Covered host db auth request := by
  unfold unifiedConversations at answered
  obtain ⟨scope, resolved, answered⟩ := bind_eq_ok.mp answered
  obtain ⟨request', asked', answered⟩ := bind_eq_ok.mp answered
  obtain rfl := ok.inj (asked'.symm.trans asked)
  cases answered
  have bounds := limit_of_readRequest asked
  have identities : scope.identities.filter request'.selects
      = selectedIdentities host db auth request' := by
    rw [identities_of_resolve resolved few]
    rfl
  have runs := exactEntries_iff (taskRuns_viewOf identities bounds whole)
  constructor
  · intro exactly
    have conversations := exactly.conversations
    rw [conversations_viewOf] at conversations
    exact ⟨(exactEntries_nil_iff bounds.1).mp conversations, runs.mp exactly.taskRuns⟩
  · intro covered
    refine ⟨?_, runs.mpr covered.taskRuns, threads_viewOf identities, events_viewOf⟩
    rw [conversations_viewOf]
    exact (exactEntries_nil_iff bounds.1).mpr covered.conversations

end Views

-- Sample accounts

namespace Sample

def collation : Collation where
  le a b := decide (a ≤ b)
  total a b := by simpa only [decide_eq_true_eq] using le_total a b
  trans a b c first second := by
    simp only [decide_eq_true_eq] at first second ⊢
    exact le_trans first second

theorem one_small : 1 % 2 ^ 53 < 2 ^ 53 :=
  mod_small 1

/-- Every number that a call asks for is one. -/
def host : Host where
  collation
  toNumber _ := .ofNat (1 % 2 ^ 53) one_small

def ann : Text := text "user:ann"

def auth : AuthContext where
  principalId := ann
  connectionId := text "connection"
  owner := { accountId := text "account", tenantId := text "tenant" }

def connection : CoreAuth.ConnectionRow where
  connectionId := auth.connectionId
  principalId := ann
  accountId := auth.owner.accountId
  tenantId := auth.owner.tenantId
  status := .active
  clientFamily := text "c"
  routingAliases := []

def session : SessionRow where
  conversationId := text "cvs:1"
  status := .active
  messageLog := []
  attachmentSet := []
  activeScope := .null
  selectedActors := []
  selectedRepo := none
  selectedChain := none
  codeSessionId := none
  lastResponseIds := []
  routingEnvelope := .null
  toolReceipts := []
  intentMode := .read
  accessGrantIds := []
  taskRunIds := []
  workspaceId := none
  sessionRevision := 1
  createdBy := ann
  createdAt := text "1"
  updatedAt := text "1"

def run (id createdAt updatedAt : String) : TaskRuns.Row where
  taskRunId := text id
  status := .proposed
  conversationId := none
  parentTurnId := none
  requestedBy := ann
  assigneeActorId := none
  requestedIntent := text "ask-to-work"
  attachmentRefs := []
  objectRefs := []
  note := none
  dispatchState := .notDispatched
  selectedExecutorId := .null
  executorRouteReason := .null
  requiredCapabilities := .null
  policyPreset := .null
  budgetEnvelope := .null
  parentTaskRunId := none
  childTaskRunIds := []
  delegationDepth := 0
  routeReceiptId := .null
  routeReceipt := .null
  adapterJobId := none
  receiptRefs := []
  resultSummary := none
  failureReason := none
  humanCommittedBy := none
  humanCommittedAt := none
  startedAt := none
  completedAt := none
  createdAt := text createdAt
  updatedAt := text updatedAt
  cancelledAt := none

def database (sessions : List SessionRow) (taskRuns : List TaskRuns.Row)
    (keyed : Keyed (·.taskRunId) taskRuns) (named : ∀ row ∈ taskRuns, row.taskRunId ≠ [])
    : Database where
  connections := [connection]
  sessions
  taskRuns
  deliveries := []
  stones := []
  keyedRuns := keyed
  namedRuns := named

def oneRun : List TaskRuns.Row := [run "tr:1" "1" "9"]

def twoRuns : List TaskRuns.Row := [run "tr:1" "1" "9", run "tr:2" "2" "2"]

theorem keyed_twoRuns : Keyed (·.taskRunId) twoRuns := by
  unfold Keyed
  decide +kernel

theorem named_twoRuns : ∀ row ∈ twoRuns, row.taskRunId ≠ [] := by
  decide +kernel

theorem keyed_oneRun : Keyed (·.taskRunId) oneRun :=
  nodup_singleton _

theorem named_oneRun : ∀ row ∈ oneRun, row.taskRunId ≠ [] := by
  decide +kernel

theorem named_nil : ∀ row ∈ ([] : List Row), row.taskRunId ≠ [] := by
  intro row never
  cases never

/-- Ann has one run. -/
def working : Database :=
  database [] oneRun keyed_oneRun named_oneRun

/-- Ann has one session. -/
def talking : Database :=
  database [session] [] Keyed.nil named_nil

/-- Ann has two runs. -/
def returning : Database :=
  database [] twoRuns keyed_twoRuns named_twoRuns

/-- A body that asks for one record of each kind. -/
def body : Value := .literal [(text "limit", .other)]

def answers (db : Database) (p : Request → View → Bool) : Bool :=
  match readRequest host body, unifiedConversations host (some auth) body db with
  | .ok request, .ok view => !view.isPartial && p request view
  | _, _ => false

theorem exists_of_answers {db : Database} {p : Request → View → Bool} (holds : answers db p = true)
    : ∃ request view, readRequest host body = .ok request
      ∧ unifiedConversations host (some auth) body db = .ok view
      ∧ view.isPartial = false ∧ p request view = true := by
  unfold answers at holds
  cases asked : readRequest host body with
  | error why =>
    rw [asked] at holds
    cases holds
  | ok request =>
    cases said : unifiedConversations host (some auth) body db with
    | error why =>
      rw [asked, said] at holds
      cases holds
    | ok view =>
      rw [asked, said] at holds
      simp only [and_eq_true, not_eq_true'] at holds
      exact ⟨request, view, rfl, rfl, holds.1, holds.2⟩

end Sample

open Sample

theorem exact_sample
    : ∃ request view, readRequest Sample.host Sample.body = .ok request
      ∧ unifiedConversations Sample.host (some Sample.auth) Sample.body Sample.working = .ok view
      ∧ (Exact Sample.host Sample.working Sample.auth request view
        ↔ Covered Sample.host Sample.working Sample.auth request) := by
  have answered : answers working (fun _ _ => true) = true := by decide +kernel
  obtain ⟨request, view, asked, answered, whole, _⟩ := exists_of_answers answered
  exact ⟨request, view, asked, answered, exact_iff (by decide +kernel) asked answered whole⟩

/-- Ann's call is answered whole, for an account with one identity, and what it shows is not exact. -/
def Sample.IsMisled (db : Database) : Prop :=
  (ownedIdentities Sample.host db Sample.auth).length ≤ MAX_IDENTITIES
  ∧ ∃ request view, readRequest Sample.host Sample.body = .ok request
    ∧ unifiedConversations Sample.host (some Sample.auth) Sample.body db = .ok view
    ∧ view.isPartial = false ∧ ¬ Exact Sample.host db Sample.auth request view

def Sample.countsSessions (shown : Nat) (request : Request) (view : View) : Bool :=
  (visibleSessions talking (selectedIdentities host talking auth request)
    request.conversationStatus).length == 1
  && view.conversations.length == shown

def Sample.timesRuns (shown : List Text) (request : Request) (view : View) : Bool :=
  (visibleRuns returning (selectedIdentities host returning auth request)
    request.taskStatus).map runTime == [text "9", text "2"]
  && view.taskRuns.map (fun entry => runTime entry.record) == shown

/-- A session is not shown, and a run that was updated last is left out for one that was created last. -/
theorem newestIsNotShown : Sample.IsMisled Sample.talking ∧ Sample.IsMisled Sample.returning := by
  constructor
  · have counted : answers talking (countsSessions 0) = true := by
      decide +kernel
    obtain ⟨request, view, asked, answered, whole, counts⟩ := exists_of_answers counted
    refine ⟨by decide +kernel, request, view, asked, answered, whole, fun exactly => ?_⟩
    unfold countsSessions at counts
    rw [and_eq_true, beq_iff_eq, beq_iff_eq] at counts
    have length := exactly.conversations.newest.length
    rw [length_map, counts.1, counts.2] at length
    have limited := limit_of_readRequest asked
    omega
  · have timed : answers returning (timesRuns [text "2"]) = true := by
      decide +kernel
    obtain ⟨request, view, asked, answered, whole, times⟩ := exists_of_answers timed
    refine ⟨by decide +kernel, request, view, asked, answered, whole, fun exactly => ?_⟩
    unfold timesRuns at times
    rw [and_eq_true, beq_iff_eq, beq_iff_eq] at times
    obtain ⟨visible, shown⟩ := times
    have newest := exactly.taskRuns.newest
    have updated : text "9" ∈ (visibleRuns returning
        (selectedIdentities host returning auth request)
        request.taskStatus).map runTime := by
      rw [visible]
      exact .head _
    obtain ⟨run, present, late⟩ := mem_map.mp updated
    have times : (view.taskRuns.map (·.record)).map runTime = [text "2"] := by
      rw [map_map]
      exact shown
    have hidden : run ∉ view.taskRuns.map (·.record) := by
      intro seen
      have among := mem_map_of_mem (f := runTime) seen
      rw [times, late] at among
      exact absurd (mem_singleton.mp among) (by decide +kernel)
    have created : text "2" ∈ (view.taskRuns.map (·.record)).map runTime := by
      rw [times]
      exact .head _
    obtain ⟨first, seen, early⟩ := mem_map.mp created
    have order := newest.latest run present hidden first seen
    unfold atLeastAsNew at order
    rw [early, late] at order
    exact absurd order (by decide +kernel)

end CairnStone.UnifiedConversations
