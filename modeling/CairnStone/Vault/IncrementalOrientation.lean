import CairnStone.Vault.OneGeneration

/-! Whether a client that asks again and again for what is new misses nothing. Its cursor is the newest
stamp that it has seen, and a head is stamped before it is written.
-/

namespace CairnStone.Vault

open JavaScript Data Concurrency Protocol List Option Tables Kept Meets Config Prod History

variable {env : Env} {h : History (vault env)} {t : Nat} {chain : Text}
  {row : PathHeadRow} {cursor : Text}

inductive PollCall where
  | commitV2 (body : Value)
  | setPathHead (body : Value)
  | resumeChain (body : Value)

inductive PollAnswer where
  | moved (answer : Value)
  | resumed (answer : Except Text Resumed)

/-- A call with its answer. -/
def attend : PollCall → Operation env PollAnswer
  | .commitV2 body => do
    let answer ← commitV2FromBody body
    .done (.moved answer)
  | .setPathHead body => do
    let answer ← setPathHeadFromBody body
    .done (.moved answer)
  | .resumeChain body => do
    let answer ← resumeChainFromBody body
    .done (.resumed answer)

-- Polls of one client

/-- An answered call of the client, and the instant at which it read the path heads. -/
structure Poll (env : Env) where
  thread : Nat
  body : Value
  resumed : Resumed
  read : Issued (vault env)

variable {config : Config (vault env) PollCall Text PollAnswer} {poll next : Poll env}
  {between : List (Issued (vault env))}

structure Poll.In (chain : Text) (config : Config (vault env) PollCall Text PollAnswer)
    (poll : Poll env)
    : Prop where
  asked : config.call poll.thread = some (.resumeChain poll.body)
  named : poll.body.get (text "chain") = .string chain
  compact : detailOf env (poll.body.get (text "detail")) = some .compact
  answered : config.answer poll.thread = some (.ok (.resumed (.ok poll.resumed)))
  issued : poll.read ∈ config.history.own poll.thread
  reads : poll.read.command = .readPathHeads chain

structure Follows (chain : Text) (config : Config (vault env) PollCall Text PollAnswer)
    (poll next : Poll env) (between : List (Issued (vault env)))
    : Prop where
  since
    : ∃ cursor, poll.resumed.nextCursor = some cursor
      ∧ next.body.get (text "since") = .string cursor
  order : ∃ earlier, next.read :: (between ++ poll.read :: earlier) <:+ config.history.log
  only : ∀ issued ∈ between, issued.command ≠ .readPathHeads chain

def Session (chain : Text) (config : Config (vault env) PollCall Text PollAnswer)
    : List (Poll env) → Prop
  | [] => True
  | [poll] => poll.In chain config
  | next :: poll :: earlier =>
    next.In chain config ∧ (∃ between, Follows chain config poll next between)
    ∧ Session chain config (poll :: earlier)

def mergedView (start : Text → Option Text) : List (Poll env) → Text → Option Text
  | [], path => start path
  | poll :: earlier, path =>
    ((poll.resumed.pathHeads.find? (·.path == path)).map (·.stoneHash)).or
      (mergedView start earlier path)

def WritesPathHead (env : Env) (chain : Text) (row : PathHeadRow) (issued : Issued (vault env)) : Prop :=
  issued.command = .write (.upsertPathHead row) ∧ row.chain = chain
  ∧ issued.before.Succeeds env (.upsertPathHead row)

/-- A path head that is written between two polls is listed by the later one, and a client that started
from the path heads that its first poll read knows those that its newest poll read.
-/
structure LosesNothing (chain : Text) (config : Config (vault env) PollCall Text PollAnswer)
    : Prop where
  returned
    : ∀ poll next between, poll.In chain config → next.In chain config
      → Follows chain config poll next between
      → ∀ row, ∀ issued ∈ between, WritesPathHead env chain row issued
      → ∃ item ∈ next.resumed.pathHeads, item.path = row.path
        ∧ next.read.before.headAt (.path chain row.path) = some item.stoneHash
  merged
    : ∀ first polls newest later, polls ++ [first] = newest :: later
      → Session chain config (polls ++ [first])
      → ∀ path, mergedView (fun path => first.read.before.headAt (.path chain path)) polls path
        = newest.read.before.headAt (.path chain path)

-- Stamps

def readHeadStamp (chain : Text) (issued : Issued (vault env)) : Option Text :=
  match issued.command with
  | .readChainHead other =>
    if other = chain then (issued.before.chainHead chain).map (·.updatedAt) else none
  | _ => none

def seenStamps (chain : Text) : List (Issued (vault env)) → List Text
  | [] => []
  | issued :: earlier =>
    match issued.command with
    | .readPathHeads other =>
      if other = chain then
        ((earlier.filter (·.thread == issued.thread)).findSome? (readHeadStamp chain)).toList
          ++ (issued.before.pathHeads.filter (·.chain == chain)).map (·.updatedAt)
      else seenStamps chain earlier
    | _ => seenStamps chain earlier

/-- A path head is written with a stamp that is no earlier than what the newest orientation read. -/
def StampedLate (_ : Nat) (cmd : Command) (h : History (vault env)) : Prop :=
  match cmd with
  | .write (.upsertPathHead row) => ∀ stamp ∈ seenStamps row.chain h.log, stamp ≤ row.updatedAt
  | _ => True

instance decidableStampedLate (t : Nat) (cmd : Command) (h : History (vault env))
    : Decidable (StampedLate t cmd h) :=
  match cmd with
  | .write (.upsertPathHead row) =>
    inferInstanceAs (Decidable (∀ stamp ∈ seenStamps row.chain h.log, stamp ≤ row.updatedAt))
  | .write (.putRaw _ _) | .write (.insertStone _) | .write (.insertRef _) | .write (.insertFts _)
  | .write (.insertReceipt _) | .write (.insertEdge _) | .write (.insertHead _)
  | .write (.upsertHead _) | .write (.batch _) | .write (.rebuildFts _ _) | .now
  | .selectExisting _ _ _ | .observeHead _ | .readChainHead _ | .readPathHeads _ | .fetchFile _
  | .fetchTree _ _ _ | .resolveCommit _ _ _ | .report =>
    inferInstanceAs (Decidable True)

def StampPromise (env : Env) (_ : Nat) (cmd : Command) (_ : History (vault env)) : Prop :=
  match cmd with
  | .write (.upsertPathHead row) => Clocked env row.updatedAt
  | .write (.upsertHead row) => Clocked env row.updatedAt
  | .write (.insertHead _) => False
  | .write (.batch _) => False
  | _ => True

theorem stampPromise_of_harmless (t : Nat) (cmd : Command) (h : History (vault env))
    (harmless : Harmless cmd)
    : StampPromise env t cmd h := by
  cases cmd with
  | write stmt => cases stmt <;> trivial
  | _ => trivial

structure Stamped (env : Env) (tables : Tables) : Prop where
  keyed : Data.Keyed Tables.pathKey tables.pathHeads
  pathHeads : ∀ row ∈ tables.pathHeads, Clocked env row.updatedAt
  chainHeads : ∀ row ∈ tables.chainHeads, Clocked env row.updatedAt

/-- Witness: case analysis on the tables that the command writes. -/
theorem Stamped.exec {tables : Tables} {cmd : Command} (stamped : Stamped env tables)
    (due : StampPromise env t cmd h)
    : Stamped env (Tables.exec env cmd tables).2 := by
  obtain ⟨keyed, pathHeads⟩ : Data.Keyed pathKey (Tables.exec env cmd tables).2.pathHeads
      ∧ ∀ row ∈ (Tables.exec env cmd tables).2.pathHeads, Clocked env row.updatedAt := by
    rcases pathHeads_exec_cases env tables cmd with
      ⟨row, rfl, _, upserts⟩ | ⟨rows, rfl, _⟩ | ⟨_, same⟩
    · rw [upserts]
      refine ⟨keyed_upserted stamped.keyed, fun other mem => ?_⟩
      rcases mem_upserted mem with rfl | ⟨old, _⟩
      · exact due
      · exact stamped.pathHeads other old
    · exact due.elim
    · rw [same]
      exact ⟨stamped.keyed, stamped.pathHeads⟩
  refine ⟨keyed, pathHeads, ?_⟩
  rcases exec_cases env tables cmd with ⟨stmt, written, rfl, _, done, after⟩ | after
  · rw [after]
    change ∀ row ∈ written.chainHeads, Clocked env row.updatedAt
    rcases chainHeads_write done with ⟨row, rfl, upserts⟩ | ⟨row, rfl, _⟩ | same
    · rw [upserts]
      intro other mem
      rcases mem_upserted mem with rfl | ⟨old, _⟩
      · exact due
      · exact stamped.chainHeads other old
    · exact due.elim
    · rw [same]
      exact stamped.chainHeads
  · rw [after]
    exact stamped.chainHeads

theorem stamped (lives : Lives (StampPromise env) h) : Stamped env h.state := by
  refine lives.invariant (J := fun g => Stamped env g.state) ?_ ?_
  · refine ⟨Data.Keyed.nil, ?_, ?_⟩
    · intro row mem
      cases mem
    · intro row mem
      cases mem
  · intro g u cmd _ due stamped
    exact stamped.exec due

-- Between two reads

variable {read : Issued (vault env)} {earlier : List (Issued (vault env))}

structure SinceRead (chain : Text) (read : Issued (vault env)) (stamps : List Text)
    (between : List (Issued (vault env))) (tables : Tables)
    : Prop where
  late
    : ∀ row ∈ tables.pathHeads, row.chain = chain
      → (∀ stamp ∈ stamps, stamp ≤ row.updatedAt)
        ∨ row ∈ read.before.pathHeads
          ∧ ∀ written, ∀ issued ∈ between, WritesPathHead env chain written issued
            → written.path ≠ row.path
  kept
    : ∀ row ∈ read.before.pathHeads, ∃ other ∈ tables.pathHeads,
        Tables.pathKey other = Tables.pathKey row
  written
    : ∀ row, ∀ issued ∈ between, WritesPathHead env chain row issued
      → ∃ other ∈ tables.pathHeads, Tables.pathKey other = Tables.pathKey row

/-- Other commands leave the newest orientation what it was. Witness: induction on them. -/
theorem seenStamps_between (only : ∀ issued ∈ between, issued.command ≠ .readPathHeads chain)
    : seenStamps chain (between ++ read :: earlier) = seenStamps chain (read :: earlier) := by
  induction between with
  | nil => rfl
  | cons issued between ih =>
    have rest := ih (fun other mem => only other (.tail _ mem))
    have apart := only issued (.head _)
    rw [cons_append, seenStamps]
    split
    · rename_i other reads
      split
      · rename_i same
        subst same
        exact absurd reads apart
      · exact rest
    · exact rest

variable {tables : Tables} {stamps : List Text} {issued : Issued (vault env)}

theorem SinceRead.unchanged (since : SinceRead chain read stamps between issued.before)
    (writesNot : ∀ row, ¬WritesPathHead env chain row issued)
    (same : tables.pathHeads = issued.before.pathHeads)
    : SinceRead chain read stamps (issued :: between) tables := by
  refine ⟨?_, ?_, ?_⟩
  · intro other mem inChain
    rw [same] at mem
    rcases since.late other mem inChain with late | ⟨there, untouched⟩
    · exact .inl late
    · refine .inr ⟨there, ?_⟩
      intro written other' mem' writes
      rcases mem_cons.mp mem' with rfl | earlier'
      · exact absurd writes (writesNot written)
      · exact untouched written other' earlier' writes
  · intro other mem
    rw [same]
    exact since.kept other mem
  · intro written other mem writes
    rw [same]
    rcases mem_cons.mp mem with rfl | earlier'
    · exact absurd writes (writesNot written)
    · exact since.written written other earlier' writes

/-- An upsert with a late stamp. Witness: its own row is late, and the other rows have other keys. -/
theorem SinceRead.upserted (since : SinceRead chain read stamps between issued.before)
    (upsert : issued.command = .write (.upsertPathHead row))
    (late : row.chain = chain → ∀ stamp ∈ stamps, stamp ≤ row.updatedAt)
    (upserts : tables.pathHeads = Tables.upserted pathKey issued.before.pathHeads row)
    : SinceRead chain read stamps (issued :: between) tables := by
  have stays {key : Text × Text}
      (here : ∃ other ∈ issued.before.pathHeads, pathKey other = key)
      : ∃ other ∈ tables.pathHeads, pathKey other = key := by
    rw [upserts]
    exact exists_key_upserted here
  have row_of_writes {written : PathHeadRow} (writes : WritesPathHead env chain written issued)
      : row = written := by
    injection upsert.symm.trans writes.1 with stmt
    injection stmt
  refine ⟨?_, ?_, ?_⟩
  · intro other mem inChain
    rw [upserts] at mem
    rcases mem_upserted mem with rfl | ⟨old, apart⟩
    · exact .inl (late inChain)
    · rcases since.late other old inChain with late | ⟨there, untouched⟩
      · exact .inl late
      · refine .inr ⟨there, ?_⟩
        intro written other' mem' writes
        rcases mem_cons.mp mem' with rfl | earlier'
        · cases row_of_writes writes
          intro path
          have same : pathKey other = pathKey row :=
            Prod.ext (inChain.trans writes.2.1.symm) path.symm
          simp [same] at apart
        · exact untouched written other' earlier' writes
  · intro other mem
    exact stays (since.kept other mem)
  · intro written other mem writes
    rcases mem_cons.mp mem with rfl | earlier'
    · cases row_of_writes writes
      rw [upserts]
      exact ⟨row, mem_upserted_self, rfl⟩
    · exact stays (since.written written other earlier' writes)

/-- Witness: induction on what happened since the read, one command at a time. -/
theorem sinceRead (lives : Lives (StampPromise env) ⟨tables, between ++ read :: earlier⟩)
    (late : Respects StampedLate (⟨tables, between ++ read :: earlier⟩ : History (vault env)))
    (reads : read.command = .readPathHeads chain)
    (only : ∀ issued ∈ between, issued.command ≠ .readPathHeads chain)
    : SinceRead chain read (seenStamps chain (read :: earlier)) between tables := by
  induction between generalizing tables with
  | nil =>
    obtain ⟨_, _, executed⟩ := before lives
    have state : (Tables.exec env read.command read.before).2 = tables :=
      congrArg History.state executed
    rw [reads] at state
    subst state
    refine ⟨?_, ?_, ?_⟩
    · intro row mem _
      refine .inr ⟨mem, ?_⟩
      intro written issued none
      cases none
    · intro row mem
      exact ⟨row, mem, rfl⟩
    · intro row issued none
      cases none
  | cons issued between ih =>
    obtain ⟨livesBefore, due, executed⟩ := before lives
    have state : (Tables.exec env issued.command issued.before).2 = tables :=
      congrArg History.state executed
    obtain ⟨now, before⟩ := late
    have onlyBefore (other : Issued (vault env)) (mem : other ∈ between)
        : other.command ≠ .readPathHeads chain :=
      only other (.tail _ mem)
    have since := ih livesBefore before onlyBefore
    subst state
    rcases pathHeads_exec_cases env issued.before issued.command with
      ⟨row, upsert, works, upserts⟩ | ⟨rows, batch, _⟩ | ⟨fails, same⟩
    · refine since.upserted upsert ?_ upserts
      intro inChain
      rw [upsert] at now
      change ∀ stamp ∈ seenStamps row.chain (between ++ read :: earlier), _ at now
      rwa [inChain, seenStamps_between onlyBefore] at now
    · rw [batch] at due
      exact due.elim
    · refine since.unchanged ?_ same
      rintro row ⟨cmd, _, works⟩
      exact fails row cmd works

-- What a poll lists

theorem mem_orientedHeads {item : OrientedHead}
    : item ∈ tables.orientedHeads chain
      ↔ ∃ row ∈ tables.pathHeads, row.chain = chain ∧ tables.oriented row = item := by
  unfold orientedHeads
  rw [List.mem_map]
  constructor
  · rintro ⟨row, mem, rfl⟩
    rw [mem_insertionSort, mem_filter] at mem
    exact ⟨row, mem.1, eq_of_beq mem.2, rfl⟩
  · rintro ⟨row, mem, inChain, rfl⟩
    refine ⟨row, ?_, rfl⟩
    rw [mem_insertionSort, mem_filter]
    exact ⟨mem, beq_iff_eq.mpr inChain⟩

theorem headAt_of_mem (keyed : Data.Keyed pathKey tables.pathHeads)
    (mem : row ∈ tables.pathHeads) (inChain : row.chain = chain)
    : tables.headAt (.path chain row.path) = some row.headHash := by
  have found := keyed.find_eq mem
  have same (other : PathHeadRow)
      : (other.chain == chain && other.path == row.path)
        = (pathKey other == pathKey row) := by
    rw [Bool.eq_iff_iff, Bool.and_eq_true, beq_iff_eq, beq_iff_eq, beq_iff_eq]
    unfold pathKey
    rw [Prod.mk.injEq, inChain]
  simp only [headAt, same, found, map_some]

theorem headAt_eq_none {path : Text}
    (lost : ∀ row ∈ tables.pathHeads, row.chain = chain → row.path ≠ path)
    : tables.headAt (.path chain path) = none := by
  have found : tables.pathHeads.find? (fun row => row.chain == chain && row.path == path) = none := by
    apply find?_eq_none.mpr
    intro row mem hit
    rw [Bool.and_eq_true, beq_iff_eq, beq_iff_eq] at hit
    exact lost row mem hit.1 hit.2
  simp only [headAt, found, map_none]

/-- A cursor is one of the stamps that were read, and not empty. -/
theorem mem_of_cursor {headUpdatedAt : Text} {pathHeads : List OrientedHead}
    (latest : latestAcceptedStateCursor headUpdatedAt pathHeads = some cursor)
    : cursor ≠ [] ∧ cursor ∈ headUpdatedAt :: pathHeads.map (·.updatedAt) := by
  unfold latestAcceptedStateCursor at latest
  have mem := mem_of_getLast? latest
  rw [mem_insertionSort, mem_filter] at mem
  refine ⟨?_, mem.1⟩
  simpa using mem.2

theorem since_of_cursor {body : Value} {paths : List Text} {since : Option Text}
    (filter : orientationFilter env .compact body = .ok (paths, since))
    (asked : body.get (text "since") = .string cursor) (nonempty : cursor ≠ [])
    (iso : env.isoDate cursor = some cursor)
    : since = some cursor := by
  have normal : normalizeOrientationSince env (.string cursor) = .ok (some cursor) := by
    have blank : isBlank (.string cursor) = false := by simpa [isBlank] using nonempty
    simp [normalizeOrientationSince, blank, Builtins.string, iso]
  unfold orientationFilter at filter
  rw [asked, normal] at filter
  cases named : normalizeOrientationPaths (body.get (text "paths")) with
  | error error =>
    rw [named] at filter
    cases filter
  | ok names =>
    rw [named] at filter
    injection filter with pair
    exact (mk.inj pair).2.symm

structure Listed (env : Env) (chain : Text) (poll : Poll env) (log : List (Issued (vault env)))
    (heads : Tables) (headRow : ChainHeadRow) (paths : List Text) (since : Option Text)
    : Prop where
  own : log.filter (·.thread == poll.thread) = headReads env poll.thread chain heads poll.read.before
  found : heads.chainHead chain = some headRow
  filter : orientationFilter env .compact poll.body = .ok (paths, since)
  pathHeads
    : poll.resumed.pathHeads
      = selectOrientationPathHeads (poll.read.before.orientedHeads chain) paths since
  cursor
    : poll.resumed.nextCursor
      = latestAcceptedStateCursor headRow.updatedAt (poll.read.before.orientedHeads chain)

variable {log : List (Issued (vault env))} {heads : Tables} {headRow : ChainHeadRow}
  {paths : List Text} {since : Option Text}

theorem Listed.before (listed : Listed env chain poll log heads headRow paths since)
    (le : poll.read :: earlier <:+ log) (thread : poll.read.thread = poll.thread)
    (reads : poll.read.command = .readPathHeads chain)
    : earlier.filter (·.thread == poll.thread) = [⟨poll.thread, .readChainHead chain, heads⟩] := by
  have own := listed.own
  obtain ⟨later, rfl⟩ := le
  rw [filter_append, filter_cons_of_pos (by simp [thread])] at own
  cases first : later.filter (·.thread == poll.thread) with
  | nil =>
    rw [first, headReads] at own
    injection own
  | cons issued rest =>
    rw [first, headReads] at own
    injection own with _ tail
    cases rest with
    | nil =>
      injection tail with same
      rw [same] at reads
      cases reads
    | cons issued rest => simp at tail

theorem Listed.cursor_seen (listed : Listed env chain poll log heads headRow paths since)
    (le : poll.read :: earlier <:+ log) (thread : poll.read.thread = poll.thread)
    (reads : poll.read.command = .readPathHeads chain)
    (latest : poll.resumed.nextCursor = some cursor)
    : cursor ∈ seenStamps chain (poll.read :: earlier) := by
  have before := listed.before le thread reads
  rw [listed.cursor] at latest
  unfold seenStamps
  rw [reads]
  simp only [if_true, thread, before]
  rw [mem_append]
  rcases mem_cons.mp (mem_of_cursor latest).2 with rfl | fromPath
  · left
    simp [readHeadStamp, listed.found]
  · right
    obtain ⟨item, mem, rfl⟩ := List.mem_map.mp fromPath
    obtain ⟨row, here, inChain, rfl⟩ := mem_orientedHeads.mp mem
    exact List.mem_map.mpr ⟨row, mem_filter.mpr ⟨here, beq_iff_eq.mpr inChain⟩, rfl⟩

structure Catches (chain : Text) (poll next : Poll env) (between : List (Issued (vault env)))
    (stamps : List Text)
    : Prop where
  since : SinceRead chain poll.read stamps between next.read.before
  before : Data.Keyed Tables.pathKey poll.read.before.pathHeads
  now : Data.Keyed Tables.pathKey next.read.before.pathHeads
  lists : ∀ item ∈ next.resumed.pathHeads, item ∈ next.read.before.orientedHeads chain
  late
    : ∀ row ∈ next.read.before.pathHeads, row.chain = chain
      → (∀ stamp ∈ stamps, stamp ≤ row.updatedAt)
      → next.read.before.oriented row ∈ next.resumed.pathHeads

theorem Catches.returned (catches : Catches chain poll next between stamps)
    (mem : issued ∈ between) (writes : WritesPathHead env chain row issued)
    : ∃ item ∈ next.resumed.pathHeads, item.path = row.path
      ∧ next.read.before.headAt (.path chain row.path) = some item.stoneHash := by
  obtain ⟨other, here, same⟩ := catches.since.written row issued mem writes
  obtain ⟨sameChain, samePath⟩ := mk.inj same
  have inChain : other.chain = chain := sameChain.trans writes.2.1
  rcases catches.since.late other here inChain with late | ⟨_, untouched⟩
  · refine ⟨_, catches.late other here inChain late, samePath, ?_⟩
    rw [← samePath]
    exact headAt_of_mem catches.now here inChain
  · exact absurd samePath.symm (untouched row issued mem writes)

/-- Over the path heads that the earlier poll read, what the later one lists gives those that it read.
Witness: a path head that is not listed is what it was.
-/
theorem Catches.merged (catches : Catches chain poll next between stamps)
    (path : Text)
    : ((next.resumed.pathHeads.find? (·.path == path)).map (·.stoneHash)).or
        (poll.read.before.headAt (.path chain path))
      = next.read.before.headAt (.path chain path) := by
  cases found : next.resumed.pathHeads.find? (·.path == path) with
  | some item =>
    have listed := catches.lists item (mem_of_find?_eq_some found)
    obtain ⟨row, here, inChain, rfl⟩ := mem_orientedHeads.mp listed
    have hit := find?_some found
    obtain rfl : row.path = path := eq_of_beq hit
    exact (headAt_of_mem catches.now here inChain).symm
  | none =>
    have unlisted := find?_eq_none.mp found
    rw [map_none, none_or]
    by_cases here : ∃ row ∈ next.read.before.pathHeads, row.chain = chain ∧ row.path = path
    · obtain ⟨row, mem, inChain, rfl⟩ := here
      rcases catches.since.late row mem inChain with late | ⟨there, _⟩
      · have listed := catches.late row mem inChain late
        exact absurd (beq_self_eq_true _) (unlisted _ listed)
      · rw [headAt_of_mem catches.before there inChain, headAt_of_mem catches.now mem inChain]
    · have absent : poll.read.before.headAt (.path chain path) = none := by
        apply headAt_eq_none
        intro row mem inChain same
        obtain ⟨other, there, key⟩ := catches.since.kept row mem
        obtain ⟨sameChain, samePath⟩ := mk.inj key
        exact here ⟨other, there, sameChain.trans inChain, samePath.trans same⟩
      rw [absent, headAt_eq_none]
      intro row mem inChain same
      exact here ⟨row, mem, inChain, same⟩

/-- Two polls of a run in which path heads are stamped late enough.
Witness: the cursor of the earlier poll is a stamp that it has seen.
-/
theorem catches (clock : ∀ steps, env.isoDate (env.now steps) = some (env.now steps))
    (lives : Lives (StampPromise env) config.history) (late : config.history.Respects StampedLate)
    (polled : poll.In chain config) (follows : Follows chain config poll next between) {heads heads' : Tables}
    {headRow headRow' : ChainHeadRow} {paths paths' : List Text} {since since' : Option Text}
    (listed : Listed env chain poll config.history.log heads headRow paths since)
    (listedNext : Listed env chain next config.history.log heads' headRow' paths' since')
    : ∃ stamps, Catches chain poll next between stamps := by
  obtain ⟨cursor, latest, asked⟩ := follows.since
  obtain ⟨earlier, order⟩ := follows.order
  have orderRead : poll.read :: earlier <:+ config.history.log :=
    (suffix_append (next.read :: between) (poll.read :: earlier)).trans order
  have thread := (mem_own.mp polled.issued).2
  have seen := listed.cursor_seen orderRead thread polled.reads latest
  obtain ⟨livesNext, _, _⟩ := before (lives.earlier order)
  obtain ⟨livesRead, _, _⟩ := before (lives.earlier orderRead)
  have stampedNext := stamped livesNext
  have stampedRead := stamped livesRead
  have lateNext : Respects StampedLate
      (⟨next.read.before, between ++ poll.read :: earlier⟩ : History (vault env)) :=
    (late.earlier (h := ⟨next.read.before, next.read :: (between ++ poll.read :: earlier)⟩) order).2
  have clocked : Clocked env cursor := by
    rw [listed.cursor] at latest
    rcases mem_cons.mp (mem_of_cursor latest).2 with rfl | fromPath
    · have within : (⟨poll.thread, .readChainHead chain, heads⟩ : Issued (vault env))
          ∈ config.history.log := by
        have own : (⟨poll.thread, .readChainHead chain, heads⟩ : Issued (vault env))
            ∈ config.history.log.filter (·.thread == poll.thread) := by
          rw [listed.own]
          exact .tail _ (.head _)
        exact (mem_filter.mp own).1
      obtain ⟨_, _, livesHeads, _⟩ := at_issued lives within
      exact (stamped livesHeads).chainHeads headRow (mem_of_find?_eq_some listed.found)
    · obtain ⟨item, mem, rfl⟩ := List.mem_map.mp fromPath
      obtain ⟨row, here, _, rfl⟩ := mem_orientedHeads.mp mem
      exact stampedRead.pathHeads row here
  obtain ⟨steps, rfl⟩ := clocked
  have nonempty : env.now steps ≠ [] := by
    rw [listed.cursor] at latest
    exact (mem_of_cursor latest).1
  cases since_of_cursor listedNext.filter asked nonempty (clock steps)
  refine ⟨seenStamps chain (poll.read :: earlier), ?_, stampedRead.keyed, stampedNext.keyed, ?_, ?_⟩
  · exact sinceRead livesNext lateNext polled.reads follows.only
  · intro item mem
    rw [listedNext.pathHeads] at mem
    exact (mem_filter.mp mem).1
  · intro row mem inChain stampedLate
    rw [listedNext.pathHeads]
    refine mem_filter.mpr ⟨mem_orientedHeads.mpr ⟨row, mem, inChain, rfl⟩, ?_⟩
    have new : env.now steps ≤ (next.read.before.oriented row).updatedAt :=
      stampedLate (env.now steps) seen
    simp [new]

-- Runs

variable {Call : Type} {call : Call}

theorem keeps_create_stamped (body : StoneBody)
    : Keeps (StampPromise env) t call (createStoneFromBody body) (fun _ _ => True) h := by
  have made : Keeps (StampPromise env) t call (createStoneFromBody body)
      (fun made _ => ∃ row : StoneRow, row.hash = made.stoneHash ∧ True) h := by
    refine keeps_createStoneFromBody (S := fun _ _ => True) (stampPromise_of_harmless t)
      (fun _ _ => trivial) ?_ (fun _ _ _ _ _ => trivial) ?_
    · intro input made row h1 h2 _ _ _ _ _ _
      have stores : Keeps (StampPromise env) t call (storeStone row (madeStone env body input made))
          (fun _ h' => row ∈ h'.state.stones) h2 :=
        keeps_storeStone_present (stampPromise_of_harmless t) (fun _ _ => trivial)
          (fun _ _ => trivial) (fun _ _ => trivial)
      exact stores.weaken (fun _ _ _ _ => trivial)
    · intro row stamp h1 _ clocked _ _ chain _
      exact clocked
  exact made.weaken (fun _ _ _ _ => trivial)

theorem keeps_commit_stamped (body : Value)
    : Keeps (StampPromise env) t call (commitV2FromBody body) (fun _ _ => True) h := by
  refine keeps_commitV2FromBody (fun _ _ _ _ => True) (stampPromise_of_harmless t) ?_
    (fun _ _ _ _ _ _ _ _ _ => trivial) (fun _ _ _ _ _ _ _ => trivial) ?_ ?_
  · intro chain author sourced content h1 _ _
    exact keeps_create_stamped sourced.withoutHead
  · intro chain path hash column stamp h1 _ clocked _ _
    exact clocked
  · intro chain path hash stamp h1 _ clocked
    exact clocked

def HasPolled (env : Env) (t : Nat) (call : PollCall) (_ : Tables) (answer : Except Text PollAnswer)
    (h : History (vault env))
    : Prop :=
  match call, answer with
  | .resumeChain body, .ok (.resumed (.ok resumed)) =>
    ∃ chain detail paths since, body.get (text "chain") = .string chain
      ∧ detailOf env (body.get (text "detail")) = some detail
      ∧ orientationFilter env detail body = .ok (paths, since)
      ∧ Reads env t chain paths since [] detail resumed (h.own t)
  | _, _ => True

theorem meets_attend (t : Nat) (call : PollCall) (start : History (vault env))
    (fresh : start.own t = [])
    : (agreement (StampPromise env) PollCall).Meets t call (attend call)
        (HasPolled env t call start.state) start := by
  cases call with
  | commitV2 body =>
    apply Meets.map
    exact consequence (keeps_commit_stamped body) (fun _ _ _ _ => trivial)
  | setPathHead body =>
    have keeps : Keeps (StampPromise env) t (PollCall.setPathHead body) (setPathHeadFromBody body)
        (fun _ _ => True) start :=
      keeps_setPathHeadFromBody (stampPromise_of_harmless t) (fun _ _ _ _ _ _ _ _ _ _ _ clocked =>
        clocked)
    apply Meets.map
    exact consequence keeps (fun _ _ _ _ => trivial)
  | resumeChain body =>
    apply Meets.map
    refine consequence (keeps_resumeChainFromBody (stampPromise_of_harmless t)) ?_
    intro answer h _ holds
    cases answer with
    | error error => trivial
    | ok answer =>
      cases answer with
      | error error => trivial
      | ok resumed =>
        have reads := holds resumed rfl
        rw [fresh] at reads
        exact reads

theorem stamped_run (acts : List (Action (vault env) PollCall))
    : (agreement (StampPromise env) PollCall).Sound (HasPolled env)
        ((init empty).run attend acts) := by
  have initial : Lives (StampPromise env) (⟨empty, []⟩ : History (vault env)) := Kept.nil
  exact (agreement (StampPromise env) PollCall).sound
    (fun t call start _ fresh => meets_attend t call start fresh) initial acts

/-- What an answered poll of a run has read, and what it answers from that. -/
theorem exists_listed
    (sound : (agreement (StampPromise env) PollCall).Sound (HasPolled env) config)
    (polled : poll.In chain config)
    : ∃ heads headRow paths since,
        Listed env chain poll config.history.log heads headRow paths since := by
  obtain ⟨entry, found, asks⟩ := map_eq_some_iff.mp polled.asked
  obtain ⟨entry', found', answers⟩ := bind_eq_some_iff.mp polled.answered
  cases (found.symm.trans found')
  have post := sound.post_of_answer found answers
  rw [asks] at post
  obtain ⟨chain', detail, paths, since, named, asked, filter, reads⟩ := post
  cases (named.symm.trans polled.named)
  cases (asked.symm.trans polled.compact)
  generalize resumed : poll.resumed = answer at reads
  generalize own : config.history.own poll.thread = log at reads
  cases reads with
  | compact captures =>
    rename_i heads pathHeads headRow full
    have read := polled.issued
    rw [own, append_nil, headReads] at read
    have before : poll.read.before = pathHeads := by
      rcases mem_cons.mp read with same | second
      · rw [same]
      · have same := mem_singleton.mp second
        have reads := polled.reads
        rw [same] at reads
        cases reads
    refine ⟨heads, headRow, paths, since, ?_, captures.found, filter, ?_, ?_⟩
    · rw [before]
      exact own.trans (append_nil _)
    · rw [resumed, before, ← captures.pathHeads]
      rfl
    · rw [resumed, before, ← captures.pathHeads]
      rfl

/-- However calls are interleaved, a client that asks for what is new since its cursor loses nothing, as
long as no path head is written with a stamp that is earlier than what was read before.
-/
theorem losesNothing (clock : ∀ steps, env.isoDate (env.now steps) = some (env.now steps))
    (schedule : List (Action (vault env) PollCall))
    (late : ((Config.init Tables.empty).run attend schedule).history.Respects StampedLate)
    (chain : Text)
    : LosesNothing chain ((Config.init Tables.empty).run attend schedule) := by
  have sound := stamped_run schedule
  generalize (init empty).run attend schedule = config at sound late ⊢
  have pair {poll next : Poll env} {between : List (Issued (vault env))} (polled : poll.In chain config)
      (polledNext : next.In chain config) (follows : Follows chain config poll next between)
      : ∃ stamps, Catches chain poll next between stamps := by
    obtain ⟨_, _, _, _, listed⟩ := exists_listed sound polled
    obtain ⟨_, _, _, _, listedNext⟩ := exists_listed sound polledNext
    exact catches clock sound.inv late polled follows listed listedNext
  refine ⟨?_, ?_⟩
  · intro poll next between polled polledNext follows row issued member writes
    obtain ⟨stamps, catches⟩ := pair polled polledNext follows
    exact catches.returned member writes
  · intro first polls
    induction polls with
    | nil =>
      intro newest later same _ path
      injection same with same
      rw [← same]
      rfl
    | cons next polls ih =>
      intro newest later same session path
      obtain ⟨rfl, rest⟩ := cons.inj same
      cases known : polls ++ [first] with
      | nil => simp at known
      | cons poll earlier =>
        rw [cons_append, known] at session
        obtain ⟨polledNext, ⟨between, follows⟩, before⟩ := session
        have polled : poll.In chain config := by
          cases earlier with
          | nil => exact before
          | cons other earlier => exact before.1
        obtain ⟨stamps, catches⟩ := pair polled polledNext follows
        rw [mergedView, ih poll earlier known (known ▸ before) path]
        exact catches.merged path

def fileLine (path : String) : Value :=
  .literal
    [(text "chain", .string (text "c")), (text "author", .string (text "a")),
      (text "path", .string (text path)), (text "content", .string (text path))]

def pollRequest (since : Value) : Value :=
  .literal
    [(text "chain", .string (text "c")), (text "detail", .string (text "compact")),
      (text "since", since)]

def earlyStamp : Text := text "2026-01-01T00:00:00.000Z"

def lateStamp : Text := text "2026-01-01T00:00:01.000Z"

/-- A world whose clock goes on by one second, at the twenty-second step. -/
def tickingEnv : Env :=
  { quietEnv with
    sha256 := List.reverse
    now := fun steps => if steps < 22 then earlyStamp else lateStamp }

/-- A world whose clock stands still. -/
def steadyEnv : Env :=
  { quietEnv with sha256 := List.reverse }

/-- A commit that moves its path head only after another one and a poll, and then the next poll. -/
def pollSchedule (env : Env) (cursor : Text) : List (Action (vault env) PollCall) :=
  .spawn (.commitV2 headedLine) :: List.replicate 10 (.step 0)
    ++ .spawn (.commitV2 (fileLine "q")) :: List.replicate 8 (.step 1)
    ++ .spawn (.commitV2 (fileLine "r")) :: List.replicate 9 (.step 2)
    ++ .spawn (.resumeChain (pollRequest .undefined)) :: List.replicate 5 (.step 3)
    ++ .step 1 :: .spawn (.resumeChain (pollRequest (.string cursor))) :: List.replicate 5 (.step 4)

def PollAnswer.resumed? : Option (Except Text PollAnswer) → Option Resumed
  | some (.ok (.resumed (.ok orientation))) => some orientation
  | _ => none

theorem PollAnswer.eq_of_resumed? {answer : Option (Except Text PollAnswer)} {resumed : Resumed}
    (found : PollAnswer.resumed? answer = some resumed)
    : answer = some (.ok (.resumed (.ok resumed))) := by
  unfold PollAnswer.resumed? at found
  split at found
  · rw [some.inj found]
  · cases found

/-- The newest commands are an orientation of thread 4 in chain `c`, before that thread 1 writing the head of
`q`, and before that an orientation of thread 3.
-/
def missesWrite : List (Issued (vault tickingEnv)) → Bool
  | ⟨4, .readPathHeads chain', _⟩ :: ⟨4, .readChainHead _, _⟩
      :: ⟨1, .write (.upsertPathHead row), _⟩ :: ⟨3, .readPathHeads chain, _⟩ :: _ =>
        decide (chain' = text "c" ∧ chain = text "c" ∧ row.chain = text "c" ∧ row.path = text "q")
  | _ => false

/-- The clock does not go back, and yet the path head that was stamped before the cursor and written
after it is not listed.
-/
theorem missed_pathHead
    : (∀ m n, m ≤ n → tickingEnv.now m ≤ tickingEnv.now n)
      ∧ (∀ steps, tickingEnv.isoDate (tickingEnv.now steps) = some (tickingEnv.now steps))
      ∧ ¬LosesNothing (text "c")
          ((Config.init Tables.empty).run attend (pollSchedule tickingEnv lateStamp)) := by
  refine ⟨?_, fun _ => rfl, ?_⟩
  · intro m n le
    change (if m < 22 then earlyStamp else lateStamp) ≤ (if n < 22 then earlyStamp else lateStamp)
    by_cases early : n < 22
    · have before : m < 22 := by omega
      rw [if_pos before, if_pos early]
    · rw [if_neg early]
      split
      · decide
      · exact le_refl lateStamp
  · intro losesNothing
    have first
        : (PollAnswer.resumed? (((init empty).run attend
            (pollSchedule tickingEnv lateStamp)).answer 3)).any (·.nextCursor == some lateStamp)
          = true := by
      decide +kernel
    have second
        : (PollAnswer.resumed? (((init empty).run attend
            (pollSchedule tickingEnv lateStamp)).answer 4)).any
            (fun resumed => resumed.pathHeads.all (·.path != text "q"))
          = true := by
      decide +kernel
    have logged
        : missesWrite ((init empty).run attend
            (pollSchedule tickingEnv lateStamp)).history.log = true := by
      decide +kernel
    have asked (t : Nat) : ((init empty).run attend
        (pollSchedule tickingEnv lateStamp)).call t = _ := call_run ..
    generalize (init empty).run attend (pollSchedule tickingEnv lateStamp) = config
      at losesNothing first second logged asked
    obtain ⟨resumed, found, cursor⟩ := (Option.any_eq_true _ _).mp first
    obtain ⟨resumedNext, foundNext, unlisted⟩ := (Option.any_eq_true _ _).mp second
    have answered := PollAnswer.eq_of_resumed? found
    have answeredNext := PollAnswer.eq_of_resumed? foundNext
    unfold missesWrite at logged
    split at logged
    · rename_i log chain' tables' chainRead tablesRead row tables chain start earlier same
      obtain ⟨rfl, rfl, inChain, path⟩ := of_decide_eq_true logged
      let read : Issued (vault tickingEnv) := ⟨3, .readPathHeads (text "c"), start⟩
      let readNext : Issued (vault tickingEnv) := ⟨4, .readPathHeads (text "c"), tables'⟩
      let write : Issued (vault tickingEnv) := ⟨1, .write (.upsertPathHead row), tables⟩
      let poll : Poll tickingEnv := ⟨3, pollRequest .undefined, resumed, read⟩
      let next : Poll tickingEnv := ⟨4, pollRequest (.string lateStamp), resumedNext, readNext⟩
      have within (issued : Issued (vault tickingEnv)) (member : issued ∈ config.history.log)
          : issued ∈ config.history.own issued.thread :=
        mem_own.mpr ⟨member, rfl⟩
      have compact (since : Value)
          : detailOf tickingEnv ((pollRequest since).get (text "detail")) = some .compact := by
        rfl
      have polled : poll.In (text "c") config :=
        ⟨asked 3, rfl, compact _, answered, within read (by simp [same, read]), rfl⟩
      have polledNext : next.In (text "c") config :=
        ⟨asked 4, rfl, compact _, answeredNext, within readNext (by simp [same, readNext]), rfl⟩
      have follows : Follows (text "c") config poll next
          [⟨4, .readChainHead chainRead, tablesRead⟩, write] := by
        refine ⟨⟨lateStamp, eq_of_beq cursor, rfl⟩, ⟨earlier, ?_⟩, ?_⟩
        · rw [same]
          exact suffix_refl _
        · intro issued member
          rcases mem_cons.mp member with rfl | member
          · simp
          · cases mem_singleton.mp member
            simp [write]
      obtain ⟨item, listed, samePath, _⟩ := losesNothing.returned poll next _ polled polledNext
        follows row write (by simp) ⟨rfl, inChain, rfl, rfl⟩
      have other := List.all_eq_true.mp unlisted item listed
      rw [samePath, path] at other
      simp at other
    · cases logged

/-- Where the clock stands still, the path head is listed. -/
theorem losesNothing_steady
    : (∃ resumed,
        ((Config.init Tables.empty).run attend (pollSchedule steadyEnv earlyStamp)).answer 4
            = some (.ok (.resumed (.ok resumed)))
          ∧ resumed.pathHeads.any (·.path == text "q"))
      ∧ LosesNothing (text "c")
          ((Config.init Tables.empty).run attend (pollSchedule steadyEnv earlyStamp)) := by
  refine ⟨?_, losesNothing (fun _ => rfl) (pollSchedule steadyEnv earlyStamp) ?_ (text "c")⟩
  · have listed
        : (PollAnswer.resumed? (((init empty).run attend
            (pollSchedule steadyEnv earlyStamp)).answer 4)).any
            (fun resumed => resumed.pathHeads.any (·.path == text "q"))
          = true := by
      decide +kernel
    obtain ⟨resumed, found, holds⟩ := (Option.any_eq_true _ _).mp listed
    exact ⟨resumed, PollAnswer.eq_of_resumed? found, holds⟩
  · decide +kernel

end CairnStone.Vault
