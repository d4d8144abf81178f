import CairnStone.Sandbox.ReceiptObligations

/-! Receipts and the lists of their sessions. While every update of a list starts from the list that is
there, the receipts that calls have answered are listed until a hundred later ones are; a receipt is of
a class that its sandbox allows, as long as the manifest that its call uses is no wider.
-/

namespace CairnStone.Sandbox

open JavaScript Data Concurrency List Option Database History Kept Prod Settlement CodeSession ReceiptRow
open TaskRuns (Refusal)
open CodeSession (SessionRow SessionCall SessionAnswer Digest)

variable {refs : List Value}

/-- The list that is written is the one that is there, behind one new entry. -/
def extendsList (db : Database) (id : Text) (refs : List Value) : Bool :=
  (sessionOf id db).all (fun session =>
    (refTexts refs).tail
      == (refTexts session.latestExecutionReceiptRefs).take (MAX_RECEIPT_REFS - 1))

def boundManifest (db : Database) (row : ReceiptRow) : Option ManifestRow :=
  (row.sandboxAttachmentId.bind (findAttachment db.attachments)).bind
    (fun attachment => manifestOf attachment.environmentManifestId db)

def noWider (db : Database) (row : ReceiptRow) : Bool :=
  (boundManifest db row).all (fun bound =>
    (row.environmentManifestId.bind (fun id => manifestOf id db)).all (fun used =>
      (ALLOWED_COMMANDS_BY_EXECUTION_CLASS used.sandboxExecutionClass).all
        (ALLOWED_COMMANDS_BY_EXECUTION_CLASS bound.sandboxExecutionClass).contains))

/-- A statement that heeds what has happened since its call has read. -/
def heedful (db : Database) : Command → Bool
  | .session _ => true
  | .insertReceipt row => noWider db row
  | .recordRefs id refs _ => extendsList db id refs
  | .swapRefs id base refs now => !matched db (.swapRefs id base refs now) || extendsList db id refs

def Heeded (_ : Nat) (cmd : Command) (h : History store) : Prop :=
  heedful h.state cmd = true

def AllowedBy (db : Database) (row : ReceiptRow) : Prop :=
  ∀ manifest, boundManifest db row = some manifest
    → commandClassAllowedForExecutionClass manifest.sandboxExecutionClass row.commandClass = true

/-- A database whose lists hold the ids of stored receipts, each once. -/
structure Accounted (start : Database) : Prop where
  sessions : Keyed SessionRow.codeSessionId start.code.sessions
  receipts : Keyed ReceiptRow.receiptId start.receipts
  tidy : TidySessions start
  stored
    : ∀ id session, sessionOf id start = some session
      → ∀ ref ∈ refTexts session.latestExecutionReceiptRefs,
        ref ∈ start.receipts.map ReceiptRow.receiptId
  once
    : ∀ id session, sessionOf id start = some session
      → (refTexts session.latestExecutionReceiptRefs).Nodup
  short
    : ∀ id session, sessionOf id start = some session
      → session.latestExecutionReceiptRefs.length ≤ MAX_RECEIPT_REFS
  allowed : ∀ row ∈ start.receipts, AllowedBy start row

variable {start : Database} {h : History store} {t : Nat} {id : Text} {cmd : Command}

theorem writes_of_refs {call : ReceiptCall} (due : ReceiptPromise start t call cmd h)
    (put : cmd.refs = some (id, refs))
    : Writes t id refs h := by
  cases cmd with
  | recordRefs target list now =>
    obtain ⟨rfl, rfl⟩ := mk.inj (some.inj put)
    exact due
  | swapRefs target base list now =>
    obtain ⟨rfl, rfl⟩ := mk.inj (some.inj put)
    exact due
  | _ => cases put

theorem extendsList_of_heedful {db : Database} (heeds : heedful db cmd = true)
    (found : matched db cmd = true) (put : cmd.refs = some (id, refs))
    : extendsList db id refs = true := by
  cases cmd with
  | recordRefs target list now =>
    obtain ⟨rfl, rfl⟩ := mk.inj (some.inj put)
    exact heeds
  | swapRefs target base list now =>
    obtain ⟨rfl, rfl⟩ := mk.inj (some.inj put)
    simp only [heedful, found, Bool.not_true, Bool.false_or] at heeds
    exact heeds
  | _ => cases put

/-- What a step lists in the session whose list it writes. -/
theorem listedIn_of_refs {ref : Text} {db : Database}
    (put : cmd.refs = some (id, refs)) (found : matched db cmd = true)
    (head : refs.head?.map refText = some ref)
    : listedIn id (⟨t, cmd, db⟩ : Issued store) = some ref := by
  unfold listedIn lists
  rw [if_pos found, put, bind_some, if_pos rfl, head]

def HoldsLatest (start : Database) (id : Text) (h : History store) : Prop :=
  ∀ session, sessionOf id h.state = some session
    → ∃ first, sessionOf id start = some first
        ∧ refTexts session.latestExecutionReceiptRefs
          = (h.log.filterMap (listedIn id) ++ refTexts first.latestExecutionReceiptRefs).take
              MAX_RECEIPT_REFS

theorem cons_take_of_tail {list rest : List Text} {first : Text} (head : list.head? = some first)
    (tail : list.tail = (rest.take MAX_RECEIPT_REFS).take (MAX_RECEIPT_REFS - 1))
    : list = (first :: rest).take MAX_RECEIPT_REFS := by
  cases list with
  | nil => cases head
  | cons item items =>
    obtain rfl := some.inj head
    rw [tail_cons, take_take] at tail
    change item :: items = (item :: rest).take (99 + 1)
    rw [take_succ_cons, tail]
    rfl

/-- While every update of a list starts from the list that is there, it holds the latest receipts.
Witness: case analysis on what the step does to the list.
-/
theorem holdsLatest_run (accounted : Accounted start) (lives : ReceiptLives start h)
    (heeds : h.Respects Heeded) (id : Text)
    : HoldsLatest start id h := by
  have initial : HoldsLatest start id ⟨start, []⟩ := by
    intro session found
    refine ⟨session, found, (take_of_length_le ?_).symm⟩
    rw [refTexts, length_map]
    exact accounted.short id session found
  refine run (J := HoldsLatest start id) lives heeds initial ?_
  rintro g t cmd lives _ ⟨call, due⟩ heeded holds later now
  have keyed := ReceiptLives.keyed accounted.sessions lives
  obtain ⟨prior, found, same | ⟨put, hit⟩⟩ := refs_step (t := t) keyed now
  · obtain ⟨first, began, texts⟩ := holds prior found
    refine ⟨first, began, ?_⟩
    rw [exec_log, filterMap_cons_none same.2, same.1]
    exact texts
  · obtain ⟨first, began, texts⟩ := holds prior found
    obtain ⟨row, -, -, head⟩ := (writes_of_refs due put).begun
    have extended := extendsList_of_heedful heeded hit put
    unfold extendsList at extended
    rw [found, all_some, beq_iff_eq, texts] at extended
    refine ⟨first, began, ?_⟩
    rw [exec_log, filterMap_cons_some (listedIn_of_refs put hit head), cons_append]
    refine cons_take_of_tail ?_ extended
    rw [refTexts, head?_map]
    exact head

theorem receipts_perm (lives : ReceiptLives start h)
    : (receipts h.state).Perm (start.receipts ++ h.log.filterMap insertedReceipt) := by
  have initial : (start.receipts).Perm (start.receipts ++ []) := by
    rw [append_nil]
  refine invariant
    (J := fun g => (receipts g.state).Perm (start.receipts ++ g.log.filterMap insertedReceipt))
    lives initial ?_
  intro g t cmd _ _ same
  rw [exec_log]
  cases cmd with
  | insertReceipt row =>
    change (insertReceipt (receipts g.state) row).2.Perm _
    cases put : (insertReceipt (receipts g.state) row).1 with
    | true =>
      have made : insertedReceipt (⟨t, .insertReceipt row, g.state⟩ : Issued store) = some row :=
        if_pos put
      rw [(insertReceipt_eq_true put).1, filterMap_cons_some made]
      refine (same.append_right _).trans ?_
      rw [append_assoc]
      exact perm_append_comm.append_left _
    | false =>
      have made : insertedReceipt (⟨t, .insertReceipt row, g.state⟩ : Issued store) = none :=
        if_neg (ne_true_of_eq_false put)
      rw [filterMap_cons_none made]
      unfold insertReceipt at put ⊢
      cases found : (receipts g.state).find? (·.receiptId == row.receiptId) with
      | some old => exact same
      | none =>
        rw [found] at put
        cases put
  | _ => exact same

theorem receipts_keyed (accounted : Accounted start) (lives : ReceiptLives start h)
    : Keyed receiptId (receipts h.state) := by
  refine invariant (J := fun g => Keyed receiptId (receipts g.state)) lives
    accounted.receipts ?_
  intro g t cmd _ _ keyed
  cases cmd with
  | insertReceipt row =>
    change Keyed receiptId (insertReceipt (receipts g.state) row).2
    unfold insertReceipt
    cases found : (receipts g.state).find? (·.receiptId == row.receiptId) with
    | some old => exact keyed
    | none => exact keyed.append_singleton (find_eq_none.mp found)
  | _ => exact keyed

def settledIn (id : Text) (log : List (Issued store)) : List Text :=
  ((receiptWork.settled log).filter (·.codeSessionId == id)).map ReceiptRow.receiptId

/-- What is listed in a session is what updates have settled, the latest first. -/
theorem listed_eq_settled (lives : ReceiptLives start h) (id : Text)
    : h.log.filterMap (listedIn id) = (settledIn id h.log).reverse := by
  refine invariant
    (J := fun g => g.log.filterMap (listedIn id) = (settledIn id g.log).reverse) lives rfl ?_
  rintro g t cmd _ ⟨call, due⟩ same
  rw [exec_log]
  cases listed : lists (⟨t, cmd, g.state⟩ : Issued store) with
  | false =>
    have none : listedIn id (⟨t, cmd, g.state⟩ : Issued store) = none := by
      unfold listedIn
      rw [listed]
      rfl
    have settles : receiptWork.settles (⟨t, cmd, g.state⟩ : Issued store) = false := listed
    unfold settledIn at same ⊢
    rw [filterMap_cons_none none, settled_cons, settles, if_neg Bool.false_ne_true,
      append_nil]
    exact same
  | true =>
    have settles : receiptWork.settles (⟨t, cmd, g.state⟩ : Issued store) = true := listed
    obtain ⟨target, refs, put⟩ : ∃ target refs, cmd.refs = some (target, refs) := by
      cases cmd with
      | recordRefs target refs now => exact ⟨target, refs, rfl⟩
      | swapRefs target base refs now => exact ⟨target, refs, rfl⟩
      | _ => cases listed
    obtain ⟨row, begun, named, head⟩ := (writes_of_refs due put).begun
    have share : (receiptWork.unsettled g.log).filter (fun item => item.1 == t) = [(t, row)] := by
      rw [unsettled_own]
      exact begun
    have settled : receiptWork.settled (⟨t, cmd, g.state⟩ :: g.log)
        = receiptWork.settled g.log ++ [row] := by
      rw [settled_cons, if_pos settles, share]
      rfl
    have now : listedIn id (⟨t, cmd, g.state⟩ : Issued store)
        = if target = id then some row.receiptId else none := by
      unfold listedIn
      rw [if_pos listed, put, bind_some, head]
    unfold settledIn at same ⊢
    rw [settled, filter_append, map_append, reverse_append]
    by_cases here : target = id
    · have kept : [row].filter (·.codeSessionId == id) = [row] := by simp [named, here]
      rw [if_pos here] at now
      rw [filterMap_cons_some now, kept, same]
      rfl
    · have dropped : [row].filter (·.codeSessionId == id) = [] := by simp [named, here]
      rw [if_neg here] at now
      rw [filterMap_cons_none now, dropped, same]
      rfl

/-- No receipt is listed twice, and none that the start has stored. Witness: each was inserted under an
id that was free.
-/
theorem listed_nodup (accounted : Accounted start) (lives : ReceiptLives start h) (id : Text)
    : (h.log.filterMap (listedIn id)).Nodup
      ∧ ∀ ref ∈ h.log.filterMap (listedIn id), ref ∉ start.receipts.map receiptId := by
  have keyed := receipts_keyed accounted lives
  unfold Keyed at keyed
  have ids := (receipts_perm lives).map receiptId
  have begun := (receiptWork.begun_perm insertedReceipt_of_lists h.log).map receiptId
  rw [map_append] at begun
  rw [map_append] at ids
  have all := (ids.trans (begun.append_left _)).nodup_iff.mp keyed
  obtain ⟨-, put, apart⟩ := nodup_append.mp all
  have part : (settledIn id h.log).Sublist ((receiptWork.settled h.log).map receiptId) :=
    filter_sublist.map _
  rw [listed_eq_settled lives]
  refine ⟨nodup_reverse.mpr (part.nodup (nodup_append.mp put).1), ?_⟩
  intro ref mem stored
  have settled := part.subset (mem_reverse.mp mem)
  exact apart ref stored ref (mem_append_left _ settled) rfl

theorem boundManifest_lives (lives : ReceiptLives start h) (row : ReceiptRow)
    : boundManifest h.state row = boundManifest start row := by
  unfold boundManifest
  have manifests : (fun attachment : AttachmentRow => manifestOf attachment.environmentManifestId h.state)
      = fun attachment => manifestOf attachment.environmentManifestId start := by
    funext attachment
    exact manifestOf_lives lives attachment.environmentManifestId
  rw [lives.manifests.2, manifests]

/-- While no call uses a wider manifest than that of its sandbox, each receipt is of a class that its
sandbox allows.
-/
theorem allowed_run (accounted : Accounted start) (lives : ReceiptLives start h)
    (heeds : h.Respects Heeded)
    : ∀ row ∈ receipts h.state, AllowedBy start row := by
  refine run (J := fun g => ∀ row ∈ receipts g.state, AllowedBy start row) lives heeds
    accounted.allowed ?_
  rintro g t cmd lives _ ⟨call, due⟩ heeded allowed row mem
  cases cmd with
  | insertReceipt added =>
    change row ∈ (insertReceipt (receipts g.state) added).2 at mem
    unfold insertReceipt at mem
    cases found : (receipts g.state).find? (·.receiptId == added.receiptId) with
    | some old =>
      rw [found] at mem
      exact allowed row mem
    | none =>
      rw [found] at mem
      rcases mem_append.mp mem with old | new
      · exact allowed row old
      · cases mem_singleton.mp new
        intro bound here
        obtain ⟨id, used, named, there, uses⟩ := due.2
        have narrow : noWider g.state row = true := heeded
        unfold noWider at narrow
        rw [boundManifest_lives lives, here, all_some, named, bind_some,
          manifestOf_lives lives, there, all_some, List.all_eq_true] at narrow
        unfold commandClassAllowedForExecutionClass at uses ⊢
        exact narrow _ (contains_iff_mem.mp uses)
  | _ => exact allowed row mem

variable (sha256Text : Text → Digest) (localeLe : Text → Text → Bool) (toISOString : Nat → Text)

/-- A schedule of calls from a database, and where it ends. -/
abbrev afterReceipts (start : Database) (schedule : List (Action store ReceiptCall))
    : Config store ReceiptCall Text Answer :=
  (Config.init (M := store) start).run (ReceiptCall.body sha256Text localeLe toISOString) schedule

def heeding (config : Config store ReceiptCall Text Answer) (t : Nat) : Bool :=
  (config.pending t).all (heedful config.state)

/-- Every step of the schedule is heedful. -/
abbrev Heedful (start : Database) (schedule : List (Action store ReceiptCall)) : Prop :=
  (Config.init (M := store) start).Admitted (ReceiptCall.body sha256Text localeLe toISOString)
    (fun config t => heeding config t = true) schedule

def ReceiptCall.wellBased : ReceiptCall → Bool
  | .receipt args => Sandbox.wellBased args.baseRevision
  | .session _ => true

/-- Every revision that a call of the schedule is given is one. -/
def WellBased (schedule : List (Action store ReceiptCall)) : Bool :=
  (schedule.filterMap Config.spawned).all ReceiptCall.wellBased

variable {sha256Text localeLe toISOString}

theorem sound_afterReceipts (accounted : Accounted start) (schedule : List (Action store ReceiptCall))
    : (receiptAgreement start).Sound HasEnded
        (afterReceipts sha256Text localeLe toISOString start schedule) :=
  (receiptAgreement start).sound
    (fun _ call _ _ unstarted =>
      meets_receiptBody sha256Text localeLe toISOString accounted.sessions accounted.tidy call unstarted)
    .nil schedule

variable {schedule : List (Action store ReceiptCall)}

theorem heeded_of_heedful (accounted : Accounted start)
    (fits : Heedful sha256Text localeLe toISOString start schedule)
    : (afterReceipts sha256Text localeLe toISOString start schedule).history.Respects Heeded := by
  refine (receiptAgreement start).admitted_run (J := History.Respects (M := store) Heeded)
    (fun _ call _ _ unstarted =>
      meets_receiptBody sha256Text localeLe toISOString accounted.sessions accounted.tidy call unstarted)
    .nil trivial (fun _ _ pending _ heeds holds => ⟨?_, holds⟩) (fun event => isEmptyElim event) fits
  unfold heeding at heeds
  rw [pending] at heeds
  exact heeds

theorem wellBased_of_thread (based : WellBased schedule = true)
    {thread : Thread store ReceiptCall Text Answer}
    (found : (afterReceipts sha256Text localeLe toISOString start schedule).threads[t]? = some thread)
    : thread.call.wellBased = true := by
  have called : (afterReceipts sha256Text localeLe toISOString start schedule).call t
      = some thread.call := by
    unfold Config.call
    rw [found]
    rfl
  rw [Config.call_run] at called
  exact List.all_eq_true.mp based _ (mem_of_getElem? called)

def receiptOf (id : Text) (thread : Thread store ReceiptCall Text Answer) : Option Text :=
  (thread.answer.bind Except.toOption).bind (Answer.receiptIn id)

/-- The list of a session holds the receipts that calls have answered, until a hundred later ones are
listed. A refused call has inserted none, unless its answer says so, and every receipt is of a class that
its sandbox allows.
-/
structure KeepsReceipts (config : Config store ReceiptCall Text Answer) (id : Text)
    (session : SessionRow)
    : Prop where
  answered : (config.history.log.filterMap (listedIn id)).Perm (config.threads.filterMap (receiptOf id))
  listed
    : ∀ ref ∈ config.threads.filterMap (receiptOf id),
        ref ∈ refTexts session.latestExecutionReceiptRefs
          ∨ ∃ later earlier, config.history.log.filterMap (listedIn id) = later ++ ref :: earlier
              ∧ MAX_RECEIPT_REFS ≤ later.length
  once : (refTexts session.latestExecutionReceiptRefs).Nodup
  refused
    : ∀ t thread args refusal, config.threads[t]? = some thread
      → thread.call = .receipt args
      → thread.answer = some (.ok (.receipt (.refused refusal)))
      → persistedNote ∉ refusal.details
      → ∀ issued ∈ config.history.own t, insertedReceipt issued = none
  allowed : ∀ row ∈ config.state.receipts, AllowedBy config.state row

/-- The first elements of a list hold one of its elements, or that many elements are before it. -/
theorem mem_take_or {list rest : List Text} {ref : Text} (n : Nat) (mem : ref ∈ list)
    : ref ∈ (list ++ rest).take n ∨ ∃ later prior, list = later ++ ref :: prior ∧ n ≤ later.length := by
  obtain ⟨later, prior, rfl⟩ := append_of_mem mem
  by_cases few : later.length < n
  · refine .inl ?_
    obtain ⟨more, rfl⟩ : ∃ more, n = later.length + (more + 1) := ⟨n - later.length - 1, by omega⟩
    rw [append_assoc, take_length_add_append, cons_append, take_succ_cons]
    exact mem_append_right _ (.head _)
  · exact .inr ⟨later, prior, rfl, Nat.not_lt.mp few⟩

theorem listed_of_quiet {config : Config store ReceiptCall Text Answer}
    (sound : (receiptAgreement start).Sound HasEnded config) (quiet : config.Quiet) (id : Text)
    : (config.history.log.filterMap (listedIn id)).Perm
        (config.threads.filterMap (receiptOf id)) := by
  refine filterMap_log_perm sound.logged (fun t thread found => ?_)
  obtain ⟨answer, answered⟩ := quiet.answered found
  have ended := sound.post_of_answer found answered
  rw [receiptOf, answered]
  exact ended.listed id

namespace Sample

def collate (a b : Text) : Bool :=
  a ≤ b

/-- A manifest whose class allows no installation. -/
def manifest : ManifestRow where
  environmentManifestId := text "envmanifest:one"
  workspaceId := text "ws:one"
  sandboxExecutionClass := .localBuildTest

/-- A session with that manifest, and a sandbox bound to it. -/
def equipped : Database where
  code :=
    .initial
      [{ CodeSession.Sample.session with environmentManifestId := some (text "envmanifest:one") }] []
  manifests := [manifest]
  attachments :=
    [{ attachmentId := text "sandbox:one"
       codeSessionId := text "cs:one"
       environmentManifestId := text "envmanifest:one" }]
  receipts := []

/-- A receipt of a test in the sandbox, without a revision. -/
def record (name : String) : ReceiptCall :=
  .receipt
    { receiptId := .string (text ("execrcpt:" ++ name))
      codeSessionId := .string (text "cs:one"), actorId := .string (text "user:ann")
      commandClass := .string (text "test"), commandSummary := .string (text "npm test")
      status := .string (text "pass"), exitCode := none, durationMs := none
      tipVectorDigest := .undefined, artifactRefs := .undefined, logRef := .undefined
      environmentManifestId := .undefined, sandboxAttachmentId := .string (text "sandbox:one")
      baseRevision := .undefined, detail := .undefined
      now := text "now" }

def receiptSteps (count thread : Nat) : List (Action store ReceiptCall) :=
  List.replicate count (.step thread)

/-- One receipt after the other. -/
def inTurn : List (Action store ReceiptCall) :=
  .spawn (record "a") :: receiptSteps 7 0 ++ .spawn (record "b") :: receiptSteps 7 1

def together : List (Action store ReceiptCall) :=
  .spawn (record "a") :: .spawn (record "b") :: receiptSteps 1 0 ++ receiptSteps 1 1
    ++ receiptSteps 6 0 ++ receiptSteps 6 1

theorem accounted_equipped : Accounted equipped where
  sessions := by
    unfold Keyed
    decide +kernel
  receipts := .nil
  tidy := by
    intro id session found item mem
    have here : session.latestExecutionReceiptRefs = [] := by
      obtain ⟨present, -⟩ := mem_of_find found
      cases mem_singleton.mp present
      rfl
    rw [here] at mem
    cases mem
  stored := by
    intro id session found ref mem
    have here : session.latestExecutionReceiptRefs = [] := by
      obtain ⟨present, -⟩ := mem_of_find found
      cases mem_singleton.mp present
      rfl
    rw [here] at mem
    cases mem
  once := by
    intro id session found
    obtain ⟨present, -⟩ := mem_of_find found
    cases mem_singleton.mp present
    exact nodup_nil
  short := by
    intro id session found
    obtain ⟨present, -⟩ := mem_of_find found
    cases mem_singleton.mp present
    exact Nat.zero_le _
  allowed := forall_mem_nil _

end Sample

open Sample

/-- In a run of heedful steps, in which each revision that is given is one, every receipt that is
answered is kept whenever no call is in progress.
-/
theorem keepsReceipts_of_heedful (sha256Text : Text → Digest) (localeLe : Text → Text → Bool)
    (toISOString : Nat → Text) (start : Database) (accounted : Accounted start)
    (schedule : List (Action store ReceiptCall)) (based : WellBased schedule = true)
    (admitted : Heedful sha256Text localeLe toISOString start schedule)
    (quiet : (afterReceipts sha256Text localeLe toISOString start schedule).Quiet) (id : Text)
    (session : SessionRow)
    (found
      : sessionOf id (afterReceipts sha256Text localeLe toISOString start schedule).state = some session)
    : KeepsReceipts (afterReceipts sha256Text localeLe toISOString start schedule) id session := by
  have sound : (receiptAgreement start).Sound HasEnded
      (afterReceipts sha256Text localeLe toISOString start schedule) :=
    sound_afterReceipts accounted schedule
  have heeds := heeded_of_heedful accounted admitted
  have answered := listed_of_quiet sound quiet id
  obtain ⟨first, began, texts⟩ := holdsLatest_run accounted sound.inv heeds id session found
  refine ⟨answered, fun ref member => ?_, ?_, ?_, ?_⟩
  · rw [texts]
    exact mem_take_or MAX_RECEIPT_REFS (answered.symm.subset member)
  · rw [texts]
    obtain ⟨distinct, fresh⟩ := listed_nodup accounted sound.inv id
    refine (take_sublist _ _).nodup (nodup_append.mpr ⟨distinct, accounted.once id first began, ?_⟩)
    rintro ref member _ old rfl
    exact fresh ref member (accounted.stored id first began ref old)
  · intro t thread args refusal at_t called answered unsaid
    have ended := sound.post_of_answer at_t answered
    have well := wellBased_of_thread based at_t
    rw [called] at well
    exact ended.denied ⟨args, refusal, called, rfl, well, unsaid⟩
  · intro row member manifest bound
    rw [boundManifest_lives sound.inv] at bound
    exact allowed_run accounted sound.inv heeds row member manifest bound

/-- Two receipts, one after the other. -/
theorem keepsReceipts_inTurn
    : ∃ session,
        sessionOf (text "cs:one")
            (afterReceipts CodeSession.Sample.digest Sample.collate CodeSession.Sample.toISOString
              Sample.equipped Sample.inTurn).state
          = some session
        ∧ KeepsReceipts
            (afterReceipts CodeSession.Sample.digest Sample.collate CodeSession.Sample.toISOString
              Sample.equipped Sample.inTurn)
            (text "cs:one") session := by
  have there
      : (sessionOf (text "cs:one")
          (afterReceipts digest collate toISOString
            equipped inTurn).state).isSome = true := by
    decide +kernel
  obtain ⟨session, found⟩ := isSome_iff_exists.mp there
  exact ⟨session, found,
    keepsReceipts_of_heedful _ _ _ _ accounted_equipped _ (by decide +kernel)
      (by decide +kernel) (by decide +kernel) _ _ found⟩

/-- A receipt of a call that has answered is in no list: the update of another call, which has read the
list before it, has written it over.
-/
theorem receiptsCanBeLost
    : ¬ ∀ (sha256Text : Text → Digest) (localeLe : Text → Text → Bool) (toISOString : Nat → Text)
        (start : Database), Accounted start
          → ∀ (schedule : List (Action store ReceiptCall)) (id : Text) (session : SessionRow),
            (afterReceipts sha256Text localeLe toISOString start schedule).Quiet
              → sessionOf id (afterReceipts sha256Text localeLe toISOString start schedule).state
                = some session
              → KeepsReceipts (afterReceipts sha256Text localeLe toISOString start schedule) id
                  session := by
  intro all
  have there
      : (sessionOf (text "cs:one")
          (afterReceipts digest collate toISOString
            equipped together).state).isSome = true := by
    decide +kernel
  obtain ⟨session, found⟩ := isSome_iff_exists.mp there
  have quiet
      : (afterReceipts digest collate toISOString
          equipped together).Quiet := by
    decide +kernel
  have keeps := all _ _ _ _ accounted_equipped together _ session quiet found
  have answered
      : ((afterReceipts digest collate toISOString
          equipped together).threads.filterMap (receiptOf (text "cs:one"))).contains
            (text "execrcpt:a") = true := by
    decide +kernel
  have short
      : ((afterReceipts digest collate toISOString
          equipped together).history.log.filterMap (listedIn (text "cs:one"))).length
        = 2 := by
    decide +kernel
  have unlisted
      : (sessionOf (text "cs:one")
          (afterReceipts digest collate toISOString
            equipped together).state).all (fun session =>
              !(refTexts session.latestExecutionReceiptRefs).contains (text "execrcpt:a")) = true := by
    decide +kernel
  rw [found, all_some] at unlisted
  rcases keeps.listed _ (contains_iff_mem.mp answered) with listed | ⟨later, earlier, split, many⟩
  · rw [contains_iff_mem.mpr listed] at unlisted
    cases unlisted
  · rw [split, length_append] at short
    unfold MAX_RECEIPT_REFS at many
    omega

end CairnStone.Sandbox
