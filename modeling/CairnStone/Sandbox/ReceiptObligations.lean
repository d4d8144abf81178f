import CairnStone.Sandbox.ReceiptPromises

/-! Each call on receipts keeps its promises, and its answer tells what it has inserted and listed. -/

namespace CairnStone.Sandbox

open JavaScript Data Concurrency Protocol List Option Database History Meets Kept Settlement Bool
open TaskRuns (Refusal refuse isGiven nonEmptyString ok_of_refuseThrown)
open Conversation (revisionOf)
open CodeSession (SessionRow SessionCall SessionAnswer Digest valueList)

-- Sessions, manifests and receipts under the statements

variable {start : Database} {h h' : History store} {t : Nat} {call : ReceiptCall} {id : Text}
  {cmd : Command} {db : Database}
  {s : Text}

theorem keyed_exec (cmd : Command)
    (keyed : Keyed SessionRow.codeSessionId db.code.sessions)
    : Keyed SessionRow.codeSessionId (exec cmd db).2.code.sessions := by
  cases cmd with
  | session cmd => exact CodeSession.keyed_exec cmd keyed
  | insertReceipt row => exact keyed
  | recordRefs id refs now => exact keyed.updateWhere (fun _ _ => rfl)
  | swapRefs id base refs now => exact keyed.updateWhere (fun _ _ => rfl)

/-- A statement on the sessions themselves leaves their lists alone. -/
theorem refs_sessionExec (cmd : CodeSession.Command) (code : CodeSession.Database)
    {later : SessionRow}
    (now : CodeSession.sessionOf id (CodeSession.exec cmd code).2 = some later)
    : ∃ prior, CodeSession.sessionOf id code = some prior
        ∧ later.latestExecutionReceiptRefs = prior.latestExecutionReceiptRefs := by
  cases cmd with
  | swapSession target base change =>
    rw [CodeSession.sessionOf_swapSession] at now
    obtain ⟨prior, found, rfl⟩ := map_eq_some_iff.mp now
    refine ⟨prior, found, ?_⟩
    unfold CodeSession.swapped
    split
    · cases change <;> rfl
    · rfl
  | _ => exact ⟨later, now, rfl⟩

theorem refs_step (keyed : Keyed SessionRow.codeSessionId db.code.sessions) {later : SessionRow}
    (now : sessionOf id (exec cmd db).2 = some later)
    : ∃ prior, sessionOf id db = some prior
        ∧ ((later.latestExecutionReceiptRefs = prior.latestExecutionReceiptRefs
              ∧ listedIn id ⟨t, cmd, db⟩ = none)
            ∨ (cmd.refs = some (id, later.latestExecutionReceiptRefs)
              ∧ matched db cmd = true)) := by
  cases cmd with
  | session cmd =>
    obtain ⟨prior, found, same⟩ := refs_sessionExec cmd db.code now
    exact ⟨prior, found, .inl ⟨same, rfl⟩⟩
  | insertReceipt row => exact ⟨later, now, .inl ⟨rfl, rfl⟩⟩
  | recordRefs target refs updatedAt =>
    have step : sessionOf id (exec (.recordRefs target refs updatedAt) db).2 = _ :=
      find_updateWhere (p := isSession target) (f := withRefs refs updatedAt) (fun _ => rfl) id
    rw [step] at now
    obtain ⟨prior, found, rfl⟩ := map_eq_some_iff.mp now
    obtain ⟨mem, named⟩ := mem_of_find found
    refine ⟨prior, found, ?_⟩
    by_cases same : target = id
    · subst same
      have here : isSession target prior = true := beq_iff_eq.mpr named
      refine .inr ⟨?_, List.any_eq_true.mpr ⟨prior, mem, here⟩⟩
      rw [if_pos here]
      rfl
    · have elsewhere : ¬ isSession target prior = true :=
        fun here => same ((beq_iff_eq.mp here).symm.trans named)
      refine .inl ⟨?_, ?_⟩
      · rw [if_neg elsewhere]
      · simp [listedIn, Command.refs, same]
  | swapRefs target base refs updatedAt =>
    have step : sessionOf id (exec (.swapRefs target base refs updatedAt) db).2 = _ :=
      find_updateWhere (p := CodeSession.matchesRevision target base)
        (f := fun row => { withRefs refs updatedAt row with sessionRevision := base + 1 })
        (fun _ => rfl) id
    rw [step] at now
    obtain ⟨prior, found, rfl⟩ := map_eq_some_iff.mp now
    obtain ⟨mem, named⟩ := mem_of_find found
    refine ⟨prior, found, ?_⟩
    by_cases here : CodeSession.matchesRevision target base prior = true
    · have same : target = id := (CodeSession.matchesRevision_iff.mp here).1.symm.trans named
      subst same
      refine .inr ⟨?_, List.any_eq_true.mpr ⟨prior, mem, here⟩⟩
      rw [if_pos here]
      rfl
    · refine .inl ⟨?_, ?_⟩
      · rw [if_neg here]
      · by_cases same : target = id
        · subst same
          have none : ¬ db.code.sessions.any (CodeSession.matchesRevision target base) = true := by
            intro any
            obtain ⟨row, there, matched⟩ :=
              (keyed.any_iff (fun _ matched => (CodeSession.matchesRevision_iff.mp matched).1)).mp any
            cases (found.symm.trans there)
            exact here matched
          unfold listedIn lists
          rw [if_neg (show ¬ matched db (.swapRefs target base refs updatedAt) = true from none)]
        · simp [listedIn, Command.refs, same]

theorem sessionOf_exec {session : SessionRow} (found : sessionOf id db = some session)
    : ∃ later, sessionOf id (exec cmd db).2 = some later := by
  have ids : (exec cmd db).2.code.sessions.map SessionRow.codeSessionId
      = db.code.sessions.map SessionRow.codeSessionId := by
    cases cmd with
    | session cmd =>
      cases cmd with
      | swapSession target base change =>
        exact map_updateWhere (fun row _ => CodeSession.apply_codeSessionId change row)
      | _ => rfl
    | insertReceipt row => rfl
    | recordRefs id refs now => exact map_updateWhere (fun _ _ => rfl)
    | swapRefs id base refs now => exact map_updateWhere (fun _ _ => rfl)
  obtain ⟨mem, named⟩ := mem_of_find found
  have key : id ∈ (exec cmd db).2.code.sessions.map SessionRow.codeSessionId := by
    rw [ids]
    exact List.mem_map.mpr ⟨session, mem, named⟩
  obtain ⟨later, present, here⟩ := List.mem_map.mp key
  refine isSome_iff_exists.mp ?_
  unfold sessionOf CodeSession.sessionOf CodeSession.findSession
  rw [find?_isSome]
  exact ⟨later, present, beq_iff_eq.mpr here⟩

theorem ReceiptLives.keyed (keyed : Keyed SessionRow.codeSessionId start.code.sessions)
    (lives : ReceiptLives start h)
    : Keyed SessionRow.codeSessionId (code h.state).sessions :=
  invariant (J := fun g => Keyed SessionRow.codeSessionId (code g.state).sessions) lives
    keyed (fun _ _ keyed => keyed_exec _ keyed)

theorem sessionOf_later (lives : ReceiptLives start h)
    (after : (receiptAgreement start).After h h') {session : SessionRow}
    (found : sessionOf id h.state = some session)
    : ∃ later, sessionOf id h'.state = some later := by
  refine state_grow (R := fun db => ∃ later, sessionOf id db = some later)
    lives after.inv after.le ⟨session, found⟩ (fun db cmd present => ?_)
  obtain ⟨later, there⟩ := present
  exact sessionOf_exec there

theorem manifests_exec (cmd : Command) (db : Database)
    : (exec cmd db).2.manifests = db.manifests ∧ (exec cmd db).2.attachments = db.attachments := by
  cases cmd <;> exact ⟨rfl, rfl⟩

theorem ReceiptLives.manifests (lives : ReceiptLives start h)
    : Database.manifests h.state = start.manifests
      ∧ attachments h.state = start.attachments := by
  refine invariant
    (J := fun g => Database.manifests g.state = start.manifests
      ∧ attachments g.state = start.attachments) lives ⟨rfl, rfl⟩ ?_
  intro g t cmd _ _ same
  obtain ⟨manifests, attachments⟩ := manifests_exec cmd g.state
  exact ⟨manifests.trans same.1, attachments.trans same.2⟩

theorem manifestOf_lives (lives : ReceiptLives start h) (id : Text)
    : manifestOf id h.state = manifestOf id start := by
  unfold manifestOf
  rw [lives.manifests.1]

/-- An insertion that succeeds adds its row, which is found from then on. -/
theorem insertReceipt_eq_true {receipts : List ReceiptRow} {row : ReceiptRow}
    (inserted : (insertReceipt receipts row).1 = true)
    : (insertReceipt receipts row).2 = receipts ++ [row]
      ∧ (∀ old ∈ receipts, old.receiptId ≠ row.receiptId)
      ∧ findReceipt (receipts ++ [row]) row.receiptId = some row := by
  unfold insertReceipt at inserted ⊢
  cases found : receipts.find? (·.receiptId == row.receiptId) with
  | some old =>
    rw [found] at inserted
    cases inserted
  | none =>
    refine ⟨rfl, find_eq_none.mp found, ?_⟩
    unfold findReceipt
    rw [find?_append, found, none_or]
    simp

theorem findReceipt_later {row : ReceiptRow} (lives : ReceiptLives start h)
    (after : (receiptAgreement start).After h h')
    (found : findReceipt (receipts h.state) id = some row)
    : findReceipt (receipts h'.state) id = some row := by
  refine state_grow (R := fun db => findReceipt (receipts db) id = some row)
    lives after.inv after.le found (fun db cmd present => ?_)
  cases cmd with
  | insertReceipt added =>
    change findReceipt (insertReceipt (receipts db) added).2 id = some row
    unfold insertReceipt
    cases (receipts db).find? (·.receiptId == added.receiptId) with
    | some old => exact present
    | none => exact find_append_of_some present
  | _ => exact present

def TidySessions (db : Database) : Prop :=
  ∀ id session, sessionOf id db = some session
    → ∀ item ∈ session.latestExecutionReceiptRefs, TidyRef item

theorem tidySessions_run (keyed : Keyed SessionRow.codeSessionId start.code.sessions)
    (tidy : TidySessions start) (lives : ReceiptLives start h)
    : TidySessions h.state := by
  refine invariant (J := fun g => TidySessions g.state) lives tidy ?_
  rintro g t cmd lives ⟨call, due⟩ tidy id later now
  obtain ⟨prior, found, same | ⟨put, _⟩⟩ := refs_step (t := t) (ReceiptLives.keyed keyed lives) now
  · rw [same.1]
    exact tidy id prior found
  · cases cmd with
    | recordRefs target refs updatedAt =>
      obtain ⟨-, rfl⟩ := Prod.mk.inj (some.inj put)
      exact due.tidy
    | swapRefs target base refs updatedAt =>
      obtain ⟨-, rfl⟩ := Prod.mk.inj (some.inj put)
      exact due.tidy
    | _ => cases put

-- What a thread has done

structure Idle (issued : Issued store) : Prop where
  inserted : insertedReceipt issued = none
  lists : lists issued = false

def ReceiptAnswer.receiptIn (id : Text) : ReceiptAnswer → Option Text
  | .recorded (some row) _ _ => if row.codeSessionId = id then some row.receiptId else none
  | _ => none

def Answer.receiptIn (id : Text) : Answer → Option Text
  | .receipt answer => answer.receiptIn id
  | .session _ => none

def wellBased (baseRevision : Value) : Bool :=
  !isGiven baseRevision || (revisionOf baseRevision).isSome

structure Denied (call : ReceiptCall) (answer : Except Text Answer) : Prop where
  asked
    : ∃ args refusal, call = .receipt args ∧ answer = .ok (.receipt (.refused refusal))
        ∧ wellBased args.baseRevision = true ∧ persistedNote ∉ refusal.details

structure HasEnded (t : Nat) (call : ReceiptCall) (_ : Database) (answer : Except Text Answer)
    (h : History store)
    : Prop where
  listed
    : ∀ id, (h.own t).filterMap (listedIn id) = (answer.toOption.bind (Answer.receiptIn id)).toList
  denied : Denied call answer → ∀ issued ∈ h.own t, insertedReceipt issued = none

/-- The thread has neither inserted a receipt nor updated a list. -/
abbrev Unbegun (t : Nat) (h : History store) : Prop :=
  ∀ issued ∈ h.own t, Idle issued

section

variable {log : List (Issued store)} {issued : Issued store}

theorem listedIn_of_idle (idle : Idle issued) (id : Text) : listedIn id issued = none := by
  unfold listedIn
  rw [idle.lists]
  rfl

theorem listed_of_idle (idle : ∀ issued ∈ log, Idle issued) (id : Text)
    : log.filterMap (listedIn id) = [] :=
  filterMap_eq_nil_iff.mpr (fun issued mem => listedIn_of_idle (idle issued mem) id)

theorem unsettled_of_idle (idle : ∀ issued ∈ log, Idle issued) : receiptWork.unsettled log = [] := by
  induction log with
  | nil => rfl
  | cons issued prior ih =>
    have first := idle issued (.head _)
    rw [unsettled_cons, after_of_neither first.lists first.inserted]
    exact ih (fun issued mem => idle issued (.tail _ mem))

end

variable {origin : Database}

theorem Unbegun.exec {cmd : Command} (unbegun : Unbegun t h)
    (idle : Idle (⟨t, cmd, h.state⟩ : Issued store))
    : Unbegun t (h.exec t cmd) := by
  intro issued mem
  rw [own_exec_self] at mem
  rcases mem_cons.mp mem with rfl | old
  · exact idle
  · exact unbegun issued old

theorem Unbegun.after (unbegun : Unbegun t h) (moved : (receiptAgreement start).Interference t h h')
    : Unbegun t h' := by
  intro issued mem
  rw [moved.own] at mem
  exact unbegun issued mem

variable {answer : Except Text Answer}

theorem HasEnded.later (ended : HasEnded t call origin answer h)
    (moved : (receiptAgreement start).Interference t h h')
    : HasEnded t call origin answer h' :=
  ⟨fun id => moved.own ▸ ended.listed id, moved.own ▸ ended.denied⟩

/-- A refusal of a call that has neither inserted nor listed a receipt. -/
theorem meets_refused {why : Refusal} (unbegun : Unbegun t h)
    : (receiptAgreement start).Meets t call (.done (.refused why))
        (fun answer => HasEnded t call origin (answer.map .receipt)) h :=
  Meets.done (fun _ moved =>
    ⟨fun id => listed_of_idle (unbegun.after moved) id,
      fun _ issued mem => (unbegun.after moved issued mem).inserted⟩)

structure Begun (t : Nat) (row : ReceiptRow) (h : History store) : Prop where
  issued
    : ∃ issued earlier, h.own t = issued :: earlier ∧ insertedReceipt issued = some row
        ∧ ∀ old ∈ earlier, Idle old

section

variable {row : ReceiptRow}

theorem Begun.after (begun : Begun t row h) (moved : (receiptAgreement start).Interference t h h')
    : Begun t row h' := by
  obtain ⟨issued, prior, own, rest⟩ := begun.issued
  exact ⟨issued, prior, moved.own.trans own, rest⟩

theorem lists_of_inserted {issued : Issued store} (inserted : insertedReceipt issued = some row)
    : lists issued = false := by
  refine eq_false_of_ne_true (fun listed => ?_)
  cases (insertedReceipt_of_lists issued listed).symm.trans inserted

theorem Begun.unsettled (begun : Begun t row h) : receiptWork.unsettled (h.own t) = [(t, row)] := by
  obtain ⟨issued, prior, own, inserted, idle⟩ := begun.issued
  have mine : issued.thread = t := (mem_own.mp (own ▸ mem_cons_self)).2
  rw [own, unsettled_cons, after_of_begun (lists_of_inserted inserted) inserted,
    unsettled_of_idle idle, mine]

theorem Begun.listed (begun : Begun t row h) (id : Text) : (h.own t).filterMap (listedIn id) = [] := by
  obtain ⟨issued, prior, own, inserted, idle⟩ := begun.issued
  have none : listedIn id issued = none := by
    unfold listedIn
    rw [lists_of_inserted inserted]
    rfl
  rw [own, filterMap_cons_none none]
  exact listed_of_idle idle id

/-- An insertion makes the receipt that of its thread. -/
theorem Begun.of_inserted (unbegun : Unbegun t h)
    (inserted : (insertReceipt (receipts h.state) row).1 = true)
    : Begun t row (h.exec t (.insertReceipt row)) :=
  ⟨⟨t, .insertReceipt row, h.state⟩, h.own t, own_exec_self h t _, if_pos inserted, unbegun⟩

theorem Begun.refused {args : ReceiptArguments} {why : Refusal} (begun : Begun t row h)
    (excused : persistedNote ∈ why.details ∨ wellBased args.baseRevision = false)
    : HasEnded t (.receipt args) origin (.ok (.receipt (.refused why))) h where
  listed := begun.listed
  denied := by
    rintro ⟨arguments', refusal', same, answered, based, unsaid⟩
    cases same
    cases answered
    rcases excused with noted | unbased
    · exact absurd noted unsaid
    · exact absurd based (ne_true_of_eq_false unbased)

theorem Begun.recorded {cmd : Command} {refs answerRefs : List Value} {revision : Nat}
    (begun : Begun t row h) (writes : cmd.refs = some (row.codeSessionId, refs))
    (head : refs.head?.map refText = some row.receiptId) (found : matched h.state cmd = true)
    (call : ReceiptCall)
    : HasEnded t call origin (.ok (.receipt (.recorded (some row) revision answerRefs)))
        (h.exec t cmd) where
  listed := by
    intro id
    have now : listedIn id (⟨t, cmd, h.state⟩ : Issued store)
        = if row.codeSessionId = id then some row.receiptId else none := by
      unfold listedIn lists
      rw [if_pos found, writes, bind_some, head]
    have said : (Except.ok (.receipt (.recorded (some row) revision answerRefs)) :
        Except Text Answer).toOption.bind (Answer.receiptIn id)
        = if row.codeSessionId = id then some row.receiptId else none := rfl
    rw [own_exec_self, said]
    by_cases same : row.codeSessionId = id
    · rw [if_pos same] at now ⊢
      rw [filterMap_cons_some now, begun.listed]
      rfl
    · rw [if_neg same] at now ⊢
      rw [filterMap_cons_none now, begun.listed]
      rfl
  denied := by
    rintro ⟨args, why, -, answered, -⟩
    cases answered

/-- A guarded update that misses its revision, with the note. -/
theorem Begun.missed {cmd : Command} {why : Refusal} (begun : Begun t row h)
    (missed : matched h.state cmd = false) (noted : persistedNote ∈ why.details)
    (call : ReceiptCall)
    : HasEnded t call origin (.ok (.receipt (.refused why))) (h.exec t cmd) where
  listed := by
    intro id
    have now : listedIn id (⟨t, cmd, h.state⟩ : Issued store) = none := by
      unfold listedIn lists
      rw [missed]
      rfl
    rw [own_exec_self, filterMap_cons_none now, begun.listed]
    rfl
  denied := by
    rintro ⟨args, refusal', -, answered, -, unsaid⟩
    cases answered
    exact absurd noted unsaid

end

-- Recording a receipt

structure Records (start : Database) (row : ReceiptRow) (session : SessionRow) (h : History store)
    : Prop where
  present : ∃ current, sessionOf row.codeSessionId h.state = some current
  uses : UsesClass start row
  id : TidyText row.receiptId
  refs : ∀ item ∈ session.latestExecutionReceiptRefs, TidyRef item

section

variable {row : ReceiptRow} {session : SessionRow} {refs : List Value}

/-- The list that a call writes starts with its receipt, and it is normalized without a refusal. -/
theorem refsWith_tidy (id : TidyText row.receiptId)
    (tidy : ∀ item ∈ session.latestExecutionReceiptRefs, TidyRef item)
    : ∃ refs, refsWith row session = .ok refs ∧ (∀ item ∈ refs, TidyRef item)
        ∧ refs.head?.map refText = some row.receiptId := by
  obtain ⟨first, named⟩ := tidyRef_literal id
    [(text "kind", .string row.commandClass.text), (text "status", .string row.status.text)]
  have all : ∀ item ∈ (nextRef row :: session.latestExecutionReceiptRefs).take MAX_RECEIPT_REFS,
      TidyRef item := by
    intro item mem
    rcases mem_cons.mp (mem_of_mem_take mem) with rfl | old
    · exact first
    · exact tidy item old
  obtain ⟨refs, read, tidied, same⟩ := normalizeReceiptRefs_tidy all (length_take_le _ _)
  refine ⟨refs, read, tidied, ?_⟩
  have head : (refTexts refs).head? = some row.receiptId := by
    rw [same]
    exact congrArg some named
  rw [← head?_map]
  exact head

theorem meets_finishReceipt (lives : ReceiptLives start h)
    (there : findReceipt (receipts h.state) row.receiptId = some row)
    (ended
      : ∀ revision answerRefs,
        HasEnded t call origin (.ok (.receipt (.recorded (some row) revision answerRefs))) h)
    : (receiptAgreement start).Meets t call (finishReceipt row session refs)
        (fun answer => HasEnded t call origin (answer.map .receipt)) h := by
  refine select_bind (M := store) (fun h1 moved1 => ?_)
  rw [findReceipt_later lives moved1.toAfter there]
  refine select_bind (M := store) (fun h2 moved2 => ?_)
  exact .done (fun h3 moved3 =>
    (ended _ _).later ((moved1.trans moved2).trans moved3))

theorem meets_updateRefs {args : ReceiptArguments} (lives : ReceiptLives start h)
    (begun : Begun t row h) (present : ∃ current, sessionOf row.codeSessionId h.state = some current)
    (there : findReceipt (receipts h.state) row.receiptId = some row)
    (tidy : ∀ item ∈ refs, TidyRef item) (head : refs.head?.map refText = some row.receiptId)
    : (receiptAgreement start).Meets t (.receipt args)
        (updateRefs args.baseRevision row session refs)
        (fun answer => HasEnded t (.receipt args) origin (answer.map .receipt)) h := by
  have writes (g : History store) (begun : Begun t row g) : Writes t row.codeSessionId refs g :=
    ⟨⟨row, begun.unsettled, rfl, head⟩, tidy⟩
  unfold updateRefs
  cases given : isGiven args.baseRevision with
  | false =>
    rw [Bool.not_false, if_pos rfl]
    refine perform_bind (fun h1 moved => ?_)
    have begun1 := begun.after moved
    have promise
        : (receiptAgreement start).pre t (.receipt args)
            (.recordRefs row.codeSessionId refs row.createdAt) h1 :=
      writes h1 begun1
    refine ⟨promise, ?_⟩
    have lives1 := (receiptAgreement start).exec_inv moved.inv promise
    have still := findReceipt_later lives moved.toAfter there
    obtain ⟨current, found⟩ := present
    obtain ⟨current, found⟩ := sessionOf_later lives moved.toAfter found
    obtain ⟨mem, named⟩ := mem_of_find found
    have here : matched h1.state (.recordRefs row.codeSessionId refs row.createdAt) = true :=
      List.any_eq_true.mpr ⟨current, mem, beq_iff_eq.mpr named⟩
    exact meets_finishReceipt lives1 still (fun _ _ => begun1.recorded rfl head here _)
  | true =>
    rw [Bool.not_true, if_neg Bool.false_ne_true]
    cases based : revisionOf args.baseRevision with
    | none =>
      refine Meets.done (fun h1 moved => (begun.after moved).refused (.inr ?_))
      unfold wellBased
      rw [given, based]
      rfl
    | some base =>
      simp only
      by_cases same : session.sessionRevision = base
      · rw [if_neg (not_not.mpr same)]
        refine perform_bind (fun h1 moved => ?_)
        have begun1 := begun.after moved
        let cmd : Command := .swapRefs row.codeSessionId base refs row.createdAt
        have promise : (receiptAgreement start).pre t (.receipt args) cmd h1 :=
          writes h1 begun1
        refine ⟨promise, ?_⟩
        cases found : matched h1.state cmd with
        | true =>
          have reply : (exec cmd h1.state).1 = true := found
          simp only [cmd] at reply
          simp only [reply, if_true]
          have lives1 := (receiptAgreement start).exec_inv moved.inv promise
          have still := findReceipt_later lives moved.toAfter there
          exact meets_finishReceipt lives1 still (fun _ _ => begun1.recorded rfl head found _)
        | false =>
          have reply : (exec cmd h1.state).1 = false := found
          simp only [cmd] at reply
          simp only [reply]
          refine select_bind (M := store) (fun h2 moved2 => ?_)
          refine Meets.done (fun h3 moved3 => ?_)
          refine (begun1.missed found ?_ _).later (moved2.trans moved3)
          exact mem_append_right _ (.tail _ (.head _))
      · rw [if_pos same]
        refine Meets.done (fun h1 moved => (begun.after moved).refused (.inl ?_))
        exact mem_append_right _ (.tail _ (.head _))

/-- The insertion of a receipt, and what follows it. -/
theorem meets_recordReceipt {args : ReceiptArguments} (unbegun : Unbegun t h)
    (lives : ReceiptLives start h) (records : Records start row session h)
    : (receiptAgreement start).Meets t (.receipt args)
        (recordReceipt args.baseRevision row session)
        (fun answer => HasEnded t (.receipt args) origin (answer.map .receipt)) h := by
  refine perform_bind (fun h1 moved => ?_)
  have unbegun1 := unbegun.after moved
  have promise : (receiptAgreement start).pre t (.receipt args) (.insertReceipt row) h1 :=
    ⟨unsettled_of_idle unbegun1, records.uses⟩
  refine ⟨promise, ?_⟩
  cases inserted : (insertReceipt (receipts h1.state) row).1 with
  | false =>
    have idle : Idle (⟨t, .insertReceipt row, h1.state⟩ : Issued store) :=
      ⟨if_neg (ne_true_of_eq_false inserted), rfl⟩
    have reply : (exec (.insertReceipt row) h1.state).1 = false := inserted
    simp only [reply]
    exact meets_refused (unbegun1.exec idle)
  | true =>
    have reply : (exec (.insertReceipt row) h1.state).1 = true := inserted
    obtain ⟨refs, normalized, tidy, head⟩ := refsWith_tidy records.id records.refs
    simp only [reply, if_true, normalized]
    obtain ⟨added, -, found⟩ := insertReceipt_eq_true inserted
    have there : findReceipt (receipts (h1.exec t (.insertReceipt row)).state) row.receiptId
        = some row := by
      change findReceipt (insertReceipt (receipts h1.state) row).2 row.receiptId = some row
      rw [added]
      exact found
    have lives1 := (receiptAgreement start).exec_inv moved.inv promise
    obtain ⟨current, present⟩ := records.present
    obtain ⟨current, present⟩ := sessionOf_later lives moved.toAfter present
    exact meets_updateRefs lives1 (.of_inserted unbegun1 inserted) (sessionOf_exec present) there tidy
      head

end

-- Whole calls

/-- The marked names are normalized already. -/
theorem tidy_of_nonEmptyString {value : Value} (given : nonEmptyString value = some s)
    (short : s.length ≤ 256)
    : TidyText s := by
  unfold nonEmptyString at given
  cases value with
  | string put =>
    simp only [Value.string?_string] at given
    split at given
    · cases given
    · rename_i visible
      cases given
      exact ⟨trim_trim put, visible, short⟩
  | _ => cases given

theorem length_of_isName {more : Nat} (named : TaskRuns.isName more s = true)
    : s.length ≤ more + 1 := by
  cases s with
  | nil => exact Nat.zero_le _
  | cons first rest =>
    simp only [TaskRuns.isName, and_eq_true, decide_eq_true_eq] at named
    simp only [length_cons]
    omega

theorem tidy_executionReceiptId {value : Value} (read : executionReceiptId value = .ok s)
    : TidyText s := by
  unfold executionReceiptId Conversation.markedId at read
  cases given : nonEmptyString value with
  | none =>
    rw [given] at read
    cases read
  | some put =>
    simp only [given] at read
    split at read
    · rename_i marked
      cases read
      obtain ⟨-, named⟩ := and_eq_true_iff.mp marked
      have short := length_of_isName named
      have mark : (text "execrcpt:").length = 9 := by decide
      rw [length_drop, mark] at short
      exact tidy_of_nonEmptyString given (by omega)
    · cases read

theorem digestId_visible
    : (text "execrcpt:" ++ CodeSession.hexDigits).all (fun u => !isWhiteSpace u) = true := by
  decide +kernel

theorem tidy_digestId (digest : Digest) : TidyText (text "execrcpt:" ++ digest.text.take 40) := by
  have visible : ∀ u ∈ text "execrcpt:" ++ digest.text.take 40, isWhiteSpace u = false := by
    intro u mem
    have unit : u ∈ text "execrcpt:" ++ CodeSession.hexDigits := by
      rcases mem_append.mp mem with marked | digit
      · exact mem_append_left _ marked
      · have hex := List.all_eq_true.mp digest.hex u (mem_of_mem_take digit)
        exact mem_append_right _ (CodeSession.mem_hexDigits hex)
    have seen := List.all_eq_true.mp digestId_visible u unit
    exact not_eq_true' _ ▸ seen
  have mark : (text "execrcpt:").length = 9 := by decide
  have length := length_take_le 40 digest.text
  refine ⟨trim_of_visible visible, ?_, ?_⟩
  · refine ne_nil_of_length_pos ?_
    rw [length_append, mark]
    omega
  · rw [length_append, mark]
    omega

section

variable {sha256Text : Text → Digest} {args : ReceiptArguments} {target : ReceiptTarget}
  {session : SessionRow} {environment : Environment} {row : ReceiptRow}
  {manifestId : Option Text} {Q : Except Text ReceiptAnswer → History store → Prop}

theorem tidy_receiptIdOf {given : Value} {digest : Digest} {id : Text}
    (read : receiptIdOf given digest.text = .ok id)
    : TidyText id := by
  unfold receiptIdOf at read
  split at read
  · exact tidy_executionReceiptId (ok_of_refuseThrown read)
  · cases read
    exact tidy_digestId digest

structure Built (target : ReceiptTarget) (environment : Environment) (row : ReceiptRow) : Prop where
  allowed
    : commandClassAllowedForExecutionClass environment.executionClass row.commandClass = true
  manifest : row.environmentManifestId = environment.manifestId
  session : row.codeSessionId = target.sessionId
  id : TidyText row.receiptId

theorem built_of_buildReceipt
    (read : buildReceipt sha256Text args target session environment = .ok row)
    : Built target environment row := by
  unfold buildReceipt at read
  split at read
  · cases read
  · rename_i allowed
    obtain ⟨artifactRefs, -, read⟩ := bind_eq_ok.mp read
    obtain ⟨exitCode, -, read⟩ := bind_eq_ok.mp read
    obtain ⟨durationMs, -, read⟩ := bind_eq_ok.mp read
    unfold identifyReceipt at read
    obtain ⟨_, -, read⟩ := bind_eq_ok.mp read
    obtain ⟨id, named, read⟩ := bind_eq_ok.mp read
    cases read
    exact ⟨by simpa using allowed, rfl, rfl, tidy_receiptIdOf named⟩

def ClassFound (start : Database) (manifestId : Option Text) (executionClass : ExecutionClass) : Prop :=
  executionClass = .none
    ∨ ∃ id manifest, manifestId = some id ∧ manifestOf id start = some manifest
      ∧ manifest.sandboxExecutionClass = executionClass

theorem usesClass_of_built (built : Built target environment row)
    (found : ClassFound start manifestId environment.executionClass)
    (kept : ∀ id, manifestId = some id → environment.manifestId = some id)
    : UsesClass start row := by
  rcases found with none | ⟨id, manifest, given, there, same⟩
  · have allowed := built.allowed
    rw [none] at allowed
    cases allowed
  · refine ⟨id, manifest, built.manifest.trans (kept id given), there, ?_⟩
    rw [same]
    exact built.allowed

theorem meets_executionClassOf_bind
    {g : Except Refusal ExecutionClass → Operation ReceiptAnswer}
    (rest
      : ∀ found h', (receiptAgreement start).Interference t h h'
        → (∀ executionClass, found = .ok executionClass → ClassFound start manifestId executionClass)
        → (receiptAgreement start).Meets t call (g found) Q h')
    : (receiptAgreement start).Meets t call ((executionClassOf session manifestId).bind g) Q h := by
  refine bind ?_
  cases manifestId with
  | none =>
    refine Meets.done (fun h1 moved => rest _ h1 moved ?_)
    intro executionClass same
    cases same
    exact .inl rfl
  | some id =>
    refine select_bind (M := store) (fun h1 moved => ?_)
    have there := manifestOf_lives moved.inv id
    cases found : manifestOf id h1.state with
    | none =>
      refine Meets.done (fun h2 moved2 => rest _ h2 (moved.trans moved2) ?_)
      intro executionClass same
      cases same
    | some manifest =>
      simp only
      split
      · refine Meets.done (fun h2 moved2 => rest _ h2 (moved.trans moved2) ?_)
        intro executionClass same
        cases same
      · refine Meets.done (fun h2 moved2 => rest _ h2 (moved.trans moved2) ?_)
        intro executionClass same
        cases same
        exact .inr ⟨id, manifest, rfl, there.symm.trans found, rfl⟩

theorem meets_environmentOf_bind {sessionId : Text} {attachmentId : Option Text}
    {executionClass : ExecutionClass}
    {g : Except Refusal Environment → Operation ReceiptAnswer}
    (rest
      : ∀ found h', (receiptAgreement start).Interference t h h'
        → (∀ environment, found = .ok environment → environment.executionClass = executionClass
            ∧ ∀ id, manifestId = some id → environment.manifestId = some id)
        → (receiptAgreement start).Meets t call (g found) Q h')
    : (receiptAgreement start).Meets t call
        ((environmentOf sessionId manifestId attachmentId executionClass).bind g) Q h := by
  refine bind ?_
  cases attachmentId with
  | none =>
    refine Meets.done (fun h1 moved => rest _ h1 moved ?_)
    intro environment same
    cases same
    exact ⟨rfl, fun _ given => given⟩
  | some id =>
    refine select_bind (M := store) (fun h1 moved => ?_)
    cases findAttachment (attachments h1.state) id with
    | none =>
      refine Meets.done (fun h2 moved2 => rest _ h2 (moved.trans moved2) ?_)
      intro environment same
      cases same
    | some attachment =>
      simp only
      split
      · refine Meets.done (fun h2 moved2 => rest _ h2 (moved.trans moved2) ?_)
        intro environment same
        cases same
      · refine Meets.done (fun h2 moved2 => rest _ h2 (moved.trans moved2) ?_)
        intro environment same
        cases same
        refine ⟨rfl, fun id given => ?_⟩
        rw [given]
        rfl

/-- A call that has found its session. -/
theorem meets_receiptFrom {attachmentId : Option Text} (lives : ReceiptLives start h)
    (unbegun : Unbegun t h)
    (present : ∃ current, sessionOf target.sessionId h.state = some current)
    (tidy : ∀ item ∈ session.latestExecutionReceiptRefs, TidyRef item)
    : (receiptAgreement start).Meets t (.receipt args)
        (receiptFrom sha256Text args target session manifestId attachmentId)
        (fun answer => HasEnded t (.receipt args) origin (answer.map .receipt)) h := by
  refine meets_executionClassOf_bind (fun found h1 moved1 classes => ?_)
  cases found with
  | error why => exact meets_refused (unbegun.after moved1)
  | ok executionClass =>
    refine meets_environmentOf_bind (fun found h2 moved2 kept => ?_)
    have moved := moved1.trans moved2
    cases found with
    | error why => exact meets_refused (unbegun.after moved)
    | ok environment =>
      obtain ⟨rfl, keeps⟩ := kept environment rfl
      simp only
      cases read : buildReceipt sha256Text args target session environment with
      | error why => exact meets_refused (unbegun.after moved)
      | ok row =>
        have built := built_of_buildReceipt read
        obtain ⟨current, present⟩ := present
        obtain ⟨current, present⟩ := sessionOf_later lives moved.toAfter present
        exact meets_recordReceipt (unbegun.after moved) moved.inv
          { present := ⟨current, built.session ▸ present⟩
            uses := usesClass_of_built built (classes _ rfl) keeps
            id := built.id
            refs := tidy }

theorem meets_createExecutionReceipt (keyed : Keyed SessionRow.codeSessionId start.code.sessions)
    (tidy : TidySessions start) (unbegun : Unbegun t h)
    : (receiptAgreement start).Meets t (.receipt args)
        (createExecutionReceipt sha256Text args)
        (fun answer => HasEnded t (.receipt args) origin (answer.map .receipt)) h := by
  unfold createExecutionReceipt
  cases readReceipt args with
  | error why => exact meets_refused unbegun
  | ok target =>
    refine select_bind (M := store) (fun h1 moved => ?_)
    have unbegun1 := unbegun.after moved
    cases found : sessionOf target.sessionId h1.state with
    | none => exact meets_refused unbegun1
    | some session =>
      simp only
      cases readManifestId args session with
      | error why => exact meets_refused unbegun1
      | ok manifestId =>
        cases readAttachmentId args with
        | error why => exact meets_refused unbegun1
        | ok attachmentId =>
          exact meets_receiptFrom moved.inv unbegun1 ⟨session, found⟩
            (tidySessions_run keyed tidy moved.inv _ session found)

end

theorem hasEnded_session {call : SessionCall}
    (session : ∀ issued ∈ h.own t, ∃ cmd, issued.command = .session cmd)
    (silent : ∀ id, answer.toOption.bind (Answer.receiptIn id) = none)
    : HasEnded t (.session call) origin answer h where
  listed := by
    intro id
    rw [silent id]
    refine filterMap_eq_nil_iff.mpr (fun issued mem => ?_)
    obtain ⟨cmd, same⟩ := session issued mem
    unfold listedIn lists
    rw [same]
    rfl
  denied := by
    rintro ⟨args, why, never, -⟩
    cases never

/-- Every call keeps its promises, and its answer tells what it has done. -/
theorem meets_receiptBody (sha256Text : Text → Digest) (localeLe : Text → Text → Bool)
    (toISOString : Nat → Text) (keyed : Keyed SessionRow.codeSessionId start.code.sessions)
    (tidy : TidySessions start) (call : ReceiptCall) (fresh : h.own t = [])
    : (receiptAgreement start).Meets t call (call.body sha256Text localeLe toISOString)
        (HasEnded t call origin) h := by
  cases call with
  | receipt args =>
    have unbegun : Unbegun t h := by
      intro issued mem
      rw [fresh] at mem
      cases mem
    exact Meets.map (meets_createExecutionReceipt keyed tidy unbegun)
  | session call =>
    have issues := Program.issues_embed sessionPart id (call.body sha256Text localeLe toISOString)
    have meets
        : (receiptAgreement start).Meets t (.session call)
            ((call.body sha256Text localeLe toISOString).embed sessionPart id)
            (fun _ _ => True) h :=
      of_issues issues
        (fun cmd g own => by
          obtain ⟨own, rfl⟩ := own
          exact trivial)
        (fun _ _ _ => trivial)
    refine Meets.map ((meets.issuing issues).consequence (fun answer h1 _ done => ?_))
    refine hasEnded_session (fun issued mem => ?_) (fun id => ?_)
    · rcases done.2 issued mem with old | own
      · rw [fresh] at old
        cases old
      · exact own
    · cases answer <;> rfl

end CairnStone.Sandbox
