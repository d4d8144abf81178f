import CairnStone.CoreAuth.ClientRegistration
import CairnStone.Data.Lookup

/-! How far the limits on registrations hold. A registration that writes its bucket, or inserts its client,
after another one has done so since it read may exceed them; where none does, no window admits more than
its maximum and the active clients stay within their cap.
-/

namespace CairnStone.CoreAuth

open JavaScript Data Concurrency Protocol List History Meets DcrDatabase

variable {clientIp : Text} {windowStart : Int}

def readsBucket (bucketKey : Text) (cmd : DcrCommand) : Bool :=
  cmd == .readBucket bucketKey

def recordsBucket (bucketKey : Text) : DcrCommand → Bool
  | .recordBucket recorded _ _ => recorded == bucketKey
  | _ => false

def countsClients (cmd : DcrCommand) : Bool :=
  cmd == .countClients

def insertsClient : DcrCommand → Bool
  | .insertClient _ => true
  | _ => false

/-- No other registration has written what this one is about to write since this one read it. -/
def LimitUnraced (t : Nat) (cmd : DcrCommand) (h : History dcrStore) : Prop :=
  match cmd with
  | .recordBucket bucketKey _ _ =>
    History.Unraced (M := dcrStore) (readsBucket bucketKey) (recordsBucket bucketKey) t h
  | .insertClient _ => History.Unraced (M := dcrStore) countsClients insertsClient t h
  | _ => True

instance decidableLimitUnraced (t : Nat) (cmd : DcrCommand) (h : History dcrStore)
    : Decidable (LimitUnraced t cmd h) := by
  unfold LimitUnraced
  split <;> infer_instance

instance decidableRespectsLimits (h : History dcrStore) : Decidable (h.Respects LimitUnraced) :=
  @History.decidableRespects dcrStore LimitUnraced decidableLimitUnraced h

/-- The statement counts a registration from the address in the window. -/
def admits (clientIp : Text) (windowStart : Int) (issued : Issued dcrStore) : Bool :=
  match issued.command with
  | .recordBucket bucketKey start _ => bucketKey == dcrBucketKey clientIp && start == windowStart
  | _ => false

/-- The thread has been counted as a registration from the address. -/
def AdmittedFrom (clientIp : Text) (t : Nat) (h : History dcrStore) : Prop :=
  ∃ issued ∈ h.own t, ∃ windowStart, admits clientIp windowStart issued = true

/-- A window admits at most the maximum of its address, whoever inserts a client has been admitted, and the
active clients are within their cap.
-/
structure RegistrationsBounded (settings : DcrSettings)
    (config : Config dcrStore RegisterRequest DcrFailure Registered)
    : Prop where
  rate
    : ∀ clientIp windowStart,
        config.history.log.countP (admits clientIp windowStart) ≤ dcrRateLimitMax settings clientIp
  admitted
    : ∀ thread request, config.call thread = some request
        → (∃ issued ∈ config.history.own thread, insertsClient issued.command = true)
        → AdmittedFrom (resolveDcrClientIp request.ctx) thread config.history
  cap : config.state.activeClients ≤ settings.maxActiveClients

namespace Sample

/-- A deployment that admits one registration an hour and one active client. -/
def strictDcr : DcrSettings where
  enabled := true
  initialAccessToken := none
  rateLimitMax := 1
  rateLimitMaxUnknown := 1
  rateLimitWindowSeconds := 3600
  maxActiveClients := 1
  sha256Text := id
  toLowerCase := id
  parseUrl := fun uri =>
    some
      { protocol := text "https:", username := [], password := [], hostname := text "c", hash := []
        href := uri }

def registration (n : Fin 256) : RegisterRequest where
  body :=
    .object .objectPrototype
      [(text "redirect_uris", .array [some (.string (text "https://c/cb"))])]
  ctx :=
    { cfConnectingIp := some (text "1.2.3.4"), xForwardedFor := none, authorizationHeader := none
      clientIp := none, authorization := none }
  bytes := [n]
  now := 0
  registeredAt := 0

def noClients : DcrDatabase where
  buckets := []
  clients := []

def dcrSteps (n thread : Nat) : List (Action dcrStore RegisterRequest) :=
  List.replicate n (.step thread)

/-- One registration after another. -/
def registeredInTurn : List (Action dcrStore RegisterRequest) :=
  .spawn (registration 0) :: dcrSteps 10 0 ++ .spawn (registration 1) :: dcrSteps 10 1

/-- Two registrations, both of which read the bucket before either records it, and count the clients before
either inserts one.
-/
def registeredAtOnce : List (Action dcrStore RegisterRequest) :=
  [.spawn (registration 0), .spawn (registration 1), .step 0, .step 1, .step 0, .step 1, .step 0,
    .step 1, .step 0, .step 1]

end Sample

open Sample

section

variable {db : DcrDatabase} {cmd : DcrCommand} {bucketKey : Text}

theorem bucket_recordBucket (db : DcrDatabase) (saved bucketKey : Text) (windowStart : Int) (count : Nat)
    : (DcrDatabase.exec (.recordBucket saved windowStart count) db).2.bucket bucketKey
      = if saved = bucketKey then some { bucketKey, windowStart, count }
        else db.bucket bucketKey := by
  change (db.recordBucket saved windowStart count).find? (·.bucketKey == bucketKey) = _
  unfold recordBucket
  cases found : db.bucket saved with
  | none =>
    rw [find?_append, find?_cons]
    by_cases same : saved = bucketKey
    · subst same
      have missing : db.buckets.find? (·.bucketKey == saved) = none := found
      rw [missing]
      simp
    · rw [if_neg same]
      have other : (saved == bucketKey) = false := beq_eq_false_iff_ne.mpr same
      simp [other, bucket]
  | some row =>
    have known : row.bucketKey = saved := (mem_of_find found).2
    have kept (old : RateBucketRow)
        : ({ old with windowStart, count } : RateBucketRow).bucketKey = old.bucketKey := rfl
    by_cases same : saved = bucketKey
    · subst same
      have there : db.buckets.find? (·.bucketKey == saved) = some row := found
      simp only []
      rw [find_updateWhere kept, there]
      simp [known]
    · rw [if_neg same]
      refine find_updateWhere_of_ne kept (fun old _ hit same' => ?_)
      exact same ((beq_iff_eq.mp hit).symm.trans same')

theorem bucket_exec_of_not_records (other : recordsBucket bucketKey cmd = false)
    : (DcrDatabase.exec cmd db).2.bucket bucketKey = db.bucket bucketKey := by
  cases cmd with
  | readBucket read => rfl
  | recordBucket saved windowStart count =>
    rw [bucket_recordBucket, if_neg]
    exact beq_eq_false_iff_ne.mp other
  | countClients => rfl
  | insertClient row =>
    simp only [DcrDatabase.exec]
    split <;> rfl

theorem activeClients_exec_of_not_inserts (other : insertsClient cmd = false)
    : (DcrDatabase.exec cmd db).2.activeClients = db.activeClients := by
  cases cmd with
  | insertClient row => cases other
  | _ => rfl

theorem activeClients_insertClient (db : DcrDatabase) (row : OauthClientRow)
    : (DcrDatabase.exec (.insertClient row) db).2.activeClients ≤ db.activeClients + 1 := by
  simp only [DcrDatabase.exec]
  split
  · exact Nat.le_succ _
  · change (db.clients ++ [row]).countP (·.active) ≤ db.activeClients + 1
    rw [countP_append, countP_singleton]
    unfold activeClients
    split <;> omega

theorem not_records_of_reads (reading : readsBucket bucketKey cmd = true)
    : recordsBucket bucketKey cmd = false := by
  obtain rfl : cmd = .readBucket bucketKey := eq_of_beq reading
  rfl

theorem not_inserts_of_counts (counting : countsClients cmd = true)
    : insertsClient cmd = false := by
  obtain rfl : cmd = .countClients := eq_of_beq counting
  rfl

end

/-- A registration writes what follows from what it has read, within the limits, and inserts a client only
after it has been counted.
-/
def DcrPromise (settings : DcrSettings) (t : Nat) (request : RegisterRequest) (cmd : DcrCommand)
    (h : History dcrStore)
    : Prop :=
  let clientIp := resolveDcrClientIp request.ctx
  match cmd with
  | .recordBucket bucketKey windowStart count =>
    bucketKey = dcrBucketKey clientIp
    ∧ ∃ found,
        History.LastRead (M := dcrStore) (readsBucket bucketKey) (·.bucket bucketKey) t found h
        ∧ windowStart = (currentWindow settings found request.now).1
        ∧ count = (currentWindow settings found request.now).2 + 1
        ∧ count ≤ dcrRateLimitMax settings clientIp
  | .insertClient _ =>
    (∃ active,
      History.LastRead (M := dcrStore) countsClients DcrDatabase.activeClients t active h
      ∧ active < settings.maxActiveClients)
    ∧ AdmittedFrom clientIp t h
  | _ => True

/-- The agreement between registrations. -/
abbrev dcrProtocol (settings : DcrSettings) (start : DcrDatabase)
    : Protocol dcrStore RegisterRequest :=
  Protocol.pledging (M := dcrStore) start (DcrPromise settings)

variable {settings : DcrSettings} {start : DcrDatabase} {t : Nat} {request : RegisterRequest}
  {h h' : History dcrStore} {α : Type}

theorem AdmittedFrom.later (admitted : AdmittedFrom clientIp t h) (le : h.log <:+ h'.log)
    : AdmittedFrom clientIp t h' := by
  obtain ⟨issued, mem, admits⟩ := admitted
  exact ⟨issued, (own_suffix le t).subset mem, admits⟩

theorem admits_iff {issued : Issued dcrStore}
    : admits clientIp windowStart issued = true
      ↔ ∃ count, issued.command = .recordBucket (dcrBucketKey clientIp) windowStart count := by
  unfold admits
  split
  · rename_i bucketKey saved count cmd
    rw [cmd, Bool.and_eq_true, beq_iff_eq, beq_iff_eq]
    constructor
    · rintro ⟨rfl, rfl⟩
      exact ⟨count, rfl⟩
    · rintro ⟨count, same⟩
      cases same
      exact ⟨rfl, rfl⟩
  · rename_i other
    refine ⟨fun never => absurd never Bool.false_ne_true, fun saved => ?_⟩
    obtain ⟨count, saved⟩ := saved
    exact absurd saved (other _ _ count)

theorem admittedFrom_exec (clientIp : Text) (windowStart : Int) (count : Nat) (t : Nat)
    (h : History dcrStore)
    : AdmittedFrom clientIp t
        (h.exec t (.recordBucket (dcrBucketKey clientIp) windowStart count)) := by
  have own
      : (h.exec t (.recordBucket (dcrBucketKey clientIp) windowStart count)).own t
        = ⟨t, .recordBucket (dcrBucketKey clientIp) windowStart count, h.state⟩ :: h.own t :=
    own_exec_self _ _ _
  exact ⟨_, own ▸ mem_cons_self, windowStart, admits_iff.mpr ⟨count, rfl⟩⟩

theorem meets_consumeDcrRateLimit
    : (dcrProtocol settings start).Meets t request
        (consumeDcrRateLimit settings (resolveDcrClientIp request.ctx) request.now)
        (fun answer h' =>
          ∀ passed, answer = .ok passed → AdmittedFrom (resolveDcrClientIp request.ctx) t h') h := by
  refine perform_bind (fun h1 _ => ⟨trivial, ?_⟩)
  have read
      : History.LastRead (M := dcrStore) (readsBucket (dcrBucketKey (resolveDcrClientIp request.ctx)))
          (·.bucket (dcrBucketKey (resolveDcrClientIp request.ctx))) t
          (h1.state.bucket (dcrBucketKey (resolveDcrClientIp request.ctx)))
          (h1.exec t (.readBucket (dcrBucketKey (resolveDcrClientIp request.ctx)))) :=
    lastRead_exec (beq_self_eq_true _)
  refine bind ?_
  unfold ensureDcr
  split
  · rename_i within
    refine Meets.done (fun h2 moved2 => ?_)
    refine perform_bind (fun h3 moved3 => ⟨⟨rfl, ?_⟩, ?_⟩)
    · have moved := moved2.trans moved3
      exact ⟨_, read.moved moved.le moved.own, rfl, rfl, within⟩
    · refine Meets.done (fun h4 moved4 _ _ => ?_)
      exact (admittedFrom_exec _ _ _ t h3).later moved4.le
  · exact .fail (fun _ _ _ denied => by cases denied)

theorem meets_enforceDcrActiveClientCap
    : (dcrProtocol settings start).Meets t request (enforceDcrActiveClientCap settings)
        (fun answer h' =>
          ∀ passed, answer = .ok passed
            → ∃ active,
                History.LastRead (M := dcrStore) countsClients activeClients t active h'
                ∧ active < settings.maxActiveClients) h := by
  refine perform_bind (fun h1 _ => ⟨trivial, ?_⟩)
  have read
      : History.LastRead (M := dcrStore) countsClients activeClients t
          (activeClients h1.state) (h1.exec t .countClients) :=
    lastRead_exec rfl
  unfold ensureDcr
  split
  · rename_i within
    refine Meets.done (fun h2 moved2 _ _ => ?_)
    exact ⟨_, read.moved moved2.le moved2.own, within⟩
  · exact .fail (fun _ _ _ denied => by cases denied)

theorem silent_ensureDcr (cond : Prop) [Decidable cond] (why : DcrRefusal)
    : (ensureDcr cond why).Issues (fun _ => False) := by
  unfold ensureDcr
  split
  · trivial
  · trivial

theorem silent_enforceDcrInitialAccessToken (ctx : DcrContext)
    : (enforceDcrInitialAccessToken settings ctx).Issues (fun _ => False) := by
  unfold enforceDcrInitialAccessToken
  split
  · trivial
  · exact silent_ensureDcr _ _

/-- Every registration keeps its promise. -/
theorem meets_handleOauthRegisterRequest
    : (dcrProtocol settings start).Meets t request (handleOauthRegisterRequest settings request)
        (fun _ _ => True) h := by
  have anything {β : Type} {p : Dcr β} {h : History dcrStore} (silent : p.Issues (fun _ => False))
      : (dcrProtocol settings start).Meets t request p (fun _ _ => True) h :=
    of_issues silent (fun _ _ never => never.elim) (fun _ _ _ => trivial)
  refine seq (anything (silent_ensureDcr _ _)) (fun _ h1 _ _ => ?_) (fun _ _ _ _ => trivial)
  refine seq (anything (silent_enforceDcrInitialAccessToken _)) (fun _ h2 _ _ => ?_)
    (fun _ _ _ _ => trivial)
  refine seq meets_consumeDcrRateLimit (fun _ h3 _ counted => ?_) (fun _ _ _ _ => trivial)
  have admitted := counted _ rfl
  refine seq meets_enforceDcrActiveClientCap (fun _ h4 after4 capped => ?_)
    (fun _ _ _ _ => trivial)
  obtain ⟨active, read, within⟩ := capped _ rfl
  split
  · exact .fail (fun _ _ => trivial)
  · refine perform_bind (fun h5 moved5 => ⟨⟨?_, ?_⟩, ?_⟩)
    · exact ⟨active, read.moved moved5.le moved5.own, within⟩
    · exact admitted.later (after4.le.trans moved5.le)
    · split
      · exact .done (fun _ _ => trivial)
      · exact .fail (fun _ _ => trivial)

/-- What the counts of admissions are next to the buckets: no window has admitted more than its maximum or
than its bucket counts, and nothing has been admitted in a window that starts after its bucket's.
-/
structure Counted (settings : DcrSettings) (h : History dcrStore) : Prop where
  rate
    : ∀ clientIp windowStart,
        h.log.countP (admits clientIp windowStart) ≤ dcrRateLimitMax settings clientIp
  counted
    : ∀ clientIp row, DcrDatabase.bucket h.state (dcrBucketKey clientIp) = some row
        → h.log.countP (admits clientIp row.windowStart) ≤ row.count
          ∧ ∀ windowStart, row.windowStart < windowStart
              → h.log.countP (admits clientIp windowStart) = 0
  missing
    : ∀ clientIp, DcrDatabase.bucket h.state (dcrBucketKey clientIp) = none
        → ∀ windowStart, h.log.countP (admits clientIp windowStart) = 0
  cap : DcrDatabase.activeClients h.state ≤ settings.maxActiveClients

theorem counted_initial (within : start.activeClients ≤ settings.maxActiveClients)
    : Counted settings ⟨start, []⟩ where
  rate := fun _ _ => Nat.zero_le _
  counted := fun _ _ _ => ⟨Nat.zero_le _, fun _ _ => rfl⟩
  missing := fun _ _ _ => rfl
  cap := within

theorem countP_exec_of_not_records {cmd : DcrCommand}
    (other : recordsBucket (dcrBucketKey clientIp) cmd = false)
    : (h.exec t cmd).log.countP (admits clientIp windowStart)
      = h.log.countP (admits clientIp windowStart) := by
  rw [exec_log, countP_cons_of_neg]
  intro admitted
  obtain ⟨count, same⟩ := admits_iff.mp admitted
  have same : cmd = .recordBucket (dcrBucketKey clientIp) windowStart count := same
  rw [same] at other
  simp [recordsBucket] at other

theorem dcrBucketKey_inj {clientIp' : Text}
    (same : dcrBucketKey clientIp = dcrBucketKey clientIp')
    : clientIp = clientIp' :=
  append_cancel_left same

theorem currentWindow_cases (settings : DcrSettings) (found : Option RateBucketRow) (now : Int)
    : (∃ row, found = some row ∧ currentWindow settings found now = (row.windowStart, row.count))
      ∨ (currentWindow settings found now).2 = 0
        ∧ ∀ row, found = some row → row.windowStart < (currentWindow settings found now).1 := by
  have pos : 0 < dcrWindow settings := by
    have one := settings.rateLimitWindowSeconds.pos
    unfold dcrWindow
    omega
  unfold currentWindow
  cases found with
  | none => exact .inr ⟨rfl, fun _ never => by cases never⟩
  | some row =>
    by_cases within : now - row.windowStart < dcrWindow settings
    · refine .inl ⟨row, rfl, ?_⟩
      have kept
          : (some row).filter (fun row => now - row.windowStart < dcrWindow settings) = some row := by
        simp [Option.filter, within]
      rw [kept]
    · have ended
          : (some row).filter (fun row => now - row.windowStart < dcrWindow settings) = none := by
        simp [Option.filter, within]
      rw [ended]
      refine .inr ⟨rfl, fun row' same => ?_⟩
      cases same
      change row.windowStart < now
      omega

/-- A registration that is counted by itself keeps the counts. -/
theorem Counted.record (booked : Counted settings h) {count : Nat}
    {found : Option RateBucketRow}
    (current
      : bucket h.state (dcrBucketKey (resolveDcrClientIp request.ctx)) = found)
    (window : windowStart = (currentWindow settings found request.now).1)
    (next : count = (currentWindow settings found request.now).2 + 1)
    (within : count ≤ dcrRateLimitMax settings (resolveDcrClientIp request.ctx))
    : Counted settings
        (h.exec t
          (.recordBucket (dcrBucketKey (resolveDcrClientIp request.ctx)) windowStart count)) := by
  generalize resolveDcrClientIp request.ctx = clientIp at current within ⊢
  have newest (clientIp' : Text) (start : Int)
      : (h.exec t (.recordBucket (dcrBucketKey clientIp) windowStart count)).log.countP
            (admits clientIp' start)
        = h.log.countP (admits clientIp' start)
          + if clientIp = clientIp' ∧ windowStart = start then 1 else 0 := by
    rw [exec_log, countP_cons]
    congr 1
    have same
        : admits clientIp' start
            ⟨t, .recordBucket (dcrBucketKey clientIp) windowStart count, h.state⟩ = true
          ↔ clientIp = clientIp' ∧ windowStart = start := by
      rw [admits_iff]
      constructor
      · rintro ⟨count', same⟩
        obtain ⟨key, start, _⟩ := DcrCommand.recordBucket.inj same
        exact ⟨dcrBucketKey_inj key, start⟩
      · rintro ⟨rfl, rfl⟩
        exact ⟨count, rfl⟩
    simp only [same]
  -- What the window has admitted before is less than what the bucket counts now.
  have before
      : h.log.countP (admits clientIp windowStart) + 1 ≤ count
        ∧ ∀ later, windowStart < later → h.log.countP (admits clientIp later) = 0 := by
    rcases currentWindow_cases settings found request.now with ⟨row, rfl, same⟩ | ⟨zero, later⟩
    · obtain ⟨counted, none⟩ := booked.counted clientIp row current
      rw [same] at window next
      subst window next
      exact ⟨Nat.succ_le_succ counted, none⟩
    · rw [zero] at next
      subst next
      cases found with
      | none =>
        have none := booked.missing clientIp current
        exact ⟨by rw [none], fun start _ => none start⟩
      | some row =>
        obtain ⟨_, none⟩ := booked.counted clientIp row current
        have after : row.windowStart < windowStart := window ▸ later row rfl
        refine ⟨by rw [none windowStart after], fun start le => none start (after.trans le)⟩
  have bucket (clientIp' : Text)
      : bucket
            (h.exec t (.recordBucket (dcrBucketKey clientIp) windowStart count)).state
            (dcrBucketKey clientIp')
        = if clientIp = clientIp' then
            some { bucketKey := dcrBucketKey clientIp', windowStart, count }
          else bucket h.state (dcrBucketKey clientIp') := by
    have saved := bucket_recordBucket h.state (dcrBucketKey clientIp)
      (dcrBucketKey clientIp') windowStart count
    have keys : dcrBucketKey clientIp = dcrBucketKey clientIp' ↔ clientIp = clientIp' :=
      ⟨dcrBucketKey_inj, congrArg dcrBucketKey⟩
    simp only [keys] at saved
    exact saved
  refine ⟨fun clientIp' start => ?_, fun clientIp' row there => ?_, fun clientIp' none start => ?_,
    booked.cap⟩
  · have soFar := booked.rate clientIp' start
    rw [newest]
    split
    · rename_i same
      obtain ⟨rfl, rfl⟩ := same
      exact before.1.trans within
    · exact soFar
  · rw [bucket] at there
    split at there
    · rename_i same
      subst same
      cases there
      refine ⟨?_, fun start later => ?_⟩
      · rw [newest, if_pos ⟨rfl, rfl⟩]
        exact before.1
      · rw [newest, if_neg (fun same => absurd same.2 (Int.ne_of_lt later))]
        exact before.2 start later
    · rename_i other
      have stays (start : Int)
          : (h.exec t (.recordBucket (dcrBucketKey clientIp) windowStart count)).log.countP
                (admits clientIp' start)
            = h.log.countP (admits clientIp' start) := by
        rw [newest, if_neg (fun same => other same.1), Nat.add_zero]
      obtain ⟨counted, later⟩ := booked.counted clientIp' row there
      refine ⟨(stays _).trans_le counted, fun start after => (stays start).trans ?_⟩
      exact later start after
  · rw [bucket] at none
    split at none
    · cases none
    · rename_i other
      rw [newest, if_neg (fun same => other same.1), Nat.add_zero]
      exact booked.missing clientIp' none start

theorem Counted.others (booked : Counted settings h) {cmd : DcrCommand}
    (unrecorded : ∀ bucketKey, recordsBucket bucketKey cmd = false)
    (within
      : activeClients (h.exec t cmd).state ≤ settings.maxActiveClients)
    : Counted settings (h.exec t cmd) := by
  have counts (clientIp : Text) (windowStart : Int)
      : (h.exec t cmd).log.countP (admits clientIp windowStart)
        = h.log.countP (admits clientIp windowStart) :=
    countP_exec_of_not_records (unrecorded _)
  have buckets (bucketKey : Text)
      : bucket (h.exec t cmd).state bucketKey
        = bucket h.state bucketKey :=
    bucket_exec_of_not_records (unrecorded bucketKey)
  refine ⟨fun clientIp windowStart => ?_, fun clientIp row there => ?_,
    fun clientIp none windowStart => ?_, within⟩
  · rw [counts]
    exact booked.rate clientIp windowStart
  · rw [buckets] at there
    obtain ⟨counted, later⟩ := booked.counted clientIp row there
    refine ⟨(counts _ _).trans_le counted, fun windowStart after => (counts _ _).trans ?_⟩
    exact later windowStart after
  · rw [buckets] at none
    rw [counts]
    exact booked.missing clientIp none windowStart

/-- One statement that nobody has raced keeps the counts. -/
theorem Counted.exec (booked : Counted settings h) {cmd : DcrCommand}
    (lives : (dcrProtocol settings start).inv h)
    (due : DcrPromise settings t request cmd h) (unraced : LimitUnraced t cmd h)
    : Counted settings (h.exec t cmd) := by
  cases cmd with
  | readBucket bucketKey => exact booked.others (fun _ => rfl) booked.cap
  | recordBucket bucketKey windowStart count =>
    obtain ⟨rfl, found, read, window, next, within⟩ := due
    refine booked.record ?_ window next within
    exact read.current lives unraced (fun _ _ other => bucket_exec_of_not_records other)
      (fun _ reading => not_records_of_reads reading)
  | countClients => exact booked.others (fun _ => rfl) booked.cap
  | insertClient row =>
    obtain ⟨⟨active, read, within⟩, _⟩ := due
    have current : activeClients h.state = active :=
      read.current lives unraced (fun _ _ other => activeClients_exec_of_not_inserts other)
        (fun _ counting => not_inserts_of_counts counting)
    have one := activeClients_insertClient h.state row
    refine booked.others (fun _ => rfl) ?_
    refine Nat.le_trans one ?_
    rw [current]
    exact within

theorem meets_dcr (settings : DcrSettings) (start : DcrDatabase) (t : Nat) (request : RegisterRequest)
    (h : History dcrStore) (_ : (dcrProtocol settings start).inv h) (_ : h.own t = [])
    : (dcrProtocol settings start).Meets t request (handleOauthRegisterRequest settings request)
        (Protocol.Anything t request h.state) h :=
  meets_handleOauthRegisterRequest

theorem lives_dcrRun (settings : DcrSettings) (start : DcrDatabase)
    (acts : List (Action dcrStore RegisterRequest))
    : (dcrProtocol settings start).inv (dcrRun settings start acts).history :=
  ((dcrProtocol settings start).sound (meets_dcr settings start) Kept.nil acts).inv

/-- Where no registration writes what another one has written since it read, the limits hold.
Witness: what a registration has read is still there when it writes.
-/
theorem registrationsAreBounded (settings : DcrSettings) (start : DcrDatabase)
    (within : start.activeClients ≤ settings.maxActiveClients)
    (schedule : List (Action dcrStore RegisterRequest))
    (unraced : (dcrRun settings start schedule).history.Respects LimitUnraced)
    : RegistrationsBounded settings (dcrRun settings start schedule) := by
  have lives := lives_dcrRun settings start schedule
  have booked : Counted settings (dcrRun settings start schedule).history := by
    refine Kept.run (J := Counted settings) lives unraced (counted_initial within) ?_
    intro h t command kept _ promised unraced booked
    obtain ⟨request, promised⟩ := promised
    exact booked.exec kept promised unraced
  refine ⟨booked.rate, ?_, booked.cap⟩
  rintro thread request asked ⟨issued, own, inserts⟩
  obtain ⟨logged, rfl⟩ := mem_own.mp own
  obtain ⟨later, earlier, split⟩ := append_of_mem logged
  have le : issued :: earlier <:+ (dcrRun settings start schedule).history.log := ⟨later, split.symm⟩
  obtain ⟨request', same, _, promised⟩ :=
    Protocol.promised_at (meets_dcr settings start) Kept.nil schedule le
  cases (same.symm.trans asked)
  cases command : issued.command with
  | insertClient row =>
    rw [command] at promised
    exact promised.2.later ((suffix_cons _ _).trans le)
  | _ =>
    rw [command] at inserts
    cases inserts

/-- Of two registrations one after the other the second one is refused. -/
theorem registrationsAreBounded_inTurn
    : RegistrationsBounded Sample.strictDcr
        (dcrRun Sample.strictDcr Sample.noClients Sample.registeredInTurn)
      ∧ ((dcrRun Sample.strictDcr Sample.noClients Sample.registeredInTurn).answer 0).any
          (·.toOption.isSome) = true
      ∧ ((dcrRun Sample.strictDcr Sample.noClients Sample.registeredInTurn).answer 1).any
          (·.toOption.isNone) = true :=
  ⟨registrationsAreBounded strictDcr noClients (Nat.zero_le _) registeredInTurn
      (by decide +kernel),
    by decide +kernel, by decide +kernel⟩

/-- Two registrations at once are both admitted in a window for one, and both insert a client. -/
theorem registrationsExceedTheirBounds
    : ¬ RegistrationsBounded Sample.strictDcr
        (dcrRun Sample.strictDcr Sample.noClients Sample.registeredAtOnce)
      ∧ (dcrRun Sample.strictDcr Sample.noClients Sample.registeredAtOnce).history.log.countP
          (admits (text "1.2.3.4") 0) = 2
      ∧ (dcrRun Sample.strictDcr Sample.noClients Sample.registeredAtOnce).state.activeClients = 2 := by
  have both
      : (dcrRun strictDcr noClients registeredAtOnce).state.activeClients = 2 := by
    decide +kernel
  refine ⟨fun bounded => ?_, by decide +kernel, both⟩
  have one := bounded.cap
  rw [both] at one
  exact absurd one (by decide)

end CairnStone.CoreAuth
