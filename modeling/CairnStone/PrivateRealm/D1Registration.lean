import CairnStone.Concurrency.Instants
import CairnStone.PrivateRealm.D1DefaultHome
import CairnStone.PrivateRealm.D1ReadReport

/-! One default Home for an account, over whole runs: every `ensureDefaultHome` places its connection or
denies its scope, and nobody else registers a connection.
-/

namespace CairnStone.PrivateRealm.D1Store

open JavaScript Data Concurrency List History Program World Protocol.Meets

def RegistersNone (command : Command) : Prop :=
  ∀ scope, ¬ Registers scope command

theorem registersNone_of_incidental (command : Command) (incidental : Incidental command)
    : RegistersNone command := by
  intro scope registers
  cases command with
  | createHome homeId scope' stamp => cases incidental
  | attachConnection homeId scope' stamp => cases incidental
  | _ => cases registers

section

variable {α β : Type} {scopeIn selector : Value}
  {g : β → Async α}

theorem calm_seq {p : Async β} (issues : p.Issues Incidental)
    (rest : ∀ value, (g value).Issues RegistersNone)
    : (p.bind g).Issues RegistersNone :=
  Issues.bind (issues.imp registersNone_of_incidental) rest

theorem calm_select_bind {f : Database → β}
    (rest : ∀ value, (g value).Issues RegistersNone)
    : ((select f).bind g).Issues RegistersNone :=
  Issues.bind (fun _ => trivial) rest

theorem calm_command_bind {c : Command} {g : c.Reply → Async α}
    (none : RegistersNone c) (rest : ∀ reply, (g reply).Issues RegistersNone)
    : ((command c).bind g).Issues RegistersNone :=
  Issues.bind ⟨none, fun _ => trivial⟩ rest

theorem calm_incidental {p : Async α} (issues : p.Issues Incidental)
    : p.Issues RegistersNone :=
  issues.imp registersNone_of_incidental

theorem calm_orThrow_bind {reply : Except SqlError β}
    (rest : ∀ value, (g value).Issues RegistersNone)
    : ((orThrow reply).bind g).Issues RegistersNone := by
  cases reply with
  | ok value => exact rest value
  | error error => trivial

theorem issues_requireAdmin (ctx : AuthContext) (action : String)
    : (requireAdmin ctx action).Issues Incidental :=
  issues_require (issues_denyCapability ..)

theorem issues_failedGuard (action : String) (admin : Bool)
    : (failedGuard scopeIn selector action admin).Issues Incidental :=
  (issues_authorize ..).bind
    (fun _ => (issues_require (issues_denyCapability ..)).bind (fun _ => trivial))

theorem issues_resolveHome : (resolveHome scopeIn selector).Issues Incidental :=
  (issues_authorize ..).bind (fun _ => (issues_audit ..).bind (fun _ => trivial))

theorem issues_explainSetRole (target : Text) (role : HomeRole)
    : (explainSetRole scopeIn selector target role).Issues Incidental := by
  refine (issues_failedGuard ..).bind (fun fresh => ?_)
  refine Issues.bind (fun _ => trivial) (fun still => ?_)
  split
  · exact issues_denyCapability ..
  · exact (issues_require (issues_denyCapability ..)).bind (fun _ => trivial)

theorem calm_setConnectionRole (targetIn roleIn : Value)
    : (setConnectionRole scopeIn targetIn roleIn selector).Issues RegistersNone := by
  refine calm_seq (issues_authorize ..) (fun ctx => ?_)
  refine calm_seq (issues_requireAdmin ..) (fun _ => ?_)
  split
  · trivial
  split
  · exact calm_incidental (issues_denyCapability ..)
  refine calm_select_bind (fun found => ?_)
  refine calm_seq (issues_require (issues_denyCapability ..)) (fun _ => ?_)
  refine calm_command_bind (fun _ => id) (fun reply => ?_)
  refine calm_orThrow_bind (fun edits => ?_)
  split
  · exact calm_incidental (issues_explainSetRole ..)
  · exact calm_seq (issues_audit ..) (fun _ => trivial)

theorem issues_explainRevoke (target : Text) (self : Bool)
    : (explainRevoke scopeIn selector target self).Issues Incidental := by
  refine (issues_failedGuard ..).bind (fun fresh => ?_)
  refine Issues.bind (fun _ => trivial) (fun still => ?_)
  split
  · exact issues_denyCapability ..
  split
  · exact (issues_audit ..).bind (fun _ => trivial)
  · exact (issues_require (issues_denyCapability ..)).bind (fun _ => trivial)

theorem calm_revokeConnection (targetIn : Value)
    : (revokeConnection scopeIn targetIn selector).Issues RegistersNone := by
  refine calm_seq (issues_authorize ..) (fun ctx => ?_)
  refine calm_seq (Issues.ofExcept _) (fun target => ?_)
  refine calm_seq (issues_require (issues_denyCapability ..)) (fun _ => ?_)
  refine calm_select_bind (fun found => ?_)
  split
  · exact calm_incidental (issues_denyCapability ..)
  split
  · exact calm_seq (issues_audit ..) (fun _ => trivial)
  refine calm_command_bind (fun _ => id) (fun stamp => ?_)
  refine calm_command_bind (fun _ => id) (fun reply => ?_)
  refine calm_orThrow_bind (fun edits => ?_)
  split
  · exact calm_incidental (issues_explainRevoke ..)
  · exact calm_seq (issues_audit ..) (fun _ => trivial)

theorem issues_classifyInbox (ctx : AuthContext) (options : CreateInboxOptions) (inboxId : Text)
    (owner : Option Text)
    : (classifyInbox ctx options inboxId owner).Issues Incidental := by
  refine Issues.bind (fun _ => trivial) (fun found => ?_)
  split
  · trivial
  refine (issues_require (issues_denyCapability ..)).bind (fun _ => ?_)
  exact (issues_audit ..).bind (fun _ => trivial)

theorem issues_explainCreateInbox (ctx : AuthContext) (options : CreateInboxOptions)
    (inboxId : Text) (owner : Option Text) (needsAdmin : Bool) (otherwise : Failure)
    : (explainCreateInbox scopeIn selector ctx options inboxId owner needsAdmin otherwise).Issues
        Incidental := by
  refine (issues_failedGuard ..).bind (fun fresh => ?_)
  refine Issues.bind (issues_classifyInbox _ _ _ _) (fun raced => ?_)
  split <;> trivial

theorem calm_createInbox (opts : Value)
    : (createInbox scopeIn opts selector).Issues RegistersNone := by
  refine calm_seq (issues_authorize ..) (fun ctx => ?_)
  refine calm_seq (Issues.ofExcept _) (fun options => ?_)
  refine calm_seq (issues_require (issues_denyCapability ..)) (fun _ => ?_)
  refine Issues.bind ?_ (fun inboxId => ?_)
  · unfold newInboxId
    split
    · trivial
    · exact ⟨fun _ => id, fun _ => trivial⟩
  refine calm_seq (issues_classifyInbox _ _ _ _) (fun early => ?_)
  split
  · trivial
  refine calm_command_bind (fun _ => id) (fun stamp => ?_)
  refine calm_command_bind (fun _ => id) (fun reply => ?_)
  split
  · exact calm_incidental (issues_explainCreateInbox ..)
  split
  · exact calm_incidental (issues_explainCreateInbox ..)
  · exact calm_seq (issues_audit ..) (fun _ => trivial)

theorem calm_grantInbox (opts : Value)
    : (grantInbox scopeIn opts selector).Issues RegistersNone := by
  refine calm_seq (issues_authorize ..) (fun ctx => ?_)
  refine calm_seq (issues_requireAdmin ..) (fun _ => ?_)
  split
  · exact calm_incidental (issues_denyCapability ..)
  refine calm_select_bind (fun inbox => ?_)
  split
  · exact calm_incidental (issues_denyCapability ..)
  refine calm_seq (issues_require (issues_denyCapability ..)) (fun _ => ?_)
  split
  · exact calm_incidental (issues_denyCapability ..)
  refine calm_select_bind (fun found => ?_)
  refine calm_seq (issues_require (issues_denyCapability ..)) (fun _ => ?_)
  refine calm_seq (Issues.ofExcept _) (fun caps => ?_)
  refine calm_command_bind (fun _ => id) (fun stamp => ?_)
  refine calm_command_bind (fun _ => id) (fun reply => ?_)
  refine calm_orThrow_bind (fun edits => ?_)
  split
  · exact calm_seq (issues_failedGuard ..)
      (fun fresh => calm_incidental (issues_denyCapability ..))
  · exact calm_seq (issues_audit ..) (fun _ => trivial)

theorem issues_explainRevokeGrant (inboxId target : Text)
    : (explainRevokeGrant scopeIn selector inboxId target).Issues Incidental := by
  refine (issues_failedGuard ..).bind (fun fresh => ?_)
  refine Issues.bind (fun _ => trivial) (fun grant => ?_)
  refine (issues_require (issues_fail _)).bind (fun _ => ?_)
  exact (issues_audit ..).bind (fun _ => trivial)

theorem calm_revokeGrant (opts : Value)
    : (revokeGrant scopeIn opts selector).Issues RegistersNone := by
  refine calm_seq (issues_authorize ..) (fun ctx => ?_)
  refine calm_seq (issues_requireAdmin ..) (fun _ => ?_)
  split
  · exact calm_incidental (issues_denyCapability ..)
  refine calm_select_bind (fun inbox => ?_)
  split
  · exact calm_incidental (issues_denyCapability ..)
  refine calm_seq (issues_require (issues_denyCapability ..)) (fun _ => ?_)
  split
  · exact calm_seq (issues_audit ..) (fun _ => trivial)
  refine calm_command_bind (fun _ => id) (fun stamp => ?_)
  refine calm_command_bind (fun _ => id) (fun reply => ?_)
  refine calm_orThrow_bind (fun edits => ?_)
  split
  · exact calm_incidental (issues_explainRevokeGrant ..)
  · exact calm_seq (issues_audit ..) (fun _ => trivial)

theorem issues_listInboxes : (listInboxes scopeIn selector).Issues Incidental := by
  refine (issues_authorize ..).bind (fun ctx => ?_)
  refine Issues.bind (fun _ => trivial) (fun rows => ?_)
  exact (issues_audit ..).bind (fun _ => trivial)

theorem issues_can (inboxIdIn capabilityIn : Value)
    : (can scopeIn inboxIdIn capabilityIn selector).Issues Incidental := by
  refine Issues.handle ?_ (fun error => ?_)
  · refine (issues_authorize ..).bind (fun ctx => ?_)
    split
    · trivial
    split
    · trivial
    refine Issues.bind (fun _ => trivial) (fun found => ?_)
    split <;> trivial
  · split <;> trivial

theorem calm_send (config : StoreConfig) (opts : Value)
    : (send config scopeIn opts selector).Issues RegistersNone := by
  refine calm_seq (Issues.ofExcept _) (fun request => ?_)
  refine calm_seq (issues_prepareSend ..) (fun prepared => ?_)
  split
  · trivial
  refine calm_command_bind (fun _ => id) (fun reply => ?_)
  split
  · exact calm_incidental (issues_explainSend ..)
  · exact calm_seq (issues_audit ..) (fun _ => trivial)

theorem issues_listInbox (opts : Value) : (listInbox scopeIn opts selector).Issues Incidental := by
  refine (Issues.ofExcept _).bind (fun limit => ?_)
  refine (issues_authorize ..).bind (fun ctx => ?_)
  refine (issues_requireCapability ..).bind (fun inboxId => ?_)
  refine Issues.bind (fun _ => trivial) (fun rows => ?_)
  refine (issues_authorize ..).bind (fun finalCtx => ?_)
  refine (issues_requireCapability ..).bind (fun _ => ?_)
  exact (issues_audit ..).bind (fun _ => trivial)

theorem calm_markRead (inboxIdIn : Value) (ctx : AuthContext) (inboxId : Text)
    (returned : List (MessageReading Time))
    : (markRead scopeIn inboxIdIn selector ctx inboxId returned).Issues RegistersNone := by
  unfold markRead
  simp only []
  split
  · trivial
  refine calm_command_bind (fun _ => id) (fun stamp => ?_)
  refine calm_command_bind (fun _ => id) (fun reply => ?_)
  refine calm_orThrow_bind (fun edits => ?_)
  split
  · refine calm_seq (issues_authorize ..) (fun fresh => ?_)
    refine calm_seq (issues_requireCapability ..) (fun _ => ?_)
    exact calm_select_bind (fun _ => trivial)
  · trivial

theorem calm_readInbox (config : StoreConfig) (opts : Value)
    : (readInbox config scopeIn opts selector).Issues RegistersNone := by
  refine calm_seq (Issues.ofExcept _) (fun limit => ?_)
  refine calm_seq (issues_authorize ..) (fun ctx => ?_)
  refine calm_seq (issues_requireCapability ..) (fun inboxId => ?_)
  refine calm_select_bind (fun rows => ?_)
  refine Issues.bind ((reads_resolveRows ..).imp (fun _ never => never.elim))
    (fun got => ?_)
  refine (calm_markRead ..).bind (fun marked => ?_)
  refine calm_seq (issues_authorize ..) (fun finalCtx => ?_)
  refine calm_seq (issues_requireCapability ..) (fun _ => ?_)
  exact calm_seq (issues_audit ..) (fun _ => trivial)

theorem issues_explainAck (inboxIdIn : Value) (inboxId messageId : Text)
    : (explainAck scopeIn inboxIdIn selector inboxId messageId).Issues Incidental := by
  refine (issues_authorize ..).bind (fun fresh => ?_)
  refine (issues_requireCapability ..).bind (fun _ => ?_)
  refine Issues.bind (fun _ => trivial) (fun delivery => ?_)
  split
  · exact issues_denyCapability ..
  split
  · exact (issues_audit ..).bind (fun _ => trivial)
  · trivial

theorem calm_ack (opts : Value) : (ack scopeIn opts selector).Issues RegistersNone := by
  refine calm_seq (issues_authorize ..) (fun ctx => ?_)
  refine calm_seq (issues_requireCapability ..) (fun inboxId => ?_)
  split
  · exact calm_incidental (issues_denyCapability ..)
  refine calm_command_bind (fun _ => id) (fun stamp => ?_)
  refine calm_command_bind (fun _ => id) (fun reply => ?_)
  refine calm_orThrow_bind (fun edits => ?_)
  split
  · exact calm_incidental (issues_explainAck ..)
  · exact calm_seq (issues_audit ..) (fun _ => trivial)

end

def HomeWorth (t : Nat) (call : Call) (_ : World) (answer : Except Failure (Answer Time))
    (h : History machine)
    : Prop :=
  match call with
  | .ensureDefaultHome scopeIn =>
    ∀ scope, assertHomeScope scopeIn = .ok scope → PlacesUnlessSpoilt t scope answer h
  | _ => True

theorem houses_body (store : StoreConfig) (t : Nat) (call : Call) (h : History machine)
    (unlogged : h.own t = [])
    : housing.Meets t call (body store call) (HomeWorth t call h.state) h := by
  have others {p : Async (Answer Time)} (issues : p.Issues RegistersNone)
      (nothing : ∀ answer h', HomeWorth t call h.state answer h')
      : housing.Meets t call p (HomeWorth t call h.state) h :=
    of_issues issues
      (fun _ _ none => fun scope registers => absurd registers (none scope))
      (fun answer h' _ => nothing answer h')
  have trivially (nothing : ∀ answer h', HomeWorth t call h.state answer h')
      {p : Async (Answer Time)} (issues : p.Issues Incidental)
      : housing.Meets t call p (HomeWorth t call h.state) h :=
    others (calm_incidental issues) nothing
  cases call with
  | ensureDefaultHome scopeIn =>
    refine ofExcept_bind (fun scope valid => ?_) (fun e failed _ _ => ?_)
    · have idle : ¬ Creating t h := by
        rintro ⟨issued, known, _⟩
        rw [unlogged] at known
        exact absurd known not_mem_nil
      have enough : Winnable t scope MAX_PASSES h := .inr ⟨3, by decide, trivial⟩
      refine (meets_ensurePass rfl valid MAX_PASSES none enough idle).consequence
        (fun answer h' _ worth => ?_)
      intro scope' valid'
      cases (valid.symm.trans valid')
      exact worth
    · intro scope valid
      rw [valid] at failed
      cases failed
  | resolveHome scope selector => exact trivially (fun _ _ => trivial) issues_resolveHome
  | setConnectionRole scope target role selector =>
    exact others (calm_setConnectionRole ..) (fun _ _ => trivial)
  | revokeConnection scope target selector =>
    exact others (calm_revokeConnection ..) (fun _ _ => trivial)
  | createInbox scope opts selector =>
    exact others (calm_createInbox ..) (fun _ _ => trivial)
  | listInboxes scope selector => exact trivially (fun _ _ => trivial) issues_listInboxes
  | grantInbox scope opts selector =>
    exact others (calm_grantInbox ..) (fun _ _ => trivial)
  | revokeGrant scope opts selector =>
    exact others (calm_revokeGrant ..) (fun _ _ => trivial)
  | can scope inboxId capability selector =>
    exact trivially (fun _ _ => trivial) (issues_can ..)
  | send scope opts selector => exact others (calm_send ..) (fun _ _ => trivial)
  | listInbox scope opts selector => exact trivially (fun _ _ => trivial) (issues_listInbox ..)
  | readInbox scope opts selector =>
    exact others (calm_readInbox ..) (fun _ _ => trivial)
  | ack scope opts selector => exact others (calm_ack ..) (fun _ _ => trivial)

/-- Minted ids are fresh, and statements fail on unique columns only. -/
def FailsOnUniqueOnly (command : Command) (w : World) : Prop :=
  match command with
  | .createHome homeId scope stamp =>
    (∀ home ∈ w.db.homes, home.homeId ≠ homeId)
      ∧ ∀ error, w.db.createHome homeId scope stamp = .error error → error = .unique
  | .attachConnection homeId scope stamp =>
    ∀ error, w.db.attachConnection homeId scope stamp = .error error → error = .unique
  | _ => True

def onlyUnique {α : Type} : Except SqlError α → Bool
  | .ok _ => true
  | .error error => error == .unique

theorem onlyUnique_iff {α : Type} {res : Except SqlError α}
    : onlyUnique res = true ↔ ∀ error, res = .error error → error = .unique := by
  cases res with
  | ok value => exact ⟨fun _ _ never => (by cases never), fun _ => rfl⟩
  | error error =>
    rw [onlyUnique, beq_iff_eq]
    exact ⟨fun same _ failed => Except.error.inj failed ▸ same, fun all => all error rfl⟩

instance decidableOnlyUnique {α : Type} (outcome : Except SqlError α)
    : Decidable (∀ error, outcome = .error error → error = .unique) :=
  decidable_of_iff _ onlyUnique_iff

instance decidableFailsOnUniqueOnly (command : Command) (w : World)
    : Decidable (FailsOnUniqueOnly command w) := by
  unfold FailsOnUniqueOnly
  split <;> infer_instance

instance decidableIssuedFails (issued : Issued machine)
    : Decidable (FailsOnUniqueOnly issued.command issued.before) :=
  decidableFailsOnUniqueOnly issued.command issued.before

def AllActive (w : World) : Prop :=
  ∀ home ∈ w.db.homes, home.status = .active

theorem assumed_of_active {command : Command} {w : World} (fails : FailsOnUniqueOnly command w)
    (active : AllActive w)
    : Assumed command w := by
  cases command with
  | createHome homeId scope stamp => exact fails
  | attachConnection homeId scope stamp =>
    exact ⟨fun home stored _ => active home stored, fails⟩
  | _ => trivial

/-- No operator changes the status of a Home. -/
def StoreCallsOnly (schedule : List (Action machine Call)) : Prop :=
  ∀ action ∈ schedule, ∀ homeId status, action ≠ .disturb (.setHomeStatus homeId status)

theorem allActive_exec {w : World} (active : AllActive w) (command : Command)
    : AllActive (exec command w).2 := by
  have effect := exec_effect w command
  generalize after : (exec command w).2 = w' at effect
  intro home mem
  generalize stored : w'.db = db' at effect mem
  cases effect with
  | homeCreated =>
    rcases mem_append.mp mem with old | new
    · exact active home old
    · cases mem_singleton.mp new
      rfl
  | _ => exact active home mem

variable (store : StoreConfig) (clock : Time) (mints : Nat → Text) (r2 : Option Bucket)

/-- Where only store calls happen, every Home is active at every instant.
Witness: induction on the schedule; a Home is created active.
-/
theorem allActive_reached (schedule : List (Action machine Call)) (only : StoreCallsOnly schedule)
    : AllActive (reached store clock mints r2 schedule).state
      ∧ ∀ issued ∈ (reached store clock mints r2 schedule).history.log, AllActive issued.before := by
  induction schedule using List.reverseRecOn with
  | nil =>
    exact ⟨forall_mem_nil _,
      fun _ noted => absurd noted not_mem_nil⟩
  | append_singleton before action ih =>
    obtain ⟨active, noted⟩ :=
      ih (fun prior mem => only prior (mem_append_left _ mem))
    have next := only action (mem_append_right _ (mem_singleton_self _))
    unfold reached at active noted ⊢
    rw [Concurrency.Config.run_append]
    generalize (Config.init (fresh clock mints r2)).run (body store) before = config
      at active noted ⊢
    change AllActive ((config.act (body store) action).history.state) ∧ _
    cases action with
    | spawn call => exact ⟨active, noted⟩
    | disturb event =>
      refine ⟨?_, noted⟩
      cases event with
      | setHomeStatus homeId status => exact absurd rfl (next homeId status)
      | _ => exact active
    | step t =>
      have advanced := Concurrency.Config.advance_history config t
      change AllActive (config.advance t).history.state
        ∧ ∀ issued ∈ (config.advance t).history.log, AllActive issued.before
      rw [advanced]
      cases config.pending t with
      | none => exact ⟨active, noted⟩
      | some command =>
        exact ⟨allActive_exec active command, forall_mem_cons.mpr ⟨active, noted⟩⟩

/-- The thread serves an `ensureDefaultHome` of the scope. -/
def Ensures (run : Run) (t : Nat) (scope : HomeScope) : Prop :=
  ∃ scopeIn, run.call t = some (.ensureDefaultHome scopeIn) ∧ assertHomeScope scopeIn = .ok scope

def Ensured (run : Run) (t : Nat) (homeId : Text) (created : Bool) : Prop :=
  ∃ attached role, run.answer t = some (.ok (.ensured homeId created attached role))

/-- Every `ensureDefaultHome` ends with a Home or is not authorized, and an account has one Home, created
once. A connection is registered under its scope's principal in a Home of its scope's account and tenant.
-/
structure EnsuresOneHome (store : StoreConfig) (run : Run) : Prop where
  ends
    : ∀ t scope, Ensures run t scope
      → ∃ n answer, (run.run (body store) (List.replicate n (.step t))).answer t = some answer
  decides
    : ∀ t scope answer, Ensures run t scope → run.answer t = some answer
      → (∃ homeId created, Ensured run t homeId created)
        ∨ answer = .error (.realm "scope_not_authorized")
  sameHome
    : ∀ t t' scope scope' homeId homeId' created created', Ensures run t scope
      → Ensures run t' scope' → scope.accountId = scope'.accountId → Ensured run t homeId created
      → Ensured run t' homeId' created' → homeId = homeId'
  createdOnce
    : ∀ t t' scope scope' homeId homeId', Ensures run t scope → Ensures run t' scope'
      → scope.accountId = scope'.accountId → Ensured run t homeId true → Ensured run t' homeId' true
      → t = t'
  created
    : ∀ t scope homeId created, Ensures run t scope → Ensured run t homeId created
      → (∀ t' scope', Ensures run t' scope' → scope'.accountId = scope.accountId
          → run.answer t' ≠ none)
      → ∃ t' scope', Ensures run t' scope' ∧ scope'.accountId = scope.accountId
          ∧ Ensured run t' homeId true
  attached
    : ∀ c ∈ run.state.db.connections, ∃ t scope, Ensures run t scope
      ∧ c.identity = (scope.connectionId, c.homeId, scope.principalId)
      ∧ ∃ home ∈ run.state.db.homes, home.identity = (c.homeId, scope.accountId, scope.tenantId)
  admitted
    : ∀ t scope homeId created, Ensures run t scope → Ensured run t homeId created
      → Registered run.state.db scope homeId

section

variable {run : Run}
  {t : Nat} {scope : HomeScope}

theorem places_of_answer (sound : housing.Sound HomeWorth run)
    (fails : ∀ issued ∈ run.history.log, Assumed issued.command issued.before)
    {answer : Except Failure (Answer Time)} (ensures : Ensures run t scope)
    (said : run.answer t = some answer)
    : Places t scope answer run.history := by
  obtain ⟨scopeIn, asked, valid⟩ := ensures
  obtain ⟨entry, found, call⟩ := thread_of_call asked
  have ended : entry.answer = some answer := by
    simpa [Concurrency.Config.answer, found] using said
  have worth := sound.post_of_answer found ended
  rw [call] at worth
  rcases worth scope valid with ⟨issued, known, violated⟩ | places
  · exact absurd (fails issued (mem_own.mp known).1) violated
  · exact places

theorem placed_of_ensured (sound : housing.Sound HomeWorth run)
    (fails : ∀ issued ∈ run.history.log, Assumed issued.command issued.before) {homeId : Text}
    {created : Bool} (ensures : Ensures run t scope) (ensured : Ensured run t homeId created)
    : Registered run.state.db scope homeId ∧ (created = true ↔ Creating t run.history) := by
  obtain ⟨attached, role, said⟩ := ensured
  obtain ⟨_, _, _, _, same, registered, creating⟩ := places_of_answer sound fails ensures said
  obtain ⟨rfl, rfl, _, _⟩ := Answer.ensured.inj same
  exact ⟨registered, creating⟩

theorem ensures_of_registers
    (due : ∀ issued ∈ run.history.log, housing.Promised run issued)
    {issued : Issued machine} (noted : issued ∈ run.history.log)
    (registers : Registers scope issued.command)
    : Ensures run issued.thread scope := by
  obtain ⟨call, history, asked, _, _, promise⟩ := due issued noted
  obtain ⟨scopeIn, rfl, valid⟩ := promise scope registers
  exact ⟨scopeIn, asked, valid⟩

theorem creates_of_creating
    (due : ∀ issued ∈ run.history.log, housing.Promised run issued)
    (ensures : Ensures run t scope) (creating : Creating t run.history)
    : ∃ issued ∈ run.history.log, issued.thread = t
        ∧ ∃ homeId, Creates issued scope.accountId homeId := by
  obtain ⟨issued, known, accountId, homeId, creates⟩ := creating
  obtain ⟨noted, rfl⟩ := mem_own.mp known
  obtain ⟨scope', stamp, command, rfl⟩ := creates.command
  have registers : Registers scope' issued.command := by
    rw [command]
    exact rfl
  obtain ⟨scopeIn', asked', valid'⟩ := ensures_of_registers due noted registers
  obtain ⟨scopeIn, asked, valid⟩ := ensures
  cases Call.ensureDefaultHome.inj (Option.some.inj (asked.symm.trans asked'))
  cases (valid.symm.trans valid')
  exact ⟨issued, noted, rfl, homeId, creates⟩

end

/-- In every interleaving of store calls, `ensureDefaultHome` ends with one Home for each account.
Witness: the passes that a call may lose are fewer than the loop allows; a Home has one creator.
-/
theorem ensuresOneHome (schedule : List (Action machine Call)) (only : StoreCallsOnly schedule)
    (fails
      : ∀ issued ∈ (reached store clock mints r2 schedule).history.log,
          FailsOnUniqueOnly issued.command issued.before)
    : EnsuresOneHome store (reached store clock mints r2 schedule) := by
  have active := (allActive_reached store clock mints r2 schedule only).2
  have assumed
      : ∀ issued ∈ (reached store clock mints r2 schedule).history.log,
          Assumed issued.command issued.before :=
    fun issued logged => assumed_of_active (fails issued logged) (active issued logged)
  have sound : housing.Sound HomeWorth (reached store clock mints r2 schedule) :=
    Protocol.sound (fun t call h _ unlogged => houses_body store t call h unlogged)
      (housed_fresh clock mints r2) schedule
  have promised
      : ∀ issued ∈ (reached store clock mints r2 schedule).history.log,
          housing.Promised (reached store clock mints r2 schedule) issued :=
    Protocol.logged_promised (fun t call h _ unlogged => houses_body store t call h unlogged)
      (housed_fresh clock mints r2) schedule
  generalize reached store clock mints r2 schedule = run at assumed sound promised ⊢
  have housed : Housed run.history := sound.inv
  constructor
  case ends =>
    rintro t scope ⟨scopeIn, asked, _⟩
    obtain ⟨entry, found, _⟩ := thread_of_call asked
    have left : run.program t = some entry.program := by
      rw [Concurrency.Config.program, found]
      rfl
    exact Concurrency.Config.exists_ended left
  case decides =>
    intro t scope answer ensures answered
    have places := places_of_answer sound assumed ensures answered
    cases answer with
    | ok value =>
      obtain ⟨homeId, created, attached, role, rfl, _⟩ := places
      exact .inl ⟨homeId, created, attached, role, answered⟩
    | error error =>
      obtain ⟨rfl, _⟩ := places
      exact .inr rfl
  case sameHome =>
    intro t t' scope scope' homeId homeId' created created' ensures ensures' account ensured ensured'
    obtain ⟨⟨_, home, stored, identity⟩, _⟩ := placed_of_ensured sound assumed ensures ensured
    obtain ⟨⟨_, home', stored', identity'⟩, _⟩ := placed_of_ensured sound assumed ensures' ensured'
    simp only [HomeRow.identity, Prod.mk.injEq] at identity identity'
    cases housed.accounts.eq_of_key stored stored'
      (identity.2.1.trans (account.trans identity'.2.1.symm))
    exact identity.1.symm.trans identity'.1
  case createdOnce =>
    intro t t' scope scope' homeId homeId' ensures ensures' account ensured ensured'
    have creating := (placed_of_ensured sound assumed ensures ensured).2.mp rfl
    have creating' := (placed_of_ensured sound assumed ensures' ensured').2.mp rfl
    obtain ⟨issued, logged, rfl, _, creates⟩ := creates_of_creating promised ensures creating
    obtain ⟨issued', logged', rfl, _, creates'⟩ := creates_of_creating promised ensures' creating'
    exact housed.once issued logged issued' logged' creates (account ▸ creates')
  case created =>
    intro t scope homeId created ensures ensured answered
    obtain ⟨⟨_, home, stored, identity⟩, _⟩ := placed_of_ensured sound assumed ensures ensured
    simp only [HomeRow.identity, Prod.mk.injEq] at identity
    obtain ⟨issued, logged, creates⟩ := housed.origin home stored
    obtain ⟨scope', stamp, command, account⟩ := creates.command
    have registers : Registers scope' issued.command := by
      rw [command]
      exact rfl
    have ensures' := ensures_of_registers promised logged registers
    have sameAccount : scope'.accountId = scope.accountId := account.trans identity.2.1
    have creating : Creating issued.thread run.history :=
      ⟨issued, mem_own.mpr ⟨logged, rfl⟩, _, _, creates⟩
    obtain ⟨answer, told⟩ :=
      Option.ne_none_iff_exists'.mp (answered issued.thread scope' ensures' sameAccount)
    have places := places_of_answer sound assumed ensures' told
    cases answer with
    | error error => exact absurd creating places.2
    | ok value =>
      obtain ⟨homeId', created', attached', role', rfl, registered, creates'⟩ := places
      cases creates'.mpr creating
      obtain ⟨home', stored', identity'⟩ := registered.home
      simp only [HomeRow.identity, Prod.mk.injEq] at identity'
      cases housed.accounts.eq_of_key stored stored'
        (identity.2.1.trans (sameAccount.symm.trans identity'.2.1.symm))
      obtain rfl : homeId' = homeId := identity'.1.symm.trans identity.1
      exact ⟨issued.thread, scope', ensures', sameAccount, attached', role', told⟩
  case attached =>
    intro c member
    obtain ⟨issued, logged, scope, registers, placed⟩ := housed.attached c member
    exact ⟨issued.thread, scope, ensures_of_registers promised logged registers, placed⟩
  case admitted =>
    intro t scope homeId created ensures ensured
    exact (placed_of_ensured sound assumed ensures ensured).1

/-- Two connections of one account that both find no Home: the second loses the race, finds the Home of
the first and joins it.
-/
def Sample.race : List (Action machine Call) :=
  [.spawn (.ensureDefaultHome (Sample.scope "1111" "admin")),
    .spawn (.ensureDefaultHome (Sample.scope "2222" "admin"))]
    ++ List.replicate 4 (.step 0) ++ List.replicate 4 (.step 1)
    ++ List.replicate 20 (.step 0) ++ List.replicate 40 (.step 1)

def Sample.homeIds (n : Nat) : Text :=
  if n = 0 then Sample.homeId else text "home_22222222"

theorem storeCallsOnly_race : StoreCallsOnly Sample.race := by
  intro action mem homeId status same
  subst same
  simp [Sample.race] at mem

theorem ensuresOneHome_race
    : EnsuresOneHome ⟨Sample.sha256Hex, 1⟩
          (reached ⟨Sample.sha256Hex, 1⟩ 0 Sample.homeIds none Sample.race)
        ∧ (reached ⟨Sample.sha256Hex, 1⟩ 0 Sample.homeIds none Sample.race).answer 0
          = some (.ok (.ensured Sample.homeId true true .admin))
        ∧ (reached ⟨Sample.sha256Hex, 1⟩ 0 Sample.homeIds none Sample.race).answer 1
          = some (.ok (.ensured Sample.homeId false true .member)) := by
  refine ⟨ensuresOneHome _ _ _ _ _ storeCallsOnly_race ?_, ?_⟩
  · decide +kernel
  · decide +kernel

end CairnStone.PrivateRealm.D1Store
