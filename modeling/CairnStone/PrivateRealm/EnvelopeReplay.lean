import CairnStone.PrivateRealm.Envelope
import Mathlib.Algebra.Order.Group.Int
import Mathlib.Data.Option.Basic

/-! Replay protection of envelopes in one isolate. A nonce is remembered for longer than its
envelope can be fresh, but a call that read its clock before the expiry may still be waiting for
its signature check when another call evicts the nonce.
-/

namespace CairnStone.PrivateRealm.Envelope

open JavaScript Concurrency List Option Config

/-- The nonce that a call presents. -/
def VerifyCall.nonce (call : VerifyCall) : Value :=
  call.envelope.get (text "nonce")

def VerifyCall.iat (call : VerifyCall) : Option Int :=
  (integer? (call.envelope.get (text "iat"))).map (·.2)

def Inspects (env : Env) (call : VerifyCall) (checked : Checked) : Prop :=
  ∃ callers, allowedCallers env = .ok callers ∧ inspect env callers call = some checked

theorem nonce?_eq_some {value : Value} {s : Text} (valid : nonce? value = some s)
    : value = .string s := by
  cases value <;> simp only [nonce?] at valid <;> try cases valid
  split at valid <;> cases valid
  rfl

theorem Inspects.presented {env : Env} {call : VerifyCall} {fine : Checked}
    (inspects : Inspects env call fine)
    : call.nonce = .string fine.nonce ∧ call.iat = some fine.iatSeconds
      ∧ Fresh env call.nowMs fine.iatSeconds := by
  obtain ⟨callers, _, inspected⟩ := inspects
  unfold inspect at inspected
  split at inspected
  · simp only [bind_eq_bind, bind_eq_some_iff, guard_eq_some'] at inspected
    obtain ⟨_, _, caller, _, _, _, _, _, method, _, nonce, nonceValid, iat, iatValid, _, fresh,
      sig, _, args⟩ := inspected
    split at args
    · split at args
      · cases args
        refine ⟨nonce?_eq_some nonceValid, ?_, fresh⟩
        simp [VerifyCall.iat, iatValid]
      · cases args
    · cases args
  · cases inspected

/-- Two fresh readings for one issue time are closer than the time a nonce is remembered.
Witness: seconds are floored, so each reading is less than a second past its own.
-/
theorem lt_expiry_of_fresh {env : Env} {a b iat : Int} (fresh : Fresh env a iat)
    (fresh' : Fresh env b iat)
    : b < expiry env a := by
  unfold Fresh at fresh fresh'
  rw [abs_le] at fresh fresh'
  unfold expiry
  omega

theorem of_rememberNonce {nonce : Text} {expiresAtMs nowMs : Int} {cache : NonceCache}
    (accepted : (rememberNonce nonce expiresAtMs nowMs cache).1 = true)
    : (∀ entry ∈ cache, entry.1 = nonce → entry.2 ≤ nowMs)
      ∧ (nonce, expiresAtMs) ∈ (rememberNonce nonce expiresAtMs nowMs cache).2 := by
  unfold rememberNonce at accepted ⊢
  dsimp only at accepted ⊢
  split at accepted
  · cases accepted
  · rename_i unseen
    split at accepted
    · cases accepted
    · rename_i room
      rw [if_neg unseen, if_neg room]
      refine ⟨fun entry seen same => ?_, mem_append_right _ (.head _)⟩
      by_contra live
      apply unseen
      rw [List.any_eq_true]
      refine ⟨entry, mem_filter.mpr ⟨seen, ?_⟩, by simp [same]⟩
      simpa using live

theorem mem_rememberNonce {nonce : Text} {expiresAtMs nowMs : Int} {cache : NonceCache}
    {entry : Text × Int} (seen : entry ∈ cache) (live : nowMs < entry.2)
    : entry ∈ (rememberNonce nonce expiresAtMs nowMs cache).2 := by
  have kept : entry ∈ evict cache nowMs := mem_filter.mpr ⟨seen, by simpa using live⟩
  unfold rememberNonce
  dsimp only
  split
  · exact kept
  · split
    · exact kept
    · exact mem_append_left _ kept

section Stages

variable (hmacVerify : Text → Text → Text → Bool)

/-- Where a call of `verifyEnvelope` can stand. -/
inductive Stage (env : Env) (call : VerifyCall) : Verification hmacVerify → Prop where
  | failed (error : Failure) : Stage env call (.fail error)
  | waiting (checked : Checked) (keys : List Text) (valid : Bool)
      (inspects : Inspects env call checked)
      : Stage env call (awaitSignatures hmacVerify env call checked keys valid)
  | accepted (checked : Checked) (verified : Verified) (inspects : Inspects env call checked)
      : Stage env call (.done verified)

variable {hmacVerify}

variable (hmacVerify) in
/-- A call starts out denied or waiting for a signature. -/
theorem stage_verifyEnvelope (env : Env) (call : VerifyCall)
    : Stage hmacVerify env call (verifyEnvelope hmacVerify env call)
      ∧ ∀ verified, verifyEnvelope hmacVerify env call ≠ .done verified := by
  unfold verifyEnvelope
  cases keysFound : configuredKeys env with
  | error error => exact ⟨.failed error, fun _ done => by cases done⟩
  | ok keys =>
    cases callersFound : allowedCallers env with
    | error error => exact ⟨.failed error, fun _ done => by cases done⟩
    | ok callers =>
      simp only [Program.ofExcept, Program.bind_eq, Program.done_bind]
      cases inspected : inspect env callers call with
      | none => exact ⟨.failed _, fun _ done => by cases done⟩
      | some fine =>
        refine ⟨.waiting fine keys false ⟨callers, callersFound, inspected⟩, ?_⟩
        intro verified done
        cases keys <;> cases done

variable {program : Verification hmacVerify}

/-- The steps of a call: signature checks, and one use of the cache whose answer decides. -/
theorem Stage.cases {env : Env} {call : VerifyCall} (stage : Stage hmacVerify env call program)
    : (∃ error, program = .fail error)
      ∨ (∃ verified, program = .done verified)
      ∨ (∃ secret sig data next, program = .exec (.verify secret sig data) next
        ∧ ∀ reply, Stage hmacVerify env call (next reply)
          ∧ ∀ verified, next reply ≠ .done verified)
      ∨ ∃ fine next, Inspects env call fine
        ∧ program = .exec (.remember fine.nonce (expiry env call.nowMs) call.nowMs) next
        ∧ Stage hmacVerify env call (next true)
        ∧ (∃ verified, next true = .done verified) ∧ ∃ error, next false = .fail error := by
  cases stage with
  | failed error => exact .inl ⟨error, rfl⟩
  | accepted fine verified => exact .inr (.inl ⟨verified, rfl⟩)
  | waiting fine keys valid inspects =>
    cases keys with
    | nil =>
      cases valid with
      | false => exact .inl ⟨_, rfl⟩
      | true =>
        exact .inr (.inr (.inr ⟨fine, _, inspects, rfl,
          .accepted fine _ inspects, ⟨_, rfl⟩, ⟨_, rfl⟩⟩))
    | cons secret rest =>
      refine .inr (.inr (.inl ⟨secret, _, _, _, rfl, fun reply => ?_⟩))
      refine ⟨.waiting fine rest (valid || reply) inspects, fun verified done => ?_⟩
      cases rest with
      | cons => cases done
      | nil =>
        change acceptOnce hmacVerify env call fine (valid || reply) = .done verified
          at done
        unfold acceptOnce at done
        split at done <;> cases done

/-- An accepted call passed the checks before the signature. -/
theorem Stage.inspects {env : Env} {call : VerifyCall} {verified : Verified}
    (stage : Stage hmacVerify env call program) (done : program = .done verified)
    : ∃ fine, Inspects env call fine := by
  cases stage with
  | failed error => cases done
  | waiting fine _ _ inspects => exact ⟨fine, inspects⟩
  | accepted fine _ inspects => exact ⟨fine, inspects⟩

end Stages

section Runs

variable (hmacVerify : Text → Text → Text → Bool)
  {t : Nat} {nonce : Text} {instant : Int}
  {entry : Thread (isolate hmacVerify) VerifyCall Failure Verified}
  {program : Verification hmacVerify} {history : History (isolate hmacVerify)} {env : Env}

abbrev Isolate := Config (isolate hmacVerify) VerifyCall Failure Verified

abbrev cache (config : Isolate hmacVerify) : NonceCache :=
  config.state

/-- The isolate after a schedule, with a fixed environment and an empty cache at first. -/
def reached (env : Env) (schedule : List (Action (isolate hmacVerify) VerifyCall))
    : Isolate hmacVerify :=
  (Config.init ([] : NonceCache)).run (verifyEnvelope hmacVerify env) schedule

variable {hmacVerify}

/-- The clock readings never decrease in the order in which the calls start. -/
def StartOrder (schedule : List (Action (isolate hmacVerify) VerifyCall)) : Prop :=
  ((schedule.filterMap Config.spawned).map VerifyCall.nowMs).Pairwise (· ≤ ·)

instance (schedule : List (Action (isolate hmacVerify) VerifyCall))
    : Decidable (StartOrder schedule) :=
  inferInstanceAs (Decidable (List.Pairwise _ _))

/-- The call was accepted. -/
def Accepted (config : Isolate hmacVerify) (thread : Nat) : Prop :=
  ∃ verified, config.answer thread = some (.ok verified)

instance (config : Isolate hmacVerify) (thread : Nat) : Decidable (Accepted config thread) :=
  match answered : config.answer thread with
  | some (.ok verified) => isTrue ⟨verified, answered⟩
  | some (.error _) => isFalse (fun ⟨_, accepted⟩ => by simp [answered] at accepted)
  | none => isFalse (fun ⟨_, accepted⟩ => by simp [answered] at accepted)

/-- No two calls that present one nonce with one issue time are both accepted. -/
def NoReplay (config : Isolate hmacVerify) : Prop :=
  ∀ i j a b, i ≠ j → config.call i = some a → config.call j = some b
    → a.nonce = b.nonce → a.iat = b.iat → Accepted config i → ¬ Accepted config j

def Awaited (config : Isolate hmacVerify) (nonce : Text) (instant : Int) : Prop :=
  ∃ entry ∈ config.threads,
    entry.answer.isNone ∧ entry.call.nonce.string? = some nonce ∧ entry.call.nowMs < instant

instance (config : Isolate hmacVerify) (nonce : Text) (instant : Int)
    : Decidable (Awaited config nonce instant) :=
  inferInstanceAs (Decidable (∃ entry ∈ config.threads, _))

/-- If the thread's next step is `rememberNonce`, then it evicts no entry that a call which
read its clock before the entry's expiry still awaits.
-/
def EvictsNoAwaited (config : Isolate hmacVerify) (thread : Nat) : Prop :=
  match config.pending thread with
  | some (.remember _ _ nowMs) =>
    ∀ entry ∈ cache hmacVerify config, entry.2 ≤ nowMs → ¬ Awaited config entry.1 entry.2
  | _ => True

instance (config : Isolate hmacVerify) (thread : Nat)
    : Decidable (EvictsNoAwaited config thread) := by
  unfold EvictsNoAwaited
  exact match config.pending thread with
  | some (.remember _ _ nowMs) => List.decidableBAll _ _
  | some (.verify _ _ _) => isTrue trivial
  | none => isTrue trivial

/-- The nonce may be forgotten: the instant has passed for some call, and no call that read
its clock earlier is left.
-/
def Outlived (config : Isolate hmacVerify) (nonce : Text) (instant : Int) : Prop :=
  (∃ call ∈ config.threads.map Thread.call, instant ≤ call.nowMs)
  ∧ ¬ Awaited config nonce instant

/-- What holds as long as no awaited nonce is evicted: an accepted nonce is remembered until
it is outlived, and calls that were accepted with one nonce lie an expiry apart.
-/
structure Guarded (env : Env) (config : Isolate hmacVerify) : Prop where
  staged
    : ∀ {i : Nat} {entry}, config.threads[i]? = some entry
      → Stage hmacVerify env entry.call entry.program
  accounted
    : ∀ {i : Nat} {entry verified nonce}, config.threads[i]? = some entry
      → entry.program = .done verified → entry.call.nonce = .string nonce
      → (nonce, expiry env entry.call.nowMs) ∈ cache hmacVerify config
        ∨ Outlived config nonce (expiry env entry.call.nowMs)
  apart
    : ∀ {i j : Nat} {a b verified verified'}, i ≠ j → config.threads[i]? = some a
      → config.threads[j]? = some b → a.program = .done verified → b.program = .done verified'
      → a.call.nonce = b.call.nonce
      → expiry env a.call.nowMs ≤ b.call.nowMs ∨ expiry env b.call.nowMs ≤ a.call.nowMs

variable {config : Isolate hmacVerify}

theorem Awaited.of_set (found : config.threads[t]? = some entry)
    (running : entry.answer = none)
    (awaited
      : Awaited { history, threads := config.threads.set t { entry with program } } nonce instant)
    : Awaited config nonce instant := by
  obtain ⟨other, mem, unanswered, presents, early⟩ := awaited
  rcases mem_or_eq_of_mem_set mem with old | rfl
  · exact ⟨other, old, unanswered, presents, early⟩
  · exact ⟨entry, mem_of_getElem? found, by simp [running], presents, early⟩

theorem Outlived.set (found : config.threads[t]? = some entry) (running : entry.answer = none)
    (program : Verification hmacVerify) (history : History (isolate hmacVerify))
    (outlived : Outlived config nonce instant)
    : Outlived { history, threads := config.threads.set t { entry with program } } nonce
        instant := by
  obtain ⟨⟨call, mem, late⟩, unawaited⟩ := outlived
  refine ⟨⟨call, ?_, late⟩, fun awaited => unawaited (awaited.of_set found running)⟩
  have same : (config.threads.map Thread.call)[t]? = some entry.call := by simp [found]
  obtain ⟨bound, value⟩ := List.getElem?_eq_some_iff.mp same
  rw [map_set]
  change call ∈ (config.threads.map Thread.call).set t entry.call
  rwa [← value, set_getElem_self]

theorem Outlived.spawn {call : VerifyCall}
    (latest : ∀ prior ∈ config.threads.map Thread.call, prior.nowMs ≤ call.nowMs)
    (outlived : Outlived config nonce instant)
    : Outlived (config.act (verifyEnvelope hmacVerify env) (.spawn call)) nonce instant := by
  obtain ⟨⟨known, mem, late⟩, unawaited⟩ := outlived
  refine ⟨⟨known, by simp [Config.act, mem], late⟩, ?_⟩
  rintro ⟨other, here, unanswered, presents, early⟩
  rcases mem_append.mp here with old | new
  · exact unawaited ⟨other, old, unanswered, presents, early⟩
  · cases mem_singleton.mp new
    have := latest known mem
    have early : call.nowMs < instant := early
    omega

/-- A new call is not accepted yet, and it leaves what the others are owed. -/
theorem Guarded.spawn (safe : Guarded env config) {call : VerifyCall}
    (latest : ∀ prior ∈ config.threads.map Thread.call, prior.nowMs ≤ call.nowMs)
    : Guarded env (config.act (verifyEnvelope hmacVerify env) (.spawn call)) := by
  obtain ⟨stage, unfinished⟩ := stage_verifyEnvelope hmacVerify env call
  have known {i : Nat} {entry : Thread (isolate hmacVerify) VerifyCall Failure Verified}
      (found
        : (config.act (verifyEnvelope hmacVerify env) (.spawn call)).threads[i]? = some entry)
      : config.threads[i]? = some entry
        ∨ entry = ⟨call, config.history.state, verifyEnvelope hmacVerify env call⟩ := by
    rcases Nat.lt_or_ge i config.threads.length with old | new
    · exact .inl (by simpa [Config.act, getElem?_append_left old] using found)
    · refine .inr (mem_singleton.mp ?_)
      rw [Config.act, getElem?_append_right new] at found
      exact mem_of_getElem? found
  refine ⟨fun found => ?_, fun found done presents => ?_, fun different at_i at_j done done' => ?_⟩
  · rcases known found with old | rfl
    · exact safe.staged old
    · exact stage
  · rcases known found with old | rfl
    · rcases safe.accounted old done presents with seen | outlived
      · exact .inl seen
      · exact .inr (outlived.spawn latest)
    · exact absurd done (unfinished _)
  · rcases known at_i with old | rfl
    · rcases known at_j with old' | rfl
      · exact safe.apart different old old' done done'
      · exact absurd done' (unfinished _)
    · exact absurd done (unfinished _)

/-- One step of a thread keeps the guard if every entry that it drops from the cache is
outlived, and if its acceptance enters its nonce after every earlier entry has expired.
Witness: an accepted nonce is either still entered or outlived by the accepting call.
-/
theorem Guarded.advance (safe : Guarded env config)
    (found : config.threads[t]? = some entry) (running : entry.answer = none)
    {kept : NonceCache} (state : history.state = kept)
    (stage : Stage hmacVerify env entry.call program)
    (keeps
      : ∀ nonce instant, (nonce, instant) ∈ cache hmacVerify config
        → (nonce, instant) ∈ kept ∨ Outlived config nonce instant)
    (enters
      : ∀ verified nonce, program = .done verified → entry.call.nonce = .string nonce
        → (nonce, expiry env entry.call.nowMs) ∈ kept
          ∧ ∀ instant, (nonce, instant) ∈ cache hmacVerify config → instant ≤ entry.call.nowMs)
    : Guarded env { history, threads := config.threads.set t { entry with program } } := by
  have cases_set {i : Nat} {other : Thread (isolate hmacVerify) VerifyCall Failure Verified}
      (at_i : (config.threads.set t { entry with program })[i]? = some other)
      : (i = t ∧ other = { entry with program }) ∨ config.threads[i]? = some other := by
    rw [getElem?_set] at at_i
    split at at_i
    · rename_i same
      split at at_i
      · exact .inl ⟨same.symm, (some.inj at_i).symm⟩
      · cases at_i
    · exact .inr at_i
  have late {verified verified' : Verified} {i : Nat}
      {other : Thread (isolate hmacVerify) VerifyCall Failure Verified}
      (done : program = .done verified) (at_i : config.threads[i]? = some other)
      (done' : other.program = .done verified') (same : other.call.nonce = entry.call.nonce)
      : expiry env other.call.nowMs ≤ entry.call.nowMs := by
    obtain ⟨fine, inspects⟩ := stage.inspects done
    have presents := inspects.presented.1
    rcases safe.accounted at_i done' (same.trans presents) with seen | ⟨_, unawaited⟩
    · exact (enters _ _ done presents).2 _ seen
    · by_contra early
      exact unawaited ⟨entry, mem_of_getElem? found, by simp [running],
        by simp [presents], by omega⟩
  refine ⟨fun at_i => ?_, fun at_i done presents => ?_, fun different at_i at_j done done' same => ?_⟩
  · rcases cases_set at_i with ⟨_, rfl⟩ | old
    · exact stage
    · exact safe.staged old
  · rw [cache, Config.state, state]
    rcases cases_set at_i with ⟨_, rfl⟩ | old
    · exact .inl (enters _ _ done presents).1
    · rcases safe.accounted old done presents with seen | outlived
      · rcases keeps _ _ seen with still | outlived
        · exact .inl still
        · exact .inr (outlived.set found running _ _)
      · exact .inr (outlived.set found running _ _)
  · rcases cases_set at_i with ⟨rfl, rfl⟩ | old
    · rcases cases_set at_j with ⟨rfl, _⟩ | old'
      · exact absurd rfl different
      · exact .inr (late done old' done' same.symm)
    · rcases cases_set at_j with ⟨rfl, rfl⟩ | old'
      · exact .inl (late done' old done same)
      · exact safe.apart different old old' done done' same

/-- A step that evicts no awaited nonce keeps the guard.
Witness: case analysis on the stage of the stepping call; only `rememberNonce` changes the
cache, and what it evicts is outlived by its own call.
-/
theorem Guarded.step (safe : Guarded env config) (evicts : EvictsNoAwaited config t)
    : Guarded env (config.advance t) := by
  unfold Config.advance
  cases found : config.threads[t]? with
  | none => exact safe
  | some entry =>
    rcases (safe.staged found).cases with
      ⟨error, failed⟩ | ⟨verified, done⟩ | ⟨secret, sig, data, next, verifying, later⟩
      | ⟨fine, next, inspects, remembering, stage, ⟨verified, accepts⟩, ⟨error, denies⟩⟩
    · simpa only [failed] using safe
    · simpa only [done] using safe
    · simp only [verifying]
      have running : entry.answer = none := by simp only [Thread.answer, verifying]
      refine safe.advance found running rfl (later _).1
        (fun _ _ seen => .inl seen) (fun verified _ done _ => ?_)
      exact absurd done ((later _).2 verified)
    · have pending
          : config.pending t
            = some (.remember fine.nonce (expiry env entry.call.nowMs)
                entry.call.nowMs) := by
        simp [Config.pending, found, Thread.pending, remembering]
      have running : entry.answer = none := by simp only [Thread.answer, remembering]
      have presents := inspects.presented.1
      simp only [remembering]
      refine safe.advance found running rfl ?_ (fun nonce instant seen => ?_)
        (fun verified nonce done presented => ?_)
      · change Stage hmacVerify env entry.call
          (next (rememberNonce fine.nonce _ _ config.state).1)
        cases (rememberNonce fine.nonce _ _ config.state).1 with
        | true => exact stage
        | false => exact denies ▸ .failed error
      · rcases Int.lt_or_le entry.call.nowMs instant with live | expired
        · exact .inl (mem_rememberNonce seen live)
        · unfold EvictsNoAwaited at evicts
          rw [pending] at evicts
          refine .inr ⟨⟨entry.call, ?_, expired⟩, evicts _ seen expired⟩
          exact List.mem_map_of_mem (mem_of_getElem? found)
      · have accepted
            : (rememberNonce fine.nonce (expiry env entry.call.nowMs) entry.call.nowMs
                config.state).1 = true := by
          by_contra refused
          rw [Bool.not_eq_true] at refused
          change next (rememberNonce fine.nonce _ _ config.state).1 = .done verified at done
          rw [refused, denies] at done
          cases done
        obtain ⟨expired, entered⟩ := of_rememberNonce accepted
        obtain rfl : fine.nonce = nonce := Value.string.inj (presents.symm.trans presented)
        exact ⟨entered, fun instant seen => expired _ seen rfl⟩

/-- The guard holds in every state of a run that evicts no awaited nonce.
Witness: induction on the schedule.
-/
theorem guarded_reached (env : Env) (schedule : List (Action (isolate hmacVerify) VerifyCall))
    (ordered : StartOrder schedule)
    (evicts
      : ∀ before t after, schedule = before ++ .step t :: after
        → EvictsNoAwaited (reached hmacVerify env before) t)
    : Guarded env (reached hmacVerify env schedule) := by
  induction schedule using List.reverseRecOn with
  | nil => exact ⟨fun found => by simp [reached, Config.init] at found,
      fun found => by simp [reached, Config.init] at found,
      fun _ found => by simp [reached, Config.init] at found⟩
  | append_singleton before action ih =>
    have prior : StartOrder before := by
      unfold StartOrder at ordered
      rw [filterMap_append, map_append, pairwise_append] at ordered
      exact ordered.1
    have safe := ih prior (fun first t after split =>
      evicts first t (after ++ [action]) (by rw [split, append_assoc, cons_append]))
    rw [reached, run_append, run_cons, run_nil]
    cases action with
    | disturb event => exact event.elim
    | step t => exact safe.step (evicts before t [] rfl)
    | spawn call =>
      refine safe.spawn (fun known mem => ?_)
      rw [reached, calls_run] at mem
      unfold StartOrder at ordered
      rw [filterMap_append, map_append, pairwise_append] at ordered
      refine ordered.2.2 _ (List.mem_map_of_mem ?_) _ (by simp [Config.spawned])
      simpa [Config.init] using mem

/-- Calls that were accepted under the guard with one nonce and one issue time are one call.
Witness: both are fresh, so neither reads its clock an expiry after the other.
-/
theorem Guarded.noReplay (safe : Guarded env config)
    : NoReplay config := by
  have accepted {i : Nat} {call : VerifyCall} (asked : config.call i = some call)
      (accepted : Accepted config i)
      : ∃ entry verified, config.threads[i]? = some entry ∧ entry.call = call
        ∧ entry.program = .done verified := by
    obtain ⟨verified, said⟩ := accepted
    obtain ⟨entry, found, ended⟩ := bind_eq_some_iff.mp said
    refine ⟨entry, verified, found, by simpa [Config.call, found] using asked, ?_⟩
    unfold Thread.answer at ended
    split at ended <;> simp_all
  intro i j a b different asked asked' nonce iat first second
  obtain ⟨entry, verified, found, rfl, done⟩ := accepted asked first
  obtain ⟨entry', verified', found', rfl, done'⟩ := accepted asked' second
  obtain ⟨fine, inspects⟩ := (safe.staged found).inspects done
  obtain ⟨checked', inspects'⟩ := (safe.staged found').inspects done'
  obtain ⟨_, issued, fresh⟩ := inspects.presented
  obtain ⟨_, issued', fresh'⟩ := inspects'.presented
  have same : fine.iatSeconds = checked'.iatSeconds :=
    some.inj (issued.symm.trans (iat.trans issued'))
  rw [same] at fresh
  rcases safe.apart different found found' done done' nonce with before | after
  · have := lt_expiry_of_fresh fresh fresh'
    omega
  · have := lt_expiry_of_fresh fresh' fresh
    omega

/-- No envelope is accepted twice in a run that evicts no awaited nonce. -/
theorem noReplay_of_evictsNoAwaited (hmacVerify : Text → Text → Text → Bool) (env : Env)
    (schedule : List (Action (isolate hmacVerify) VerifyCall)) (ordered : StartOrder schedule)
    (evicts
      : ∀ before t after, schedule = before ++ .step t :: after
        → EvictsNoAwaited (reached hmacVerify env before) t)
    : NoReplay (reached hmacVerify env schedule) :=
  (guarded_reached env schedule ordered evicts).noReplay

end Runs

/-- One key, one caller, and the default skew of a minute. -/
def minimalEnv : Env where
  PRIVATE_GATEWAY_HMAC_KEY := .string (List.replicate 32 0x6B)
  PRIVATE_GATEWAY_HMAC_KEY_PREVIOUS := .undefined
  PRIVATE_ALLOWED_CALLERS := .string (text "gw")
  PRIVATE_ENVELOPE_MAX_SKEW_SECONDS := none

def presentedAt (nonce : CodeUnit) (iat : Number) (nowMs : Int) : VerifyCall where
  envelope := .object .objectPrototype
    [(text "v", .number (.ofNat 1 (by norm_num))), (text "caller", .string (text "gw")),
      (text "method", .string (text "can")), (text "args", .array []),
      (text "iat", .number iat), (text "nonce", .string (List.replicate 16 nonce)),
      (text "sig", .string (List.replicate 64 0x30))]
  platformCaller := .null
  nowMs

abbrev everySignature (_ _ _ : Text) : Bool := true

/-- An envelope of the first minute is presented at once, and again a second later. -/
def presentedTwice : List (Action (isolate everySignature) VerifyCall) :=
  let envelope := presentedAt 0x61 (.ofNat 60 (by norm_num))
  [.spawn (envelope 0), .step 0, .step 0, .spawn (envelope 1000), .step 1, .step 1]

theorem noReplay_presentedTwice
    : Accepted (reached everySignature minimalEnv presentedTwice) 0
      ∧ NoReplay (reached everySignature minimalEnv presentedTwice) := by
  refine ⟨by decide +kernel, noReplay_of_evictsNoAwaited _ _ _ (by decide) ?_⟩
  intro before t after split
  rcases before with _ | ⟨_, _ | ⟨_, _ | ⟨_, _ | ⟨_, _ | ⟨_, _ | ⟨_, _ | _⟩⟩⟩⟩⟩⟩ <;> cases split
  all_goals decide +kernel

/-- The same envelope is presented a second time just before its nonce expires, and another
call evicts the nonce while the signature of the second presentation is being checked.
-/
def evictedMeanwhile : List (Action (isolate everySignature) VerifyCall) :=
  let envelope := presentedAt 0x61 (.ofNat 60 (by norm_num))
  [.spawn (envelope 0), .step 0, .step 0, .spawn (envelope 120999),
    .spawn (presentedAt 0x62 (.ofNat 121 (by norm_num)) 121000), .step 2, .step 2,
    .step 1, .step 1]

theorem replay_evictedMeanwhile
    : StartOrder evictedMeanwhile
      ∧ ¬ NoReplay (reached everySignature minimalEnv evictedMeanwhile) := by
  let envelope := presentedAt 0x61 (.ofNat 60 (by norm_num))
  refine ⟨by decide, fun noReplay => ?_⟩
  exact noReplay 0 1 (envelope 0) (envelope 120999) (by decide) (call_run ..)
    (call_run ..) rfl rfl (by decide +kernel) (by decide +kernel)

end CairnStone.PrivateRealm.Envelope
