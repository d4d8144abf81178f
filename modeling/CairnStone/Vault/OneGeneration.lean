import CairnStone.Concurrency.Instants
import CairnStone.Vault.AuthorityManifest
import CairnStone.Vault.FullyIndexed
import CairnStone.Vault.OrientationReads

/-! Whether a verified orientation shows one accepted state. The chain head and the path heads are read
by statements of their own, each of them twice, and any number of heads may move in between.
-/

namespace CairnStone.Vault

open JavaScript Data Concurrency Protocol List Tables Meets Option History Config

variable {env : Env}
  {request : BootstrapRequest} {compiled : CompiledSections}

inductive HeadCall where
  | commitV2 (body : Value)
  | setPathHead (body : Value)
  | setHead (body : Value)
  | resumeChain (body : Value)
  | agentBootstrap (body : Value)

inductive HeadAnswer where
  | moved (answer : Value)
  | resumed (answer : Except Text Resumed)
  | compiled (answer : Except Text ContextPackage)

/-- A call with its answer. -/
def serve (compiler : Compiler env) : HeadCall → Operation env HeadAnswer
  | .commitV2 body => do
    let answer ← commitV2FromBody body
    .done (.moved answer)
  | .setPathHead body => do
    let answer ← setPathHeadFromBody body
    .done (.moved answer)
  | .setHead body => do
    let answer ← setHeadFromBody body
    .done (.moved answer)
  | .resumeChain body => do
    let answer ← resumeChainFromBody body
    .done (.resumed answer)
  | .agentBootstrap body => do
    let answer ← agentBootstrapFromBody compiler body
    .done (.compiled answer)

variable {promise : Nat → Command → History (vault env) → Prop} {Call : Type} {t : Nat} {call : Call}
  {h : History (vault env)} {chain : Text}

/-- Between the two times that a package read the heads of its chain, other statements may lie. -/
def Packaged (env : Env) (t : Nat) (package : ContextPackage) (h : History (vault env)) : Prop :=
  ∃ heads paths heads' paths' headRow headRow' full again request compiled,
    (headReads env t package.chain heads' paths' ++ headReads env t package.chain heads paths).Sublist
      (h.own t)
    ∧ Captures package.chain heads paths headRow full
    ∧ Captures package.chain heads' paths' headRow' again
    ∧ fingerprintOf again = fingerprintOf full
    ∧ package = compileAuthorityEnvelope env request full compiled ∧ request.chain = package.chain

theorem keeps_resumeChainFromBody {body : Value}
    (free : ∀ cmd h, Harmless cmd → promise t cmd h)
    : Keeps promise t call (resumeChainFromBody body)
        (fun answer h' =>
          ∀ resumed, answer = .ok resumed
            → ∃ chain detail paths since, body.get (text "chain") = .string chain
              ∧ detailOf env (body.get (text "detail")) = some detail
              ∧ orientationFilter env detail body = .ok (paths, since)
              ∧ Reads env t chain paths since (h.own t) detail resumed (h'.own t)) h := by
  unfold resumeChainFromBody
  refine keeps_requiredString_bind (fun chain named _ => ?_)
  cases asked : detailOf env (body.get (text "detail")) with
  | none =>
    change Keeps promise t call (.done _) _ _
    refine keeps_done (fun _ _ resumed denied => ?_)
    cases denied
  | some detail =>
    dsimp only
    cases filter : orientationFilter env detail body with
    | error error =>
      change Keeps promise t call (.done _) _ _
      refine keeps_done (fun _ _ resumed denied => ?_)
      cases denied
    | ok chosen =>
      obtain ⟨paths, since⟩ := chosen
      change Keeps promise t call (resumeChain chain detail paths since) _ _
      refine (keeps_resumeChain free).weaken (fun answer h' _ reads resumed said => ?_)
      exact ⟨chain, detail, paths, since, named, rfl, filter, reads resumed said⟩

theorem keeps_captureAuthoritySnapshot (free : ∀ cmd h, Harmless cmd → promise t cmd h)
    : Keeps promise t call (captureAuthoritySnapshot chain)
        (fun answer h' =>
          ∀ snapshot, answer = .ok snapshot
            → snapshot.fingerprint = fingerprintOf snapshot.resume
              ∧ ∃ heads paths headRow, Captures chain heads paths headRow snapshot.resume
                ∧ h'.own t = headReads env t chain heads paths ++ h.own t) h := by
  unfold captureAuthoritySnapshot
  refine keeps_bind (keeps_resumeChainFromBody free) (fun answer h1 _ reads => ?_)
  refine keeps_done (fun h2 later2 snapshot captured => ?_)
  cases answer with
  | error error => cases captured
  | ok resume =>
    cases captured
    obtain ⟨chain', detail, paths, since, named, asked, _, read⟩ := reads resume rfl
    cases named
    have full : Detail.full = detail := some.inj asked
    subst full
    refine ⟨rfl, ?_⟩
    rw [later2.own]
    generalize h1.own t = own at read ⊢
    cases read with
    | full captures => exact ⟨_, _, _, captures, rfl⟩

/-- The heads are read a second time, after whatever the sections took. -/
theorem keeps_finishPackage {compiler : Compiler env}
    {snapshot instructions : AuthoritySnapshot} {heads paths : Tables} {headRow : ChainHeadRow}
    (anything : ∀ cmd h, promise t cmd h)
    (print : snapshot.fingerprint = fingerprintOf snapshot.resume)
    (captures : Captures request.chain heads paths headRow snapshot.resume)
    (own : (headReads env t request.chain heads paths).Sublist (h.own t))
    : Keeps promise t call (finishPackage compiler request snapshot instructions compiled)
        (fun answer h' => ∀ package, answer = .ok package → Packaged env t package h') h := by
  have free (cmd : Command) (h : History (vault env)) (_ : Harmless cmd)
      : promise t cmd h :=
    anything cmd h
  unfold finishPackage
  refine keeps_bind (keeps_captureAuthoritySnapshot free) (fun answer h1 _ captured => ?_)
  cases answer with
  | error error =>
    refine keeps_done (fun _ _ package denied => ?_)
    cases denied
  | ok again =>
    obtain ⟨print', heads', paths', headRow', captures', own1⟩ := captured again rfl
    by_cases raced : again.fingerprint ≠ snapshot.fingerprint
    · simp only [raced, if_true, ne_eq, not_false_eq_true]
      refine keeps_done (fun _ _ package denied => ?_)
      cases denied
    · simp only [raced, if_false]
      refine keeps_bind (keeps_anything anything) (fun stays h2 onward2 _ => ?_)
      cases stays with
      | false =>
        refine keeps_done (fun _ _ package denied => ?_)
        cases denied
      | true =>
        refine keeps_bind (keeps_anything anything) (fun skills h3 onward3 _ => ?_)
        cases skills with
        | false =>
          refine keeps_done (fun _ _ package denied => ?_)
          cases denied
        | true =>
          refine keeps_done (fun h4 later4 package said => ?_)
          cases said
          have chained : (compileAuthorityEnvelope env request snapshot.resume compiled).chain
              = request.chain := by
            unfold compileAuthorityEnvelope
            split <;> rfl
          have onward := (onward2.trans onward3).trans later4.onward
          have reads := (own.append_left (headReads env t request.chain heads' paths'))
          rw [← own1] at reads
          have since := (own_suffix onward.le t).sublist
          refine ⟨heads, paths, heads', paths', headRow, headRow', snapshot.resume, again.resume,
            request, compiled, ?_, ?_, ?_, ?_, rfl, chained.symm⟩
          · rw [chained]
            exact reads.trans since
          · rw [chained]
            exact captures
          · rw [chained]
            exact captures'
          · rw [← print', ← print]
            exact not_not.mp raced

/-- A package shows what was read of its chain before the sections, and read once more after them. -/
theorem keeps_agentBootstrapFromBody {compiler : Compiler env} {body : Value}
    (anything : ∀ cmd h, promise t cmd h)
    : Keeps promise t call (agentBootstrapFromBody compiler body)
        (fun answer h' => ∀ package, answer = .ok package → Packaged env t package h') h := by
  have free (cmd : Command) (h : History (vault env)) (_ : Harmless cmd)
      : promise t cmd h :=
    anything cmd h
  have compiles (request : BootstrapRequest)
      : Keeps promise t call (compilePackage compiler request)
          (fun answer h' => ∀ package, answer = .ok package → Packaged env t package h') h := by
    unfold compilePackage
    refine keeps_bind (keeps_captureAuthoritySnapshot free) (fun answer h1 _ captured => ?_)
    cases answer with
    | error error =>
      refine keeps_done (fun _ _ package denied => ?_)
      cases denied
    | ok snapshot =>
      obtain ⟨print, heads, paths, headRow, captures, own1⟩ := captured snapshot rfl
      refine keeps_bind (keeps_anything anything) (fun instructions h2 onward2 _ => ?_)
      cases instructions with
      | error error =>
        refine keeps_done (fun _ _ package denied => ?_)
        cases denied
      | ok instructions =>
        refine keeps_bind (keeps_anything anything) (fun compiled h3 onward3 _ => ?_)
        cases compiled with
        | error error =>
          refine keeps_done (fun _ _ package denied => ?_)
          cases denied
        | ok compiled =>
          refine keeps_finishPackage anything print captures ?_
          have first : (headReads env t request.chain heads paths).Sublist (h1.own t) := by
            rw [own1]
            exact sublist_append_left _ _
          exact first.trans (own_suffix (onward2.trans onward3).le t).sublist
  unfold agentBootstrapFromBody
  cases bootstrapRequest compiler body with
  | error error =>
    change Keeps promise t call (.done _) _ _
    refine keeps_done (fun _ _ package denied => ?_)
    cases denied
  | ok request =>
    refine handle (consequence (compiles request) ?_)
    intro answer h1 _ holds
    cases answer with
    | ok answer => exact holds
    | error error =>
      refine keeps_done (fun _ _ package denied => ?_)
      cases denied

def chainHeadHash (chain : Text) (tables : Tables) : Option Text :=
  tables.headAt (.chain chain)

/-- The manifest is that of these path heads, and of no others. -/
structure CommitsTo (env : Env) (manifest : Manifest) (chain head : Text)
    (pathHeads : List OrientedHead)
    : Prop where
  made : manifest = computeAcceptedAuthorityManifest env chain head pathHeads
  only
    : ∀ chain' head' pathHeads',
      (computeAcceptedAuthorityManifest env chain' head' pathHeads').pathHeadsDigest
          = manifest.pathHeadsDigest
        → (pathHeads'.map (·.pointer)).Perm (pathHeads.map (·.pointer))

def ShowsHeads (env : Env) (package : ContextPackage) (pathHeads : List OrientedHead) : Prop :=
  (package.sparse = none ∧ package.pathHeads = pathHeads)
  ∨ ∃ manifest, package.sparse = some manifest
    ∧ CommitsTo env manifest package.chain package.chainHead.hash pathHeads
    ∧ ∀ item ∈ package.pathHeads, item ∈ pathHeads

/-- The thread took a step at an instant at which the chain had this head and such path heads. -/
def AtOneInstant (env : Env) (t : Nat) (h : History (vault env)) (chain head : Text)
    (shown : List OrientedHead → Prop)
    : Prop :=
  ∃ issued ∈ h.own t, chainHeadHash chain issued.before = some head
    ∧ shown (issued.before.orientedHeads chain)

/-- What is verified is one accepted state, if the chain head does not come back to what it was while
the call runs.
-/
structure OneGeneration (t : Nat) (config : Config (vault env) HeadCall Text HeadAnswer) : Prop where
  card
    : ∀ body resumed, config.call t = some (.resumeChain body)
      → detailOf env (body.get (text "detail")) = some .startHere
      → config.answer t = some (.ok (.resumed (.ok resumed)))
      → History.NeverReturns (chainHeadHash resumed.chain) t config.history
      → AtOneInstant env t config.history resumed.chain resumed.canonicalHead.hash
          (fun pathHeads => ∃ manifest, resumed.authority = some manifest
            ∧ CommitsTo env manifest resumed.chain resumed.canonicalHead.hash pathHeads)
  package
    : ∀ body package, config.call t = some (.agentBootstrap body)
      → config.answer t = some (.ok (.compiled (.ok package)))
      → History.NeverReturns (chainHeadHash package.chain) t config.history
      → AtOneInstant env t config.history package.chain package.chainHead.hash
          (ShowsHeads env package)

theorem commitsTo_computed (strong : CollisionFree env.sha256) (chain head : Text)
    (pathHeads : List OrientedHead)
    : CommitsTo env (computeAcceptedAuthorityManifest env chain head pathHeads) chain head pathHeads :=
  ⟨rfl, fun _ _ _ same => pointers_perm_of_digest strong same⟩

theorem chainHeadHash_of_row {tables : Tables} {row : ChainHeadRow}
    (found : tables.chainHead chain = some row)
    : chainHeadHash chain tables = some row.headHash := by
  change (tables.chainHead chain).map (·.headHash) = _
  rw [found]
  rfl

theorem chainHead_between {heads paths heads' paths' : Tables} {headRow headRow' : ChainHeadRow}
    (reads
      : (headReads env t chain heads' paths' ++ headReads env t chain heads paths).Sublist (h.own t))
    (first : heads.chainHead chain = some headRow) (second : heads'.chainHead chain = some headRow')
    (same : headRow'.headHash = headRow.headHash)
    (never : NeverReturns (chainHeadHash chain) t h)
    : chainHeadHash chain paths = some headRow.headHash := by
  have order := (sublist_cons_self _ _).trans reads
  have before := chainHeadHash_of_row first
  have after := chainHeadHash_of_row second
  rw [same, ← before] at after
  exact (never.between order after).trans before

def HasRead (env : Env) (t : Nat) (call : HeadCall) (_ : Tables) (answer : Except Text HeadAnswer)
    (h : History (vault env))
    : Prop :=
  match call, answer with
  | .resumeChain body, .ok (.resumed (.ok resumed)) =>
    ∃ chain detail paths since, detailOf env (body.get (text "detail")) = some detail
      ∧ Reads env t chain paths since [] detail resumed (h.own t)
  | .agentBootstrap _, .ok (.compiled (.ok package)) => Packaged env t package h
  | _, _ => True

/-- Whatever is issued. -/
def AnyCommand (_ : Nat) (_ : Command) (_ : History (vault env)) : Prop :=
  True

theorem meets_serve (compiler : Compiler env) (t : Nat) (call : HeadCall) (start : History (vault env))
    (fresh : start.own t = [])
    : (agreement AnyCommand HeadCall).Meets t call (serve compiler call)
        (HasRead env t call start.state) start := by
  have anything (cmd : Command) (h : History (vault env)) : AnyCommand t cmd h := trivial
  have silent {p : Operation env HeadAnswer} {call : HeadCall}
      (nothing : ∀ answer h, HasRead env t call start.state answer h)
      : (agreement AnyCommand HeadCall).Meets t call p (HasRead env t call start.state) start :=
    consequence (keeps_anything anything) (fun answer h _ _ => nothing answer h)
  cases call with
  | commitV2 body => exact silent (fun _ _ => trivial)
  | setPathHead body => exact silent (fun _ _ => trivial)
  | setHead body => exact silent (fun _ _ => trivial)
  | resumeChain body =>
    refine Meets.map (consequence
      (keeps_resumeChainFromBody (fun cmd h _ => anything cmd h)) ?_)
    intro answer h _ holds
    cases answer with
    | error error => trivial
    | ok answer =>
      cases answer with
      | error error => trivial
      | ok resumed =>
        obtain ⟨chain, detail, paths, since, _, asked, _, reads⟩ := holds resumed rfl
        rw [fresh] at reads
        exact ⟨chain, detail, paths, since, asked, reads⟩
  | agentBootstrap body =>
    refine Meets.map (consequence (keeps_agentBootstrapFromBody anything) ?_)
    intro answer h _ holds
    cases answer with
    | error error => trivial
    | ok answer =>
      cases answer with
      | error error => trivial
      | ok package => exact holds package rfl

theorem showsHeads_envelope (strong : CollisionFree env.sha256) {full : Resumed}
    : ShowsHeads env (compileAuthorityEnvelope env request full compiled) full.pathHeads := by
  unfold compileAuthorityEnvelope
  split
  · refine .inr ⟨_, rfl, commitsTo_computed strong _ _ _, fun item mem => ?_⟩
    exact (mem_filter.mp ((mem_insertionSort _).mp mem)).1
  · exact .inl ⟨rfl, rfl⟩

theorem chainHead_envelope (request : BootstrapRequest) (full : Resumed) (compiled : CompiledSections)
    : (compileAuthorityEnvelope env request full compiled).chainHead = full.canonicalHead := by
  unfold compileAuthorityEnvelope
  split <;> rfl

/-- However heads move, a card and a context package show the accepted state of one instant of their
call, as long as the chain head does not come back to a value that it left meanwhile.
-/
theorem one_generation (compiler : Compiler env) (collisionFree : CollisionFree env.sha256)
    (schedule : List (Action (vault env) HeadCall)) (t : Nat)
    : OneGeneration t ((Config.init Tables.empty).run (serve compiler) schedule) := by
  have initial : Lives AnyCommand (⟨empty, []⟩ : History (vault env)) := Kept.nil
  have sound := (agreement AnyCommand HeadCall).sound
    (fun t call start _ unstarted => meets_serve compiler t call start unstarted) initial schedule
  have read {call : HeadCall} {answer : HeadAnswer}
      (asked : ((init empty).run (serve compiler) schedule).call t = some call)
      (answered
        : ((init empty).run (serve compiler) schedule).answer t = some (.ok answer))
      : HasRead env t call empty (.ok answer)
          ((init empty).run (serve compiler) schedule).history := by
    obtain ⟨entry, found, rfl⟩ := map_eq_some_iff.mp asked
    obtain ⟨entry', found', answers⟩ := bind_eq_some_iff.mp answered
    cases (found.symm.trans found')
    exact sound.post_of_answer found answers
  refine ⟨fun body resumed asked card answered never => ?_, fun body package asked answered never => ?_⟩
  · obtain ⟨chain, detail, paths, since, asking, reads⟩ := read asked answered
    obtain rfl : Detail.startHere = detail := some.inj (card.symm.trans asking)
    generalize own : ((init empty).run (serve compiler) schedule).history.own t = log
      at reads
    cases reads with
    | startHere captures again same named head authority =>
      rename_i heads pathHeads heads' pathHeads' headRow headRow' full
      cases named
      rw [append_nil] at own
      have order : (headReads env t resumed.chain heads' pathHeads'
          ++ headReads env t resumed.chain heads pathHeads).Sublist
            (((init empty).run (serve compiler) schedule).history.own t) := by
        rw [own]
      have between := chainHead_between order captures.found again same never
      have hash : resumed.canonicalHead.hash = headRow.headHash := by rw [head, captures.head]
      refine ⟨⟨t, .readPathHeads resumed.chain, pathHeads⟩, ?_, ?_, ?_⟩
      · rw [own]
        exact mem_append_right _ (.head _)
      · rw [hash]
        exact between
      · refine ⟨_, authority, ?_⟩
        rw [hash, captures.pathHeads]
        exact commitsTo_computed collisionFree _ _ _
  · obtain ⟨heads, paths, heads', paths', headRow, headRow', full, again, request, compiled, reads,
      captures, captures', fingerprints, made, _⟩ := read asked answered
    have same : headRow'.headHash = headRow.headHash := by
      rw [← captures.head, ← captures'.head]
      exact head_of_fingerprint fingerprints
    have between := chainHead_between reads captures.found captures'.found same never
    refine ⟨⟨t, .readPathHeads package.chain, paths⟩, ?_, ?_, ?_⟩
    · exact reads.subset (mem_append_right _ (.head _))
    · rw [made, chainHead_envelope, captures.head, ← made]
      exact between
    · change ShowsHeads env package (paths.orientedHeads package.chain)
      rw [← captures.pathHeads, made]
      exact showsHeads_envelope collisionFree

def headedLine : Value :=
  .literal
    [(text "chain", .string (text "c")), (text "author", .string (text "a")),
      (text "path", .string (text "p")), (text "content", .string (text "x")),
      (text "set_as_head", .bool true)]

def cardRequest : Value :=
  .literal [(text "chain", .string (text "c")), (text "detail", .string (text "start_here"))]

/-- A compiler that adds no sections. -/
def plainCompiler : Compiler quietEnv where
  checked _ := .ok false
  compile _ _ _ := .done (.ok { sections := .null, selectedPaths := [] })
  skillsUnchanged _ := .done true

/-- A commit, and then a card during which the same commit is made again. -/
def cardSchedule : List (Action (vault quietEnv) HeadCall) :=
  .spawn (.commitV2 headedLine) :: List.replicate 10 (.step 0)
    ++ .spawn (.resumeChain cardRequest) :: List.replicate 4 (.step 1)
    ++ .spawn (.commitV2 headedLine) :: List.replicate 4 (.step 2)
    ++ List.replicate 3 (.step 1)

def HeadAnswer.resumed? : Option (Except Text HeadAnswer) → Option Resumed
  | some (.ok (.resumed (.ok orientation))) => some orientation
  | _ => none

theorem HeadAnswer.eq_of_resumed? {answer : Option (Except Text HeadAnswer)} {resumed : Resumed}
    (found : HeadAnswer.resumed? answer = some resumed)
    : answer = some (.ok (.resumed (.ok resumed))) := by
  unfold HeadAnswer.resumed? at found
  split at found
  · rw [some.inj found]
  · cases found

/-- The card shows the accepted state of an instant at which the same head was being set again. -/
theorem one_generation_card
    : ∃ resumed,
      ((Config.init Tables.empty).run (serve plainCompiler) cardSchedule).answer 1
        = some (.ok (.resumed (.ok resumed)))
      ∧ AtOneInstant quietEnv 1
          ((Config.init Tables.empty).run (serve plainCompiler) cardSchedule).history resumed.chain
          resumed.canonicalHead.hash
          (fun pathHeads => ∃ manifest, resumed.authority = some manifest
            ∧ CommitsTo quietEnv manifest resumed.chain resumed.canonicalHead.hash pathHeads) := by
  have generation := one_generation plainCompiler collisionFree_quietEnv cardSchedule 1
  have shown
      : (HeadAnswer.resumed? (((init empty).run (serve plainCompiler)
          cardSchedule).answer 1)).any (·.chain == text "c") = true := by
    decide +kernel
  have never : NeverReturns (chainHeadHash (text "c")) 1
      ((init empty).run (serve plainCompiler) cardSchedule).history := by
    decide +kernel
  obtain ⟨resumed, found, named⟩ := (any_eq_true _ _).mp shown
  have answered := HeadAnswer.eq_of_resumed? found
  have chain : resumed.chain = text "c" := eq_of_beq named
  rw [← chain] at never
  have asked : ((init empty).run (serve plainCompiler) cardSchedule).call 1
      = some (.resumeChain cardRequest) := by
    rw [call_run]
    rfl
  have card : detailOf quietEnv (cardRequest.get (text "detail")) = some .startHere := by decide
  exact ⟨resumed, answered, generation.card cardRequest resumed asked card answered never⟩

end CairnStone.Vault
