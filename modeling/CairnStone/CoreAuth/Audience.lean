import CairnStone.CoreAuth.UserAuth

/-! Audiences: the resource that an authorization stores, and the resources against which the gate of the
Core tools and the bridge to Messages validate a token.
-/

namespace CairnStone.CoreAuth

open JavaScript Data Concurrency List

variable (env : Env)
  {resource : Text}

/-- The audiences that `validateAccessToken` accepts. -/
def allowedAudiences (args : ValidateArgs) : List Text :=
  if args.acceptedResources ≠ [] then args.acceptedResources
  else [(truthy args.expectedResource).getD (canonicalCoreAuthResource env args.url)]

def gateArgs (token : Text) (url : Url) : ValidateArgs where
  accessToken := token
  expectedResource := some (canonicalCoreAuthResource env (some url))
  acceptedResources := []
  url := some url

def MESSAGES_RESOURCE_ALLOWLIST : List Text :=
  [CANONICAL_MESSAGES_RESOURCE, CANONICAL_MESSAGES_RESOURCE ++ text "/mcp"]

def bridgeArgs (token requestedRaw : Text) : ValidateArgs where
  accessToken := token
  expectedResource := canonicalizeMessagesResource requestedRaw
  acceptedResources := MESSAGES_RESOURCE_ALLOWLIST
  url := none

variable {env}

section

variable (env) (params : AuthorizeParams) (url : Url)

/-- The resource of an authorization: the parameter, or the deployment's own. -/
def requestedResource : Text :=
  (truthy (params.resource.map trim)).getD (canonicalCoreAuthResource env (some url))

def requestedClass : Option ResourceClass :=
  resolveResourceClass env (requestedResource env params url) url

def storedAudience : Text :=
  canonicalizeOauthResource (requestedResource env params url)

/-- A token with this audience is accepted where the class of its authorization says, and nowhere else. -/
structure AudiencesAgree (audience : Text) : Prop where
  core
    : requestedClass env params url = some .core
      → ∀ token url', url'.origin = url.origin
        → audience ∈ allowedAudiences env (gateArgs env token url')
  messages : requestedClass env params url = some .messages → audience = CANONICAL_MESSAGES_RESOURCE
  coreOnly
    : requestedClass env params url = some .core
      → ∀ token requestedRaw, isCanonicalMessagesResource requestedRaw = true
        → audience ∉ allowedAudiences env (bridgeArgs token requestedRaw)
  messagesOnly
    : requestedClass env params url = some .messages
      → ∀ token url', url'.origin = url.origin
        → audience ∉ allowedAudiences env (gateArgs env token url')

/-- The resource is spelled as the gate expects it. A Core resource is the gate's own, up to white space at
its ends, and no spelling of the Messages resource; and where a Messages resource is requested, the gate does
not expect Messages.
-/
def SpelledAsEnforced : Prop :=
  match requestedClass env params url with
  | some .core =>
    trim (requestedResource env params url) = canonicalCoreAuthResource env (some url)
    ∧ isCanonicalMessagesResource (requestedResource env params url) = false
  | some .messages => canonicalCoreAuthResource env (some url) ≠ CANONICAL_MESSAGES_RESOURCE
  | none => True

end

variable {params : AuthorizeParams} {url : Url}

theorem getD_truthy_self (value : Text) : (truthy (some value)).getD value = value := by
  unfold truthy
  by_cases empty : value = []
  · simp [Option.filter, empty]
  · simp [Option.filter, empty]

theorem allowedAudiences_gateArgs {token : Text} {url' : Url} (origin : url'.origin = url.origin)
    : allowedAudiences env (gateArgs env token url')
      = [canonicalCoreAuthResource env (some url)] := by
  have same : canonicalCoreAuthResource env (some url') = canonicalCoreAuthResource env (some url) := by
    simp only [canonicalCoreAuthResource, Option.map_some, origin]
  unfold allowedAudiences gateArgs
  rw [if_neg (fun nonempty => nonempty rfl), getD_truthy_self, same]

theorem isCanonicalMessagesResource_trim (value : Text)
    : isCanonicalMessagesResource (trim value) = isCanonicalMessagesResource value := by
  have same : normalizeRegisteredResource (trim value) = normalizeRegisteredResource value := by
    unfold normalizeRegisteredResource
    rw [trim_trim]
  unfold isCanonicalMessagesResource
  rw [same]

/-- Nothing but white space is no registered resource. -/
theorem trim_ne_nil_of_class {klass : ResourceClass}
    (known : resolveResourceClass env resource url = some klass)
    : trim resource ≠ [] := by
  intro blank
  have none : normalizeRegisteredResource resource = [] := by
    simp [normalizeRegisteredResource, blank]
  have noMessages : isCanonicalMessagesResource resource = false := by
    unfold isCanonicalMessagesResource
    rw [none]
    decide
  simp [resolveResourceClass, isCanonicalCoreResource, none, noMessages] at known

theorem isCanonicalMessagesResource_of_allowed {audience : Text}
    (allowed : audience ∈ MESSAGES_RESOURCE_ALLOWLIST)
    : isCanonicalMessagesResource audience = true := by
  rcases mem_cons.mp allowed with rfl | rest
  · decide +kernel
  · rw [mem_singleton.mp rest]
    decide +kernel

/-- Both spellings of the Messages resource are stored as one audience. -/
theorem canonicalizeOauthResource_of_messages
    (messages : isCanonicalMessagesResource resource = true) (visible : trim resource ≠ [])
    : canonicalizeOauthResource resource = CANONICAL_MESSAGES_RESOURCE := by
  simp [canonicalizeOauthResource, canonicalizeMessagesResource, visible, messages]

/-- Any other resource is stored as it is, without white space at its ends. -/
theorem canonicalizeOauthResource_of_other
    (other : isCanonicalMessagesResource resource = false) (visible : trim resource ≠ [])
    : canonicalizeOauthResource resource = trim resource := by
  simp [canonicalizeOauthResource, canonicalizeMessagesResource, visible, other]

theorem messages_of_class (klass : resolveResourceClass env resource url = some .messages)
    : isCanonicalMessagesResource resource = true := by
  unfold resolveResourceClass at klass
  split at klass
  · cases klass
  · split at klass
    · assumption
    · cases klass

/-- The stored audience of an authorization is accepted where it should be, exactly if its resource is
spelled as the gate expects it. Witness: a Core resource that is a spelling of Messages is stored as Messages;
every other one is stored as it is spelled.
-/
theorem audiencesAgree_storedAudience {klass : ResourceClass}
    (known : requestedClass env params url = some klass)
    : AudiencesAgree env params url (storedAudience env params url)
      ↔ SpelledAsEnforced env params url := by
  have visible := trim_ne_nil_of_class known
  unfold SpelledAsEnforced
  cases klass with
  | core =>
    simp only [known]
    cases messages : isCanonicalMessagesResource (requestedResource env params url) with
    | true =>
      have stored : storedAudience env params url = CANONICAL_MESSAGES_RESOURCE :=
        canonicalizeOauthResource_of_messages messages visible
      refine iff_of_false (fun agree => ?_) (fun spelled => ?_)
      · refine agree.coreOnly known [] (requestedResource env params url) messages ?_
        rw [stored]
        exact .head _
      · cases spelled.2
    | false =>
      have stored : storedAudience env params url = trim (requestedResource env params url) :=
        canonicalizeOauthResource_of_other messages visible
      rw [stored]
      refine ⟨fun agree => ⟨?_, rfl⟩, fun spelled => ?_⟩
      · have allowed := agree.core known [] url rfl
        rw [allowedAudiences_gateArgs rfl] at allowed
        exact mem_singleton.mp allowed
      · refine ⟨?_, ?_, ?_, ?_⟩
        · intro _ token url' origin
          rw [allowedAudiences_gateArgs origin]
          exact mem_singleton.mpr spelled.1
        · intro never
          cases known.symm.trans never
        · intro _ token requestedRaw _ allowed
          have spelling := isCanonicalMessagesResource_of_allowed allowed
          rw [isCanonicalMessagesResource_trim, messages] at spelling
          cases spelling
        · intro never
          cases known.symm.trans never
  | messages =>
    simp only [known]
    have stored : storedAudience env params url = CANONICAL_MESSAGES_RESOURCE :=
      canonicalizeOauthResource_of_messages (messages_of_class known) visible
    rw [stored]
    refine ⟨fun agree same => ?_, fun apart => ?_⟩
    · refine agree.messagesOnly known [] url rfl ?_
      rw [allowedAudiences_gateArgs rfl, same]
      exact mem_singleton_self _
    · refine ⟨?_, fun _ => rfl, ?_, ?_⟩
      · intro never
        cases known.symm.trans never
      · intro never
        cases known.symm.trans never
      · intro _ token url' origin allowed
        rw [allowedAudiences_gateArgs origin] at allowed
        exact apart (mem_singleton.mp allowed).symm

end CairnStone.CoreAuth
