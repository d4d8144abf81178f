import CairnStone.Concurrency.Program
import CairnStone.JavaScript.TextMethods
import CairnStone.PrivateRealm.CanonicalJson

/-! The caller identity of the private storage Worker: the verification of a signed envelope and
the replay cache of one isolate. A call hands control back at every signature check.
-/

namespace CairnStone.PrivateRealm.Envelope

open JavaScript Concurrency

def MIN_KEY_CHARS : Nat := 32
def DEFAULT_MAX_SKEW_SECONDS : Nat := 60
def MAX_NONCES : Nat := 10000

/-- `/^[A-Za-z0-9_-]{16,64}$/` -/
def NONCE_PATTERN : Pattern :=
  { start := [], unit := isWord, least := 16, most := 64 }

/-- `[a-z0-9_.:-]` -/
def isCallerUnit (u : CodeUnit) : Bool :=
  isLabelUnit u || u == 0x3A

/-- `/^[a-z0-9][a-z0-9_.:-]{1,63}$/` -/
def isCaller : Text → Bool
  | [] => false
  | first :: rest =>
    (isLower first || isDigit first) && 1 ≤ rest.length && rest.length ≤ 63
    && rest.all isCallerUnit

/-- `/^[0-9a-f]{64}$/` -/
def sigPattern : Pattern :=
  { start := [], unit := fun u => isDigit u || (0x61 ≤ u && u ≤ 0x66), least := 64, most := 64 }

/-- The bindings of the Worker that verification reads. -/
structure Env where
  (PRIVATE_GATEWAY_HMAC_KEY PRIVATE_GATEWAY_HMAC_KEY_PREVIOUS PRIVATE_ALLOWED_CALLERS : Value)
  PRIVATE_ENVELOPE_MAX_SKEW_SECONDS : Option Text

def unconfigured {α : Type} : Except Failure α :=
  .error (.realm "private_worker_unconfigured")

/-- A key that is set: neither `undefined` nor `null` nor the empty string. -/
def isSet : Value → Bool
  | .undefined => false
  | .null => false
  | .string s => s ≠ []
  | _ => true

def secret? : Value → Option Text
  | .string s => if MIN_KEY_CHARS ≤ s.length then some s else none
  | _ => none

def configuredKeys (env : Env) : Except Failure (List Text) :=
  let keys :=
    [env.PRIVATE_GATEWAY_HMAC_KEY, env.PRIVATE_GATEWAY_HMAC_KEY_PREVIOUS].filter isSet
  match keys.mapM secret? with
  | some (first :: rest) => .ok (first :: rest)
  | _ => unconfigured

def allowedCallers (env : Env) : Except Failure (List Text) :=
  let list :=
    match env.PRIVATE_ALLOWED_CALLERS with
    | .string raw => ((splitAtUnit 0x2C raw).map trim).filter (· ≠ [])
    | _ => []
  if list = [] ∨ ¬ list.all isCaller then unconfigured else .ok list

def maxSkew (env : Env) : Int :=
  match env.PRIVATE_ENVELOPE_MAX_SKEW_SECONDS.bind parseInt with
  | some skew => if 0 < skew ∧ skew ≤ 300 then skew else DEFAULT_MAX_SKEW_SECONDS
  | none => DEFAULT_MAX_SKEW_SECONDS

/-- A call of `verifyEnvelope`. `nowMs` is its clock reading. -/
structure VerifyCall where
  (envelope platformCaller : Value)
  nowMs : Int

structure Checked where
  (caller method : Text)
  args : PlainJson
  iat : Double
  iatSeconds : Int
  (nonce sig : Text)

/-- `Math.abs(Math.floor(nowMs / 1000) - iat) <= maxSkew` -/
def Fresh (env : Env) (nowMs iat : Int) : Prop :=
  |nowMs / 1000 - iat| ≤ maxSkew env

instance (env : Env) (nowMs iat : Int) : Decidable (Fresh env nowMs iat) :=
  inferInstanceAs (Decidable (_ ≤ _))

def platformAgrees (caller : Text) : Value → Bool
  | .undefined => true
  | .null => true
  | .string s => s = caller
  | _ => false

def nonce? : Value → Option Text
  | .string s => if NONCE_PATTERN.test s then some s else none
  | _ => none

def sig? : Value → Option Text
  | .string s => if sigPattern.test s then some s else none
  | _ => none

/-- `Number.isInteger(iat)`, as the number and the integer. -/
def integer? : Value → Option (Double × Int)
  | .number (.finite x) => x.toInt?.map (fun n => (x, n))
  | _ => none

/-- Every check of `verifyEnvelope` before its first `await`; `none` is a denial. -/
def inspect (env : Env) (callers : List Text) (call : VerifyCall) : Option Checked :=
  match call.envelope with
  | .object _ _ => do
    let get (key : String) : Value := call.envelope.get (text key)
    guard ((get "v").isOne = true)
    let caller ← (get "caller").string?
    guard (caller ∈ callers)
    guard (platformAgrees caller call.platformCaller = true)
    let method ← (get "method").string?
    let nonce ← nonce? (get "nonce")
    let (iat, iatSeconds) ← integer? (get "iat")
    guard (Fresh env call.nowMs iatSeconds)
    let sig ← sig? (get "sig")
    match get "args" with
    | .array slots =>
      match assertPlainJson (.array slots) 0 with
      | .ok args => some { caller, method, args, iat, iatSeconds, nonce, sig }
      | .error _ => none
    | _ => none
  | _ => none

/-- `seenNonces`: nonces with the instant from which they may be forgotten. -/
abbrev NonceCache := List (Text × Int)

/-- The entries that a call at `nowMs` leaves in the cache. -/
def evict (cache : NonceCache) (nowMs : Int) : NonceCache :=
  cache.filter (fun entry => nowMs < entry.2)

def rememberNonce (nonce : Text) (expiresAtMs nowMs : Int) (cache : NonceCache)
    : Bool × NonceCache :=
  let kept := evict cache nowMs
  if kept.any (·.1 == nonce) then (false, kept)
  else if MAX_NONCES < kept.length then (false, kept)
  else (true, kept ++ [(nonce, expiresAtMs)])

/-- The atomic steps of a call: one signature check, or the whole of `rememberNonce`. -/
inductive Step where
  | verify (secret sig data : Text)
  | remember (nonce : Text) (expiresAtMs nowMs : Int)

/-- One isolate. Whether a signature is valid is the platform's to say. -/
def isolate (hmacVerify : Text → Text → Text → Bool) : Machine where
  State := NonceCache
  Command := Step
  Reply := fun _ => Bool
  exec
    | .verify secret sig data, cache => (hmacVerify secret sig data, cache)
    | .remember nonce expiresAtMs nowMs, cache => rememberNonce nonce expiresAtMs nowMs cache
  Event := Empty
  disturb := fun event => event.elim

structure Verified where
  (caller method : Text)
  args : PlainJson

abbrev Verification (hmacVerify : Text → Text → Text → Bool) :=
  Program (isolate hmacVerify) Failure Verified

variable (hmacVerify : Text → Text → Text → Bool)

def denied : Verification hmacVerify :=
  .fail (.realm "caller_not_authorized")

def expiry (env : Env) (nowMs : Int) : Int :=
  nowMs + (maxSkew env * 2 + 1) * 1000

def acceptOnce (env : Env) (call : VerifyCall) (checked : Checked) (valid : Bool)
    : Verification hmacVerify :=
  if valid then
    .exec (.remember checked.nonce (expiry env call.nowMs) call.nowMs)
      (fun remembered : Bool =>
        if remembered then
          .done { caller := checked.caller, method := checked.method, args := checked.args }
        else
          denied hmacVerify)
  else
    denied hmacVerify

def awaitSignatures (env : Env) (call : VerifyCall) (checked : Checked)
    : List Text → Bool → Verification hmacVerify
  | [], valid => acceptOnce hmacVerify env call checked valid
  | secret :: rest, valid =>
    let data :=
      signedPayload checked.caller checked.method checked.args checked.iat checked.nonce
    .exec (.verify secret checked.sig data)
      (fun ok : Bool => awaitSignatures env call checked rest (valid || ok))

def verifyEnvelope (env : Env) (call : VerifyCall) : Verification hmacVerify := do
  let keys ← .ofExcept (configuredKeys env)
  let callers ← .ofExcept (allowedCallers env)
  match inspect env callers call with
  | none => denied hmacVerify
  | some checked => awaitSignatures hmacVerify env call checked keys false

end CairnStone.PrivateRealm.Envelope
