import CairnStone.CoreAuth.Tokens
import CairnStone.Data.Lookup
import CairnStone.JavaScript.Base64

/-! Verification of WebAuthn assertions. -/

namespace CairnStone.CoreAuth

open JavaScript

/-- The members of `clientDataJSON` that are checked. Members that are no strings are `none`. -/
structure ClientData where
  (type challenge origin : Option Text)

/-- Functions whose results are taken as given: reading JSON and CBOR, the digest, and cryptography.
`decodeCbor` gives the error, if there is one.
-/
structure WebAuthn where
  parseJson : List Nat → Option ClientData
  decodeCbor : List Nat → Option String
  sha256Bytes : List Nat → List Nat
  importsEs256PublicKey : Text → Bool
  verifyEs256Signature : Text → List Nat → List Nat → Bool

def base64UrlDecode (value : Option Text) : Option (List Nat) :=
  (truthy value).bind (fun value => atob (padBase64Url value))

structure AuthenticatorData where
  rpIdHash : List Nat
  signCount : Nat
  (userPresent userVerified : Bool)
  credentialId : Option (List Nat)

def bigEndian (bytes : List Nat) : Nat :=
  bytes.foldl (fun n byte => n * 256 + byte) 0

namespace WebAuthn

variable (webAuthn : WebAuthn)

/-- The credential that an authenticator reports: its id, which is followed by its public key. -/
def attestedCredentialId (rest : List Nat) : Except String (List Nat) :=
  if rest.length < 18 then .error "authdata_attested_truncated"
  else
    let credIdLen := bigEndian ((rest.drop 16).take 2)
    if rest.length < 18 + credIdLen then .error "authdata_cred_id_truncated"
    else
      match webAuthn.decodeCbor (rest.drop (18 + credIdLen)) with
      | some error => .error error
      | none => .ok ((rest.drop 18).take credIdLen)

def parseAuthenticatorData (authData : List Nat) : Except String AuthenticatorData :=
  if authData.length < 37 then .error "authdata_too_short"
  else
    let flags := authData.getD 32 0
    let parsed (credentialId : Option (List Nat)) : AuthenticatorData :=
      { rpIdHash := authData.take 32
        signCount := bigEndian ((authData.drop 33).take 4)
        userPresent := flags.testBit 0
        userVerified := flags.testBit 2
        credentialId }
    if flags.testBit 6 then
      (webAuthn.attestedCredentialId (authData.drop 37)).map (fun id => parsed (some id))
    else .ok (parsed none)

def parseClientDataJSON (clientDataJSON : List Nat)
    (expectedType expectedChallenge expectedOrigin : Text)
    : Except String Unit :=
  match webAuthn.parseJson clientDataJSON with
  | none => .error "client_data_json_invalid"
  | some data =>
    if data.type ≠ some expectedType then .error "client_data_type_mismatch"
    else if data.challenge ≠ some expectedChallenge then .error "client_data_challenge_mismatch"
    else if data.origin ≠ some expectedOrigin then .error "client_data_origin_mismatch"
    else .ok ()

def Replayed (previousSignCount signCount : Nat) : Prop :=
  0 < previousSignCount ∧ 0 < signCount ∧ signCount ≤ previousSignCount

instance decidableReplayed (previousSignCount signCount : Nat)
    : Decidable (Replayed previousSignCount signCount) :=
  inferInstanceAs (Decidable (_ ∧ _ ∧ _))

def decoded (value : Option Text) : Except String (List Nat) :=
  match base64UrlDecode value with
  | some bytes => .ok bytes
  | none => .error "assertion_encoding_invalid"

def check (condition : Prop) [Decidable condition] (error : String) : Except String Unit :=
  if condition then .ok () else .error error

def verifyAssertion (assertion : Assertion) : Except String Nat := do
  let authData ← decoded assertion.authenticatorData
  let clientDataJSON ← decoded (some assertion.clientDataJSON)
  let signature ← decoded assertion.signature
  webAuthn.parseClientDataJSON clientDataJSON (text "webauthn.get") assertion.expectedChallenge
    assertion.expectedOrigin
  let parsed ← webAuthn.parseAuthenticatorData authData
  check (parsed.rpIdHash = webAuthn.sha256Bytes (utf8Bytes assertion.rpId)) "rp_id_hash_mismatch"
  check (parsed.userPresent = true) "user_presence_required"
  check (parsed.userVerified = true) "user_verification_required"
  check (¬ Replayed assertion.previousSignCount parsed.signCount) "sign_count_replay"
  check (webAuthn.importsEs256PublicKey assertion.publicKey = true) "public_key_import_failed"
  check
    (webAuthn.verifyEs256Signature assertion.publicKey signature
      (authData ++ webAuthn.sha256Bytes clientDataJSON) = true)
    "assertion_signature_invalid"
  .ok parsed.signCount

def presentedCount (authenticatorData : Option Text) : Option Nat :=
  match base64UrlDecode authenticatorData with
  | none => none
  | some authData =>
    match webAuthn.parseAuthenticatorData authData with
    | .error _ => none
    | .ok parsed => some parsed.signCount

variable {webAuthn}

theorem of_check {cond : Prop} [Decidable cond] {error : String}
    (passed : check cond error = .ok ())
    : cond := by
  by_contra fails
  rw [check, if_neg fails] at passed
  cases passed

/-- An assertion that verifies carries its count, which is not replayed as far as the count that it is
compared with tells. Witness: the checks one after the other.
-/
theorem of_verifyAssertion {assertion : Assertion} {signCount : Nat}
    (valid : webAuthn.verifyAssertion assertion = .ok signCount)
    : webAuthn.presentedCount assertion.authenticatorData = some signCount
      ∧ ¬ Replayed assertion.previousSignCount signCount := by
  obtain ⟨authData, encoded, valid⟩ := bind_eq_ok.mp valid
  obtain ⟨_, _, valid⟩ := bind_eq_ok.mp valid
  obtain ⟨_, _, valid⟩ := bind_eq_ok.mp valid
  obtain ⟨_, _, valid⟩ := bind_eq_ok.mp valid
  obtain ⟨parsed, parses, valid⟩ := bind_eq_ok.mp valid
  obtain ⟨_, _, valid⟩ := bind_eq_ok.mp valid
  obtain ⟨_, _, valid⟩ := bind_eq_ok.mp valid
  obtain ⟨_, _, valid⟩ := bind_eq_ok.mp valid
  obtain ⟨_, fresh, valid⟩ := bind_eq_ok.mp valid
  obtain ⟨_, _, valid⟩ := bind_eq_ok.mp valid
  obtain ⟨_, _, valid⟩ := bind_eq_ok.mp valid
  cases valid
  refine ⟨?_, of_check fresh⟩
  unfold decoded at encoded
  cases bytes : base64UrlDecode assertion.authenticatorData with
  | none => simp [bytes] at encoded
  | some data =>
    simp only [bytes, Except.ok.injEq] at encoded
    cases encoded
    simp only [presentedCount, bytes, parses]

end WebAuthn

end CairnStone.CoreAuth
