/-
`TokenManager._mint`: the challenge, the signature, the token, and how each ends when the
registry answers with something else. The two steps have one shape: a POST with one
cooperative retry, the status, `json()`, and the fields, read under
`except (KeyError, ValueError)`.

Responses are arbitrary. The signer does not raise and signs whatever it is given. What
`httpx` can encode, `str` of a value (none when it is nested too deep) and which number a
float literal is are parameters. Only the token's own type is a string for certain: the
`token_type` is kept as it came.
-/

import AcdpPlayground.Auth.TokenManager
import AcdpPlayground.Bridge.ControlPlane

namespace AcdpPlayground.Auth

open PythonText JsonValue HttpDate TextEncoding
open Bridge (PyFloat Clockwork Answer Response parseRetryAfter isSuccess HeaderReadable
  namesDelay)

/-! ### The interpreter and the libraries -/

/-- The double that a literal stands for. -/
inductive FloatValue where
  | finite (truncated : Int)
  | nan
  | infinite

structure MintPlatform extends Clockwork where
  depth : Nat
  isZero : Text → Bool
  readFloat : Text → FloatValue
  str : Json → Option Text
  encodes : Json → Bool

inductive Escape where
  | valueError
  | typeError
  | overflowError
  | attributeError
  | recursionError
  | load (failure : LoadFailure)
  | retryAfter (error : PyError)

/-- How reading a field fails: with a `KeyError` or `ValueError`, or past the handler. -/
inductive FieldFault where
  | caught
  | escaped (error : Escape)

def intOf (platform : MintPlatform) : Json → Except FieldFault Int
  | .integer value => .ok value
  | .boolean value => .ok (if value then 1 else 0)
  | .float literal =>
      match platform.readFloat literal with
      | .finite truncated => .ok truncated
      | .nan => .error .caught
      | .infinite => .error (.escaped .overflowError)
  | .string given =>
      match limitedInt given with
      | some value => .ok value
      | none => .error .caught
  | .null | .array _ | .object _ => .error (.escaped .typeError)

/-- `value[name]`; only an object has names, and anything else raises a `TypeError`. -/
def member (value : Json) (name : String) : Except FieldFault Json :=
  match value with
  | .object members =>
      match members.lookup (text name) with
      | some found => .ok found
      | none => .error .caught
  | _ => .error (.escaped .typeError)

/-! ### The challenge -/

structure Challenge where
  nonce : Json
  expiresAt : Int
  signingInput : Json

def readChallenge (platform : MintPlatform) (ch : Json) : Except FieldFault Challenge := do
  let nonce ← member ch "nonce"
  let expiresAt ← intOf platform (← member ch "expires_at")
  let signingInput ← member ch "signing_input"
  pure { nonce := nonce, expiresAt := expiresAt, signingInput := signingInput }

/-! ### The token -/

structure MintedToken where
  token : Text
  tokenType : Json
  expiresAt : Int
  tenant : Option Text
  jti : Option Text
  aud : Option Text

/-- `token.split(".")[1]`. -/
def payloadOf (token : Text) : Option Text :=
  (cut (text ".") token).map (fun parts =>
    match cut (text ".") parts.2 with
    | some (payload, _) => payload
    | none => parts.2)

/-- `_decode_unverified_claims`; none when the payload is nested too deep. -/
def decodeUnverifiedClaims (platform : MintPlatform) (token : Text) :
    Option (List (Text × Json)) :=
  match payloadOf token with
  | none => some []
  | some payload =>
      let padding := List.replicate ((4 - payload.length % 4) % 4) 61
      match urlsafeB64decode (payload ++ padding) with
      | none => some []
      | some raw =>
          match loads platform.depth raw with
          | .error .tooDeep => none
          | .ok (.object members) => some members
          | _ => some []

def orNone (value : Text) : Option Text :=
  if value = [] then none else some value

/-- `_normalize_aud`; none when an entry is nested too deep to be shown. -/
def normalizeAud (platform : MintPlatform) : Option Json → Option (Option Text)
  | some (.string aud) => some (orNone aud)
  | some (.array items) =>
      ((items.filter (fun item => item.truthy platform.isZero)).mapM platform.str).map
        (fun parts => orNone ((text ",").intercalate parts))
  | _ => some none

def stringClaim (claims : List (Text × Json)) (name : String) : Option Text :=
  match claims.lookup (text name) with
  | some (.string value) => some value
  | _ => none

/-- Only a string has `split`, and none of the guards names an `AttributeError`. -/
def readToken (platform : MintPlatform) (tk : Json) : Except FieldFault MintedToken := do
  match ← member tk "token" with
  | .string token =>
      match decodeUnverifiedClaims platform token with
      | none => .error (.escaped .recursionError)
      | some claims =>
          let expiresAt ← intOf platform (← member tk "expires_at")
          match normalizeAud platform (claims.lookup (text "aud")) with
          | none => .error (.escaped .recursionError)
          | some aud =>
              pure
                { token := token
                  tokenType := (tk.get? "token_type").getD (.string (text "Bearer"))
                  expiresAt := expiresAt
                  tenant := stringClaim claims "tenant"
                  jti := stringClaim claims "jti"
                  aud := aud }
  | _ => .error (.escaped .attributeError)

/-! ### One step of the exchange -/

inductive MintStep where
  | challenge
  | token
deriving DecidableEq

/-- The `failure_kind` that is logged, after the name of the step. -/
inductive MintFault where
  | transport (message : Text)
  | status (code : Nat)
  | malformed

/-- `typed` is a `ChallengeError` in the challenge step and a `TokenIssueError` in the
token step. -/
inductive MintError where
  | typed (step : MintStep) (fault : MintFault)
  | escaped (step : MintStep) (error : Escape)

structure StepAnswers where
  first : Answer
  second : Answer
  now : PyFloat

def retryableMint (status : Nat) : Bool :=
  [429, 503].contains status

def postCooperative (platform : MintPlatform) (step : MintStep) (body : Json)
    (answers : StepAnswers) : Except MintError Response :=
  if platform.encodes body then
    match answers.first with
    | .httpError message => .error (.typed step (.transport message))
    | .response response =>
        if retryableMint response.statusCode then
          match parseRetryAfter platform.toClockwork response.retryAfter answers.now with
          | .error failure => .error (.escaped step (.retryAfter failure))
          | .ok none => .ok response
          | .ok (some _) =>
              match answers.second with
              | .httpError message => .error (.typed step (.transport message))
              | .response later => .ok later
        else .ok response
  else .error (.escaped step .valueError)

/-- The fields of a decoded response; a malformed one is shown in the message. -/
def readFields {Fields : Type} (platform : MintPlatform) (step : MintStep)
    (read : Json → Except FieldFault Fields) (value : Json) : Except MintError Fields :=
  match read value with
  | .ok fields => .ok fields
  | .error (.escaped error) => .error (.escaped step error)
  | .error .caught =>
      match platform.str value with
      | some _ => .error (.typed step .malformed)
      | none => .error (.escaped step .recursionError)

def exchangeStep {Fields : Type} (platform : MintPlatform) (step : MintStep) (body : Json)
    (answers : StepAnswers) (read : Json → Except FieldFault Fields) : Except MintError Fields :=
  match postCooperative platform step body answers with
  | .error error => .error error
  | .ok response =>
      if isSuccess response.statusCode then
        match loads platform.depth response.content with
        | .error failure => .error (.escaped step (.load failure))
        | .ok value => readFields platform step read value
      else .error (.typed step (.status response.statusCode))

/-! ### The whole exchange -/

structure Signer where
  agentDid : Text
  keyId : Text
  algorithm : Text
  signChallenge : Json → Text

def challengeRequest (signer : Signer) : Json :=
  .object [(text "agent_id", .string signer.agentDid)]

def tokenRequest (signer : Signer) (challenge : Challenge) : Json :=
  .object [(text "agent_id", .string signer.agentDid), (text "key_id", .string signer.keyId),
    (text "nonce", challenge.nonce), (text "expires_at", .integer challenge.expiresAt),
    (text "algorithm", .string signer.algorithm),
    (text "signature", .string (signer.signChallenge challenge.signingInput))]

structure RegistryAnswers where
  challenge : StepAnswers
  token : StepAnswers

def mint (platform : MintPlatform) (signer : Signer) (answers : RegistryAnswers) :
    Except MintError MintedToken :=
  match exchangeStep platform .challenge (challengeRequest signer) answers.challenge
      (readChallenge platform) with
  | .error error => .error error
  | .ok challenge =>
      exchangeStep platform .token (tokenRequest signer challenge) answers.token
        (readToken platform)

def MintedToken.cached (minted : MintedToken) : CachedToken :=
  { token := string minted.token
    expiresAt := minted.expiresAt }

end AcdpPlayground.Auth
