/-
How an exchange with the registry may fail. `_mint` turns what it expects into a
`ChallengeError` or a `TokenIssueError`; `json()` stands outside the handlers, and inside
them only `KeyError` and `ValueError` are named. The conditions say, for arbitrary
responses, when nothing else gets out.

The cache and the lock come out of every failure alike, whatever its type.
-/

import AcdpPlayground.Auth.Mint
import AcdpPlayground.Auth.TokenHistory

namespace AcdpPlayground.Auth

open PythonText JsonValue HttpDate TextEncoding TransitionRun
open Bridge (PyFloat Clockwork Answer Response parseRetryAfter isSuccess HeaderReadable
  namesDelay)

/-! ### Responses that fail in the expected way, if at all -/

/-- `int(value)` may raise a `ValueError`, but nothing else. -/
def IntTyped (platform : MintPlatform) : Json → Prop
  | .null | .array _ | .object _ => False
  | .float literal => platform.readFloat literal ≠ .infinite
  | .integer _ | .boolean _ | .string _ => True

def NoInteger (platform : MintPlatform) : Json → Prop
  | .string given => limitedInt given = none
  | .float literal => platform.readFloat literal = .nan
  | _ => False

def IsObject (value : Json) : Prop :=
  ∃ members, value = .object members

/-- A member is missing, or the expiry is no number. -/
def ChallengeIncomplete (platform : MintPlatform) (ch : Json) : Prop :=
  ch.get? "nonce" = none ∨ ch.get? "expires_at" = none ∨
    (∃ value ∈ ch.get? "expires_at", NoInteger platform value) ∨ ch.get? "signing_input" = none

structure ChallengeReadable (platform : MintPlatform) (ch : Json) : Prop where
  isObject : IsObject ch
  expiry : ch.get? "nonce" ≠ none → ∀ value ∈ ch.get? "expires_at", IntTyped platform value
  shown : ChallengeIncomplete platform ch → (platform.str ch).isSome = true

def TokenIncomplete (platform : MintPlatform) (tk : Json) : Prop :=
  tk.get? "token" = none ∨ tk.get? "expires_at" = none ∨
    ∃ value ∈ tk.get? "expires_at", NoInteger platform value

/-- The token is a string, its payload is not nested too deep, and the expiry is typed. -/
structure TokenReadable (platform : MintPlatform) (tk : Json) : Prop where
  isObject : IsObject tk
  token : ∀ token ∈ tk.get? "token", ∃ given claims, token = .string given ∧
    decodeUnverifiedClaims platform given = some claims ∧
    ∀ value ∈ tk.get? "expires_at", IntTyped platform value ∧
      (¬ NoInteger platform value →
        (normalizeAud platform (claims.lookup (text "aud"))).isSome = true)
  shown : TokenIncomplete platform tk → (platform.str tk).isSome = true

/-- The response a step goes on with: the second one after an accepted `Retry-After`. -/
def decisive (answers : StepAnswers) : Option Response :=
  match answers.first with
  | .httpError _ => none
  | .response response =>
      if retryableMint response.statusCode && namesDelay response.retryAfter then
        match answers.second with
        | .httpError _ => none
        | .response later => some later
      else some response

structure StepReadable (platform : MintPlatform) (body : Json) (answers : StepAnswers)
    (readable : Json → Prop) : Prop where
  encoded : platform.encodes body = true
  header : ∀ response, answers.first = .response response →
    retryableMint response.statusCode = true →
    HeaderReadable platform.zone response.retryAfter
  body : ∀ response ∈ decisive answers, isSuccess response.statusCode = true →
    ∃ value, loads platform.depth response.content = .ok value ∧ readable value

/-- The registry's challenge, when it gives one. -/
def Offers (platform : MintPlatform) (answers : StepAnswers) (challenge : Challenge) : Prop :=
  ∃ response ∈ decisive answers, isSuccess response.statusCode = true ∧
    ∃ value, loads platform.depth response.content = .ok value ∧
      value.get? "nonce" = some challenge.nonce ∧
      (∃ expiry, value.get? "expires_at" = some expiry ∧
        intOf platform expiry = .ok challenge.expiresAt) ∧
      value.get? "signing_input" = some challenge.signingInput

structure RegistryReadable (platform : MintPlatform) (signer : Signer)
    (answers : RegistryAnswers) : Prop where
  challenge : StepReadable platform (challengeRequest signer) answers.challenge
    (ChallengeReadable platform)
  token : ∀ challenge, Offers platform answers.challenge challenge →
    StepReadable platform (tokenRequest signer challenge) answers.token (TokenReadable platform)

/-! ### Fields -/

/-- Nothing but the handled exceptions. -/
def Typed {Result : Type} (outcome : Except MintError Result) : Prop :=
  ∀ step error, outcome ≠ .error (.escaped step error)

theorem intOf_cases (platform : MintPlatform) (value : Json) :
    (∃ number, intOf platform value = .ok number ∧ IntTyped platform value ∧
      ¬ NoInteger platform value) ∨
    (intOf platform value = .error .caught ∧ IntTyped platform value ∧
      NoInteger platform value) ∨
    (∃ error, intOf platform value = .error (.escaped error) ∧ ¬ IntTyped platform value) := by
  cases value with
  | null => exact .inr (.inr ⟨_, rfl, id⟩)
  | array items => exact .inr (.inr ⟨_, rfl, id⟩)
  | object members => exact .inr (.inr ⟨_, rfl, id⟩)
  | integer number => exact .inl ⟨number, rfl, trivial, id⟩
  | boolean flag => exact .inl ⟨_, rfl, trivial, id⟩
  | string given =>
      simp only [intOf, IntTyped, NoInteger]
      cases limitedInt given with
      | some number => exact .inl ⟨number, rfl, trivial, fun same => by cases same⟩
      | none => exact .inr (.inl ⟨rfl, trivial, rfl⟩)
  | float literal =>
      simp only [intOf, IntTyped, NoInteger]
      cases platform.readFloat literal with
      | finite number =>
          exact .inl ⟨number, rfl, (fun same => by cases same), (fun same => by cases same)⟩
      | nan => exact .inr (.inl ⟨rfl, (fun same => by cases same), rfl⟩)
      | infinite => exact .inr (.inr ⟨_, rfl, fun finite => finite rfl⟩)

theorem member_object (members : List (Text × Json)) (name : String) :
    member (.object members) name =
      match (Json.object members).get? name with
      | some found => .ok found
      | none => .error .caught := rfl

theorem member_escapes {value : Json} (other : ¬ IsObject value) (name : String) :
    member value name = .error (.escaped .typeError) := by
  cases value with
  | object members => exact absurd ⟨members, rfl⟩ other
  | null => rfl
  | boolean _ => rfl
  | integer _ => rfl
  | float _ => rfl
  | string _ => rfl
  | array _ => rfl

inductive Reading {Fields : Type} (shaped incomplete : Prop) : Except FieldFault Fields → Prop
    where
  | escaped (error : Escape) (broken : ¬ shaped) : Reading shaped incomplete (.error (.escaped error))
  | caught (typed : shaped) (missing : incomplete) : Reading shaped incomplete (.error .caught)
  | read (fields : Fields) (typed : shaped) (complete : ¬ incomplete) :
      Reading shaped incomplete (.ok fields)

theorem readChallenge_reading (platform : MintPlatform) (ch : Json) :
    Reading
      (IsObject ch ∧
        (ch.get? "nonce" ≠ none → ∀ value ∈ ch.get? "expires_at", IntTyped platform value))
      (ChallengeIncomplete platform ch) (readChallenge platform ch) := by
  by_cases isObject : IsObject ch
  · obtain ⟨members, rfl⟩ := isObject
    simp only [readChallenge, member_object]
    cases nonce : (Json.object members).get? "nonce" with
    | none =>
        exact .caught ⟨⟨members, rfl⟩, fun present => absurd rfl present⟩ (.inl nonce)
    | some given =>
        cases expiry : (Json.object members).get? "expires_at" with
        | none =>
            exact .caught ⟨⟨members, rfl⟩, fun _ value absent => by cases absent⟩
              (.inr (.inl expiry))
        | some value =>
            rcases intOf_cases platform value with
              ⟨number, isInt, typed, complete⟩ | ⟨isInt, typed, missing⟩ | ⟨error, isInt, broken⟩
            · simp only [bind, Except.bind, isInt]
              have shaped : IsObject (.object members) ∧
                  (some given ≠ none → ∀ other ∈ some value, IntTyped platform other) :=
                ⟨⟨members, rfl⟩, fun _ other same => Option.some.inj same ▸ typed⟩
              cases signing : (Json.object members).get? "signing_input" with
              | none => exact .caught shaped (.inr (.inr (.inr signing)))
              | some input =>
                  refine .read _ shaped ?_
                  rintro (absent | absent | ⟨other, same, none_read⟩ | absent)
                  · rw [nonce] at absent
                    cases absent
                  · rw [expiry] at absent
                    cases absent
                  · rw [expiry] at same
                    cases same
                    exact complete none_read
                  · rw [signing] at absent
                    cases absent
            · simp only [bind, Except.bind, isInt]
              exact .caught ⟨⟨members, rfl⟩, fun _ other same => Option.some.inj same ▸ typed⟩
                (.inr (.inr (.inl ⟨value, expiry, missing⟩)))
            · simp only [bind, Except.bind, isInt]
              exact .escaped error (fun shaped => broken (shaped.2 (by rintro ⟨⟩) value rfl))
  · rw [readChallenge, member_escapes isObject]
    exact .escaped _ (fun shaped => isObject shaped.1)

theorem readChallenge_ok_iff {platform : MintPlatform} {ch : Json} {challenge : Challenge} :
    readChallenge platform ch = .ok challenge ↔
      ch.get? "nonce" = some challenge.nonce ∧
        (∃ expiry, ch.get? "expires_at" = some expiry ∧
          intOf platform expiry = .ok challenge.expiresAt) ∧
        ch.get? "signing_input" = some challenge.signingInput := by
  by_cases isObject : IsObject ch
  · obtain ⟨members, rfl⟩ := isObject
    simp only [readChallenge, member_object]
    constructor
    · intro read
      cases nonce : (Json.object members).get? "nonce" with
      | none =>
          rw [nonce] at read
          cases read
      | some given =>
          cases expiry : (Json.object members).get? "expires_at" with
          | none =>
              rw [nonce, expiry] at read
              cases read
          | some value =>
              cases isInt : intOf platform value with
              | error fault =>
                  simp only [nonce, expiry, bind, Except.bind, isInt] at read
                  cases read
              | ok number =>
                  cases signing : (Json.object members).get? "signing_input" with
                  | none =>
                      simp only [nonce, expiry, bind, Except.bind, isInt, signing] at read
                      cases read
                  | some input =>
                      simp only [nonce, expiry, bind, Except.bind, isInt, signing] at read
                      cases read
                      exact ⟨rfl, ⟨value, rfl, isInt⟩, rfl⟩
    · rintro ⟨nonce, ⟨value, expiry, isInt⟩, signing⟩
      simp only [nonce, expiry, bind, Except.bind, isInt, signing]
      rfl
  · constructor
    · intro read
      rw [readChallenge, member_escapes isObject] at read
      cases read
    · rintro ⟨nonce, _⟩
      cases ch with
      | object members => exact absurd ⟨members, rfl⟩ isObject
      | null => cases nonce
      | boolean _ => cases nonce
      | integer _ => cases nonce
      | float _ => cases nonce
      | string _ => cases nonce
      | array _ => cases nonce

def TokenShaped (platform : MintPlatform) (tk : Json) : Prop :=
  IsObject tk ∧ ∀ token ∈ tk.get? "token", ∃ given claims, token = .string given ∧
    decodeUnverifiedClaims platform given = some claims ∧
    ∀ value ∈ tk.get? "expires_at", IntTyped platform value ∧
      (¬ NoInteger platform value →
        (normalizeAud platform (claims.lookup (text "aud"))).isSome = true)

theorem tokenShaped_iff {platform : MintPlatform} {members : List (Text × Json)} {given : Text}
    {claims : List (Text × Json)}
    (found : (Json.object members).get? "token" = some (.string given))
    (decoded : decodeUnverifiedClaims platform given = some claims) :
    TokenShaped platform (.object members) ↔
      ∀ value ∈ (Json.object members).get? "expires_at", IntTyped platform value ∧
        (¬ NoInteger platform value →
          (normalizeAud platform (claims.lookup (text "aud"))).isSome = true) := by
  constructor
  · rintro ⟨_, shaped⟩
    obtain ⟨other, otherClaims, same, isDecoded, expiry⟩ := shaped _ found
    cases same
    rw [decoded] at isDecoded
    cases isDecoded
    exact expiry
  · intro expiry
    refine ⟨⟨members, rfl⟩, ?_⟩
    intro token same
    rw [found] at same
    cases same
    exact ⟨given, claims, rfl, decoded, expiry⟩

/-- Once the claims are decoded, only the expiry and the audience are left to read. -/
theorem readToken_decoded {platform : MintPlatform} {members : List (Text × Json)} {given : Text}
    {claims : List (Text × Json)}
    (found : (Json.object members).get? "token" = some (.string given))
    (decoded : decodeUnverifiedClaims platform given = some claims) :
    Reading (TokenShaped platform (.object members)) (TokenIncomplete platform (.object members))
      (readToken platform (.object members)) := by
  have shaped_iff := tokenShaped_iff found decoded
  simp only [readToken, member_object, found, decoded, bind, Except.bind]
  cases expiry : (Json.object members).get? "expires_at" with
  | none =>
      refine .caught (shaped_iff.mpr ?_) (.inr (.inl expiry))
      rw [expiry]
      intro value absent
      cases absent
  | some value =>
      rw [expiry] at shaped_iff
      rcases intOf_cases platform value with
        ⟨number, isInt, typed, complete⟩ | ⟨isInt, typed, missing⟩ | ⟨error, isInt, broken⟩
      · simp only [isInt]
        cases aud : normalizeAud platform (claims.lookup (text "aud")) with
        | none =>
            refine .escaped _ (fun shaped => ?_)
            have shown := (shaped_iff.mp shaped value rfl).2 complete
            rw [aud] at shown
            cases shown
        | some audience =>
            refine .read _ (shaped_iff.mpr ?_) ?_
            · intro other same
              cases same
              exact ⟨typed, fun _ => by rw [aud]; rfl⟩
            · rintro (absent | absent | ⟨other, same, none_read⟩)
              · rw [found] at absent
                cases absent
              · rw [expiry] at absent
                cases absent
              · rw [expiry] at same
                cases same
                exact complete none_read
      · simp only [isInt]
        refine .caught (shaped_iff.mpr ?_) (.inr (.inr ⟨value, expiry, missing⟩))
        intro other same
        cases same
        exact ⟨typed, fun whole => absurd missing whole⟩
      · simp only [isInt]
        exact .escaped error (fun shaped => broken (shaped_iff.mp shaped value rfl).1)

theorem readToken_reading (platform : MintPlatform) (tk : Json) :
    Reading (TokenShaped platform tk) (TokenIncomplete platform tk) (readToken platform tk) := by
  by_cases isObject : IsObject tk
  · obtain ⟨members, rfl⟩ := isObject
    cases found : (Json.object members).get? "token" with
    | none =>
        rw [readToken, member_object, found]
        refine .caught ⟨⟨members, rfl⟩, ?_⟩ (.inl found)
        rw [found]
        intro token absent
        cases absent
    | some token =>
        by_cases isString : ∃ given, token = .string given
        · obtain ⟨given, rfl⟩ := isString
          cases decoded : decodeUnverifiedClaims platform given with
          | none =>
              simp only [readToken, member_object, found, decoded, bind, Except.bind]
              refine .escaped _ ?_
              rintro ⟨_, shaped⟩
              obtain ⟨other, claims, same, isDecoded, _⟩ := shaped _ found
              cases same
              rw [decoded] at isDecoded
              cases isDecoded
          | some claims => exact readToken_decoded found decoded
        · have broken : ¬ TokenShaped platform (.object members) := by
            rintro ⟨_, shaped⟩
            obtain ⟨given, _, same, _⟩ := shaped token found
            exact isString ⟨given, same⟩
          simp only [readToken, member_object, found]
          cases token with
          | string given => exact absurd ⟨given, rfl⟩ isString
          | null => exact .escaped _ broken
          | boolean _ => exact .escaped _ broken
          | integer _ => exact .escaped _ broken
          | float _ => exact .escaped _ broken
          | array _ => exact .escaped _ broken
          | object _ => exact .escaped _ broken
  · rw [readToken, member_escapes isObject]
    exact .escaped _ (fun shaped => isObject shaped.1)

theorem typed_readFields_iff {Fields : Type} {platform : MintPlatform} {step : MintStep}
    {read : Json → Except FieldFault Fields} {value : Json} {shaped incomplete : Prop}
    (reading : Reading shaped incomplete (read value)) :
    Typed (readFields platform step read value) ↔
      shaped ∧ (incomplete → (platform.str value).isSome = true) := by
  unfold readFields
  cases outcome : read value with
  | ok fields =>
      rw [outcome] at reading
      cases reading with
      | read _ typed complete =>
          refine iff_of_true (fun _ _ same => by cases same) ⟨typed, fun missing => ?_⟩
          exact absurd missing complete
  | error fault =>
      rw [outcome] at reading
      cases reading with
      | escaped error broken =>
          exact iff_of_false (fun typed => typed _ _ rfl) (fun both => broken both.1)
      | caught typed missing =>
          cases shown : platform.str value with
          | some _ => exact iff_of_true (fun _ _ same => by cases same) ⟨typed, fun _ => rfl⟩
          | none =>
              exact iff_of_false (fun typed => typed _ _ rfl)
                (fun both => by cases both.2 missing)

/-! ### One step -/

theorem postCooperative_of_readable {platform : MintPlatform} {body : Json}
    {answers : StepAnswers} (step : MintStep) (encoded : platform.encodes body = true)
    (header : ∀ response, answers.first = .response response →
      retryableMint response.statusCode = true →
      HeaderReadable platform.zone response.retryAfter) :
    (∃ response, decisive answers = some response ∧
      postCooperative platform step body answers = .ok response) ∨
    (decisive answers = none ∧
      ∃ message, postCooperative platform step body answers =
        .error (.typed step (.transport message))) := by
  unfold postCooperative decisive
  rw [if_pos encoded]
  cases first : answers.first with
  | httpError message => exact .inr ⟨rfl, message, rfl⟩
  | response response =>
      cases retry : retryableMint response.statusCode with
      | false =>
          simp only [retry, Bool.false_and, Bool.false_eq_true, if_false]
          exact .inl ⟨response, rfl, rfl⟩
      | true =>
          simp only [retry, if_true, Bool.true_and]
          cases parsed : parseRetryAfter platform.toClockwork response.retryAfter answers.now with
          | error failure =>
              exact absurd (header response first retry)
                (Bridge.not_headerReadable_of_error parsed)
          | ok delay =>
              rw [← (Bridge.parseRetryAfter_ok parsed).1]
              cases delay with
              | none => exact .inl ⟨response, rfl, rfl⟩
              | some wait =>
                  cases answers.second with
                  | httpError message => exact .inr ⟨rfl, message, rfl⟩
                  | response later => exact .inl ⟨later, rfl, rfl⟩

theorem readable_of_postCooperative {platform : MintPlatform} {step : MintStep} {body : Json}
    {answers : StepAnswers} (typed : Typed (postCooperative platform step body answers)) :
    platform.encodes body = true ∧
      ∀ response, answers.first = .response response →
        retryableMint response.statusCode = true →
        HeaderReadable platform.zone response.retryAfter := by
  unfold postCooperative at typed
  split at typed
  · next encoded =>
      refine ⟨encoded, ?_⟩
      intro response first retry
      simp only [first, retry, if_true] at typed
      cases parsed : parseRetryAfter platform.toClockwork response.retryAfter answers.now with
      | error failure =>
          rw [parsed] at typed
          exact absurd rfl (typed step _)
      | ok delay => exact Bridge.headerReadable_of_ok parsed
  · exact absurd rfl (typed step _)

theorem typed_exchangeStep_iff {Fields : Type} {platform : MintPlatform} {step : MintStep}
    {body : Json} {answers : StepAnswers} {read : Json → Except FieldFault Fields}
    {readable : Json → Prop}
    (fields : ∀ value, Typed (readFields platform step read value) ↔ readable value) :
    Typed (exchangeStep platform step body answers read) ↔
      StepReadable platform body answers readable := by
  constructor
  · intro typed
    have posted : Typed (postCooperative platform step body answers) := by
      intro other error escaped
      refine typed other error ?_
      rw [exchangeStep, escaped]
    obtain ⟨encoded, header⟩ := readable_of_postCooperative posted
    refine ⟨encoded, header, ?_⟩
    intro response isDecisive success
    have answered : postCooperative platform step body answers = .ok response := by
      rcases postCooperative_of_readable step encoded header with
        ⟨other, same, ok⟩ | ⟨none_decisive, _⟩
      · rw [isDecisive] at same
        cases same
        exact ok
      · rw [isDecisive] at none_decisive
        cases none_decisive
    simp only [exchangeStep, answered, success, if_true] at typed
    cases loaded : loads platform.depth response.content with
    | error failure =>
        rw [loaded] at typed
        exact absurd rfl (typed step _)
    | ok value =>
        rw [loaded] at typed
        exact ⟨value, rfl, (fields value).mp typed⟩
  · intro readable
    rcases postCooperative_of_readable step readable.encoded readable.header with
      ⟨response, isDecisive, answered⟩ | ⟨_, message, failed⟩
    · simp only [exchangeStep, answered]
      by_cases success : isSuccess response.statusCode = true
      · obtain ⟨value, loaded, fits⟩ := readable.body response isDecisive success
        simp only [success, if_true, loaded]
        exact (fields value).mpr fits
      · rw [if_neg success]
        intro other error same
        cases same
    · simp only [exchangeStep, failed]
      intro other error same
      cases same

theorem exchangeStep_ok_iff {Fields : Type} {platform : MintPlatform} {body : Json}
    {answers : StepAnswers} {read : Json → Except FieldFault Fields} {given : Fields}
    (step : MintStep) (encoded : platform.encodes body = true)
    (header : ∀ response, answers.first = .response response →
      retryableMint response.statusCode = true →
      HeaderReadable platform.zone response.retryAfter) :
    exchangeStep platform step body answers read = .ok given ↔
      ∃ response ∈ decisive answers, isSuccess response.statusCode = true ∧
        ∃ value, loads platform.depth response.content = .ok value ∧ read value = .ok given := by
  rcases postCooperative_of_readable step encoded header with
    ⟨response, isDecisive, answered⟩ | ⟨none_decisive, message, failed⟩
  · simp only [exchangeStep, answered, isDecisive, Option.mem_def, Option.some.injEq,
      exists_eq_left']
    by_cases success : isSuccess response.statusCode = true
    · simp only [success, if_true, true_and]
      cases loaded : loads platform.depth response.content with
      | error failure =>
          refine iff_of_false (fun same => by cases same) ?_
          rintro ⟨value, same, _⟩
          cases same
      | ok value =>
          simp only [Except.ok.injEq, exists_eq_left', readFields]
          cases outcome : read value with
          | ok fields =>
              constructor
              · intro same
                cases same
                rfl
              · intro same
                cases same
                rfl
          | error fault =>
              refine iff_of_false (fun same => ?_) (fun same => by cases same)
              cases fault with
              | escaped error => cases same
              | caught =>
                  cases shown : platform.str value with
                  | some _ => rw [shown] at same; cases same
                  | none => rw [shown] at same; cases same
    · simp only [success, Bool.false_eq_true, if_false, false_and, iff_false]
      intro same
      cases same
  · simp only [exchangeStep, failed, none_decisive, Option.mem_def]
    refine iff_of_false (fun same => by cases same) ?_
    rintro ⟨response, same, _⟩
    cases same

/-! ### The exchange -/

theorem challenge_step_iff {platform : MintPlatform} {body : Json} {answers : StepAnswers} :
    Typed (exchangeStep platform .challenge body answers (readChallenge platform)) ↔
      StepReadable platform body answers (ChallengeReadable platform) := by
  refine typed_exchangeStep_iff (fun value => ?_)
  rw [typed_readFields_iff (readChallenge_reading platform value)]
  exact ⟨fun both => ⟨both.1.1, both.1.2, both.2⟩,
    fun readable => ⟨⟨readable.isObject, readable.expiry⟩, readable.shown⟩⟩

theorem token_step_iff {platform : MintPlatform} {body : Json} {answers : StepAnswers} :
    Typed (exchangeStep platform .token body answers (readToken platform)) ↔
      StepReadable platform body answers (TokenReadable platform) := by
  refine typed_exchangeStep_iff (fun value => ?_)
  rw [typed_readFields_iff (readToken_reading platform value)]
  exact ⟨fun both => ⟨both.1.1, both.1.2, both.2⟩,
    fun readable => ⟨⟨readable.isObject, readable.token⟩, readable.shown⟩⟩

theorem typed_mint_iff (platform : MintPlatform) (signer : Signer) (answers : RegistryAnswers) :
    Typed (mint platform signer answers) ↔ RegistryReadable platform signer answers := by
  constructor
  · intro typed
    have challenged : Typed (exchangeStep platform .challenge (challengeRequest signer)
        answers.challenge (readChallenge platform)) := by
      intro step error escaped
      refine typed step error ?_
      rw [mint, escaped]
    have first := challenge_step_iff.mp challenged
    refine ⟨first, ?_⟩
    rintro challenge ⟨response, isDecisive, success, value, loaded, fields⟩
    have given := (exchangeStep_ok_iff .challenge first.encoded first.header).mpr
      ⟨response, isDecisive, success, value, loaded, readChallenge_ok_iff.mpr fields⟩
    rw [mint, given] at typed
    exact token_step_iff.mp typed
  · intro readable
    have challenged := challenge_step_iff.mpr readable.challenge
    rw [mint]
    cases given : exchangeStep platform .challenge (challengeRequest signer) answers.challenge
        (readChallenge platform) with
    | error failure =>
        rw [given] at challenged
        intro step error same
        exact challenged step error (by cases same; rfl)
    | ok challenge =>
        obtain ⟨response, isDecisive, success, value, loaded, read⟩ :=
          (exchangeStep_ok_iff .challenge readable.challenge.encoded
            readable.challenge.header).mp given
        exact token_step_iff.mpr (readable.token challenge
          ⟨response, isDecisive, success, value, loaded, readChallenge_ok_iff.mp read⟩)

/-! ### The call that ran the exchange -/

inductive TokenErrorClass where
  | challengeError
  | tokenIssueError
deriving DecidableEq

def MintStep.errorClass : MintStep → TokenErrorClass
  | .challenge => .challengeError
  | .token => .tokenIssueError

def MintError.step : MintError → MintStep
  | .typed step _ => step
  | .escaped step _ => step

def MintError.errorClass : MintError → Option TokenErrorClass
  | .typed step _ => some step.errorClass
  | .escaped _ _ => none

def endAction (index : Nat) : Except MintError MintedToken → TokenAction
  | .ok minted => .mintSucceeded index minted.cached
  | .error _ => .mintFailed index

/-- A failure has the type of its step and leaves the cache alone and the lock free; a
token goes to the caller. -/
structure MintPromise (jtiOf : CachedToken → Option String) (state : TokenState) (index : Nat)
    (caller : Caller) (outcome : Except MintError MintedToken) : Prop where
  typed : ∀ error, outcome = .error error → error.errorClass = some error.step.errorClass
  returned : ∀ minted, outcome = .ok minted →
    ∃ next, tokenStep jtiOf state (endAction index outcome) = some next ∧
      .returned caller.agentDid caller.url minted.cached ∈ next.log
  atomic : ∀ error, outcome = .error error →
    ∃ next, tokenStep jtiOf state (endAction index outcome) = some next ∧
      next.manager.cache = state.manager.cache ∧
      (next.manager.locks caller.key).holder = none

theorem typed_iff_errorClass (outcome : Except MintError MintedToken) :
    Typed outcome ↔
      ∀ error, outcome = .error error → error.errorClass = some error.step.errorClass := by
  constructor
  · intro typed error failed
    cases error with
    | typed step fault => rfl
    | escaped step error => exact absurd failed (typed step error)
  · intro classed step error failed
    cases classed _ failed

theorem mintFailed_step {jtiOf : CachedToken → Option String} {state : TokenState} {index : Nat}
    {caller : Caller} {exchange : Exchange} (found : state.callers[index]? = some caller)
    (minting : caller.phase = .minting exchange) :
    tokenStep jtiOf state (.mintFailed index) = some (state.breakOff index caller) := by
  simp only [tokenStep, found, minting]

theorem mintSucceeded_step {jtiOf : CachedToken → Option String} {state : TokenState}
    {index : Nat} {caller : Caller} {exchange : Exchange} (cached : CachedToken)
    (found : state.callers[index]? = some caller) (minting : caller.phase = .minting exchange) :
    tokenStep jtiOf state (.mintSucceeded index cached) =
      some ((state.store caller exchange cached).returned jtiOf index caller cached) := by
  simp only [tokenStep, found, minting]

/-- In whatever state of the manager the exchange of a caller ends, it keeps the promise
exactly on the responses that can be read. -/
theorem mint_promise_iff_readable (jtiOf : CachedToken → Option String) (state : TokenState)
    {index : Nat} {caller : Caller} {exchange : Exchange}
    (found : state.callers[index]? = some caller) (minting : caller.phase = .minting exchange)
    (platform : MintPlatform) (signer : Signer) (answers : RegistryAnswers) :
    MintPromise jtiOf state index caller (mint platform signer answers) ↔
      RegistryReadable platform signer answers := by
  rw [← typed_mint_iff, typed_iff_errorClass]
  constructor
  · exact MintPromise.typed
  · intro typed
    refine ⟨typed, ?_, ?_⟩
    · intro minted succeeded
      rw [succeeded]
      refine ⟨_, mintSucceeded_step minted.cached found minting, ?_⟩
      exact List.mem_append_right _ (List.mem_singleton_self _)
    · intro error failed
      rw [failed]
      refine ⟨_, mintFailed_step found minting, rfl, ?_⟩
      change ((state.manager.setLock caller.key _).locks caller.key).holder = none
      rw [TokenManager.setLock_locks]
      rfl

/-- Whole seconds at UTC; no float, and nothing to show. -/
def mintPlatform : MintPlatform where
  toClockwork := Bridge.utcPlatform.toClockwork
  depth := 1000
  isZero := fun literal => literal = text "0.0"
  readFloat := fun _ => .nan
  str := fun _ => some []
  encodes := fun _ => true

def demoSigner : Signer where
  agentDid := text "did:web:a"
  keyId := text "did:web:a#key-1"
  algorithm := text "ed25519"
  signChallenge := fun _ => text "c2ln"

def answeredOnce (status : Nat) (body : String) : StepAnswers :=
  { first := .response { statusCode := status, retryAfter := none, content := text body }
    second := .httpError []
    now := .finite 0 }

def firstMint : TokenState :=
  (TokenState.initial 30).enter (fun _ => none)
    { agentDid := "did:web:a"
      url := "http://registry-a"
      revokes := false
      phase := .ended } 1800000000

theorem firstMint_minting :
    ∃ caller, firstMint.callers[0]? = some caller ∧
      caller.phase =
        .minting { agentId := "did:web:a", registryBaseUrl := "http://registry-a" } := by
  have phases : firstMint.callers[0]?.map (fun caller => caller.phase) =
      some (.minting { agentId := "did:web:a", registryBaseUrl := "http://registry-a" }) := by
    decide +kernel
  exact Option.map_eq_some_iff.mp phases

def issuedAnswers : RegistryAnswers where
  challenge := answeredOnce 200
    "\x7b\"nonce\":\"n\",\"expires_at\":\"1800000060\",\"signing_input\":\"s\"\x7d"
  token := answeredOnce 200 "\x7b\"token\":\"h.eyJqdGkiOiJhIn0.s\",\"expires_at\":1900000000\x7d"

theorem issued_answers_promise :
    ∃ caller, firstMint.callers[0]? = some caller ∧
      MintPromise (fun _ => none) firstMint 0 caller
        (mint mintPlatform demoSigner issuedAnswers) := by
  obtain ⟨caller, found, minting⟩ := firstMint_minting
  have succeeds : (mint mintPlatform demoSigner issuedAnswers).isOk = true := by decide +kernel
  have typed : Typed (mint mintPlatform demoSigner issuedAnswers) := by
    intro step error failed
    rw [failed] at succeeds
    cases succeeds
  exact ⟨caller, found, (mint_promise_iff_readable (fun _ => none) firstMint found minting
    mintPlatform demoSigner issuedAnswers).mpr
      ((typed_mint_iff mintPlatform demoSigner issuedAnswers).mp typed)⟩

/-- A proxy answers the challenge with a page of its own. -/
def proxyAnswers : RegistryAnswers where
  challenge := answeredOnce 200 "<html>login</html>"
  token := answeredOnce 200 ""

theorem proxy_page_breaks_promise :
    ∃ caller, firstMint.callers[0]? = some caller ∧
      caller.phase =
        .minting { agentId := "did:web:a", registryBaseUrl := "http://registry-a" } ∧
      ¬ MintPromise (fun _ => none) firstMint 0 caller
        (mint mintPlatform demoSigner proxyAnswers) := by
  obtain ⟨caller, found, minting⟩ := firstMint_minting
  refine ⟨caller, found, minting, ?_⟩
  intro promise
  have unclassed : (match mint mintPlatform demoSigner proxyAnswers with
      | .ok _ => true
      | .error error => error.errorClass.isSome) = false := by decide +kernel
  cases outcome : mint mintPlatform demoSigner proxyAnswers with
  | ok minted =>
      rw [outcome] at unclassed
      cases unclassed
  | error error =>
      rw [outcome] at unclassed
      change error.errorClass.isSome = false at unclassed
      rw [promise.typed error outcome] at unclassed
      cases unclassed

end AcdpPlayground.Auth
