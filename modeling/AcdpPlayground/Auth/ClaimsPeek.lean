/-
`_decode_unverified_claims` on the tokens that a registry issues, whose claims are any JSON
object in any serialisation, and on any other string.

The claims come back exactly, whatever the length of the payload, unless one of their
integers is written with more digits than the interpreter converts: `json.loads` then raises
a `ValueError` and there are no claims. Nothing is raised as long as `json.loads` raises
nothing but `ValueError`s.
-/

import AcdpPlayground.Auth.MintFailures
import AcdpPlayground.Foundation.Base64Url

namespace AcdpPlayground.Auth

open PythonText JsonValue JsonText TextEncoding Base64Url KeyedTable

/-! ### Tokens -/

def compactToken (header : Text) (raw : Bytes) (signature : Text) : Text :=
  header ++ text "." ++ base64Url raw ++ text "." ++ signature

/-- A text that says the claims, with their members in any order and their integers in these
digits. -/
def Serialises (claims : List (Text × Json)) (written : Text) (integers : List Text) : Prop :=
  ∃ constants nesting stated, TextOf constants nesting written (.object stated) integers ∧
    Json.Same (.object stated) (.object claims)

/-- `base64.urlsafe_b64decode(payload_b64 + padding)`, when there is a payload. -/
def payloadBytes (token : Text) : Option Bytes :=
  (payloadOf token).bind (fun payload => urlsafeB64decode (payload ++ paddingFor payload))

def isValueError : LoadFailure → Bool
  | .undecodable | .malformed | .overlong => true
  | .tooDeep => false

/-- If `json.loads` of the payload fails at all, then with a `ValueError`. -/
def OnlyValueErrors (platform : MintPlatform) (token : Text) : Prop :=
  ∀ raw failure, payloadBytes token = some raw → loads platform.depth raw = .error failure →
    isValueError failure = true

theorem payloadOf_compactToken {header : Text} {raw : Bytes} (noDot : 46 ∉ header)
    (bytes : ∀ byte ∈ raw, byte < 256) (signature : Text) :
    payloadOf (compactToken header raw signature) = some (base64Url raw) := by
  have dot : text "." = [46] := rfl
  have first := cut_of_head_absent 46 [] (base64Url raw ++ [46] ++ signature) noDot
  have second := cut_of_head_absent 46 [] signature (dot_not_mem_base64Url bytes)
  have whole : compactToken header raw signature =
      header ++ [46] ++ (base64Url raw ++ [46] ++ signature) := by
    simp only [compactToken, dot, List.append_assoc]
  unfold payloadOf
  rw [whole, dot, first, Option.map_some]
  simp only [second]

theorem payloadBytes_compactToken {header : Text} {raw : Bytes} (noDot : 46 ∉ header)
    (bytes : ∀ byte ∈ raw, byte < 256) (signature : Text) :
    payloadBytes (compactToken header raw signature) = some raw := by
  unfold payloadBytes
  rw [payloadOf_compactToken noDot bytes, Option.bind_some, urlsafeB64decode_base64Url bytes]

/-! ### The peek -/

def claimsOf (platform : MintPlatform) (raw : Bytes) : Option (List (Text × Json)) :=
  match loads platform.depth raw with
  | .error .tooDeep => none
  | .ok (.object members) => some members
  | _ => some []

theorem decodeUnverifiedClaims_eq (platform : MintPlatform) (token : Text) :
    decodeUnverifiedClaims platform token =
      (payloadBytes token).elim (some []) (claimsOf platform) := by
  unfold decodeUnverifiedClaims payloadBytes
  cases payloadOf token with
  | none => rfl
  | some payload =>
      simp only [Option.bind_some, paddingFor]
      cases urlsafeB64decode (payload ++ List.replicate ((4 - payload.length % 4) % 4) 61) with
      | none => rfl
      | some raw => rfl

theorem loads_distinct {depth : Nat} {raw : Bytes} {members : List (Text × Json)}
    (loaded : loads depth raw = .ok (.object members)) : (keys members).Nodup := by
  unfold loads at loaded
  split at loaded
  · cases loaded
  · next given _ =>
      cases decoded : JsonText.decode depth given with
      | error failure =>
          rw [decoded] at loaded
          cases loaded
      | ok value =>
          rw [decoded] at loaded
          cases loaded
          obtain ⟨integers, start, after, _, held, _⟩ := decode_says decoded
          exact held.object.2.1

theorem claimsOf_dict {platform : MintPlatform} {raw : Bytes}
    (caught : ∀ failure, loads platform.depth raw = .error failure →
      isValueError failure = true) :
    ∃ returned, claimsOf platform raw = some returned ∧ (keys returned).Nodup := by
  unfold claimsOf
  split
  · next deep =>
      have impossible := caught _ deep
      cases impossible
  · next members loaded => exact ⟨members, rfl, loads_distinct loaded⟩
  · exact ⟨[], rfl, List.nodup_nil⟩

/-- Any string gives a dictionary. -/
theorem decodeUnverifiedClaims_dict {platform : MintPlatform} {token : Text}
    (caught : OnlyValueErrors platform token) :
    ∃ returned, decodeUnverifiedClaims platform token = some returned ∧
      (keys returned).Nodup := by
  rw [decodeUnverifiedClaims_eq]
  cases found : payloadBytes token with
  | none => exact ⟨[], rfl, List.nodup_nil⟩
  | some raw => exact claimsOf_dict (fun failure failed => caught raw failure found failed)

theorem claimsOf_serialised {platform : MintPlatform} {constants : Bool} {nesting : Nat}
    {written : Text} {stated : List (Text × Json)} {integers : List Text} {raw : Bytes}
    (said : TextOf constants nesting written (.object stated) integers)
    (encoded : encodeUtf8 written = some raw)
    (caught : ∀ failure, loads platform.depth raw = .error failure →
      isValueError failure = true) :
    claimsOf platform raw = some stated ∧ Short integers ∨
      claimsOf platform raw = some [] ∧ ¬Short integers := by
  unfold claimsOf
  rcases loads_cases said encoded platform.depth with ⟨ends, short⟩ | ⟨ends, long⟩ | ⟨ends, _⟩
  · rw [ends]
    exact .inl ⟨rfl, short⟩
  · rw [ends]
    exact .inr ⟨rfl, long⟩
  · have impossible := caught _ ends
    cases impossible

/-- An integer with too many digits is a member of something. -/
theorem members_of_long {constants : Bool} {nesting : Nat} {written : Text}
    {stated : List (Text × Json)} {integers : List Text}
    (said : TextOf constants nesting written (.object stated) integers)
    (long : ¬Short integers) : stated ≠ [] := by
  obtain ⟨start, after, _, held, _⟩ := said
  intro empty
  rw [held.object.2.2 empty] at long
  exact long short_nil

/-- Enough call depth for the nesting of the claims keeps `json.loads` to `ValueError`s. -/
theorem onlyValueErrors_of_depth {platform : MintPlatform} {constants : Bool} {nesting : Nat}
    {written header : Text} {stated : List (Text × Json)} {integers : List Text} {raw : Bytes}
    (said : TextOf constants nesting written (.object stated) integers)
    (encoded : encodeUtf8 written = some raw) (noDot : 46 ∉ header) (signature : Text)
    (enough : nesting ≤ platform.depth) :
    OnlyValueErrors platform (compactToken header raw signature) := by
  intro bytes failure found failed
  rw [payloadBytes_compactToken noDot (encodeUtf8_lt encoded)] at found
  cases found
  rcases loads_cases said encoded platform.depth with ⟨ends, _⟩ | ⟨ends, _⟩ | ⟨_, deep⟩
  · rw [failed] at ends
    cases ends
  · rw [failed] at ends
    cases ends
    rfl
  · omega

theorem peek_serialised {platform : MintPlatform} {constants : Bool} {nesting : Nat}
    {written header signature : Text} {stated : List (Text × Json)} {integers : List Text}
    {raw : Bytes} (said : TextOf constants nesting written (.object stated) integers)
    (encoded : encodeUtf8 written = some raw) (noDot : 46 ∉ header)
    (caught : OnlyValueErrors platform (compactToken header raw signature)) :
    decodeUnverifiedClaims platform (compactToken header raw signature) = some stated ∧
        Short integers ∨
      decodeUnverifiedClaims platform (compactToken header raw signature) = some [] ∧
        ¬Short integers := by
  have found := payloadBytes_compactToken noDot (encodeUtf8_lt encoded) signature
  rw [decodeUnverifiedClaims_eq, found]
  exact claimsOf_serialised said encoded (fun failure failed => caught raw failure found failed)

/-- Issued claims are returned exactly, unless one of their integers has too many digits; any
string at all gives a dictionary. -/
theorem claims_peek_exact (platform : MintPlatform) :
    (∀ (claims : List (Text × Json)) (written : Text) (integers : List Text) (raw : Bytes)
        (header signature : Text),
      Serialises claims written integers → encodeUtf8 written = some raw → 46 ∉ header →
      OnlyValueErrors platform (compactToken header raw signature) →
        ((∃ returned,
            decodeUnverifiedClaims platform (compactToken header raw signature) =
              some returned ∧
            Json.Same (.object returned) (.object claims)) ↔ Short integers) ∧
        (¬Short integers →
          decodeUnverifiedClaims platform (compactToken header raw signature) = some [])) ∧
    ∀ token, OnlyValueErrors platform token →
      ∃ returned, decodeUnverifiedClaims platform token = some returned ∧
        (keys returned).Nodup := by
  constructor
  · rintro claims written integers raw header signature ⟨constants, nesting, stated, said, same⟩
      encoded noDot caught
    rcases peek_serialised said encoded noDot caught with ⟨peeked, short⟩ | ⟨peeked, long⟩
    · constructor
      · exact iff_of_true ⟨stated, peeked, same⟩ short
      · intro long
        exact absurd short long
    · refine ⟨iff_of_false ?_ long, fun _ => peeked⟩
      rintro ⟨returned, again, other⟩
      rw [peeked] at again
      cases again
      exact members_of_long said long (same.nil_iff.mpr (other.nil_iff.mp rfl))
  · intro token caught
    exact decodeUnverifiedClaims_dict caught

/-- Issued with the members the other way round. -/
def demoClaims : List (Text × Json) :=
  [(text "jti", .string (text "a")), (text "exp", .integer 1900000000)]

def demoWritten : Text :=
  text "\x7b\"exp\":1900000000,\"jti\":\"a\"\x7d"

theorem textOf_demoWritten :
    TextOf true 1 demoWritten
      (.object [(text "exp", .integer 1900000000), (text "jti", .string (text "a"))])
      [text "1900000000"] := by
  have shape : demoWritten = 123 :: 34 :: (text "exp" ++ 34 :: 58 :: (49 :: text "900000000" ++
      44 :: 34 :: (text "jti" ++ 34 :: 58 :: 34 :: (text "a" ++ 34 :: [125])))) := by
    decide +kernel
  have size : digitsValue (49 :: text "900000000") = 1900000000 := by decide +kernel
  have number : ∀ rest, NumberOf (49 :: text "900000000" ++ rest) rest
      (.integer (digitsValue (49 :: text "900000000"))) [49 :: text "900000000"] :=
    NumberOf.of_digits (by decide) (by decide)
  rw [size] at number
  have exp : ∀ rest, StringOf (text "exp" ++ 34 :: rest) rest (text "exp") :=
    StringOf.of_plain (by decide)
  have jti : ∀ rest, StringOf (text "jti" ++ 34 :: rest) rest (text "jti") :=
    StringOf.of_plain (by decide)
  have value : ∀ rest, StringOf (text "a" ++ 34 :: rest) rest (text "a") :=
    StringOf.of_plain (by decide)
  have first : ∀ rest, MemberOf (ValueOf true 0)
      (34 :: (text "exp" ++ 34 :: 58 :: (49 :: text "900000000" ++ rest))) rest
      (text "exp", .integer 1900000000) [text "1900000000"] :=
    fun rest => .named (exp _) (.none _) (.none _) (.number (number rest))
  have second : ∀ rest, MemberOf (ValueOf true 0)
      (34 :: (text "jti" ++ 34 :: 58 :: 34 :: (text "a" ++ 34 :: rest))) rest
      (text "jti", .string (text "a")) [] :=
    fun rest => .named (jti _) (.none _) (.none _) (.string (value rest))
  have whole := ContainerOf.object (.none _)
    (.more (first _) (.none _) (.none _) (.last (second [125]) (.none _)))
  rw [shape]
  exact ⟨_, _, .none _, .inr whole, .none _⟩

theorem demo_claims_returned :
    (∃ returned,
      decodeUnverifiedClaims mintPlatform (compactToken (text "h") demoWritten (text "s")) =
        some returned ∧
      Json.Same (.object returned) (.object demoClaims)) ∧
    ∃ returned, decodeUnverifiedClaims mintPlatform (text "h.W10.s") = some returned ∧
      (keys returned).Nodup := by
  have encoded : encodeUtf8 demoWritten = some demoWritten := encodeUtf8_ascii (by decide +kernel)
  have noDot : 46 ∉ text "h" := by decide
  have reordered : Json.SameMembers
      [(text "exp", .integer 1900000000), (text "jti", .string (text "a"))]
      ([(text "jti", .string (text "a"))] ++ (text "exp", .integer 1900000000) :: []) :=
    .cons (.refl _) (@Json.SameMembers.cons _ _ _ [] [] [] (.refl _) .nil)
  have serialises : Serialises demoClaims demoWritten [text "1900000000"] :=
    ⟨true, 1, _, textOf_demoWritten, .object reordered⟩
  have caught : OnlyValueErrors mintPlatform (compactToken (text "h") demoWritten (text "s")) :=
    onlyValueErrors_of_depth textOf_demoWritten encoded noDot _ (by decide)
  have short : Short [text "1900000000"] := by
    intro digits member
    rw [List.mem_singleton.mp member]
    decide
  have array : OnlyValueErrors mintPlatform (text "h.W10.s") := by
    intro raw failure found failed
    have payload : payloadBytes (text "h.W10.s") = some [91, 93] := by decide +kernel
    have loaded : (loads mintPlatform.depth [91, 93]).isOk = true := by decide +kernel
    rw [payload] at found
    cases found
    rw [failed] at loaded
    cases loaded
  obtain ⟨issued, others⟩ := claims_peek_exact mintPlatform
  have returned := issued demoClaims demoWritten [text "1900000000"] demoWritten (text "h")
    (text "s") serialises encoded noDot caught
  exact ⟨returned.1.mpr short, others (text "h.W10.s") array⟩

/-- One digit more than the interpreter converts. -/
def longDigits : Text :=
  49 :: List.replicate 4300 48

def longWritten : Text :=
  text "\x7b\"n\":" ++ longDigits ++ text "\x7d"

theorem digitsValue_power (count : Nat) :
    digitsValue (49 :: List.replicate count 48) = 10 ^ count := by
  induction count with
  | zero => rfl
  | succ count ih =>
      unfold digitsValue at ih ⊢
      rw [List.replicate_succ', ← List.cons_append, List.foldl_append, ih, Nat.pow_succ]
      rfl

theorem textOf_longWritten :
    TextOf true 1 longWritten (.object [(text "n", .integer (10 ^ 4300 : Nat))]) [longDigits] := by
  have digits : ∀ digit ∈ longDigits, isAsciiDigit digit = true := by
    intro digit member
    rcases List.mem_cons.mp member with rfl | zero
    · rfl
    · rw [List.eq_of_mem_replicate zero]
      rfl
  have number : NumberOf (longDigits ++ [125]) [125] (.integer (digitsValue longDigits))
      [longDigits] := NumberOf.of_digits (by decide) digits [125]
  have size : digitsValue longDigits = 10 ^ 4300 := digitsValue_power 4300
  rw [size] at number
  have member : MemberOf (ValueOf true 0) (34 :: 110 :: 34 :: 58 :: (longDigits ++ [125])) [125]
      (text "n", .integer (10 ^ 4300 : Nat)) [longDigits] :=
    .named (.plain (by decide) (by decide) (by decide) (.close _)) (.none _) (.none _)
      (.number number)
  have whole := ContainerOf.object (.none _) (.last member (.none _))
  exact ⟨_, _, .none _, .inr whole, .none _⟩

/-- With such an integer among the claims, nothing of them is returned. -/
theorem long_integer_not_returned :
    Serialises [(text "n", .integer (10 ^ 4300 : Nat))] longWritten [longDigits] ∧
      encodeUtf8 longWritten = some longWritten ∧
      OnlyValueErrors mintPlatform (compactToken (text "h") longWritten (text "s")) ∧
      decodeUnverifiedClaims mintPlatform (compactToken (text "h") longWritten (text "s")) =
        some [] ∧
      ¬Json.Same (.object []) (.object [(text "n", .integer (10 ^ 4300 : Nat))]) := by
  have ascii : isAscii longWritten = true := by
    simp only [isAscii, longWritten, longDigits, List.all_append, List.all_cons,
      List.all_replicate]
    decide
  have encoded := encodeUtf8_ascii ascii
  have noDot : 46 ∉ text "h" := by decide
  have caught : OnlyValueErrors mintPlatform (compactToken (text "h") longWritten (text "s")) :=
    onlyValueErrors_of_depth textOf_longWritten encoded noDot _ (by decide)
  have long : ¬Short [longDigits] := by
    intro short
    have bound := short longDigits (List.mem_singleton_self _)
    rw [longDigits, List.length_cons, List.length_replicate] at bound
    exact absurd bound (by decide)
  refine ⟨⟨true, 1, _, textOf_longWritten, .refl _⟩, encoded, caught, ?_, ?_⟩
  · rcases peek_serialised textOf_longWritten encoded noDot caught with ⟨_, short⟩ | ⟨peeked, _⟩
    · exact absurd short long
    · exact peeked
  · intro same
    cases same.nil_iff.mp rfl

/-! ### What a minted token keeps -/

theorem stringClaim_same {claims others : List (Text × Json)}
    (same : Json.Same (.object claims) (.object others)) (distinct : (keys claims).Nodup)
    (name : String) : stringClaim claims name = stringClaim others name := by
  have found := Json.Same.lookup same distinct (text name)
  unfold stringClaim
  revert found
  cases claims.lookup (text name) <;> cases others.lookup (text name) <;> rintro ⟨⟩
  · rfl
  · next equal => cases equal <;> rfl

/-- The peek returns only where `json.loads` kept to `ValueError`s. -/
theorem onlyValueErrors_of_returned {platform : MintPlatform} {token : Text}
    {claims : List (Text × Json)}
    (returned : decodeUnverifiedClaims platform token = some claims) :
    OnlyValueErrors platform token := by
  intro raw failure found failed
  rw [decodeUnverifiedClaims_eq, found] at returned
  cases failure with
  | undecodable => rfl
  | malformed => rfl
  | overlong => rfl
  | tooDeep =>
      simp only [Option.elim_some, claimsOf, failed] at returned
      cases returned

theorem readToken_peeked {platform : MintPlatform} {tk : Json} {minted : MintedToken}
    (read : readToken platform tk = .ok minted) :
    ∃ claims, decodeUnverifiedClaims platform minted.token = some claims ∧
      minted.tenant = stringClaim claims "tenant" ∧ minted.jti = stringClaim claims "jti" := by
  simp only [readToken, bind, Except.bind] at read
  split at read
  · cases read
  · split at read
    · split at read
      · cases read
      · next decoded =>
          split at read
          · cases read
          · split at read
            · cases read
            · split at read
              · cases read
              · cases read
                exact ⟨_, decoded, rfl, rfl⟩
    · cases read

theorem mint_peeked {platform : MintPlatform} {signer : Signer} {answers : RegistryAnswers}
    {minted : MintedToken} (succeeded : mint platform signer answers = .ok minted) :
    ∃ claims, decodeUnverifiedClaims platform minted.token = some claims ∧
      minted.tenant = stringClaim claims "tenant" ∧ minted.jti = stringClaim claims "jti" := by
  unfold mint at succeeded
  split at succeeded
  · cases succeeded
  · unfold exchangeStep at succeeded
    split at succeeded
    · cases succeeded
    · split at succeeded
      · split at succeeded
        · cases succeeded
        · next value _ =>
            unfold readFields at succeeded
            split at succeeded
            · next fields read =>
                cases succeeded
                exact readToken_peeked read
            · cases succeeded
            · split at succeeded <;> cases succeeded
      · cases succeeded

/-- A minted token is cached with the `tenant` and the `jti` of the claims that it was issued
with, so that it is revoked under its own name. -/
theorem minted_claims {platform : MintPlatform} {signer : Signer} {answers : RegistryAnswers}
    {minted : MintedToken} (succeeded : mint platform signer answers = .ok minted)
    {claims : List (Text × Json)} {written header signature : Text} {integers : List Text}
    {raw : Bytes} (serialises : Serialises claims written integers)
    (encoded : encodeUtf8 written = some raw) (noDot : 46 ∉ header)
    (issued : minted.token = compactToken header raw signature) (short : Short integers) :
    minted.tenant = stringClaim claims "tenant" ∧ minted.jti = stringClaim claims "jti" := by
  obtain ⟨peeked, decoded, tenant, jti⟩ := mint_peeked succeeded
  obtain ⟨constants, nesting, stated, said, same⟩ := serialises
  rw [issued] at decoded
  have caught := onlyValueErrors_of_returned decoded
  have held : peeked = stated := by
    rcases peek_serialised said encoded noDot caught with ⟨ends, _⟩ | ⟨_, long⟩
    · rw [ends] at decoded
      exact (Option.some.inj decoded).symm
    · exact absurd short long
  obtain ⟨start, after, _, value, _⟩ := said
  have distinct := value.object.2.1
  rw [tenant, jti, held, stringClaim_same same distinct, stringClaim_same same distinct]
  exact ⟨rfl, rfl⟩

end AcdpPlayground.Auth
