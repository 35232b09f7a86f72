/-
Percent-encoding of texts as `urllib.parse.quote` does it, and the decoding of one
component: escapes to bytes, bytes to text as UTF-8.
-/

import AcdpPlayground.Foundation.TextEncoding

namespace AcdpPlayground.PercentEncoding

open PythonText TextEncoding

/-- Letters, digits and `_.-~`, which `quote` never encodes. -/
def isAlwaysSafe (byte : Nat) : Bool :=
  (65 ≤ byte && byte ≤ 90) || (97 ≤ byte && byte ≤ 122) || isAsciiDigit byte ||
    [95, 46, 45, 126].contains byte

def upperHexDigit (value : Nat) : Nat :=
  if value < 10 then 48 + value else 55 + value

/-- `'%{:02X}'` of one byte. -/
def escape (byte : Nat) : Text :=
  [37, upperHexDigit (byte / 16), upperHexDigit (byte % 16)]

def quoteByte (safe : Text) (byte : Nat) : Text :=
  if isAlwaysSafe byte || safe.contains byte then [byte] else escape byte

/-- `quote(given, safe)`; nothing when a surrogate cannot be encoded. -/
def quote (safe given : Text) : Option Text :=
  (encodeUtf8 given).map (fun bytes => bytes.flatMap (quoteByte safe))

/-- The bytes of a component, where `%` needs two hexadecimal digits behind it. -/
def unescape : Text → Option Bytes
  | [] => some []
  | 37 :: high :: low :: rest => do
      let first ← hexValue high
      let second ← hexValue low
      return (first * 16 + second) :: (← unescape rest)
  | point :: rest =>
      if point = 37 ∨ 128 ≤ point then none else (unescape rest).map (point :: ·)

def percentDecode (given : Text) : Option Text :=
  (unescape given).bind decodeUtf8

/-! ### Round trip -/

theorem isAlwaysSafe_ascii {byte : Nat} (safe : isAlwaysSafe byte = true) :
    byte < 128 ∧ byte ≠ 37 := by
  simp only [isAlwaysSafe, isAsciiDigit, Bool.or_eq_true, Bool.and_eq_true, decide_eq_true_eq,
    List.contains_iff_mem, List.mem_cons, List.not_mem_nil, or_false] at safe
  omega

theorem hexValue_upperHexDigit : ∀ value < 16, hexValue (upperHexDigit value) = some value := by
  decide

def SafePoints (safe : Text) : Prop :=
  ∀ point ∈ safe, point < 128 ∧ point ≠ 37

theorem quoteByte_cases {safe : Text} (plain : SafePoints safe) {byte : Nat} (small : byte < 256) :
    (quoteByte safe byte = [byte] ∧ byte < 128 ∧ byte ≠ 37 ∧
        (isAlwaysSafe byte = true ∨ byte ∈ safe)) ∨
      quoteByte safe byte = escape byte ∧ byte / 16 < 16 ∧ byte % 16 < 16 := by
  unfold quoteByte
  by_cases kept : (isAlwaysSafe byte || safe.contains byte) = true
  · left
    rw [if_pos kept]
    rcases Bool.or_eq_true_iff.mp kept with always | given
    · obtain ⟨ascii, noPercent⟩ := isAlwaysSafe_ascii always
      exact ⟨rfl, ascii, noPercent, .inl always⟩
    · have member := List.contains_iff_mem.mp given
      exact ⟨rfl, (plain byte member).1, (plain byte member).2, .inr member⟩
  · right
    rw [if_neg kept]
    exact ⟨rfl, by omega, by omega⟩

theorem unescape_quoteByte {safe : Text} (plain : SafePoints safe) {byte : Nat}
    (small : byte < 256) (rest : Text) :
    unescape (quoteByte safe byte ++ rest) = (unescape rest).map (byte :: ·) := by
  rcases quoteByte_cases plain small with ⟨same, ascii, noPercent, _⟩ | ⟨same, high, low⟩
  · rw [same, List.singleton_append, unescape]
    · rw [if_neg (by omega)]
    · intro _ _ _ isPercent
      exact absurd isPercent noPercent
  · rw [same]
    change unescape (37 :: _ :: _ :: rest) = _
    rw [unescape, hexValue_upperHexDigit _ high, hexValue_upperHexDigit _ low]
    have whole : byte / 16 * 16 + byte % 16 = byte := by omega
    simp only [bind, Option.bind, whole]
    cases unescape rest <;> rfl

theorem unescape_quoted {safe : Text} (plain : SafePoints safe) {bytes : Bytes}
    (small : ∀ byte ∈ bytes, byte < 256) :
    unescape (bytes.flatMap (quoteByte safe)) = some bytes := by
  induction bytes with
  | nil => rfl
  | cons byte rest ih =>
      rw [List.flatMap_cons, unescape_quoteByte plain (small byte List.mem_cons_self),
        ih (fun other member => small other (List.mem_cons_of_mem _ member))]
      rfl

theorem percentDecode_quote {safe given encoded : Text} (plain : SafePoints safe)
    (quoted : quote safe given = some encoded) : percentDecode encoded = some given := by
  obtain ⟨bytes, isBytes, rfl⟩ := Option.map_eq_some_iff.mp quoted
  unfold percentDecode
  rw [unescape_quoted plain (encodeUtf8_lt isBytes), Option.bind_some,
    decodeUtf8_of_encodeUtf8 isBytes]

/-! ### What an encoded text holds -/

/-- Every `%` begins an escape, and nothing else is outside `accepts`. -/
def wellEscaped (accepts : Nat → Bool) : Text → Bool
  | [] => true
  | 37 :: high :: low :: rest =>
      (hexValue high).isSome && (hexValue low).isSome && wellEscaped accepts rest
  | point :: rest => point ≠ 37 && accepts point && wellEscaped accepts rest

theorem wellEscaped_quoteByte {safe : Text} (plain : SafePoints safe) {accepts : Nat → Bool}
    (always : ∀ point, isAlwaysSafe point = true → accepts point = true)
    (given : ∀ point ∈ safe, accepts point = true) {byte : Nat} (small : byte < 256)
    (rest : Text) :
    wellEscaped accepts (quoteByte safe byte ++ rest) = wellEscaped accepts rest := by
  rcases quoteByte_cases plain small with ⟨same, _, noPercent, kept⟩ | ⟨same, high, low⟩
  · have accepted : accepts byte = true := by
      rcases kept with isSafe | member
      · exact always byte isSafe
      · exact given byte member
    rw [same, List.singleton_append, wellEscaped]
    · rw [accepted, decide_eq_true noPercent]
      rfl
    · intro _ _ _ isPercent
      exact absurd isPercent noPercent
  · rw [same]
    change wellEscaped accepts (37 :: _ :: _ :: rest) = _
    rw [wellEscaped, hexValue_upperHexDigit _ high, hexValue_upperHexDigit _ low]
    rfl

theorem wellEscaped_quote_append {safe encoded given : Text} (plain : SafePoints safe)
    {accepts : Nat → Bool} (always : ∀ point, isAlwaysSafe point = true → accepts point = true)
    (accepted : ∀ point ∈ safe, accepts point = true) (quoted : quote safe given = some encoded)
    (rest : Text) :
    wellEscaped accepts (encoded ++ rest) = wellEscaped accepts rest := by
  obtain ⟨bytes, isBytes, rfl⟩ := Option.map_eq_some_iff.mp quoted
  have small := encodeUtf8_lt isBytes
  clear isBytes quoted
  induction bytes with
  | nil => rfl
  | cons byte more ih =>
      rw [List.flatMap_cons, List.append_assoc,
        wellEscaped_quoteByte plain always accepted (small byte List.mem_cons_self)]
      exact ih (fun other member => small other (List.mem_cons_of_mem _ member))

/-- A character that is not escaped is safe, and the escapes are made of safe ones. -/
theorem mem_quote {safe given encoded : Text} (plain : SafePoints safe)
    (quoted : quote safe given = some encoded) {point : Nat} (member : point ∈ encoded) :
    point = 37 ∨ isAlwaysSafe point = true ∨ point ∈ safe := by
  obtain ⟨bytes, isBytes, rfl⟩ := Option.map_eq_some_iff.mp quoted
  obtain ⟨byte, inside, written⟩ := List.mem_flatMap.mp member
  have digit : ∀ value < 16, isAlwaysSafe (upperHexDigit value) = true := by decide
  rcases quoteByte_cases plain (encodeUtf8_lt isBytes byte inside) with
    ⟨same, _, _, kept⟩ | ⟨same, high, low⟩
  · rw [same, List.mem_singleton] at written
    rw [written]
    exact .inr kept
  · rw [same] at written
    rcases List.mem_cons.mp written with isPercent | later
    · exact .inl isPercent
    · rcases List.mem_cons.mp later with isHigh | last
      · rw [isHigh]
        exact .inr (.inl (digit _ high))
      · rw [List.mem_singleton.mp last]
        exact .inr (.inl (digit _ low))

theorem exists_quote (safe : Text) {given : Text}
    (encodable : ∀ point ∈ given, ∃ bytes, encodePoint point = some bytes) :
    ∃ encoded, quote safe given = some encoded := by
  have bytes : ∃ bytes, encodeUtf8 given = some bytes := by
    induction given with
    | nil => exact ⟨[], rfl⟩
    | cons point rest ih =>
        obtain ⟨head, isHead⟩ := encodable point List.mem_cons_self
        obtain ⟨tail, isTail⟩ := ih (fun other member => encodable other (List.mem_cons_of_mem _ member))
        refine ⟨head ++ tail, ?_⟩
        rw [encodeUtf8, isHead, isTail]
        rfl
  obtain ⟨encodedBytes, isBytes⟩ := bytes
  refine ⟨encodedBytes.flatMap (quoteByte safe), ?_⟩
  unfold quote
  rw [isBytes]
  rfl

end AcdpPlayground.PercentEncoding
