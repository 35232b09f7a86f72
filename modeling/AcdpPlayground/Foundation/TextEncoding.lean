/-
Bytes to text and back: UTF-8, UTF-16 and UTF-32 as Python decodes them with
`surrogatepass`, the encoding that `json.loads` detects, and strict UTF-8 encoding. Bytes
are numbers; one above 255 is part of no encoded text.
-/

import AcdpPlayground.Foundation.JsonMeaning

namespace AcdpPlayground.TextEncoding

open PythonText JsonValue

abbrev Bytes := List Nat

/-! ### UTF-8 -/

def isTail (byte : Nat) : Bool :=
  0x80 ≤ byte && byte ≤ 0xBF

/-- One character from its lead byte, with the bytes behind it. Surrogates pass. -/
def utf8Point : Bytes → Option (Nat × Bytes)
  | [] => none
  | lead :: rest =>
      if lead < 0x80 then some (lead, rest)
      else if 0xC2 ≤ lead && lead ≤ 0xDF then
        match rest with
        | second :: rest =>
            if isTail second then some ((lead - 0xC0) * 0x40 + (second - 0x80), rest) else none
        | _ => none
      else if 0xE0 ≤ lead && lead ≤ 0xEF then
        match rest with
        | second :: third :: rest =>
            if isTail second && isTail third && (lead ≠ 0xE0 || 0xA0 ≤ second) then
              some ((lead - 0xE0) * 0x1000 + (second - 0x80) * 0x40 + (third - 0x80), rest)
            else none
        | _ => none
      else if 0xF0 ≤ lead && lead ≤ 0xF4 then
        match rest with
        | second :: third :: fourth :: rest =>
            if isTail second && isTail third && isTail fourth &&
                (lead ≠ 0xF0 || 0x90 ≤ second) && (lead ≠ 0xF4 || second ≤ 0x8F) then
              some ((lead - 0xF0) * 0x40000 + (second - 0x80) * 0x1000 + (third - 0x80) * 0x40 +
                (fourth - 0x80), rest)
            else none
        | _ => none
      else none

/-- Every character takes at least a byte, so that the number of bytes is fuel enough. -/
def utf8Points : Nat → Bytes → Option Text
  | _, [] => some []
  | 0, _ => none
  | fuel + 1, bytes => do
      let (point, rest) ← utf8Point bytes
      return point :: (← utf8Points fuel rest)

def decodeUtf8 (bytes : Bytes) : Option Text :=
  utf8Points bytes.length bytes

/-- `str.encode()` of one character; surrogates do not pass. -/
def encodePoint (point : Nat) : Option Bytes :=
  if point < 0x80 then some [point]
  else if point < 0x800 then some [0xC0 + point / 0x40, 0x80 + point % 0x40]
  else if 0xD800 ≤ point && point ≤ 0xDFFF then none
  else if point < 0x10000 then
    some [0xE0 + point / 0x1000, 0x80 + point / 0x40 % 0x40, 0x80 + point % 0x40]
  else if point < 0x110000 then
    some [0xF0 + point / 0x40000, 0x80 + point / 0x1000 % 0x40, 0x80 + point / 0x40 % 0x40,
      0x80 + point % 0x40]
  else none

def encodeUtf8 : Text → Option Bytes
  | [] => some []
  | point :: rest => do
      return (← encodePoint point) ++ (← encodeUtf8 rest)

theorem encodePoint_ne_nil {point : Nat} {bytes : Bytes} (encoded : encodePoint point = some bytes) :
    bytes ≠ [] := by
  unfold encodePoint at encoded
  split_ifs at encoded <;> cases encoded <;> exact List.cons_ne_nil _ _

theorem isTail_low (value : Nat) : isTail (0x80 + value % 0x40) = true := by
  unfold isTail
  rw [Bool.and_eq_true, decide_eq_true_eq, decide_eq_true_eq]
  omega

/-- A character is read back from its bytes, whatever follows them. -/
theorem utf8Point_encodePoint {point : Nat} {bytes : Bytes}
    (encoded : encodePoint point = some bytes) (rest : Bytes) :
    utf8Point (bytes ++ rest) = some (point, rest) := by
  unfold encodePoint at encoded
  split_ifs at encoded with ascii two surrogate three four <;> cases encoded <;>
    simp only [List.cons_append, List.nil_append, utf8Point, isTail_low, Bool.true_and, if_true]
  · rw [if_pos ascii]
  · rw [if_neg (by omega), if_pos (by simp; omega)]
    simp only [Option.some.injEq, Prod.mk.injEq, and_true]
    omega
  · rw [if_neg (by omega), if_neg (by simp; omega), if_pos (by simp; omega),
      if_pos (by simp; omega)]
    simp only [Option.some.injEq, Prod.mk.injEq, and_true]
    omega
  · rw [if_neg (by omega), if_neg (by simp; omega), if_neg (by simp; omega),
      if_pos (by simp; omega), if_pos (by simp; omega)]
    simp only [Option.some.injEq, Prod.mk.injEq, and_true]
    omega

theorem decodeUtf8_of_encodeUtf8 {given : Text} {bytes : Bytes}
    (encoded : encodeUtf8 given = some bytes) : decodeUtf8 bytes = some given := by
  have fueled : ∀ fuel, bytes.length ≤ fuel → utf8Points fuel bytes = some given := by
    induction given generalizing bytes with
    | nil =>
        cases encoded
        intro fuel _
        cases fuel with
        | zero => rfl
        | succ fuel => rfl
    | cons point rest ih =>
        obtain ⟨head, isHead, later⟩ := Option.bind_eq_some_iff.mp encoded
        obtain ⟨tail, isTail, same⟩ := Option.bind_eq_some_iff.mp later
        cases same
        intro fuel enough
        have nonempty := encodePoint_ne_nil isHead
        have longer : 0 < head.length := List.length_pos_of_ne_nil nonempty
        rw [List.length_append] at enough
        cases fuel with
        | zero => omega
        | succ fuel =>
            have shape : head ++ tail ≠ [] := List.append_ne_nil_of_left_ne_nil nonempty _
            cases bytes : head ++ tail with
            | nil => exact absurd bytes shape
            | cons lead more =>
                rw [utf8Points]
                · rw [← bytes, utf8Point_encodePoint isHead]
                  have remaining := ih isTail fuel (by omega)
                  simp only [bind, Option.bind, remaining]
                  rfl
                · rintro ⟨⟩
  exact fueled bytes.length (Nat.le_refl _)

theorem encodePoint_head {point : Nat} {bytes : Bytes} (encoded : encodePoint point = some bytes)
    (nonzero : point ≠ 0) : bytes.head? ≠ some 0 := by
  unfold encodePoint at encoded
  split_ifs at encoded <;> cases encoded <;> rw [List.head?_cons, ne_eq, Option.some.injEq] <;>
    omega

theorem encodeUtf8_head {given : Text} {bytes : Bytes} (encoded : encodeUtf8 given = some bytes)
    (nonzero : given.head? ≠ some 0) : bytes.head? ≠ some 0 := by
  cases given with
  | nil =>
      cases encoded
      exact nonzero
  | cons point rest =>
      obtain ⟨head, isHead, later⟩ := Option.bind_eq_some_iff.mp encoded
      obtain ⟨tail, _, same⟩ := Option.bind_eq_some_iff.mp later
      cases same
      rw [List.head?_append_of_ne_nil _ (encodePoint_ne_nil isHead)]
      exact encodePoint_head isHead (fun zero => nonzero (congrArg some zero))

/-- Texts with the same bytes are the same. -/
theorem encodeUtf8_injective {first second : Text} {bytes : Bytes}
    (firstEncoded : encodeUtf8 first = some bytes)
    (secondEncoded : encodeUtf8 second = some bytes) : first = second := by
  have decoded := decodeUtf8_of_encodeUtf8 firstEncoded
  rw [decodeUtf8_of_encodeUtf8 secondEncoded] at decoded
  exact (Option.some.inj decoded).symm

theorem encodePoint_lt {point : Nat} {bytes : Bytes} (encoded : encodePoint point = some bytes) :
    ∀ byte ∈ bytes, byte < 256 := by
  unfold encodePoint at encoded
  split_ifs at encoded with ascii two surrogate three four <;> cases encoded <;>
    intro byte member <;> simp only [List.mem_cons, List.not_mem_nil, or_false] at member <;> omega

theorem encodeUtf8_lt {given : Text} {bytes : Bytes} (encoded : encodeUtf8 given = some bytes) :
    ∀ byte ∈ bytes, byte < 256 := by
  induction given generalizing bytes with
  | nil =>
      cases encoded
      intro byte absent
      cases absent
  | cons point rest ih =>
      obtain ⟨head, isHead, later⟩ := Option.bind_eq_some_iff.mp encoded
      obtain ⟨tail, isTail, same⟩ := Option.bind_eq_some_iff.mp later
      cases same
      intro byte member
      rcases List.mem_append.mp member with first | behind
      · exact encodePoint_lt isHead byte first
      · exact ih isTail byte behind

theorem encodePoint_char (char : Char) : ∃ bytes, encodePoint char.toNat = some bytes := by
  have valid : char.toNat < 0xD800 ∨ (0xDFFF < char.toNat ∧ char.toNat < 0x110000) := char.valid
  unfold encodePoint
  split_ifs with ascii two surrogate three four
  · exact ⟨_, rfl⟩
  · exact ⟨_, rfl⟩
  · simp only [Bool.and_eq_true, decide_eq_true_eq] at surrogate
    omega
  · exact ⟨_, rfl⟩
  · exact ⟨_, rfl⟩
  · omega

theorem encodeUtf8_text (literal : String) : ∃ bytes, encodeUtf8 (text literal) = some bytes := by
  unfold text
  induction literal.toList with
  | nil => exact ⟨[], rfl⟩
  | cons char rest ih =>
      obtain ⟨head, encoded⟩ := encodePoint_char char
      obtain ⟨tail, encodedRest⟩ := ih
      refine ⟨head ++ tail, ?_⟩
      rw [List.map_cons, encodeUtf8, encoded, encodedRest]
      rfl

/-! ### Hexadecimal -/

/-- `digest.hex()`. -/
def hexdigest (digest : List UInt8) : Text :=
  digest.flatMap (fun byte => [hexDigit (byte.toNat / 16), hexDigit (byte.toNat % 16)])

def isAscii (given : Text) : Bool :=
  given.all (fun point => point < 128)

theorem hexdigest_ascii (digest : List UInt8) : isAscii (hexdigest digest) = true := by
  have digit : ∀ value < 16, hexDigit value < 128 := by decide
  unfold isAscii
  rw [List.all_eq_true]
  intro point member
  obtain ⟨byte, _, inside⟩ := List.mem_flatMap.mp member
  have bound := byte.toNat_lt
  rw [decide_eq_true_eq]
  simp only [List.mem_cons, List.not_mem_nil, or_false] at inside
  rcases inside with rfl | rfl
  · exact digit _ (by omega)
  · exact digit _ (by omega)

theorem encodeUtf8_ascii {given : Text} (ascii : isAscii given = true) :
    encodeUtf8 given = some given := by
  induction given with
  | nil => rfl
  | cons point rest ih =>
      obtain ⟨first, later⟩ := Bool.and_eq_true_iff.mp ascii
      have encoded : encodePoint point = some [point] := if_pos (decide_eq_true_eq.mp first)
      rw [encodeUtf8, encoded, ih later]
      rfl

/-! ### UTF-16 and UTF-32 -/

/-- Units of two bytes; an odd byte at the end is an error. -/
def units16 (bigEndian : Bool) : Bytes → Option (List Nat)
  | [] => some []
  | first :: second :: rest =>
      (units16 bigEndian rest).map
        ((if bigEndian then first * 0x100 + second else second * 0x100 + first) :: ·)
  | _ => none

/-- Surrogate pairs are one character; a half alone passes. -/
def joinPairs : List Nat → Text
  | [] => []
  | [point] => [point]
  | high :: low :: rest =>
      if 0xD800 ≤ high && high ≤ 0xDBFF && 0xDC00 ≤ low && low ≤ 0xDFFF then
        (0x10000 + (high - 0xD800) * 0x400 + (low - 0xDC00)) :: joinPairs rest
      else high :: joinPairs (low :: rest)

def decodeUtf16 (bigEndian : Bool) (bytes : Bytes) : Option Text :=
  (units16 bigEndian bytes).map joinPairs

def decodeUtf32 (bigEndian : Bool) : Bytes → Option Text
  | [] => some []
  | first :: second :: third :: fourth :: rest =>
      let point :=
        if bigEndian then ((first * 0x100 + second) * 0x100 + third) * 0x100 + fourth
        else ((fourth * 0x100 + third) * 0x100 + second) * 0x100 + first
      if point < 0x110000 then (decodeUtf32 bigEndian rest).map (point :: ·) else none
  | _ => none

/-! ### Encoding of a JSON body -/

inductive Encoding where
  | utf8
  | utf16 (bigEndian : Bool)
  | utf32 (bigEndian : Bool)

def Encoding.decode : Encoding → Bytes → Option Text
  | .utf8, bytes => decodeUtf8 bytes
  | .utf16 bigEndian, bytes => decodeUtf16 bigEndian bytes
  | .utf32 bigEndian, bytes => decodeUtf32 bigEndian bytes

/-- The byte order marks, in the order they are tried. -/
def orderMarks : List (Bytes × Encoding) :=
  [([0, 0, 0xFE, 0xFF], .utf32 true), ([0xFF, 0xFE, 0, 0], .utf32 false),
    ([0xFE, 0xFF], .utf16 true), ([0xFF, 0xFE], .utf16 false), ([0xEF, 0xBB, 0xBF], .utf8)]

/-- `detect_encoding` of bytes without a mark, by where the zeros are. -/
def detectByZeros : Bytes → Encoding
  | [first, second] =>
      if first = 0 then .utf16 true else if second = 0 then .utf16 false else .utf8
  | first :: second :: third :: fourth :: _ =>
      if first = 0 then (if second ≠ 0 then .utf16 true else .utf32 true)
      else if second = 0 then (if third ≠ 0 || fourth ≠ 0 then .utf16 false else .utf32 false)
      else .utf8
  | _ => .utf8

/-- `s.decode(detect_encoding(s), "surrogatepass")`. -/
def decodeDetected (bytes : Bytes) : Option Text :=
  match orderMarks.find? (fun mark => mark.1.isPrefixOf bytes) with
  | some mark => mark.2.decode (bytes.drop mark.1.length)
  | none => (detectByZeros bytes).decode bytes

/-- Bytes that begin with an ASCII character, and have no zero behind it, are UTF-8. -/
theorem decodeDetected_plain {first : Nat} {more : Bytes} (positive : 0 < first)
    (ascii : first < 128) (nonzero : more.head? ≠ some 0) :
    decodeDetected (first :: more) = decodeUtf8 (first :: more) := by
  have unmarked : orderMarks.find? (fun mark => mark.1.isPrefixOf (first :: more)) = none := by
    rw [List.find?_eq_none]
    intro mark known isMark
    obtain ⟨ending, same⟩ := List.isPrefixOf_iff_prefix.mp isMark
    simp only [orderMarks, List.mem_cons, List.not_mem_nil, or_false] at known
    rcases known with rfl | rfl | rfl | rfl | rfl <;> cases same <;> omega
  have detected : detectByZeros (first :: more) = .utf8 := by
    have other : first ≠ 0 := by omega
    cases more with
    | nil => rfl
    | cons second rest =>
        have next : second ≠ 0 := fun zero => nonzero (congrArg some zero)
        rcases rest with _ | ⟨third, _ | ⟨fourth, rest⟩⟩
        · simp only [detectByZeros, if_neg other, if_neg next]
        · rfl
        · simp only [detectByZeros, if_neg other, if_neg next]
  unfold decodeDetected
  rw [unmarked, detected]
  rfl

/-! ### Base64 -/

def base64Value (byte : Nat) : Option Nat :=
  if 65 ≤ byte ∧ byte ≤ 90 then some (byte - 65)
  else if 97 ≤ byte ∧ byte ≤ 122 then some (byte - 71)
  else if 48 ≤ byte ∧ byte ≤ 57 then some (byte + 4)
  else if byte = 43 then some 62
  else if byte = 47 then some 63
  else none

/-- `binascii.a2b_base64`, not strict: characters outside the alphabet are skipped and a
complete padding ends the input. Place in the group of four, bits left over, pads seen. -/
def a2bBase64 : Nat → Nat → Nat → Bytes → Option Bytes
  | place, _, _, [] => if place = 0 then some [] else none
  | place, left, pads, byte :: rest =>
      if byte = 61 then
        if place < 2 then a2bBase64 place left pads rest
        else if 4 ≤ place + (pads + 1) then some []
        else a2bBase64 place left (pads + 1) rest
      else
        match base64Value byte with
        | none => a2bBase64 place left pads rest
        | some value =>
            match place with
            | 0 => a2bBase64 1 value 0 rest
            | 1 => (a2bBase64 2 (value % 16) 0 rest).map ((left * 4 + value / 16) :: ·)
            | 2 => (a2bBase64 3 (value % 4) 0 rest).map ((left * 16 + value / 4) :: ·)
            | _ => (a2bBase64 0 0 0 rest).map ((left * 64 + value) :: ·)

/-- `base64.urlsafe_b64decode` of a string; what is not ASCII raises as well. -/
def urlsafeB64decode (given : Text) : Option Bytes :=
  if isAscii given then
    a2bBase64 0 0 0 (given.map (fun point =>
      if point = 45 then 43 else if point = 95 then 47 else point))
  else none

/-! ### `json.loads` -/

/-- Only `malformed` is a `JSONDecodeError`. `undecodable` and `overlong` are other
`ValueError`s, `tooDeep` is a `RecursionError`. -/
inductive LoadFailure where
  | undecodable
  | malformed
  | overlong
  | tooDeep
  deriving DecidableEq

def LoadFailure.ofScan : JsonText.Failure → LoadFailure
  | .malformed => .malformed
  | .overlong => .overlong
  | .tooDeep => .tooDeep

/-- `json.loads(body)` with `depth` levels of nesting left. -/
def loads (depth : Nat) (body : Bytes) : Except LoadFailure Json :=
  match decodeDetected body with
  | none => .error .undecodable
  | some decoded => (JsonText.decode depth decoded).mapError LoadFailure.ofScan

/-- A JSON text in the encoding its first bytes show. -/
def ValidJson (constants : Bool) (body : Bytes) : Prop :=
  ∃ decoded, decodeDetected body = some decoded ∧ JsonText.IsText constants decoded

theorem loads_sound {depth : Nat} {body : Bytes} {value : Json}
    (loaded : loads depth body = .ok value) : ValidJson true body := by
  unfold loads at loaded
  split at loaded
  · cases loaded
  · next decoded found =>
      refine ⟨decoded, found, ?_⟩
      cases scanned : JsonText.decode depth decoded with
      | error failure =>
          rw [scanned] at loaded
          cases loaded
      | ok held => exact JsonText.decode_sound scanned

theorem loads_complete {constants : Bool} {body : Bytes} (valid : ValidJson constants body)
    (depth : Nat) : loads depth body ≠ .error .malformed := by
  obtain ⟨decoded, found, isText⟩ := valid
  intro malformed
  simp only [loads, found] at malformed
  cases scanned : JsonText.decode depth decoded with
  | ok held =>
      rw [scanned] at malformed
      cases malformed
  | error failure =>
      have notMalformed : failure ≠ .malformed := by
        rintro rfl
        exact JsonText.decode_complete isText depth scanned
      rw [scanned] at malformed
      cases failure with
      | malformed => exact notMalformed rfl
      | overlong => cases malformed
      | tooDeep => cases malformed

/-- How `json.loads` ends on an object in UTF-8. -/
theorem loads_cases {constants : Bool} {nesting : Nat} {given : Text}
    {members : List (Text × Json)} {integers : List Text} {body : Bytes}
    (said : JsonText.TextOf constants nesting given (.object members) integers)
    (encoded : encodeUtf8 given = some body) (depth : Nat) :
    loads depth body = .ok (.object members) ∧ JsonText.Short integers ∨
      loads depth body = .error .overlong ∧ ¬JsonText.Short integers ∨
        loads depth body = .error .tooDeep ∧ depth < nesting := by
  have decoded : decodeDetected body = some given := by
    rw [← decodeUtf8_of_encodeUtf8 encoded]
    obtain ⟨first, inside, rfl, positive, ascii, nonzero⟩ := said.opening
    obtain ⟨head, isHead, later⟩ := Option.bind_eq_some_iff.mp encoded
    obtain ⟨tail, isTail, same⟩ := Option.bind_eq_some_iff.mp later
    cases same
    unfold encodePoint at isHead
    rw [if_pos ascii] at isHead
    cases isHead
    exact decodeDetected_plain positive ascii (encodeUtf8_head isTail nonzero)
  unfold loads
  rw [decoded]
  rcases JsonText.decode_cases said depth with ⟨ends, short⟩ | ⟨ends, long⟩ | ⟨ends, deep⟩
  · simp only [ends]
    exact .inl ⟨rfl, short⟩
  · simp only [ends]
    exact .inr (.inl ⟨rfl, long⟩)
  · simp only [ends]
    exact .inr (.inr ⟨rfl, deep⟩)

end AcdpPlayground.TextEncoding
