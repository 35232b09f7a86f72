/-
The synthetic context ids of `acdp_client/identifiers.py`: a v4 UUID made of the first 16
bytes of a digest, with the version and the variant written over.

The digest is a parameter, a function from the seed's bytes to 32 bytes. An id is
conformant, both splitters of the sources find its authority again, and of the digest it
keeps every bit that is not written over.
-/

import AcdpPlayground.Client.Identifiers
import AcdpPlayground.Foundation.TextEncoding
import Mathlib.Data.Nat.Bitwise

namespace AcdpPlayground.Client

open PythonText TextPattern TextMethods TextEncoding

structure Digest where
  bytes : List UInt8
  length : bytes.length = 32

/-- `raw[6]` with the version nibble and `raw[8]` with the variant bits. -/
def stampUuid (raw : List UInt8) : List UInt8 :=
  (raw.modify 6 (fun byte => (byte &&& 0x0F) ||| 0x40)).modify 8
    (fun byte => (byte &&& 0x3F) ||| 0x80)

/-- `str(uuid.UUID(bytes=raw))`. -/
def uuidText (raw : List UInt8) : Text :=
  let hex := hexdigest raw
  [45].intercalate
    [hex.take 8, (hex.drop 8).take 4, (hex.drop 12).take 4, (hex.drop 16).take 4, hex.drop 20]

inductive SyntheticError where
  | valueError (message : Text)
  | unicodeEncodeError

/-- The message shows the `repr` of the authority, which is a parameter. -/
def syntheticCtxId (sha256 : Bytes → Digest) (repr : Text → Text) (authority seed : Text) :
    Except SyntheticError Text :=
  if !isValidAuthority authority then
    .error (.valueError (text "ctx_id authority must be a bare lowercase DNS hostname " ++
      text "(no port/scheme/did:/uppercase): " ++ repr authority))
  else
    match encodeUtf8 seed with
    | none => .error .unicodeEncodeError
    | some bytes =>
        .ok (ctxIdScheme ++ authority ++ [47] ++
          uuidText (stampUuid ((sha256 bytes).bytes.take 16)))

/-- `ctx_id.removeprefix("acdp://").split("/", 1)[0]`. -/
def authorityPart (ctxId : Text) : Text :=
  ((removePrefixOf ctxIdScheme ctxId).splitOn 47).headD []

/-- `AcdpClient._authority_of`. -/
def clientAuthorityOf (ctxId : Text) : Text :=
  authorityPart ctxId

/-- `_authority` of `playground/api/contexts.py`. -/
def contextsAuthority (ctxId : Text) : Text :=
  authorityPart ctxId

theorem authorityPart_of_split {authority : Text} (noSlash : 47 ∉ authority) (rest : Text) :
    authorityPart (ctxIdScheme ++ authority ++ [47] ++ rest) = authority := by
  unfold authorityPart
  rw [List.append_assoc, List.append_assoc, removePrefixOf_append]
  change ((authority ++ 47 :: rest).splitOn 47).headD [] = authority
  rw [List.splitOn_append_cons_self_of_not_mem noSlash]
  rfl

/-! ### The text of a UUID -/

theorem hexDigit_ne_hyphen : ∀ digit < 16, hexDigit digit ≠ 45 := by
  decide

theorem mem_hexdigest {digest : List UInt8} {point : Nat} (member : point ∈ hexdigest digest) :
    ∃ digit < 16, point = hexDigit digit := by
  obtain ⟨byte, _, inside⟩ := List.mem_flatMap.mp member
  have bound := byte.toNat_lt
  rcases List.mem_cons.mp inside with high | low
  · exact ⟨byte.toNat / 16, by omega, high⟩
  · exact ⟨byte.toNat % 16, by omega, List.mem_singleton.mp low⟩

theorem filter_uuidText (raw : List UInt8) :
    (uuidText raw).filter (fun point => point ≠ 45) = hexdigest raw := by
  have kept : ∀ part : Text, part.Sublist (hexdigest raw) →
      part.filter (fun point => point ≠ 45) = part := by
    intro part inside
    rw [List.filter_eq_self]
    intro point member
    obtain ⟨digit, small, rfl⟩ := mem_hexdigest (inside.subset member)
    exact decide_eq_true (hexDigit_ne_hyphen digit small)
  have first := kept _ (List.take_sublist 8 (hexdigest raw))
  have second := kept _ ((List.take_sublist 4 _).trans (List.drop_sublist 8 (hexdigest raw)))
  have third := kept _ ((List.take_sublist 4 _).trans (List.drop_sublist 12 (hexdigest raw)))
  have fourth := kept _ ((List.take_sublist 4 _).trans (List.drop_sublist 16 (hexdigest raw)))
  have fifth := kept _ (List.drop_sublist 20 (hexdigest raw))
  have hyphen : ([45] : Text).filter (fun point => point ≠ 45) = [] := rfl
  simp only [uuidText, List.intercalate_cons_cons, List.intercalate_singleton, List.filter_append,
    first, second, third, fourth, fifth, hyphen, List.append_nil]
  rw [show (hexdigest raw).drop 20 = ((hexdigest raw).drop 16).drop 4 by rw [List.drop_drop],
    List.take_append_drop,
    show (hexdigest raw).drop 16 = ((hexdigest raw).drop 12).drop 4 by rw [List.drop_drop],
    List.take_append_drop,
    show (hexdigest raw).drop 12 = ((hexdigest raw).drop 8).drop 4 by rw [List.drop_drop],
    List.take_append_drop, List.take_append_drop]

theorem hexDigit_injective {first second : Nat} (small : first < 16) (alsoSmall : second < 16)
    (same : hexDigit first = hexDigit second) : first = second := by
  have value := hexValue_hexDigit first small
  rw [same, hexValue_hexDigit second alsoSmall] at value
  exact (Option.some.inj value).symm

theorem hexdigest_injective {first second : List UInt8}
    (same : hexdigest first = hexdigest second) : first = second := by
  induction first generalizing second with
  | nil =>
      cases second with
      | nil => rfl
      | cons _ _ => cases same
  | cons byte rest ih =>
      cases second with
      | nil => cases same
      | cons other more =>
          have bound := byte.toNat_lt
          have otherBound := other.toNat_lt
          change _ :: _ :: hexdigest rest = _ :: _ :: hexdigest more at same
          obtain ⟨high, later⟩ := List.cons.inj same
          obtain ⟨low, tail⟩ := List.cons.inj later
          have sameHigh := hexDigit_injective (by omega) (by omega) high
          have sameLow := hexDigit_injective (by omega) (by omega) low
          have sameByte : byte = other := UInt8.toNat_inj.mp (by omega)
          rw [sameByte, ih tail]

theorem uuidText_injective {first second : List UInt8} (same : uuidText first = uuidText second) :
    first = second := by
  apply hexdigest_injective
  rw [← filter_uuidText, same, filter_uuidText]

/-! ### Conformance -/

theorem version_nibble (byte : UInt8) : ((byte &&& 0x0F) ||| 0x40).toNat / 16 = 4 := by
  have every : ∀ value < 256, ((value &&& 15) ||| 64) / 16 = 4 := by decide +kernel
  rw [UInt8.toNat_or, UInt8.toNat_and]
  exact every byte.toNat byte.toNat_lt

theorem variant_nibble (byte : UInt8) :
    8 ≤ ((byte &&& 0x3F) ||| 0x80).toNat / 16 ∧ ((byte &&& 0x3F) ||| 0x80).toNat / 16 < 12 := by
  have every : ∀ value < 256, 8 ≤ ((value &&& 63) ||| 128) / 16 ∧
      ((value &&& 63) ||| 128) / 16 < 12 := by decide +kernel
  rw [UInt8.toNat_or, UInt8.toNat_and]
  exact every byte.toNat byte.toNat_lt

theorem isVariantDigit_hexDigit : ∀ digit < 12, 8 ≤ digit → isVariantDigit (hexDigit digit) = true := by
  decide

theorem isHexDigit_high (byte : UInt8) : isHexDigit (hexDigit (byte.toNat / 16)) = true :=
  isHexDigit_hexDigit _ (by have bound := byte.toNat_lt; omega)

theorem isHexDigit_low (byte : UInt8) : isHexDigit (hexDigit (byte.toNat % 16)) = true :=
  isHexDigit_hexDigit _ (by omega)

theorem isUuidV4_stamped {raw : List UInt8} (length : raw.length = 16) :
    IsUuidV4 (uuidText (stampUuid raw)) := by
  match raw, length with
  | [b0, b1, b2, b3, b4, b5, b6, b7, b8, b9, b10, b11, b12, b13, b14, b15], _ =>
    have variant := isVariantDigit_hexDigit _ (variant_nibble b8).2 (variant_nibble b8).1
    change follows uuidV4Classes (uuidText
      [b0, b1, b2, b3, b4, b5, (b6 &&& 0x0F) ||| 0x40, b7, (b8 &&& 0x3F) ||| 0x80, b9, b10, b11,
        b12, b13, b14, b15]) = true
    simp only [uuidText, hexdigest, List.flatMap_cons, List.flatMap_nil, List.cons_append,
      List.nil_append, List.take_succ_cons, List.take_zero, List.drop_succ_cons, List.drop_zero,
      List.intercalate_cons_cons, List.intercalate_singleton, uuidV4Classes, List.replicate,
      follows, isHexDigit_high, isHexDigit_low, version_nibble, variant, Bool.and_true,
      Bool.true_and, beq_self_eq_true]
    rfl

/-! ### The bits an id keeps -/

/-- The bits of a byte that are not written over. -/
def keptMask (index : Nat) : Nat :=
  if index = 6 then 15 else if index = 8 then 63 else 255

/-- Byte and bit numbers of the bits that an id keeps. -/
def freeBits : List (Nat × Nat) :=
  (List.range 16).flatMap (fun index =>
    ((List.range 8).filter (fun bit => (keptMask index).testBit bit)).map (fun bit => (index, bit)))

def bitAt (bytes : List UInt8) (index bit : Nat) : Bool :=
  ((bytes[index]?.map UInt8.toNat).getD 0).testBit bit

def AgreeOnFreeBits (first second : Digest) : Prop :=
  ∀ place ∈ freeBits, bitAt first.bytes place.1 place.2 = bitAt second.bytes place.1 place.2

theorem mem_freeBits_iff (index bit : Nat) :
    (index, bit) ∈ freeBits ↔ index < 16 ∧ bit < 8 ∧ (keptMask index).testBit bit = true := by
  simp only [freeBits, List.mem_flatMap, List.mem_range, List.mem_map, List.mem_filter,
    Prod.mk.injEq]
  constructor
  · rintro ⟨other, bound, place, ⟨small, kept⟩, rfl, rfl⟩
    exact ⟨bound, small, kept⟩
  · rintro ⟨bound, small, kept⟩
    exact ⟨index, bound, bit, ⟨small, kept⟩, rfl, rfl⟩

/-- What the stamp writes over a byte. -/
def stampMark (index : Nat) : Nat :=
  if index = 6 then 64 else if index = 8 then 128 else 0

theorem stampUuid_getElem? (raw : List UInt8) (index : Nat) :
    ((stampUuid raw)[index]?).map UInt8.toNat =
      raw[index]?.map (fun byte => (byte.toNat &&& keptMask index) ||| stampMark index) := by
  have whole : ∀ byte : UInt8, (byte.toNat &&& 255) ||| 0 = byte.toNat := by
    intro byte
    have every : ∀ value < 256, (value &&& 255) ||| 0 = value := by decide +kernel
    exact every byte.toNat byte.toNat_lt
  unfold stampUuid keptMask stampMark
  rw [List.getElem?_modify, List.getElem?_modify]
  by_cases version : index = 6
  · subst index
    cases raw[6]? with
    | none => rfl
    | some byte => rfl
  · by_cases variant : index = 8
    · subst index
      cases raw[8]? with
      | none => rfl
      | some byte => rfl
    · rw [if_neg version, if_neg variant, if_neg version, if_neg variant]
      cases raw[index]? with
      | none => rfl
      | some byte =>
          simp only [Option.map_some, if_neg (Ne.symm version), if_neg (Ne.symm variant), whole]
          rfl

theorem masked_eq_iff {first second : Nat} (index : Nat) :
    (first &&& keptMask index) ||| stampMark index =
        (second &&& keptMask index) ||| stampMark index ↔
      ∀ bit < 8, (keptMask index).testBit bit = true → first.testBit bit = second.testBit bit := by
  have apart : ∀ bit < 8, (keptMask index).testBit bit = true →
      (stampMark index).testBit bit = false := by
    unfold keptMask stampMark
    split_ifs <;> decide
  have beyond : ∀ bit, 8 ≤ bit → (keptMask index).testBit bit = false := by
    intro bit large
    apply Nat.testBit_lt_two_pow
    have small : keptMask index < 2 ^ 8 := by
      unfold keptMask
      split_ifs <;> decide
    exact small.trans_le (Nat.pow_le_pow_right (by decide) large)
  constructor
  · intro same bit small kept
    have bits := congrArg (fun value => value.testBit bit) same
    simpa only [Nat.testBit_or, Nat.testBit_and, kept, Bool.and_true, apart bit small kept,
      Bool.or_false] using bits
  · intro bits
    apply Nat.eq_of_testBit_eq
    intro bit
    rw [Nat.testBit_or, Nat.testBit_or, Nat.testBit_and, Nat.testBit_and]
    cases kept : (keptMask index).testBit bit with
    | false => rw [Bool.and_false, Bool.and_false]
    | true =>
        have small : bit < 8 := by
          by_contra large
          rw [beyond bit (Nat.not_lt.mp large)] at kept
          cases kept
        rw [bits bit small kept]

theorem stampUuid_take_eq_iff (first second : Digest) :
    stampUuid (first.bytes.take 16) = stampUuid (second.bytes.take 16) ↔
      AgreeOnFreeBits first second := by
  have byteAt : ∀ (digest : Digest) (index : Nat), index < 16 →
      ∃ byte : UInt8, (digest.bytes.take 16)[index]? = some byte ∧ digest.bytes[index]? = some byte := by
    intro digest index small
    have inside : index < digest.bytes.length := by
      rw [digest.length]
      omega
    refine ⟨digest.bytes.get ⟨index, inside⟩, ?_, List.getElem?_eq_getElem inside⟩
    rw [List.getElem?_take_of_lt small]
    exact List.getElem?_eq_getElem inside
  have stampedAt : ∀ index < 16,
      ((stampUuid (first.bytes.take 16))[index]? = (stampUuid (second.bytes.take 16))[index]? ↔
        ∀ bit < 8, (keptMask index).testBit bit = true →
          bitAt first.bytes index bit = bitAt second.bytes index bit) := by
    intro index small
    obtain ⟨byte, taken, found⟩ := byteAt first index small
    obtain ⟨other, otherTaken, otherFound⟩ := byteAt second index small
    unfold bitAt
    rw [found, otherFound, Option.map_some, Option.map_some, Option.getD_some, Option.getD_some,
      ← masked_eq_iff]
    have left := stampUuid_getElem? (first.bytes.take 16) index
    have right := stampUuid_getElem? (second.bytes.take 16) index
    rw [taken, Option.map_some] at left
    rw [otherTaken, Option.map_some] at right
    constructor
    · intro same
      rw [same, right] at left
      exact (Option.some.inj left).symm
    · intro same
      rw [same, ← right] at left
      exact Option.map_injective (fun _ _ => UInt8.toNat_inj.mp) left
  have length : ∀ digest : Digest, (stampUuid (digest.bytes.take 16)).length = 16 := by
    intro digest
    unfold stampUuid
    rw [List.length_modify, List.length_modify, List.length_take, digest.length]
    rfl
  constructor
  · rintro same ⟨index, bit⟩ free
    obtain ⟨small, bitSmall, kept⟩ := (mem_freeBits_iff index bit).mp free
    exact (stampedAt index small).mp (by rw [same]) bit bitSmall kept
  · intro agree
    apply List.ext_getElem?
    intro index
    by_cases small : index < 16
    · apply (stampedAt index small).mpr
      intro bit bitSmall kept
      exact agree (index, bit) ((mem_freeBits_iff index bit).mpr ⟨small, bitSmall, kept⟩)
    · rw [List.getElem?_eq_none (by rw [length]; omega),
        List.getElem?_eq_none (by rw [length]; omega)]

/-! ### Minted ids -/

/-- What an id minted on an authority is good for. -/
structure Routable (authority id : Text) : Prop where
  conformant : isConformantCtxId id = true
  client : clientAuthorityOf id = authority
  contexts : contextsAuthority id = authority

theorem routable_minted {authority : Text} (accepted : isValidAuthority authority = true)
    (digest : Digest) :
    Routable authority
      (ctxIdScheme ++ authority ++ [47] ++ uuidText (stampUuid (digest.bytes.take 16))) := by
  have noSlash := slash_not_mem_of_accepted accepted
  have length : (digest.bytes.take 16).length = 16 := by
    rw [List.length_take, digest.length]
    rfl
  exact ⟨(isConformantCtxId_iff _).mpr ⟨_, _, rfl, accepted, isUuidV4_stamped length⟩,
    authorityPart_of_split noSlash _, authorityPart_of_split noSlash _⟩

theorem syntheticCtxId_text (sha256 : Bytes → Digest) (repr : Text → Text) {authority : Text}
    (accepted : isValidAuthority authority = true) (seed : String) :
    ∃ bytes, encodeUtf8 (text seed) = some bytes ∧
      syntheticCtxId sha256 repr authority (text seed) =
        .ok (ctxIdScheme ++ authority ++ [47] ++
          uuidText (stampUuid ((sha256 bytes).bytes.take 16))) := by
  obtain ⟨bytes, encoded⟩ := encodeUtf8_text seed
  refine ⟨bytes, encoded, ?_⟩
  unfold syntheticCtxId
  rw [accepted, encoded]
  rfl

/-- For any two seeds on one authority. -/
theorem synthetic_ids_lawful (sha256 : Bytes → Digest) (repr : Text → Text) {authority : Text}
    (accepted : isValidAuthority authority = true) (seed other : String) :
    freeBits.length = 122 ∧
      ∃ bytes otherBytes id otherId, encodeUtf8 (text seed) = some bytes ∧
        encodeUtf8 (text other) = some otherBytes ∧
        syntheticCtxId sha256 repr authority (text seed) = .ok id ∧
        syntheticCtxId sha256 repr authority (text other) = .ok otherId ∧
        Routable authority id ∧ Routable authority otherId ∧
        (id = otherId ↔ AgreeOnFreeBits (sha256 bytes) (sha256 otherBytes)) := by
  obtain ⟨bytes, encoded, minted⟩ := syntheticCtxId_text sha256 repr accepted seed
  obtain ⟨otherBytes, otherEncoded, otherMinted⟩ := syntheticCtxId_text sha256 repr accepted other
  refine ⟨by decide +kernel, bytes, otherBytes, _, _, encoded, otherEncoded, minted, otherMinted,
    routable_minted accepted _, routable_minted accepted _, ?_⟩
  rw [← stampUuid_take_eq_iff]
  constructor
  · intro same
    exact uuidText_injective (List.append_cancel_left same)
  · intro same
    rw [same]

/-- A digest of one repeated byte, the number of bytes of the seed. -/
def lengthDigest (bytes : Bytes) : Digest where
  bytes := List.replicate 32 (UInt8.ofNat bytes.length)
  length := List.length_replicate

theorem registry_a_ids_lawful :
    isValidAuthority (text "registry-a.playground.local") = true ∧
      ∃ bytes otherBytes first second, encodeUtf8 (text "draft") = some bytes ∧
        encodeUtf8 (text "revision") = some otherBytes ∧
        syntheticCtxId lengthDigest id (text "registry-a.playground.local") (text "draft") =
          .ok first ∧
        syntheticCtxId lengthDigest id (text "registry-a.playground.local") (text "revision") =
          .ok second ∧
        Routable (text "registry-a.playground.local") first ∧
        Routable (text "registry-a.playground.local") second ∧
        (first = second ↔ AgreeOnFreeBits (lengthDigest bytes) (lengthDigest otherBytes)) := by
  have accepted : isValidAuthority (text "registry-a.playground.local") = true := by
    decide +kernel
  exact ⟨accepted, (synthetic_ids_lawful lengthDigest id accepted "draft" "revision").2⟩

end AcdpPlayground.Client
