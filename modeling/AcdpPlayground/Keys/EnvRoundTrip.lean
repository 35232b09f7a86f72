/-
The pinned-key codec under the interpreter's limit on digits: `str` of an integer and
`int` of a string raise a `ValueError` above `sys.get_int_max_str_digits()` digits.

Everything else of an entry in the alphabet survives the two functions, so that a list of
entries comes back exactly when `str` can write its window bounds.
-/

import AcdpPlayground.Keys.EnvCodec
import Mathlib.Data.Nat.Digits.Lemmas

namespace AcdpPlayground.Keys

open PythonText

namespace Limited

/-- `str(value)`; nothing when it raises. -/
def strInt (value : Int) : Option Text :=
  if maxStrDigits < (natText value.natAbs).length then none else some (intText value)

/-- `str(bound) if bound is not None else ""`. -/
def boundText : Option Int → Option Text
  | none => some []
  | some value => strInt value

def toEnvToken (entry : PinnedEntry) : Option Text :=
  let token := entry.agentDid ++ text "=" ++ entry.publicKeyB64
  let token :=
    if entry.algorithm ≠ text "ed25519" ∨ entry.hasWindow then
      token ++ text ":" ++ entry.algorithm
    else token
  if entry.hasWindow then do
    let lo ← boundText entry.validFrom
    let hi ← boundText entry.validUntil
    return token ++ text ":" ++ lo ++ text ".." ++ hi
  else some token

def toEnvValue (entries : List PinnedEntry) : Option Text :=
  (entries.mapM toEnvToken).map (fun tokens => (text ",").intercalate tokens)

def parseEnvValue (raw : Text) : Except EnvError (List PinnedEntry) :=
  parseEnvValueWith limitedInt raw

end Limited

/-! ### Integers within the limit -/

/-- At most so many decimal digits. -/
def Convertible (value : Int) : Prop :=
  value.natAbs < 10 ^ maxStrDigits

theorem length_natText_le_iff (value : Nat) :
    (natText value).length ≤ maxStrDigits ↔ value < 10 ^ maxStrDigits := by
  unfold natText
  split
  · next zero =>
      rw [zero]
      exact iff_of_true (by decide) (Nat.pow_pos (by decide))
  · rw [List.length_map, List.length_reverse, ← Nat.not_lt, Nat.lt_digits_length_iff (by decide),
      Nat.not_le]

theorem strInt_of_convertible {value : Int} (convertible : Convertible value) :
    Limited.strInt value = some (intText value) := by
  unfold Limited.strInt
  rw [if_neg (Nat.not_lt.mpr ((length_natText_le_iff _).mpr convertible))]

theorem strInt_of_not_convertible {value : Int} (long : ¬Convertible value) :
    Limited.strInt value = none := by
  unfold Limited.strInt
  rw [if_pos]
  exact Nat.not_le.mp (fun short => long ((length_natText_le_iff _).mp short))

theorem countP_intText_le (value : Int) :
    (intText value).countP (fun point => (decimalValue point).isSome) ≤
      (natText value.natAbs).length := by
  unfold intText
  split
  · rw [List.countP_cons_of_neg (by decide)]
    exact List.countP_le_length
  · exact List.countP_le_length

theorem limitedInt_intText {value : Int} (convertible : Convertible value) :
    limitedInt (intText value) = some value := by
  have short := (length_natText_le_iff _).mpr convertible
  unfold limitedInt
  rw [if_neg (Nat.not_lt.mpr ((countP_intText_le value).trans short)), parseInt_intText]

/-! ### Entries within the limit -/

def PinnedEntry.Convertible (entry : PinnedEntry) : Prop :=
  ∀ value, entry.validFrom = some value ∨ entry.validUntil = some value → Keys.Convertible value

theorem boundText_of_convertible {bound : Option Int}
    (convertible : ∀ value, bound = some value → Convertible value) :
    Limited.boundText bound = some (PinnedEntry.boundText bound) := by
  cases bound with
  | none => rfl
  | some value => exact strInt_of_convertible (convertible value rfl)

theorem toEnvToken_of_convertible {entry : PinnedEntry} (convertible : entry.Convertible) :
    Limited.toEnvToken entry = some entry.toEnvToken := by
  have lo := boundText_of_convertible (fun value isFrom => convertible value (.inl isFrom))
  have hi := boundText_of_convertible (fun value isUntil => convertible value (.inr isUntil))
  unfold Limited.toEnvToken PinnedEntry.toEnvToken
  dsimp only
  by_cases window : entry.hasWindow = true
  · rw [if_pos window, if_pos window, lo, hi]
    rfl
  · rw [if_neg window, if_neg window]

theorem toEnvToken_of_not_convertible {entry : PinnedEntry} (long : ¬entry.Convertible) :
    Limited.toEnvToken entry = none := by
  unfold PinnedEntry.Convertible at long
  push Not at long
  obtain ⟨value, bound, isLong⟩ := long
  have window : entry.hasWindow = true := by
    unfold PinnedEntry.hasWindow
    rcases bound with isFrom | isUntil
    · rw [isFrom]
      rfl
    · rw [isUntil]
      exact Bool.or_true _
  have unwritten := strInt_of_not_convertible isLong
  unfold Limited.toEnvToken
  dsimp only
  rw [if_pos window]
  rcases bound with isFrom | isUntil
  · have lo : Limited.boundText entry.validFrom = none := by
      rw [isFrom]
      exact unwritten
    rw [lo]
    rfl
  · have hi : Limited.boundText entry.validUntil = none := by
      rw [isUntil]
      exact unwritten
    rw [hi]
    cases Limited.boundText entry.validFrom with
    | none => rfl
    | some lo => rfl

theorem toEnvValue_of_convertible {entries : List PinnedEntry}
    (convertible : ∀ entry ∈ entries, entry.Convertible) :
    Limited.toEnvValue entries = some (toEnvValue entries) := by
  have written : entries.mapM Limited.toEnvToken = some (entries.map PinnedEntry.toEnvToken) := by
    induction entries with
    | nil => rfl
    | cons entry rest ih =>
        have later := ih (fun other member => convertible other (List.mem_cons_of_mem _ member))
        rw [List.mapM_cons, toEnvToken_of_convertible (convertible entry List.mem_cons_self), later]
        rfl
  unfold Limited.toEnvValue
  rw [written]
  rfl

theorem toEnvValue_of_not_convertible {entries : List PinnedEntry} {entry : PinnedEntry}
    (member : entry ∈ entries) (long : ¬entry.Convertible) :
    Limited.toEnvValue entries = none := by
  have stopped : entries.mapM Limited.toEnvToken = none := by
    rw [← Option.not_isSome_iff_eq_none, mapM_isSome_iff]
    intro written
    have one := written entry member
    rw [toEnvToken_of_not_convertible long] at one
    cases one
  unfold Limited.toEnvValue
  rw [stopped]
  rfl

/-! ### Round trip -/

theorem env_round_trip_iff {entries : List PinnedEntry}
    (alphabet : ∀ entry ∈ entries, entry.InAlphabet) :
    (Limited.toEnvValue entries).map Limited.parseEnvValue = some (.ok entries) ↔
      ∀ entry ∈ entries, entry.Convertible := by
  constructor
  · intro returned entry member
    by_contra long
    rw [toEnvValue_of_not_convertible member long] at returned
    cases returned
  · intro convertible
    have readBack : ∀ entry ∈ entries, entry.ReadBack limitedInt :=
      fun entry member value bound => limitedInt_intText (convertible entry member value bound)
    rw [toEnvValue_of_convertible convertible, Option.map_some, Limited.parseEnvValue,
      parseEnvValueWith_toEnvValue alphabet readBack]

def paddedKey : PinnedEntry :=
  { agentDid := text "did:web:registry-a.playground.local:agents:a"
    publicKeyB64 := text "QQ=="
    algorithm := text "ed25519"
    validFrom := none
    validUntil := none }

/-- Every combination of omitted parts, with a negative bound. -/
def mixedEntries : List PinnedEntry :=
  [paddedKey, { paddedKey with algorithm := text "p256.v1" },
    { paddedKey with validFrom := some (-5) },
    { paddedKey with algorithm := text "p256", validFrom := some 0, validUntil := some 7 }]

theorem mixed_entries_round_trip :
    (Limited.toEnvValue mixedEntries).map Limited.parseEnvValue = some (.ok mixedEntries) := by
  have alphabet : ∀ entry ∈ mixedEntries, entry.InAlphabet := by decide +kernel
  apply (env_round_trip_iff alphabet).mpr
  have small : ∀ entry ∈ mixedEntries, (∀ value ∈ entry.validFrom, value.natAbs < 10) ∧
      ∀ value ∈ entry.validUntil, value.natAbs < 10 := by decide +kernel
  intro entry member value bound
  have digit : value.natAbs < 10 := by
    rcases bound with isFrom | isUntil
    · exact (small entry member).1 value isFrom
    · exact (small entry member).2 value isUntil
  exact digit.trans_le (Nat.le_self_pow (by decide) 10)

/-- A bound of 4301 digits. -/
def distantEntry : PinnedEntry :=
  { paddedKey with validUntil := some ((10 ^ maxStrDigits : Nat) : Int) }

theorem distant_bound_not_returned :
    (∀ entry ∈ [distantEntry], entry.InAlphabet) ∧
      (Limited.toEnvValue [distantEntry]).map Limited.parseEnvValue ≠
        some (.ok [distantEntry]) := by
  have alphabet : ∀ entry ∈ [paddedKey], entry.InAlphabet := by decide +kernel
  constructor
  · intro entry member
    rw [List.mem_singleton.mp member]
    obtain ⟨nonempty, equals, comma, tight_, key, named, colon, noComma, dots, tightName⟩ :=
      alphabet paddedKey (List.mem_singleton_self _)
    exact ⟨nonempty, equals, comma, tight_, key, named, colon, noComma, dots, tightName⟩
  · have long : ¬distantEntry.Convertible := by
      intro convertible
      have short : Convertible ((10 ^ maxStrDigits : Nat) : Int) := convertible _ (.inr rfl)
      unfold Convertible at short
      rw [Int.natAbs_natCast] at short
      exact Nat.lt_irrefl _ short
    rw [toEnvValue_of_not_convertible (List.mem_singleton_self _) long]
    rintro ⟨⟩

end AcdpPlayground.Keys
