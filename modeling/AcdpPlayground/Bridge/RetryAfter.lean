/-
`parse_retry_after` of `acdp_client/retry_after.py`: the delay named by a `Retry-After`
header, in seconds or as a date.

Floats are rationals with the infinities and nan. Rounding is a parameter; all that is
asked of it is that it keeps signs. What the guards of the function do not cover is an
exception that reaches the caller.
-/

import AcdpPlayground.Foundation.HttpDate
import Mathlib.Algebra.Order.Field.Rat

namespace AcdpPlayground.Bridge

open PythonText HttpDate

/-! ### Floats -/

inductive PyFloat where
  | nan
  | infinite (negative : Bool)
  | finite (value : ℚ)
  deriving DecidableEq

namespace PyFloat

def lt : PyFloat → PyFloat → Bool
  | .finite first, .finite second => first < second
  | .infinite negative, .finite _ => negative
  | .finite _, .infinite negative => !negative
  | .infinite negative, .infinite other => negative && !other
  | _, _ => false

def nonneg : PyFloat → Bool
  | .finite value => 0 ≤ value
  | .infinite negative => !negative
  | .nan => false

end PyFloat

structure Rounding where
  round : ℚ → PyFloat
  keepsSign : ∀ value, 0 ≤ value → (round value).nonneg = true

def Rounding.sub (rounding : Rounding) : PyFloat → PyFloat → PyFloat
  | .finite first, .finite second => rounding.round (first - second)
  | .infinite negative, .finite _ => .infinite negative
  | .finite _, .infinite negative => .infinite (!negative)
  | .infinite negative, .infinite other => if negative = other then .nan else .infinite negative
  | _, _ => .nan

/-- `max(0.0, value)`, which is 0.0 for nan. -/
def clampZero (value : PyFloat) : PyFloat :=
  if (PyFloat.finite 0).lt value then value else .finite 0

theorem clampZero_nonneg (value : PyFloat) : (clampZero value).nonneg = true := by
  unfold clampZero
  split
  · next positive =>
      cases value with
      | nan => cases positive
      | infinite negative => exact positive
      | finite value =>
          simp only [PyFloat.lt, decide_eq_true_eq] at positive
          simp only [PyFloat.nonneg, decide_eq_true_eq]
          exact positive.le
  · simp [PyFloat.nonneg]

/-- `float(value)` of a string of digits, which only decimal ones make a number. -/
def floatOfDigits (rounding : Rounding) (value : Text) : Option PyFloat :=
  (value.mapM decimalValue).map (fun digits =>
    let total : Nat := digits.foldl (fun total digit => total * 10 + digit) 0
    rounding.round total)

/-! ### The parser -/

/-- What the interpreter brings along: rounding, and the zone of the process. -/
structure Clockwork where
  rounding : Rounding
  zone : Int → Int

def parseRetryAfter (clockwork : Clockwork) (value : Option Text) (now : PyFloat) :
    Except PyError (Option PyFloat) :=
  match value with
  | none => .ok none
  | some given =>
      let value := strip given
      if value = [] then .ok none
      else if isDigit value then
        match floatOfDigits clockwork.rounding value with
        | some delay => .ok (some delay)
        | none => .error .valueError
      else
        match parsedateToDatetime value with
        | .error .valueError => .ok none
        | .error other => .error other
        | .ok datetime =>
            -- Only `parsedate_to_datetime` is inside the guard, `timestamp` is not.
            match datetime.timestamp clockwork.zone with
            | .error failure => .error failure
            | .ok seconds =>
                .ok (some (clampZero (clockwork.rounding.sub
                  (clockwork.rounding.round seconds) now)))

/-! ### When it raises -/

/-- The numbers of a date pass the conversions that raise outside the guard. -/
def FieldsReadable (zone : Int → Int) (fields : DateFields) : Prop :=
  match fields.tz with
  | some offset =>
      -999999999 ≤ offset / 86400 ∧ offset / 86400 ≤ 999999999 ∧
        (-86400 < offset → offset < 86400 → fields.fit = true)
  | none =>
      fields.fit = true ∧
        (fields.valid = true → (localToSeconds zone fields.wall).isSome = true)

/-- Digits are decimal digits, and a date has readable numbers. -/
def HeaderReadable (zone : Int → Int) (value : Option Text) : Prop :=
  ∀ given ∈ value,
    if isDigit (strip given) then ∀ point ∈ strip given, (decimalValue point).isSome = true
    else ∀ fields, parsedateTz (strip given) = .ok (some fields) → FieldsReadable zone fields

/-- The header is a number of seconds or a date. -/
def namesDelay (value : Option Text) : Bool :=
  value.any (fun given => isDigit (strip given) || (parsedateToDatetime (strip given)).isOk)

def ParsesSafely (clockwork : Clockwork) (value : Option Text) (now : PyFloat) : Prop :=
  ∃ delay, parseRetryAfter clockwork value now = .ok delay ∧
    ∀ seconds ∈ delay, seconds.nonneg = true

theorem floatOfDigits_isSome (rounding : Rounding) (value : Text) :
    (floatOfDigits rounding value).isSome = true ↔
      ∀ point ∈ value, (decimalValue point).isSome = true := by
  unfold floatOfDigits
  rw [Option.isSome_map]
  exact mapM_isSome_iff value

theorem floatOfDigits_nonneg {rounding : Rounding} {value : Text} {delay : PyFloat}
    (converted : floatOfDigits rounding value = some delay) : delay.nonneg = true := by
  obtain ⟨digits, _, same⟩ := Option.map_eq_some_iff.mp converted
  rw [← same]
  exact rounding.keepsSign _ (Nat.cast_nonneg _)

/-- A date is converted, or the guard catches what its conversion raises. -/
def Caught (zone : Int → Int) (converted : Except PyError Datetime) : Prop :=
  match converted with
  | .error failure => failure = .valueError
  | .ok datetime => ∃ seconds, datetime.timestamp zone = .ok seconds

theorem caught_zone_iff (zone : Int → Int) {fields : DateFields} {offset : Int}
    (zoned : fields.tz = some offset) :
    Caught zone fields.datetime ↔ FieldsReadable zone fields := by
  unfold FieldsReadable DateFields.datetime
  simp only [zoned, checkZone]
  by_cases large : offset / 86400 < -999999999 ∨ 999999999 < offset / 86400
  · have readable : ¬(-999999999 ≤ offset / 86400 ∧ offset / 86400 ≤ 999999999) := by omega
    simp [large, Caught, bind, Except.bind, ← and_assoc, readable]
  · have readable : -999999999 ≤ offset / 86400 ∧ offset / 86400 ≤ 999999999 := by omega
    by_cases day : -86400 < offset ∧ offset < 86400
    · cases fit : fields.fit <;> cases valid : fields.valid <;>
        simp [large, day, readable, Caught, bind, Except.bind, pure, Except.pure, throw,
          throwThe, MonadExceptOf.throw, Datetime.timestamp]
    · simp [large, day, readable, Caught, bind, Except.bind]
      omega

theorem caught_naive_iff (zone : Int → Int) {fields : DateFields} (naive : fields.tz = none) :
    Caught zone fields.datetime ↔ FieldsReadable zone fields := by
  unfold FieldsReadable DateFields.datetime
  simp only [naive]
  cases fit : fields.fit <;> cases valid : fields.valid <;>
    simp [Caught, bind, Except.bind, pure, Except.pure, throw, throwThe, MonadExceptOf.throw,
      Datetime.timestamp]
  cases localToSeconds zone fields.wall <;> simp

theorem caught_fields_iff (zone : Int → Int) (fields : DateFields) :
    Caught zone fields.datetime ↔ FieldsReadable zone fields := by
  cases tz : fields.tz with
  | some offset => exact caught_zone_iff zone tz
  | none => exact caught_naive_iff zone tz

theorem caught_date_iff (zone : Int → Int) (value : Text) :
    Caught zone (parsedateToDatetime value) ↔
      ∀ fields, parsedateTz value = .ok (some fields) → FieldsReadable zone fields := by
  obtain ⟨parsed, outcome⟩ := parsedateTz_ok value
  unfold parsedateToDatetime
  rw [outcome]
  cases parsed with
  | none =>
      constructor
      · intro _ fields impossible
        cases impossible
      · intro _
        rfl
  | some fields =>
      change Caught zone fields.datetime ↔ _
      rw [caught_fields_iff]
      constructor
      · intro readable found same
        cases same
        exact readable
      · intro readable
        exact readable fields rfl

theorem parses_date_iff (clockwork : Clockwork) {given : Text} (now : PyFloat)
    (nonempty : strip given ≠ []) (notDigits : isDigit (strip given) = false) :
    ParsesSafely clockwork (some given) now ↔
      Caught clockwork.zone (parsedateToDatetime (strip given)) := by
  unfold ParsesSafely parseRetryAfter
  simp only [if_neg nonempty, notDigits, Bool.false_eq_true, if_false]
  cases converted : parsedateToDatetime (strip given) with
  | error failure =>
      cases failure <;> simp [Caught]
  | ok datetime =>
      simp only [Caught]
      cases stamped : datetime.timestamp clockwork.zone with
      | error failure => simp
      | ok seconds => simp [clampZero_nonneg]

theorem parses_digits_iff (clockwork : Clockwork) {given : Text} (now : PyFloat)
    (nonempty : strip given ≠ []) (digits : isDigit (strip given) = true) :
    ParsesSafely clockwork (some given) now ↔
      ∀ point ∈ strip given, (decimalValue point).isSome = true := by
  rw [← floatOfDigits_isSome clockwork.rounding]
  unfold ParsesSafely parseRetryAfter
  simp only [if_neg nonempty, digits, if_true]
  cases converted : floatOfDigits clockwork.rounding (strip given) with
  | none => simp
  | some delay => simp [floatOfDigits_nonneg converted]

theorem parsesSafely_iff (clockwork : Clockwork) (value : Option Text) (now : PyFloat) :
    ParsesSafely clockwork value now ↔ HeaderReadable clockwork.zone value := by
  cases value with
  | none =>
      constructor
      · intro _ given absent
        cases absent
      · intro _
        exact ⟨none, rfl, fun seconds absent => by cases absent⟩
  | some given =>
      simp only [HeaderReadable, Option.mem_def, Option.some.injEq, forall_eq']
      by_cases nonempty : strip given = []
      · have safe : ParsesSafely clockwork (some given) now := by
          refine ⟨none, ?_, fun seconds absent => by cases absent⟩
          simp only [parseRetryAfter, if_pos nonempty]
        rw [nonempty]
        constructor
        · intro _ fields impossible
          cases impossible
        · intro _
          exact safe
      · cases digits : isDigit (strip given) with
        | true =>
            rw [parses_digits_iff clockwork now nonempty digits]
            rfl
        | false =>
            rw [parses_date_iff clockwork now nonempty digits, caught_date_iff]
            rfl

/-- What is returned is a delay exactly when the header names one, and not negative. -/
theorem parseRetryAfter_ok {clockwork : Clockwork} {value : Option Text} {now : PyFloat}
    {delay : Option PyFloat} (parsed : parseRetryAfter clockwork value now = .ok delay) :
    delay.isSome = namesDelay value ∧ ∀ seconds ∈ delay, seconds.nonneg = true := by
  cases value with
  | none =>
      cases parsed
      exact ⟨rfl, fun seconds absent => by cases absent⟩
  | some given =>
      simp only [parseRetryAfter] at parsed
      simp only [namesDelay, Option.any_some]
      split at parsed
      · next empty =>
          cases parsed
          rw [empty]
          exact ⟨rfl, fun seconds absent => by cases absent⟩
      · split at parsed
        · next digits =>
            rw [digits, Bool.true_or]
            split at parsed
            · next converted =>
                cases parsed
                refine ⟨rfl, fun seconds same => ?_⟩
                rw [← Option.some.inj same]
                exact floatOfDigits_nonneg converted
            · cases parsed
        · next notDigits =>
            rw [Bool.not_eq_true] at notDigits
            rw [notDigits, Bool.false_or]
            split at parsed
            · next failed =>
                cases parsed
                rw [failed]
                exact ⟨rfl, fun seconds absent => by cases absent⟩
            · cases parsed
            · next converted =>
                rw [converted]
                split at parsed
                · cases parsed
                · cases parsed
                  refine ⟨rfl, fun seconds same => ?_⟩
                  rw [← Option.some.inj same]
                  exact clampZero_nonneg _

theorem headerReadable_of_ok {clockwork : Clockwork} {value : Option Text} {now : PyFloat}
    {delay : Option PyFloat} (parsed : parseRetryAfter clockwork value now = .ok delay) :
    HeaderReadable clockwork.zone value :=
  (parsesSafely_iff clockwork value now).mp ⟨delay, parsed, (parseRetryAfter_ok parsed).2⟩

theorem not_headerReadable_of_error {clockwork : Clockwork} {value : Option Text} {now : PyFloat}
    {failure : PyError} (raised : parseRetryAfter clockwork value now = .error failure) :
    ¬HeaderReadable clockwork.zone value := by
  rw [← parsesSafely_iff clockwork value now]
  rintro ⟨delay, parsed, _⟩
  rw [raised] at parsed
  cases parsed

end AcdpPlayground.Bridge
