/-
Dates in mail and HTTP headers as the standard library reads them: the tokens of
`email._parseaddr._parsedate_tz`, the ranges that `datetime`, `timedelta` and `timezone`
check, and `datetime.timestamp`, which for a date without a zone goes through the local
time of the process.

Local time is a parameter: the offset from UTC at each unix second. Letter case is mapped
where the result is an ASCII letter; other letters are kept, and none of the names and
numbers here has any.
-/

import AcdpPlayground.Foundation.Calendar
import AcdpPlayground.Foundation.PythonText

namespace AcdpPlayground.HttpDate

open PythonText

/-! ### Characters -/

/-- Digits that are not decimal digits, as ranges of code points. -/
def otherDigits : List (Nat × Nat) :=
  [(178, 179), (185, 185), (4969, 4977), (6618, 6618), (8304, 8304), (8308, 8313), (8320, 8329),
    (9312, 9320), (9332, 9340), (9352, 9360), (9450, 9450), (9461, 9469), (9471, 9471),
    (10102, 10110), (10112, 10120), (10122, 10130), (68160, 68163), (69216, 69224),
    (69714, 69722), (127232, 127242)]

/-- `str.isdigit` of one character. -/
def isDigitChar (point : Nat) : Bool :=
  (decimalValue point).isSome || otherDigits.any (fun range => range.1 ≤ point && point ≤ range.2)

def isDigit (given : Text) : Bool :=
  given ≠ [] && given.all isDigitChar

def lowerPoint (point : Nat) : Nat :=
  if 65 ≤ point && point ≤ 90 then point + 32 else if point = 8490 then 107 else point

def lower (given : Text) : Text :=
  given.map lowerPoint

def upperPoint (point : Nat) : Text :=
  if 97 ≤ point && point ≤ 122 then [point - 32]
  else
    match point with
    | 223 => text "SS"
    | 305 => text "I"
    | 383 => text "S"
    | 64256 => text "FF"
    | 64257 => text "FI"
    | 64258 => text "FL"
    | 64259 => text "FFI"
    | 64260 => text "FFL"
    | 64261 | 64262 => text "ST"
    | _ => [point]

def upper (given : Text) : Text :=
  given.flatMap upperPoint

/-! ### Tokens -/

def splitWords (given : Text) : List Text :=
  (given.splitOnP isSpace).filter (fun word => word ≠ [])

def dayNames : List String :=
  ["mon", "tue", "wed", "thu", "fri", "sat", "sun"]

def monthNames : List String :=
  ["jan", "feb", "mar", "apr", "may", "jun", "jul", "aug", "sep", "oct", "nov", "dec", "january",
    "february", "march", "april", "may", "june", "july", "august", "september", "october",
    "november", "december"]

def zoneTable : List (String × Int) :=
  [("UT", 0), ("UTC", 0), ("GMT", 0), ("Z", 0), ("AST", -400), ("ADT", -300), ("EST", -500),
    ("EDT", -400), ("CST", -600), ("CDT", -500), ("MST", -700), ("MDT", -600), ("PST", -800),
    ("PDT", -700)]

def afterComma (given : Text) : Text :=
  (given.reverse.takeWhile (fun point => point ≠ 44)).reverse

/-- The name of a day goes, also when it is glued to the next token by its comma. -/
def dropDayName : List Text → List Text
  | [] => []
  | first :: rest =>
      if first.getLast? = some 44 || (dayNames.map text).contains (lower first) then rest
      else afterComma first :: rest

/-- `01-Jan-26` is three tokens. -/
def splitDashes : List Text → List Text
  | [first, second, third] =>
      let parts := first.splitOn 45
      if parts.length = 3 then parts ++ [second, third] else [first, second, third]
  | tokens => tokens

def signPosition (given : Text) : Option Nat :=
  let position := (given.findIdx? (fun point => point = 43)).or
    (given.findIdx? (fun point => point = 45))
  position.filter (fun index => 0 < index)

/-- A zone glued to the time is a token of its own; a missing one is the empty token. -/
def splitZone : List Text → List Text
  | [first, second, third, time] =>
      match signPosition time with
      | some index => [first, second, third, time.take index, time.drop index]
      | none => [first, second, third, time, []]
  | tokens => tokens

def dateTokens (data : Text) : List Text :=
  splitZone (splitDashes (dropDayName (splitWords data)))

/-! ### Fields -/

inductive PyError where
  | valueError
  | overflowError
  | indexError
  | recursionError
  | invalidUrl
  deriving DecidableEq

structure DateFields where
  year : Int
  month : Nat
  day : Int
  hour : Int
  minute : Int
  second : Int
  tz : Option Int

/-- `if x[-1] == ",": x = x[:-1]`. -/
def dropComma (given : Text) : Except PyError Text :=
  match given.getLast? with
  | none => .error .indexError
  | some last => .ok (if last = 44 then given.dropLast else given)

/-- The month and the day, which may stand the other way round. -/
def monthAndDay (dd mm : Text) : Option (Nat × Text) :=
  match (monthNames.map text).idxOf? (lower mm) with
  | some index => some (index % 12 + 1, dd)
  | none =>
      ((monthNames.map text).idxOf? (lower dd)).map (fun index => (index % 12 + 1, lower mm))

def timeParts (tm : Text) : Option (Text × Text × Text) :=
  match tm.splitOn 58 with
  | [thh, tmm] => some (thh, tmm, text "0")
  | [thh, tmm, tss] => some (thh, tmm, tss)
  | [whole] =>
      if whole.contains 46 then
        match whole.splitOn 46 with
        | [thh, tmm] => some (thh, tmm, text "0")
        | [thh, tmm, tss] => some (thh, tmm, tss)
        | _ => none
      else none
  | _ => none

/-- Two-digit years, and all others below 100. -/
def fullYear (yy : Int) : Int :=
  if yy < 100 then (if 68 < yy then yy + 1900 else yy + 2000) else yy

/-- Hours and minutes as a number: `-0500` is -500. A zone `-0000` is no zone. -/
def zoneNumber (tz : Text) : Option Int :=
  match zoneTable.find? (fun entry => text entry.1 = upper tz) with
  | some entry => some entry.2
  | none => (limitedInt (upper tz)).filter (fun number => number ≠ 0 || tz.head? ≠ some 45)

def zoneSeconds (number : Int) : Int :=
  let size : Int := (number.natAbs / 100) * 3600 + (number.natAbs % 100) * 60
  if number < 0 then -size else size

def numericFields (month : Nat) (dd yy tm tz : Text) : Option DateFields := do
  let (thh, tmm, tss) ← timeParts tm
  let year ← limitedInt yy
  let day ← limitedInt dd
  let hour ← limitedInt thh
  let minute ← limitedInt tmm
  let second ← limitedInt tss
  return {
    year := fullYear year
    month := month
    day := day
    hour := hour
    minute := minute
    second := second
    tz := (zoneNumber tz).map zoneSeconds }

def readTokens (dd mm yy tm tz : Text) : Except PyError (Option DateFields) :=
  if dd = [] || mm = [] || yy = [] then .ok none
  else
    match monthAndDay dd mm with
    | none => .ok none
    | some (month, dd) => do
        let dd ← dropComma dd
        let swapped := yy.contains 58 && yy.head? ≠ some 58
        let yearToken ← dropComma (if swapped then tm else yy)
        match yearToken with
        | [] => return none
        | lead :: _ =>
            let tm ← dropComma (if swapped then yy else tm)
            -- A year that does not begin with a digit is the zone, and the zone the year.
            if isDigitChar lead then return numericFields month dd yearToken tm tz
            else return numericFields month dd tz tm yearToken

def parsedateTz (data : Text) : Except PyError (Option DateFields) :=
  match dateTokens data with
  | dd :: mm :: yy :: tm :: tz :: _ => readTokens dd mm yy tm tz
  | _ => .ok none

/-! ### No index is out of range

The time, the fourth token, is never empty: it is a word, or the part of one before its
sign. The other tokens are checked. -/

theorem afterComma_ne_nil {given : Text} (nonempty : given ≠ [])
    (noComma : given.getLast? ≠ some 44) : afterComma given ≠ [] := by
  unfold afterComma
  rw [← List.head?_reverse] at noComma
  cases reversed : given.reverse with
  | nil => exact absurd (List.reverse_eq_nil_iff.mp reversed) nonempty
  | cons last before =>
      rw [reversed] at noComma
      have other : last ≠ 44 := fun same => noComma (congrArg some same)
      rw [List.takeWhile_cons_of_pos (by simpa using other)]
      simp

theorem dropDayName_ne_nil {tokens : List Text} (words : ∀ token ∈ tokens, token ≠ []) :
    ∀ token ∈ dropDayName tokens, token ≠ [] := by
  cases tokens with
  | nil => exact words
  | cons first rest =>
      intro token member
      simp only [dropDayName] at member
      split at member
      · exact words token (List.mem_cons_of_mem _ member)
      · next kept =>
          rw [Bool.or_eq_true, not_or, decide_eq_true_eq] at kept
          rcases List.mem_cons.mp member with rfl | later
          · exact afterComma_ne_nil (words first List.mem_cons_self) kept.1
          · exact words token (List.mem_cons_of_mem _ later)

theorem splitDashes_time {tokens : List Text} (words : ∀ token ∈ tokens, token ≠ []) :
    ∀ time, (splitDashes tokens)[3]? = some time → time ≠ [] := by
  intro time found
  unfold splitDashes at found
  split at found
  · next first second third =>
      simp only at found
      split at found
      · next three =>
          rw [List.getElem?_append_right (by omega), three] at found
          rw [← Option.some.inj found]
          exact words second (by simp)
      · cases found
  · exact words time (List.mem_of_getElem? found)

theorem splitZone_time {tokens : List Text}
    (words : ∀ time, tokens[3]? = some time → time ≠ []) :
    ∀ time, (splitZone tokens)[3]? = some time → time ≠ [] := by
  intro time found
  unfold splitZone at found
  split at found
  · next first second third whole =>
      have nonempty : whole ≠ [] := words whole rfl
      split at found
      · next index position =>
          have positive : 0 < index := by
            have passed := (Option.filter_eq_some_iff.mp position).2
            simpa using passed
          rw [← Option.some.inj found]
          intro empty
          rcases List.take_eq_nil_iff.mp empty with start | nothing
          · omega
          · exact nonempty nothing
      · rw [← Option.some.inj found]
        exact nonempty
  · exact words time found

theorem dateTokens_time {data : Text} :
    ∀ time, (dateTokens data)[3]? = some time → time ≠ [] := by
  apply splitZone_time
  apply splitDashes_time
  apply dropDayName_ne_nil
  intro token member
  simpa using (List.mem_filter.mp member).2

theorem dropComma_ok {given : Text} (nonempty : given ≠ []) :
    ∃ kept, dropComma given = .ok kept := by
  unfold dropComma
  rw [List.getLast?_eq_some_getLast nonempty]
  exact ⟨_, rfl⟩

theorem monthAndDay_ne_nil {dd mm day : Text} {month : Nat} (ddKnown : dd ≠ []) (mmKnown : mm ≠ [])
    (found : monthAndDay dd mm = some (month, day)) : day ≠ [] := by
  unfold monthAndDay at found
  split at found
  · cases found
    exact ddKnown
  · obtain ⟨index, _, same⟩ := Option.map_eq_some_iff.mp found
    cases same
    intro empty
    exact mmKnown (List.map_eq_nil_iff.mp empty)

theorem readTokens_ok {dd mm yy tm tz : Text} (timeKnown : tm ≠ []) :
    ∃ fields, readTokens dd mm yy tm tz = .ok fields := by
  unfold readTokens
  split
  · exact ⟨none, rfl⟩
  · next known =>
      simp only [Bool.or_eq_true, decide_eq_true_eq, not_or] at known
      split
      · exact ⟨none, rfl⟩
      · next month day found =>
          obtain ⟨dayToken, dayKept⟩ := dropComma_ok (monthAndDay_ne_nil known.1.1 known.1.2 found)
          have yearKnown : (if (yy.contains 58 && yy.head? ≠ some 58) then tm else yy) ≠ [] := by
            split
            · exact timeKnown
            · exact known.2
          have clockKnown : (if (yy.contains 58 && yy.head? ≠ some 58) then yy else tm) ≠ [] := by
            split
            · exact known.2
            · exact timeKnown
          obtain ⟨yearToken, yearKept⟩ := dropComma_ok yearKnown
          obtain ⟨clock, clockKept⟩ := dropComma_ok clockKnown
          simp only [dayKept, yearKept, clockKept, bind, Except.bind]
          cases yearToken with
          | nil => exact ⟨none, rfl⟩
          | cons lead more =>
              simp only
              split
              · exact ⟨_, rfl⟩
              · exact ⟨_, rfl⟩

theorem parsedateTz_ok (data : Text) : ∃ fields, parsedateTz data = .ok fields := by
  unfold parsedateTz
  split
  · next tokens =>
      exact readTokens_ok (dateTokens_time _ (by rw [tokens]; rfl))
  · exact ⟨none, rfl⟩

/-! ### Datetimes -/

/-- Seconds from the day before year 1, as `utc_to_seconds` counts them. -/
def wallSeconds (year month day hour minute second : Nat) : Nat :=
  let before := year - 1
  let yearDays := before * 365 + before / 4 - before / 100 + before / 400
  let monthDays :=
    ((List.range (month - 1)).map (fun index => Calendar.daysInMonth year (index + 1))).sum
  (((yearDays + monthDays + day) * 24 + hour) * 60 + minute) * 60 + second

def epoch : Int := 719163 * 86400

def fitsInt (value : Int) : Bool :=
  -2147483648 ≤ value && value ≤ 2147483647

/-- The numbers that are read into C integers. -/
def DateFields.fit (fields : DateFields) : Bool :=
  [fields.year, fields.day, fields.hour, fields.minute, fields.second].all fitsInt

/-- What `datetime` accepts. -/
def DateFields.valid (fields : DateFields) : Bool :=
  1 ≤ fields.year && fields.year ≤ 9999 && 1 ≤ fields.day &&
    fields.day ≤ Calendar.daysInMonth fields.year.toNat fields.month &&
    0 ≤ fields.hour && fields.hour ≤ 23 && 0 ≤ fields.minute && fields.minute ≤ 59 &&
    0 ≤ fields.second && fields.second ≤ 59

/-- Wall-clock seconds, and the offset of the zone when there is one. -/
structure Datetime where
  wall : Int
  offset : Option Int
  deriving DecidableEq

def DateFields.wall (fields : DateFields) : Int :=
  wallSeconds fields.year.toNat fields.month fields.day.toNat fields.hour.toNat
    fields.minute.toNat fields.second.toNat

/-- `timezone(timedelta(seconds=offset))`. -/
def checkZone (offset : Int) : Except PyError Unit :=
  if offset / 86400 < -999999999 || 999999999 < offset / 86400 then .error .overflowError
  else if -86400 < offset && offset < 86400 then .ok ()
  else .error .valueError

def DateFields.datetime (fields : DateFields) : Except PyError Datetime := do
  match fields.tz with
  | some offset => checkZone offset
  | none => pure ()
  if !fields.fit then throw .overflowError
  if !fields.valid then throw .valueError
  return { wall := fields.wall, offset := fields.tz }

def parsedateToDatetime (data : Text) : Except PyError Datetime := do
  match ← parsedateTz data with
  | none => throw .valueError
  | some fields => fields.datetime

/-! ### Timestamps -/

def inYears (wall : Int) : Bool :=
  86400 ≤ wall && wall < 3652060 * 86400

/-- `local`: wall-clock time of the process at a UTC second. -/
def localSeconds (zone : Int → Int) (utc : Int) : Option Int :=
  let wall := utc + zone (utc - epoch)
  if inYears wall then some wall else none

/-- `local_to_seconds`: a UTC second whose local time is the given one, the earlier of two,
or one at the edge of the gap when there is none. -/
def localToSeconds (zone : Int → Int) (wall : Int) : Option Int := do
  let first := (← localSeconds zone wall) - wall
  let guess := wall - first
  let again ← localSeconds zone guess
  if again = wall then
    let earlier := guess - 86400
    let second := (← localSeconds zone earlier) - earlier
    if first = second then return guess
    let other := wall - second
    return if (← localSeconds zone other) = wall then other else guess
  else
    let other := wall - (again - guess)
    return if (← localSeconds zone other) = wall then other else max guess other

/-- `datetime.timestamp()`, without the fraction. -/
def Datetime.timestamp (zone : Int → Int) (datetime : Datetime) : Except PyError Int :=
  match datetime.offset with
  | some offset => .ok (datetime.wall - offset - epoch)
  | none =>
      match localToSeconds zone datetime.wall with
      | some utc => .ok (utc - epoch)
      | none => .error .valueError

end AcdpPlayground.HttpDate
