/-
Proleptic Gregorian dates and UTC instants with the range and the failures of
the standard datetime types: years 1 to 9999, and day arithmetic that leaves
this range fails instead of saturating.

Day arithmetic walks the calendar one day at a time, so month lengths and leap
years enter only through `daysInMonth`. Leap seconds and time zone databases are
not modelled; an offset is a fixed number of microseconds.
-/

import Mathlib.Data.List.Basic

namespace AcdpPlayground.Calendar

def isLeapYear (year : Nat) : Bool :=
  year % 4 == 0 && (year % 100 != 0 || year % 400 == 0)

def daysInMonth (year month : Nat) : Nat :=
  if month = 2 then (if isLeapYear year then 29 else 28)
  else if month = 4 ∨ month = 6 ∨ month = 9 ∨ month = 11 then 30
  else 31

theorem daysInMonth_pos (year month : Nat) : 1 ≤ daysInMonth year month := by
  unfold daysInMonth
  split_ifs <;> omega

theorem daysInMonth_le (year month : Nat) : daysInMonth year month ≤ 31 := by
  unfold daysInMonth
  split_ifs <;> omega

structure Date where
  year : Nat
  month : Nat
  day : Nat
  yearRange : 1 ≤ year ∧ year ≤ 9999
  monthRange : 1 ≤ month ∧ month ≤ 12
  dayRange : 1 ≤ day ∧ day ≤ daysInMonth year month
  deriving DecidableEq

theorem Date.ext_fields {left right : Date} (years : left.year = right.year)
    (months : left.month = right.month) (days : left.day = right.day) : left = right := by
  cases left
  cases right
  cases years
  cases months
  cases days
  rfl

/-- The checked constructor; an impossible date is rejected. -/
def Date.make? (year month day : Nat) : Option Date :=
  if valid : (1 ≤ year ∧ year ≤ 9999) ∧ (1 ≤ month ∧ month ≤ 12) ∧
      (1 ≤ day ∧ day ≤ daysInMonth year month) then
    some ⟨year, month, day, valid.1, valid.2.1, valid.2.2⟩
  else none

theorem Date.make?_eq_some {year month day : Nat} {date : Date}
    (made : Date.make? year month day = some date) :
    date.year = year ∧ date.month = month ∧ date.day = day := by
  unfold Date.make? at made
  split at made
  · cases made
    exact ⟨rfl, rfl, rfl⟩
  · cases made

theorem Date.make?_self (date : Date) : Date.make? date.year date.month date.day = some date := by
  unfold Date.make?
  rw [dif_pos ⟨date.yearRange, date.monthRange, date.dayRange⟩]

/-! ### Order -/

instance : LT Date :=
  ⟨fun left right => left.year < right.year ∨
    (left.year = right.year ∧ (left.month < right.month ∨
      (left.month = right.month ∧ left.day < right.day)))⟩

instance : LE Date := ⟨fun left right => left < right ∨ left = right⟩

instance (left right : Date) : Decidable (left < right) :=
  inferInstanceAs (Decidable (left.year < right.year ∨
    (left.year = right.year ∧ (left.month < right.month ∨
      (left.month = right.month ∧ left.day < right.day)))))

instance (left right : Date) : Decidable (left ≤ right) :=
  inferInstanceAs (Decidable (left < right ∨ left = right))

/-- An order-preserving code, so that date comparisons reduce to arithmetic. -/
def Date.code (date : Date) : Nat := (date.year * 13 + date.month) * 32 + date.day

theorem Date.day_lt (date : Date) : date.day < 32 := by
  have lengthBound := daysInMonth_le date.year date.month
  have dayBound := date.dayRange
  omega

theorem Date.lt_iff_code (left right : Date) : left < right ↔ left.code < right.code := by
  have leftDay := left.day_lt
  have rightDay := right.day_lt
  have leftMonth := left.monthRange
  have rightMonth := right.monthRange
  change (_ ∨ _) ↔ _
  unfold Date.code
  omega

theorem Date.code_injective {left right : Date} (same : left.code = right.code) :
    left = right := by
  have leftDay := left.day_lt
  have rightDay := right.day_lt
  have leftMonth := left.monthRange
  have rightMonth := right.monthRange
  unfold Date.code at same
  exact Date.ext_fields (by omega) (by omega) (by omega)

theorem Date.le_iff_code (left right : Date) : left ≤ right ↔ left.code ≤ right.code := by
  change (left < right ∨ left = right) ↔ _
  rw [Date.lt_iff_code]
  constructor
  · intro order
    rcases order with below | same
    · omega
    · exact Nat.le_of_eq (congrArg Date.code same)
  · intro order
    rcases Nat.lt_or_eq_of_le order with below | same
    · exact Or.inl below
    · exact Or.inr (Date.code_injective same)

theorem Date.le_refl (date : Date) : date ≤ date := Or.inr rfl

theorem Date.le_trans {first second third : Date} (left : first ≤ second)
    (right : second ≤ third) : first ≤ third := by
  rw [Date.le_iff_code] at left right ⊢
  omega

theorem Date.not_lt {left right : Date} : ¬ left < right ↔ right ≤ left := by
  rw [Date.lt_iff_code, Date.le_iff_code]
  omega

/-! ### Months and days -/

def Date.firstOfMonth (date : Date) : Date :=
  ⟨date.year, date.month, 1, date.yearRange, date.monthRange,
    ⟨Nat.le_refl 1, daysInMonth_pos date.year date.month⟩⟩

def Date.nextDay (date : Date) : Option Date :=
  if date.day < daysInMonth date.year date.month then
    Date.make? date.year date.month (date.day + 1)
  else if date.month < 12 then Date.make? date.year (date.month + 1) 1
  else Date.make? (date.year + 1) 1 1

def Date.previousDay (date : Date) : Option Date :=
  if 1 < date.day then Date.make? date.year date.month (date.day - 1)
  else if 1 < date.month then
    Date.make? date.year (date.month - 1) (daysInMonth date.year (date.month - 1))
  else Date.make? (date.year - 1) 12 31

def Date.subDays (date : Date) : Nat → Option Date
  | 0 => some date
  | count + 1 => date.previousDay.bind (fun previous => previous.subDays count)

theorem Date.firstOfMonth_le (date : Date) : date.firstOfMonth ≤ date := by
  rw [Date.le_iff_code]
  have dayBound := date.dayRange
  change (date.year * 13 + date.month) * 32 + 1 ≤ (date.year * 13 + date.month) * 32 + date.day
  omega

theorem Date.firstOfMonth_mono {left right : Date} (order : left ≤ right) :
    left.firstOfMonth ≤ right.firstOfMonth := by
  rw [Date.le_iff_code] at order ⊢
  have leftDay := left.day_lt
  have rightDay := right.day_lt
  have leftDayRange := left.dayRange
  unfold Date.code at order
  change (left.year * 13 + left.month) * 32 + 1 ≤ (right.year * 13 + right.month) * 32 + 1
  omega

theorem Date.previousDay_lt {date previous : Date} (made : date.previousDay = some previous) :
    previous < date := by
  have dayRange := date.dayRange
  have monthRange := date.monthRange
  have yearRange := date.yearRange
  rw [Date.lt_iff_code]
  have previousDay := previous.day_lt
  unfold Date.previousDay at made
  unfold Date.code
  split_ifs at made with inMonth inYear
  · obtain ⟨years, months, days⟩ := Date.make?_eq_some made
    omega
  · obtain ⟨years, months, days⟩ := Date.make?_eq_some made
    omega
  · obtain ⟨years, months, days⟩ := Date.make?_eq_some made
    omega

theorem Date.subDays_le {date earlier : Date} {count : Nat}
    (made : date.subDays count = some earlier) : earlier ≤ date := by
  induction count generalizing date with
  | zero =>
      cases made
      exact Date.le_refl _
  | succ count ih =>
      obtain ⟨previous, before, remaining⟩ := Option.bind_eq_some_iff.mp made
      exact Date.le_trans (ih remaining) (Or.inl (Date.previousDay_lt before))

theorem Date.subDays_add (date : Date) (first second : Nat) :
    date.subDays (first + second) =
      (date.subDays first).bind (fun middle => middle.subDays second) := by
  induction first generalizing date with
  | zero =>
      rw [Nat.zero_add]
      rfl
  | succ first ih =>
      rw [Nat.add_right_comm]
      simp only [Date.subDays, Option.bind_assoc]
      congr 1
      funext previous
      exact ih previous

/-- Going back by less than the day of the month stays in the month. -/
theorem Date.subDays_in_month (date : Date) (count : Nat) (within : count < date.day) :
    date.subDays count = Date.make? date.year date.month (date.day - count) := by
  induction count generalizing date with
  | zero => exact (Date.make?_self date).symm
  | succ count ih =>
      have inMonth : 1 < date.day := by omega
      have dayRange := date.dayRange
      have valid : (1 ≤ date.year ∧ date.year ≤ 9999) ∧ (1 ≤ date.month ∧ date.month ≤ 12) ∧
          (1 ≤ date.day - 1 ∧ date.day - 1 ≤ daysInMonth date.year date.month) :=
        ⟨date.yearRange, date.monthRange, by omega, by omega⟩
      have previousAt : date.previousDay =
          some ⟨date.year, date.month, date.day - 1, valid.1, valid.2.1, valid.2.2⟩ := by
        unfold Date.previousDay
        rw [if_pos inMonth, Date.make?, dif_pos valid]
      rw [Date.subDays, previousAt, Option.bind_some, ih _ (by change count < date.day - 1; omega)]
      change Date.make? date.year date.month (date.day - 1 - count) = _
      rw [Nat.sub_sub, Nat.add_comm 1 count]

theorem Date.previousDay_year (date : Date) (later : 1 < date.year) :
    ∃ previous, date.previousDay = some previous ∧ date.year ≤ previous.year + 1 := by
  have dayRange := date.dayRange
  have monthRange := date.monthRange
  have yearRange := date.yearRange
  unfold Date.previousDay
  split_ifs with inMonth inYear
  · refine ⟨⟨date.year, date.month, date.day - 1, yearRange, monthRange, by omega⟩, ?_, by simp⟩
    rw [Date.make?, dif_pos ⟨yearRange, monthRange, by omega, by omega⟩]
  · have positive := daysInMonth_pos date.year (date.month - 1)
    refine ⟨⟨date.year, date.month - 1, daysInMonth date.year (date.month - 1), yearRange,
      by omega, ⟨positive, Nat.le_refl _⟩⟩, ?_, by simp⟩
    rw [Date.make?, dif_pos ⟨yearRange, by omega, positive, Nat.le_refl _⟩]
  · refine ⟨⟨date.year - 1, 12, 31, by omega, by omega, by
      change 1 ≤ 31 ∧ 31 ≤ 31; omega⟩, ?_, by change date.year ≤ date.year - 1 + 1; omega⟩
    rw [Date.make?, dif_pos ⟨by omega, by omega, by change 1 ≤ 31 ∧ 31 ≤ 31; omega⟩]

/-- Day subtraction cannot leave the supported range far from year one. -/
theorem Date.subDays_exists (date : Date) (count : Nat) (far : count < date.year) :
    ∃ earlier, date.subDays count = some earlier := by
  induction count generalizing date with
  | zero => exact ⟨date, rfl⟩
  | succ count ih =>
      obtain ⟨previous, made, yearBound⟩ := Date.previousDay_year date (by omega)
      obtain ⟨earlier, reached⟩ := ih previous (by omega)
      refine ⟨earlier, ?_⟩
      rw [Date.subDays, made, Option.bind_some]
      exact reached

theorem Date.previousDay_nextDay {date next : Date} (made : date.nextDay = some next) :
    next.previousDay = some date := by
  have dayRange := date.dayRange
  have monthRange := date.monthRange
  unfold Date.nextDay at made
  split_ifs at made with inMonth inYear
  · obtain ⟨years, months, days⟩ := Date.make?_eq_some made
    unfold Date.previousDay
    rw [if_pos (by omega), years, months, days, Nat.add_sub_cancel]
    exact Date.make?_self date
  · obtain ⟨years, months, days⟩ := Date.make?_eq_some made
    have lastDay : daysInMonth date.year date.month = date.day := by omega
    unfold Date.previousDay
    rw [if_neg (by omega), if_pos (by omega), years, months, Nat.add_sub_cancel, lastDay]
    exact Date.make?_self date
  · obtain ⟨years, months, days⟩ := Date.make?_eq_some made
    have december : date.month = 12 := by omega
    have lastDay : date.day = 31 := by
      have length : daysInMonth date.year date.month = 31 := by rw [december]; rfl
      omega
    unfold Date.previousDay
    rw [if_neg (by omega), if_neg (by omega), years, Nat.add_sub_cancel, ← december, ← lastDay]
    exact Date.make?_self date

theorem Date.firstOfMonth_nextDay {date next : Date} (made : date.nextDay = some next) :
    next.firstOfMonth = date.firstOfMonth ∨ next.firstOfMonth = next := by
  unfold Date.nextDay at made
  split_ifs at made with inMonth inYear
  · obtain ⟨years, months, _⟩ := Date.make?_eq_some made
    exact Or.inl (Date.ext_fields years months rfl)
  · obtain ⟨_, _, days⟩ := Date.make?_eq_some made
    exact Or.inr (Date.ext_fields rfl rfl days.symm)
  · obtain ⟨_, _, days⟩ := Date.make?_eq_some made
    exact Or.inr (Date.ext_fields rfl rfl days.symm)

/-- No date lies strictly between a day and the next one. -/
theorem Date.le_of_lt_nextDay {date next other : Date} (made : date.nextDay = some next)
    (below : other < next) : other ≤ date := by
  have otherDay := other.dayRange
  have otherMonth := other.monthRange
  have otherBound := other.day_lt
  have dayRange := date.dayRange
  have monthRange := date.monthRange
  have dayBound := date.day_lt
  rw [Date.lt_iff_code] at below
  rw [Date.le_iff_code]
  unfold Date.nextDay at made
  unfold Date.code at below ⊢
  split_ifs at made with inMonth inYear
  · obtain ⟨years, months, days⟩ := Date.make?_eq_some made
    omega
  -- At the end of a month, and of a year, only a longer month could hold a date in between.
  all_goals
    obtain ⟨years, months, days⟩ := Date.make?_eq_some made
    by_contra above
    have sameYear : other.year = date.year := by omega
    have sameMonth : other.month = date.month := by omega
    rw [sameYear, sameMonth] at otherDay
    omega

/-- The first of a month is at most 31 days before the first of the next one. -/
theorem Date.subDays_month_le {date next earlier : Date} {count : Nat}
    (made : date.nextDay = some next) (enough : 31 ≤ count)
    (reached : next.firstOfMonth.subDays count = some earlier) :
    earlier ≤ date.firstOfMonth := by
  rcases Date.firstOfMonth_nextDay made with sameMonth | newMonth
  · rw [sameMonth] at reached
    exact Date.subDays_le reached
  · have dayBound := date.day_lt
    have dayRange := date.dayRange
    obtain ⟨extra, rfl⟩ : ∃ extra, count = (date.day - 1) + extra + 1 :=
      ⟨count - date.day, by omega⟩
    have toFirst : date.subDays (date.day - 1) = some date.firstOfMonth := by
      rw [Date.subDays_in_month date (date.day - 1) (by omega)]
      have one : date.day - (date.day - 1) = 1 := by omega
      rw [one]
      exact Date.make?_self date.firstOfMonth
    rw [newMonth, Date.subDays, Date.previousDay_nextDay made, Option.bind_some,
      Date.subDays_add, toFirst, Option.bind_some] at reached
    exact Date.subDays_le reached

/-- Subtracting a month's worth of days from the month of a date at most one day
ahead never passes the first of this month. -/
theorem Date.subDays_firstOfMonth_le {date next ahead earlier : Date} {count : Nat}
    (made : date.nextDay = some next) (near : ahead ≤ next) (enough : 31 ≤ count)
    (reached : ahead.firstOfMonth.subDays count = some earlier) :
    earlier ≤ date.firstOfMonth := by
  rcases near with before | same
  · have month := Date.firstOfMonth_mono (Date.le_of_lt_nextDay made before)
    exact Date.le_trans (Date.subDays_le reached) month
  · subst ahead
    exact Date.subDays_month_le made enough reached

/-! ### Windows

A window is a run of days with one start; the windows of days and of months tile the
calendar.
-/

structure Window (start : Date → Date) (date next : Date) : Prop where
  same_start : ∀ other, start other = start date ↔ start date ≤ other ∧ other < next
  next_starts : start next = next
  start_le : ∀ other, start other ≤ other
  next_le_start : ∀ other, next ≤ other → next ≤ start other

theorem Window.contains {start : Date → Date} {date next : Date}
    (window : Window start date next) : start date ≤ date ∧ date < next :=
  (window.same_start date).mp rfl

theorem day_window {date next : Date} (made : date.nextDay = some next) :
    Window id date next where
  same_start := by
    intro other
    constructor
    · rintro rfl
      refine ⟨Date.le_refl _, ?_⟩
      exact Date.previousDay_lt (Date.previousDay_nextDay made)
    · rintro ⟨after, before⟩
      have upTo := Date.le_of_lt_nextDay made before
      rw [Date.le_iff_code] at after upTo
      exact Date.code_injective (Nat.le_antisymm upTo after)
  next_starts := rfl
  start_le := Date.le_refl
  next_le_start := fun _ => id

theorem month_window {date next : Date}
    (made : Date.make? (date.year + if date.month = 12 then 1 else 0) (date.month % 12 + 1) 1 =
      some next) : Window Date.firstOfMonth date next where
  same_start := by
    intro other
    obtain ⟨years, months, days⟩ := Date.make?_eq_some made
    have monthRange := date.monthRange
    have otherMonth := other.monthRange
    have otherDay := other.dayRange
    have otherBound := other.day_lt
    rw [Date.le_iff_code, Date.lt_iff_code]
    constructor
    · intro same
      have sameYear := congrArg Date.year same
      have sameMonth := congrArg Date.month same
      change other.year = date.year at sameYear
      change other.month = date.month at sameMonth
      unfold Date.code
      change (date.year * 13 + date.month) * 32 + 1 ≤ _ ∧ _
      split at years <;> omega
    · rintro ⟨after, before⟩
      unfold Date.code at after before
      change (date.year * 13 + date.month) * 32 + 1 ≤ _ at after
      have sameMonths : other.year = date.year ∧ other.month = date.month := by
        split at years <;> omega
      exact Date.ext_fields sameMonths.1 sameMonths.2 rfl
  next_starts := Date.ext_fields rfl rfl (Date.make?_eq_some made).2.2.symm
  start_le := Date.firstOfMonth_le
  next_le_start := by
    intro other after
    have starts : next.firstOfMonth = next :=
      Date.ext_fields rfl rfl (Date.make?_eq_some made).2.2.symm
    have months := Date.firstOfMonth_mono after
    rw [starts] at months
    exact months

theorem Date.nextDay_exists {date : Date} (early : date.year < 9999 ∨ date.month < 12) :
    ∃ next, date.nextDay = some next := by
  have monthRange := date.monthRange
  have yearRange := date.yearRange
  unfold Date.nextDay
  split
  · next inMonth =>
      exact ⟨_, dif_pos ⟨yearRange, monthRange, by omega, inMonth⟩⟩
  · split
    · next inYear =>
        exact ⟨_, dif_pos ⟨yearRange, by omega, Nat.le_refl 1, daysInMonth_pos _ _⟩⟩
    · exact ⟨_, dif_pos ⟨by omega, by omega, Nat.le_refl 1, daysInMonth_pos _ _⟩⟩

theorem Date.nextMonth_exists {date : Date} (early : date.year < 9999 ∨ date.month < 12) :
    ∃ next, Date.make? (date.year + if date.month = 12 then 1 else 0) (date.month % 12 + 1) 1 =
      some next := by
  have monthRange := date.monthRange
  have yearRange := date.yearRange
  split
  · exact ⟨_, dif_pos ⟨by omega, by omega, Nat.le_refl 1, daysInMonth_pos _ _⟩⟩
  · exact ⟨_, dif_pos ⟨by omega, by omega, Nat.le_refl 1, daysInMonth_pos _ _⟩⟩

/-! ### Instants and offset datetimes -/

def dayMicros : Nat := 86400000000

/-- A UTC datetime: the date and the microseconds since its midnight. -/
structure Instant where
  date : Date
  micros : Nat
  inDay : micros < dayMicros
  deriving DecidableEq

def Instant.midnight (date : Date) : Instant :=
  { date := date
    micros := 0
    inDay := by decide }

instance : LE Instant :=
  ⟨fun left right => left.date < right.date ∨
    (left.date = right.date ∧ left.micros ≤ right.micros)⟩

instance (left right : Instant) : Decidable (left ≤ right) :=
  inferInstanceAs (Decidable (left.date < right.date ∨
    (left.date = right.date ∧ left.micros ≤ right.micros)))

theorem Instant.date_le {left right : Instant} (order : left ≤ right) :
    left.date ≤ right.date := by
  rcases order with below | same
  · exact Or.inl below
  · exact Or.inr same.1

instance : LT Instant :=
  ⟨fun left right => left.date < right.date ∨
    (left.date = right.date ∧ left.micros < right.micros)⟩

instance (left right : Instant) : Decidable (left < right) :=
  inferInstanceAs (Decidable (left.date < right.date ∨
    (left.date = right.date ∧ left.micros < right.micros)))

theorem Instant.midnight_le {date : Date} {instant : Instant} :
    Instant.midnight date ≤ instant ↔ date ≤ instant.date := by
  constructor
  · exact Instant.date_le
  · rintro (below | same)
    · exact Or.inl below
    · exact Or.inr ⟨same, Nat.zero_le _⟩

theorem Instant.lt_midnight {date : Date} {instant : Instant} :
    instant < Instant.midnight date ↔ instant.date < date := by
  constructor
  · rintro (below | ⟨_, negative⟩)
    · exact below
    · cases negative
  · exact Or.inl

theorem Instant.not_midnight_le {date : Date} {instant : Instant}
    (before : ¬ Instant.midnight date ≤ instant) : instant.date < date := by
  rw [Instant.midnight_le, Date.le_iff_code] at before
  rw [Date.lt_iff_code]
  omega

/-- A reading of the system clock, which counts from 1970. -/
structure SystemClock where
  instant : Instant
  sinceEpoch : 1970 ≤ instant.date.year
  deriving DecidableEq

/-- Addition of less than a day, the only amount the callers add. -/
def Instant.addMicros (instant : Instant) (amount : Nat) (short : amount < dayMicros) :
    Option Instant :=
  if inDay : instant.micros + amount < dayMicros then
    some ⟨instant.date, instant.micros + amount, inDay⟩
  else
    instant.date.nextDay.map fun next =>
      ⟨next, instant.micros + amount - dayMicros, by
        have before := instant.inDay
        omega⟩

theorem Instant.addMicros_date {instant later : Instant} {amount : Nat}
    {short : amount < dayMicros} (made : instant.addMicros amount short = some later) :
    later.date = instant.date ∨ instant.date.nextDay = some later.date := by
  unfold Instant.addMicros at made
  split at made
  · cases made
    exact Or.inl rfl
  · obtain ⟨next, nextAt, rfl⟩ := Option.map_eq_some_iff.mp made
    exact Or.inr nextAt

/-- An aware datetime: local fields and a fixed offset from UTC. -/
structure Datetime where
  date : Date
  micros : Nat
  offset : Int
  inDay : micros < dayMicros
  offsetRange : -(dayMicros : Int) < offset ∧ offset < dayMicros
  deriving DecidableEq

def Datetime.astimezoneUtc (datetime : Datetime) : Option Instant :=
  if beforeMidnight : (datetime.micros : Int) < datetime.offset then
    datetime.date.previousDay.map fun previous =>
      ⟨previous, (datetime.micros + dayMicros - datetime.offset : Int).toNat, by
        have range := datetime.offsetRange
        have inDay := datetime.inDay
        omega⟩
  else if sameDay : (datetime.micros : Int) - datetime.offset < dayMicros then
    some ⟨datetime.date, (datetime.micros - datetime.offset : Int).toNat, by omega⟩
  else
    datetime.date.nextDay.map fun next =>
      ⟨next, (datetime.micros - datetime.offset - dayMicros : Int).toNat, by
        have range := datetime.offsetRange
        have inDay := datetime.inDay
        omega⟩

def Instant.toDatetime (instant : Instant) : Datetime :=
  { date := instant.date
    micros := instant.micros
    offset := 0
    inDay := instant.inDay
    offsetRange := by decide }

@[simp] theorem Instant.astimezoneUtc_toDatetime (instant : Instant) :
    instant.toDatetime.astimezoneUtc = some instant := by
  have inDay := instant.inDay
  unfold Datetime.astimezoneUtc
  rw [dif_neg (by change ¬ (instant.micros : Int) < 0; omega),
    dif_pos (by change (instant.micros : Int) - 0 < dayMicros; omega)]
  have micros : ((instant.micros : Int) - 0).toNat = instant.micros := by omega
  simp only [Instant.toDatetime, micros]

/-! ### Text -/

def zeroPadded (width value : Nat) : List Char :=
  let digits := Nat.toDigits 10 value
  List.replicate (width - digits.length) '0' ++ digits

/-- ISO 8601 text of a UTC datetime; the fraction is omitted when it is zero. -/
def Instant.isoformat (instant : Instant) : List Char :=
  let seconds := instant.micros / 1000000
  let fraction := instant.micros % 1000000
  zeroPadded 4 instant.date.year ++ ['-'] ++ zeroPadded 2 instant.date.month ++ ['-'] ++
    zeroPadded 2 instant.date.day ++ ['T'] ++ zeroPadded 2 (seconds / 3600) ++ [':'] ++
    zeroPadded 2 (seconds / 60 % 60) ++ [':'] ++ zeroPadded 2 (seconds % 60) ++
    (if fraction = 0 then [] else '.' :: zeroPadded 6 fraction) ++ "+00:00".toList

/-- Replace the non-overlapping occurrences of `pattern`, left to right; the
first argument counts the characters of the last occurrence still to skip. -/
def replaceAll (pattern replacement : List Char) : Nat → List Char → List Char
  | _, [] => []
  | skip + 1, _ :: rest => replaceAll pattern replacement skip rest
  | 0, char :: rest =>
      if pattern.isPrefixOf (char :: rest) then
        replacement ++ replaceAll pattern replacement (pattern.length - 1) rest
      else char :: replaceAll pattern replacement 0 rest

end AcdpPlayground.Calendar
