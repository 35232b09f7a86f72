/-
What a JSON text says. The grammar once more, with the value that each part stands for and
the digits of the integers in it: a text says one thing of a value and another of the
limits that an interpreter has for reading it.

Every text of the grammar has a meaning, and the scanner returns that meaning, unless an
integer has too many digits or the text is nested too deep.
-/

import AcdpPlayground.Foundation.JsonReading

namespace AcdpPlayground.JsonText

open PythonText JsonValue KeyedTable

/-! ### Grammar with values -/

/-- A number, its value and the digits of an integer. A float is kept by its literal. -/
inductive NumberOf : Text → Text → Json → List Text → Prop where
  | integer {digits rest : Text} (int : IntPart (digits ++ rest) rest) :
      NumberOf (digits ++ rest) rest (.integer (digitsValue digits)) [digits]
  | negative {digits rest : Text} (int : IntPart (digits ++ rest) rest) :
      NumberOf (45 :: (digits ++ rest)) rest (.integer (-(digitsValue digits : Int))) [digits]
  | float {literal afterInt afterFraction rest : Text} (int : IntPart (literal ++ rest) afterInt)
      (fraction : Fraction afterInt afterFraction) (exponent : Exponent afterFraction rest)
      (longer : rest ≠ afterInt) : NumberOf (literal ++ rest) rest (.float literal) []
  | negativeFloat {literal afterInt afterFraction rest : Text}
      (int : IntPart (literal ++ rest) afterInt) (fraction : Fraction afterInt afterFraction)
      (exponent : Exponent afterFraction rest) (longer : rest ≠ afterInt) :
      NumberOf (45 :: (literal ++ rest)) rest (.float (45 :: literal)) []

def isHighHalf (code : Nat) : Bool :=
  0xD800 ≤ code && code ≤ 0xDBFF

def isLowHalf (code : Nat) : Bool :=
  0xDC00 ≤ code && code ≤ 0xDFFF

/-- The escape of the second half of a surrogate pair comes first. -/
def LowEscaped (given : Text) : Prop :=
  ∃ first second third fourth low more,
    given = 92 :: 117 :: first :: second :: third :: fourth :: more ∧
      hexQuad first second third fourth = some low ∧ isLowHalf low = true

/-- The inside of a string and its closing quote. Two escapes that make up a surrogate pair
are one character; any other escape is the character of its code. -/
inductive StringOf : Text → Text → Text → Prop where
  | close (rest : Text) : StringOf (34 :: rest) rest []
  | plain {point : Nat} {given rest value : Text} (visible : 32 ≤ point) (noQuote : point ≠ 34)
      (noEscape : point ≠ 92) (later : StringOf given rest value) :
      StringOf (point :: given) rest (point :: value)
  | escape {mark meaning : Nat} {given rest value : Text}
      (known : escapes.lookup mark = some meaning) (later : StringOf given rest value) :
      StringOf (92 :: mark :: given) rest (meaning :: value)
  | unicode {first second third fourth code : Nat} {given rest value : Text}
      (hex : hexQuad first second third fourth = some code)
      (alone : isHighHalf code = true → ¬LowEscaped given) (later : StringOf given rest value) :
      StringOf (92 :: 117 :: first :: second :: third :: fourth :: given) rest (code :: value)
  | pair {first second third fourth high fifth sixth seventh eighth low : Nat}
      {given rest value : Text} (highHex : hexQuad first second third fourth = some high)
      (lowHex : hexQuad fifth sixth seventh eighth = some low) (isHigh : isHighHalf high = true)
      (isLow : isLowHalf low = true) (later : StringOf given rest value) :
      StringOf
        (92 :: 117 :: first :: second :: third :: fourth ::
          92 :: 117 :: fifth :: sixth :: seventh :: eighth :: given) rest
        ((0x10000 + (high - 0xD800) * 0x400 + (low - 0xDC00)) :: value)

inductive ScalarOf (constants : Bool) : Text → Text → Json → List Text → Prop where
  | nullWord (rest : Text) : ScalarOf constants (text "null" ++ rest) rest .null []
  | trueWord (rest : Text) : ScalarOf constants (text "true" ++ rest) rest (.boolean true) []
  | falseWord (rest : Text) : ScalarOf constants (text "false" ++ rest) rest (.boolean false) []
  | constant {name : String} (rest : Text) (known : name ∈ extraConstants)
      (counted : constants = true) :
      ScalarOf constants (text name ++ rest) rest (.float (text name)) []
  | number {given rest : Text} {value : Json} {integers : List Text}
      (isNumber : NumberOf given rest value integers) :
      ScalarOf constants given rest value integers
  | string {given rest value : Text} (tail : StringOf given rest value) :
      ScalarOf constants (34 :: given) rest (.string value) []

inductive SeriesOf {Element : Type} (close : Nat)
    (element : Text → Text → Element → List Text → Prop) :
    Text → Text → List Element → List Text → Prop where
  | last {given after rest : Text} {value : Element} {integers : List Text}
      (first : element given after value integers) (closed : Ws after (close :: rest)) :
      SeriesOf close element given rest [value] integers
  | more {given after next following rest : Text} {value : Element} {values : List Element}
      {integers others : List Text} (first : element given after value integers)
      (comma : Ws after (44 :: next)) (space : Ws next following)
      (later : SeriesOf close element following rest values others) :
      SeriesOf close element given rest (value :: values) (integers ++ others)

inductive MemberOf (valueOf : Text → Text → Json → List Text → Prop) :
    Text → Text → Text × Json → List Text → Prop where
  | named {given afterName next start rest name : Text} {value : Json} {integers : List Text}
      (called : StringOf given afterName name) (colon : Ws afterName (58 :: next))
      (space : Ws next start) (held : valueOf start rest value integers) :
      MemberOf valueOf (34 :: given) rest (name, value) integers

/-- The members of an object make up a dictionary. -/
inductive ContainerOf (valueOf : Text → Text → Json → List Text → Prop) :
    Text → Text → Json → List Text → Prop where
  | emptyArray {given rest : Text} (closed : Ws given (93 :: rest)) :
      ContainerOf valueOf (91 :: given) rest (.array []) []
  | array {given start rest : Text} {items : List Json} {integers : List Text}
      (space : Ws given start) (listed : SeriesOf 93 valueOf start rest items integers) :
      ContainerOf valueOf (91 :: given) rest (.array items) integers
  | emptyObject {given rest : Text} (closed : Ws given (125 :: rest)) :
      ContainerOf valueOf (123 :: given) rest (.object []) []
  | object {given start rest : Text} {members : List (Text × Json)} {integers : List Text}
      (space : Ws given start)
      (listed : SeriesOf 125 (MemberOf valueOf) start rest members integers) :
      ContainerOf valueOf (123 :: given) rest (objectOf members) integers

/-- Values nested at most `nesting` levels. -/
def ValueOf (constants : Bool) : Nat → Text → Text → Json → List Text → Prop
  | 0 => ScalarOf constants
  | nesting + 1 => fun given rest value integers =>
      ScalarOf constants given rest value integers ∨
        ContainerOf (ValueOf constants nesting) given rest value integers

/-- A text with its value and the digits of the integers in it. -/
def TextOf (constants : Bool) (nesting : Nat) (given : Text) (value : Json)
    (integers : List Text) : Prop :=
  ∃ start after, Ws given start ∧ ValueOf constants nesting start after value integers ∧
    Ws after []

/-! ### A text with a meaning is a text -/

theorem NumberOf.erase {given rest : Text} {value : Json} {integers : List Text}
    (said : NumberOf given rest value integers) : Number given rest := by
  cases said with
  | integer int => exact .positive int (.none _) (.none _)
  | negative int => exact .negative int (.none _) (.none _)
  | float int fraction exponent _ => exact .positive int fraction exponent
  | negativeFloat int fraction exponent _ => exact .negative int fraction exponent

theorem StringOf.erase {given rest value : Text} (said : StringOf given rest value) :
    StringTail given rest := by
  induction said with
  | close rest => exact .close rest
  | plain visible noQuote noEscape _ ih => exact .plain visible noQuote noEscape ih
  | escape known _ ih => exact .escape known ih
  | unicode hex _ _ ih => exact .unicode hex ih
  | pair highHex lowHex _ _ _ ih => exact .unicode highHex (.unicode lowHex ih)

theorem ScalarOf.erase {constants : Bool} {given rest : Text} {value : Json}
    {integers : List Text} (said : ScalarOf constants given rest value integers) :
    Scalar constants given rest := by
  cases said with
  | nullWord => exact .nullWord _
  | trueWord => exact .trueWord _
  | falseWord => exact .falseWord _
  | constant _ known counted => exact .constant _ known counted
  | number isNumber => exact .number isNumber.erase
  | string tail => exact .string tail.erase

theorem SeriesOf.erase {Element : Type} {close : Nat}
    {elementOf : Text → Text → Element → List Text → Prop} {element : Text → Text → Prop}
    (each : ∀ given rest value integers, elementOf given rest value integers →
      element given rest) {given rest : Text} {values : List Element} {integers : List Text}
    (said : SeriesOf close elementOf given rest values integers) :
    Series close element given rest := by
  induction said with
  | last first closed => exact .last (each _ _ _ _ first) closed
  | more first comma space _ ih => exact .more (each _ _ _ _ first) comma space ih

theorem MemberOf.erase {valueOf : Text → Text → Json → List Text → Prop}
    {value : Text → Text → Prop}
    (each : ∀ given rest held integers, valueOf given rest held integers → value given rest)
    {given rest : Text} {member : Text × Json} {integers : List Text}
    (said : MemberOf valueOf given rest member integers) : Member value given rest := by
  cases said with
  | named called colon space held => exact .named called.erase colon space (each _ _ _ _ held)

theorem ValueOf.erase {constants : Bool} {nesting : Nat} {given rest : Text} {value : Json}
    {integers : List Text} (said : ValueOf constants nesting given rest value integers) :
    Value constants nesting given rest := by
  induction nesting generalizing given rest value integers with
  | zero => exact ScalarOf.erase said
  | succ nesting ih =>
      have each : ∀ given rest value integers,
          ValueOf constants nesting given rest value integers →
            Value constants nesting given rest := by
        intro given rest value integers
        exact ih
      rcases said with scalar | container
      · exact .inl scalar.erase
      · right
        cases container with
        | emptyArray closed => exact .emptyArray closed
        | array space listed => exact .array space (listed.erase each)
        | emptyObject closed => exact .emptyObject closed
        | object space listed =>
            exact .object space (listed.erase (fun _ _ _ _ member => member.erase each))

/-! ### Every text has a meaning -/

theorem Digits.suffix {given rest : Text} (digits : Digits given rest) : rest <:+ given := by
  induction digits with
  | one rest _ => exact List.suffix_cons _ rest
  | more _ _ ih => exact ih.trans (List.suffix_cons _ _)

theorem IntPart.suffix {given rest : Text} (int : IntPart given rest) : rest <:+ given := by
  cases int with
  | zero _ => exact List.suffix_cons _ _
  | nonzero _ digits => exact digits.suffix

theorem Fraction.suffix {given rest : Text} (fraction : Fraction given rest) : rest <:+ given := by
  cases fraction with
  | none _ => exact List.suffix_refl _
  | point digits => exact digits.suffix.trans (List.suffix_cons _ _)

theorem Exponent.suffix {given rest : Text} (exponent : Exponent given rest) : rest <:+ given := by
  cases exponent with
  | none _ => exact List.suffix_refl _
  | plain _ digits => exact digits.suffix.trans (List.suffix_cons _ _)
  | signed _ _ digits =>
      exact digits.suffix.trans ((List.suffix_cons _ _).trans (List.suffix_cons _ _))

/-- The digits of an integer are all of the number exactly when nothing follows them. -/
theorem exists_numberOf {given rest : Text} (number : Number given rest) :
    ∃ value integers, NumberOf given rest value integers := by
  cases number with
  | @positive _ afterInt _ _ int fraction exponent =>
      obtain ⟨literal, rfl⟩ := exponent.suffix.trans (fraction.suffix.trans int.suffix)
      by_cases whole : rest = afterInt
      · exact ⟨_, _, .integer (whole ▸ int)⟩
      · exact ⟨_, _, .float int fraction exponent whole⟩
  | @negative _ afterInt _ _ int fraction exponent =>
      obtain ⟨literal, rfl⟩ := exponent.suffix.trans (fraction.suffix.trans int.suffix)
      by_cases whole : rest = afterInt
      · exact ⟨_, _, .negative (whole ▸ int)⟩
      · exact ⟨_, _, .negativeFloat int fraction exponent whole⟩

theorem not_both_halves {code : Nat} (high : isHighHalf code = true) :
    isLowHalf code = false := by
  simp only [isHighHalf, isLowHalf, Bool.and_eq_true, decide_eq_true_eq, Bool.and_eq_false_iff,
    decide_eq_false_iff_not] at high ⊢
  omega

theorem StringOf.behind_low {first second third fourth low : Nat} {given rest value : Text}
    (hex : hexQuad first second third fourth = some low) (isLow : isLowHalf low = true)
    (said : StringOf (92 :: 117 :: first :: second :: third :: fourth :: given) rest value) :
    ∃ later, StringOf given rest later := by
  cases said with
  | plain _ _ noEscape _ => exact absurd rfl noEscape
  | escape known _ => cases known
  | unicode _ _ later => exact ⟨_, later⟩
  | pair highHex _ isHigh _ _ =>
      rw [hex] at highHex
      cases highHex
      rw [not_both_halves isHigh] at isLow
      cases isLow

theorem exists_stringOf {given rest : Text} (tail : StringTail given rest) :
    ∃ value, StringOf given rest value := by
  induction tail with
  | close rest => exact ⟨[], .close rest⟩
  | plain visible noQuote noEscape _ ih =>
      obtain ⟨value, said⟩ := ih
      exact ⟨_, .plain visible noQuote noEscape said⟩
  | escape known _ ih =>
      obtain ⟨value, said⟩ := ih
      exact ⟨_, .escape known said⟩
  | @unicode first second third fourth code given rest hex _ ih =>
      obtain ⟨value, said⟩ := ih
      -- the second half was read as a character of its own, and is now part of a pair
      by_cases joined : isHighHalf code = true ∧ LowEscaped given
      · obtain ⟨isHigh, fifth, sixth, seventh, eighth, low, more, rfl, lowHex, isLow⟩ := joined
        obtain ⟨later, behind⟩ := said.behind_low lowHex isLow
        exact ⟨_, .pair hex lowHex isHigh isLow behind⟩
      · exact ⟨_, .unicode hex (fun isHigh lowEscaped => joined ⟨isHigh, lowEscaped⟩) said⟩

theorem exists_scalarOf {constants : Bool} {given rest : Text}
    (scalar : Scalar constants given rest) :
    ∃ value integers, ScalarOf constants given rest value integers := by
  cases scalar with
  | nullWord _ => exact ⟨_, _, .nullWord _⟩
  | trueWord _ => exact ⟨_, _, .trueWord _⟩
  | falseWord _ => exact ⟨_, _, .falseWord _⟩
  | constant _ known counted => exact ⟨_, _, .constant _ known counted⟩
  | number isNumber =>
      obtain ⟨value, integers, said⟩ := exists_numberOf isNumber
      exact ⟨value, integers, .number said⟩
  | string tail =>
      obtain ⟨value, said⟩ := exists_stringOf tail
      exact ⟨_, _, .string said⟩

theorem exists_seriesOf {Element : Type} {close : Nat}
    {elementOf : Text → Text → Element → List Text → Prop} {element : Text → Text → Prop}
    (each : ∀ {given rest}, element given rest →
      ∃ value integers, elementOf given rest value integers) {given rest : Text}
    (series : Series close element given rest) :
    ∃ values integers, SeriesOf close elementOf given rest values integers := by
  induction series with
  | last first closed =>
      obtain ⟨value, integers, said⟩ := each first
      exact ⟨_, _, .last said closed⟩
  | more first comma space _ ih =>
      obtain ⟨value, integers, said⟩ := each first
      obtain ⟨values, others, later⟩ := ih
      exact ⟨_, _, .more said comma space later⟩

theorem exists_memberOf {valueOf : Text → Text → Json → List Text → Prop}
    {value : Text → Text → Prop}
    (each : ∀ {given rest}, value given rest → ∃ held integers, valueOf given rest held integers)
    {given rest : Text} (member : Member value given rest) :
    ∃ named integers, MemberOf valueOf given rest named integers := by
  cases member with
  | named name colon space held =>
      obtain ⟨called, saidName⟩ := exists_stringOf name
      obtain ⟨value, integers, said⟩ := each held
      exact ⟨_, _, .named saidName colon space said⟩

theorem exists_valueOf {constants : Bool} {nesting : Nat} {given rest : Text}
    (value : Value constants nesting given rest) :
    ∃ held integers, ValueOf constants nesting given rest held integers := by
  induction nesting generalizing given rest with
  | zero => exact exists_scalarOf value
  | succ nesting ih =>
      rcases value with scalar | container
      · obtain ⟨held, integers, said⟩ := exists_scalarOf scalar
        exact ⟨held, integers, .inl said⟩
      · cases container with
        | emptyArray closed => exact ⟨_, _, .inr (.emptyArray closed)⟩
        | array space items =>
            obtain ⟨values, integers, said⟩ := exists_seriesOf ih items
            exact ⟨_, _, .inr (.array space said)⟩
        | emptyObject closed => exact ⟨_, _, .inr (.emptyObject closed)⟩
        | object space members =>
            obtain ⟨named, integers, said⟩ :=
              exists_seriesOf (fun member => exists_memberOf ih member) members
            exact ⟨_, _, .inr (.object space said)⟩

/-! ### The scanner returns the meaning -/

/-- No integer has more digits than the interpreter converts. -/
def Short (integers : List Text) : Prop :=
  ∀ digits ∈ integers, digits.length ≤ maxStrDigits

theorem short_nil : Short [] := by
  intro digits absent
  cases absent

theorem short_append {integers others : List Text} :
    Short (integers ++ others) ↔ Short integers ∧ Short others :=
  List.forall_mem_append

/-- How the scan of something with a meaning ends. `deep` is what has to hold when it ends for
want of call depth. -/
def Yields {Result : Type} (deep : Prop) (outcome : Except Failure (Result × Text))
    (value : Result) (rest : Text) (integers : List Text) : Prop :=
  match outcome with
  | .ok scanned => scanned = (value, rest) ∧ Short integers
  | .error .malformed => False
  | .error .overlong => ¬Short integers
  | .error .tooDeep => deep

theorem yields_map {Result Other : Type} {deep : Prop} {outcome : Except Failure (Result × Text)}
    {value : Result} {other : Other} {rest : Text} {integers : List Text}
    {change : Result × Text → Other × Text} (changed : change (value, rest) = (other, rest))
    (yields : Yields deep outcome value rest integers) :
    Yields deep (outcome.map change) other rest integers := by
  cases outcome with
  | error failure => cases failure <;> exact yields
  | ok scanned =>
      obtain ⟨rfl, short⟩ := yields
      exact ⟨changed, short⟩

theorem yields_bind {First Last : Type} {deep : Prop}
    {outcome : Except Failure (First × Text)} {next : First × Text → Except Failure (Last × Text)}
    {found : First} {value : Last} {middle rest : Text} {integers others : List Text}
    (first : Yields deep outcome found middle integers)
    (later : Yields deep (next (found, middle)) value rest others) :
    Yields deep (outcome.bind next) value rest (integers ++ others) := by
  cases outcome with
  | error failure =>
      cases failure with
      | malformed => exact first
      | overlong => exact fun short => first (short_append.mp short).1
      | tooDeep => exact first
  | ok scanned =>
      obtain ⟨rfl, short⟩ := first
      change Yields deep (next (found, middle)) value rest (integers ++ others)
      cases ends : next (found, middle) with
      | error failure =>
          rw [ends] at later
          cases failure with
          | malformed => exact later
          | overlong => exact fun whole => later (short_append.mp whole).2
          | tooDeep => exact later
      | ok scanned =>
          rw [ends] at later
          exact ⟨later.1, short_append.mpr ⟨short, later.2⟩⟩

theorem scanInteger_yields (deep : Prop) (negative : Bool) (digits rest : Text) :
    Yields deep (scanInteger negative digits rest)
      (.integer (if negative then -(digitsValue digits : Int) else digitsValue digits)) rest
      [digits] := by
  unfold scanInteger
  split
  · next long =>
      intro short
      exact absurd (short digits (List.mem_singleton_self _)) (Nat.not_le.mpr long)
  · next fits =>
      refine ⟨rfl, ?_⟩
      intro other member
      rw [List.mem_singleton.mp member]
      exact Nat.not_lt.mp fits

theorem take_before (literal rest : Text) :
    (literal ++ rest).take ((literal ++ rest).length - rest.length) = literal := by
  rw [List.length_append, Nat.add_sub_cancel, List.take_left]

theorem scanNumber_yields {deep : Prop} {given rest : Text} {value : Json} {integers : List Text}
    (said : NumberOf given rest value integers) (stops : stopsNumber rest = true) :
    Yields deep (scanNumber given) value rest integers := by
  have unsigned : ∀ {literal afterInt : Text}, IntPart (literal ++ rest) afterInt →
      ¬(literal ++ rest).head? = some 45 := by
    intro literal afterInt int minus
    obtain ⟨digit, more, same, isDigit⟩ := int.head
    rw [same] at minus
    exact minus_not_digit isDigit (Option.some.inj minus)
  cases said with
  | integer int =>
      obtain ⟨first, ends⟩ := scanParts_complete int (.none _) (.none _) stops
      simp only [scanNumber, if_neg (unsigned int), first, ends, if_true, take_before,
        decide_eq_false (unsigned int)]
      exact scanInteger_yields deep false _ rest
  | negative int =>
      obtain ⟨first, ends⟩ := scanParts_complete int (.none _) (.none _) stops
      simp only [scanNumber, List.head?_cons, decide_true, if_true, List.drop_succ_cons,
        List.drop_zero, first, ends, take_before]
      exact scanInteger_yields deep true _ rest
  | @float literal _ _ _ int fraction exponent longer =>
      obtain ⟨first, ends⟩ := scanParts_complete int fraction exponent stops
      simp only [scanNumber, if_neg (unsigned int), first, ends, if_neg longer, take_before]
      exact ⟨rfl, short_nil⟩
  | @negativeFloat literal _ _ _ int fraction exponent longer =>
      obtain ⟨first, ends⟩ := scanParts_complete int fraction exponent stops
      have whole := take_before (45 :: literal) rest
      rw [List.cons_append] at whole
      simp only [scanNumber, List.head?_cons, if_true, List.drop_succ_cons, List.drop_zero, first,
        ends, if_neg longer, whole]
      exact ⟨rfl, short_nil⟩

/-- An escape that begins no pair is a character of its own. -/
theorem joinSurrogates_alone {code : Nat} {units : List StringUnit}
    (alone : ∀ low more, units = .unicode low :: more →
      ¬(isHighHalf code = true ∧ isLowHalf low = true)) :
    joinSurrogates (.unicode code :: units) = code :: joinSurrogates units := by
  cases units with
  | nil => rfl
  | cons next more =>
      cases next with
      | plain point => rfl
      | unicode low =>
          have apart := alone low more rfl
          rw [joinSurrogates, if_neg]
          intro both
          apply apart
          simp only [Bool.and_eq_true, isHighHalf, isLowHalf] at both ⊢
          exact ⟨both.1.1, both.1.2, both.2⟩

/-- The units of a string join to its characters. They begin with a second half only where
the text begins with its escape. -/
theorem scanUnits_says {given rest value : Text} (said : StringOf given rest value) :
    ∃ units, scanUnits given = some (units, rest) ∧ joinSurrogates units = value ∧
      ∀ low more, units = .unicode low :: more → isLowHalf low = true → LowEscaped given := by
  induction said with
  | close rest => exact ⟨[], rfl, rfl, fun _ _ absent => nomatch absent⟩
  | @plain point given rest value visible noQuote noEscape _ ih =>
      obtain ⟨units, found, joined, _⟩ := ih
      refine ⟨.plain point :: units, ?_, congrArg (point :: ·) joined,
        fun _ _ absent => nomatch absent⟩
      have kept : ¬((decide (point < 32) || decide (point = 92)) = true) := by
        rw [Bool.or_eq_true, decide_eq_true_eq, decide_eq_true_eq, not_or, not_lt]
        exact ⟨visible, noEscape⟩
      rw [scanUnits.eq_5 point given noQuote (fun _ _ _ _ _ same => absurd same noEscape)
        (fun _ _ same => absurd same noEscape), if_neg kept, found]
      rfl
  | @escape mark meaning given rest value known _ ih =>
      obtain ⟨units, found, joined, _⟩ := ih
      refine ⟨.plain meaning :: units, ?_, congrArg (meaning :: ·) joined,
        fun _ _ absent => nomatch absent⟩
      have noUnicode : mark ≠ 117 := by
        rintro rfl
        cases known
      rw [scanUnits.eq_4 mark given (fun _ _ _ _ _ same => absurd same noUnicode), known, found]
      rfl
  | @unicode first second third fourth code given rest value hex alone _ ih =>
      obtain ⟨units, found, joined, starts⟩ := ih
      refine ⟨.unicode code :: units, ?_, ?_, ?_⟩
      · rw [scanUnits, hex, found]
        rfl
      · rw [joinSurrogates_alone, joined]
        intro low more same halves
        exact alone halves.1 (starts low more same halves.2)
      · intro low more same isLow
        cases same
        exact ⟨first, second, third, fourth, code, given, rfl, hex, isLow⟩
  | @pair first second third fourth high fifth sixth seventh eighth low given rest value highHex
      lowHex isHigh isLow _ ih =>
      obtain ⟨units, found, joined, _⟩ := ih
      refine ⟨.unicode high :: .unicode low :: units, ?_, ?_, ?_⟩
      · rw [scanUnits, highHex, scanUnits, lowHex, found]
        rfl
      · have halves := Bool.and_eq_true_iff.mpr ⟨isHigh, isLow⟩
        simp only [isHighHalf, isLowHalf, ← Bool.and_assoc] at halves
        rw [joinSurrogates, if_pos halves, joined]
      · intro other more same isOther
        cases same
        exact ⟨first, second, third, fourth, high, _, rfl, highHex, isOther⟩

theorem scanString_says {given rest value : Text} (said : StringOf given rest value) :
    scanString given = .ok (value, rest) := by
  obtain ⟨units, found, joined, _⟩ := scanUnits_says said
  unfold scanString
  rw [found, ← joined]

theorem scanScalar_yields {deep : Prop} {constants : Bool} {given rest : Text} {value : Json}
    {integers : List Text} (said : ScalarOf constants given rest value integers)
    (stops : stopsNumber rest = true) :
    Yields deep (scanScalar given) value rest integers := by
  cases said with
  | nullWord => exact ⟨rfl, short_nil⟩
  | trueWord => exact ⟨rfl, short_nil⟩
  | falseWord => exact ⟨rfl, short_nil⟩
  | constant _ known _ =>
      simp only [extraConstants, List.mem_cons, List.not_mem_nil, or_false] at known
      rcases known with rfl | rfl | rfl <;> exact ⟨rfl, short_nil⟩
  | number said =>
      have scanned : Yields deep (scanNumber given) value rest integers :=
        scanNumber_yields said stops
      obtain ⟨first, more, rfl, starts⟩ := said.erase.head
      have noQuote : ¬(first :: more).head? = some 34 := by
        intro quote
        rcases starts with digit | ⟨minus, _⟩
        · rw [Option.some.inj quote] at digit
          cases digit
        · rw [Option.some.inj quote] at minus
          cases minus
      unfold scanScalar
      rw [if_neg noQuote, names_absent starts]
      exact scanned
  | string tail =>
      unfold scanScalar
      rw [List.head?_cons, if_pos rfl, List.tail_cons, scanString_says tail]
      exact ⟨rfl, short_nil⟩

/-- Something with a meaning is scanned to it, when no number goes on behind it. -/
def Faithful {Element : Type} (deep : Prop)
    (elementOf : Text → Text → Element → List Text → Prop)
    (scanElement : Text → Except Failure (Element × Text)) : Prop :=
  ∀ {given rest value integers}, elementOf given rest value integers →
    stopsNumber rest = true → Yields deep (scanElement given) value rest integers

theorem scanSeries_yields {Element : Type} {deep : Prop} {close : Nat}
    {elementOf : Text → Text → Element → List Text → Prop} {element : Text → Text → Prop}
    {scanElement : Text → Except Failure (Element × Text)}
    (each : ∀ given rest value integers, elementOf given rest value integers →
      element given rest) (shaped : Shaped element)
    (faithful : Faithful deep elementOf scanElement) (visible : isWs close = false)
    (noComma : close ≠ 44) (stops : ∀ rest, stopsNumber (close :: rest) = true)
    {given rest : Text} {values : List Element} {integers : List Text}
    (series : SeriesOf close elementOf given rest values integers) :
    ∀ fuel, given.length ≤ fuel →
      Yields deep (scanSeries close scanElement fuel given) values rest integers := by
  induction series with
  | @last given after rest value integers first closed =>
      intro fuel enough
      have shorter := shaped.shorter (each _ _ _ _ first)
      obtain ⟨fuel, rfl⟩ := Nat.exists_eq_succ_of_ne_zero (by omega : fuel ≠ 0)
      rw [← List.append_nil integers]
      apply yields_bind (faithful first (stopsNumber_of_ws closed (stops _)))
      simp only [scanDelimiter_close closed visible]
      exact ⟨rfl, short_nil⟩
  | @more given after next following rest value values integers others first comma space later
      ih =>
      intro fuel enough
      have shorter := shaped.shorter (each _ _ _ _ first)
      have bound := comma.length_le
      have spaced := space.length_le
      rw [List.length_cons] at bound
      obtain ⟨fuel, rfl⟩ := Nat.exists_eq_succ_of_ne_zero (by omega : fuel ≠ 0)
      apply yields_bind (faithful first (stopsNumber_of_ws comma rfl))
      have behind := (series_shaped shaped).visible (later.erase each)
      simp only [scanDelimiter_comma comma noComma space behind]
      rw [← List.append_nil others]
      apply yields_bind (ih fuel (by omega))
      exact ⟨rfl, short_nil⟩

theorem scanMember_yields {deep : Prop} {valueOf : Text → Text → Json → List Text → Prop}
    {value : Text → Text → Prop} {scanValue : Text → Except Failure (Json × Text)}
    (each : ∀ given rest held integers, valueOf given rest held integers → value given rest)
    (shaped : Shaped value) (faithful : Faithful deep valueOf scanValue) :
    Faithful deep (MemberOf valueOf) (scanMember scanValue) := by
  intro given rest member integers said stops
  cases said with
  | named called colon space held =>
      unfold scanMember
      rw [List.head?_cons, if_neg (not_not.mpr rfl), List.tail_cons, scanString_says called]
      simp only [bind, Except.bind]
      rw [skipWs_of_ws colon rfl]
      simp only
      rw [if_neg (not_not.mpr rfl), skipWs_of_ws space (shaped.visible (each _ _ _ _ held)),
        ← List.append_nil integers]
      apply yields_bind (faithful held stops)
      exact ⟨rfl, short_nil⟩

/-- Only a text nested deeper than the call depth can end for want of it. -/
theorem scanOnce_yields (constants : Bool) (nesting : Nat) :
    ∀ depth, Faithful (depth < nesting) (ValueOf constants nesting) (scanOnce depth) := by
  induction nesting with
  | zero =>
      intro depth given rest value integers scalar stops
      rw [scanOnce_scalar (ScalarOf.erase scalar)]
      exact scanScalar_yields scalar stops
  | succ nesting ih =>
      rintro depth given rest value integers (scalar | container) stops
      · rw [scanOnce_scalar scalar.erase]
        exact scanScalar_yields scalar stops
      · have shaped := value_shaped constants nesting
        have each : ∀ given rest held integers,
            ValueOf constants nesting given rest held integers →
              Value constants nesting given rest := fun _ _ _ _ => ValueOf.erase
        cases depth with
        | zero => cases container <;> exact Nat.succ_pos nesting
        | succ depth =>
            have inner : Faithful (depth + 1 < nesting + 1) (ValueOf constants nesting)
                (scanOnce depth) := by
              rw [Nat.succ_lt_succ_iff]
              exact ih depth
            cases container with
            | emptyArray closed =>
                simp only [scanOnce, skipWs_of_ws closed rfl]
                exact ⟨rfl, short_nil⟩
            | array space listed =>
                have series : Shaped (Series 93 (Value constants nesting)) :=
                  series_shaped shaped
                have read := scanSeries_yields each shaped inner rfl (by decide) (fun _ => rfl)
                  listed
                have skipped := skipWs_of_ws space (series.visible (listed.erase each))
                obtain ⟨point, more, rfl, starts⟩ := series.head (listed.erase each)
                have unclosed : point ≠ 93 := by
                  rintro rfl
                  cases starts
                simp only [scanOnce, skipped, if_neg unclosed]
                exact yields_map rfl (read _ (Nat.le_refl _))
            | emptyObject closed =>
                simp only [scanOnce, skipWs_of_ws closed rfl]
                exact ⟨rfl, short_nil⟩
            | object space listed =>
                have series : Shaped (Series 125 (Member (Value constants nesting))) :=
                  series_shaped (member_shaped shaped)
                have eachMember : ∀ given rest member integers,
                    MemberOf (ValueOf constants nesting) given rest member integers →
                      Member (Value constants nesting) given rest :=
                  fun _ _ _ _ member => member.erase each
                have read := scanSeries_yields eachMember (member_shaped shaped)
                  (scanMember_yields each shaped inner) rfl (by decide) (fun _ => rfl) listed
                have skipped := skipWs_of_ws space (series.visible (listed.erase eachMember))
                obtain ⟨point, more, rfl, starts⟩ := series.head (listed.erase eachMember)
                have unclosed : point ≠ 125 := by
                  rintro rfl
                  cases starts
                simp only [scanOnce, skipped, if_neg unclosed]
                exact yields_map rfl (read _ (Nat.le_refl _))

theorem decode_cases {constants : Bool} {nesting : Nat} {given : Text} {value : Json}
    {integers : List Text} (said : TextOf constants nesting given value integers) (depth : Nat) :
    decode depth given = .ok value ∧ Short integers ∨
      decode depth given = .error .overlong ∧ ¬Short integers ∨
        decode depth given = .error .tooDeep ∧ depth < nesting := by
  obtain ⟨start, after, leading, held, trailing⟩ := said
  have shaped := value_shaped constants nesting
  have read := scanOnce_yields constants nesting depth held (stopsNumber_of_ws trailing rfl)
  unfold decode
  rw [skipWs_of_ws leading (shaped.visible held.erase)]
  cases scanned : scanOnce depth start with
  | error failure =>
      rw [scanned] at read
      cases failure with
      | malformed => exact False.elim read
      | overlong => exact .inr (.inl ⟨rfl, read⟩)
      | tooDeep => exact .inr (.inr ⟨rfl, read⟩)
  | ok found =>
      rw [scanned] at read
      obtain ⟨rfl, short⟩ := read
      left
      simp only [bind, Except.bind, skipWs_of_ws trailing rfl, if_true]
      exact ⟨rfl, short⟩

theorem decode_complete {constants : Bool} {given : Text} (isText : IsText constants given)
    (depth : Nat) : decode depth given ≠ .error .malformed := by
  obtain ⟨nesting, start, after, leading, value, trailing⟩ := isText
  obtain ⟨held, integers, said⟩ := exists_valueOf value
  have whole : TextOf constants nesting given held integers :=
    ⟨start, after, leading, said, trailing⟩
  rcases decode_cases whole depth with ⟨ends, _⟩ | ⟨ends, _⟩ | ⟨ends, _⟩ <;> rw [ends] <;>
    exact nofun

/-- What the decoder returns is what the text says. -/
theorem decode_says {depth : Nat} {given : Text} {value : Json}
    (decoded : decode depth given = .ok value) :
    ∃ integers, TextOf true depth given value integers := by
  obtain ⟨start, after, leading, derived, trailing⟩ := decode_derived decoded
  obtain ⟨held, integers, said⟩ := exists_valueOf derived
  have whole : TextOf true depth given held integers := ⟨start, after, leading, said, trailing⟩
  rcases decode_cases whole depth with ⟨ends, _⟩ | ⟨ends, _⟩ | ⟨ends, _⟩ <;> rw [decoded] at ends
  · cases ends
    exact ⟨integers, whole⟩
  · cases ends
  · cases ends

/-! ### Texts of objects -/

theorem Ws.head_ne {given rest : Text} (space : Ws given rest) (other : rest.head? ≠ some 0) :
    given.head? ≠ some 0 := by
  cases space with
  | none _ => exact other
  | more isSpace _ =>
      intro zero
      rw [Option.some.inj zero] at isSpace
      cases isSpace

theorem SeriesOf.ne_nil {Element : Type} {close : Nat}
    {elementOf : Text → Text → Element → List Text → Prop} {given rest : Text}
    {values : List Element} {integers : List Text}
    (said : SeriesOf close elementOf given rest values integers) : values ≠ [] := by
  cases said <;> exact List.cons_ne_nil _ _

theorem SeriesOf.head_quote {close : Nat} {valueOf : Text → Text → Json → List Text → Prop}
    {given rest : Text} {members : List (Text × Json)} {integers : List Text}
    (said : SeriesOf close (MemberOf valueOf) given rest members integers) :
    given.head? = some 34 := by
  cases said with
  | last first _ =>
      cases first
      rfl
  | more first _ _ _ =>
      cases first
      rfl

/-- An object begins with its brace, names its members once, and has a member wherever it has
an integer. -/
theorem ValueOf.object {constants : Bool} {nesting : Nat} {given rest : Text}
    {members : List (Text × Json)} {integers : List Text}
    (said : ValueOf constants nesting given rest (.object members) integers) :
    (∃ inside, given = 123 :: inside ∧ inside.head? ≠ some 0) ∧ (keys members).Nodup ∧
      (members = [] → integers = []) := by
  have notScalar : ¬ScalarOf constants given rest (.object members) integers := by
    intro scalar
    cases scalar with
    | number isNumber => cases isNumber
  cases nesting with
  | zero => exact absurd said notScalar
  | succ nesting =>
      rcases said with scalar | container
      · exact absurd scalar notScalar
      · cases container with
        | emptyObject closed =>
            exact ⟨⟨_, rfl, closed.head_ne (by simp)⟩, List.nodup_nil, fun _ => rfl⟩
        | object space listed =>
            refine ⟨⟨_, rfl, space.head_ne (by simp [listed.head_quote])⟩, ?_, ?_⟩
            · exact keys_foldl_insert_nodup _ List.nodup_nil
            · intro empty
              exact absurd empty (foldl_insert_ne_nil listed.ne_nil [])

theorem TextOf.opening {constants : Bool} {nesting : Nat} {given : Text}
    {members : List (Text × Json)} {integers : List Text}
    (said : TextOf constants nesting given (.object members) integers) :
    ∃ first inside, given = first :: inside ∧ 0 < first ∧ first < 128 ∧
      inside.head? ≠ some 0 := by
  obtain ⟨start, after, leading, held, _⟩ := said
  obtain ⟨⟨inside, rfl, other⟩, _⟩ := held.object
  cases leading with
  | none _ => exact ⟨123, inside, rfl, by decide, by decide, other⟩
  | @more point given _ isSpace later =>
      refine ⟨point, given, rfl, ?_, ?_, later.head_ne (by simp)⟩
      · simp only [isWs, Bool.or_eq_true, decide_eq_true_eq] at isSpace
        omega
      · simp only [isWs, Bool.or_eq_true, decide_eq_true_eq] at isSpace
        omega

/-! ### Plain texts -/

/-- A string without a quote, a backslash or a control character stands for itself. -/
theorem StringOf.of_plain {value : Text}
    (plain : ∀ point ∈ value, 32 ≤ point ∧ point ≠ 34 ∧ point ≠ 92) (rest : Text) :
    StringOf (value ++ 34 :: rest) rest value := by
  induction value with
  | nil => exact .close rest
  | cons point more ih =>
      obtain ⟨⟨visible, noQuote, noEscape⟩, later⟩ := List.forall_mem_cons.mp plain
      exact .plain visible noQuote noEscape (ih later)

theorem Digits.of_digits {first : Nat} {digits : Text}
    (each : ∀ digit ∈ first :: digits, isAsciiDigit digit = true) (rest : Text) :
    Digits (first :: (digits ++ rest)) rest := by
  induction digits generalizing first with
  | nil => exact .one rest (each first List.mem_cons_self)
  | cons next more ih =>
      obtain ⟨isDigit, later⟩ := List.forall_mem_cons.mp each
      exact .more isDigit (ih later)

theorem NumberOf.of_digits {first : Nat} {digits : Text} (leading : first ≠ 48)
    (each : ∀ digit ∈ first :: digits, isAsciiDigit digit = true) (rest : Text) :
    NumberOf (first :: digits ++ rest) rest (.integer (digitsValue (first :: digits)))
      [first :: digits] :=
  .integer (.nonzero leading (.of_digits each rest))

end AcdpPlayground.JsonText
