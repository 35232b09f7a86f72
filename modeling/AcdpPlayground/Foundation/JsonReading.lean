/-
The JSON scanner against the grammar. What it returns is derived by the grammar with the
extra constants. How far it reads is shown for the parts of a number; of every value the
grammar derives, how it begins and that it takes up some of the text.
-/

import AcdpPlayground.Foundation.JsonText

namespace AcdpPlayground.JsonText

open PythonText JsonValue

theorem bind_eq_ok {Middle Last : Type} {first : Except Failure Middle}
    {next : Middle → Except Failure Last} {result : Last} (whole : first.bind next = .ok result) :
    ∃ middle, first = .ok middle ∧ next middle = .ok result := by
  cases first with
  | error failure => cases whole
  | ok middle => exact ⟨middle, rfl, whole⟩

theorem map_eq_ok {Middle Last : Type} {first : Except Failure Middle} {change : Middle → Last}
    {result : Last} (whole : first.map change = .ok result) :
    ∃ middle, first = .ok middle ∧ change middle = result := by
  cases first with
  | error failure => cases whole
  | ok middle => exact ⟨middle, rfl, Except.ok.inj whole⟩

/-! ### What the scanner returns -/

theorem ws_skipWs (given : Text) : Ws given (skipWs given) := by
  induction given with
  | nil => exact .none []
  | cons point rest ih =>
      unfold skipWs
      by_cases space : isWs point = true
      · rw [List.dropWhile_cons_of_pos space]
        exact .more space ih
      · rw [List.dropWhile_cons_of_neg space]
        exact .none _

theorem digits_skipDigits {digit : Nat} (isDigit : isAsciiDigit digit = true) (given : Text) :
    Digits (digit :: given) (skipDigits given) := by
  induction given generalizing digit with
  | nil => exact .one [] isDigit
  | cons next rest ih =>
      unfold skipDigits
      by_cases another : isAsciiDigit next = true
      · rw [List.dropWhile_cons_of_pos another]
        exact .more isDigit (ih another)
      · rw [List.dropWhile_cons_of_neg another]
        exact .one _ isDigit

theorem scanDigits_sound {given rest : Text} (scanned : scanDigits given = some rest) :
    Digits given rest := by
  cases given with
  | nil => cases scanned
  | cons first more =>
      simp only [scanDigits] at scanned
      split at scanned
      · next isDigit =>
          cases scanned
          exact digits_skipDigits isDigit _
      · cases scanned

theorem scanIntPart_sound {given rest : Text} (scanned : scanIntPart given = some rest) :
    IntPart given rest := by
  cases given with
  | nil => cases scanned
  | cons first more =>
      simp only [scanIntPart] at scanned
      split at scanned
      · next zero =>
          cases scanned
          rw [zero]
          exact .zero _
      · next leading =>
          split at scanned
          · next isDigit =>
              cases scanned
              exact .nonzero leading (digits_skipDigits isDigit _)
          · cases scanned

theorem fraction_scanFraction (given : Text) : Fraction given (scanFraction given) := by
  cases given with
  | nil => exact .none []
  | cons first rest =>
      simp only [scanFraction]
      split
      · next dot =>
          cases digits : scanDigits rest with
          | none => exact .none _
          | some after =>
              rw [dot]
              exact .point (scanDigits_sound digits)
      · exact .none _

theorem exponent_scanExponent (given : Text) : Exponent given (scanExponent given) := by
  cases given with
  | nil => exact .none []
  | cons first rest =>
      simp only [scanExponent]
      split
      · next mark =>
          cases rest with
          | nil => exact .none _
          | cons sign more =>
              simp only
              split
              · next signs =>
                  cases digits : scanDigits more with
                  | none => exact .none _
                  | some after => exact .signed mark signs (scanDigits_sound digits)
              · cases digits : scanDigits (sign :: more) with
                | none => exact .none _
                | some after => exact .plain mark (scanDigits_sound digits)
      · exact .none _

theorem scanInteger_rest {negative : Bool} {digits after rest : Text} {value : Json}
    (scanned : scanInteger negative digits after = .ok (value, rest)) : rest = after := by
  unfold scanInteger at scanned
  split at scanned
  · cases scanned
  · cases scanned
    rfl

theorem scanNumber_sound {given rest : Text} {value : Json}
    (scanned : scanNumber given = .ok (value, rest)) : Number given rest := by
  unfold scanNumber at scanned
  simp only at scanned
  split at scanned
  · cases scanned
  · next afterInt int =>
      have intPart := scanIntPart_sound int
      have fraction := fraction_scanFraction afterInt
      have exponent := exponent_scanExponent (scanFraction afterInt)
      have ends : rest = scanExponent (scanFraction afterInt) := by
        split at scanned
        · next same => rw [scanInteger_rest scanned, same]
        · cases scanned
          rfl
      rw [← ends] at exponent
      split at intPart
      · next minus =>
          cases given with
          | nil => cases minus
          | cons first more =>
              rw [Option.some.inj (of_decide_eq_true (decide_eq_true minus))]
              exact .negative intPart fraction exponent
      · exact .positive intPart fraction exponent

theorem scanUnits_sound {given rest : Text} {units : List StringUnit}
    (scanned : scanUnits given = some (units, rest)) : StringTail given rest := by
  fun_induction scanUnits given generalizing units with
  | case1 => cases scanned
  | case2 more =>
      cases scanned
      exact .close _
  | case3 first second third fourth more ih =>
      obtain ⟨code, hex, later⟩ := Option.bind_eq_some_iff.mp scanned
      obtain ⟨tail, found, same⟩ := Option.map_eq_some_iff.mp later
      cases same
      exact .unicode hex (ih found)
  | case4 mark more notUnicode ih =>
      obtain ⟨meaning, known, later⟩ := Option.bind_eq_some_iff.mp scanned
      obtain ⟨tail, found, same⟩ := Option.map_eq_some_iff.mp later
      cases same
      exact .escape known (ih found)
  | case5 point more noQuote noUnicode noEscape rejected => cases scanned
  | case6 point more noQuote noUnicode noEscape kept ih =>
      obtain ⟨tail, found, same⟩ := Option.map_eq_some_iff.mp scanned
      cases same
      rw [Bool.or_eq_true, decide_eq_true_eq, decide_eq_true_eq, not_or, not_lt] at kept
      exact .plain kept.1 noQuote kept.2 (ih found)

theorem scanString_sound {given rest value : Text}
    (scanned : scanString given = .ok (value, rest)) : StringTail given rest := by
  unfold scanString at scanned
  split at scanned
  · cases scanned
  · next units found =>
      cases scanned
      exact scanUnits_sound found

theorem scalar_name {entry : String × Json} (known : entry ∈ names) (rest : Text) :
    Scalar true (text entry.1 ++ rest) rest := by
  simp only [names, List.mem_cons, List.not_mem_nil, or_false] at known
  rcases known with rfl | rfl | rfl | rfl | rfl | rfl
  · exact .nullWord rest
  · exact .trueWord rest
  · exact .falseWord rest
  · exact .constant rest (by decide) rfl
  · exact .constant rest (by decide) rfl
  · exact .constant rest (by decide) rfl

theorem text_length (literal : String) : (text literal).length = literal.length := by
  unfold text
  rw [List.length_map, String.length_toList]

theorem scanScalar_sound {given rest : Text} {value : Json}
    (scanned : scanScalar given = .ok (value, rest)) : Scalar true given rest := by
  unfold scanScalar at scanned
  split at scanned
  · next quote =>
      obtain ⟨⟨inside, after⟩, found, same⟩ := map_eq_ok scanned
      cases same
      cases given with
      | nil => cases quote
      | cons first more =>
          rw [Option.some.inj quote]
          exact .string (scanString_sound found)
  · split at scanned
    · next entry found =>
        cases scanned
        have starts := List.find?_some found
        obtain ⟨more, same⟩ := List.isPrefixOf_iff_prefix.mp starts
        rw [← same, ← text_length, List.drop_left]
        exact scalar_name (List.mem_of_find?_eq_some found) more
    · exact .number (scanNumber_sound scanned)

theorem scanDelimiter_sound {close : Nat} {given rest : Text} {closed : Bool}
    (scanned : scanDelimiter close given = .ok (closed, rest)) :
    (closed = true ∧ Ws given (close :: rest)) ∨
      ∃ next, closed = false ∧ Ws given (44 :: next) ∧ Ws next rest := by
  have space := ws_skipWs given
  unfold scanDelimiter at scanned
  split at scanned
  · cases scanned
  · next point next found =>
      rw [found] at space
      split at scanned
      · next same =>
          cases scanned
          exact .inl ⟨rfl, same ▸ space⟩
      · split at scanned
        · next comma =>
            cases scanned
            exact .inr ⟨next, rfl, comma ▸ space, ws_skipWs next⟩
        · cases scanned

theorem scanSeries_sound {Element : Type} {close : Nat}
    {scanElement : Text → Except Failure (Element × Text)} {element : Text → Text → Prop}
    (sound : ∀ {given rest found}, scanElement given = .ok (found, rest) → element given rest)
    {fuel : Nat} {given rest : Text} {elements : List Element}
    (scanned : scanSeries close scanElement fuel given = .ok (elements, rest)) :
    Series close element given rest := by
  induction fuel generalizing given elements with
  | zero => cases scanned
  | succ fuel ih =>
      obtain ⟨⟨first, after⟩, read, scanned⟩ := bind_eq_ok scanned
      obtain ⟨⟨closed, next⟩, delimited, scanned⟩ := bind_eq_ok scanned
      rcases scanDelimiter_sound delimited with ⟨rfl, closes⟩ | ⟨behind, rfl, comma, space⟩
      · cases scanned
        exact .last (sound read) closes
      · obtain ⟨⟨later, rest⟩, more, scanned⟩ := bind_eq_ok scanned
        cases scanned
        exact .more (sound read) comma space (ih more)

theorem scanMember_sound {scanValue : Text → Except Failure (Json × Text)}
    {value : Text → Text → Prop}
    (sound : ∀ {given rest found}, scanValue given = .ok (found, rest) → value given rest)
    {given rest : Text} {member : Text × Json}
    (scanned : scanMember scanValue given = .ok (member, rest)) : Member value given rest := by
  unfold scanMember at scanned
  split at scanned
  · cases scanned
  · next quote =>
      obtain ⟨⟨name, afterName⟩, named, scanned⟩ := bind_eq_ok scanned
      have space := ws_skipWs afterName
      simp only at scanned
      split at scanned
      · cases scanned
      · next point next found =>
          split at scanned
          · cases scanned
          · next colon =>
              obtain ⟨⟨held, after⟩, read, scanned⟩ := bind_eq_ok scanned
              cases scanned
              rw [found, not_not.mp colon] at space
              cases given with
              | nil => cases not_not.mp quote
              | cons first more =>
                  rw [Option.some.inj (not_not.mp quote)]
                  exact .named (scanString_sound named) space (ws_skipWs next) (sound read)

theorem scanOnce_sound {depth : Nat} {given rest : Text} {value : Json}
    (scanned : scanOnce depth given = .ok (value, rest)) : Value true depth given rest := by
  induction depth generalizing given rest value with
  | zero =>
      unfold scanOnce at scanned
      split at scanned
      · cases scanned
      · split at scanned
        · cases scanned
        · exact scanScalar_sound scanned
  | succ depth ih =>
      unfold scanOnce at scanned
      split at scanned
      · cases scanned
      · next first inside =>
          split at scanned
          · next opens =>
              right
              have space := ws_skipWs inside
              simp only at scanned
              split at scanned
              · cases scanned
              · next point more found =>
                  rw [found] at space
                  split at scanned
                  · next bracket =>
                      rw [bracket]
                      split at scanned
                      · next closed =>
                          cases scanned
                          exact .emptyArray (closed ▸ space)
                      · obtain ⟨⟨items, after⟩, read, same⟩ := map_eq_ok scanned
                        cases same
                        exact .array space (scanSeries_sound ih read)
                  · next noBracket =>
                      have brace : first = 123 := by
                        simpa [noBracket] using opens
                      rw [brace]
                      split at scanned
                      · next closed =>
                          cases scanned
                          exact .emptyObject (closed ▸ space)
                      · obtain ⟨⟨members, after⟩, read, same⟩ := map_eq_ok scanned
                        cases same
                        exact .object space (scanSeries_sound (scanMember_sound ih) read)
          · exact .inl (scanScalar_sound scanned)

/-- What is decoded is derived with no more nesting than there was depth. -/
theorem decode_derived {depth : Nat} {given : Text} {value : Json}
    (decoded : decode depth given = .ok value) :
    ∃ start after, Ws given start ∧ Value true depth start after ∧ Ws after [] := by
  obtain ⟨⟨found, after⟩, scanned, decoded⟩ := bind_eq_ok decoded
  have space := ws_skipWs after
  simp only at decoded
  split at decoded
  · next ends =>
      rw [ends] at space
      exact ⟨skipWs given, after, ws_skipWs given, scanOnce_sound scanned, space⟩
  · cases decoded

theorem decode_sound {depth : Nat} {given : Text} {value : Json}
    (decoded : decode depth given = .ok value) : IsText true given :=
  ⟨depth, decode_derived decoded⟩

/-! ### How far the scanner reads -/

theorem skipWs_of_ws {given rest : Text} (space : Ws given rest)
    (stops : rest.head?.any isWs = false) : skipWs given = rest := by
  induction space with
  | none rest =>
      cases rest with
      | nil => rfl
      | cons point more => exact List.dropWhile_cons_of_neg (Bool.not_eq_true _ ▸ stops)
  | more isSpace later ih =>
      unfold skipWs at ih ⊢
      rw [List.dropWhile_cons_of_pos isSpace]
      exact ih stops

theorem Ws.length_le {given rest : Text} (space : Ws given rest) :
    rest.length ≤ given.length := by
  induction space with
  | none rest => exact Nat.le_refl _
  | more _ _ ih => exact Nat.le_succ_of_le ih

def stopsDigits (rest : Text) : Bool :=
  !rest.head?.any isAsciiDigit

def stopsNumber (rest : Text) : Bool :=
  !rest.head?.any (fun point => isAsciiDigit point || point = 46 || isExponentMark point)

theorem stopsDigits_of_stopsNumber {rest : Text} (stops : stopsNumber rest = true) :
    stopsDigits rest = true := by
  cases rest with
  | nil => rfl
  | cons point more =>
      simp only [stopsNumber, stopsDigits, List.head?_cons, Option.any_some, Bool.not_eq_true',
        Bool.or_eq_false_iff] at stops ⊢
      exact stops.1.1

theorem skipDigits_of_stops {rest : Text} (stops : stopsDigits rest = true) :
    skipDigits rest = rest := by
  cases rest with
  | nil => rfl
  | cons point more =>
      apply List.dropWhile_cons_of_neg
      simpa [stopsDigits] using stops

theorem skipDigits_of_digits {given rest : Text} (digits : Digits given rest)
    (stops : stopsDigits rest = true) : skipDigits given = rest := by
  induction digits with
  | one rest isDigit =>
      unfold skipDigits
      rw [List.dropWhile_cons_of_pos isDigit]
      exact skipDigits_of_stops stops
  | more isDigit later ih =>
      unfold skipDigits at ih ⊢
      rw [List.dropWhile_cons_of_pos isDigit]
      exact ih stops

theorem Digits.head {given rest : Text} (digits : Digits given rest) :
    ∃ first more, given = first :: more ∧ isAsciiDigit first = true ∧
      skipDigits given = skipDigits more := by
  cases digits with
  | one _ isDigit => exact ⟨_, _, rfl, isDigit, List.dropWhile_cons_of_pos isDigit⟩
  | more isDigit _ => exact ⟨_, _, rfl, isDigit, List.dropWhile_cons_of_pos isDigit⟩

theorem scanDigits_complete {given rest : Text} (digits : Digits given rest)
    (stops : stopsDigits rest = true) : scanDigits given = some rest := by
  have skipped := skipDigits_of_digits digits stops
  obtain ⟨first, more, rfl, isDigit, same⟩ := digits.head
  simp only [scanDigits, isDigit, if_true]
  rw [← same, skipped]

theorem scanIntPart_complete {given rest : Text} (int : IntPart given rest)
    (stops : stopsDigits rest = true) : scanIntPart given = some rest := by
  cases int with
  | zero rest => rfl
  | nonzero leading digits =>
      have scanned := scanDigits_complete digits stops
      simp only [scanIntPart, if_neg leading]
      exact scanned

theorem stopsDigits_of_fraction {given rest : Text} (fraction : Fraction given rest)
    (stops : stopsDigits rest = true) : stopsDigits given = true := by
  cases fraction with
  | none _ => exact stops
  | point _ => rfl

theorem scanFraction_complete {given rest : Text} (fraction : Fraction given rest)
    (stops : stopsDigits rest = true) (noPoint : rest.head? ≠ some 46) :
    scanFraction given = rest := by
  cases fraction with
  | none _ =>
      cases given with
      | nil => rfl
      | cons first more =>
          have other : first ≠ 46 := fun same => noPoint (congrArg some same)
          simp only [scanFraction, if_neg other]
  | point digits =>
      simp only [scanFraction, if_true, scanDigits_complete digits stops, Option.getD_some]

theorem sign_not_digit {point : Nat} (digit : isAsciiDigit point = true) :
    isSign point = false := by
  obtain ⟨low, _⟩ := Bool.and_eq_true_iff.mp digit
  rw [decide_eq_true_eq] at low
  simp only [isSign, Bool.or_eq_false_iff, decide_eq_false_iff_not]
  omega

theorem scanExponent_complete {given rest : Text} (exponent : Exponent given rest)
    (stops : stopsNumber rest = true) : scanExponent given = rest := by
  have stopsDigit := stopsDigits_of_stopsNumber stops
  cases exponent with
  | none _ =>
      cases given with
      | nil => rfl
      | cons first more =>
          have noMark : isExponentMark first = false := by
            simp only [stopsNumber, List.head?_cons, Option.any_some, Bool.not_eq_true',
              Bool.or_eq_false_iff] at stops
            exact stops.2
          simp only [scanExponent, noMark, Bool.false_eq_true, if_false]
  | plain isMark digits =>
      have scanned := scanDigits_complete digits stopsDigit
      obtain ⟨first, more, rfl, isDigit, _⟩ := digits.head
      simp only [scanExponent, isMark, sign_not_digit isDigit, if_true, Bool.false_eq_true,
        if_false, scanned, Option.getD_some]
  | signed isMark signs digits =>
      simp only [scanExponent, isMark, signs, if_true, scanDigits_complete digits stopsDigit,
        Option.getD_some]

/-- An exponent or what follows the number: neither a digit nor a decimal point. -/
theorem stops_of_exponent {given rest : Text} (exponent : Exponent given rest)
    (stops : stopsNumber rest = true) :
    stopsDigits given = true ∧ given.head? ≠ some 46 := by
  have marked : ∀ (mark : Nat) (more : Text), isExponentMark mark = true →
      stopsDigits (mark :: more) = true ∧ (mark :: more).head? ≠ some 46 := by
    intro mark more isMark
    simp only [isExponentMark, Bool.or_eq_true, decide_eq_true_eq] at isMark
    rcases isMark with rfl | rfl
    · exact ⟨rfl, by simp⟩
    · exact ⟨rfl, by simp⟩
  cases exponent with
  | none _ =>
      refine ⟨stopsDigits_of_stopsNumber stops, ?_⟩
      intro dot
      simp [stopsNumber, dot] at stops
  | plain isMark _ => exact marked _ _ isMark
  | signed isMark _ _ => exact marked _ _ isMark

/-- The unsigned part of a number is read to its end. -/
theorem scanParts_complete {given afterInt afterFraction rest : Text} (int : IntPart given afterInt)
    (fraction : Fraction afterInt afterFraction) (exponent : Exponent afterFraction rest)
    (stops : stopsNumber rest = true) :
    scanIntPart given = some afterInt ∧ scanExponent (scanFraction afterInt) = rest := by
  obtain ⟨noDigit, noPoint⟩ := stops_of_exponent exponent stops
  constructor
  · exact scanIntPart_complete int (stopsDigits_of_fraction fraction noDigit)
  · rw [scanFraction_complete fraction noDigit noPoint]
    exact scanExponent_complete exponent stops

theorem IntPart.head {given rest : Text} (int : IntPart given rest) :
    ∃ first more, given = first :: more ∧ isAsciiDigit first = true := by
  cases int with
  | zero _ => exact ⟨48, _, rfl, rfl⟩
  | nonzero _ digits =>
      obtain ⟨first, more, same, isDigit, _⟩ := digits.head
      exact ⟨first, more, same, isDigit⟩

theorem minus_not_digit {point : Nat} (digit : isAsciiDigit point = true) : point ≠ 45 := by
  rintro rfl
  cases digit

theorem Number.head {given rest : Text} (number : Number given rest) :
    ∃ first more, given = first :: more ∧ (isAsciiDigit first = true ∨
      first = 45 ∧ ∃ second later, more = second :: later ∧ isAsciiDigit second = true) := by
  cases number with
  | positive int _ _ =>
      obtain ⟨first, more, same, isDigit⟩ := int.head
      exact ⟨first, more, same, .inl isDigit⟩
  | negative int _ _ =>
      obtain ⟨second, later, same, isDigit⟩ := int.head
      exact ⟨45, _, rfl, .inr ⟨rfl, second, later, same, isDigit⟩⟩

/-- The first characters of the names; the last of them goes on with a letter. -/
theorem names_absent {first : Nat} {more : Text}
    (starts : isAsciiDigit first = true ∨
      first = 45 ∧ ∃ second later, more = second :: later ∧ isAsciiDigit second = true) :
    names.find? (fun entry => (text entry.1).isPrefixOf (first :: more)) = none := by
  rw [List.find?_eq_none]
  intro entry known starting
  obtain ⟨ending, same⟩ := List.isPrefixOf_iff_prefix.mp starting
  simp only [names, List.mem_cons, List.not_mem_nil, or_false] at known
  rcases known with rfl | rfl | rfl | rfl | rfl | rfl <;>
    rcases starts with digit | ⟨minus, second, later, rfl, digit⟩ <;>
    cases same <;> cases digit

/-! ### Nested values -/

def isBracket (point : Nat) : Bool :=
  point = 91 || point = 93 || point = 123 || point = 125

def opens (point : Nat) : Bool :=
  !isWs point && point ≠ 93 && point ≠ 125

/-- What every kind of value has: it begins with a visible character that closes nothing,
and takes up some of the text. -/
structure Shaped (value : Text → Text → Prop) : Prop where
  starts : ∀ {given rest}, value given rest → given.head?.any opens = true
  shorter : ∀ {given rest}, value given rest → rest.length < given.length

theorem Shaped.head {value : Text → Text → Prop} (shaped : Shaped value) {given rest : Text}
    (held : value given rest) : ∃ first more, given = first :: more ∧ opens first = true := by
  have starts := shaped.starts held
  cases given with
  | nil => cases starts
  | cons first more => exact ⟨first, more, rfl, starts⟩

theorem Shaped.visible {value : Text → Text → Prop} (shaped : Shaped value) {given rest : Text}
    (held : value given rest) : given.head?.any isWs = false := by
  obtain ⟨first, more, rfl, starts⟩ := shaped.head held
  simp only [opens, Bool.and_eq_true, Bool.not_eq_true'] at starts
  exact starts.1.1

theorem Digits.length_lt {given rest : Text} (digits : Digits given rest) :
    rest.length < given.length := by
  induction digits with
  | one rest _ => exact Nat.lt_succ_self _
  | more _ _ ih => exact Nat.lt_succ_of_lt ih

theorem StringTail.length_lt {given rest : Text} (tail : StringTail given rest) :
    rest.length < given.length := by
  induction tail with
  | close rest => exact Nat.lt_succ_self _
  | plain _ _ _ _ ih => exact Nat.lt_succ_of_lt ih
  | escape _ _ ih =>
      simp only [List.length_cons]
      omega
  | unicode _ _ ih =>
      simp only [List.length_cons]
      omega

theorem Number.length_lt {given rest : Text} (number : Number given rest) :
    rest.length < given.length := by
  have parts : ∀ {given afterInt afterFraction rest : Text}, IntPart given afterInt →
      Fraction afterInt afterFraction → Exponent afterFraction rest →
      rest.length < given.length := by
    intro given afterInt afterFraction rest int fraction exponent
    have first : afterInt.length < given.length := by
      cases int with
      | zero _ => exact Nat.lt_succ_self _
      | nonzero _ digits => exact digits.length_lt
    have second : afterFraction.length ≤ afterInt.length := by
      cases fraction with
      | none _ => exact Nat.le_refl _
      | point digits => exact Nat.le_succ_of_le (Nat.le_of_lt digits.length_lt)
    have third : rest.length ≤ afterFraction.length := by
      cases exponent with
      | none _ => exact Nat.le_refl _
      | plain _ digits => exact Nat.le_succ_of_le (Nat.le_of_lt digits.length_lt)
      | signed _ _ digits =>
          have shorter := digits.length_lt
          simp only [List.length_cons]
          omega
    omega
  cases number with
  | positive int fraction exponent => exact parts int fraction exponent
  | negative int fraction exponent => exact Nat.lt_succ_of_lt (parts int fraction exponent)

theorem Scalar.head {constants : Bool} {given rest : Text} (scalar : Scalar constants given rest) :
    ∃ first more, given = first :: more ∧ opens first = true ∧ isBracket first = false := by
  have digits : ∀ point, isAsciiDigit point = true →
      opens point = true ∧ isBracket point = false := by
    intro point digit
    obtain ⟨low, high⟩ := Bool.and_eq_true_iff.mp digit
    rw [decide_eq_true_eq] at low high
    have bounded : ∀ point < 58, 48 ≤ point → opens point = true ∧ isBracket point = false := by
      decide
    exact bounded point (by omega) low
  cases scalar with
  | nullWord _ => exact ⟨110, _, rfl, rfl, rfl⟩
  | trueWord _ => exact ⟨116, _, rfl, rfl, rfl⟩
  | falseWord _ => exact ⟨102, _, rfl, rfl, rfl⟩
  | constant _ known _ =>
      simp only [extraConstants, List.mem_cons, List.not_mem_nil, or_false] at known
      rcases known with rfl | rfl | rfl
      · exact ⟨78, _, rfl, rfl, rfl⟩
      · exact ⟨73, _, rfl, rfl, rfl⟩
      · exact ⟨45, _, rfl, rfl, rfl⟩
  | number number =>
      obtain ⟨first, more, same, digit | ⟨minus, _⟩⟩ := number.head
      · exact ⟨first, more, same, digits first digit⟩
      · exact ⟨first, more, same, minus ▸ rfl, minus ▸ rfl⟩
  | string _ => exact ⟨34, _, rfl, rfl, rfl⟩

theorem scalar_shaped (constants : Bool) : Shaped (Scalar constants) := by
  constructor
  · intro given rest scalar
    obtain ⟨first, more, rfl, starts, _⟩ := scalar.head
    exact starts
  · intro given rest scalar
    have named : ∀ name : String, 0 < name.length →
        rest.length < (text name ++ rest).length := by
      intro name positive
      rw [List.length_append, text_length]
      omega
    cases scalar with
    | nullWord _ => exact named "null" (by decide)
    | trueWord _ => exact named "true" (by decide)
    | falseWord _ => exact named "false" (by decide)
    | constant _ known _ =>
        simp only [extraConstants, List.mem_cons, List.not_mem_nil, or_false] at known
        rcases known with rfl | rfl | rfl <;> exact named _ (by decide)
    | number number => exact number.length_lt
    | string tail => exact Nat.lt_succ_of_lt tail.length_lt

theorem scanDelimiter_close {close : Nat} {given rest : Text} (space : Ws given (close :: rest))
    (visible : isWs close = false) : scanDelimiter close given = .ok (true, rest) := by
  unfold scanDelimiter
  rw [skipWs_of_ws space visible]
  simp only [if_true]

theorem scanDelimiter_comma {close : Nat} {given next following : Text}
    (comma : Ws given (44 :: next)) (other : close ≠ 44) (space : Ws next following)
    (stops : following.head?.any isWs = false) :
    scanDelimiter close given = .ok (false, following) := by
  unfold scanDelimiter
  rw [skipWs_of_ws comma rfl]
  simp only [if_neg (Ne.symm other), if_true, skipWs_of_ws space stops]

/-- Only whitespace and a delimiter follow: no number goes on. -/
theorem stopsNumber_of_ws {given rest : Text} (space : Ws given rest)
    (stops : stopsNumber rest = true) : stopsNumber given = true := by
  cases space with
  | none _ => exact stops
  | more isSpace _ =>
      simp only [isWs, Bool.or_eq_true, decide_eq_true_eq] at isSpace
      rcases isSpace with ((rfl | rfl) | rfl) | rfl <;> rfl

theorem series_shaped {close : Nat} {element : Text → Text → Prop} (shaped : Shaped element) :
    Shaped (Series close element) := by
  constructor
  · intro given rest series
    cases series with
    | last first _ => exact shaped.starts first
    | more first _ _ _ => exact shaped.starts first
  · intro given rest series
    induction series with
    | last first closed =>
        have shorter := shaped.shorter first
        have bound := closed.length_le
        rw [List.length_cons] at bound
        omega
    | more first comma space later ih =>
        have shorter := shaped.shorter first
        have bound := comma.length_le
        have spaced := space.length_le
        rw [List.length_cons] at bound
        omega

theorem member_shaped {value : Text → Text → Prop} (shaped : Shaped value) :
    Shaped (Member value) := by
  constructor
  · intro given rest member
    cases member
    rfl
  · intro given rest member
    cases member with
    | named name colon space held =>
        have named := name.length_lt
        have bound := colon.length_le
        have spaced := space.length_le
        have shorter := shaped.shorter held
        rw [List.length_cons] at bound ⊢
        omega

theorem value_shaped (constants : Bool) (depth : Nat) : Shaped (Value constants depth) := by
  induction depth with
  | zero => exact scalar_shaped constants
  | succ depth ih =>
      have opened : ∀ {start given rest : Text}, Ws given start → rest.length < start.length →
          rest.length < given.length + 1 := by
        intro start given rest space shorter
        have bound := space.length_le
        omega
      constructor
      · rintro given rest (scalar | container)
        · exact (scalar_shaped constants).starts scalar
        · cases container <;> rfl
      · rintro given rest (scalar | container)
        · exact (scalar_shaped constants).shorter scalar
        · cases container with
          | emptyArray closed => exact opened closed (Nat.lt_succ_self _)
          | array space items => exact opened space ((series_shaped ih).shorter items)
          | emptyObject closed => exact opened closed (Nat.lt_succ_self _)
          | object space members =>
              exact opened space ((series_shaped (member_shaped ih)).shorter members)

theorem scanOnce_scalar {constants : Bool} {given rest : Text}
    (scalar : Scalar constants given rest) (depth : Nat) :
    scanOnce depth given = scanScalar given := by
  obtain ⟨first, more, rfl, _, noBracket⟩ := scalar.head
  have other : (decide (first = 91) || decide (first = 123)) = false := by
    simp only [isBracket, Bool.or_eq_false_iff] at noBracket ⊢
    exact ⟨noBracket.1.1.1, noBracket.1.2⟩
  unfold scanOnce
  simp only [other, Bool.false_eq_true, if_false]

end AcdpPlayground.JsonText
