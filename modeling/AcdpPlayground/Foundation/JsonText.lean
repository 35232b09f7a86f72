/-
JSON texts: the grammar of RFC 8259 as a relation between a text and what follows the part
it derives, and the scanner of the standard decoder, which reads the same texts and three
constants more.

The scanner stops at the first failure in text order. Besides a malformed text it can fail
at an integer with too many digits and at an array or object nested deeper than the
interpreter's remaining call depth, which is a parameter.
-/

import AcdpPlayground.Foundation.JsonValue
import AcdpPlayground.Foundation.KeyedTable

namespace AcdpPlayground.JsonText

open PythonText JsonValue KeyedTable

/-! ### Grammar -/

def isWs (point : Nat) : Bool :=
  point = 32 || point = 9 || point = 10 || point = 13

inductive Ws : Text → Text → Prop where
  | none (rest : Text) : Ws rest rest
  | more {point : Nat} {given rest : Text} (space : isWs point = true) (later : Ws given rest) :
      Ws (point :: given) rest

inductive Digits : Text → Text → Prop where
  | one {digit : Nat} (rest : Text) (isDigit : isAsciiDigit digit = true) :
      Digits (digit :: rest) rest
  | more {digit : Nat} {given rest : Text} (isDigit : isAsciiDigit digit = true)
      (later : Digits given rest) : Digits (digit :: given) rest

inductive IntPart : Text → Text → Prop where
  | zero (rest : Text) : IntPart (48 :: rest) rest
  | nonzero {digit : Nat} {given rest : Text} (leading : digit ≠ 48)
      (digits : Digits (digit :: given) rest) : IntPart (digit :: given) rest

inductive Fraction : Text → Text → Prop where
  | none (rest : Text) : Fraction rest rest
  | point {given rest : Text} (later : Digits given rest) : Fraction (46 :: given) rest

def isExponentMark (point : Nat) : Bool :=
  point = 101 || point = 69

def isSign (point : Nat) : Bool :=
  point = 43 || point = 45

inductive Exponent : Text → Text → Prop where
  | none (rest : Text) : Exponent rest rest
  | plain {mark : Nat} {given rest : Text} (isMark : isExponentMark mark = true)
      (later : Digits given rest) : Exponent (mark :: given) rest
  | signed {mark sign : Nat} {given rest : Text} (isMark : isExponentMark mark = true)
      (signs : isSign sign = true) (later : Digits given rest) :
      Exponent (mark :: sign :: given) rest

inductive Number : Text → Text → Prop where
  | positive {given afterInt afterFraction rest : Text} (int : IntPart given afterInt)
      (fraction : Fraction afterInt afterFraction) (exponent : Exponent afterFraction rest) :
      Number given rest
  | negative {given afterInt afterFraction rest : Text} (int : IntPart given afterInt)
      (fraction : Fraction afterInt afterFraction) (exponent : Exponent afterFraction rest) :
      Number (45 :: given) rest

/-- The characters a backslash may stand before, and what they stand for. -/
def escapes : List (Nat × Nat) :=
  [(34, 34), (92, 92), (47, 47), (98, 8), (102, 12), (110, 10), (114, 13), (116, 9)]

/-- The value of a `\u` escape. -/
def hexQuad (first second third fourth : Nat) : Option Nat := do
  return ((← hexValue first) * 16 + (← hexValue second)) * 256 +
    ((← hexValue third) * 16 + (← hexValue fourth))

/-- The inside of a string and its closing quote. -/
inductive StringTail : Text → Text → Prop where
  | close (rest : Text) : StringTail (34 :: rest) rest
  | plain {point : Nat} {given rest : Text} (visible : 32 ≤ point) (noQuote : point ≠ 34)
      (noEscape : point ≠ 92) (later : StringTail given rest) : StringTail (point :: given) rest
  | escape {mark meaning : Nat} {given rest : Text}
      (known : escapes.lookup mark = some meaning) (later : StringTail given rest) :
      StringTail (92 :: mark :: given) rest
  | unicode {first second third fourth code : Nat} {given rest : Text}
      (hex : hexQuad first second third fourth = some code) (later : StringTail given rest) :
      StringTail (92 :: 117 :: first :: second :: third :: fourth :: given) rest

/-- The constants that the decoder reads beyond the grammar. -/
def extraConstants : List String :=
  ["NaN", "Infinity", "-Infinity"]

/-- Values with no values inside. `constants` says whether the extra ones count. -/
inductive Scalar (constants : Bool) : Text → Text → Prop where
  | nullWord (rest : Text) : Scalar constants (text "null" ++ rest) rest
  | trueWord (rest : Text) : Scalar constants (text "true" ++ rest) rest
  | falseWord (rest : Text) : Scalar constants (text "false" ++ rest) rest
  | constant {name : String} (rest : Text) (known : name ∈ extraConstants)
      (counted : constants = true) : Scalar constants (text name ++ rest) rest
  | number {given rest : Text} (isNumber : Number given rest) : Scalar constants given rest
  | string {given rest : Text} (tail : StringTail given rest) :
      Scalar constants (34 :: given) rest

/-- Elements with commas between them, and the closing character. -/
inductive Series (close : Nat) (element : Text → Text → Prop) : Text → Text → Prop where
  | last {given after rest : Text} (first : element given after)
      (closed : Ws after (close :: rest)) : Series close element given rest
  | more {given after next following rest : Text} (first : element given after)
      (comma : Ws after (44 :: next)) (space : Ws next following)
      (later : Series close element following rest) : Series close element given rest

inductive Member (value : Text → Text → Prop) : Text → Text → Prop where
  | named {given afterName next start rest : Text} (name : StringTail given afterName)
      (colon : Ws afterName (58 :: next)) (space : Ws next start) (held : value start rest) :
      Member value (34 :: given) rest

inductive Container (value : Text → Text → Prop) : Text → Text → Prop where
  | emptyArray {given rest : Text} (closed : Ws given (93 :: rest)) :
      Container value (91 :: given) rest
  | array {given start rest : Text} (space : Ws given start)
      (items : Series 93 value start rest) : Container value (91 :: given) rest
  | emptyObject {given rest : Text} (closed : Ws given (125 :: rest)) :
      Container value (123 :: given) rest
  | object {given start rest : Text} (space : Ws given start)
      (members : Series 125 (Member value) start rest) : Container value (123 :: given) rest

/-- Values nested at most `depth` levels. -/
def Value (constants : Bool) : Nat → Text → Text → Prop
  | 0 => Scalar constants
  | depth + 1 => fun given rest =>
      Scalar constants given rest ∨ Container (Value constants depth) given rest

/-- `JSON-text = ws value ws`. -/
def IsText (constants : Bool) (given : Text) : Prop :=
  ∃ depth start after, Ws given start ∧ Value constants depth start after ∧ Ws after []

/-! ### Scanner -/

inductive Failure where
  | malformed
  | overlong
  | tooDeep
  deriving DecidableEq

def skipWs (given : Text) : Text :=
  given.dropWhile isWs

def skipDigits (given : Text) : Text :=
  given.dropWhile isAsciiDigit

def scanIntPart : Text → Option Text
  | [] => none
  | first :: rest =>
      if first = 48 then some rest
      else if isAsciiDigit first then some (skipDigits rest)
      else none

def scanDigits : Text → Option Text
  | [] => none
  | first :: rest => if isAsciiDigit first then some (skipDigits rest) else none

def scanFraction : Text → Text
  | [] => []
  | first :: rest =>
      if first = 46 then (scanDigits rest).getD (first :: rest) else first :: rest

def scanExponent : Text → Text
  | [] => []
  | first :: rest =>
      if isExponentMark first then
        match rest with
        | [] => first :: rest
        | sign :: more =>
            if isSign sign then (scanDigits more).getD (first :: rest)
            else (scanDigits rest).getD (first :: rest)
      else first :: rest

/-- The value of an integer literal, its sign apart. -/
def scanInteger (negative : Bool) (digits rest : Text) : Except Failure (Json × Text) :=
  if maxStrDigits < digits.length then .error .overlong
  else
    let size : Int := digitsValue digits
    .ok (.integer (if negative then -size else size), rest)

def scanNumber (given : Text) : Except Failure (Json × Text) :=
  let negative := given.head? = some 45
  let unsigned := if negative then given.drop 1 else given
  match scanIntPart unsigned with
  | none => .error .malformed
  | some afterInt =>
      let rest := scanExponent (scanFraction afterInt)
      if rest = afterInt then
        scanInteger negative (unsigned.take (unsigned.length - afterInt.length)) afterInt
      else .ok (.float (given.take (given.length - rest.length)), rest)

/-- A character of a string, or the code of a `\u` escape. -/
inductive StringUnit where
  | plain (point : Nat)
  | unicode (code : Nat)

/-- Two escapes that are the halves of a surrogate pair are one character. -/
def joinSurrogates : List StringUnit → Text
  | [] => []
  | .plain point :: rest => point :: joinSurrogates rest
  | .unicode high :: .unicode low :: rest =>
      if 0xD800 ≤ high && high ≤ 0xDBFF && 0xDC00 ≤ low && low ≤ 0xDFFF then
        (0x10000 + (high - 0xD800) * 0x400 + (low - 0xDC00)) :: joinSurrogates rest
      else high :: joinSurrogates (.unicode low :: rest)
  | .unicode code :: rest => code :: joinSurrogates rest

def scanUnits : Text → Option (List StringUnit × Text)
  | [] => none
  | 34 :: rest => some ([], rest)
  | 92 :: 117 :: first :: second :: third :: fourth :: rest =>
      (hexQuad first second third fourth).bind (fun code =>
        (scanUnits rest).map (fun units => (.unicode code :: units.1, units.2)))
  | 92 :: mark :: rest =>
      (escapes.lookup mark).bind (fun meaning =>
        (scanUnits rest).map (fun units => (.plain meaning :: units.1, units.2)))
  | point :: rest =>
      if point < 32 || point = 92 then none
      else (scanUnits rest).map (fun units => (.plain point :: units.1, units.2))

def scanString (given : Text) : Except Failure (Text × Text) :=
  match scanUnits given with
  | none => .error .malformed
  | some units => .ok (joinSurrogates units.1, units.2)

/-- The names that stand for a value, in the order they are tried. -/
def names : List (String × Json) :=
  [("null", .null), ("true", .boolean true), ("false", .boolean false),
    ("NaN", .float (text "NaN")), ("Infinity", .float (text "Infinity")),
    ("-Infinity", .float (text "-Infinity"))]

def scanScalar (given : Text) : Except Failure (Json × Text) :=
  if given.head? = some 34 then
    (scanString given.tail).map (fun scanned => (.string scanned.1, scanned.2))
  else
    match names.find? (fun entry => (text entry.1).isPrefixOf given) with
    | some entry => .ok (entry.2, given.drop entry.1.length)
    | none => scanNumber given

/-- After an item: whether the container closes, and where the scan goes on. -/
def scanDelimiter (close : Nat) (given : Text) : Except Failure (Bool × Text) :=
  match skipWs given with
  | [] => .error .malformed
  | point :: rest =>
      if point = close then .ok (true, rest)
      else if point = 44 then .ok (false, skipWs rest)
      else .error .malformed

/-- The loop over the elements of a container. Every turn reads at least a delimiter, so
that the length of the text is fuel enough. -/
def scanSeries {Element : Type} (close : Nat)
    (scanElement : Text → Except Failure (Element × Text)) :
    Nat → Text → Except Failure (List Element × Text)
  | 0, _ => .error .malformed
  | fuel + 1, given => do
      let (element, after) ← scanElement given
      let (closed, rest) ← scanDelimiter close after
      if closed then return ([element], rest)
      let (elements, rest) ← scanSeries close scanElement fuel rest
      return (element :: elements, rest)

def scanMember (scanValue : Text → Except Failure (Json × Text)) (given : Text) :
    Except Failure ((Text × Json) × Text) := do
  if given.head? ≠ some 34 then throw .malformed
  let (name, afterName) ← scanString given.tail
  match skipWs afterName with
  | [] => throw .malformed
  | point :: next =>
      if point ≠ 58 then throw .malformed
      let (value, rest) ← scanValue (skipWs next)
      return ((name, value), rest)

/-- What `dict` makes of the members: a repeated name keeps its first place and its last
value. -/
def objectOf (members : List (Text × Json)) : Json :=
  .object (members.foldl (fun table member => insert table member.1 member.2) [])

/-- `scan_once`, with `depth` levels of nesting left. -/
def scanOnce (depth : Nat) (given : Text) : Except Failure (Json × Text) :=
  match given with
  | [] => .error .malformed
  | first :: inside =>
      if first = 91 || first = 123 then
        match depth with
        | 0 => .error .tooDeep
        | depth + 1 =>
            match skipWs inside with
            | [] => .error .malformed
            | point :: rest =>
                if first = 91 then
                  if point = 93 then .ok (.array [], rest)
                  else (scanSeries 93 (scanOnce depth) rest.length.succ (point :: rest)).map
                    (fun scanned => (.array scanned.1, scanned.2))
                else
                  if point = 125 then .ok (.object [], rest)
                  else
                    (scanSeries 125 (scanMember (scanOnce depth)) rest.length.succ
                      (point :: rest)).map
                      (fun scanned => (objectOf scanned.1, scanned.2))
      else scanScalar given

def decode (depth : Nat) (given : Text) : Except Failure Json := do
  let (value, after) ← scanOnce depth (skipWs given)
  if skipWs after = [] then return value
  throw .malformed

end AcdpPlayground.JsonText
