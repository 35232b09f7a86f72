/-
Python strings as lists of code points, lone surrogates included, with the string methods
and the integer conversions the sources use. Character classes are those of Unicode 15,
the version of Python 3.12. The interpreter's limit on the number of digits of a converted
integer is part of `limitedInt` only.
-/

import Mathlib.Data.List.Forall2
import Mathlib.Data.List.TakeWhile
import Mathlib.Data.Nat.Digits.Defs

namespace AcdpPlayground.PythonText

abbrev Text := List Nat

def text (literal : String) : Text :=
  literal.toList.map Char.toNat

/-- A text without surrogates as a string. -/
def string (given : Text) : String :=
  String.ofList (given.map Char.ofNat)

theorem string_text (literal : String) : string (text literal) = literal := by
  have same : ∀ char ∈ literal.toList, (Char.ofNat ∘ Char.toNat) char = id char :=
    fun char _ => Char.ofNat_toNat char
  unfold string text
  rw [List.map_map, List.map_congr_left same, List.map_id, String.ofList_toList]

theorem text_injective {first second : String} (same : text first = text second) :
    first = second := by
  rw [← string_text first, same, string_text]

theorem text_string {given : Text} (valid : ∀ point ∈ given, point < 0xD800) :
    text (string given) = given := by
  have same : ∀ point ∈ given, (Char.toNat ∘ Char.ofNat) point = id point := by
    intro point member
    have validChar : point.isValidChar := .inl (valid point member)
    change (Char.ofNat point).toNat = point
    unfold Char.ofNat
    rw [dif_pos validChar]
    rfl
  unfold string text
  rw [String.toList_ofList, List.map_map, List.map_congr_left same, List.map_id]

/-- `first <= second`, by code points. -/
def leText : Text → Text → Bool
  | [], _ => true
  | _ :: _, [] => false
  | point :: rest, other :: more =>
      if point = other then leText rest more else decide (point < other)

/-! ### Whitespace -/

def isSpace (point : Nat) : Bool :=
  (9 ≤ point && point ≤ 13) || (28 ≤ point && point ≤ 32) || (8192 ≤ point && point ≤ 8202) ||
    [133, 160, 5760, 8232, 8233, 8239, 8287, 12288].contains point

def lstrip (given : Text) : Text :=
  given.dropWhile isSpace

def rstrip (given : Text) : Text :=
  (given.reverse.dropWhile isSpace).reverse

def strip (given : Text) : Text :=
  rstrip (lstrip given)

/-- No whitespace at either end. -/
def tight (given : Text) : Bool :=
  !given.head?.any isSpace && !given.getLast?.any isSpace

theorem dropWhile_of_head {drops : Nat → Bool} {given : Text}
    (clear : given.head?.any drops = false) : given.dropWhile drops = given := by
  cases given with
  | nil => rfl
  | cons first rest =>
      have kept : ¬drops first = true := by
        rw [Bool.not_eq_true]
        exact clear
      rw [List.dropWhile_cons_of_neg kept]

theorem strip_of_tight {given : Text} (isTight : tight given = true) : strip given = given := by
  obtain ⟨clearHead, clearLast⟩ := Bool.and_eq_true_iff.mp isTight
  rw [Bool.not_eq_true'] at clearHead clearLast
  unfold strip lstrip rstrip
  rw [dropWhile_of_head clearHead, dropWhile_of_head, List.reverse_reverse]
  rw [List.head?_reverse]
  exact clearLast

theorem mem_of_mem_strip {given : Text} {point : Nat} (member : point ∈ strip given) :
    point ∈ given := by
  unfold strip rstrip at member
  rw [List.mem_reverse] at member
  have inner := (List.dropWhile_sublist isSpace).subset member
  exact (List.dropWhile_sublist isSpace).subset (List.mem_reverse.mp inner)

theorem mem_strip {given : Text} {point : Nat} (member : point ∈ given)
    (visible : isSpace point = false) : point ∈ strip given := by
  have kept : ∀ {whole : Text}, point ∈ whole → point ∈ whole.dropWhile isSpace := by
    intro whole inside
    rw [← List.takeWhile_append_dropWhile (p := isSpace) (l := whole), List.mem_append] at inside
    rcases inside with space | later
    · rw [List.mem_takeWhile_imp space] at visible
      cases visible
    · exact later
  unfold strip rstrip lstrip
  rw [List.mem_reverse]
  apply kept
  rw [List.mem_reverse]
  exact kept member

/-- Two tight parts around a visible character. -/
theorem tight_join {before after : Text} {mark : Nat} (first : tight before = true)
    (second : tight after = true) (visible : isSpace mark = false) :
    tight (before ++ mark :: after) = true := by
  unfold tight at first second ⊢
  obtain ⟨clearHead, _⟩ := Bool.and_eq_true_iff.mp first
  obtain ⟨_, clearLast⟩ := Bool.and_eq_true_iff.mp second
  rw [Bool.and_eq_true_iff]
  constructor
  · cases before with
    | nil =>
        rw [List.nil_append, List.head?_cons, Option.any_some, visible]
        rfl
    | cons point rest => exact clearHead
  · rw [List.getLast?_append, List.getLast?_cons]
    cases ending : after.getLast? with
    | none =>
        rw [Option.getD_none, Option.some_or, Option.any_some, visible]
        rfl
    | some last =>
        rw [ending] at clearLast
        exact clearLast

theorem tight_intercalate {mark : Nat} (visible : isSpace mark = false) {parts : List Text}
    (each : ∀ part ∈ parts, tight part = true) :
    tight ([mark].intercalate parts) = true := by
  induction parts with
  | nil => rfl
  | cons first rest ih =>
      have firstTight := each first List.mem_cons_self
      cases rest with
      | nil =>
          rw [List.intercalate_singleton]
          exact firstTight
      | cons second more =>
          rw [List.intercalate_cons_cons, List.append_assoc, List.singleton_append]
          exact tight_join firstTight
            (ih (fun part member => each part (List.mem_cons_of_mem _ member))) visible

/-! ### Separators -/

theorem mem_intercalate {mark point : Nat} {parts : List Text}
    (member : point ∈ [mark].intercalate parts) :
    point = mark ∨ ∃ part ∈ parts, point ∈ part := by
  induction parts with
  | nil => cases member
  | cons first rest ih =>
      cases rest with
      | nil =>
          rw [List.intercalate_singleton] at member
          exact .inr ⟨first, List.mem_cons_self, member⟩
      | cons second more =>
          rw [List.intercalate_cons_cons, List.mem_append, List.mem_append] at member
          rcases member with (here | separator) | later
          · exact .inr ⟨first, List.mem_cons_self, here⟩
          · exact .inl (List.mem_singleton.mp separator)
          · rcases ih later with separator | ⟨part, inside, found⟩
            · exact .inl separator
            · exact .inr ⟨part, List.mem_cons_of_mem _ inside, found⟩

/-- The parts before and after the first occurrence of a separator. -/
def cut (separator : Text) : Text → Option (Text × Text)
  | [] => if separator = [] then some ([], []) else none
  | first :: rest =>
      if separator.isPrefixOf (first :: rest) then
        some ([], (first :: rest).drop separator.length)
      else (cut separator rest).map (fun parts => (first :: parts.1, parts.2))

theorem cut_eq_some {separator given before after : Text}
    (found : cut separator given = some (before, after)) :
    given = before ++ separator ++ after := by
  induction given generalizing before after with
  | nil =>
      unfold cut at found
      split at found
      · next empty =>
          cases found
          rw [empty]
          rfl
      · cases found
  | cons first rest ih =>
      unfold cut at found
      split at found
      · next starts =>
          cases found
          obtain ⟨remaining, same⟩ := List.isPrefixOf_iff_prefix.mp starts
          rw [← same, List.drop_left, List.nil_append]
      · obtain ⟨parts, later, same⟩ := Option.map_eq_some_iff.mp found
        cases same
        rw [ih later]
        rfl

theorem cut_of_head_absent (mark : Nat) (more : Text) {before : Text} (after : Text)
    (absent : mark ∉ before) :
    cut (mark :: more) (before ++ (mark :: more) ++ after) = some (before, after) := by
  induction before with
  | nil =>
      have found : (mark :: more).isPrefixOf (mark :: (more ++ after)) = true :=
        List.isPrefixOf_iff_prefix.mpr ⟨after, rfl⟩
      simp only [List.nil_append, List.cons_append, cut, found, if_true, List.length_cons,
        List.drop_succ_cons, List.drop_left]
  | cons first rest ih =>
      have differs : mark ≠ first := fun same => absent (same ▸ List.mem_cons_self)
      have later : mark ∉ rest := fun member => absent (List.mem_cons_of_mem _ member)
      simp only [List.cons_append, cut, List.isPrefixOf, beq_eq_false_iff_ne.mpr differs,
        Bool.false_and, Bool.false_eq_true, if_false]
      rw [ih later, Option.map_some]

/-! ### Converted lists -/

theorem forall₂_of_mapM {Input Output : Type} {convert : Input → Option Output}
    {items : List Input} {outputs : List Output} (converted : items.mapM convert = some outputs) :
    List.Forall₂ (fun item output => convert item = some output) items outputs := by
  induction items generalizing outputs with
  | nil =>
      cases converted
      exact .nil
  | cons first rest ih =>
      rw [List.mapM_cons] at converted
      obtain ⟨output, head, converted⟩ := Option.bind_eq_some_iff.mp converted
      obtain ⟨more, tail, converted⟩ := Option.bind_eq_some_iff.mp converted
      cases converted
      exact .cons head (ih tail)

theorem mem_of_mapM {Input Output : Type} {convert : Input → Option Output}
    {items : List Input} {outputs : List Output} (converted : items.mapM convert = some outputs) :
    ∀ output ∈ outputs, ∃ item ∈ items, convert item = some output := by
  have each := forall₂_of_mapM converted
  clear converted
  induction each with
  | nil =>
      intro output absent
      cases absent
  | cons head tail ih =>
      intro output member
      rcases List.mem_cons.mp member with rfl | later
      · exact ⟨_, List.mem_cons_self, head⟩
      · obtain ⟨item, present, found⟩ := ih output later
        exact ⟨item, List.mem_cons_of_mem _ present, found⟩

theorem mapM_isSome_iff {Input Output : Type} {convert : Input → Option Output}
    (items : List Input) :
    (items.mapM convert).isSome = true ↔ ∀ item ∈ items, (convert item).isSome = true := by
  induction items with
  | nil => simp
  | cons first rest ih =>
      rw [List.mapM_cons, List.forall_mem_cons, ← ih]
      cases convert first with
      | none => simp
      | some output => cases rest.mapM convert <;> simp

/-! ### Integers -/

/-- What `int` and `float` skip at both ends: the whitespace of `str.isspace`, but not the four
separators U+001C to U+001F, which `str.strip` takes too. -/
def isNumberSpace (point : Nat) : Bool :=
  isSpace point && !(28 ≤ point && point ≤ 31)

def stripNumber (given : Text) : Text :=
  ((given.dropWhile isNumberSpace).reverse.dropWhile isNumberSpace).reverse

theorem any_isNumberSpace {point : Option Nat} (clear : point.any isSpace = false) :
    point.any isNumberSpace = false := by
  cases point with
  | none => rfl
  | some point =>
      rw [Option.any_some] at clear ⊢
      rw [isNumberSpace, clear, Bool.false_and]

theorem stripNumber_of_tight {given : Text} (isTight : tight given = true) :
    stripNumber given = given := by
  obtain ⟨clearHead, clearLast⟩ := Bool.and_eq_true_iff.mp isTight
  rw [Bool.not_eq_true'] at clearHead clearLast
  unfold stripNumber
  rw [dropWhile_of_head (any_isNumberSpace clearHead), dropWhile_of_head, List.reverse_reverse]
  rw [List.head?_reverse]
  exact any_isNumberSpace clearLast

/-- The zeros of the decimal digits; each is followed by the other nine. -/
def decimalZeros : List Nat :=
  [48, 1632, 1776, 1984, 2406, 2534, 2662, 2790, 2918, 3046, 3174, 3302, 3430, 3558, 3664, 3792,
    3872, 4160, 4240, 6112, 6160, 6470, 6608, 6784, 6800, 6992, 7088, 7232, 7248, 42528, 43216,
    43264, 43472, 43504, 43600, 44016, 65296, 66720, 68912, 69734, 69872, 69942, 70096, 70384,
    70736, 70864, 71248, 71360, 71472, 71904, 72016, 72784, 73040, 73120, 73552, 92768, 92864,
    93008, 120782, 120792, 120802, 120812, 120822, 123200, 123632, 124144, 125264, 130032]

/-- The value of a decimal digit of any script. -/
def decimalValue (point : Nat) : Option Nat :=
  (decimalZeros.find? (fun start => start ≤ point && point < start + 10)).map (point - ·)

/-- Digits with single underscores between them; `pending` asks for a digit next. -/
def parseDigits (pending : Bool) (value : Nat) : Text → Option Nat
  | [] => if pending then none else some value
  | point :: rest =>
      match decimalValue point with
      | some digit => parseDigits false (value * 10 + digit) rest
      | none =>
          if point = 95 && !pending then parseDigits true value rest else none

/-- `int(given)`. -/
def parseInt (given : Text) : Option Int :=
  match stripNumber given with
  | 43 :: digits => (parseDigits true 0 digits).map Int.ofNat
  | 45 :: digits => (parseDigits true 0 digits).map (fun value : Nat => -(value : Int))
  | digits => (parseDigits true 0 digits).map Int.ofNat

/-- `sys.get_int_max_str_digits()`. -/
def maxStrDigits : Nat := 4300

/-- `int(given)` under the limit on digits, of which leading zeros count too. -/
def limitedInt (given : Text) : Option Int :=
  if maxStrDigits < given.countP (fun point => (decimalValue point).isSome) then none
  else parseInt given

/-- `str(value)` of a natural number. -/
def natText (value : Nat) : Text :=
  if value = 0 then [48] else (Nat.digits 10 value).reverse.map (48 + ·)

/-- `str(value)`. -/
def intText (value : Int) : Text :=
  if value < 0 then 45 :: natText value.natAbs else natText value.natAbs

def isAsciiDigit (point : Nat) : Bool :=
  48 ≤ point && point ≤ 57

/-- The number that ASCII digits write. -/
def digitsValue (digits : Text) : Nat :=
  digits.foldl (fun total digit => total * 10 + (digit - 48)) 0

theorem decimalValue_ascii : ∀ digit < 10, decimalValue (48 + digit) = some digit := by
  decide

theorem natText_ascii (value : Nat) : ∀ point ∈ natText value, isAsciiDigit point = true := by
  intro point member
  unfold natText at member
  split at member
  · rw [List.mem_singleton.mp member]
    rfl
  · obtain ⟨digit, digits, rfl⟩ := List.mem_map.mp member
    have small : digit < 10 :=
      Nat.digits_lt_base (by decide) (List.mem_reverse.mp digits)
    simp only [isAsciiDigit, Bool.and_eq_true, decide_eq_true_eq]
    omega

theorem natText_ne_nil (value : Nat) : natText value ≠ [] := by
  unfold natText
  split
  · exact List.cons_ne_nil _ _
  · next positive =>
      rw [ne_eq, List.map_eq_nil_iff, List.reverse_eq_nil_iff, Nat.digits_eq_nil_iff_eq_zero]
      exact positive

/-- Reading ASCII digits accumulates them from the left. -/
theorem parseDigits_ascii {digits : List Nat} (small : ∀ digit ∈ digits, digit < 10)
    (value : Nat) :
    parseDigits false value (digits.map (48 + ·)) =
      some (digits.foldl (fun total digit => total * 10 + digit) value) := by
  induction digits generalizing value with
  | nil => rfl
  | cons digit rest ih =>
      simp only [List.map_cons, parseDigits, List.foldl_cons,
        decimalValue_ascii digit (small digit List.mem_cons_self)]
      exact ih (fun other member => small other (List.mem_cons_of_mem _ member)) _

theorem parseDigits_pending {given : Text} {first : Nat} {rest : Text}
    (nonempty : given = first :: rest) (digit : isAsciiDigit first = true) (value : Nat) :
    parseDigits true value given = parseDigits false value given := by
  obtain ⟨low, high⟩ := Bool.and_eq_true_iff.mp digit
  rw [decide_eq_true_eq] at low high
  obtain ⟨offset, rfl⟩ := Nat.exists_eq_add_of_le low
  rw [nonempty]
  simp only [parseDigits, decimalValue_ascii offset (by omega)]

theorem foldl_reverse_digits (base value : Nat) :
    (Nat.digits base value).reverse.foldl (fun total digit => total * base + digit) 0 = value := by
  rw [List.foldl_reverse]
  have ofDigits := Nat.ofDigits_digits base value
  rw [Nat.ofDigits_eq_foldr] at ofDigits
  have same : (Nat.digits base value).foldr (fun digit total => total * base + digit) 0 =
      (Nat.digits base value).foldr (fun digit total => digit + base * total) 0 := by
    congr 1
    funext digit total
    rw [Nat.add_comm, Nat.mul_comm]
  rw [same]
  exact ofDigits

theorem foldl_digits_lt {base : Nat} {digits : List Nat} (small : ∀ digit ∈ digits, digit < base)
    (total : Nat) :
    digits.foldl (fun total digit => total * base + digit) total <
      (total + 1) * base ^ digits.length := by
  induction digits generalizing total with
  | nil =>
      rw [List.foldl_nil, List.length_nil, Nat.pow_zero, Nat.mul_one]
      exact Nat.lt_succ_self total
  | cons digit rest ih =>
      have digitSmall := small digit List.mem_cons_self
      have next : total * base + digit + 1 ≤ (total + 1) * base := by
        rw [Nat.succ_mul]
        omega
      calc
        (digit :: rest).foldl (fun total digit => total * base + digit) total <
            (total * base + digit + 1) * base ^ rest.length :=
          ih (fun other member => small other (List.mem_cons_of_mem _ member)) _
        _ ≤ (total + 1) * base * base ^ rest.length := Nat.mul_le_mul_right _ next
        _ = (total + 1) * base ^ (digit :: rest).length := by
          rw [List.length_cons, Nat.pow_succ', Nat.mul_assoc]

theorem parseDigits_natText (value : Nat) : parseDigits true 0 (natText value) = some value := by
  cases shape : natText value with
  | nil => exact absurd shape (natText_ne_nil value)
  | cons first rest =>
      have digit : isAsciiDigit first = true :=
        natText_ascii value first (shape ▸ List.mem_cons_self)
      rw [parseDigits_pending rfl digit, ← shape]
      unfold natText
      split
      · next nothing =>
          rw [nothing]
          rfl
      · rw [parseDigits_ascii, foldl_reverse_digits]
        intro digit member
        exact Nat.digits_lt_base (by decide) (List.mem_reverse.mp member)

theorem isSpace_of_digit {point : Nat} (digit : isAsciiDigit point = true) :
    isSpace point = false := by
  obtain ⟨low, high⟩ := Bool.and_eq_true_iff.mp digit
  rw [decide_eq_true_eq] at low high
  have bounded : ∀ point < 58, 48 ≤ point → isSpace point = false := by decide
  exact bounded point (by omega) low

theorem mem_intText {value : Int} {point : Nat} (member : point ∈ intText value) :
    point = 45 ∨ isAsciiDigit point = true := by
  unfold intText at member
  split at member
  · rcases List.mem_cons.mp member with minus | digit
    · exact .inl minus
    · exact .inr (natText_ascii _ point digit)
  · exact .inr (natText_ascii _ point member)

theorem intText_ne_nil (value : Int) : intText value ≠ [] := by
  unfold intText
  split
  · exact List.cons_ne_nil _ _
  · exact natText_ne_nil _

theorem tight_of_forall {given : Text} (clear : ∀ point ∈ given, isSpace point = false) :
    tight given = true := by
  have ends : ∀ ending : Option Nat, (∀ point ∈ ending, point ∈ given) →
      ending.any isSpace = false := by
    intro ending inside
    cases ending with
    | none => rfl
    | some point => exact clear point (inside point rfl)
  unfold tight
  rw [ends given.head? (fun _ => List.mem_of_mem_head?),
    ends given.getLast? (fun _ => List.mem_of_getLast?)]
  rfl

theorem intText_tight (value : Int) : tight (intText value) = true := by
  apply tight_of_forall
  intro point member
  rcases mem_intText member with minus | digit
  · rw [minus]
    rfl
  · exact isSpace_of_digit digit

theorem parseInt_intText (value : Int) : parseInt (intText value) = some value := by
  unfold parseInt
  rw [stripNumber_of_tight (intText_tight value)]
  unfold intText
  by_cases negative : value < 0
  · rw [if_pos negative]
    change (parseDigits true 0 (natText value.natAbs)).map (fun digits : Nat => -(digits : Int)) = _
    rw [parseDigits_natText, Option.map_some, Option.some.injEq]
    omega
  · rw [if_neg negative]
    cases shape : natText value.natAbs with
    | nil => exact absurd shape (natText_ne_nil _)
    | cons first rest =>
        have digit : isAsciiDigit first = true :=
          natText_ascii _ first (shape ▸ List.mem_cons_self)
        have noSign : first ≠ 43 ∧ first ≠ 45 := by
          constructor <;> (rintro rfl; cases digit)
        split
        · next same => exact absurd (List.cons.inj same).1 noSign.1
        · next same => exact absurd (List.cons.inj same).1 noSign.2
        · rw [← shape, parseDigits_natText, Option.map_some, Option.some.injEq]
          exact Int.natAbs_of_nonneg (not_lt.mp negative)

-- A no-break space is skipped, a file separator is not.
example : parseInt (160 :: text "5") = some 5 ∧ parseInt (28 :: text "5") = none := by decide

/-! ### Hexadecimal -/

def hexValue (point : Nat) : Option Nat :=
  if 48 ≤ point && point ≤ 57 then some (point - 48)
  else if 97 ≤ point && point ≤ 102 then some (point - 87)
  else if 65 ≤ point && point ≤ 70 then some (point - 55)
  else none

def hexDigit (value : Nat) : Nat :=
  if value < 10 then 48 + value else 87 + value

/-- `"%x" % value`. -/
def hexText (value : Nat) : Text :=
  if value = 0 then [48] else (Nat.digits 16 value).reverse.map hexDigit

def isHexDigit (point : Nat) : Bool :=
  isAsciiDigit point || (97 ≤ point && point ≤ 102)

theorem hexValue_hexDigit : ∀ digit < 16, hexValue (hexDigit digit) = some digit := by
  decide

theorem hexValue_lt {point digit : Nat} (read : hexValue point = some digit) : digit < 16 := by
  unfold hexValue at read
  simp only [Bool.and_eq_true, decide_eq_true_eq] at read
  split_ifs at read <;> cases read <;> omega

theorem isHexDigit_hexDigit : ∀ digit < 16, isHexDigit (hexDigit digit) = true := by
  decide

theorem hexText_ne_nil (value : Nat) : hexText value ≠ [] := by
  unfold hexText
  split
  · exact List.cons_ne_nil _ _
  · next positive =>
      rw [ne_eq, List.map_eq_nil_iff, List.reverse_eq_nil_iff, Nat.digits_eq_nil_iff_eq_zero]
      exact positive

theorem mem_hexText {value point : Nat} (member : point ∈ hexText value) :
    isHexDigit point = true := by
  unfold hexText at member
  split at member
  · rw [List.mem_singleton.mp member]
    rfl
  · obtain ⟨digit, digits, rfl⟩ := List.mem_map.mp member
    exact isHexDigit_hexDigit digit
      (Nat.digits_lt_base (by decide) (List.mem_reverse.mp digits))

theorem hexText_read (value : Nat) :
    (hexText value).foldl (fun total point => total * 16 + (hexValue point).getD 0) 0 = value := by
  unfold hexText
  split
  · next zero =>
      rw [zero]
      rfl
  · rw [List.foldl_map]
    have read : ∀ total, ∀ digit ∈ (Nat.digits 16 value).reverse,
        total * 16 + (hexValue (hexDigit digit)).getD 0 = total * 16 + digit := by
      intro total digit member
      have small : digit < 16 := Nat.digits_lt_base (by decide) (List.mem_reverse.mp member)
      rw [hexValue_hexDigit digit small, Option.getD_some]
    rw [List.foldl_ext _ _ _ read]
    exact foldl_reverse_digits 16 value

theorem hexText_injective {first second : Nat} (same : hexText first = hexText second) :
    first = second := by
  rw [← hexText_read first, same, hexText_read]

end AcdpPlayground.PythonText
