/-
IPv4 and IPv6 addresses as the standard `ipaddress` module reads and writes them: strict
dotted quads, hextets with one `::`, a dotted tail, scope ids, the compressed text and the
text of a /64 network.

The error texts are left out. A network is built from an address and not from its text,
which reads back as the same address.
-/

import AcdpPlayground.Foundation.PythonText

namespace AcdpPlayground.IpAddress

open PythonText

/-! ### Reading -/

def parseOctet (given : Text) : Option Nat :=
  if given = [] || !given.all isAsciiDigit || 3 < given.length then none
  else if given ≠ [48] && given.head? = some 48 then none
  else if 255 < digitsValue given then none
  else some (digitsValue given)

def parseIPv4 (given : Text) : Option Nat :=
  match (given.splitOn 46).mapM parseOctet with
  | some [first, second, third, fourth] =>
      some (((first * 256 + second) * 256 + third) * 256 + fourth)
  | _ => none

def parseHextet (given : Text) : Option Nat :=
  if given = [] || 4 < given.length then none
  else
    (given.mapM hexValue).map (fun digits =>
      digits.foldl (fun total digit => total * 16 + digit) 0)

/-- The parts between colons, a dotted tail written as two of them. -/
def colonParts (given : Text) : Option (List Text) :=
  let parts := given.splitOn 58
  if parts.length < 3 then none
  else
    let last := parts.getLastD []
    if last.contains 46 then
      (parseIPv4 last).map (fun number =>
        parts.dropLast ++ [hexText (number / 65536), hexText (number % 65536)])
    else some parts

/-- The inner parts that are empty; each is a `::`. -/
def skipIndices (parts : List Text) : List Nat :=
  (List.range (parts.length - 1)).filter (fun index => 0 < index && parts[index]? = some [])

/-- How many parts stand before and behind the `::`, where an end that it reaches is not
counted. -/
def aroundSkip (parts : List Text) (skip : Nat) : Option (Nat × Nat) :=
  let high := if parts.head? = some [] then skip - 1 else skip
  let behind := parts.length - skip - 1
  let low := if parts.getLast? = some [] then behind - 1 else behind
  if parts.head? = some [] && high ≠ 0 then none
  else if parts.getLast? = some [] && low ≠ 0 then none
  else if 8 ≤ high + low then none
  else some (high, low)

/-- The eight hextets as texts, skipped ones as zeros. -/
def eightParts (parts : List Text) : Option (List Text) :=
  if 9 < parts.length then none
  else
    match skipIndices parts with
    | [] =>
        if parts.length ≠ 8 || parts.head? = some [] || parts.getLast? = some [] then none
        else some parts
    | [skip] =>
        (aroundSkip parts skip).map (fun (high, low) =>
          parts.take high ++ List.replicate (8 - (high + low)) (text "0") ++
            parts.drop (parts.length - low))
    | _ => none

def hextetsNumber (hextets : List Nat) : Nat :=
  hextets.foldl (fun total hextet => total * 65536 + hextet) 0

/-- `_ip_int_from_string` of IPv6. -/
def parseIPv6Number (given : Text) : Option Nat := do
  let parts ← colonParts given
  let eight ← eightParts parts
  return hextetsNumber (← eight.mapM parseHextet)

def splitScope (given : Text) : Option (Text × Option Text) :=
  match cut (text "%") given with
  | none => some (given, none)
  | some (before, scope) => if scope = [] || scope.contains 37 then none else some (before, some scope)

inductive Address where
  | v4 (number : Nat)
  | v6 (number : Nat) (scope : Option Text)
  deriving DecidableEq

def parseIPv6 (given : Text) : Option Address :=
  if given.contains 47 then none
  else do
    let (before, scope) ← splitScope given
    return .v6 (← parseIPv6Number before) scope

def ipAddress (given : Text) : Option Address :=
  match parseIPv4 given with
  | some number => some (.v4 number)
  | none => parseIPv6 given

/-! ### Writing -/

def ipv4Text (number : Nat) : Text :=
  [46].intercalate ([number / 16777216 % 256, number / 65536 % 256, number / 256 % 256,
    number % 256].map natText)

def hextetsOf (number : Nat) : List Nat :=
  (List.range 8).map (fun index => number / 65536 ^ (7 - index) % 65536)

/-- Start and length of the longest run of zeros, the first of equal ones. -/
structure ZeroRun where
  start : Nat
  length : Nat

/-- The loop of `_compress_hextets`: the run at hand and the best one so far. -/
def longestZeros : List Text → Nat → ZeroRun → ZeroRun → ZeroRun
  | [], _, _, best => best
  | hextet :: rest, index, run, best =>
      if hextet = text "0" then
        let run : ZeroRun := ⟨if run.length = 0 then index else run.start, run.length + 1⟩
        longestZeros rest (index + 1) run (if best.length < run.length then run else best)
      else longestZeros rest (index + 1) ⟨0, 0⟩ best

def compressHextets (hextets : List Text) : List Text :=
  let best := longestZeros hextets 0 ⟨0, 0⟩ ⟨0, 0⟩
  if best.length ≤ 1 then hextets
  else
    let stop := best.start + best.length
    let ended := if stop = hextets.length then hextets ++ [[]] else hextets
    let replaced := ended.take best.start ++ [[]] ++ ended.drop stop
    if best.start = 0 then [] :: replaced else replaced

/-- `_string_from_ip_int` of IPv6. -/
def ipv6Text (number : Nat) : Text :=
  [58].intercalate (compressHextets ((hextetsOf number).map hexText))

/-- `str(ip_network(f"{ip}/64", strict=False))`. The scope id stays when no bit of the
host is set. -/
def networkText (number : Nat) (scope : Option Text) : Text :=
  let network := number / 18446744073709551616 * 18446744073709551616
  if network = number then
    match scope with
    | some scope => ipv6Text number ++ text "%" ++ scope ++ text "/64"
    | none => ipv6Text number ++ text "/64"
  else ipv6Text network ++ text "/64"

/-- `ip.ipv4_mapped`. -/
def mapped (number : Nat) : Option Nat :=
  if number / 4294967296 = 65535 then some (number % 4294967296) else none

/-! ### An IPv4 address has one spelling -/

theorem digitsValue_ofDigits (given : Text) :
    digitsValue given = Nat.ofDigits 10 (given.map (· - 48)).reverse := by
  rw [Nat.ofDigits_eq_foldr, List.foldr_reverse, List.foldl_map]
  unfold digitsValue
  congr 1
  funext total digit
  rw [Nat.mul_comm, Nat.add_comm]
  rfl

theorem natText_digitsValue {given : Text} (nonempty : given ≠ [])
    (digits : ∀ point ∈ given, isAsciiDigit point = true) (leading : given.head? ≠ some 48) :
    natText (digitsValue given) = given := by
  have small : ∀ digit ∈ (given.map (· - 48)).reverse, digit < 10 := by
    intro digit member
    obtain ⟨point, inside, rfl⟩ := List.mem_map.mp (List.mem_reverse.mp member)
    have digit := digits point inside
    simp only [isAsciiDigit, Bool.and_eq_true, decide_eq_true_eq] at digit
    omega
  have written : Nat.digits 10 (digitsValue given) = (given.map (· - 48)).reverse := by
    rw [digitsValue_ofDigits]
    apply Nat.digits_ofDigits 10 (by decide) _ small
    intro present zero
    cases given with
    | nil => exact nonempty rfl
    | cons first rest =>
        have digit := digits first List.mem_cons_self
        simp only [isAsciiDigit, Bool.and_eq_true, decide_eq_true_eq] at digit
        simp only [List.map_cons, List.reverse_cons, List.getLast_append_singleton] at zero
        exact leading (congrArg some (by omega))
  have positive : digitsValue given ≠ 0 := by
    intro zero
    rw [zero, Nat.digits_zero] at written
    have empty := List.map_eq_nil_iff.mp (List.reverse_eq_nil_iff.mp written.symm)
    exact nonempty empty
  unfold natText
  rw [if_neg positive, written, List.reverse_reverse, List.map_map]
  have restored : ∀ point ∈ given, ((48 + ·) ∘ (· - 48)) point = id point := by
    intro point member
    have digit := digits point member
    simp only [isAsciiDigit, Bool.and_eq_true, decide_eq_true_eq] at digit
    simp only [Function.comp_apply, id_eq]
    omega
  rw [List.map_congr_left restored, List.map_id]

theorem parseOctet_spec {given : Text} {octet : Nat} (parsed : parseOctet given = some octet) :
    natText octet = given ∧ octet < 256 := by
  unfold parseOctet at parsed
  split at parsed
  · cases parsed
  · next wellFormed =>
      simp only [Bool.or_eq_true, decide_eq_true_eq, Bool.not_eq_true', not_or,
        Bool.not_eq_false] at wellFormed
      obtain ⟨⟨nonempty, digits⟩, _⟩ := wellFormed
      split at parsed
      · cases parsed
      · next leading =>
          split at parsed
          · cases parsed
          · next bounded =>
              cases parsed
              refine ⟨?_, by omega⟩
              by_cases zero : given = [48]
              · rw [zero]
                rfl
              · apply natText_digitsValue nonempty (List.all_eq_true.mp digits)
                intro leads
                apply leading
                simp [zero, leads]

theorem parseOctets_spec {given : List Text} {octets : List Nat}
    (parsed : given.mapM parseOctet = some octets) :
    octets.map natText = given ∧ ∀ octet ∈ octets, octet < 256 := by
  constructor
  · have each := forall₂_of_mapM parsed
    clear parsed
    induction each with
    | nil => rfl
    | cons head tail ih => rw [List.map_cons, (parseOctet_spec head).1, ih]
  · intro octet member
    obtain ⟨part, _, read⟩ := mem_of_mapM parsed octet member
    exact (parseOctet_spec read).2

theorem parseIPv4_spec {given : Text} {number : Nat} (parsed : parseIPv4 given = some number) :
    ipv4Text number = given ∧ number < 4294967296 := by
  unfold parseIPv4 at parsed
  split at parsed
  · next first second third fourth octets =>
      cases parsed
      obtain ⟨written, bounded⟩ := parseOctets_spec octets
      simp only [List.forall_mem_cons, List.not_mem_nil, false_implies, implies_true,
        and_true] at bounded
      obtain ⟨firstBound, secondBound, thirdBound, fourthBound⟩ := bounded
      constructor
      · have firstOctet : (((first * 256 + second) * 256 + third) * 256 + fourth) / 16777216 % 256 =
            first := by omega
        have secondOctet : (((first * 256 + second) * 256 + third) * 256 + fourth) / 65536 % 256 =
            second := by omega
        have thirdOctet : (((first * 256 + second) * 256 + third) * 256 + fourth) / 256 % 256 =
            third := by omega
        have fourthOctet : (((first * 256 + second) * 256 + third) * 256 + fourth) % 256 =
            fourth := by omega
        unfold ipv4Text
        rw [firstOctet, secondOctet, thirdOctet, fourthOctet, written]
        exact List.intercalate_splitOn 46
      · omega
  · cases parsed

theorem mem_ipv4Text {number point : Nat} (member : point ∈ ipv4Text number) :
    point = 46 ∨ isAsciiDigit point = true := by
  rcases mem_intercalate member with dot | ⟨part, parts, inside⟩
  · exact .inl dot
  · obtain ⟨octet, _, rfl⟩ := List.mem_map.mp parts
    exact .inr (natText_ascii octet point inside)

theorem ipv4Text_tight (number : Nat) : tight (ipv4Text number) = true := by
  apply tight_of_forall
  intro point member
  rcases mem_ipv4Text member with rfl | digit
  · rfl
  · exact isSpace_of_digit digit

theorem splitOn_ipv4Text (number : Nat) :
    (ipv4Text number).splitOn 46 =
      [number / 16777216 % 256, number / 65536 % 256, number / 256 % 256, number % 256].map
        natText := by
  apply List.splitOn_intercalate
  · intro part member dot
    obtain ⟨octet, _, rfl⟩ := List.mem_map.mp member
    cases natText_ascii octet 46 dot
  · exact List.cons_ne_nil _ _

theorem parseOctet_natText : ∀ octet < 256, parseOctet (natText octet) = some octet := by
  decide +kernel

theorem parseIPv4_ipv4Text {number : Nat} (bound : number < 4294967296) :
    parseIPv4 (ipv4Text number) = some number := by
  have octet : ∀ value : Nat, parseOctet (natText (value % 256)) = some (value % 256) :=
    fun value => parseOctet_natText (value % 256) (Nat.mod_lt value (by decide))
  unfold parseIPv4
  rw [splitOn_ipv4Text]
  simp only [List.map_cons, List.map_nil, List.mapM_cons, List.mapM_nil, octet,
    Option.pure_def, Option.bind_eq_bind, Option.bind_some, Option.some.injEq]
  omega

theorem ipv4Text_injective {first second : Nat} (firstBound : first < 4294967296)
    (secondBound : second < 4294967296) (same : ipv4Text first = ipv4Text second) :
    first = second := by
  have read := parseIPv4_ipv4Text firstBound
  rw [same, parseIPv4_ipv4Text secondBound] at read
  exact (Option.some.inj read).symm

/-! ### An IPv6 address has 128 bits -/

theorem parseHextet_lt {given : Text} {hextet : Nat} (parsed : parseHextet given = some hextet) :
    hextet < 65536 := by
  unfold parseHextet at parsed
  split at parsed
  · cases parsed
  · next short =>
      obtain ⟨digits, read, rfl⟩ := Option.map_eq_some_iff.mp parsed
      have small : ∀ digit ∈ digits, digit < 16 := by
        intro digit member
        obtain ⟨point, _, valued⟩ := mem_of_mapM read digit member
        exact hexValue_lt valued
      simp only [Bool.or_eq_true, decide_eq_true_eq, not_or, not_lt] at short
      calc
        digits.foldl (fun total digit => total * 16 + digit) 0 < (0 + 1) * 16 ^ digits.length :=
          foldl_digits_lt small 0
        _ ≤ (0 + 1) * 16 ^ 4 := by
          apply Nat.mul_le_mul_left
          apply Nat.pow_le_pow_right (by decide)
          rw [← (forall₂_of_mapM read).length_eq]
          exact short.2
        _ = 65536 := rfl

theorem aroundSkip_le {parts : List Text} {skip high low : Nat}
    (around : aroundSkip parts skip = some (high, low)) :
    high ≤ skip ∧ low ≤ parts.length - skip - 1 ∧ high + low < 8 := by
  simp only [aroundSkip] at around
  split_ifs at around <;> cases around <;> omega

theorem eightParts_length {parts eight : List Text} (filled : eightParts parts = some eight) :
    eight.length = 8 := by
  unfold eightParts at filled
  split at filled
  · cases filled
  · split at filled
    · split at filled
      · cases filled
      · next complete =>
          cases filled
          simp only [Bool.or_eq_true, decide_eq_true_eq, not_or, not_not] at complete
          exact complete.1.1
    · next skip skips =>
        obtain ⟨⟨high, low⟩, around, rfl⟩ := Option.map_eq_some_iff.mp filled
        have inside : skip ∈ skipIndices parts := by
          rw [skips]
          exact List.mem_singleton_self skip
        have bounded := List.mem_range.mp (List.mem_filter.mp inside).1
        have counts := aroundSkip_le around
        simp only [List.length_append, List.length_take, List.length_replicate, List.length_drop]
        omega
    · cases filled

theorem parseIPv6Number_lt {given : Text} {number : Nat}
    (parsed : parseIPv6Number given = some number) :
    number < 340282366920938463463374607431768211456 := by
  obtain ⟨parts, _, parsed⟩ := Option.bind_eq_some_iff.mp parsed
  obtain ⟨eight, filled, parsed⟩ := Option.bind_eq_some_iff.mp parsed
  obtain ⟨hextets, read, parsed⟩ := Option.bind_eq_some_iff.mp parsed
  cases parsed
  have small : ∀ hextet ∈ hextets, hextet < 65536 := by
    intro hextet member
    obtain ⟨part, _, valued⟩ := mem_of_mapM read hextet member
    exact parseHextet_lt valued
  have count : hextets.length = 8 := by
    rw [← (forall₂_of_mapM read).length_eq, eightParts_length filled]
  have bound := foldl_digits_lt small 0
  rw [count] at bound
  exact bound

def Address.Bounded : Address → Prop
  | .v4 number => number < 4294967296
  | .v6 number _ => number < 340282366920938463463374607431768211456

theorem ipAddress_bounded {given : Text} {address : Address}
    (parsed : ipAddress given = some address) : address.Bounded := by
  unfold ipAddress at parsed
  split at parsed
  · next number found =>
      cases parsed
      exact (parseIPv4_spec found).2
  · unfold parseIPv6 at parsed
    split at parsed
    · cases parsed
    · obtain ⟨⟨before, scope⟩, _, parsed⟩ := Option.bind_eq_some_iff.mp parsed
      obtain ⟨number, read, parsed⟩ := Option.bind_eq_some_iff.mp parsed
      cases parsed
      exact parseIPv6Number_lt read

theorem slash_notMem_ipv4Text (number : Nat) : 47 ∉ ipv4Text number := by
  intro slash
  rcases mem_ipv4Text slash with dot | digit
  · cases dot
  · cases digit

theorem slash_notMem_of_ipAddress {given : Text} {address : Address}
    (parsed : ipAddress given = some address) : 47 ∉ given := by
  unfold ipAddress at parsed
  split at parsed
  · next number found =>
      rw [← (parseIPv4_spec found).1]
      exact slash_notMem_ipv4Text number
  · unfold parseIPv6 at parsed
    split at parsed
    · cases parsed
    · next free =>
        rw [List.contains_iff_mem] at free
        exact free

theorem mem_scope_of_ipAddress {given scope : Text} {number : Nat}
    (parsed : ipAddress given = some (.v6 number (some scope))) : ∀ point ∈ scope, point ∈ given := by
  unfold ipAddress at parsed
  split at parsed
  · cases parsed
  · unfold parseIPv6 at parsed
    split at parsed
    · cases parsed
    · obtain ⟨⟨before, found⟩, halves, parsed⟩ := Option.bind_eq_some_iff.mp parsed
      obtain ⟨read, _, parsed⟩ := Option.bind_eq_some_iff.mp parsed
      cases parsed
      unfold splitScope at halves
      split at halves
      · cases halves
      · next first second parts =>
          split at halves
          · cases halves
          · cases halves
            intro point member
            rw [cut_eq_some parts]
            exact List.mem_append_right _ member

/-! ### A /64 network has one spelling -/

theorem hextetsOf_network (site : Nat) :
    hextetsOf (site * 18446744073709551616) =
      [site / 281474976710656 % 65536, site / 4294967296 % 65536, site / 65536 % 65536,
        site % 65536] ++ List.replicate 4 0 := by
  simp [hextetsOf, List.range, List.range.loop, List.replicate]
  omega

def leadingFour (parts : List Text) : List Text :=
  let present := parts.filter (· ≠ [])
  present ++ List.replicate (4 - present.length) (text "0")

theorem leadingFour_compressHextets {first second third fourth : Text} (firstPresent : first ≠ [])
    (secondPresent : second ≠ []) (thirdPresent : third ≠ []) (fourthPresent : fourth ≠ []) :
    leadingFour (compressHextets ([first, second, third, fourth] ++
      List.replicate 4 (text "0"))) = [first, second, third, fourth] := by
  have zeroPresent : text "0" ≠ [] := by decide
  unfold leadingFour compressHextets
  -- The longest run is the last one, and it starts behind the last hextet that is not zero.
  by_cases firstZero : first = text "0" <;> by_cases secondZero : second = text "0" <;>
    by_cases thirdZero : third = text "0" <;> by_cases fourthZero : fourth = text "0" <;>
    simp [longestZeros, List.replicate, *]

theorem compressHextets_ne_nil {hextets : List Text} (present : hextets ≠ []) :
    compressHextets hextets ≠ [] := by
  unfold compressHextets
  simp only
  split
  · exact present
  · split
    · exact List.cons_ne_nil _ _
    · intro empty
      have inner := (List.append_eq_nil_iff.mp (List.append_eq_nil_iff.mp empty).1).2
      cases inner

theorem mem_compressHextets {hextets : List Text} {part : Text}
    (member : part ∈ compressHextets hextets) : part = [] ∨ part ∈ hextets := by
  have ended : ∀ {stop : Nat}, part ∈ (if stop = hextets.length then hextets ++ [[]] else hextets) →
      part = [] ∨ part ∈ hextets := by
    intro stop inside
    split at inside
    · rcases List.mem_append.mp inside with given | added
      · exact .inr given
      · exact .inl (List.mem_singleton.mp added)
    · exact .inr inside
  have replaced : ∀ {start stop : Nat}, part ∈
      (if stop = hextets.length then hextets ++ [[]] else hextets).take start ++ [[]] ++
        (if stop = hextets.length then hextets ++ [[]] else hextets).drop stop →
      part = [] ∨ part ∈ hextets := by
    intro start stop inside
    rw [List.mem_append, List.mem_append] at inside
    rcases inside with (before | skipped) | after
    · exact ended (List.mem_of_mem_take before)
    · exact .inl (List.mem_singleton.mp skipped)
    · exact ended (List.mem_of_mem_drop after)
  unfold compressHextets at member
  simp only at member
  split at member
  · exact .inr member
  · split at member
    · rcases List.mem_cons.mp member with empty | later
      · exact .inl empty
      · exact replaced later
    · exact replaced member

theorem mem_compressed_hexText {hextets : List Nat} {part : Text} {point : Nat}
    (member : part ∈ compressHextets (hextets.map hexText)) (inside : point ∈ part) :
    isHexDigit point = true := by
  rcases mem_compressHextets member with empty | given
  · rw [empty] at inside
    cases inside
  · obtain ⟨hextet, _, rfl⟩ := List.mem_map.mp given
    exact mem_hexText inside

theorem mem_ipv6Text {number point : Nat} (member : point ∈ ipv6Text number) :
    point = 58 ∨ isHexDigit point = true := by
  rcases mem_intercalate member with colon | ⟨part, parts, inside⟩
  · exact .inl colon
  · exact .inr (mem_compressed_hexText parts inside)

theorem ipv6Text_site_injective {first second : Nat} (firstBound : first < 18446744073709551616)
    (secondBound : second < 18446744073709551616)
    (same : ipv6Text (first * 18446744073709551616) =
      ipv6Text (second * 18446744073709551616)) : first = second := by
  have leading : ∀ site : Nat,
      leadingFour ((ipv6Text (site * 18446744073709551616)).splitOn 58) =
        [hexText (site / 281474976710656 % 65536), hexText (site / 4294967296 % 65536),
          hexText (site / 65536 % 65536), hexText (site % 65536)] := by
    intro site
    unfold ipv6Text
    rw [List.splitOn_intercalate]
    · rw [hextetsOf_network, List.map_append, List.map_replicate]
      exact leadingFour_compressHextets (hexText_ne_nil _) (hexText_ne_nil _) (hexText_ne_nil _)
        (hexText_ne_nil _)
    · intro part member colon
      cases mem_compressed_hexText member colon
    · exact compressHextets_ne_nil (by rw [hextetsOf_network]; exact List.cons_ne_nil _ _)
  have hextets := leading first
  rw [same, leading second] at hextets
  simp only [List.cons.injEq, and_true] at hextets
  obtain ⟨high, upper, lower, low⟩ := hextets
  have highSame := hexText_injective high
  have upperSame := hexText_injective upper
  have lowerSame := hexText_injective lower
  have lowSame := hexText_injective low
  omega

end AcdpPlayground.IpAddress
