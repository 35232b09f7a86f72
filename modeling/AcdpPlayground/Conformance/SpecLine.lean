/-
The advertised spec line: `_parse_acdp_version` of a capabilities document and the probes
that read it.

The pattern of the parser captures its three numbers, so it is given by the captures that a
match can make, in the order in which `re` tries them. `repr` and the text of a response are
parameters of the messages; a decoded body is missing when `r.json()` raises.
-/

import AcdpPlayground.Foundation.IpAddress
import AcdpPlayground.Foundation.JsonValue
import Mathlib.Data.Nat.Digits.Lemmas

namespace AcdpPlayground.Conformance

open PythonText JsonValue IpAddress

/-! ### The pattern -/

/-- `[0-9]{0,most}`, the longest stretch first, with what is behind it. -/
def digitRuns : Nat → Text → List (Text × Text)
  | 0, given => [([], given)]
  | _ + 1, [] => [([], [])]
  | most + 1, point :: rest =>
      (if isAsciiDigit point then
        (digitRuns most rest).map (fun run => (point :: run.1, run.2))
      else []) ++ [([], point :: rest)]

/-- `(0|[1-9][0-9]{0,5})`. -/
def numberGroups : Text → List (Text × Text)
  | [] => []
  | point :: rest =>
      if point = 48 then [([48], rest)]
      else if isAsciiDigit point then
        (digitRuns 5 rest).map (fun run => (point :: run.1, run.2))
      else []

def afterDot : Text → List Text
  | 46 :: rest => [rest]
  | _ => []

def versionMatches (given : Text) : List (Text × Text × Text) :=
  (numberGroups given).flatMap (fun first =>
    (afterDot first.2).flatMap (fun behind =>
      (numberGroups behind).flatMap (fun second =>
        (afterDot second.2).flatMap (fun last =>
          ((numberGroups last).filter (fun third => third.2 = [])).map (fun third =>
            (first.1, second.1, third.1))))))

/-- The groups of `_ACDP_VERSION_RE.fullmatch(given)`. -/
def fullmatchVersion (given : Text) : Option (Text × Text × Text) :=
  (versionMatches given).head?

abbrev Version := Nat × Nat × Nat

def parseAcdpVersion : Json → Option Version
  | .string given =>
      (fullmatchVersion given).map (fun groups =>
        (digitsValue groups.1, digitsValue groups.2.1, digitsValue groups.2.2))
  | _ => none

def Version.le (first second : Version) : Bool :=
  first.1 < second.1 || first.1 == second.1 &&
    (first.2.1 < second.2.1 || first.2.1 == second.2.1 && first.2.2 ≤ second.2.2)

def minAcdpVersion : Version := (0, 2, 0)

def knownAcdpVersions : List String :=
  ["0.2.0", "0.3.0", "0.4.0", "0.5.0"]

/-- `".".join(map(str, version))`. -/
def versionText (version : Version) : Text :=
  natText version.1 ++ 46 :: (natText version.2.1 ++ 46 :: natText version.2.2)

/-! ### The probes -/

structure ProbeResponse where
  status : Nat
  text : Text
  json : Option Json

/-- `failed` carries the message of the `AssertionError`. -/
inductive ProbeFailure where
  | failed (message : Text)
  | raised

def unlessOk (label : String) (response : ProbeResponse) : Except ProbeFailure Unit :=
  if response.status = 200 then .ok ()
  else .error (.failed (text (label ++ ": expected 200, got ") ++ natText response.status ++
    text " (" ++ response.text.take 200 ++ text ")"))

/-- `r.json().get(name, default)`; only an object has the method. -/
def capability (response : ProbeResponse) (name : String) (default : Json) :
    Except ProbeFailure Json :=
  match response.json with
  | some (.object members) => .ok ((members.lookup (text name)).getD default)
  | _ => .error .raised

def isText (wanted : String) : Json → Bool
  | .string value => value == text wanted
  | _ => false

section Probes

variable (repr : Json → Text)

def requireVersion (label : String) (raw : Json) : Except ProbeFailure Version :=
  match parseAcdpVersion raw with
  | some version => .ok version
  | none =>
      .error (.failed (text (label ++ ": acdp_version ") ++ repr raw ++
        text " is not a MAJOR.MINOR.PATCH version"))

def advertisedAcdpVersion (response : ProbeResponse) : Except ProbeFailure Version := do
  unlessOk "capabilities" response
  let raw ← capability response "acdp_version" .null
  requireVersion repr "capabilities" raw

def requireReceipts (profiles : Json) : Except ProbeFailure Unit :=
  match profiles with
  | .array listed =>
      if listed.any (isText "acdp-registry-receipts") then .ok ()
      else .error (.failed (text
        "receipts-profile: acdp-registry-receipts not advertised (profiles=" ++
          repr profiles ++ text ")"))
  | _ =>
      .error (.failed (text "receipts-profile: profiles is not a list (" ++ repr profiles ++
        text ")"))

def requireFloor (raw : Json) (version : Version) : Except ProbeFailure Unit :=
  if minAcdpVersion.le version then .ok ()
  else .error (.failed (text "receipts-profile: expected acdp_version >= " ++
    versionText minAcdpVersion ++ text ", got " ++ repr raw))

/-- An f-string writes a string as it is. -/
def formatted : Json → Text
  | .string value => value
  | other => repr other

def probeReceiptsProfileAdvertised (response : ProbeResponse) : Except ProbeFailure Text := do
  unlessOk "receipts-profile" response
  let profiles ← capability response "profiles" (.array [])
  requireReceipts repr profiles
  let raw ← capability response "acdp_version" .null
  let version ← requireVersion repr "receipts-profile" raw
  requireFloor repr raw version
  let note := if knownAcdpVersions.any (fun known => isText known raw) then []
    else text " (spec line ahead of the known set)"
  return text "receipts profile advertised (acdp_version=" ++ formatted repr raw ++ text ")" ++ note

end Probes

/-! ### What the pattern captures -/

theorem mem_digitRuns {most : Nat} {given : Text} {run : Text × Text} :
    run ∈ digitRuns most given ↔ given = run.1 ++ run.2 ∧
      (∀ point ∈ run.1, isAsciiDigit point = true) ∧ run.1.length ≤ most := by
  obtain ⟨stretch, rest⟩ := run
  induction most generalizing given stretch with
  | zero =>
      simp only [digitRuns, List.mem_singleton, Prod.mk.injEq, Nat.le_zero, List.length_eq_zero_iff]
      constructor
      · rintro ⟨rfl, rfl⟩
        simp
      · rintro ⟨rfl, _, rfl⟩
        simp
  | succ most ih =>
      cases given with
      | nil =>
          simp only [digitRuns, List.mem_singleton, Prod.mk.injEq]
          constructor
          · rintro ⟨rfl, rfl⟩
            simp
          · rintro ⟨same, _⟩
            obtain ⟨rfl, rfl⟩ := List.append_eq_nil_iff.mp same.symm
            simp
      | cons point after =>
          simp only [digitRuns, List.mem_append, List.mem_singleton, Prod.mk.injEq]
          constructor
          · rintro (longer | ⟨rfl, rfl⟩)
            · split at longer
              · next digit =>
                  obtain ⟨⟨others, behind⟩, member, same⟩ := List.mem_map.mp longer
                  cases same
                  obtain ⟨rfl, digits, short⟩ := (ih others).mp member
                  exact ⟨rfl, List.forall_mem_cons.mpr ⟨digit, digits⟩, Nat.succ_le_succ short⟩
              · cases longer
            · simp
          · rintro ⟨same, digits, short⟩
            cases stretch with
            | nil => exact .inr ⟨rfl, same.symm⟩
            | cons first others =>
                obtain ⟨rfl, rest⟩ := List.cons_eq_cons.mp same
                obtain ⟨digit, later⟩ := List.forall_mem_cons.mp digits
                refine .inl ?_
                rw [if_pos digit]
                refine List.mem_map.mpr ⟨(others, _), (ih others).mpr ⟨rest, later, ?_⟩, rfl⟩
                exact Nat.le_of_succ_le_succ short

/-- What a group can capture: a number below a million as `str` writes it. -/
def IsNumber (group : Text) : Prop :=
  ∃ value < 1000000, group = natText value

theorem digitsValue_lt {group : Text} (digits : ∀ point ∈ group, isAsciiDigit point = true) :
    digitsValue group < 10 ^ group.length := by
  have small : ∀ digit ∈ group.map (· - 48), digit < 10 := by
    intro digit member
    obtain ⟨point, inside, rfl⟩ := List.mem_map.mp member
    have isDigit := digits point inside
    simp only [isAsciiDigit, Bool.and_eq_true, decide_eq_true_eq] at isDigit
    omega
  have bound := foldl_digits_lt small 0
  rw [List.foldl_map, List.length_map, Nat.zero_add, Nat.one_mul] at bound
  exact bound

theorem digitsValue_natText (value : Nat) : digitsValue (natText value) = value := by
  unfold natText digitsValue
  split
  · next zero => exact zero.symm
  · rw [List.foldl_map]
    simp only [Nat.add_sub_cancel_left]
    exact foldl_reverse_digits 10 value

theorem length_natText_le {value : Nat} (small : value < 1000000) :
    (natText value).length ≤ 6 := by
  unfold natText
  split
  · simp
  · rw [List.length_map, List.length_reverse, Nat.digits_length_le_iff (by decide)]
    exact small

theorem head_natText {value : Nat} (positive : value ≠ 0) : (natText value).head? ≠ some 48 := by
  have nonempty : Nat.digits 10 value ≠ [] := Nat.digits_ne_nil_iff_ne_zero.mpr positive
  have last := Nat.getLast_digit_ne_zero 10 positive
  unfold natText
  rw [if_neg positive, List.head?_map, List.head?_reverse, List.getLast?_eq_some_getLast nonempty]
  simp only [Option.map_some, ne_eq, Option.some.injEq]
  omega

theorem isNumber_of_digits {point : Nat} {others : Text} (leading : point ≠ 48)
    (digits : ∀ digit ∈ point :: others, isAsciiDigit digit = true) (short : others.length ≤ 5) :
    IsNumber (point :: others) := by
  refine ⟨digitsValue (point :: others), ?_, ?_⟩
  · calc digitsValue (point :: others) < 10 ^ (point :: others).length := digitsValue_lt digits
      _ ≤ 10 ^ 6 := Nat.pow_le_pow_right (by decide) (Nat.succ_le_succ short)
  · have first : (point :: others).head? ≠ some 48 := by simpa using leading
    exact (natText_digitsValue (List.cons_ne_nil _ _) digits first).symm

theorem mem_numberGroups {given : Text} {group : Text × Text} :
    group ∈ numberGroups given ↔ given = group.1 ++ group.2 ∧ IsNumber group.1 := by
  constructor
  · intro member
    cases given with
    | nil => cases member
    | cons point rest =>
        simp only [numberGroups] at member
        split at member
        · next zero =>
            rw [List.mem_singleton.mp member, zero]
            exact ⟨rfl, 0, by decide, rfl⟩
        · next leading =>
            split at member
            · next digit =>
                obtain ⟨⟨others, behind⟩, run, rfl⟩ := List.mem_map.mp member
                obtain ⟨rfl, digits, short⟩ := mem_digitRuns.mp run
                exact ⟨rfl, isNumber_of_digits leading
                  (List.forall_mem_cons.mpr ⟨digit, digits⟩) short⟩
            · cases member
  · obtain ⟨captured, behind⟩ := group
    rintro ⟨rfl, value, small, rfl⟩
    have digits := natText_ascii value
    have short := length_natText_le small
    by_cases zero : value = 0
    · subst zero
      exact List.mem_singleton.mpr rfl
    · have leading := head_natText zero
      cases shape : natText value with
      | nil => exact absurd shape (natText_ne_nil value)
      | cons point others =>
          rw [shape] at digits leading short
          obtain ⟨digit, later⟩ := List.forall_mem_cons.mp digits
          have nonzero : point ≠ 48 := by simpa using leading
          simp only [List.cons_append, numberGroups, if_neg nonzero, if_pos digit]
          refine List.mem_map.mpr ⟨(others, behind), mem_digitRuns.mpr ⟨rfl, later, ?_⟩, rfl⟩
          exact Nat.le_of_succ_le_succ short

theorem dot_notMem_of_isNumber {group : Text} (number : IsNumber group) : 46 ∉ group := by
  obtain ⟨value, _, rfl⟩ := number
  intro member
  have digit := natText_ascii value 46 member
  cases digit

theorem mem_afterDot {given rest : Text} : rest ∈ afterDot given ↔ given = 46 :: rest := by
  unfold afterDot
  split
  · next behind =>
      rw [List.mem_singleton]
      constructor
      · rintro rfl
        rfl
      · intro same
        exact (List.cons.inj same).2.symm
  · next other =>
      refine iff_of_false List.not_mem_nil (fun same => other rest same)

/-- Two texts up to their first dots. -/
theorem before_dot_unique {first second rest other : Text} (noDot : 46 ∉ first)
    (noOther : 46 ∉ second) (same : first ++ 46 :: rest = second ++ 46 :: other) :
    first = second ∧ rest = other := by
  have found := cut_of_head_absent 46 [] rest noDot
  have foundOther := cut_of_head_absent 46 [] other noOther
  simp only [List.append_assoc, List.singleton_append] at found foundOther
  rw [same, foundOther] at found
  obtain ⟨sameFirst, sameRest⟩ := Prod.mk.inj (Option.some.inj found)
  exact ⟨sameFirst.symm, sameRest.symm⟩

structure Captures (given : Text) (groups : Text × Text × Text) : Prop where
  whole : given = groups.1 ++ 46 :: (groups.2.1 ++ 46 :: groups.2.2)
  major : IsNumber groups.1
  minor : IsNumber groups.2.1
  patch : IsNumber groups.2.2

theorem mem_versionMatches {given : Text} {groups : Text × Text × Text} :
    groups ∈ versionMatches given ↔ Captures given groups := by
  unfold versionMatches
  simp only [List.mem_flatMap, List.mem_map, List.mem_filter, mem_numberGroups, mem_afterDot,
    decide_eq_true_eq]
  constructor
  · rintro ⟨⟨major, _⟩, ⟨rfl, isMajor⟩, behind, rfl, ⟨minor, _⟩, ⟨rfl, isMinor⟩, last, rfl,
      ⟨patch, _⟩, ⟨⟨rfl, isPatch⟩, rfl⟩, rfl⟩
    exact ⟨by simp, isMajor, isMinor, isPatch⟩
  · obtain ⟨major, minor, patch⟩ := groups
    rintro ⟨rfl, isMajor, isMinor, isPatch⟩
    exact ⟨(major, 46 :: (minor ++ 46 :: patch)), ⟨rfl, isMajor⟩, _, rfl,
      (minor, 46 :: patch), ⟨rfl, isMinor⟩, _, rfl,
      (patch, []), ⟨⟨(List.append_nil _).symm, isPatch⟩, rfl⟩, rfl⟩

theorem Captures.unique {given : Text} {groups others : Text × Text × Text}
    (first : Captures given groups) (second : Captures given others) : groups = others := by
  obtain ⟨sameMajor, behind⟩ := before_dot_unique (dot_notMem_of_isNumber first.major)
    (dot_notMem_of_isNumber second.major) (first.whole.symm.trans second.whole)
  obtain ⟨sameMinor, samePatch⟩ := before_dot_unique (dot_notMem_of_isNumber first.minor)
    (dot_notMem_of_isNumber second.minor) behind
  exact Prod.ext sameMajor (Prod.ext sameMinor samePatch)

theorem fullmatchVersion_eq_some {given : Text} {groups : Text × Text × Text} :
    fullmatchVersion given = some groups ↔ Captures given groups := by
  constructor
  · intro found
    exact mem_versionMatches.mp (List.mem_of_mem_head? found)
  · intro captures
    have member := mem_versionMatches.mpr captures
    cases found : fullmatchVersion given with
    | none =>
        rw [List.head?_eq_none_iff.mp found] at member
        cases member
    | some others =>
        have others := mem_versionMatches.mp (List.mem_of_mem_head? found)
        rw [others.unique captures]

/-- A value parses exactly when it is how a version below a million in each part is written,
and then to that version. -/
theorem parseAcdpVersion_eq_some (raw : Json) (version : Version) :
    parseAcdpVersion raw = some version ↔
      raw = .string (versionText version) ∧
        version.1 < 1000000 ∧ version.2.1 < 1000000 ∧ version.2.2 < 1000000 := by
  constructor
  · intro parsed
    unfold parseAcdpVersion at parsed
    split at parsed
    · next given =>
        obtain ⟨groups, found, rfl⟩ := Option.map_eq_some_iff.mp parsed
        obtain ⟨whole, ⟨major, majorSmall, isMajor⟩, ⟨minor, minorSmall, isMinor⟩,
          ⟨patch, patchSmall, isPatch⟩⟩ := fullmatchVersion_eq_some.mp found
        simp only [isMajor, isMinor, isPatch, digitsValue_natText] at whole ⊢
        exact ⟨congrArg Json.string whole, majorSmall, minorSmall, patchSmall⟩
    · cases parsed
  · rintro ⟨rfl, majorSmall, minorSmall, patchSmall⟩
    have captures : Captures (versionText version)
        (natText version.1, natText version.2.1, natText version.2.2) :=
      ⟨rfl, ⟨_, majorSmall, rfl⟩, ⟨_, minorSmall, rfl⟩, ⟨_, patchSmall, rfl⟩⟩
    simp only [parseAcdpVersion, fullmatchVersion_eq_some.mpr captures, Option.map_some,
      digitsValue_natText]

/-! ### What the probes accept -/

/-- The capabilities document states the version, in its one spelling. -/
structure Advertises (response : ProbeResponse) (version : Version) : Prop where
  member : ∃ members, response.json = some (.object members) ∧
    members.lookup (text "acdp_version") = some (.string (versionText version))
  major : version.1 < 1000000
  minor : version.2.1 < 1000000
  patch : version.2.2 < 1000000

def AdvertisesReceipts (response : ProbeResponse) : Prop :=
  ∃ members listed, response.json = some (.object members) ∧
    members.lookup (text "profiles") = some (.array listed) ∧
    .string (text "acdp-registry-receipts") ∈ listed

theorem bind_eq_ok {Failure First Value : Type} {first : Except Failure First}
    {next : First → Except Failure Value} {value : Value} :
    (first >>= next) = .ok value ↔ ∃ between, first = .ok between ∧ next between = .ok value := by
  cases first with
  | error failure =>
      refine iff_of_false (fun impossible => nomatch impossible) ?_
      rintro ⟨_, impossible, _⟩
      cases impossible
  | ok between =>
      constructor
      · intro done
        exact ⟨between, rfl, done⟩
      · rintro ⟨other, same, done⟩
        cases same
        exact done

theorem unlessOk_eq_ok {label : String} {response : ProbeResponse} {done : Unit} :
    unlessOk label response = .ok done ↔ response.status = 200 := by
  unfold unlessOk
  split
  · next status => exact iff_of_true rfl status
  · next status => exact iff_of_false (fun impossible => nomatch impossible) status

theorem capability_eq_ok {response : ProbeResponse} {name : String} {default value : Json} :
    capability response name default = .ok value ↔
      ∃ members, response.json = some (.object members) ∧
        (members.lookup (text name)).getD default = value := by
  unfold capability
  split
  · next members decoded =>
      constructor
      · intro same
        exact ⟨members, decoded, Except.ok.inj same⟩
      · rintro ⟨others, same, rfl⟩
        rw [decoded] at same
        cases same
        rfl
  · next other =>
      refine iff_of_false (fun impossible => nomatch impossible) ?_
      rintro ⟨members, decoded, _⟩
      exact other members decoded

theorem requireVersion_eq_ok {repr : Json → Text} {label : String} {raw : Json}
    {version : Version} :
    requireVersion repr label raw = .ok version ↔ parseAcdpVersion raw = some version := by
  unfold requireVersion
  split
  · next found parsed =>
      rw [parsed]
      exact ⟨fun same => congrArg some (Except.ok.inj same),
        fun same => congrArg Except.ok (Option.some.inj same)⟩
  · next parsed =>
      rw [parsed]
      exact iff_of_false (fun impossible => nomatch impossible)
        (fun impossible => nomatch impossible)

theorem advertises_iff (response : ProbeResponse) (version : Version) :
    (∃ raw, capability response "acdp_version" .null = .ok raw ∧
      parseAcdpVersion raw = some version) ↔ Advertises response version := by
  constructor
  · rintro ⟨raw, read, parsed⟩
    obtain ⟨members, decoded, rfl⟩ := capability_eq_ok.mp read
    obtain ⟨stated, major, minor, patch⟩ := (parseAcdpVersion_eq_some _ version).mp parsed
    refine ⟨⟨members, decoded, ?_⟩, major, minor, patch⟩
    cases held : members.lookup (text "acdp_version") with
    | none =>
        rw [held] at stated
        cases stated
    | some value =>
        rw [held] at stated
        exact congrArg some stated
  · rintro ⟨⟨members, decoded, held⟩, major, minor, patch⟩
    refine ⟨.string (versionText version), capability_eq_ok.mpr ⟨members, decoded, ?_⟩, ?_⟩
    · rw [held]
      rfl
    · exact (parseAcdpVersion_eq_some _ version).mpr ⟨rfl, major, minor, patch⟩

theorem requireReceipts_iff (repr : Json → Text) (response : ProbeResponse) :
    (∃ profiles, capability response "profiles" (.array []) = .ok profiles ∧
      requireReceipts repr profiles = .ok ()) ↔ AdvertisesReceipts response := by
  constructor
  · rintro ⟨profiles, read, required⟩
    obtain ⟨members, decoded, rfl⟩ := capability_eq_ok.mp read
    unfold requireReceipts at required
    split at required
    · next listed isList =>
        split at required
        · next named =>
            obtain ⟨item, member, isNamed⟩ := List.any_eq_true.mp named
            cases held : members.lookup (text "profiles") with
            | none =>
                rw [held] at isList
                cases isList
                cases member
            | some value =>
                rw [held] at isList
                refine ⟨members, listed, decoded, held.trans (congrArg some isList), ?_⟩
                unfold isText at isNamed
                split at isNamed
                · rw [← beq_iff_eq.mp isNamed]
                  exact member
                · cases isNamed
        · cases required
    · cases required
  · rintro ⟨members, listed, decoded, held, named⟩
    refine ⟨.array listed, capability_eq_ok.mpr ⟨members, decoded, by rw [held]; rfl⟩, ?_⟩
    simp only [requireReceipts]
    rw [if_pos]
    exact List.any_eq_true.mpr ⟨_, named, by simp [isText]⟩

/-- For every answer of a registry: the spec line that is read from it, and when the
receipts probe passes. -/
theorem spec_line_exact (repr : Json → Text) (response : ProbeResponse) :
    (∀ version, advertisedAcdpVersion repr response = .ok version ↔
      response.status = 200 ∧ Advertises response version) ∧
    ((∃ summary, probeReceiptsProfileAdvertised repr response = .ok summary) ↔
      response.status = 200 ∧ AdvertisesReceipts response ∧
        ∃ version, Advertises response version ∧ minAcdpVersion.le version = true) := by
  constructor
  · intro version
    unfold advertisedAcdpVersion
    simp only [bind_eq_ok, unlessOk_eq_ok, requireVersion_eq_ok, advertises_iff]
    constructor
    · rintro ⟨_, status, read⟩
      exact ⟨status, read⟩
    · rintro ⟨status, read⟩
      exact ⟨(), status, read⟩
  · unfold probeReceiptsProfileAdvertised
    simp only [bind_eq_ok, unlessOk_eq_ok, requireVersion_eq_ok]
    constructor
    · rintro ⟨summary, _, status, profiles, readProfiles, _, receipts, raw, readVersion, version,
        parsed, _, floor, _⟩
      refine ⟨status, (requireReceipts_iff repr response).mp ⟨profiles, readProfiles, receipts⟩,
        version, (advertises_iff response version).mp ⟨raw, readVersion, parsed⟩, ?_⟩
      unfold requireFloor at floor
      split at floor
      · next enough => exact enough
      · cases floor
    · rintro ⟨status, receipts, version, advertised, enough⟩
      obtain ⟨profiles, readProfiles, required⟩ := (requireReceipts_iff repr response).mpr receipts
      obtain ⟨raw, readVersion, parsed⟩ := (advertises_iff response version).mpr advertised
      exact ⟨_, (), status, profiles, readProfiles, (), required, raw, readVersion, version, parsed,
        (), if_pos enough, rfl⟩

end AcdpPlayground.Conformance
