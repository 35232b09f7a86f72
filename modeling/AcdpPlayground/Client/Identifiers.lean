/-
Authorities and context ids as `acdp_client/identifiers.py` recognises them, against the
grammar they are meant to have.

The label pattern ends in `$`, which also stands before a newline at the end of a label.
Every label of an accepted authority may therefore be followed by one newline; the UUID
pattern ends in `\Z` and has no such gap.
-/

import AcdpPlayground.Foundation.TextPattern
import AcdpPlayground.Foundation.TextMethods

namespace AcdpPlayground.Client

open PythonText TextPattern TextMethods

/-! ### Recognisers -/

def isLabelPoint (point : Nat) : Bool :=
  (97 ≤ point && point ≤ 122) || isAsciiDigit point || point == 45

def isVariantDigit (point : Nat) : Bool :=
  [56, 57, 97, 98].contains point

/-- `^(?!-)[a-z0-9-]{1,63}(?<!-)$`. -/
def labelPattern : Pattern :=
  [.start, .notAhead 45, .repeated isLabelPoint 1 (some 63), .notBehind 45, .lineEnd]

def uuidItems : Pattern :=
  [.repeated isHexDigit 8 (some 8), .literal (text "-"), .repeated isHexDigit 4 (some 4),
    .literal (text "-4"), .repeated isHexDigit 3 (some 3), .literal (text "-"),
    .repeated isVariantDigit 1 (some 1), .repeated isHexDigit 3 (some 3), .literal (text "-"),
    .repeated isHexDigit 12 (some 12)]

/-- `\A[0-9a-f]{8}-[0-9a-f]{4}-4[0-9a-f]{3}-[89ab][0-9a-f]{3}-[0-9a-f]{12}\Z`. -/
def uuidV4Pattern : Pattern :=
  .start :: (uuidItems ++ [.textEnd])

def isValidAuthority (host : Text) : Bool :=
  if host = [] ∨ host ≠ lower host then false
  else if 58 ∈ host ∨ 47 ∈ host ∨ (text "did:").isPrefixOf host then false
  else if host.getLast? = some 46 ∨ (cut (text "..") host).isSome then false
  else if 253 < host.length then false
  else (host.splitOn 46).all (reMatch labelPattern)

def ctxIdScheme : Text :=
  text "acdp://"

def isConformantCtxId (value : Text) : Bool :=
  if !ctxIdScheme.isPrefixOf value then false
  else
    match cut (text "/") (value.drop ctxIdScheme.length) with
    | none => false
    | some (authority, uuid) => isValidAuthority authority && reMatch uuidV4Pattern uuid

/-! ### The grammar -/

structure IsLabel (label : Text) : Prop where
  nonempty : 1 ≤ label.length
  short : label.length ≤ 63
  points : ∀ point ∈ label, isLabelPoint point = true
  first : label.head? ≠ some 45
  last : label.getLast? ≠ some 45

structure IsAuthority (host : Text) : Prop where
  nonempty : 1 ≤ host.length
  short : host.length ≤ 253
  labels : ∃ labels, labels ≠ [] ∧ host = [46].intercalate labels ∧ ∀ label ∈ labels, IsLabel label

/-- The class of each of the 36 characters. -/
def uuidV4Classes : List (Nat → Bool) :=
  List.replicate 8 isHexDigit ++ [(· == 45)] ++ List.replicate 4 isHexDigit ++
    [(· == 45), (· == 52)] ++ List.replicate 3 isHexDigit ++ [(· == 45), isVariantDigit] ++
    List.replicate 3 isHexDigit ++ [(· == 45)] ++ List.replicate 12 isHexDigit

def IsUuidV4 (given : Text) : Prop :=
  follows uuidV4Classes given = true

def IsCtxId (value : Text) : Prop :=
  ∃ authority uuid, value = ctxIdScheme ++ authority ++ [47] ++ uuid ∧ IsAuthority authority ∧
    IsUuidV4 uuid

/-! ### Labels -/

def LineLabel (label : Text) : Prop :=
  IsLabel label ∨ ∃ plain, IsLabel plain ∧ label = plain ++ [10]

theorem head?_append_of_ne_nil {first rest : Text} (nonempty : first ≠ []) :
    (first ++ rest).head? = first.head? := by
  cases first with
  | nil => exact absurd rfl nonempty
  | cons _ _ => rfl

theorem reMatch_labelPattern_iff (label : Text) :
    reMatch labelPattern label = true ↔ LineLabel label := by
  have stretched : reMatch labelPattern label = true ↔
      ∃ plain behind, label = plain ++ behind ∧ IsLabel plain ∧ (behind = [] ∨ behind = [10]) := by
    unfold labelPattern
    rw [reMatch_iff]
    constructor
    · rintro ⟨final, member⟩
      obtain ⟨_, member⟩ := ends_start_cons.mp member
      obtain ⟨first, member⟩ := ends_notAhead_cons.mp member
      obtain ⟨plain, behind, rfl, points, least, most, member⟩ := ends_repeated_cons.mp member
      obtain ⟨last, member⟩ := ends_notBehind_cons.mp member
      have nonempty : plain ≠ [] := List.ne_nil_of_length_pos least
      rw [head?_append_of_ne_nil nonempty] at first
      rw [List.append_nil, List.head?_reverse] at last
      exact ⟨plain, behind, rfl, ⟨least, most 63 rfl, points, first, last⟩,
        exists_ends_lineEnd.mp ⟨final, member⟩⟩
    · rintro ⟨plain, behind, rfl, isLabel, isEnd⟩
      obtain ⟨final, member⟩ := (@exists_ends_lineEnd (plain.reverse ++ []) behind).mpr isEnd
      have nonempty : plain ≠ [] := List.ne_nil_of_length_pos isLabel.nonempty
      refine ⟨final, ends_start_cons.mpr ⟨rfl, ends_notAhead_cons.mpr ⟨?_, ?_⟩⟩⟩
      · rw [head?_append_of_ne_nil nonempty]
        exact isLabel.first
      · refine ends_repeated_cons.mpr ⟨plain, behind, rfl, isLabel.points, isLabel.nonempty, ?_, ?_⟩
        · intro bound isBound
          cases isBound
          exact isLabel.short
        · refine ends_notBehind_cons.mpr ⟨?_, member⟩
          rw [List.append_nil, List.head?_reverse]
          exact isLabel.last
  rw [stretched]
  constructor
  · rintro ⟨plain, behind, rfl, isLabel, rfl | rfl⟩
    · rw [List.append_nil]
      exact .inl isLabel
    · exact .inr ⟨plain, isLabel, rfl⟩
  · rintro (isLabel | ⟨plain, isLabel, rfl⟩)
    · exact ⟨label, [], (List.append_nil _).symm, isLabel, .inl rfl⟩
    · exact ⟨plain, [10], rfl, isLabel, .inr rfl⟩

theorem isLabelPoint_plain {point : Nat} (inside : isLabelPoint point = true) :
    isPlain point = true ∧ point ≠ 10 ∧ point ≠ 46 ∧ point ≠ 47 ∧ point ≠ 58 := by
  simp only [isLabelPoint, isAsciiDigit, Bool.or_eq_true, Bool.and_eq_true, decide_eq_true_eq,
    beq_iff_eq] at inside
  simp only [isPlain, Bool.and_eq_true, Bool.not_eq_true', decide_eq_true_eq,
    Bool.and_eq_false_iff, decide_eq_false_iff_not]
  omega

theorem LineLabel.nonempty {label : Text} (isLine : LineLabel label) : label ≠ [] := by
  rcases isLine with isLabel | ⟨plain, _, rfl⟩
  · exact List.ne_nil_of_length_pos isLabel.nonempty
  · exact List.append_ne_nil_of_right_ne_nil _ (List.cons_ne_nil _ _)

theorem LineLabel.point {label : Text} (isLine : LineLabel label) {point : Nat}
    (member : point ∈ label) : isLabelPoint point = true ∨ point = 10 := by
  rcases isLine with isLabel | ⟨plain, isLabel, rfl⟩
  · exact .inl (isLabel.points point member)
  · rcases List.mem_append.mp member with inside | newline
    · exact .inl (isLabel.points point inside)
    · exact .inr (List.mem_singleton.mp newline)

/-! ### Authorities -/

theorem intercalate_labels (host : Text) : [46].intercalate (host.splitOn 46) = host :=
  List.intercalate_splitOn 46

theorem mem_of_labels {host : Text} (labels : ∀ label ∈ host.splitOn 46, LineLabel label)
    {point : Nat} (member : point ∈ host) :
    point = 46 ∨ isLabelPoint point = true ∨ point = 10 := by
  rw [← intercalate_labels host] at member
  rcases mem_intercalate member with dot | ⟨label, isLabel, inside⟩
  · exact .inl dot
  · exact .inr ((labels label isLabel).point inside)

/-- Two dots in a row, or one at the end, leave an empty label. -/
theorem empty_label_of_dots {before after : Text} (dotted : after = [] ∨ after.head? = some 46) :
    [] ∈ (before ++ 46 :: after).splitOn 46 := by
  rw [List.splitOn_append_cons_self]
  apply List.mem_append_right
  rcases dotted with rfl | dot
  · rw [List.splitOn_nil]
    exact List.mem_singleton_self _
  · obtain ⟨rest, rfl⟩ : ∃ rest, after = 46 :: rest := by
      cases after with
      | nil => cases dot
      | cons point rest =>
          cases dot
          exact ⟨rest, rfl⟩
    have split := List.splitOn_append_cons_self (a := 46) ([] : Text) rest
    rw [List.nil_append] at split
    rw [split, List.splitOn_nil]
    exact List.mem_cons_self

/-- The tests before the labels follow from them. -/
theorem isValidAuthority_iff (host : Text) :
    isValidAuthority host = true ↔
      host.length ≤ 253 ∧ ∀ label ∈ host.splitOn 46, LineLabel label := by
  constructor
  · intro accepted
    unfold isValidAuthority at accepted
    split_ifs at accepted with empty reserved dots long
    rw [List.all_eq_true] at accepted
    refine ⟨Nat.not_lt.mp long, ?_⟩
    intro label member
    exact (reMatch_labelPattern_iff label).mp (accepted label member)
  · rintro ⟨short, labels⟩
    have noEmpty : [] ∉ host.splitOn 46 := fun member => (labels [] member).nonempty rfl
    have nonempty : host ≠ [] := by
      rintro rfl
      exact noEmpty (by rw [List.splitOn_nil]; exact List.mem_singleton_self _)
    have plain : ∀ point ∈ host, isPlain point = true ∧ point ≠ 47 ∧ point ≠ 58 := by
      intro point member
      rcases mem_of_labels labels member with rfl | inside | rfl
      · decide
      · have facts := isLabelPoint_plain inside
        exact ⟨facts.1, facts.2.2.2⟩
      · decide
    have lowered : lower host = host := lower_plain (fun point member => (plain point member).1)
    have noColon : 58 ∉ host := fun member => (plain 58 member).2.2 rfl
    have noDid : ¬(text "did:").isPrefixOf host = true := by
      intro starts
      obtain ⟨rest, rfl⟩ := List.isPrefixOf_iff_prefix.mp starts
      exact noColon (List.mem_append_left _ (by decide))
    have noDots : ¬(host.getLast? = some 46 ∨ (cut (text "..") host).isSome = true) := by
      rintro (last | doubled)
      · obtain ⟨before, rfl⟩ := List.getLast?_eq_some_iff.mp last
        exact noEmpty (empty_label_of_dots (.inl rfl))
      · obtain ⟨⟨before, after⟩, found⟩ := Option.isSome_iff_exists.mp doubled
        rw [cut_eq_some found, List.append_assoc] at noEmpty
        exact noEmpty (empty_label_of_dots (.inr rfl))
    unfold isValidAuthority
    rw [if_neg (by rw [lowered]; exact not_or.mpr ⟨nonempty, fun differs => differs rfl⟩),
      if_neg (not_or.mpr ⟨noColon, not_or.mpr ⟨fun member => (plain 47 member).2.1 rfl, noDid⟩⟩),
      if_neg noDots, if_neg (Nat.not_lt.mpr short), List.all_eq_true]
    intro label member
    exact (reMatch_labelPattern_iff label).mpr (labels label member)

theorem isAuthority_iff (host : Text) :
    IsAuthority host ↔ host.length ≤ 253 ∧ ∀ label ∈ host.splitOn 46, IsLabel label := by
  constructor
  · rintro ⟨_, short, labels, nonempty, rfl, each⟩
    refine ⟨short, ?_⟩
    have split : ([46].intercalate labels).splitOn 46 = labels := by
      apply List.splitOn_intercalate 46 _ nonempty
      intro label member dot
      exact (isLabelPoint_plain ((each label member).points 46 dot)).2.2.1 rfl
    rw [split]
    exact each
  · rintro ⟨short, each⟩
    have nonempty : host ≠ [] := by
      rintro rfl
      have empty := (each [] (by rw [List.splitOn_nil]; exact List.mem_singleton_self _)).nonempty
      exact absurd empty (by decide)
    exact ⟨List.length_pos_of_ne_nil nonempty, short, host.splitOn 46, List.splitOn_ne_nil _ _,
      (intercalate_labels host).symm, each⟩

/-- Labels with a newline behind at least one of them. -/
structure NewlineLabelled (host : Text) : Prop where
  newline : 10 ∈ host
  short : host.length ≤ 253
  labels : ∀ label ∈ host.splitOn 46, LineLabel label

theorem isValidAuthority_exact_iff (host : Text) :
    (isValidAuthority host = true ↔ IsAuthority host) ↔ ¬NewlineLabelled host := by
  rw [isValidAuthority_iff, isAuthority_iff]
  constructor
  · intro exact_ labelled
    obtain ⟨_, plain⟩ := exact_.mp ⟨labelled.short, labelled.labels⟩
    have newline := labelled.newline
    rw [← intercalate_labels host] at newline
    rcases mem_intercalate newline with dot | ⟨label, isLabel, inside⟩
    · cases dot
    · exact (isLabelPoint_plain ((plain label isLabel).points 10 inside)).2.1 rfl
  · intro unlabelled
    constructor
    · rintro ⟨short, labels⟩
      refine ⟨short, ?_⟩
      intro label member
      rcases labels label member with isLabel | ⟨plain, _, rfl⟩
      · exact isLabel
      · refine absurd ⟨?_, short, labels⟩ unlabelled
        rw [← intercalate_labels host]
        exact mem_intercalate_of_mem member (List.mem_append_right _ (List.mem_singleton_self _))
    · rintro ⟨short, labels⟩
      exact ⟨short, fun label member => .inl (labels label member)⟩

/-! ### Context ids -/

theorem reMatch_uuidV4Pattern_iff (given : Text) :
    reMatch uuidV4Pattern given = true ↔ IsUuidV4 given :=
  @reMatch_fixed uuidItems _ rfl given

theorem slash_not_mem_of_accepted {host : Text} (accepted : isValidAuthority host = true) :
    47 ∉ host := by
  intro member
  rcases mem_of_labels ((isValidAuthority_iff host).mp accepted).2 member with dot | inside | newline
  · cases dot
  · exact (isLabelPoint_plain inside).2.2.2.1 rfl
  · cases newline

theorem isConformantCtxId_iff (value : Text) :
    isConformantCtxId value = true ↔
      ∃ authority uuid, value = ctxIdScheme ++ authority ++ [47] ++ uuid ∧
        isValidAuthority authority = true ∧ IsUuidV4 uuid := by
  constructor
  · intro accepted
    unfold isConformantCtxId at accepted
    split at accepted
    · cases accepted
    · next starts =>
        rw [Bool.not_eq_true', Bool.not_eq_false] at starts
        obtain ⟨rest, rfl⟩ := List.isPrefixOf_iff_prefix.mp starts
        rw [List.drop_left] at accepted
        split at accepted
        · cases accepted
        · next authority uuid found =>
            obtain ⟨valid, isUuid⟩ := Bool.and_eq_true_iff.mp accepted
            refine ⟨authority, uuid, ?_, valid, (reMatch_uuidV4Pattern_iff uuid).mp isUuid⟩
            rw [cut_eq_some found, ← List.append_assoc, ← List.append_assoc]
            rfl
  · rintro ⟨authority, uuid, rfl, valid, isUuid⟩
    have found : cut (text "/") (authority ++ [47] ++ uuid) = some (authority, uuid) :=
      cut_of_head_absent 47 [] uuid (slash_not_mem_of_accepted valid)
    have starts : ctxIdScheme.isPrefixOf (ctxIdScheme ++ (authority ++ [47] ++ uuid)) = true :=
      List.isPrefixOf_iff_prefix.mpr (List.prefix_append _ _)
    unfold isConformantCtxId
    rw [List.append_assoc, List.append_assoc, ← List.append_assoc authority, starts,
      List.drop_left, found]
    simp only [Bool.not_true, Bool.false_eq_true, if_false, valid, Bool.true_and]
    exact (reMatch_uuidV4Pattern_iff uuid).mpr isUuid

/-! ### Exactness -/

structure ExactGrammar (given : Text) : Prop where
  authority : isValidAuthority given = true ↔ IsAuthority given
  ctxId : isConformantCtxId given = true ↔ IsCtxId given

/-- A context id but for newlines behind labels of its authority. -/
def NewlineCtxId (value : Text) : Prop :=
  ∃ authority uuid, value = ctxIdScheme ++ authority ++ [47] ++ uuid ∧ NewlineLabelled authority ∧
    IsUuidV4 uuid

theorem split_unique {first second uuid other : Text} (noSlash : 47 ∉ first)
    (noOther : 47 ∉ second)
    (same : ctxIdScheme ++ first ++ [47] ++ uuid = ctxIdScheme ++ second ++ [47] ++ other) :
    first = second ∧ uuid = other := by
  have found := cut_of_head_absent 47 [] uuid noSlash
  have foundOther := cut_of_head_absent 47 [] other noOther
  simp only [List.append_assoc] at same found foundOther
  rw [List.append_cancel_left same, foundOther] at found
  obtain ⟨sameFirst, sameUuid⟩ := Prod.mk.inj (Option.some.inj found)
  exact ⟨sameFirst.symm, sameUuid.symm⟩

theorem IsAuthority.accepted {host : Text} (isAuthority : IsAuthority host) :
    isValidAuthority host = true := by
  obtain ⟨short, labels⟩ := (isAuthority_iff host).mp isAuthority
  exact (isValidAuthority_iff host).mpr ⟨short, fun label member => .inl (labels label member)⟩

theorem isConformantCtxId_exact_iff (value : Text) :
    (isConformantCtxId value = true ↔ IsCtxId value) ↔ ¬NewlineCtxId value := by
  rw [isConformantCtxId_iff]
  constructor
  · rintro exact_ ⟨authority, uuid, rfl, labelled, isUuid⟩
    have accepted := (isValidAuthority_iff authority).mpr ⟨labelled.short, labelled.labels⟩
    obtain ⟨other, _, same, isAuthority, _⟩ := exact_.mp ⟨authority, uuid, rfl, accepted, isUuid⟩
    have noOther := slash_not_mem_of_accepted isAuthority.accepted
    obtain ⟨rfl, _⟩ := split_unique (slash_not_mem_of_accepted accepted) noOther same
    exact (isValidAuthority_exact_iff authority).mp
      (iff_of_true accepted isAuthority) labelled
  · intro plain
    constructor
    · rintro ⟨authority, uuid, rfl, accepted, isUuid⟩
      have unlabelled : ¬NewlineLabelled authority :=
        fun labelled => plain ⟨authority, uuid, rfl, labelled, isUuid⟩
      exact ⟨authority, uuid, rfl,
        ((isValidAuthority_exact_iff authority).mpr unlabelled).mp accepted, isUuid⟩
    · rintro ⟨authority, uuid, rfl, isAuthority, isUuid⟩
      exact ⟨authority, uuid, rfl, isAuthority.accepted, isUuid⟩

theorem exact_grammar_iff (given : Text) :
    ExactGrammar given ↔ ¬NewlineLabelled given ∧ ¬NewlineCtxId given := by
  rw [← isValidAuthority_exact_iff, ← isConformantCtxId_exact_iff]
  exact ⟨fun grammar => ⟨grammar.authority, grammar.ctxId⟩, fun both => ⟨both.1, both.2⟩⟩

theorem trailing_newline_accepted :
    isValidAuthority (text "registry.example\n") = true ∧
      ¬ExactGrammar (text "registry.example\n") := by
  have accepted : isValidAuthority (text "registry.example\n") = true := by decide +kernel
  refine ⟨accepted, ?_⟩
  intro grammar
  obtain ⟨_, labels⟩ := (isAuthority_iff _).mp (grammar.authority.mp accepted)
  have member : text "example\n" ∈ (text "registry.example\n").splitOn 46 := by decide +kernel
  exact absurd ((labels _ member).points 10 (by decide)) (by decide)

end AcdpPlayground.Client
