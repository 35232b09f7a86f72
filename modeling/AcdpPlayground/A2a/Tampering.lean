/-
The change that an attacker on the path between client and agent makes to a JSON answer:
`tamper_first_text_part`.

A document is changed in place, so a search returns what it did and the document it left
behind. `levels` is what is left of the interpreter's recursion limit when a search starts,
in levels of nesting; which float literals are zero is a parameter. `documentMets` lists what
a search meets in the order of the document: the places of texts, and what it cannot go
through. The search ends at the first of these.
-/

import AcdpPlayground.Foundation.JsonPath

namespace AcdpPlayground.A2a

open PythonText KeyedTable JsonValue JsonPath

inductive TamperError where
  | attributeError
  | typeError
  | recursionError
deriving DecidableEq

/-- `given.replace("mean", "mean (adjusted)", 1) + " [edited]"`. -/
def editedText (given : Text) : Text :=
  (match cut (text "mean") given with
    | some (before, after) => before ++ text "mean (adjusted)" ++ after
    | none => given) ++ text " [edited]"

def tamperPart : Json → Except TamperError Bool × Json
  | .object members =>
      match members.lookup (text "text") with
      | some (.string value) =>
          (.ok true, .object (rewrite members (text "text") (.string (editedText value))))
      | _ => (.ok false, .object members)
  | other => (.error .attributeError, other)

/-- `for element in value or []`. The keys of an object and the characters of a string have
no method `get`, which is the first thing that a visit calls. -/
def searchOrEmpty (isZero : Text → Bool) (visit : Json → Except TamperError Bool × Json)
    (value : Json) : Except TamperError Bool × Json :=
  if value.truthy isZero then
    match value with
    | .array items => (searchEach visit items).map id .array
    | .object _ | .string _ => (.error .attributeError, value)
    | _ => (.error .typeError, value)
  else (.ok false, value)

/-- A search in `members.get(name)`, a value that the object shares with its finder. -/
def inMember (name : String) (visit : Json → Except TamperError Bool × Json)
    (members : List (Text × Json)) : Except TamperError Bool × List (Text × Json) :=
  match members.lookup (text name) with
  | none => (.ok false, members)
  | some value => (visit value).map id (rewrite members (text name))

def tamperArtifact (isZero : Text → Bool) : Json → Except TamperError Bool × Json
  | .object members =>
      (inMember "parts" (searchOrEmpty isZero tamperPart) members).map id .object
  | other => (.error .attributeError, other)

def tamperFirstTextPart (isZero : Text → Bool) : Nat → Json → Except TamperError Bool × Json
  | 0, doc => (.error .recursionError, doc)
  | levels + 1, .object members =>
      match inMember "artifacts" (searchOrEmpty isZero (tamperArtifact isZero)) members with
      | (.ok false, looked) =>
          (searchEach (fun member =>
            (tamperFirstTextPart isZero levels member.2).map id (Prod.mk member.1)) looked).map
              id .object
      | (outcome, looked) => (outcome, .object looked)
  | levels + 1, .array items =>
      (searchEach (tamperFirstTextPart isZero levels) items).map id .array
  | _ + 1, doc => (.ok false, doc)

/-! ### What a search meets -/

/-- The place of a text, or the exception that is raised at a place. -/
abbrev Met :=
  Except TamperError (List PathStep)

def outcomeOf : Option Met → Except TamperError Bool
  | none => .ok false
  | some (.error error) => .error error
  | some (.ok _) => .ok true

def under (step : PathStep) (mets : List Met) : List Met :=
  mets.map (Except.map (List.cons step))

def itemMets (mets : Json → List Met) (items : List Json) : List Met :=
  items.zipIdx.flatMap (fun item => under (.index item.2) (mets item.1))

def partMets : Json → List Met
  | .object members =>
      match members.lookup (text "text") with
      | some (.string _) => [.ok [.member (text "text")]]
      | _ => []
  | _ => [.error .attributeError]

def orEmptyMets (isZero : Text → Bool) (mets : Json → List Met) (value : Json) : List Met :=
  if value.truthy isZero then
    match value with
    | .array items => itemMets mets items
    | .object _ | .string _ => [.error .attributeError]
    | _ => [.error .typeError]
  else []

def memberMets (name : String) (mets : Json → List Met) (members : List (Text × Json)) :
    List Met :=
  match members.lookup (text name) with
  | none => []
  | some value => under (.member (text name)) (mets value)

def artifactMets (isZero : Text → Bool) : Json → List Met
  | .object members => memberMets "parts" (orEmptyMets isZero partMets) members
  | _ => [.error .attributeError]

/-- The artifacts of an object come before its members. -/
def documentMets (isZero : Text → Bool) : Nat → Json → List Met
  | 0, _ => [.error .recursionError]
  | levels + 1, .object members =>
      memberMets "artifacts" (orEmptyMets isZero (artifactMets isZero)) members ++
        members.flatMap (fun member =>
          under (.member member.1) (documentMets isZero levels member.2))
  | levels + 1, .array items => itemMets (documentMets isZero levels) items
  | _ + 1, _ => []

example : (documentMets (fun _ => false) 3
    (.object [(text "artifacts", .array [.integer 1])])).head? = some (.error .attributeError) :=
  rfl

theorem outcomeOf_map (step : PathStep) (met : Option Met) :
    outcomeOf (met.map (Except.map (List.cons step))) = outcomeOf met := by
  rcases met with _ | _ | _ <;> rfl

theorem outcomeOf_eq_false {mets : List Met} (quiet : outcomeOf mets.head? = .ok false) :
    mets = [] := by
  cases mets with
  | nil => rfl
  | cons met rest => cases met <;> cases quiet

theorem outcomeOf_ne_false {mets : List Met} (stopped : outcomeOf mets.head? ≠ .ok false) :
    ∃ met, mets.head? = some met := by
  cases mets with
  | nil => exact (stopped rfl).elim
  | cons met rest => exact ⟨met, rfl⟩

theorem under_head? (step : PathStep) (mets : List Met) :
    (under step mets).head? = mets.head?.map (Except.map (List.cons step)) :=
  List.head?_map

theorem under_eq_some {step : PathStep} {met : Option Met} {path : List PathStep}
    (found : met.map (Except.map (List.cons step)) = some (.ok path)) :
    ∃ rest, met = some (.ok rest) ∧ path = step :: rest := by
  rcases met with _ | _ | rest
  · cases found
  · cases found
  · exact ⟨rest, rfl, (Except.ok.inj (Option.some.inj found)).symm⟩

theorem head?_flatMap_stop {Element : Type} {mets : Element → List Met}
    {before after : List Element} {element : Element} {met : Met}
    (earlier : ∀ other ∈ before, mets other = []) (here : (mets element).head? = some met) :
    ((before ++ element :: after).flatMap mets).head? = some met := by
  rw [List.flatMap_append, List.flatMap_eq_nil_iff.mpr earlier, List.nil_append,
    List.flatMap_cons, List.head?_append, here]
  rfl

theorem itemMets_nil {mets : Json → List Met} {items : List Json}
    (quiet : ∀ item ∈ items, mets item = []) : itemMets mets items = [] := by
  refine List.flatMap_eq_nil_iff.mpr (fun item listed => ?_)
  rw [quiet item.1 (List.fst_mem_of_mem_zipIdx listed)]
  rfl

theorem itemMets_stop {mets : Json → List Met} {before after : List Json} {item : Json}
    {met : Met} (earlier : ∀ other ∈ before, mets other = [])
    (here : (mets item).head? = some met) :
    (itemMets mets (before ++ item :: after)).head? =
      some (Except.map (List.cons (.index before.length)) met) := by
  unfold itemMets
  rw [List.zipIdx_append, List.zipIdx_cons, Nat.zero_add]
  refine head?_flatMap_stop ?_ ?_
  · intro other listed
    rw [earlier other.1 (List.fst_mem_of_mem_zipIdx listed)]
    rfl
  · rw [under_head?, here]
    rfl

/-! ### What a search does -/

/-- The outcome of a search for a text at one of the places: it ends at the first that is met,
with a change there or with an exception; only a change leaves another document. -/
structure Searches (places : List PathStep → Prop) (mets : List Met) (doc : Json)
    (result : Except TamperError Bool × Json) : Prop where
  careful : Careful doc result
  first : result.1 = outcomeOf mets.head?
  changed : ∀ path, mets.head? = some (.ok path) → places path ∧ ∃ value,
    ChangedAt path doc result.2 (.string value) (.string (editedText value))
  missed : mets = [] → ∀ path value, places path → valueAt doc path ≠ some (.string value)

theorem searches_of_error (places : List PathStep → Prop) (doc : Json) (error : TamperError) :
    Searches places [.error error] doc (.error error, doc) where
  careful := fun _ => rfl
  first := rfl
  changed := fun _ impossible => nomatch impossible
  missed := fun impossible => nomatch impossible

theorem searches_of_nowhere {places : List PathStep → Prop} {doc : Json}
    (nowhere : ∀ path value, places path → valueAt doc path ≠ some (.string value)) :
    Searches places [] doc (.ok false, doc) where
  careful := fun _ => rfl
  first := rfl
  changed := fun _ impossible => nomatch impossible
  missed := fun _ => nowhere

theorem Searches.quiet {places : List PathStep → Prop} {mets : List Met} {doc : Json}
    {result : Except TamperError Bool × Json} (searches : Searches places mets doc result)
    (ended : result.1 = .ok false) : mets = [] :=
  outcomeOf_eq_false (searches.first.symm.trans ended)

theorem Searches.stops {places : List PathStep → Prop} {mets : List Met} {doc : Json}
    {result : Except TamperError Bool × Json} (searches : Searches places mets doc result)
    (stopped : result.1 ≠ .ok false) : ∃ met, mets.head? = some met :=
  outcomeOf_ne_false (fun quiet => stopped (searches.first.trans quiet))

def UnderItem (places : List PathStep → Prop) (path : List PathStep) : Prop :=
  ∃ position rest, path = .index position :: rest ∧ places rest

def UnderMember (name : Text) (places : List PathStep → Prop) (path : List PathStep) : Prop :=
  ∃ rest, path = .member name :: rest ∧ places rest

theorem searchEach_items {places : List PathStep → Prop} {mets : Json → List Met}
    {visit : Json → Except TamperError Bool × Json} {items : List Json}
    (each : ∀ item ∈ items, Searches places (mets item) item (visit item)) :
    Searches (UnderItem places) (itemMets mets items) (.array items)
      ((searchEach visit items).map id .array) := by
  rcases searchEach_stops (fun item member => (each item member).careful) with
    ⟨all, ended⟩ | ⟨before, item, after, rfl, earlier, stopped, ended⟩
  · have quiet : ∀ item ∈ items, mets item = [] :=
      fun item member => (each item member).quiet (all item member)
    rw [ended, itemMets_nil quiet]
    refine searches_of_nowhere ?_
    rintro _ value ⟨position, rest, rfl, place⟩ found
    simp only [valueAt, Option.bind_eq_some_iff] at found
    obtain ⟨item, here, found⟩ := found
    have member := List.mem_of_getElem? here
    exact (each item member).missed (quiet item member) rest value place found
  · have inside := each item (by simp)
    obtain ⟨met, here⟩ := inside.stops stopped
    have quiet : ∀ other ∈ before, mets other = [] :=
      fun other member => (each other (by simp [member])).quiet (earlier other member)
    have first := @itemMets_stop mets before after item met quiet here
    constructor
    · intro unchanged
      rw [ended] at unchanged ⊢
      exact congrArg (fun same => Json.array (before ++ same :: after)) (inside.careful unchanged)
    · rw [ended, first, Prod.map_fst, id_eq, inside.first, here, ← outcomeOf_map]
      rfl
    · intro path found
      rw [first] at found
      obtain ⟨rest, isMet, rfl⟩ := @under_eq_some _ (some met) path found
      obtain ⟨place, value, change⟩ := inside.changed rest (here.trans isMet)
      refine ⟨⟨before.length, rest, rfl, place⟩, value, ?_⟩
      rw [ended]
      exact change.item
    · intro none
      rw [none] at first
      cases first

theorem searchOrEmpty_searches {places : List PathStep → Prop} {isZero : Text → Bool}
    {mets : Json → List Met} {visit : Json → Except TamperError Bool × Json} {value : Json}
    (each : ∀ items, value = .array items → ∀ item ∈ items,
      Searches places (mets item) item (visit item)) :
    Searches (UnderItem places) (orEmptyMets isZero mets value) value
      (searchOrEmpty isZero visit value) := by
  unfold searchOrEmpty orEmptyMets
  cases filled : value.truthy isZero with
  | true =>
      rw [if_pos rfl, if_pos rfl]
      cases value with
      | array items => exact searchEach_items (each items rfl)
      | object _ | string _ | null | boolean _ | integer _ | float _ =>
          exact searches_of_error _ _ _
  | false =>
      rw [if_neg Bool.false_ne_true, if_neg Bool.false_ne_true]
      refine searches_of_nowhere ?_
      rintro _ found ⟨position, rest, rfl, _⟩ at_
      cases value with
      | array items =>
          have none : items = [] := by simpa [Json.truthy] using filled
          simp [valueAt, none] at at_
      | object _ | string _ | null | boolean _ | integer _ | float _ => simp [valueAt] at at_

theorem inMember_searches {places : List PathStep → Prop} {name : String}
    {mets : Json → List Met} {visit : Json → Except TamperError Bool × Json}
    {members : List (Text × Json)} (distinct : (keys members).Nodup)
    (searches : ∀ value, members.lookup (text name) = some value →
      Searches places (mets value) value (visit value)) :
    Searches (UnderMember (text name) places) (memberMets name mets members) (.object members)
      ((inMember name visit members).map id .object) := by
  unfold inMember memberMets
  cases held : members.lookup (text name) with
  | none =>
      refine searches_of_nowhere ?_
      rintro _ value ⟨rest, rfl, _⟩ found
      simp [valueAt, held] at found
  | some value =>
      have inside := searches value held
      constructor
      · intro unchanged
        have same : (visit value).2 = value := inside.careful unchanged
        simp only [Prod.map, same]
        rw [rewrite_held distinct held]
      · rw [under_head?, outcomeOf_map]
        exact inside.first
      · intro path found
        rw [under_head?] at found
        obtain ⟨rest, isMet, rfl⟩ := under_eq_some found
        obtain ⟨place, old, change⟩ := inside.changed rest isMet
        exact ⟨⟨rest, rfl, place⟩, old, change.member held⟩
      · rintro none _ old ⟨rest, rfl, place⟩ found
        simp only [valueAt, held, Option.bind_some] at found
        exact inside.missed (List.map_eq_nil_iff.mp none) rest old place found

theorem tamperPart_searches {part : Json} :
    Searches (· = [.member (text "text")]) (partMets part) part (tamperPart part) := by
  cases part with
  | object members =>
      cases held : members.lookup (text "text") with
      | some found =>
          cases found with
          | string value =>
              simp only [tamperPart, partMets, held]
              refine ⟨fun unchanged => (unchanged rfl).elim, rfl, ?_,
                fun impossible => nomatch impossible⟩
              rintro _ ⟨⟩
              exact ⟨rfl, value, (ChangedAt.string value (editedText value)).member held⟩
          | null | boolean _ | integer _ | float _ | array _ | object _ =>
              simp only [tamperPart, partMets, held]
              refine searches_of_nowhere ?_
              rintro _ value rfl there
              simp [valueAt, held] at there
      | none =>
          simp only [tamperPart, partMets, held]
          refine searches_of_nowhere ?_
          rintro _ value rfl there
          simp [valueAt, held] at there
  | null | boolean _ | integer _ | float _ | string _ | array _ =>
      exact searches_of_error _ _ _

theorem tamperArtifact_searches {isZero : Text → Bool} {artifact : Json}
    (named : WellNamed artifact) :
    Searches (UnderMember (text "parts") (UnderItem (· = [.member (text "text")])))
      (artifactMets isZero artifact) artifact (tamperArtifact isZero artifact) := by
  cases named with
  | object distinct each =>
      unfold tamperArtifact
      exact inMember_searches distinct (fun value _ =>
        searchOrEmpty_searches (fun items _ item _ => tamperPart_searches))
  | null | boolean _ | integer _ | float _ | string _ | array _ => exact searches_of_error _ _ _

def UnderMembers (places : List PathStep → Prop) (path : List PathStep) : Prop :=
  ∃ name, UnderMember name places path

theorem searchEach_members {places : List PathStep → Prop} {mets : Json → List Met}
    {visit : Json → Except TamperError Bool × Json} {members : List (Text × Json)}
    (distinct : (keys members).Nodup)
    (each : ∀ member ∈ members, Searches places (mets member.2) member.2 (visit member.2)) :
    Searches (UnderMembers places)
      (members.flatMap (fun member => under (.member member.1) (mets member.2))) (.object members)
      ((searchEach (fun member => (visit member.2).map id (Prod.mk member.1)) members).map
        id .object) := by
  have careful : ∀ member ∈ members,
      Careful member ((visit member.2).map id (Prod.mk member.1)) := by
    intro member listed unchanged
    exact Prod.ext rfl ((each member listed).careful unchanged)
  rcases searchEach_stops careful with
    ⟨all, ended⟩ | ⟨before, ⟨name, value⟩, after, rfl, earlier, stopped, ended⟩
  · have quiet : ∀ member ∈ members, mets member.2 = [] :=
      fun member listed => (each member listed).quiet (all member listed)
    have none : members.flatMap (fun member => under (.member member.1) (mets member.2)) = [] := by
      refine List.flatMap_eq_nil_iff.mpr (fun member listed => ?_)
      rw [quiet member listed]
      rfl
    rw [ended, none]
    refine searches_of_nowhere ?_
    rintro _ old ⟨name, rest, rfl, place⟩ found
    simp only [valueAt, Option.bind_eq_some_iff] at found
    obtain ⟨value, held, found⟩ := found
    have listed := (mem_iff_lookup distinct name value).mpr held
    exact (each _ listed).missed (quiet _ listed) rest old place found
  · have listed : (name, value) ∈ before ++ (name, value) :: after := by simp
    have inside := each _ listed
    obtain ⟨met, here⟩ := inside.stops stopped
    have first : ((before ++ (name, value) :: after).flatMap (fun member =>
        under (.member member.1) (mets member.2))).head? =
          some (Except.map (List.cons (.member name)) met) := by
      refine head?_flatMap_stop (fun other member => ?_) ?_
      · rw [(each other (by simp [member])).quiet (earlier other member)]
        rfl
      · rw [under_head?, here]
        rfl
    constructor
    · intro unchanged
      rw [ended] at unchanged ⊢
      exact congrArg (fun same => Json.object (before ++ (name, same) :: after))
        (inside.careful unchanged)
    · rw [ended, first, Prod.map_fst, id_eq, Prod.map_fst, id_eq, inside.first, here,
        ← outcomeOf_map]
      rfl
    · intro path found
      rw [first] at found
      obtain ⟨rest, isMet, rfl⟩ := @under_eq_some _ (some met) path found
      obtain ⟨place, old, change⟩ := inside.changed rest (here.trans isMet)
      refine ⟨⟨name, rest, rfl, place⟩, old, ?_⟩
      have held := (mem_iff_lookup distinct name value).mp listed
      rw [ended]
      have rewritten := congrArg Json.object (rewrite_split distinct (visit value).2).symm
      rw [Prod.map_snd]
      change ChangedAt _ _ (Json.object (before ++ (name, (visit value).2) :: after)) _ _
      rw [rewritten]
      exact change.member held
    · intro none
      rw [none] at first
      cases first

/-- The places of the texts in the artifacts of one object. -/
def OwnPart (path : List PathStep) : Prop :=
  ∃ artifact part, path = [.member (text "artifacts"), .index artifact, .member (text "parts"),
    .index part, .member (text "text")]

/-- The places of the texts in the artifacts of any object of the document. -/
def AnyPart (path : List PathStep) : Prop :=
  ∃ outer own, path = outer ++ own ∧ OwnPart own

theorem ownPart_iff (path : List PathStep) :
    UnderMember (text "artifacts") (UnderItem (UnderMember (text "parts")
      (UnderItem (· = [.member (text "text")])))) path ↔ OwnPart path := by
  constructor
  · rintro ⟨_, rfl, artifact, _, rfl, _, rfl, part, _, rfl, rfl⟩
    exact ⟨artifact, part, rfl⟩
  · rintro ⟨artifact, part, rfl⟩
    exact ⟨_, rfl, artifact, _, rfl, _, rfl, part, _, rfl, rfl⟩

theorem anyPart_iff (path : List PathStep) :
    AnyPart path ↔ OwnPart path ∨ ∃ step rest, path = step :: rest ∧ AnyPart rest := by
  constructor
  · rintro ⟨outer, own, rfl, isOwn⟩
    cases outer with
    | nil => exact .inl isOwn
    | cons step outer => exact .inr ⟨step, outer ++ own, rfl, outer, own, rfl, isOwn⟩
  · rintro (isOwn | ⟨step, rest, rfl, outer, own, rfl, isOwn⟩)
    · exact ⟨[], path, rfl, isOwn⟩
    · exact ⟨step :: outer, own, rfl, isOwn⟩

theorem not_anyPart_nil : ¬AnyPart [] := by
  rintro ⟨outer, own, whole, artifact, part, rfl⟩
  simp at whole

theorem Searches.mono {few many : List PathStep → Prop} {mets : List Met} {doc : Json}
    {result : Except TamperError Bool × Json} (searches : Searches few mets doc result)
    (included : ∀ path, few path → many path)
    (missed : mets = [] →
      ∀ path value, many path → valueAt doc path ≠ some (.string value)) :
    Searches many mets doc result where
  careful := searches.careful
  first := searches.first
  changed := by
    intro path found
    obtain ⟨place, change⟩ := searches.changed path found
    exact ⟨included path place, change⟩
  missed := missed

theorem valueAt_anyPart_scalar {doc : Json}
    (scalar : ∀ step rest, valueAt doc (step :: rest) = none) (path : List PathStep) (value : Text) (place : AnyPart path) :
    valueAt doc path ≠ some (.string value) := by
  cases path with
  | nil => exact (not_anyPart_nil place).elim
  | cons step rest =>
      rw [scalar]
      nofun

theorem tamperArtifacts_searches {members : List (Text × Json)}
    (named : WellNamed (.object members)) (isZero : Text → Bool) :
    Searches OwnPart (memberMets "artifacts" (orEmptyMets isZero (artifactMets isZero)) members)
      (.object members)
      ((inMember "artifacts" (searchOrEmpty isZero (tamperArtifact isZero)) members).map
        id .object) := by
  have own : Searches (UnderMember (text "artifacts") (UnderItem (UnderMember (text "parts")
      (UnderItem (· = [.member (text "text")])))))
      (memberMets "artifacts" (orEmptyMets isZero (artifactMets isZero)) members)
      (.object members)
      ((inMember "artifacts" (searchOrEmpty isZero (tamperArtifact isZero)) members).map
        id .object) := by
    refine inMember_searches named.distinct (fun value held => ?_)
    refine searchOrEmpty_searches (fun items isArray item member => ?_)
    have inside := named.held held
    rw [isArray] at inside
    exact tamperArtifact_searches (inside.item member)
  refine own.mono (fun path place => (ownPart_iff path).mp place) ?_
  intro none path value place
  exact own.missed none path value ((ownPart_iff path).mpr place)

/-- By induction on the recursion that is left. -/
theorem tamperFirstTextPart_searches (isZero : Text → Bool) (levels : Nat) {doc : Json}
    (named : WellNamed doc) :
    Searches AnyPart (documentMets isZero levels doc) doc
      (tamperFirstTextPart isZero levels doc) := by
  induction levels generalizing doc with
  | zero => exact searches_of_error _ _ _
  | succ levels ih =>
      cases doc with
      | object members =>
          have own := tamperArtifacts_searches named isZero
          unfold tamperFirstTextPart documentMets
          split
          · next looked seen =>
              rw [seen] at own
              have none := own.quiet rfl
              have same : looked = members := Json.object.inj (own.careful (by simp))
              rw [same, none, List.nil_append]
              have each : ∀ member ∈ members,
                  Searches AnyPart (documentMets isZero levels member.2) member.2
                    (tamperFirstTextPart isZero levels member.2) := by
                intro member listed
                exact ih (named.held ((mem_iff_lookup named.distinct _ _).mp listed))
              have inner := searchEach_members named.distinct each
              refine inner.mono ?_ ?_
              · rintro path ⟨name, rest, rfl, place⟩
                exact (anyPart_iff _).mpr (.inr ⟨_, rest, rfl, place⟩)
              · intro quiet path value place
                rcases (anyPart_iff path).mp place with isOwn | ⟨step, rest, rfl, inside⟩
                · exact own.missed none path value isOwn
                · cases step with
                  | member name =>
                      exact inner.missed quiet _ value ⟨name, rest, rfl, inside⟩
                  | index position => simp [valueAt]
          · next outcome looked different seen =>
              rw [seen] at own
              obtain ⟨met, here⟩ := own.stops different
              have first : (memberMets "artifacts" (orEmptyMets isZero (artifactMets isZero))
                  members ++ members.flatMap (fun member =>
                    under (.member member.1) (documentMets isZero levels member.2))).head? =
                  some met := by
                rw [List.head?_append, here]
                rfl
              refine ⟨own.careful, ?_, ?_, ?_⟩
              · rw [first, ← here]
                exact own.first
              · intro path found
                have isOwn := own.changed path (by rw [here, ← first]; exact found)
                exact ⟨(anyPart_iff path).mpr (.inl isOwn.1), isOwn.2⟩
              · intro none
                rw [none] at first
                cases first
      | array items =>
          unfold tamperFirstTextPart documentMets
          have each : ∀ item ∈ items, Searches AnyPart (documentMets isZero levels item) item
              (tamperFirstTextPart isZero levels item) :=
            fun item member => ih (named.item member)
          have inner := searchEach_items each
          refine inner.mono ?_ ?_
          · rintro path ⟨position, rest, rfl, place⟩
            exact (anyPart_iff _).mpr (.inr ⟨_, rest, rfl, place⟩)
          · intro quiet path value place
            rcases (anyPart_iff path).mp place with ⟨_, _, rfl⟩ | ⟨step, rest, rfl, inside⟩
            · simp [valueAt]
            · cases step with
              | index position =>
                  exact inner.missed quiet _ value ⟨position, rest, rfl, inside⟩
              | member name => simp [valueAt]
      | null | boolean _ | integer _ | float _ | string _ =>
          exact searches_of_nowhere (valueAt_anyPart_scalar (fun step _ => by cases step <;> rfl))

end AcdpPlayground.A2a
