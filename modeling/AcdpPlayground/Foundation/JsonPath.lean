/-
Places in a decoded JSON value, and changes at one place. A loop that stops at the first
element it changes is `searchEach`; the value of a place is read by `valueAt`.
-/

import AcdpPlayground.Foundation.TextEncoding

namespace AcdpPlayground.JsonPath

open PythonText KeyedTable JsonValue JsonText TextEncoding

/-! ### A loop that stops at a change -/

section Search

variable {Failure Element : Type}

/-- `for x in xs: if visit(x): return True`, then `return False`; the elements are changed
in place and an exception leaves the loop. -/
def searchEach (visit : Element → Except Failure Bool × Element) :
    List Element → Except Failure Bool × List Element
  | [] => (.ok false, [])
  | element :: rest =>
      match visit element with
      | (.ok false, looked) => (searchEach visit rest).map id (List.cons looked)
      | (outcome, looked) => (outcome, looked :: rest)

/-- Only `return True` stands for a change. -/
def Careful {Whole : Type} (whole : Whole) (result : Except Failure Bool × Whole) : Prop :=
  result.1 ≠ .ok true → result.2 = whole

/-- The loop comes to its end, or stops at the first element whose visit is no
`return False`. -/
theorem searchEach_stops {visit : Element → Except Failure Bool × Element}
    {elements : List Element} (careful : ∀ element ∈ elements, Careful element (visit element)) :
    (∀ element ∈ elements, (visit element).1 = .ok false) ∧
        searchEach visit elements = (.ok false, elements) ∨
      ∃ before element after, elements = before ++ element :: after ∧
        (∀ other ∈ before, (visit other).1 = .ok false) ∧ (visit element).1 ≠ .ok false ∧
        searchEach visit elements = ((visit element).1, before ++ (visit element).2 :: after) := by
  induction elements with
  | nil => exact .inl ⟨fun _ member => (List.not_mem_nil member).elim, rfl⟩
  | cons element rest ih =>
      have here := careful element List.mem_cons_self
      have later := ih (fun other member => careful other (List.mem_cons_of_mem _ member))
      unfold searchEach
      split
      · next looked seen =>
          rw [seen] at here
          have same : looked = element := here (by simp)
          have quiet : (visit element).1 = .ok false := by rw [seen]
          rcases later with ⟨all, ended⟩ | ⟨before, found, after, whole, earlier, stopped, ended⟩
          · refine .inl ⟨List.forall_mem_cons.mpr ⟨quiet, all⟩, ?_⟩
            rw [ended, same]
            rfl
          · refine .inr ⟨element :: before, found, after, by rw [whole]; rfl,
              List.forall_mem_cons.mpr ⟨quiet, earlier⟩, stopped, ?_⟩
            rw [ended, same]
            rfl
      · next outcome looked different seen =>
          refine .inr ⟨[], element, rest, rfl, fun _ member => (List.not_mem_nil member).elim, ?_, ?_⟩
          · rw [seen]
            exact different
          · rw [seen]
            rfl

end Search

/-! ### Places -/

inductive PathStep where
  | member (name : Text)
  | index (position : Nat)
deriving DecidableEq

def valueAt : Json → List PathStep → Option Json
  | value, [] => some value
  | .object members, .member name :: rest =>
      (members.lookup name).bind (fun child => valueAt child rest)
  | .array items, .index position :: rest =>
      items[position]?.bind (fun child => valueAt child rest)
  | _, _ :: _ => none

/-- The value at `path` is another one, and nothing else is. -/
structure ChangedAt (path : List PathStep) (before after : Json) (old new : Json) : Prop where
  was : valueAt before path = some old
  isNow : valueAt after path = some new
  others : ∀ other, ¬other <+: path → valueAt after other = valueAt before other

theorem ChangedAt.string (old new : Text) :
    ChangedAt [] (.string old) (.string new) (.string old) (.string new) where
  was := rfl
  isNow := rfl
  others := by
    intro other apart
    cases other with
    | nil => exact (apart (List.nil_prefix)).elim
    | cons step rest => cases step <;> rfl

theorem ChangedAt.member {members : List (Text × Json)} {name : Text} {child changed : Json}
    {path : List PathStep} {old new : Json} (held : members.lookup name = some child)
    (change : ChangedAt path child changed old new) :
    ChangedAt (.member name :: path) (.object members) (.object (rewrite members name changed))
      old new := by
  have present : members.any (fun entry => entry.1 == name) = true := by
    by_contra absent
    rw [lookup_eq_none_of_not_mem (not_mem_keys_of_any (Bool.eq_false_iff.mpr absent))] at held
    cases held
  have found := lookup_rewrite_self changed present
  constructor
  · simp only [valueAt, held, Option.bind_some]
    exact change.was
  · simp only [valueAt, found, Option.bind_some]
    exact change.isNow
  · intro other apart
    cases other with
    | nil => exact (apart List.nil_prefix).elim
    | cons step rest =>
        cases step with
        | index position => rfl
        | member asked =>
            simp only [valueAt]
            by_cases same : asked = name
            · subst same
              rw [found, held]
              refine change.others rest (fun within => apart ?_)
              exact List.cons_prefix_cons.mpr ⟨rfl, within⟩
            · rw [lookup_rewrite_ne same]

theorem ChangedAt.item {before after : List Json} {child changed : Json}
    {path : List PathStep} {old new : Json} (change : ChangedAt path child changed old new) :
    ChangedAt (.index before.length :: path) (.array (before ++ child :: after))
      (.array (before ++ changed :: after)) old new := by
  constructor
  · simp only [valueAt, List.getElem?_append_right (Nat.le_refl _), Nat.sub_self,
      List.getElem?_cons_zero, Option.bind_some]
    exact change.was
  · simp only [valueAt, List.getElem?_append_right (Nat.le_refl _), Nat.sub_self,
      List.getElem?_cons_zero, Option.bind_some]
    exact change.isNow
  · intro other apart
    cases other with
    | nil => exact (apart List.nil_prefix).elim
    | cons step rest =>
        cases step with
        | member asked => rfl
        | index position =>
            simp only [valueAt]
            rcases Nat.lt_trichotomy position before.length with early | rfl | late
            · rw [List.getElem?_append_left early, List.getElem?_append_left early]
            · rw [List.getElem?_append_right (Nat.le_refl _),
                List.getElem?_append_right (Nat.le_refl _), Nat.sub_self,
                List.getElem?_cons_zero, List.getElem?_cons_zero]
              refine change.others rest (fun within => apart ?_)
              exact List.cons_prefix_cons.mpr ⟨rfl, within⟩
            · obtain ⟨offset, rfl⟩ := Nat.exists_eq_add_of_lt late
              rw [List.getElem?_append_right (by omega), List.getElem?_append_right (by omega)]
              have offsets : before.length + offset + 1 - before.length = offset + 1 := by omega
              rw [offsets, List.getElem?_cons_succ, List.getElem?_cons_succ]

/-! ### Objects that name their members once -/

inductive WellNamed : Json → Prop where
  | null : WellNamed .null
  | boolean (value : Bool) : WellNamed (.boolean value)
  | integer (value : Int) : WellNamed (.integer value)
  | float (literal : Text) : WellNamed (.float literal)
  | string (value : Text) : WellNamed (.string value)
  | array {items : List Json} (each : ∀ item ∈ items, WellNamed item) : WellNamed (.array items)
  | object {members : List (Text × Json)} (distinct : (keys members).Nodup)
      (each : ∀ member ∈ members, WellNamed member.2) : WellNamed (.object members)

theorem WellNamed.distinct {members : List (Text × Json)} (named : WellNamed (.object members)) :
    (keys members).Nodup := by
  cases named with
  | object distinct _ => exact distinct

theorem WellNamed.held {members : List (Text × Json)} (named : WellNamed (.object members))
    {name : Text} {value : Json} (found : members.lookup name = some value) :
    WellNamed value := by
  cases named with
  | object distinct each =>
      exact each (name, value) ((mem_iff_lookup distinct name value).mpr found)

theorem WellNamed.item {items : List Json} (named : WellNamed (.array items)) {item : Json}
    (member : item ∈ items) : WellNamed item := by
  cases named with
  | array each => exact each item member

theorem mem_seriesOf {Element : Type} {close : Nat}
    {element : Text → Text → Element → List Text → Prop} {given rest : Text}
    {values : List Element} {integers : List Text}
    (listed : SeriesOf close element given rest values integers) :
    ∀ value ∈ values, ∃ start after digits, element start after value digits := by
  induction listed with
  | last first _ =>
      intro value member
      rw [List.mem_singleton.mp member]
      exact ⟨_, _, _, first⟩
  | more first _ _ _ ih =>
      intro value member
      rcases List.mem_cons.mp member with rfl | later
      · exact ⟨_, _, _, first⟩
      · exact ih value later

theorem scalarOf_wellNamed {constants : Bool} {given rest : Text} {value : Json}
    {integers : List Text} (said : ScalarOf constants given rest value integers) :
    WellNamed value := by
  cases said with
  | nullWord => exact .null
  | trueWord => exact .boolean true
  | falseWord => exact .boolean false
  | constant => exact .float _
  | number isNumber =>
      cases isNumber with
      | integer _ | negative _ => exact .integer _
      | float _ _ _ _ | negativeFloat _ _ _ _ => exact .float _
  | string _ => exact .string _

theorem valueOf_wellNamed {constants : Bool} {nesting : Nat} {given rest : Text} {value : Json}
    {integers : List Text} (said : ValueOf constants nesting given rest value integers) :
    WellNamed value := by
  induction nesting generalizing given rest value integers with
  | zero => exact scalarOf_wellNamed said
  | succ nesting ih =>
      rcases said with scalar | container
      · exact scalarOf_wellNamed scalar
      · cases container with
        | emptyArray _ => exact .array (fun _ member => (List.not_mem_nil member).elim)
        | array _ listed =>
            refine .array (fun item member => ?_)
            obtain ⟨_, _, _, held⟩ := mem_seriesOf listed item member
            exact ih held
        | emptyObject _ =>
            exact .object List.nodup_nil (fun _ member => (List.not_mem_nil member).elim)
        | @object _ _ _ members _ _ listed =>
            refine .object (keys_foldl_insert_nodup _ List.nodup_nil) (fun member kept => ?_)
            have written := (mem_foldl_insert kept).resolve_left List.not_mem_nil
            obtain ⟨_, _, _, named⟩ := mem_seriesOf listed member written
            cases named with
            | named _ _ _ held => exact ih held

theorem loads_wellNamed {depth : Nat} {body : Bytes} {value : Json}
    (loaded : loads depth body = .ok value) : WellNamed value := by
  unfold loads at loaded
  split at loaded
  · cases loaded
  · next given _ =>
      cases decoded : decode depth given with
      | error failure =>
          rw [decoded] at loaded
          cases loaded
      | ok held =>
          rw [decoded] at loaded
          cases loaded
          obtain ⟨integers, start, after, _, said, _⟩ := decode_says decoded
          exact valueOf_wellNamed said

end AcdpPlayground.JsonPath
