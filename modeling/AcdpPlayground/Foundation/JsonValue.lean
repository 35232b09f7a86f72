/-
Decoded JSON values as Python holds them. A float is kept by its literal; integers are
unbounded. Objects list their members in order and a lookup finds the first of a name, so
a decoded object, whose names are distinct, is the special case that the decoder builds.
-/

import AcdpPlayground.Foundation.KeyedTable
import AcdpPlayground.Foundation.PythonText

namespace AcdpPlayground.JsonValue

open PythonText KeyedTable

inductive Json where
  | null
  | boolean (value : Bool)
  | integer (value : Int)
  | float (literal : Text)
  | string (value : Text)
  | array (items : List Json)
  | object (members : List (Text × Json))

namespace Json

/-- `value.get(name)` of an object; no other value has members. -/
def get? : Json → String → Option Json
  | .object members, name => members.lookup (text name)
  | _, _ => none

def typeName : Json → String
  | .null => "NoneType"
  | .boolean _ => "bool"
  | .integer _ => "int"
  | .float _ => "float"
  | .string _ => "str"
  | .array _ => "list"
  | .object _ => "dict"

/-- What `for x in value` runs over, when it runs at all. -/
def iterated : Json → Option (List Json)
  | .array items => some items
  | .object members => some (members.map (fun member => .string member.1))
  | .string value => some (value.map (fun point => .string [point]))
  | _ => none

/-- `bool(value)`; which float literals are 0.0 is a parameter. -/
def truthy (isZero : Text → Bool) : Json → Bool
  | .null => false
  | .boolean value => value
  | .integer value => value ≠ 0
  | .float literal => !isZero literal
  | .string value => value ≠ []
  | .array items => !items.isEmpty
  | .object members => !members.isEmpty

mutual

/-- Equal values. The members of an object count in any order. -/
inductive Same : Json → Json → Prop where
  | refl (value : Json) : Same value value
  | array {items others : List Json} (each : SameItems items others) :
      Same (.array items) (.array others)
  | object {members others : List (Text × Json)} (each : SameMembers members others) :
      Same (.object members) (.object others)

inductive SameItems : List Json → List Json → Prop where
  | nil : SameItems [] []
  | cons {item other : Json} {items others : List Json} (first : Same item other)
      (later : SameItems items others) : SameItems (item :: items) (other :: others)

/-- The member of the same name is anywhere in the other object. -/
inductive SameMembers : List (Text × Json) → List (Text × Json) → Prop where
  | nil : SameMembers [] []
  | cons {name : Text} {value other : Json} {members before after : List (Text × Json)}
      (first : Same value other) (later : SameMembers members (before ++ after)) :
      SameMembers ((name, value) :: members) (before ++ (name, other) :: after)

end

theorem Same.nil_iff {members others : List (Text × Json)}
    (same : Same (.object members) (.object others)) : members = [] ↔ others = [] := by
  cases same with
  | refl _ => exact Iff.rfl
  | object each =>
      cases each with
      | nil => exact Iff.rfl
      | cons _ _ => exact iff_of_false (List.cons_ne_nil _ _) (by simp)

theorem SameMembers.keys_perm {members others : List (Text × Json)}
    (same : SameMembers members others) : (keys members).Perm (keys others) := by
  match same with
  | .nil => exact .refl _
  | @SameMembers.cons name _ _ members before after _ later =>
      have rest := SameMembers.keys_perm later
      unfold keys at rest ⊢
      rw [List.map_append] at rest ⊢
      exact (rest.cons name).trans List.perm_middle.symm
termination_by structural same

theorem SameMembers.member {members others : List (Text × Json)}
    (same : SameMembers members others) {name : Text} {value : Json}
    (listed : (name, value) ∈ members) : ∃ other, (name, other) ∈ others ∧ Same value other := by
  match same with
  | .nil => cases listed
  | @SameMembers.cons _ _ other members before after first later =>
      rcases List.mem_cons.mp listed with here | behind
      · cases here
        exact ⟨other, List.mem_append_right _ List.mem_cons_self, first⟩
      · obtain ⟨found, inside, equal⟩ := SameMembers.member later behind
        refine ⟨found, ?_, equal⟩
        rcases List.mem_append.mp inside with left | right
        · exact List.mem_append_left _ left
        · exact List.mem_append_right _ (List.mem_cons_of_mem _ right)
termination_by structural same

/-- Equal objects with distinct names hold equal values under a name, or none. -/
theorem Same.lookup {members others : List (Text × Json)}
    (same : Same (.object members) (.object others)) (distinct : (keys members).Nodup)
    (name : Text) : Option.Rel Same (members.lookup name) (others.lookup name) := by
  cases same with
  | refl _ =>
      cases members.lookup name with
      | none => exact .none
      | some value => exact .some (.refl value)
  | object each =>
      cases found : members.lookup name with
      | none =>
          have absent : name ∉ keys others := by
            rw [← (SameMembers.keys_perm each).mem_iff]
            intro member
            obtain ⟨entry, listed, rfl⟩ := List.mem_map.mp member
            rw [(mem_iff_lookup distinct entry.1 entry.2).mp listed] at found
            cases found
          rw [lookup_eq_none_of_not_mem absent]
          exact .none
      | some value =>
          obtain ⟨other, listed, equal⟩ :=
            SameMembers.member each ((mem_iff_lookup distinct _ _).mpr found)
          rw [(mem_iff_lookup ((SameMembers.keys_perm each).nodup distinct) _ _).mp listed]
          exact .some equal

end Json

end AcdpPlayground.JsonValue
