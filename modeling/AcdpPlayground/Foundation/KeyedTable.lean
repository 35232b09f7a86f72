/-
Dictionaries as lists of entries, in insertion order and with distinct keys: what a
lookup finds after an entry is rewritten, added or filtered out.
-/

import Mathlib.Data.List.Nodup

namespace AcdpPlayground.KeyedTable

variable {Key Value : Type} [BEq Key] [LawfulBEq Key]

def keys (entries : List (Key × Value)) : List Key :=
  entries.map Prod.fst

/-- `table[key] = value` for a key that is there: the entry keeps its place. -/
def rewrite (entries : List (Key × Value)) (key : Key) (value : Value) : List (Key × Value) :=
  entries.map (fun entry => if entry.1 == key then (key, value) else entry)

/-- `table[key] = value`. -/
def insert (entries : List (Key × Value)) (key : Key) (value : Value) : List (Key × Value) :=
  if entries.any (fun entry => entry.1 == key) then rewrite entries key value
  else entries ++ [(key, value)]

omit [LawfulBEq Key] in
theorem rewrite_cons (name : Key) (old : Value) (rest : List (Key × Value)) (key : Key)
    (value : Value) :
    rewrite ((name, old) :: rest) key value =
      (if name == key then (key, value) else (name, old)) :: rewrite rest key value := rfl

theorem not_mem_keys_of_any {entries : List (Key × Value)} {key : Key}
    (absent : entries.any (fun entry => entry.1 == key) = false) : key ∉ keys entries := by
  intro member
  obtain ⟨entry, present, same⟩ := List.mem_map.mp member
  have differs := List.any_eq_false.mp absent entry present
  exact differs (beq_iff_eq.mpr same)

theorem lookup_eq_none_of_not_mem {entries : List (Key × Value)} {key : Key}
    (absent : key ∉ keys entries) : entries.lookup key = none := by
  rw [List.lookup_eq_none_iff]
  intro entry member
  rw [bne_iff_ne]
  intro same
  exact absent (List.mem_map.mpr ⟨entry, member, same.symm⟩)

theorem lookup_rewrite_ne {key asked : Key} (different : asked ≠ key)
    (entries : List (Key × Value)) (value : Value) :
    (rewrite entries key value).lookup asked = entries.lookup asked := by
  induction entries with
  | nil => rfl
  | cons entry rest ih =>
      obtain ⟨name, old⟩ := entry
      rw [rewrite_cons]
      by_cases here : name = key
      · subst here
        simp only [beq_self_eq_true, if_true, List.lookup_cons, beq_eq_false_iff_ne.mpr different]
        exact ih
      · simp only [beq_eq_false_iff_ne.mpr here, Bool.false_eq_true, if_false, List.lookup_cons]
        rw [ih]

theorem lookup_rewrite_self {entries : List (Key × Value)} {key : Key} (value : Value)
    (present : entries.any (fun entry => entry.1 == key) = true) :
    (rewrite entries key value).lookup key = some value := by
  induction entries with
  | nil => cases present
  | cons entry rest ih =>
      obtain ⟨name, old⟩ := entry
      rw [rewrite_cons]
      by_cases here : name = key
      · subst here
        simp only [beq_self_eq_true, if_true, List.lookup_cons]
      · rw [List.any_cons, beq_eq_false_iff_ne.mpr here, Bool.false_or] at present
        simp only [beq_eq_false_iff_ne.mpr here, Bool.false_eq_true, if_false, List.lookup_cons,
          beq_eq_false_iff_ne.mpr (Ne.symm here)]
        exact ih present

/-- A key that is not there gets its entry at the end. -/
theorem lookup_append_self {entries : List (Key × Value)} {key : Key} (value : Value)
    (absent : key ∉ keys entries) : (entries ++ [(key, value)]).lookup key = some value := by
  rw [List.lookup_append, lookup_eq_none_of_not_mem absent, Option.none_or, List.lookup_cons,
    beq_self_eq_true]

theorem lookup_append_ne {key asked : Key} (different : asked ≠ key)
    (entries : List (Key × Value)) (value : Value) :
    (entries ++ [(key, value)]).lookup asked = entries.lookup asked := by
  rw [List.lookup_append, List.lookup_cons, beq_eq_false_iff_ne.mpr different, List.lookup_nil,
    Option.or_none]

/-- With distinct keys the filter decides on the entry the lookup finds. -/
theorem lookup_filter {entries : List (Key × Value)} (keep : Key × Value → Bool) (key : Key)
    (distinct : (keys entries).Nodup) :
    (entries.filter keep).lookup key =
      (entries.lookup key).filter (fun value => keep (key, value)) := by
  induction entries with
  | nil => rfl
  | cons entry rest ih =>
      obtain ⟨name, value⟩ := entry
      obtain ⟨absent, later⟩ := List.nodup_cons.mp distinct
      have rest_lookup := ih later
      by_cases same : key = name
      · subst same
        rw [lookup_eq_none_of_not_mem absent, Option.filter_none] at rest_lookup
        rw [List.lookup_cons, beq_self_eq_true, Option.filter_some]
        by_cases kept : keep (key, value) = true
        · rw [List.filter_cons_of_pos kept, if_pos kept, List.lookup_cons, beq_self_eq_true]
        · rw [List.filter_cons_of_neg kept, if_neg kept, rest_lookup]
      · rw [List.lookup_cons, beq_eq_false_iff_ne.mpr same]
        by_cases kept : keep (name, value) = true
        · rw [List.filter_cons_of_pos kept, List.lookup_cons, beq_eq_false_iff_ne.mpr same]
          exact rest_lookup
        · rw [List.filter_cons_of_neg kept]
          exact rest_lookup

theorem keys_rewrite (entries : List (Key × Value)) (key : Key) (value : Value) :
    keys (rewrite entries key value) = keys entries := by
  unfold keys rewrite
  rw [List.map_map]
  apply List.map_congr_left
  intro entry _
  simp only [Function.comp_apply]
  split
  · next same => exact (beq_iff_eq.mp same).symm
  · rfl

omit [BEq Key] [LawfulBEq Key] in
theorem keys_append_new_nodup {entries : List (Key × Value)} {key : Key} (value : Value)
    (absent : key ∉ keys entries) (distinct : (keys entries).Nodup) :
    (keys (entries ++ [(key, value)])).Nodup := by
  unfold keys
  rw [List.map_append]
  exact distinct.append (List.nodup_singleton key) (List.disjoint_singleton.mpr absent)

theorem insert_of_not_mem {entries : List (Key × Value)} {key : Key} (value : Value)
    (absent : key ∉ keys entries) : insert entries key value = entries ++ [(key, value)] := by
  unfold insert
  rw [if_neg]
  intro present
  obtain ⟨entry, member, same⟩ := List.any_eq_true.mp present
  exact absent (List.mem_map.mpr ⟨entry, member, beq_iff_eq.mp same⟩)

theorem not_mem_keys_of_lookup {entries : List (Key × Value)} {key : Key}
    (absent : entries.lookup key = none) : key ∉ keys entries := by
  intro member
  obtain ⟨entry, present, same⟩ := List.mem_map.mp member
  have differs := List.lookup_eq_none_iff.mp absent entry present
  rw [same, bne_self_eq_false] at differs
  cases differs

theorem lookup_insert_self (entries : List (Key × Value)) (key : Key) (value : Value) :
    (insert entries key value).lookup key = some value := by
  unfold insert
  split
  · next present => exact lookup_rewrite_self value present
  · next missing =>
      exact lookup_append_self value (not_mem_keys_of_any (Bool.eq_false_iff.mpr missing))

theorem lookup_insert_ne {key asked : Key} (different : asked ≠ key)
    (entries : List (Key × Value)) (value : Value) :
    (insert entries key value).lookup asked = entries.lookup asked := by
  unfold insert
  split
  · exact lookup_rewrite_ne different entries value
  · exact lookup_append_ne different entries value

theorem keys_insert_nodup {entries : List (Key × Value)} (key : Key) (value : Value)
    (distinct : (keys entries).Nodup) : (keys (insert entries key value)).Nodup := by
  unfold insert
  split
  · rw [keys_rewrite]
    exact distinct
  · next missing =>
      exact keys_append_new_nodup value
        (not_mem_keys_of_any (Bool.eq_false_iff.mpr missing)) distinct

theorem keys_foldl_insert_nodup {entries : List (Key × Value)} (added : List (Key × Value))
    (distinct : (keys entries).Nodup) :
    (keys (added.foldl (fun table new => insert table new.1 new.2) entries)).Nodup := by
  induction added generalizing entries with
  | nil => exact distinct
  | cons new rest ih => exact ih (keys_insert_nodup new.1 new.2 distinct)

omit [LawfulBEq Key] in
theorem insert_ne_nil (entries : List (Key × Value)) (key : Key) (value : Value) :
    insert entries key value ≠ [] := by
  unfold insert
  split
  · next present =>
      intro empty
      rw [rewrite, List.map_eq_nil_iff] at empty
      rw [empty] at present
      cases present
  · exact List.append_ne_nil_of_right_ne_nil _ (List.cons_ne_nil _ _)

omit [LawfulBEq Key] in
theorem foldl_insert_ne_nil {added : List (Key × Value)} (nonempty : added ≠ [])
    (entries : List (Key × Value)) :
    added.foldl (fun table new => insert table new.1 new.2) entries ≠ [] := by
  obtain ⟨before, last, rfl⟩ := List.eq_nil_or_concat added |>.resolve_left nonempty
  rw [List.concat_eq_append, List.foldl_append]
  exact insert_ne_nil _ last.1 last.2

omit [BEq Key] [LawfulBEq Key] in
theorem keys_filter_nodup {entries : List (Key × Value)} (keep : Key × Value → Bool)
    (distinct : (keys entries).Nodup) : (keys (entries.filter keep)).Nodup :=
  distinct.sublist (List.filter_sublist.map Prod.fst)

theorem mem_iff_lookup {entries : List (Key × Value)} (distinct : (keys entries).Nodup)
    (key : Key) (value : Value) :
    (key, value) ∈ entries ↔ entries.lookup key = some value := by
  induction entries with
  | nil =>
      constructor
      · intro member
        cases member
      · intro found
        cases found
  | cons entry rest ih =>
      obtain ⟨name, held⟩ := entry
      obtain ⟨absent, later⟩ := List.nodup_cons.mp distinct
      rw [List.mem_cons, List.lookup_cons]
      by_cases same : key = name
      · subst same
        have elsewhere : (key, value) ∉ rest := fun member =>
          absent (List.mem_map.mpr ⟨_, member, rfl⟩)
        simp only [beq_self_eq_true, Prod.mk.injEq, true_and, elsewhere, or_false,
          Option.some.injEq]
        exact eq_comm
      · simp only [beq_eq_false_iff_ne.mpr same, Prod.mk.injEq, same, false_and, false_or]
        exact ih later

theorem rewrite_split {before after : List (Key × Value)} {key : Key} {old : Value}
    (distinct : (keys (before ++ (key, old) :: after)).Nodup) (value : Value) :
    rewrite (before ++ (key, old) :: after) key value = before ++ (key, value) :: after := by
  have apart : ∀ entry ∈ before ++ after, entry.1 ≠ key := by
    intro entry member same
    unfold keys at distinct
    rw [List.map_append, List.map_cons, List.nodup_middle, List.nodup_cons] at distinct
    rw [← List.map_append] at distinct
    exact distinct.1 (List.mem_map.mpr ⟨entry, member, same⟩)
  have untouched : ∀ entries : List (Key × Value), (∀ entry ∈ entries, entry.1 ≠ key) →
      rewrite entries key value = entries := by
    intro entries others
    unfold rewrite
    rw [List.map_congr_left (fun entry member => if_neg (by simpa using others entry member)),
      List.map_id']
  have firstPart := untouched before (fun entry member =>
    apart entry (List.mem_append_left _ member))
  have lastPart := untouched after (fun entry member =>
    apart entry (List.mem_append_right _ member))
  unfold rewrite at firstPart lastPart ⊢
  rw [List.map_append, List.map_cons, firstPart, lastPart, if_pos (beq_self_eq_true key)]

theorem rewrite_held {entries : List (Key × Value)} {key : Key} {value : Value}
    (distinct : (keys entries).Nodup) (held : entries.lookup key = some value) :
    rewrite entries key value = entries := by
  obtain ⟨before, after, rfl⟩ :=
    List.append_of_mem ((mem_iff_lookup distinct key value).mpr held)
  exact rewrite_split distinct value

theorem mem_insert {entries : List (Key × Value)} {key : Key} {value : Value}
    {entry : Key × Value} (member : entry ∈ insert entries key value) :
    entry = (key, value) ∨ entry ∈ entries ∧ entry.1 ≠ key := by
  unfold insert at member
  split at member
  · obtain ⟨old, present, written⟩ := List.mem_map.mp member
    split at written
    · exact .inl written.symm
    · next different =>
        subst written
        exact .inr ⟨present, fun same => different (beq_iff_eq.mpr same)⟩
  · next missing =>
      rcases List.mem_append.mp member with old | new
      · have absent := not_mem_keys_of_any (Bool.eq_false_iff.mpr missing)
        exact .inr ⟨old, fun same => absent (List.mem_map.mpr ⟨entry, old, same⟩)⟩
      · exact .inl (List.mem_singleton.mp new)

theorem mem_foldl_insert {entries added : List (Key × Value)} {entry : Key × Value}
    (member : entry ∈ added.foldl (fun table new => insert table new.1 new.2) entries) :
    entry ∈ entries ∨ entry ∈ added := by
  induction added generalizing entries with
  | nil => exact .inl member
  | cons new rest ih =>
      rcases ih member with before | later
      · rcases mem_insert before with same | ⟨old, _⟩
        · exact .inr (same ▸ List.mem_cons_self)
        · exact .inl old
      · exact .inr (List.mem_cons_of_mem _ later)

theorem lookup_foldl_insert_ne {entries added : List (Key × Value)} {asked : Key}
    (absent : asked ∉ keys added) :
    (added.foldl (fun table new => insert table new.1 new.2) entries).lookup asked =
      entries.lookup asked := by
  induction added generalizing entries with
  | nil => rfl
  | cons new rest ih =>
      obtain ⟨here, later⟩ := not_or.mp (mt List.mem_cons.mpr absent)
      rw [List.foldl_cons, ih later]
      exact lookup_insert_ne here entries new.2

/-- `table.update(added)` makes every added entry one of the table. -/
theorem lookup_foldl_insert {entries added : List (Key × Value)}
    (distinct : (keys added).Nodup) {entry : Key × Value} (member : entry ∈ added) :
    (added.foldl (fun table new => insert table new.1 new.2) entries).lookup entry.1 =
      some entry.2 := by
  induction added generalizing entries with
  | nil => cases member
  | cons new rest ih =>
      obtain ⟨fresh, later⟩ := List.nodup_cons.mp distinct
      rw [List.foldl_cons]
      rcases List.mem_cons.mp member with rfl | old
      · rw [lookup_foldl_insert_ne fresh]
        exact lookup_insert_self entries entry.1 entry.2
      · exact ih later old

/-! ### Entries left out by name -/

theorem filter_rewrite_dropped {keep : Key → Bool} {key : Key} (dropped : keep key = false)
    (entries : List (Key × Value)) (value : Value) :
    (rewrite entries key value).filter (fun entry => keep entry.1) =
      entries.filter (fun entry => keep entry.1) := by
  induction entries with
  | nil => rfl
  | cons entry rest ih =>
      obtain ⟨name, old⟩ := entry
      rw [rewrite_cons]
      by_cases here : name = key
      · subst here
        simp only [beq_self_eq_true, if_true, List.filter_cons, dropped, Bool.false_eq_true,
          if_false]
        exact ih
      · simp only [beq_eq_false_iff_ne.mpr here, Bool.false_eq_true, if_false, List.filter_cons]
        rw [ih]

theorem filter_insert_dropped {keep : Key → Bool} {key : Key} (dropped : keep key = false)
    (entries : List (Key × Value)) (value : Value) :
    (insert entries key value).filter (fun entry => keep entry.1) =
      entries.filter (fun entry => keep entry.1) := by
  unfold insert
  split
  · exact filter_rewrite_dropped dropped entries value
  · have gone : List.filter (fun entry : Key × Value => keep entry.1) [(key, value)] = [] :=
      List.filter_cons_of_neg (Bool.eq_false_iff.mp dropped)
    rw [List.filter_append, gone, List.append_nil]

theorem filter_rewrite_kept {keep : Key → Bool} {key : Key} (kept : keep key = true)
    (entries : List (Key × Value)) (value : Value) :
    (rewrite entries key value).filter (fun entry => keep entry.1) =
      rewrite (entries.filter (fun entry => keep entry.1)) key value := by
  induction entries with
  | nil => rfl
  | cons entry rest ih =>
      obtain ⟨name, old⟩ := entry
      rw [rewrite_cons]
      by_cases here : name = key
      · subst here
        simp only [beq_self_eq_true, if_true, List.filter_cons, kept]
        rw [rewrite_cons, ih, if_pos (beq_self_eq_true name)]
      · simp only [beq_eq_false_iff_ne.mpr here, Bool.false_eq_true, if_false, List.filter_cons]
        split
        · rw [rewrite_cons, ih, if_neg (by rw [beq_iff_eq]; exact here)]
        · exact ih

theorem filter_insert_kept {keep : Key → Bool} {key : Key} (kept : keep key = true)
    (entries : List (Key × Value)) (value : Value) :
    (insert entries key value).filter (fun entry => keep entry.1) =
      insert (entries.filter (fun entry => keep entry.1)) key value := by
  have present : (entries.filter (fun entry => keep entry.1)).any (fun entry => entry.1 == key) =
      entries.any (fun entry => entry.1 == key) := by
    rw [List.any_filter]
    congr 1
    funext entry
    by_cases here : entry.1 = key
    · rw [here, kept, Bool.true_and]
    · rw [beq_eq_false_iff_ne.mpr here, Bool.and_false]
  unfold insert
  rw [present]
  split
  · exact filter_rewrite_kept kept entries value
  · have new : List.filter (fun entry : Key × Value => keep entry.1) [(key, value)] =
        [(key, value)] := List.filter_cons_of_pos kept
    rw [List.filter_append, new]

/-! ### Removal -/

/-- `table.pop(key, None)`. -/
def remove (entries : List (Key × Value)) (key : Key) : List (Key × Value) :=
  entries.filter (fun entry => entry.1 != key)

theorem lookup_remove_self (entries : List (Key × Value)) (key : Key) :
    (remove entries key).lookup key = none := by
  apply lookup_eq_none_of_not_mem
  intro member
  obtain ⟨entry, kept, same⟩ := List.mem_map.mp member
  have other := (List.mem_filter.mp kept).2
  rw [same, bne_self_eq_false] at other
  cases other

theorem lookup_remove_ne {key asked : Key} (different : asked ≠ key)
    (entries : List (Key × Value)) :
    (remove entries key).lookup asked = entries.lookup asked := by
  induction entries with
  | nil => rfl
  | cons entry rest ih =>
      obtain ⟨name, value⟩ := entry
      unfold remove at ih ⊢
      rw [List.filter_cons, List.lookup_cons]
      by_cases dropped : name = key
      · subst dropped
        simp only [bne_self_eq_false, Bool.false_eq_true, if_false]
        rw [ih, beq_eq_false_iff_ne.mpr different]
      · simp only [bne_iff_ne.mpr dropped, if_true]
        rw [List.lookup_cons, ih]

end AcdpPlayground.KeyedTable
