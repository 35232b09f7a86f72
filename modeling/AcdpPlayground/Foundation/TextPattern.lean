/-
Regular expressions of Python's `re`, as far as literals, repeated character classes,
anchors and one-character lookarounds go, over code points and without flags.

A pattern is given by the positions at which a match from a position can end. Nothing is
captured, so that which of these a backtracking matcher finds first does not show.
-/

import AcdpPlayground.Foundation.PythonText

namespace AcdpPlayground.TextPattern

open PythonText

/-- The text before a position, nearest character first, and the text behind it. -/
structure Position where
  passed : Text
  ahead : Text
  deriving DecidableEq

inductive Item where
  | literal (given : Text)
  /-- A class between `least` and `most` times; without `most`, any number of times. -/
  | repeated (accepts : Nat → Bool) (least : Nat) (most : Option Nat)
  /-- `^` and `\A`. -/
  | start
  /-- `$`, which also stands before a newline that ends the text. -/
  | lineEnd
  /-- `\Z`. -/
  | textEnd
  /-- `(?!c)`. -/
  | notAhead (point : Nat)
  /-- `(?<!c)`. -/
  | notBehind (point : Nat)

abbrev Pattern := List Item

def repeatedEnds (accepts : Nat → Bool) (least : Nat) (most : Option Nat) (passed : Text) :
    Text → List Position
  | [] => if least = 0 then [⟨passed, []⟩] else []
  | point :: rest =>
      (if least = 0 then [⟨passed, point :: rest⟩] else []) ++
        if accepts point = true ∧ most ≠ some 0 then
          repeatedEnds accepts (least - 1) (most.map (· - 1)) (point :: passed) rest
        else []

def Item.ends (position : Position) : Item → List Position
  | .literal given =>
      if given.isPrefixOf position.ahead then
        [⟨given.reverse ++ position.passed, position.ahead.drop given.length⟩]
      else []
  | .repeated accepts least most =>
      repeatedEnds accepts least most position.passed position.ahead
  | .start => if position.passed = [] then [position] else []
  | .lineEnd => if position.ahead = [] ∨ position.ahead = [10] then [position] else []
  | .textEnd => if position.ahead = [] then [position] else []
  | .notAhead point => if position.ahead.head? = some point then [] else [position]
  | .notBehind point => if position.passed.head? = some point then [] else [position]

def ends : Pattern → Position → List Position
  | [], position => [position]
  | item :: rest, position => (item.ends position).flatMap (ends rest)

/-- `pattern.match(given) is not None`. -/
def reMatch (pattern : Pattern) (given : Text) : Bool :=
  !(ends pattern ⟨[], given⟩).isEmpty

/-! ### Where a match can end -/

theorem reMatch_iff (pattern : Pattern) (given : Text) :
    reMatch pattern given = true ↔ ∃ final, final ∈ ends pattern ⟨[], given⟩ := by
  unfold reMatch
  rw [Bool.not_eq_true', List.isEmpty_eq_false_iff_exists_mem]

theorem mem_ends_nil {position final : Position} :
    final ∈ ends [] position ↔ final = position :=
  List.mem_singleton

theorem mem_ends_cons {item : Item} {rest : Pattern} {position final : Position} :
    final ∈ ends (item :: rest) position ↔
      ∃ middle ∈ item.ends position, final ∈ ends rest middle :=
  List.mem_flatMap

theorem mem_literal {given passed ahead : Text} {final : Position} :
    final ∈ (Item.literal given).ends ⟨passed, ahead⟩ ↔
      ∃ rest, ahead = given ++ rest ∧ final = ⟨given.reverse ++ passed, rest⟩ := by
  simp only [Item.ends]
  by_cases starts : given.isPrefixOf ahead = true
  · obtain ⟨rest, rfl⟩ := List.isPrefixOf_iff_prefix.mp starts
    rw [if_pos starts, List.mem_singleton, List.drop_left]
    constructor
    · intro same
      exact ⟨rest, rfl, same⟩
    · rintro ⟨other, same, rfl⟩
      rw [List.append_cancel_left same]
  · rw [if_neg starts]
    refine iff_of_false (by rintro ⟨⟩) ?_
    rintro ⟨rest, rfl, _⟩
    exact starts (List.isPrefixOf_iff_prefix.mpr (List.prefix_append _ _))

theorem mem_repeated {accepts : Nat → Bool} {least : Nat} {most : Option Nat}
    {passed ahead : Text} {final : Position} :
    final ∈ (Item.repeated accepts least most).ends ⟨passed, ahead⟩ ↔
      ∃ stretch rest, ahead = stretch ++ rest ∧ final = ⟨stretch.reverse ++ passed, rest⟩ ∧
        (∀ point ∈ stretch, accepts point = true) ∧ least ≤ stretch.length ∧
        ∀ bound ∈ most, stretch.length ≤ bound := by
  change final ∈ repeatedEnds accepts least most passed ahead ↔ _
  induction ahead generalizing least most passed with
  | nil =>
      simp only [repeatedEnds]
      constructor
      · intro member
        split at member
        · next free =>
            rw [List.mem_singleton.mp member]
            exact ⟨[], [], rfl, rfl, by simp, by simp [free], by simp⟩
        · cases member
      · rintro ⟨stretch, rest, same, rfl, _, enough, _⟩
        obtain ⟨rfl, rfl⟩ := List.append_eq_nil_iff.mp same.symm
        rw [if_pos (Nat.le_zero.mp enough)]
        exact List.mem_singleton_self _
  | cons point behind ih =>
      simp only [repeatedEnds, List.mem_append]
      constructor
      · rintro (here | later)
        · split at here
          · next free =>
              rw [List.mem_singleton.mp here]
              exact ⟨[], point :: behind, rfl, rfl, by simp, by simp [free], by simp⟩
          · cases here
        · split at later
          · next taken =>
              obtain ⟨stretch, rest, rfl, rfl, accepted, enough, bounded⟩ := ih.mp later
              refine ⟨point :: stretch, rest, rfl, by simp, ?_, ?_, ?_⟩
              · intro other member
                rcases List.mem_cons.mp member with rfl | inside
                · exact taken.1
                · exact accepted other inside
              · rw [List.length_cons]
                omega
              · intro bound isBound
                have positive : bound ≠ 0 := by
                  rintro rfl
                  exact taken.2 isBound
                have shorter := bounded (bound - 1) (by rw [Option.mem_def.mp isBound]; rfl)
                rw [List.length_cons]
                omega
          · cases later
      · rintro ⟨stretch, rest, same, rfl, accepted, enough, bounded⟩
        cases stretch with
        | nil =>
            left
            rw [List.nil_append] at same
            rw [if_pos (Nat.le_zero.mp enough), same]
            exact List.mem_singleton_self _
        | cons first more =>
            right
            obtain ⟨rfl, rfl⟩ := List.cons.inj same
            have open_ : most ≠ some 0 := by
              intro none_left
              exact absurd (bounded 0 none_left) (by simp)
            rw [if_pos ⟨accepted point List.mem_cons_self, open_⟩]
            rw [List.length_cons] at enough
            refine ih.mpr ⟨more, rest, rfl, by simp, ?_, by omega, ?_⟩
            · intro other inside
              exact accepted other (List.mem_cons_of_mem _ inside)
            · intro bound isBound
              obtain ⟨whole, isWhole, rfl⟩ := Option.map_eq_some_iff.mp isBound
              have shorter := bounded whole isWhole
              rw [List.length_cons] at shorter
              omega

theorem mem_start {position final : Position} :
    final ∈ Item.start.ends position ↔ position.passed = [] ∧ final = position := by
  simp only [Item.ends]
  split
  · next isStart => simp [isStart]
  · next inside => simp [inside]

theorem mem_lineEnd {position final : Position} :
    final ∈ Item.lineEnd.ends position ↔
      (position.ahead = [] ∨ position.ahead = [10]) ∧ final = position := by
  simp only [Item.ends]
  split
  · next isEnd => simp [isEnd]
  · next inside => simp [inside]

theorem mem_textEnd {position final : Position} :
    final ∈ Item.textEnd.ends position ↔ position.ahead = [] ∧ final = position := by
  simp only [Item.ends]
  split
  · next isEnd => simp [isEnd]
  · next inside => simp [inside]

theorem mem_notAhead {point : Nat} {position final : Position} :
    final ∈ (Item.notAhead point).ends position ↔
      position.ahead.head? ≠ some point ∧ final = position := by
  simp only [Item.ends]
  split
  · next found => simp [found]
  · next other => simp [other]

theorem mem_notBehind {point : Nat} {position final : Position} :
    final ∈ (Item.notBehind point).ends position ↔
      position.passed.head? ≠ some point ∧ final = position := by
  simp only [Item.ends]
  split
  · next found => simp [found]
  · next other => simp [other]

/-! ### Patterns between the anchors -/

/-- A literal is passed over, and what follows goes on behind it. -/
theorem ends_literal_cons {given passed ahead : Text} {rest : Pattern} {final : Position} :
    final ∈ ends (.literal given :: rest) ⟨passed, ahead⟩ ↔
      ∃ behind, ahead = given ++ behind ∧
        final ∈ ends rest ⟨given.reverse ++ passed, behind⟩ := by
  rw [mem_ends_cons]
  constructor
  · rintro ⟨middle, isMiddle, later⟩
    obtain ⟨behind, same, rfl⟩ := mem_literal.mp isMiddle
    exact ⟨behind, same, later⟩
  · rintro ⟨behind, same, later⟩
    exact ⟨_, mem_literal.mpr ⟨behind, same, rfl⟩, later⟩

theorem ends_repeated_cons {accepts : Nat → Bool} {least : Nat} {most : Option Nat}
    {passed ahead : Text} {rest : Pattern} {final : Position} :
    final ∈ ends (.repeated accepts least most :: rest) ⟨passed, ahead⟩ ↔
      ∃ stretch behind, ahead = stretch ++ behind ∧
        (∀ point ∈ stretch, accepts point = true) ∧ least ≤ stretch.length ∧
        (∀ bound ∈ most, stretch.length ≤ bound) ∧
        final ∈ ends rest ⟨stretch.reverse ++ passed, behind⟩ := by
  rw [mem_ends_cons]
  constructor
  · rintro ⟨middle, isMiddle, later⟩
    obtain ⟨stretch, behind, same, rfl, accepted, enough, bounded⟩ := mem_repeated.mp isMiddle
    exact ⟨stretch, behind, same, accepted, enough, bounded, later⟩
  · rintro ⟨stretch, behind, same, accepted, enough, bounded, later⟩
    exact ⟨_, mem_repeated.mpr ⟨stretch, behind, same, rfl, accepted, enough, bounded⟩, later⟩

theorem ends_start_cons {passed ahead : Text} {rest : Pattern} {final : Position} :
    final ∈ ends (.start :: rest) ⟨passed, ahead⟩ ↔
      passed = [] ∧ final ∈ ends rest ⟨passed, ahead⟩ := by
  simp only [mem_ends_cons, mem_start]
  constructor
  · rintro ⟨middle, ⟨isStart, rfl⟩, later⟩
    exact ⟨isStart, later⟩
  · rintro ⟨isStart, later⟩
    exact ⟨_, ⟨isStart, rfl⟩, later⟩

theorem ends_notAhead_cons {point : Nat} {passed ahead : Text} {rest : Pattern}
    {final : Position} :
    final ∈ ends (.notAhead point :: rest) ⟨passed, ahead⟩ ↔
      ahead.head? ≠ some point ∧ final ∈ ends rest ⟨passed, ahead⟩ := by
  simp only [mem_ends_cons, mem_notAhead]
  constructor
  · rintro ⟨middle, ⟨other, rfl⟩, later⟩
    exact ⟨other, later⟩
  · rintro ⟨other, later⟩
    exact ⟨_, ⟨other, rfl⟩, later⟩

theorem ends_notBehind_cons {point : Nat} {passed ahead : Text} {rest : Pattern}
    {final : Position} :
    final ∈ ends (.notBehind point :: rest) ⟨passed, ahead⟩ ↔
      passed.head? ≠ some point ∧ final ∈ ends rest ⟨passed, ahead⟩ := by
  simp only [mem_ends_cons, mem_notBehind]
  constructor
  · rintro ⟨middle, ⟨other, rfl⟩, later⟩
    exact ⟨other, later⟩
  · rintro ⟨other, later⟩
    exact ⟨_, ⟨other, rfl⟩, later⟩

theorem exists_ends_lineEnd {passed ahead : Text} :
    (∃ final, final ∈ ends [.lineEnd] ⟨passed, ahead⟩) ↔ ahead = [] ∨ ahead = [10] := by
  simp only [mem_ends_cons, mem_ends_nil, mem_lineEnd]
  constructor
  · rintro ⟨final, middle, ⟨isEnd, _⟩, _⟩
    exact isEnd
  · intro isEnd
    exact ⟨_, _, ⟨isEnd, rfl⟩, rfl⟩

theorem exists_ends_textEnd {passed ahead : Text} :
    (∃ final, final ∈ ends [.textEnd] ⟨passed, ahead⟩) ↔ ahead = [] := by
  simp only [mem_ends_cons, mem_ends_nil, mem_textEnd]
  constructor
  · rintro ⟨final, middle, ⟨isEnd, _⟩, _⟩
    exact isEnd
  · intro isEnd
    exact ⟨_, _, ⟨isEnd, rfl⟩, rfl⟩

/-! ### Literal patterns -/

/-- `^literal$`: the literal, or the literal and a newline. -/
theorem reMatch_literal_line (given : Text) (path : Text) :
    reMatch [.start, .literal given, .lineEnd] path = true ↔
      path = given ∨ path = given ++ [10] := by
  rw [reMatch_iff]
  constructor
  · rintro ⟨final, member⟩
    obtain ⟨_, later⟩ := ends_start_cons.mp member
    obtain ⟨behind, rfl, ending⟩ := ends_literal_cons.mp later
    rcases exists_ends_lineEnd.mp ⟨final, ending⟩ with rfl | rfl
    · exact .inl (List.append_nil _)
    · exact .inr rfl
  · intro whole
    have ahead : ∃ behind, path = given ++ behind ∧ (behind = [] ∨ behind = [10]) := by
      rcases whole with rfl | rfl
      · exact ⟨[], (List.append_nil _).symm, .inl rfl⟩
      · exact ⟨[10], rfl, .inr rfl⟩
    obtain ⟨behind, same, isEnd⟩ := ahead
    obtain ⟨final, ending⟩ := (@exists_ends_lineEnd (given.reverse ++ []) behind).mpr isEnd
    exact ⟨final, ends_start_cons.mpr ⟨rfl, ends_literal_cons.mpr ⟨behind, same, ending⟩⟩⟩

/-! ### Patterns of a fixed width -/

/-- Each character is in the class at its place. -/
def follows : List (Nat → Bool) → Text → Bool
  | [], [] => true
  | accepts :: classes, point :: rest => accepts point && follows classes rest
  | _, _ => false

/-- The classes of an item that always takes the same number of characters. -/
def Item.classes : Item → Option (List (Nat → Bool))
  | .literal given => some (given.map (fun letter point => point == letter))
  | .repeated accepts least (some most) =>
      if least = most then some (List.replicate least accepts) else none
  | _ => none

theorem follows_append (classes more : List (Nat → Bool)) (given : Text) :
    follows (classes ++ more) given = true ↔
      ∃ first rest, given = first ++ rest ∧ follows classes first = true ∧
        follows more rest = true := by
  induction classes generalizing given with
  | nil =>
      constructor
      · intro whole
        exact ⟨[], given, rfl, rfl, whole⟩
      · rintro ⟨first, rest, rfl, empty, whole⟩
        cases first with
        | nil => exact whole
        | cons _ _ => cases empty
  | cons accepts classes ih =>
      cases given with
      | nil =>
          refine iff_of_false (by rintro ⟨⟩) ?_
          rintro ⟨first, rest, same, matched, _⟩
          rw [(List.append_eq_nil_iff.mp same.symm).1] at matched
          cases matched
      | cons point behind =>
          simp only [List.cons_append, follows, Bool.and_eq_true]
          rw [ih]
          constructor
          · rintro ⟨accepted, first, rest, rfl, matched, whole⟩
            exact ⟨point :: first, rest, rfl, by simp [follows, accepted, matched], whole⟩
          · rintro ⟨first, rest, same, matched, whole⟩
            cases first with
            | nil => cases matched
            | cons _ first =>
                obtain ⟨rfl, rfl⟩ := List.cons.inj same
                simp only [follows, Bool.and_eq_true] at matched
                exact ⟨matched.1, first, rest, rfl, matched.2, whole⟩

theorem follows_replicate (accepts : Nat → Bool) (count : Nat) (given : Text) :
    follows (List.replicate count accepts) given = true ↔
      (∀ point ∈ given, accepts point = true) ∧ given.length = count := by
  induction count generalizing given with
  | zero =>
      cases given with
      | nil => exact iff_of_true rfl ⟨by simp, rfl⟩
      | cons _ _ => exact iff_of_false (by rintro ⟨⟩) (by rintro ⟨_, ⟨⟩⟩)
  | succ count ih =>
      cases given with
      | nil => exact iff_of_false (by rintro ⟨⟩) (by rintro ⟨_, ⟨⟩⟩)
      | cons point rest =>
          rw [List.replicate_succ, follows, Bool.and_eq_true, ih, List.forall_mem_cons,
            List.length_cons, Nat.add_right_cancel_iff, and_assoc]

theorem follows_literal (literal given : Text) :
    follows (literal.map (fun letter point => point == letter)) given = true ↔
      given = literal := by
  induction literal generalizing given with
  | nil =>
      cases given with
      | nil => exact iff_of_true rfl rfl
      | cons _ _ => exact iff_of_false (by rintro ⟨⟩) (by rintro ⟨⟩)
  | cons letter literal ih =>
      cases given with
      | nil => exact iff_of_false (by rintro ⟨⟩) (by rintro ⟨⟩)
      | cons point rest =>
          rw [List.map_cons, follows, Bool.and_eq_true, ih, beq_iff_eq, List.cons.injEq]

/-- A fixed item passes over a stretch that follows its classes. -/
theorem ends_fixed_cons {item : Item} {classes : List (Nat → Bool)}
    (fixed : item.classes = some classes) {passed ahead : Text} {rest : Pattern}
    {final : Position} :
    final ∈ ends (item :: rest) ⟨passed, ahead⟩ ↔
      ∃ stretch behind, ahead = stretch ++ behind ∧ follows classes stretch = true ∧
        final ∈ ends rest ⟨stretch.reverse ++ passed, behind⟩ := by
  cases item with
  | literal given =>
      cases fixed
      rw [ends_literal_cons]
      constructor
      · rintro ⟨behind, same, later⟩
        exact ⟨given, behind, same, (follows_literal _ _).mpr rfl, later⟩
      · rintro ⟨stretch, behind, same, matched, later⟩
        rw [(follows_literal _ _).mp matched] at same later
        exact ⟨behind, same, later⟩
  | repeated accepts least most =>
      cases most with
      | none => cases fixed
      | some most =>
          simp only [Item.classes] at fixed
          split at fixed
          · next exactly =>
              cases fixed
              subst exactly
              rw [ends_repeated_cons]
              constructor
              · rintro ⟨stretch, behind, same, accepted, enough, bounded, later⟩
                have length := Nat.le_antisymm (bounded least rfl) enough
                exact ⟨stretch, behind, same, (follows_replicate _ _ _).mpr ⟨accepted, length⟩,
                  later⟩
              · rintro ⟨stretch, behind, same, matched, later⟩
                obtain ⟨accepted, length⟩ := (follows_replicate _ _ _).mp matched
                refine ⟨stretch, behind, same, accepted, Nat.le_of_eq length.symm, ?_, later⟩
                intro bound isBound
                cases isBound
                exact Nat.le_of_eq length
          · cases fixed
  | start => cases fixed
  | lineEnd => cases fixed
  | textEnd => cases fixed
  | notAhead _ => cases fixed
  | notBehind _ => cases fixed

theorem exists_ends_fixed {items : Pattern} {classes : List (List (Nat → Bool))}
    (fixed : items.mapM Item.classes = some classes) (passed ahead : Text) :
    (∃ final, final ∈ ends (items ++ [.textEnd]) ⟨passed, ahead⟩) ↔
      follows classes.flatten ahead = true := by
  induction items generalizing classes passed ahead with
  | nil =>
      cases fixed
      rw [List.nil_append, exists_ends_textEnd]
      cases ahead with
      | nil => exact iff_of_true rfl rfl
      | cons _ _ => exact iff_of_false (by rintro ⟨⟩) (by rintro ⟨⟩)
  | cons item items ih =>
      rw [List.mapM_cons] at fixed
      obtain ⟨first, isFirst, fixed⟩ := Option.bind_eq_some_iff.mp fixed
      obtain ⟨more, isMore, fixed⟩ := Option.bind_eq_some_iff.mp fixed
      cases fixed
      rw [List.flatten_cons, follows_append]
      constructor
      · rintro ⟨final, member⟩
        obtain ⟨stretch, behind, same, matched, later⟩ := (ends_fixed_cons isFirst).mp member
        exact ⟨stretch, behind, same, matched, (ih isMore _ behind).mp ⟨final, later⟩⟩
      · rintro ⟨stretch, behind, same, matched, whole⟩
        obtain ⟨final, later⟩ := (ih isMore (stretch.reverse ++ passed) behind).mpr whole
        exact ⟨final, (ends_fixed_cons isFirst).mpr ⟨stretch, behind, same, matched, later⟩⟩

/-- `\A...\Z` around fixed items. -/
theorem reMatch_fixed {items : Pattern} {classes : List (List (Nat → Bool))}
    (fixed : items.mapM Item.classes = some classes) (given : Text) :
    reMatch (.start :: (items ++ [.textEnd])) given = true ↔
      follows classes.flatten given = true := by
  rw [reMatch_iff, ← exists_ends_fixed fixed []]
  constructor
  · rintro ⟨final, member⟩
    exact ⟨final, (ends_start_cons.mp member).2⟩
  · rintro ⟨final, member⟩
    exact ⟨final, ends_start_cons.mpr ⟨rfl, member⟩⟩

end AcdpPlayground.TextPattern
