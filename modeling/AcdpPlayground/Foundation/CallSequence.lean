/-
Sequences of calls on one object: every call answers and leaves the object in a next
state. Two objects with the same answers are related by a simulation; the relation may
mention the calls still to come, so that an assumption on the whole sequence (ordered
clock readings, say) is carried along.
-/

import Mathlib.Data.List.Basic

namespace AcdpPlayground.CallSequence

variable {State Other Call Reply : Type}

def replies (step : State → Call → Reply × State) : State → List Call → List Reply
  | _, [] => []
  | state, call :: rest => (step state call).1 :: replies step (step state call).2 rest

def stateAfter (step : State → Call → Reply × State) : State → List Call → State
  | state, [] => state
  | state, call :: rest => stateAfter step (step state call).2 rest

variable {step : State → Call → Reply × State} {other : Other → Call → Reply × Other}

@[simp]
theorem length_replies (state : State) (calls : List Call) :
    (replies step state calls).length = calls.length := by
  induction calls generalizing state with
  | nil => rfl
  | cons call rest ih => exact congrArg Nat.succ (ih _)

theorem replies_append (state : State) (before after : List Call) :
    replies step state (before ++ after) =
      replies step state before ++ replies step (stateAfter step state before) after := by
  induction before generalizing state with
  | nil => rfl
  | cons call rest ih => exact congrArg (List.cons _) (ih _)

theorem getElem?_replies_append (state : State) (before : List Call) (call : Call)
    (after : List Call) :
    (replies step state (before ++ call :: after))[before.length]? =
      some (step (stateAfter step state before) call).1 := by
  rw [replies_append, List.getElem?_append_right (Nat.le_of_eq (length_replies _ _)),
    length_replies, Nat.sub_self]
  rfl

theorem stateAfter_invariant (invariant : List Call → State → Prop)
    (preserved : ∀ call rest state, invariant (call :: rest) state →
      invariant rest (step state call).2)
    {calls after : List Call} {state : State} (holds : invariant (calls ++ after) state) :
    invariant after (stateAfter step state calls) := by
  induction calls generalizing state with
  | nil => exact holds
  | cons call rest ih => exact ih (preserved call (rest ++ after) state holds)

theorem stateAfter_append (state : State) (before after : List Call) :
    stateAfter step state (before ++ after) =
      stateAfter step (stateAfter step state before) after := by
  induction before generalizing state with
  | nil => rfl
  | cons call rest ih => exact ih _

theorem stateAfter_related (related : List Call → State → Other → Prop)
    (simulates : ∀ call rest state abstract, related (call :: rest) state abstract →
      (step state call).1 = (other abstract call).1 ∧
        related rest (step state call).2 (other abstract call).2)
    {calls after : List Call} {state : State} {abstract : Other}
    (start : related (calls ++ after) state abstract) :
    related after (stateAfter step state calls) (stateAfter other abstract calls) := by
  induction calls generalizing state abstract with
  | nil => exact start
  | cons call rest ih => exact ih (simulates call (rest ++ after) state abstract start).2

theorem replies_eq_of_simulation (related : List Call → State → Other → Prop)
    (simulates : ∀ call rest state abstract, related (call :: rest) state abstract →
      (step state call).1 = (other abstract call).1 ∧
        related rest (step state call).2 (other abstract call).2)
    {calls : List Call} {state : State} {abstract : Other}
    (start : related calls state abstract) :
    replies step state calls = replies other abstract calls := by
  induction calls generalizing state abstract with
  | nil => rfl
  | cons call rest ih =>
      obtain ⟨same, later⟩ := simulates call rest state abstract start
      simp only [replies]
      rw [same, ih later]

/-- Two sequences whose calls the object cannot tell apart, one by one. -/
theorem replies_eq_of_alike {alike : Call → Call → Prop}
    (same : ∀ state call twin, alike call twin → step state call = step state twin)
    {calls twins : List Call} (pairwise : List.Forall₂ alike calls twins) (state : State) :
    replies step state calls = replies step state twins := by
  induction pairwise generalizing state with
  | nil => rfl
  | cons related _ ih =>
      simp only [replies]
      rw [same state _ _ related, ih]

theorem stateAfter_eq_of_alike {alike : Call → Call → Prop}
    (same : ∀ state call twin, alike call twin → step state call = step state twin)
    {calls twins : List Call} (pairwise : List.Forall₂ alike calls twins) (state : State) :
    stateAfter step state calls = stateAfter step state twins := by
  induction pairwise generalizing state with
  | nil => rfl
  | cons related _ ih =>
      simp only [stateAfter]
      rw [same state _ _ related, ih]

/-- A call that leaves the object as it was can be deleted from the sequence. -/
theorem replies_eraseIdx_of_inert {state : State} {before : List Call} {call : Call}
    (after : List Call)
    (inert : (step (stateAfter step state before) call).2 = stateAfter step state before) :
    replies step state (before ++ after) =
      (replies step state (before ++ call :: after)).eraseIdx before.length := by
  rw [replies_append, replies_append, List.eraseIdx_append_of_length_le
    (Nat.le_of_eq (length_replies _ _)), length_replies, Nat.sub_self]
  simp only [replies, List.eraseIdx_cons_zero]
  rw [inert]

/-- Deleting the calls that do not concern an observer. The observer compares the two
objects by `alike`; a call that concerns it is answered the same on both sides, any other
call is not made on the second. -/
theorem replies_filter_of_unseen {alike : State → State → Prop} {concerns : Call → Bool}
    (seen : ∀ call state twin, concerns call = true → alike state twin →
      (step state call).1 = (step twin call).1 ∧ alike (step state call).2 (step twin call).2)
    (unseen : ∀ call state twin, concerns call = false → alike state twin →
      alike (step state call).2 twin)
    {calls : List Call} {state twin : State} (start : alike state twin) :
    ((calls.zip (replies step state calls)).filter (fun pair => concerns pair.1)).map Prod.snd =
      replies step twin (calls.filter concerns) := by
  induction calls generalizing state twin with
  | nil => rfl
  | cons call rest ih =>
      simp only [replies, List.zip_cons_cons, List.filter_cons]
      cases concerned : concerns call with
      | true =>
          obtain ⟨same, later⟩ := seen call state twin concerned start
          rw [if_pos rfl, if_pos rfl, List.map_cons, ih later, same]
          rfl
      | false =>
          have later := unseen call state twin concerned start
          rw [if_neg Bool.false_ne_true, if_neg Bool.false_ne_true, ih later]

/-- What a reply says of the object, when no later call undoes it, holds of the last state. -/
theorem settled_of_mem (invariant : State → Prop) (settled : Call → Reply → State → Prop)
    (preserved : ∀ call state, invariant state → invariant (step state call).2)
    (made : ∀ call state, invariant state →
      settled call (step state call).1 (step state call).2)
    (stays : ∀ call reply next state, invariant state → settled call reply state →
      settled call reply (step state next).2)
    {calls : List Call} {state : State} (holds : invariant state) {call : Call} {reply : Reply}
    (answered : (call, reply) ∈ calls.zip (replies step state calls)) :
    settled call reply (stateAfter step state calls) := by
  have kept : ∀ (later : List Call) (state : State), invariant state →
      settled call reply state → settled call reply (stateAfter step state later) := by
    intro later
    induction later with
    | nil => exact fun _ _ itsSettled => itsSettled
    | cons next rest ih =>
        intro state itsHolds itsSettled
        exact ih _ (preserved next state itsHolds) (stays call reply next state itsHolds itsSettled)
  induction calls generalizing state with
  | nil => cases answered
  | cons first rest ih =>
      have later := preserved first state holds
      rw [replies, List.zip_cons_cons, List.mem_cons] at answered
      rcases answered with same | answered
      · cases same
        exact kept rest _ later (made _ state holds)
      · exact ih later answered

end AcdpPlayground.CallSequence
