/-
A table of tasks, indexed by the order of their creation. One step of a
cooperative scheduler rewrites one entry; the lemmas say what this does to the
number of tasks with a property and to properties of all tasks.
-/

import Mathlib.Algebra.GroupWithZero.Nat
import Mathlib.Data.List.Basic

namespace AcdpPlayground.TaskTable

variable {Task : Type}

/-- Rewriting one entry moves the count by the difference of that entry. -/
theorem countP_set_balance (selected : Task → Bool) {tasks : List Task} {index : Nat}
    {old : Task} (new : Task) (found : tasks[index]? = some old) :
    (tasks.set index new).countP selected + (if selected old then 1 else 0) =
      tasks.countP selected + (if selected new then 1 else 0) := by
  induction tasks generalizing index with
  | nil => cases found
  | cons head tail ih =>
      cases index with
      | zero =>
          cases found
          simp only [List.set_cons_zero, List.countP_cons]
          omega
      | succ index =>
          have later := ih found
          simp only [List.set_cons_succ, List.countP_cons]
          omega

theorem countP_set_of_same (selected : Task → Bool) {tasks : List Task} {index : Nat}
    {old new : Task} (found : tasks[index]? = some old) (same : selected new = selected old) :
    (tasks.set index new).countP selected = tasks.countP selected := by
  have balance := countP_set_balance selected new found
  rw [same] at balance
  omega

theorem sum_map_set_balance (weight : Task → Nat) {tasks : List Task} {index : Nat} {old : Task}
    (new : Task) (found : tasks[index]? = some old) :
    ((tasks.set index new).map weight).sum + weight old =
      (tasks.map weight).sum + weight new := by
  induction tasks generalizing index with
  | nil => cases found
  | cons head tail ih =>
      cases index with
      | zero =>
          cases found
          rw [List.set_cons_zero, List.map_cons, List.map_cons, List.sum_cons, List.sum_cons]
          omega
      | succ index =>
          have later := ih found
          rw [List.set_cons_succ, List.map_cons, List.map_cons, List.sum_cons, List.sum_cons]
          omega

theorem countP_le_one (selected : Task → Bool) {tasks : List Task}
    (unique : ∀ (index other : Nat) (task second : Task), tasks[index]? = some task →
      tasks[other]? = some second → selected task = true → selected second = true →
      index = other) : tasks.countP selected ≤ 1 := by
  induction tasks with
  | nil => exact Nat.zero_le 1
  | cons head tail ih =>
      by_cases chosen : selected head = true
      · have nothing : tail.countP selected = 0 := by
          rw [List.countP_eq_zero]
          intro task member also
          obtain ⟨index, found⟩ := List.getElem?_of_mem member
          have same := unique 0 (index + 1) head task rfl found chosen also
          omega
        have one : (head :: tail).countP selected = 1 := by
          rw [List.countP_cons_of_pos chosen, nothing]
        exact Nat.le_of_eq one
      · rw [List.countP_cons_of_neg chosen]
        apply ih
        intro index other task second found foundOther first also
        have same := unique (index + 1) (other + 1) task second found foundOther first also
        omega

theorem forall_mem_set {property : Task → Prop} {tasks : List Task} {index : Nat} {new : Task}
    (all : ∀ task ∈ tasks, property task) (fresh : property new) :
    ∀ task ∈ tasks.set index new, property task := by
  intro task member
  rcases List.mem_or_eq_of_mem_set member with old | same
  · exact all task old
  · rw [same]
    exact fresh

theorem forall_mem_append_singleton {property : Task → Prop} {tasks : List Task} {new : Task}
    (all : ∀ task ∈ tasks, property task) (fresh : property new) :
    ∀ task ∈ tasks ++ [new], property task := by
  intro task member
  rcases List.mem_append.mp member with old | last
  · exact all task old
  · rw [List.mem_singleton.mp last]
    exact fresh

/-- Rewriting the task created last leaves the others in front of it. -/
theorem set_last_split {tasks : List Task} {index : Nat} {old : Task}
    (found : tasks[index]? = some old) (last : index + 1 = tasks.length) :
    ∃ before, tasks = before ++ [old] ∧ ∀ new, tasks.set index new = before ++ [new] := by
  induction tasks generalizing index with
  | nil => cases found
  | cons head tail ih =>
      cases index with
      | zero =>
          cases found
          have empty : tail = [] := List.length_eq_zero_iff.mp (by
            rw [List.length_cons] at last
            omega)
          subst empty
          exact ⟨[], rfl, fun _ => rfl⟩
      | succ index =>
          rw [List.length_cons] at last
          obtain ⟨before, split, rewritten⟩ := ih found (Nat.succ.inj last)
          refine ⟨head :: before, by rw [split]; rfl, ?_⟩
          intro new
          rw [List.set_cons_succ, rewritten new]
          rfl

/-- Where an entry of a rewritten table comes from. -/
theorem getElem?_set_eq_some {tasks : List Task} {index other : Nat} {new found : Task}
    (present : (tasks.set index new)[other]? = some found) :
    (other = index ∧ found = new) ∨ (other ≠ index ∧ tasks[other]? = some found) := by
  by_cases same : other = index
  · subst other
    have inside := (List.getElem?_eq_some_iff.mp present).1
    rw [List.length_set] at inside
    rw [List.getElem?_set_self inside] at present
    exact .inl ⟨rfl, (Option.some.inj present).symm⟩
  · rw [List.getElem?_set_ne (Ne.symm same)] at present
    exact .inr ⟨same, present⟩

theorem getElem?_concat_eq_some {tasks : List Task} {other : Nat} {new found : Task}
    (present : (tasks ++ [new])[other]? = some found) :
    (other = tasks.length ∧ found = new) ∨ tasks[other]? = some found := by
  rcases Nat.lt_trichotomy other tasks.length with before | same | after
  · rw [List.getElem?_append_left before] at present
    exact .inr present
  · subst other
    rw [List.getElem?_concat_length] at present
    exact .inl ⟨rfl, (Option.some.inj present).symm⟩
  · rw [List.getElem?_eq_none (by rw [List.length_append]; exact after)] at present
    cases present

end AcdpPlayground.TaskTable
