/-
Functions that interrupt one another. A job is the list of actions that a function still has to
do; an action is taken off the front of one and may put further ones there.
-/
import Mathlib

namespace BrambleMesh.Jobs

open List

variable {ω : Type*} {jobs rest : List (List ω)} {k : ℕ} {op : ω}

def next (jobs : List (List ω)) (k : ℕ) : Option (ω × List (List ω)) :=
  match jobs[k]? with
  | some (op :: job) => some (op, jobs.set k job)
  | _ => none

def resume (jobs : List (List ω)) (k : ℕ) (ops : List ω) : List (List ω) :=
  jobs.modify k (ops ++ ·)

lemma next_eq_some (h : next jobs k = some (op, rest)) :
    ∃ job, jobs[k]? = some (op :: job) ∧ rest = jobs.set k job := by
  unfold next at h
  rcases hk : jobs[k]? with _ | _ | ⟨op', job⟩ <;> rw [hk] at h
  · cases h
  · cases h
  · cases h
    exact ⟨job, rfl, rfl⟩

lemma flatten_next (h : next jobs k = some (op, rest)) :
    jobs.flatten.Perm (op :: rest.flatten) := by
  obtain ⟨job, hk, rfl⟩ := next_eq_some h
  clear h
  induction jobs generalizing k with
  | nil => simp at hk
  | cons first jobs ih =>
    cases k with
    | zero =>
      cases hk
      exact Perm.refl _
    | succ k =>
      exact ((ih hk).append_left first).trans perm_middle

lemma flatten_resume (hk : k < jobs.length) (ops : List ω) :
    (resume jobs k ops).flatten.Perm (ops ++ jobs.flatten) := by
  unfold resume
  induction jobs generalizing k with
  | nil => exact absurd hk (Nat.not_lt_zero _)
  | cons first jobs ih =>
    cases k with
    | zero =>
      rw [modify_zero_cons, flatten_cons, flatten_cons, append_assoc]
    | succ k =>
      rw [modify_succ_cons, flatten_cons, flatten_cons]
      refine ((ih (Nat.lt_of_succ_lt_succ hk)).append_left first).trans ?_
      rw [← append_assoc, ← append_assoc]
      exact perm_append_comm.append_right _

lemma flatten_step (h : next jobs k = some (op, rest)) (ops : List ω) :
    (resume rest k ops).flatten.Perm (ops ++ rest.flatten) := by
  obtain ⟨job, hk, rfl⟩ := next_eq_some h
  apply flatten_resume
  rw [List.length_set]
  exact (List.getElem?_eq_some_iff.1 hk).1

end BrambleMesh.Jobs
