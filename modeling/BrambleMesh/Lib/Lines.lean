/-
Lines out of a stream that comes in pieces. How it was cut makes no difference (`receive_eq_cut`).
-/
import Mathlib

namespace BrambleMesh.Lines

open List

variable {α : Type*} [DecidableEq α]

def cut (sep : α) (buf : List α) : List (List α) × List α :=
  ((buf.splitOn sep).dropLast, (buf.splitOn sep).getLastD [])

def receive (sep : α) (buf : List α) : List (List α) → List (List α) × List α
  | [] => ([], buf)
  | piece :: pieces =>
    let now := cut sep (buf ++ piece)
    let later := receive sep now.2 pieces
    (now.1 ++ later.1, later.2)

variable {sep : α} {line buf : List α}

lemma cut_open (h : sep ∉ buf) : cut sep buf = ([], buf) := by
  rw [cut, splitOn_eq_singleton h]
  rfl

lemma cut_line (h : sep ∉ line) (rest : List α) :
    cut sep (line ++ sep :: rest) = (line :: (cut sep rest).1, (cut sep rest).2) := by
  have hsplit : (line ++ sep :: rest).splitOn sep = line :: rest.splitOn sep := by
    apply splitOnP_append_cons_of_forall_mem
    · intro x hx
      rw [beq_eq_false_iff_ne]
      rintro rfl
      exact h hx
    · exact beq_self_eq_true sep
  have hne : rest.splitOn sep ≠ [] := splitOnP_ne_nil _ rest
  rw [cut, hsplit, dropLast_cons_of_ne_nil hne, cut]
  cases hlist : rest.splitOn sep with
  | nil => exact absurd hlist hne
  | cons x xs => rfl

lemma line_induction (sep : α) {P : List α → Prop} (hopen : ∀ xs, sep ∉ xs → P xs)
    (hline : ∀ line rest, sep ∉ line → P rest → P (line ++ sep :: rest)) (xs : List α) : P xs := by
  induction hn : xs.length using Nat.strong_induction_on generalizing xs with
  | _ n ih =>
    by_cases hsep : sep ∈ xs
    · obtain ⟨line, rest, rfl, hfree⟩ := eq_append_cons_of_mem hsep
      apply hline line rest hfree
      apply ih rest.length _ rest rfl
      rw [← hn, length_append, length_cons]
      omega
    · exact hopen xs hsep

lemma not_mem_rest (xs : List α) : sep ∉ (cut sep xs).2 := by
  induction xs using line_induction sep with
  | hopen xs h =>
    rw [cut_open h]
    exact h
  | hline line rest h ih =>
    rw [cut_line h]
    exact ih

lemma cut_append (xs ys : List α) :
    cut sep (xs ++ ys) =
      ((cut sep xs).1 ++ (cut sep ((cut sep xs).2 ++ ys)).1,
        (cut sep ((cut sep xs).2 ++ ys)).2) := by
  induction xs using line_induction sep with
  | hopen xs h =>
    rw [cut_open h]
    rfl
  | hline line rest h ih =>
    rw [append_assoc, cons_append, cut_line h, cut_line h, ih]
    rfl

lemma cut_closed (xs : List α) : (cut sep (xs ++ [sep])).2 = [] := by
  rw [cut_append, cut_line (not_mem_rest xs)]
  rfl

/-- **The cuts of the stream make no difference.** -/
theorem receive_eq_cut (h : sep ∉ buf) (pieces : List (List α)) :
    receive sep buf pieces = cut sep (buf ++ pieces.flatten) := by
  induction pieces generalizing buf with
  | nil => rw [flatten_nil, append_nil, cut_open h, receive]
  | cons piece pieces ih =>
    rw [receive, flatten_cons, ← append_assoc,
      cut_append (buf ++ piece) pieces.flatten, ih (not_mem_rest _)]

end BrambleMesh.Lines
