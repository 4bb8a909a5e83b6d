/-
The history of a direct-mapped cache whose entries are used at most once. `held` computes from the
events what a slot holds, and `held_iff` says the same in terms of the history alone.
-/
import Mathlib.Data.List.Basic

namespace BrambleMesh.DirectCache

open List

inductive Event
  | parked (i : ℕ)
  | taken (i : ℕ)
deriving DecidableEq, Repr

def held (n : ℕ) : List Event → ℕ → Option ℕ
  | [], _ => none
  | .parked j :: es, k => if j % n = k then some j else held n es k
  | .taken j :: es, k => if held n es k = some j then none else held n es k

def park_from (c : ℕ) : ℕ → List Event
  | 0 => []
  | m + 1 => .parked (c + m) :: park_from c m

def Waiting (n : ℕ) (es : List Event) (i : ℕ) : Prop :=
  ∃ later earlier, es = later ++ .parked i :: earlier ∧ .taken i ∉ later ∧
    ∀ j, .parked j ∈ later → j % n ≠ i % n

variable {n : ℕ} {es : List Event} {i j k : ℕ}

lemma mod_of_held (h : held n es k = some i) : i % n = k := by
  induction es with
  | nil => cases h
  | cons e es ih =>
    match e with
    | .parked j =>
      rw [held] at h
      split_ifs at h with hj
      · rw [← Option.some.inj h]
        exact hj
      · exact ih h
    | .taken j =>
      rw [held] at h
      split_ifs at h
      exact ih h

lemma parked_of_held (h : held n es k = some i) : .parked i ∈ es := by
  induction es with
  | nil => cases h
  | cons e es ih =>
    match e with
    | .parked j =>
      rw [held] at h
      split_ifs at h with hj
      · rw [← Option.some.inj h]
        exact mem_cons_self
      · exact mem_cons_of_mem _ (ih h)
    | .taken j =>
      rw [held] at h
      split_ifs at h
      exact mem_cons_of_mem _ (ih h)

lemma waiting_cons {e : Event} : Waiting n (e :: es) i ↔ e = .parked i ∨
    (e ≠ .taken i ∧ ∀ j, e = .parked j → j % n ≠ i % n) ∧ Waiting n es i := by
  constructor
  · rintro ⟨later, earlier, heq, htake, hpark⟩
    cases later with
    | nil => exact Or.inl (cons.inj heq).1
    | cons e' later =>
      obtain ⟨rfl, rfl⟩ := cons.inj heq
      refine Or.inr ⟨⟨?_, ?_⟩, later, earlier, rfl, ?_, ?_⟩
      · exact fun h => htake (h ▸ mem_cons_self)
      · exact fun j h => hpark j (h ▸ mem_cons_self)
      · exact fun h => htake (mem_cons_of_mem _ h)
      · exact fun j h => hpark j (mem_cons_of_mem _ h)
  · rintro (rfl | ⟨⟨htaken, hparked⟩, later, earlier, rfl, htake, hpark⟩)
    · exact ⟨[], es, rfl, not_mem_nil, fun _ h => absurd h not_mem_nil⟩
    · refine ⟨e :: later, earlier, rfl, ?_, ?_⟩
      · rw [mem_cons, not_or]
        exact ⟨htaken.symm, htake⟩
      · intro j hj
        rcases mem_cons.1 hj with h | h
        · exact hparked j h.symm
        · exact hpark j h

lemma held_iff : held n es (i % n) = some i ↔ Waiting n es i := by
  induction es with
  | nil =>
    constructor
    · intro h
      cases h
    · rintro ⟨later, earlier, heq, -⟩
      exact absurd heq.symm (append_ne_nil_of_right_ne_nil _ (cons_ne_nil _ _))
  | cons e es ih =>
    cases e with
    | parked j =>
      rw [waiting_cons, ← ih, held]
      split_ifs with hj <;> grind
    | taken j =>
      rw [waiting_cons, ← ih, held]
      -- what is taken is what the slot held
      split_ifs with hheld <;> grind

lemma held_park_from (m : ℕ) (h : held n (park_from j m ++ es) k = some i) :
    j ≤ i ∨ held n es k = some i := by
  induction m with
  | zero => exact Or.inr h
  | succ m ih =>
    rw [park_from, cons_append, held] at h
    split_ifs at h
    · rw [← Option.some.inj h]
      exact Or.inl (Nat.le_add_right j m)
    · exact ih h

lemma mem_park_from {e : Event} {c m : ℕ} :
    e ∈ park_from c m ↔ ∃ i, c ≤ i ∧ i < c + m ∧ e = .parked i := by
  induction m with
  | zero =>
    constructor
    · intro h
      cases h
    · rintro ⟨i, h1, h2, -⟩
      omega
  | succ m ih =>
    rw [park_from, mem_cons, ih]
    constructor
    · rintro (rfl | ⟨i, h1, h2, rfl⟩)
      · exact ⟨c + m, by omega, by omega, rfl⟩
      · exact ⟨i, h1, by omega, rfl⟩
    · rintro ⟨i, h1, h2, rfl⟩
      by_cases hi : i = c + m
      · exact Or.inl (by rw [hi])
      · exact Or.inr ⟨i, h1, by omega, rfl⟩

lemma taken_not_mem_park_from (i c m : ℕ) : .taken i ∉ park_from c m := by
  intro h
  obtain ⟨j, -, -, heq⟩ := mem_park_from.1 h
  exact nomatch heq

lemma taken_mem_park_append {c m : ℕ} : .taken i ∈ park_from c m ++ es ↔ .taken i ∈ es := by
  rw [mem_append, or_iff_right (taken_not_mem_park_from i c m)]

lemma lt_of_parked_mem_append {c m : ℕ} (hold : ∀ i, .parked i ∈ es → i < c)
    (h : .parked i ∈ park_from c m ++ es) : i < c + m := by
  rcases mem_append.1 h with hnew | hmem
  · obtain ⟨j, -, hj, heq⟩ := mem_park_from.1 hnew
    rw [Event.parked.inj heq]
    exact hj
  · exact Nat.lt_add_right m (hold i hmem)

end BrambleMesh.DirectCache
