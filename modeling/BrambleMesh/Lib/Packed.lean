/-
Arrays that are kept packed: an entry is removed by moving the last one into its place. Such an
array is the list of its entries.
-/
import Mathlib.Data.List.Perm.Basic

namespace BrambleMesh.Packed

open List

variable {α : Type*}

def swap_remove (l : List α) (i : ℕ) : List α :=
  match l.getLast? with
  | none => l
  | some x => (l.set i x).dropLast

def purge (p : α → Bool) : ℕ → ℕ → List α → List α
  | 0, _, l => l
  | fuel + 1, i, l =>
    match l[i]? with
    | none => l
    | some x => if p x then purge p fuel i (swap_remove l i) else purge p fuel (i + 1) l

def oldest (key : α → ℕ) (l : List α) : ℕ :=
  (List.range l.length).foldl
    (fun best i =>
      match l[i]?, l[best]? with
      | some x, some b => if key x < key b then i else best
      | _, _ => best)
    0

variable {x : α} {p : α → Bool}

variable {l : List α} {i : ℕ}

lemma mem_of_mem_swap_remove (h : x ∈ swap_remove l i) : x ∈ l := by
  unfold swap_remove at h
  split at h
  · exact h
  · next y hy =>
    -- what is written at `i` is the last entry
    rcases mem_or_eq_of_mem_set ((dropLast_sublist _).subset h) with hmem | rfl
    · exact hmem
    · exact mem_of_getLast? hy

variable (fuel : ℕ)

lemma mem_of_mem_purge : ∀ (i : ℕ) (l : List α), x ∈ purge p fuel i l → x ∈ l := by
  induction fuel with
  | zero => exact fun _ _ h => h
  | succ fuel ih =>
    intro i l h
    rw [purge] at h
    split at h
    · exact h
    · split_ifs at h
      · exact mem_of_mem_swap_remove (ih i _ h)
      · exact ih (i + 1) l h

lemma mem_swap_remove_of_ne {y : α} (hx : x ∈ l) (hy : l[i]? = some y) (hne : x ≠ y) :
    x ∈ swap_remove l i := by
  obtain ⟨j, hj, rfl⟩ := List.mem_iff_getElem.1 hx
  obtain ⟨hi, rfl⟩ := List.getElem?_eq_some_iff.1 hy
  have hji : j ≠ i := fun h => hne (by simp [h])
  have hpos : l ≠ [] := List.ne_nil_of_mem hx
  have hlast : l.getLast? = some (l.getLast hpos) := List.getLast?_eq_some_getLast hpos
  unfold swap_remove
  rw [hlast]
  rw [List.mem_iff_getElem]
  by_cases hjl : j < l.length - 1
  · -- an entry before the last one stays where it is
    refine ⟨j, by simpa using hjl, ?_⟩
    rw [List.getElem_dropLast, List.getElem_set_of_ne hji.symm]
  · -- the last one is at place `i` now
    have hj' : j = l.length - 1 := by omega
    refine ⟨i, by simp; omega, ?_⟩
    rw [List.getElem_dropLast, List.getElem_set_self, List.getLast_eq_getElem]
    simp [hj']

lemma mem_purge_of_mem (hx : p x = false) (fuel : ℕ) :
    ∀ (i : ℕ) (l : List α), x ∈ l → x ∈ purge p fuel i l := by
  induction fuel with
  | zero => exact fun _ _ h => h
  | succ fuel ih =>
    intro i l h
    rw [purge]
    split
    · exact h
    · next y hy =>
      split_ifs with hp
      · apply ih
        apply mem_swap_remove_of_ne h hy
        rintro rfl
        simp [hx] at hp
      · exact ih (i + 1) l h

lemma find?_set (hx : p x = true) :
    ∀ (l : List α) (i : ℕ), i < l.length → (∀ j < i, ∀ y, l[j]? = some y → p y = false) →
      (l.set i x).find? p = some x := by
  intro l
  induction l with
  | nil =>
    intro i hi
    exact absurd hi (Nat.not_lt_zero i)
  | cons a l ih =>
    intro i hi hpre
    match i with
    | 0 => rw [set_cons_zero, find?_cons_of_pos hx]
    | i + 1 =>
      have ha : p a = false := hpre 0 (Nat.succ_pos i) a rfl
      rw [set_cons_succ, find?_cons_of_neg (by rw [ha]; exact Bool.false_ne_true)]
      apply ih i (Nat.lt_of_succ_lt_succ hi)
      intro j hj y hy
      exact hpre (j + 1) (Nat.succ_lt_succ hj) y hy

lemma find?_modify {f : α → α} (hf : ∀ x, p (f x) = p x) :
    ∀ (l : List α) (i : ℕ), l.findIdx? p = some i → (l.modify i f).find? p = (l.find? p).map f := by
  intro l
  induction l with
  | nil =>
    intro i h
    cases h
  | cons a l ih =>
    intro i h
    rw [findIdx?_cons] at h
    split_ifs at h with ha
    · rw [← Option.some.inj h, modify_zero_cons,
        find?_cons_of_pos (by rw [hf]; exact ha), find?_cons_of_pos ha]
      rfl
    · obtain ⟨j, hj, rfl⟩ := Option.map_eq_some_iff.1 h
      rw [modify_succ_cons, find?_cons_of_neg ha, find?_cons_of_neg ha]
      exact ih j hj

/-! ## What a purge leaves -/

def sweep (p : α → Bool) (f : α → α) : ℕ → ℕ → List α → List α
  | 0, _, l => l
  | fuel + 1, i, l =>
    match l[i]? with
    | none => l
    | some x =>
      if p x then sweep p f fuel i (swap_remove l i) else sweep p f fuel (i + 1) (l.set i (f x))

lemma swap_remove_zero_perm (l : List α) : (swap_remove (x :: l) 0).Perm l := by
  rcases eq_nil_or_concat l with rfl | ⟨l, y, rfl⟩
  · exact Perm.nil
  · have h : swap_remove (x :: (l ++ [y])) 0 = y :: l := by
      simp [swap_remove, getLast?_cons, dropLast_cons_of_ne_nil]
    rw [concat_eq_append, h]
    exact (perm_append_singleton y l).symm

lemma swap_remove_succ (hl : l ≠ []) (i : ℕ) :
    swap_remove (x :: l) (i + 1) = x :: swap_remove l i := by
  obtain ⟨l, y, rfl⟩ := (eq_nil_or_concat l).resolve_left hl
  simp [swap_remove, getLast?_cons, dropLast_cons_of_ne_nil]

lemma purge_succ :
    ∀ (i : ℕ) (l : List α), purge p fuel (i + 1) (x :: l) = x :: purge p fuel i l := by
  induction fuel with
  | zero => exact fun _ _ => rfl
  | succ fuel ih =>
    intro i l
    rw [purge, purge, getElem?_cons_succ]
    rcases h : l[i]? with _ | y
    · rfl
    · dsimp only
      rw [swap_remove_succ (ne_nil_of_mem (mem_of_getElem? h)), ih, ih]
      split_ifs <;> rfl

lemma sweep_succ {f : α → α} :
    ∀ (i : ℕ) (l : List α), sweep p f fuel (i + 1) (x :: l) = x :: sweep p f fuel i l := by
  induction fuel with
  | zero => exact fun _ _ => rfl
  | succ fuel ih =>
    intro i l
    rw [sweep, sweep, getElem?_cons_succ]
    rcases h : l[i]? with _ | y
    · rfl
    · dsimp only
      rw [swap_remove_succ (ne_nil_of_mem (mem_of_getElem? h)), set_cons_succ, ih,
        ih]
      split_ifs <;> rfl

/-- What is moved into a hole is looked at too, so exactly what has the property goes. -/
lemma purge_perm :
    ∀ l : List α, l.length ≤ fuel → (purge p fuel 0 l).Perm (l.filter fun x => !p x) := by
  induction fuel with
  | zero =>
    intro l hl
    rw [eq_nil_of_length_eq_zero (Nat.le_zero.1 hl)]
    exact Perm.nil
  | succ fuel ih =>
    intro l hl
    cases l with
    | nil => exact Perm.nil
    | cons x l =>
      have hlen : l.length ≤ fuel := Nat.le_of_succ_le_succ hl
      rw [purge, getElem?_cons_zero]
      dsimp only
      split_ifs with hp
      · have hperm := swap_remove_zero_perm (x := x) l
        rw [filter_cons_of_neg (by simp [hp])]
        exact (ih _ (Nat.le_trans (Nat.le_of_eq hperm.length_eq) hlen)).trans (hperm.filter _)
      · rw [purge_succ, filter_cons_of_pos (by simp [hp])]
        exact (ih l hlen).cons x

lemma sweep_eq_map_purge {f : α → α} :
    ∀ l : List α, l.length ≤ fuel → sweep p f fuel 0 l = (purge p fuel 0 l).map f := by
  induction fuel with
  | zero =>
    intro l hl
    rw [eq_nil_of_length_eq_zero (Nat.le_zero.1 hl)]
    rfl
  | succ fuel ih =>
    intro l hl
    cases l with
    | nil => rfl
    | cons x l =>
      have hlen : l.length ≤ fuel := Nat.le_of_succ_le_succ hl
      rw [sweep, purge, getElem?_cons_zero]
      dsimp only
      split_ifs with hp
      · exact ih _ (Nat.le_trans (Nat.le_of_eq (swap_remove_zero_perm l).length_eq) hlen)
      · rw [set_cons_zero, sweep_succ, purge_succ, ih l hlen, map_cons]

/-! ## Entries rewritten

What the loops do does not depend on the entries but on what they compare. -/

section

variable {β : Type*} {f : α → β}

lemma swap_remove_map (l : List α) (i : ℕ) :
    swap_remove (l.map f) i = (swap_remove l i).map f := by
  unfold swap_remove
  rw [getLast?_map]
  match l.getLast? with
  | none => rfl
  | some x => simp only [Option.map_some, map_dropLast, map_set]

lemma purge_map {q : β → Bool} (h : ∀ x, q (f x) = p x) (fuel : ℕ) :
    ∀ (i : ℕ) (l : List α), purge q fuel i (l.map f) = (purge p fuel i l).map f := by
  induction fuel with
  | zero => exact fun _ _ => rfl
  | succ fuel ih =>
    intro i l
    rw [purge, purge, getElem?_map]
    match l[i]? with
    | none => rfl
    | some x =>
      dsimp only [Option.map_some]
      rw [h, swap_remove_map, ih, ih]
      split_ifs <;> rfl

lemma oldest_map {key : α → ℕ} {key' : β → ℕ} {l : List α}
    (h : ∀ x ∈ l, ∀ y ∈ l, key' (f x) < key' (f y) ↔ key x < key y) :
    oldest key' (l.map f) = oldest key l := by
  unfold oldest
  rw [length_map]
  congr 1
  funext best i
  rw [getElem?_map, getElem?_map]
  rcases hi : l[i]? with _ | x
  · rfl
  · rcases hb : l[best]? with _ | y
    · rfl
    · simp only [Option.map_some, h x (mem_of_getElem? hi) y (mem_of_getElem? hb)]

lemma modify_map {g : α → α} {g' : β → β} (h : ∀ x, g' (f x) = f (g x)) (l : List α) (i : ℕ) :
    (l.map f).modify i g' = (l.modify i g).map f := by
  apply ext_getElem?
  intro j
  rw [getElem?_map, getElem?_modify, getElem?_modify, getElem?_map]
  match l[j]? with
  | none => rfl
  | some x =>
    split_ifs
    · exact congrArg some (h x)
    · rfl

end

end BrambleMesh.Packed
