/-
Fixed-size tables scanned from slot 0. A table of `n` slots is a function from `Fin n`, and an
assignment to a slot is `Function.update`.
-/
import Mathlib

namespace BrambleMesh.Table

open Function List

variable {n : ℕ} {α : Type*}

/-! ## The first slot with a property -/

def find (p : α → Bool) (t : Fin n → α) : Option (Fin n) :=
  (List.finRange n).find? fun i => p (t i)

variable {p : α → Bool} {t : Fin n → α} {i : Fin n} {key : α → ℕ} {default : α} {l : List α}

lemma find_eq_none :
    find p t = none ↔ ∀ i, p (t i) = false := by
  simp [find, find?_eq_none]

lemma exists_find (hi : p (t i)) :
    ∃ j, find p t = some j := by
  rw [← Option.ne_none_iff_exists']
  intro hnone
  rw [find_eq_none.1 hnone i] at hi
  cases hi

lemma find_some (h : find p t = some i) :
    p (t i) := by
  simpa using find?_some h

lemma find_before {j : Fin n} (h : find p t = some i) (hj : j < i) : p (t j) = false := by
  obtain ⟨-, as, bs, hsplit, hpre⟩ := find?_eq_some_iff_append.1 h
  have hmem : j ∈ as := by
    -- the list is sorted, so what is below `i` stands before it
    have hsorted : (as ++ i :: bs).Pairwise (· < ·) := hsplit ▸ pairwise_lt_finRange n
    have hj' : j ∈ as ++ i :: bs := hsplit ▸ mem_finRange j
    rcases mem_append.1 hj' with hj' | hj'
    · exact hj'
    · have hbs := (pairwise_append.1 hsorted).2.1
      rcases mem_cons.1 hj' with rfl | hj'
      · exact absurd hj (lt_irrefl _)
      · exact absurd ((pairwise_cons.1 hbs).1 j hj') (not_lt.2 hj.le)
  simpa using hpre j hmem

lemma find_eq_some_of_unique (hi : p (t i)) (huniq : ∀ j, p (t j) → j = i) :
    find p t = some i := by
  cases h : find p t with
  | none => simp [find_eq_none.1 h i] at hi
  | some j => rw [huniq j (find_some h)]

lemma find_eq_some_of_first (hi : p (t i) = true) (hbefore : ∀ j < i, p (t j) = false) :
    find p t = some i := by
  obtain ⟨j, hj⟩ := exists_find hi
  rcases lt_trichotomy j i with hlt | heq | hgt
  · have hp := find_some hj
    rw [hbefore j hlt] at hp
    cases hp
  · rw [hj, heq]
  · rw [find_before hj hgt] at hi
    cases hi

/-! ## A search after an assignment -/

section

variable {p : α → Bool} {t : Fin n → α} {i j : Fin n} {x : α}

lemma find_update_found (h : find p t = some i) (hx : p x) :
    find p (update t i x) = some i := by
  apply find_eq_some_of_first
  · rw [update_self]
    exact hx
  · intro j hj
    rw [update_of_ne hj.ne]
    exact find_before h hj

lemma find_update_new (h : find p t = none) (hx : p x) :
    find p (update t i x) = some i := by
  apply find_eq_some_of_first
  · rw [update_self]
    exact hx
  · intro j hj
    rw [update_of_ne hj.ne]
    exact find_eq_none.1 h j

end

/-! ## Tables with at most one entry

`p` holds of an entry and `q` of a free slot; no slot is both. -/

section

variable {p q : α → Bool} {t : Fin n → α} {i : Fin n} {x : α}

def Sole (p q : α → Bool) (t : Fin n → α) : Prop :=
  ∀ i, q (t i) ∨ p (t i) ∧ ∀ j, j ≠ i → q (t j)

lemma Sole.free_of_find_none (h : Sole p q t) (hnone : find p t = none) (i : Fin n) :
    q (t i) := by
  rcases h i with hq | ⟨hp, -⟩
  · exact hq
  · rw [find_eq_none.1 hnone i] at hp
    cases hp

lemma Sole.free_of_find_some (h : Sole p q t) (hpq : ∀ x, q x = true → p x = false)
    (hfind : find p t = some i) : ∀ j, j ≠ i → q (t j) := by
  rcases h i with hq | ⟨-, hfree⟩
  · have hp := find_some hfind
    rw [hpq _ hq] at hp
    cases hp
  · exact hfree

lemma sole_update (hfree : ∀ j, j ≠ i → q (t j)) (hx : p x ∨ q x) :
    Sole p q (update t i x) := by
  intro j
  by_cases hj : j = i
  · subst hj
    rw [update_self]
    rcases hx with hp | hq
    · right
      refine ⟨hp, fun k hk => ?_⟩
      rw [update_of_ne hk]
      exact hfree k hk
    · exact .inl hq
  · rw [update_of_ne hj]
    exact .inl (hfree j hj)

lemma find_update_entry (hpq : ∀ x, q x = true → p x = false)
    (hfree : ∀ j, j ≠ i → q (t j)) (hx : p x) :
    find p (update t i x) = some i := by
  apply find_eq_some_of_unique
  · rw [update_self]
    exact hx
  · intro j hj
    by_contra hne
    rw [update_of_ne hne, hpq _ (hfree j hne)] at hj
    cases hj

lemma find_update_free (hpq : ∀ x, q x = true → p x = false)
    (hfree : ∀ j, j ≠ i → q (t j)) (hx : q x) :
    find p (update t i x) = none := by
  rw [find_eq_none]
  intro j
  by_cases hj : j = i
  · subst hj
    rw [update_self]
    exact hpq x hx
  · rw [update_of_ne hj]
    exact hpq _ (hfree j hj)

end

/-! ## The slot with the largest key -/

def argmax [NeZero n] (key : α → ℕ) (t : Fin n → α) : Fin n :=
  (List.finRange n).foldl (fun best i => if key (t best) < key (t i) then i else best) 0

private lemma foldl_argmax_le (key : α → ℕ) (t : Fin n → α) (is : List (Fin n)) (b : Fin n) :
    let best := is.foldl (fun best i => if key (t best) < key (t i) then i else best) b
    key (t b) ≤ key (t best) ∧ ∀ i ∈ is, key (t i) ≤ key (t best) := by
  induction is generalizing b with
  | nil => simp
  | cons i is ih =>
    obtain ⟨hb, his⟩ := ih (if key (t b) < key (t i) then i else b)
    have hstep : key (t b) ≤ key (t (if key (t b) < key (t i) then i else b)) ∧
        key (t i) ≤ key (t (if key (t b) < key (t i) then i else b)) := by
      split <;> omega
    refine ⟨le_trans hstep.1 hb, fun j hj => ?_⟩
    rcases mem_cons.1 hj with rfl | hj
    · exact le_trans hstep.2 hb
    · exact his j hj

lemma le_argmax [NeZero n] (key : α → ℕ) (t : Fin n → α) (i : Fin n) :
    key (t i) ≤ key (t (argmax key t)) :=
  (foldl_argmax_le key t (finRange n) 0).2 i (mem_finRange i)

def argmaxOn (p : α → Bool) (key : α → ℕ) (t : Fin n → α) : Option (Fin n) :=
  (List.finRange n).foldl
    (fun best i =>
      if p (t i) then
        match best with
        | none => some i
        | some b => if key (t b) < key (t i) then some i else some b
      else best) none

def IsBest (p : α → Bool) (key : α → ℕ) (t : Fin n → α) (seen : List (Fin n)) :
    Option (Fin n) → Prop
  | none => ∀ j ∈ seen, p (t j) = false
  | some b => p (t b) ∧ ∀ j ∈ seen, p (t j) → key (t j) ≤ key (t b)

lemma argmaxOn_isBest (p : α → Bool) (key : α → ℕ) (t : Fin n → α) :
    IsBest p key t (finRange n) (argmaxOn p key t) := by
  unfold argmaxOn
  -- over the slots seen so far, from the last one back
  induction finRange n using List.reverseRecOn with
  | nil => exact fun j hj => absurd hj not_mem_nil
  | append_singleton seen i ih =>
    rw [foldl_append, foldl_cons, foldl_nil]
    generalize seen.foldl _ none = best at ih ⊢
    by_cases hi : p (t i)
    · rw [if_pos hi]
      cases best with
      | none =>
        refine ⟨hi, fun j hj hpj => ?_⟩
        rcases mem_append.1 hj with hj | hj
        · exact absurd hpj (ih j hj ▸ Bool.false_ne_true)
        · rw [mem_singleton.1 hj]
      | some b =>
        obtain ⟨hb, hmax⟩ := ih
        dsimp only
        split_ifs with hlt
        · refine ⟨hi, fun j hj hpj => ?_⟩
          rcases mem_append.1 hj with hj | hj
          · exact le_trans (hmax j hj hpj) hlt.le
          · rw [mem_singleton.1 hj]
        · refine ⟨hb, fun j hj hpj => ?_⟩
          rcases mem_append.1 hj with hj | hj
          · exact hmax j hj hpj
          · rw [mem_singleton.1 hj]
            exact not_lt.1 hlt
    · rw [if_neg hi]
      cases best with
      | none =>
        intro j hj
        rcases mem_append.1 hj with hj | hj
        · exact ih j hj
        · rw [mem_singleton.1 hj]
          exact Bool.not_eq_true _ ▸ hi
      | some b =>
        refine ⟨ih.1, fun j hj hpj => ?_⟩
        rcases mem_append.1 hj with hj | hj
        · exact ih.2 j hj hpj
        · exact absurd (mem_singleton.1 hj ▸ hpj) hi

lemma argmaxOn_some (h : argmaxOn p key t = some i) : p (t i) := by
  have hbest := argmaxOn_isBest p key t
  rw [h] at hbest
  exact hbest.1

lemma le_argmaxOn {j : Fin n} (h : argmaxOn p key t = some i) (hj : p (t j)) :
    key (t j) ≤ key (t i) := by
  have hbest := argmaxOn_isBest p key t
  rw [h] at hbest
  exact hbest.2 j (mem_finRange j) hj

lemma argmaxOn_none (h : argmaxOn p key t = none) (j : Fin n) : p (t j) = false := by
  have hbest := argmaxOn_isBest p key t
  rw [h] at hbest
  exact hbest j (mem_finRange j)

lemma argmaxOn_isSome (key : α → ℕ) (hi : p (t i)) : ∃ j, argmaxOn p key t = some j := by
  rw [← Option.ne_none_iff_exists']
  intro hnone
  exact absurd hi (argmaxOn_none hnone i ▸ Bool.false_ne_true)

/-! ## Counting -/

def count (p : α → Bool) (t : Fin n → α) : ℕ := (List.finRange n).countP fun i => p (t i)

/-! ## What the slots hold -/

section

def held (used : α → Bool) (t : Fin n → α) : Multiset α :=
  (Finset.univ.val.map t).filter fun x => used x = true

variable {used : α → Bool} {x : α}

lemma mem_held : x ∈ held used t ↔ ∃ i, used (t i) ∧ t i = x := by
  simp only [held, Multiset.mem_filter, Multiset.mem_map, Finset.mem_val, Finset.mem_univ, true_and]
  constructor
  · rintro ⟨⟨i, rfl⟩, hused⟩
    exact ⟨i, hused, rfl⟩
  · rintro ⟨i, hused, rfl⟩
    exact ⟨⟨i, rfl⟩, hused⟩

lemma map_univ_update (t : Fin n → α) (i : Fin n) (x : α) :
    Finset.univ.val.map (update t i x) = x ::ₘ (Finset.univ.erase i).val.map t := by
  rw [← Finset.insert_erase (Finset.mem_univ i),
    Finset.insert_val_of_notMem (Finset.notMem_erase i _), Multiset.map_cons, update_self,
    Finset.erase_insert (Finset.notMem_erase i _)]
  congr 1
  apply Multiset.map_congr rfl
  intro j hj
  rw [Finset.mem_val] at hj
  exact update_of_ne (Finset.ne_of_mem_erase hj) x t

lemma map_univ_erase (i : Fin n) (t : Fin n → α) : Finset.univ.val.map t =
    t i ::ₘ (Finset.univ.erase i).val.map t := by
  rw [← map_univ_update, update_eq_self]

lemma held_put (hfree : used (t i) = false) (hx : used x = true) :
    held used (update t i x) = x ::ₘ held used t := by
  rw [held, held, map_univ_update, map_univ_erase i t, Multiset.filter_cons_of_pos,
    Multiset.filter_cons_of_neg]
  · rw [hfree]
    exact Bool.false_ne_true
  · exact hx

lemma held_drop (hused : used (t i) = true) (hx : used x = false) :
    held used t = t i ::ₘ held used (update t i x) := by
  rw [held, held, map_univ_update, map_univ_erase i t, Multiset.filter_cons_of_pos,
    Multiset.filter_cons_of_neg]
  · rw [hx]
    exact Bool.false_ne_true
  · exact hused

lemma count_eq_countP_held (q : α → Prop) [DecidablePred q] :
    count (fun x => used x && decide (q x)) t = (held used t).countP q := by
  have hlist : (Finset.univ : Finset (Fin n)).val = (finRange n : Multiset (Fin n)) := rfl
  rw [count, held, Multiset.countP_filter, hlist, Multiset.map_coe, Multiset.coe_countP,
    countP_map]
  congr 1
  funext i
  simp [Bool.and_comm]

lemma card_held_le : (held used t).card ≤ n := by
  have hle := Multiset.card_le_card (Multiset.filter_le (fun x => used x)
    (Finset.univ.val.map t))
  rwa [Multiset.card_map, Finset.card_val, Finset.card_fin] at hle

lemma card_held_full (h : ∀ i, used (t i)) : (held used t).card = n := by
  have hall : held used t = Finset.univ.val.map t := by
    apply Multiset.filter_eq_self.2
    intro x hx
    obtain ⟨i, -, rfl⟩ := Multiset.mem_map.1 hx
    exact h i
  rw [hall, Multiset.card_map, Finset.card_val, Finset.card_fin]

end

/-! ## Tables filled from the front -/

lemma map_find (p : α → Bool) (t : Fin n → α) :
    (find p t).map t = ((finRange n).map t).find? p := by
  rw [find?_map]
  rfl

def ofList (default : α) (l : List α) : Fin n → α := fun i => l.getD i.val default

lemma map_ofList (h : l.length ≤ n) :
    (finRange n).map (ofList default l) = l ++ replicate (n - l.length) default := by
  apply ext_getElem
  · rw [length_map, length_finRange, length_append, length_replicate]
    omega
  · intro i hi hi'
    rw [getElem_map, getElem_finRange, ofList, getElem_append]
    split
    case isTrue => exact getD_eq_getElem _ _ _
    case isFalse hge =>
      rw [getElem_replicate]
      exact getD_eq_default _ _ (not_lt.1 hge)

lemma update_ofList (h : l.length < n) (x : α) :
    update (ofList default l) ⟨l.length, h⟩ x = ofList default (l ++ [x]) := by
  funext i
  by_cases hi : i = ⟨l.length, h⟩
  · subst hi
    rw [update_self, ofList, getD_append_right _ _ _ _ (le_refl _), Nat.sub_self]
    rfl
  · rw [update_of_ne hi, ofList, ofList]
    have hne : i.val ≠ l.length := fun heq => hi (Fin.ext heq)
    rcases lt_or_gt_of_ne hne with hlt | hgt
    · rw [getD_append _ _ _ _ hlt]
    · rw [getD_eq_default _ _ hgt.le, getD_eq_default]
      rw [length_append, length_singleton]
      exact hgt

lemma find_ofList (h : l.length < n) (hl : ∀ x ∈ l, p x = false) (hdefault : p default = true) :
    find p (ofList default l) = some (⟨l.length, h⟩ : Fin n) := by
  apply find_eq_some_of_first
  · rw [ofList, getD_eq_default _ _ (le_refl _)]
    exact hdefault
  · intro j hj
    rw [ofList, getD_eq_getElem _ _ hj]
    exact hl _ (getElem_mem _)

lemma getElem?_filter_ofFn (hfront : ∀ i j, i < j → p (t j) → p (t i)) (i : Fin n) :
    ((ofFn t).filter p)[i.val]? = if p (t i) then some (t i) else none := by
  induction n with
  | zero => exact i.elim0
  | succ n ih =>
    rw [ofFn_succ]
    by_cases hzero : p (t 0)
    · rw [filter_cons_of_pos hzero]
      cases i using Fin.cases with
      | zero => rw [Fin.val_zero, getElem?_cons_zero, if_pos hzero]
      | succ i =>
        exact ih (fun j k hjk => hfront j.succ k.succ (Fin.succ_lt_succ_iff.2 hjk)) i
    · -- the first entry is free, so all are
      have hnone : ∀ j, ¬ p (t j) := by
        intro j hj
        cases j using Fin.cases with
        | zero => exact hzero hj
        | succ j => exact hzero (hfront 0 j.succ (Fin.succ_pos j) hj)
      rw [filter_cons_of_neg hzero, if_neg (hnone i), filter_eq_nil_iff.2,
        getElem?_nil]
      intro x hx
      obtain ⟨j, rfl⟩ := mem_ofFn.1 hx
      exact hnone j.succ

end BrambleMesh.Table
