/-
Visiting a finite set in turn: the next member after a cursor is the least one above it, or the
least of all where none is above.
-/
import Mathlib

namespace BrambleMesh.Cyclic

variable {α : Type*} [LinearOrder α] {s : Finset α} {a b : α}

structure IsNext (s : Finset α) (a b : α) : Prop where
  mem : b ∈ s
  above : a < b ∨ ∀ c ∈ s, c ≤ a
  least : ∀ c ∈ s, (a < c ∨ ∀ d ∈ s, d ≤ a) → b ≤ c

def rank (s : Finset α) (a : α) : ℕ := (s.filter (· < a)).card

lemma rank_lt_rank (ha : a ∈ s) (h : a < b) : rank s a < rank s b := by
  apply Finset.card_lt_card
  refine ⟨fun c hc => ?_, fun hsub => ?_⟩
  · rw [Finset.mem_filter] at hc ⊢
    exact ⟨hc.1, hc.2.trans h⟩
  · exact lt_irrefl a (Finset.mem_filter.1 (hsub (Finset.mem_filter.2 ⟨ha, h⟩))).2

lemma rank_inj (ha : a ∈ s) (hb : b ∈ s) (h : rank s a = rank s b) : a = b := by
  rcases lt_trichotomy a b with hlt | heq | hgt
  · exact absurd h (rank_lt_rank ha hlt).ne
  · exact heq
  · exact absurd h (rank_lt_rank hb hgt).ne'

lemma rank_lt (ha : a ∈ s) : rank s a < s.card := by
  apply Finset.card_lt_card
  refine ⟨Finset.filter_subset _ _, fun hsub => ?_⟩
  exact lt_irrefl a (Finset.mem_filter.1 (hsub ha)).2

lemma IsNext.rank_eq (h : IsNext s a b) (ha : a ∈ s) :
    rank s b = (rank s a + 1) % s.card := by
  by_cases hlt : a < b
  · have hset : s.filter (· < b) = insert a (s.filter (· < a)) := by
      ext c
      simp only [Finset.mem_filter, Finset.mem_insert]
      constructor
      · rintro ⟨hc, hcb⟩
        rcases lt_trichotomy c a with hca | rfl | hac
        · exact Or.inr ⟨hc, hca⟩
        · exact Or.inl rfl
        · exact absurd (h.least c hc (Or.inl hac)) (not_le.2 hcb)
      · rintro (rfl | ⟨hc, hca⟩)
        · exact ⟨ha, hlt⟩
        · exact ⟨hc, hca.trans hlt⟩
    have hrank : rank s b = rank s a + 1 := by
      rw [rank, hset, Finset.card_insert_of_notMem, rank]
      exact fun hmem => lt_irrefl a (Finset.mem_filter.1 hmem).2
    rw [← hrank, Nat.mod_eq_of_lt (rank_lt h.mem)]
  · -- `a` is the last member and `b` the first
    have hlast := h.above.resolve_left hlt
    have hset : s.filter (· < a) = s.erase a := by
      ext c
      simp only [Finset.mem_filter, Finset.mem_erase]
      exact ⟨fun hc => ⟨hc.2.ne, hc.1⟩, fun hc => ⟨hc.2, lt_of_le_of_ne (hlast c hc.2) hc.1⟩⟩
    have hrank : rank s a + 1 = s.card := by
      rw [rank, hset, Finset.card_erase_add_one ha]
    have hfirst : s.filter (· < b) = ∅ := by
      apply Finset.filter_eq_empty_iff.2
      intro c hc
      exact not_lt.2 (h.least c hc (Or.inr hlast))
    rw [hrank, Nat.mod_self, rank, hfirst, Finset.card_empty]

lemma rank_visit {x : ℕ → α} (h : ∀ i, IsNext s (x i) (x (i + 1))) (m j : ℕ) :
    rank s (x (m + 1 + j)) = (rank s (x (m + 1)) + j) % s.card := by
  induction j with
  | zero => exact (Nat.mod_eq_of_lt (rank_lt (h m).mem)).symm
  | succ j ih =>
    have hmem : x (m + 1 + j) ∈ s := by
      rw [Nat.add_right_comm]
      exact (h (m + j)).mem
    rw [← Nat.add_assoc, (h (m + 1 + j)).rank_eq hmem, ih, Nat.mod_add_mod, Nat.add_assoc]

lemma visits_once {x : ℕ → α} (h : ∀ i, IsNext s (x i) (x (i + 1))) (m : ℕ) (hb : b ∈ s) :
    ∃! j, j < s.card ∧ x (m + 1 + j) = b := by
  have hmem : ∀ j, x (m + 1 + j) ∈ s := by
    intro j
    rw [Nat.add_right_comm]
    exact (h (m + j)).mem
  have hstart := rank_lt (hmem 0)
  have hgoal := rank_lt hb
  -- the turn of the member's rank, counted from that of the first visit
  obtain ⟨j, hj, hturn⟩ : ∃ j < s.card, (rank s (x (m + 1)) + j) % s.card = rank s b := by
    by_cases hle : rank s (x (m + 1)) ≤ rank s b
    · refine ⟨rank s b - rank s (x (m + 1)), by omega, ?_⟩
      rw [Nat.add_sub_cancel' hle, Nat.mod_eq_of_lt hgoal]
    · refine ⟨s.card - rank s (x (m + 1)) + rank s b, by omega, ?_⟩
      rw [← Nat.add_assoc, Nat.add_sub_cancel' hstart.le, Nat.add_mod_left, Nat.mod_eq_of_lt hgoal]
  refine ⟨j, ⟨hj, rank_inj (hmem j) hb (by rw [rank_visit h, hturn])⟩, ?_⟩
  rintro k ⟨hk, rfl⟩
  rw [rank_visit h] at hturn
  have hmod := Nat.ModEq.add_left_cancel' _ hturn.symm
  rwa [Nat.ModEq, Nat.mod_eq_of_lt hk, Nat.mod_eq_of_lt hj] at hmod

end BrambleMesh.Cyclic
