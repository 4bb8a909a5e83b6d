/-
The weighted mean of integers, as a program computes it: sum and total weight in one pass, then a
division that drops the fraction.
-/
import Mathlib

namespace BrambleMesh.Mean

open List

def weighted_sum (l : List (ℤ × ℤ)) : ℤ := l.foldr (fun p sum => p.1 * p.2 + sum) 0

def total_weight (l : List (ℤ × ℤ)) : ℤ := l.foldr (fun p sum => p.2 + sum) 0

def weighted_mean (l : List (ℤ × ℤ)) : ℤ :=
  if total_weight l ≤ 0 then 0 else (weighted_sum l).tdiv (total_weight l)

variable {l : List (ℤ × ℤ)}

lemma total_weight_nonneg (hw : ∀ p ∈ l, 0 < p.2) : 0 ≤ total_weight l := by
  induction l with
  | nil => exact le_refl 0
  | cons p l ih =>
    have hp := hw p mem_cons_self
    have hl := ih fun q hq => hw q (mem_cons_of_mem p hq)
    simp only [total_weight, foldr_cons] at hl ⊢
    omega

lemma total_weight_pos (hl : l ≠ []) (hw : ∀ p ∈ l, 0 < p.2) :
    0 < total_weight l := by
  obtain ⟨p, l, rfl⟩ := exists_cons_of_ne_nil hl
  have hp := hw p mem_cons_self
  have hrest := total_weight_nonneg fun q hq => hw q (mem_cons_of_mem p hq)
  simp only [total_weight, foldr_cons] at hrest ⊢
  omega

lemma weighted_sum_bounds {lo hi : ℤ} (hw : ∀ p ∈ l, 0 < p.2) (h : ∀ p ∈ l, lo ≤ p.1 ∧ p.1 ≤ hi) :
    lo * total_weight l ≤ weighted_sum l ∧ weighted_sum l ≤ hi * total_weight l := by
  induction l with
  | nil => simp [weighted_sum, total_weight]
  | cons p l ih =>
    have hp := hw p mem_cons_self
    obtain ⟨hlo, hhi⟩ := h p mem_cons_self
    obtain ⟨ihlo, ihhi⟩ := ih (fun q hq => hw q (mem_cons_of_mem p hq))
      fun q hq => h q (mem_cons_of_mem p hq)
    simp only [weighted_sum, total_weight, foldr_cons] at ihlo ihhi ⊢
    have hplo : lo * p.2 ≤ p.1 * p.2 := mul_le_mul_of_nonneg_right hlo hp.le
    have hphi : p.1 * p.2 ≤ hi * p.2 := mul_le_mul_of_nonneg_right hhi hp.le
    constructor
    · linarith [mul_add lo p.2 (l.foldr (fun p sum => p.2 + sum) 0)]
    · linarith [mul_add hi p.2 (l.foldr (fun p sum => p.2 + sum) 0)]

lemma weighted_mean_of_sum {lo hi : ℤ} (hpos : 0 < total_weight l)
    (hlo : lo * total_weight l ≤ weighted_sum l) (hhi : weighted_sum l ≤ hi * total_weight l) :
    lo ≤ weighted_mean l ∧ weighted_mean l ≤ hi := by
  rw [weighted_mean, if_neg (not_le.2 hpos)]
  constructor
  · calc lo = (lo * total_weight l).tdiv (total_weight l) := (Int.mul_tdiv_cancel lo hpos.ne').symm
      _ ≤ (weighted_sum l).tdiv (total_weight l) := Int.tdiv_le_tdiv hpos hlo
  · calc (weighted_sum l).tdiv (total_weight l)
        ≤ (hi * total_weight l).tdiv (total_weight l) := Int.tdiv_le_tdiv hpos hhi
      _ = hi := Int.mul_tdiv_cancel hi hpos.ne'

lemma weighted_mean_bounds {lo hi : ℤ} (hl : l ≠ []) (hw : ∀ p ∈ l, 0 < p.2)
    (h : ∀ p ∈ l, lo ≤ p.1 ∧ p.1 ≤ hi) :
    lo ≤ weighted_mean l ∧ weighted_mean l ≤ hi := by
  obtain ⟨hlo, hhi⟩ := weighted_sum_bounds hw h
  exact weighted_mean_of_sum (total_weight_pos hl hw) hlo hhi

/-- One more value moves the mean no further than the value lies from it, the dropped fraction
included. -/
lemma weighted_mean_append_bounds {lo hi v w : ℤ} (hl : l ≠ []) (hw : ∀ p ∈ l, 0 < p.2)
    (hpos : 0 < w) (hmean : lo < weighted_mean l ∧ weighted_mean l < hi) (hv : lo ≤ v ∧ v ≤ hi) :
    lo ≤ weighted_mean (l ++ [(v, w)]) ∧ weighted_mean (l ++ [(v, w)]) ≤ hi := by
  have htotal := total_weight_pos hl hw
  have hsum : ∀ l : List (ℤ × ℤ), weighted_sum (l ++ [(v, w)]) = weighted_sum l + v * w ∧
      total_weight (l ++ [(v, w)]) = total_weight l + w := by
    intro l
    induction l with
    | nil => simp [weighted_sum, total_weight]
    | cons p l ih =>
      simp only [weighted_sum, total_weight, cons_append, foldr_cons] at ih ⊢
      omega
  -- a sum at or below `lo` times the weight would have had its mean there too
  have hlo : lo * total_weight l ≤ weighted_sum l := by
    by_contra hlt
    refine hmean.1.not_ge ?_
    rw [weighted_mean, if_neg (not_le.2 htotal), ← Int.mul_tdiv_cancel lo htotal.ne']
    exact Int.tdiv_le_tdiv htotal (not_le.1 hlt).le
  have hhi : weighted_sum l ≤ hi * total_weight l := by
    by_contra hlt
    refine hmean.2.not_ge ?_
    rw [weighted_mean, if_neg (not_le.2 htotal), ← Int.mul_tdiv_cancel hi htotal.ne']
    exact Int.tdiv_le_tdiv htotal (not_le.1 hlt).le
  apply weighted_mean_of_sum
  · rw [(hsum l).2]
    omega
  · rw [(hsum l).1, (hsum l).2, mul_add]
    exact add_le_add hlo (mul_le_mul_of_nonneg_right hv.1 hpos.le)
  · rw [(hsum l).1, (hsum l).2, mul_add]
    exact add_le_add hhi (mul_le_mul_of_nonneg_right hv.2 hpos.le)

end BrambleMesh.Mean
