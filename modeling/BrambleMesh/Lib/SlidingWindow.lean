/-
Sliding anti-replay windows. The exact check remembers every counter it has accepted; a window
keeps the highest and one bit for each of the `w` below it. `Represents high bits H` says that the
window stands for the set `H`.
-/
import Mathlib

namespace BrambleMesh.SlidingWindow

variable {w : ℕ} {H : Set ℕ} {high c : ℕ} {bits : BitVec w}

def Admits (w : ℕ) (H : Set ℕ) (c : ℕ) : Prop :=
  c ∉ H ∧ ((∀ h ∈ H, h < c) ∨ ∃ m ∈ H, (∀ h ∈ H, h ≤ m) ∧ m ≤ c + w)

structure Represents (high : ℕ) (bits : BitVec w) (H : Set ℕ) : Prop where
  high_mem : high ∈ H
  le_high : ∀ h ∈ H, h ≤ high
  bit : ∀ d < w, bits.getLsbD d ↔ d + 1 ≤ high ∧ high - (d + 1) ∈ H

/-! ## The answer -/

lemma Represents.admits_of_gt (hR : Represents high bits H) (hc : high < c) :
    Admits w H c :=
  ⟨fun hmem => absurd (hR.le_high c hmem) (not_le.mpr hc),
    Or.inl fun h hh => lt_of_le_of_lt (hR.le_high h hh) hc⟩

lemma admits_iff_forall_le (hmax : H = ∅ ∨ ∃ m ∈ H, ∀ h ∈ H, h ≤ m) :
    Admits w H c ↔ c ∉ H ∧ ∀ h ∈ H, h ≤ c + w := by
  unfold Admits
  rw [and_congr_right_iff]
  intro _
  constructor
  · rintro (hall | ⟨m, -, hm, hle⟩) h hh
    · exact le_trans (hall h hh).le (Nat.le_add_right c w)
    · exact le_trans (hm h hh) hle
  · intro hall
    rcases hmax with rfl | ⟨m, hmem, hm⟩
    · exact .inl fun h hh => absurd hh (Set.notMem_empty h)
    · exact .inr ⟨m, hmem, hm, hall m hmem⟩

lemma Represents.not_admits_below (hR : Represents high bits H) (hc : c + w < high) :
    ¬ Admits w H c := by
  rintro ⟨-, hall | ⟨m, hm, hmax, hle⟩⟩
  · have := hall high hR.high_mem
    omega
  · have := hmax high hR.high_mem
    omega

lemma Represents.admits_iff_bit (hR : Represents high bits H) (hlt : c < high)
    (hle : high ≤ c + w) : Admits w H c ↔ bits.getLsbD (high - c - 1) = false := by
  have hbit := hR.bit (high - c - 1) (by omega)
  rw [show high - (high - c - 1 + 1) = c by omega] at hbit
  constructor
  · rintro ⟨hnew, -⟩
    by_contra hset
    exact hnew (hbit.1 (by simpa using hset)).2
  · intro hclear
    have hnew : c ∉ H := fun hmem => by
      rw [hbit.2 ⟨by omega, hmem⟩] at hclear
      cases hclear
    exact ⟨hnew, .inr ⟨high, hR.high_mem, hR.le_high, hle⟩⟩

/-! ## The moves -/

def advance (bits : BitVec w) (k : ℕ) : BitVec w :=
  if w < k then 0#w
  else if k = w then 1#w <<< (w - 1)
  else (bits <<< k) ||| (1#w <<< (k - 1))

lemma getLsbD_one_shiftLeft {k d : ℕ} (hd : d < w) :
    (1#w <<< k).getLsbD d = decide (d = k) := by
  by_cases h : d = k
  · simp [h, show k < w by omega]
  · by_cases hlt : d < k
    · simp [hlt, h]
    · simp [hd, hlt, h, show d - k ≠ 0 by omega]

lemma and_one_shiftLeft_eq_zero {k : ℕ} (hk : k < w) :
    bits &&& (1#w <<< k) = 0#w ↔ bits.getLsbD k = false := by
  constructor
  · intro h
    have hk' : (bits &&& (1#w <<< k)).getLsbD k = false := by rw [h, BitVec.getLsbD_zero]
    rw [BitVec.getLsbD_and, getLsbD_one_shiftLeft hk] at hk'
    simpa using hk'
  · intro h
    apply BitVec.eq_of_getLsbD_eq
    intro d hd
    rw [BitVec.getLsbD_and, getLsbD_one_shiftLeft hd, BitVec.getLsbD_zero]
    by_cases hdk : d = k
    · rw [hdk, h, Bool.false_and]
    · rw [decide_eq_false hdk, Bool.and_false]

lemma getLsbD_advance {k d : ℕ} (hk : 0 < k) (hd : d < w) :
    (advance bits k).getLsbD d =
      (decide (d + 1 = k) || (decide (k ≤ d) && bits.getLsbD (d - k))) := by
  unfold advance
  by_cases hbig : w < k
  · simp [hbig, show d + 1 ≠ k by omega, show ¬ k ≤ d by omega]
  · by_cases heq : k = w
    · subst heq
      rw [if_neg (lt_irrefl k), if_pos rfl, getLsbD_one_shiftLeft hd]
      simp [show ¬ k ≤ d by omega, show d = k - 1 ↔ d + 1 = k by omega]
    · rw [if_neg hbig, if_neg heq, BitVec.getLsbD_or, getLsbD_one_shiftLeft hd,
        BitVec.getLsbD_shiftLeft]
      by_cases hge : k ≤ d
      · simp [hd, hge, show ¬ d < k by omega, show d ≠ k - 1 by omega,
          show d + 1 ≠ k by omega]
      · simp [hge, show d < k by omega, show d = k - 1 ↔ d + 1 = k by omega]

lemma represents_start : Represents c (0#w) {c} where
  high_mem := rfl
  le_high := by rintro h rfl; exact le_refl _
  bit := by
    intro d _
    simp only [BitVec.getLsbD_zero, Bool.false_eq_true, false_iff, Set.mem_singleton_iff]
    omega

lemma Represents.advance (hR : Represents high bits H) (hc : high < c) :
    Represents c (SlidingWindow.advance bits (c - high)) (insert c H) where
  high_mem := Set.mem_insert c H
  le_high := by
    intro h hh
    rcases Set.mem_insert_iff.1 hh with rfl | hh
    · exact le_refl _
    · exact (lt_of_le_of_lt (hR.le_high h hh) hc).le
  bit := by
    intro d hd
    have hne : d + 1 ≤ c → c - (d + 1) ≠ c := by omega
    rw [getLsbD_advance (by omega) hd]
    by_cases hold : d + 1 = c - high
    · -- the position the old mark has moved to
      have hmem : c - (d + 1) ∈ H := by
        rw [show c - (d + 1) = high by omega]
        exact hR.high_mem
      simp only [hold, decide_true, Bool.true_or, true_iff]
      exact ⟨by omega, Set.mem_insert_of_mem c (hold ▸ hmem)⟩
    · by_cases hge : c - high ≤ d
      · have hbit := hR.bit (d - (c - high)) (by omega)
        rw [show high - (d - (c - high) + 1) = c - (d + 1) by omega] at hbit
        simp only [hold, decide_false, hge, decide_true, Bool.true_and, Bool.false_or, hbit]
        constructor
        · rintro ⟨h1, h2⟩
          exact ⟨by omega, Set.mem_insert_of_mem c h2⟩
        · rintro ⟨h1, h2⟩
          have := (Set.mem_insert_iff.1 h2).resolve_left (hne h1)
          exact ⟨by omega, this⟩
      · -- between the old mark and the new one nothing was accepted
        simp only [hold, hge, decide_false, Bool.false_and, Bool.or_false, Bool.false_eq_true,
          false_iff]
        rintro ⟨h1, h2⟩
        have := hR.le_high _ ((Set.mem_insert_iff.1 h2).resolve_left (hne h1))
        omega

lemma Represents.mark (hR : Represents high bits H) (hlt : c < high) (hle : high ≤ c + w) :
    Represents high (bits ||| (1#w <<< (high - c - 1))) (insert c H) where
  high_mem := Set.mem_insert_of_mem c hR.high_mem
  le_high := by
    intro h hh
    rcases Set.mem_insert_iff.1 hh with rfl | hh
    · exact hlt.le
    · exact hR.le_high h hh
  bit := by
    intro d hd
    rw [BitVec.getLsbD_or, getLsbD_one_shiftLeft hd, Bool.or_eq_true, hR.bit d hd,
      decide_eq_true_iff, Set.mem_insert_iff]
    constructor
    · rintro (⟨h1, h2⟩ | rfl)
      · exact ⟨h1, .inr h2⟩
      · exact ⟨by omega, .inl (by omega)⟩
    · rintro ⟨h1, h2 | h2⟩
      · exact .inr (by omega)
      · exact .inl ⟨h1, h2⟩

lemma Represents.not_admits_mono {H' : Set ℕ} (hR : Represents high bits H) (hsub : H ⊆ H')
    (h : ¬ Admits w H c) : ¬ Admits w H' c := by
  rintro ⟨hnew, hpos⟩
  refine h ⟨fun hmem => hnew (hsub hmem), ?_⟩
  rcases hpos with hall | ⟨m, -, hmax, hle⟩
  · exact .inl fun x hx => hall x (hsub hx)
  · exact .inr ⟨high, hR.high_mem, hR.le_high, le_trans (hmax high (hsub hR.high_mem)) hle⟩

/-! ## One counter

What a window remembers of a single counter.  A window that was restored with every bit set
represents no set of counters when its mark is low, but it covers all of them. -/

def Covers (high : ℕ) (bits : BitVec w) (c : ℕ) : Prop :=
  c ≤ high ∧ (c < high → high ≤ c + w → bits.getLsbD (high - c - 1))

lemma covers_high (high : ℕ) (bits : BitVec w) : Covers high bits high :=
  ⟨le_refl high, fun hlt => absurd hlt (lt_irrefl high)⟩

lemma covers_allOnes (hc : c ≤ high) : Covers high (BitVec.allOnes w) c := by
  refine ⟨hc, fun hlt hin => ?_⟩
  rw [BitVec.getLsbD_allOnes]
  exact decide_eq_true (by omega)

lemma Covers.advance {c' : ℕ} (h : Covers high bits c) (hlt : high < c') :
    Covers c' (SlidingWindow.advance bits (c' - high)) c := by
  obtain ⟨hle, hbit⟩ := h
  refine ⟨by omega, fun _ hin => ?_⟩
  rw [getLsbD_advance (by omega) (by omega)]
  by_cases hold : c = high
  · rw [decide_eq_true (by omega), Bool.true_or]
  · rw [decide_eq_true (by omega : c' - high ≤ c' - c - 1), Bool.true_and,
      show c' - c - 1 - (c' - high) = high - c - 1 by omega, hbit (by omega) (by omega),
      Bool.or_true]

lemma Covers.mark (h : Covers high bits c) (k : ℕ) : Covers high (bits ||| (1#w <<< k)) c := by
  refine ⟨h.1, fun hlt hin => ?_⟩
  rw [BitVec.getLsbD_or, h.2 hlt hin, Bool.true_or]

lemma covers_mark (hlt : c < high) (hin : high ≤ c + w) :
    Covers high (bits ||| (1#w <<< (high - c - 1))) c := by
  refine ⟨hlt.le, fun _ _ => ?_⟩
  rw [BitVec.getLsbD_or, getLsbD_one_shiftLeft (by omega), decide_eq_true rfl, Bool.or_true]

end BrambleMesh.SlidingWindow
