/-
Token buckets refilled in proportion to elapsed time, in whole tokens; what is left over is
carried to the next refill. `Covered` is the ledger behind the upper bound on what is spent,
`Funds` the lower bound on what is held.
-/
import Mathlib

namespace BrambleMesh.TokenBucket

structure Bucket where
  capacity : ℕ
  level : ℕ
  carry : ℕ
deriving DecidableEq, Repr

def Bucket.refill (H : ℕ) (b : Bucket) (elapsed : ℕ) : Bucket :=
  ⟨b.capacity,
    if 0 < (b.carry + b.capacity * elapsed) / H then
      (if b.capacity ≤ b.level + (b.carry + b.capacity * elapsed) / H then b.capacity
        else b.level + (b.carry + b.capacity * elapsed) / H)
    else b.level,
    (b.carry + b.capacity * elapsed) % H⟩

structure Bucket.Sound (H : ℕ) (b : Bucket) : Prop where
  level_le : b.level ≤ b.capacity
  carry_lt : b.carry < H

section

variable {H m d spent : ℕ} {b : Bucket}

lemma Bucket.Sound.refill (hH : 0 < H) (hb : b.Sound H) (elapsed : ℕ) :
    (b.refill H elapsed).Sound H := by
  refine ⟨?_, Nat.mod_lt _ hH⟩
  have hlevel := hb.level_le
  simp only [Bucket.refill]
  split_ifs <;> omega

lemma Bucket.Sound.level_le_refill (hb : b.Sound H) (elapsed : ℕ) :
    b.level ≤ (b.refill H elapsed).level := by
  have hlevel := hb.level_le
  simp only [Bucket.refill]
  split_ifs <;> omega

lemma refill_zero (hb : b.Sound H) : b.refill H 0 = b := by
  have hdiv : b.carry / H = 0 := Nat.div_eq_of_lt hb.carry_lt
  simp [Bucket.refill, hdiv, Nat.mod_eq_of_lt hb.carry_lt]

/-! ## The ledger of a window -/

structure Covered (H m d spent : ℕ) (b : Bucket) : Prop where
  capacity_le : b.capacity ≤ m
  paid : (spent + b.level) * H + b.carry < (m + 1) * H + m * d

lemma Bucket.Sound.covered (hb : b.Sound H) : Covered H b.capacity 0 0 b := by
  refine ⟨le_rfl, ?_⟩
  have hlevel : b.level * H ≤ b.capacity * H := Nat.mul_le_mul_right H hb.level_le
  have hcarry := hb.carry_lt
  rw [Nat.zero_add, Nat.mul_zero, Nat.add_zero, Nat.add_mul, Nat.one_mul]
  omega

lemma Covered.mono {d' : ℕ} (h : Covered H m d spent b) (hd : d ≤ d') :
    Covered H m d' spent b := by
  have hmd : m * d ≤ m * d' := Nat.mul_le_mul_left m hd
  exact ⟨h.capacity_le, lt_of_lt_of_le h.paid (by omega)⟩

lemma Covered.refill (h : Covered H m d spent b) (elapsed : ℕ) :
    Covered H m (d + elapsed) spent (b.refill H elapsed) := by
  refine ⟨h.capacity_le, ?_⟩
  have hearned : (b.refill H elapsed).level ≤ b.level + (b.carry + b.capacity * elapsed) / H := by
    simp only [Bucket.refill]
    generalize (b.carry + b.capacity * elapsed) / H = earned
    split_ifs <;> omega
  have hcarry : (b.refill H elapsed).carry = (b.carry + b.capacity * elapsed) % H := rfl
  generalize hnumer : b.carry + b.capacity * elapsed = numer at hearned hcarry
  have hlevel : (spent + (b.refill H elapsed).level) * H ≤ (spent + b.level + numer / H) * H :=
    Nat.mul_le_mul_right H (by rw [Nat.add_assoc]; exact Nat.add_le_add_left hearned spent)
  have hdiv : numer / H * H + numer % H = numer := Nat.div_add_mod' numer H
  have hearn : b.capacity * elapsed ≤ m * elapsed := Nat.mul_le_mul_right elapsed h.capacity_le
  have hpaid := h.paid
  calc (spent + (b.refill H elapsed).level) * H + (b.refill H elapsed).carry
      ≤ (spent + b.level + numer / H) * H + numer % H := by
        rw [hcarry]
        exact Nat.add_le_add_right hlevel _
    _ = (spent + b.level) * H + numer := by rw [Nat.add_mul, Nat.add_assoc, hdiv]
    _ < (m + 1) * H + m * (d + elapsed) := by rw [← hnumer, Nat.mul_add]; omega

lemma Covered.spend {c : ℕ} (h : Covered H m d spent b) (hc : c ≤ b.level) :
    Covered H m d (spent + c) ⟨b.capacity, b.level - c, b.carry⟩ := by
  refine ⟨h.capacity_le, ?_⟩
  have heq : spent + c + (b.level - c) = spent + b.level := by omega
  rw [heq]
  exact h.paid

lemma Covered.replace {c : ℕ} (h : Covered H m d spent b) (hb : b.Sound H)
    (hc : c ≤ b.level) : Covered H m d spent ⟨c, c, 0⟩ := by
  refine ⟨le_trans hc (le_trans hb.level_le h.capacity_le), ?_⟩
  have hlevel : (spent + c) * H ≤ (spent + b.level) * H :=
    Nat.mul_le_mul_right H (by omega)
  have hpaid := h.paid
  change (spent + c) * H + 0 < _
  omega

/-- **The window bound.**  Over at most one interval a covered bucket gave out at most
twice its capacity. -/
theorem Covered.spent_le (h : Covered H m d spent b) (hd : d ≤ H) : spent ≤ 2 * m := by
  have hmd : m * d ≤ m * H := Nat.mul_le_mul_left m hd
  have hlt : (spent + b.level) * H < (2 * m + 1) * H := by
    have hpaid := h.paid
    have hsplit : (2 * m + 1) * H = (m + 1) * H + m * H := by ring
    omega
  have := Nat.lt_of_mul_lt_mul_right hlt
  omega

/-! ## What a bucket has earned -/

def Funds (H c d : ℕ) (b : Bucket) : Prop :=
  c ≤ b.level ∨ b.capacity * d ≤ b.level * H + b.carry

lemma Funds.refill {c : ℕ} (h : Funds H c d b) (hc : c ≤ b.capacity) (elapsed : ℕ) :
    Funds H c (d + elapsed) (b.refill H elapsed) := by
  have hdiv := Nat.div_add_mod' (b.carry + b.capacity * elapsed) H
  unfold Funds Bucket.refill
  dsimp only
  generalize hearned : (b.carry + b.capacity * elapsed) / H = earned at hdiv ⊢
  split_ifs with hpos hfull
  · exact Or.inl hc
  · rcases h with h | h
    · exact Or.inl (by omega)
    · right
      rw [Nat.mul_add, Nat.add_mul]
      omega
  · rcases h with h | h
    · exact Or.inl h
    · right
      obtain rfl : earned = 0 := by omega
      rw [Nat.mul_add]
      omega

lemma Funds.le_level {c : ℕ} (h : Funds H c d b) (hb : b.Sound H)
    (hd : c * H ≤ b.capacity * d) : c ≤ b.level := by
  rcases h with h | h
  · exact h
  · have hcarry := hb.carry_lt
    have hlt : c * H < (b.level + 1) * H := by
      rw [Nat.add_mul, Nat.one_mul]
      omega
    exact Nat.le_of_lt_succ (Nat.lt_of_mul_lt_mul_right hlt)

end

end BrambleMesh.TokenBucket
